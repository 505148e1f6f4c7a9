import SymbolDocs.Config
import SymbolDocs.Record.Basic

namespace SymbolDocs

/-- One entry of a documentation inventory. -/
structure InventoryItem where
  name : Text
  domainRole : Text
  priority : Int
  uri : Text
  displayName : Text
  deriving DecidableEq, Repr, Inhabited

namespace InventoryItem

open Text

def domain (item : InventoryItem) : Text := firstPart ':' item.domainRole

/-- What stands behind the colon; without one the domain and the role are the same. -/
def role (item : InventoryItem) : Text :=
  ((cut? ':' item.domainRole).map (·.2)).getD item.domainRole

def isPython (item : InventoryItem) : Bool := item.domain == "py"

/-- A trailing dollar sign stands for the name. -/
def fullUri (item : InventoryItem) : Text :=
  match before? "$" item.uri with
  | some start => start ++ item.name
  | none => item.uri

def url (item : InventoryItem) (base : Text) : Text := urlBelow base item.fullUri

/-- A display name of `-` means the name. -/
def title (item : InventoryItem) : Text :=
  if item.displayName.isEmpty || item.displayName == "-" then item.name else item.displayName

/-- Kinds whose word differs from the role. -/
def kindTable : List (String × String × String) :=
  [("py", "classmethod", "method"), ("py", "staticmethod", "method"), ("std", "label", "section"),
   ("std", "doc", "page")]

def kind (item : InventoryItem) : Text :=
  match kindTable.find? fun (d, r, _) => (d : Text) == item.domain && (r : Text) == item.role with
  | some (_, _, k) => k
  | none => item.role

def placeholderLead : Text := "Reference documentation for "

/-- What stands in for a summary until the page has been read. -/
def placeholder (item : InventoryItem) : Text :=
  placeholderLead ++ item.kind ++ (" `" : Text) ++ item.title ++ ("`." : Text)

def record (base : Text) (item : InventoryItem) : Record :=
  { Record.titled item.title .sphinx with
    kind := some item.kind
    url := some (item.url base)
    summary := some item.placeholder }

end InventoryItem

def isStandInSummary (summary : Text) : Bool :=
  summary.startsWith InventoryItem.placeholderLead

end SymbolDocs

namespace SymbolDocs.InventoryItem

open Text

/-- A colon with something on both sides of the first one. -/
def isDomainRole (token : Text) : Bool :=
  match cut? ':' token with
  | some (domain, role) => !domain.isEmpty && !role.isEmpty
  | none => false

def leastPriority : Int := -0x80000000

def greatestPriority : Int := 0x7FFFFFFF

def digits? (s : Text) : Option Nat :=
  if !s.isEmpty && s.all Char.isDigit then
    some (s.foldl (fun n c => n * 10 + (c.toNat - '0'.toNat)) 0)
  else none

/-- An integer of 32 bits, perhaps with a sign. -/
def priority? (token : Text) : Option Int := do
  let i : Int ← match token with
    | '-' :: ds => (digits? ds).map fun n => -(n : Int)
    | '+' :: ds => (digits? ds).map fun n => (n : Int)
    | ds => (digits? ds).map fun n => (n : Int)
  if leastPriority ≤ i ∧ i ≤ greatestPriority then some i else none

def isPriority (token : Text) : Bool := (priority? token).isSome

/-- Tokens on either side of the first domain and role that a priority follows. The first token is
part of the name, whatever it looks like. -/
def roleColumnFrom? (column : Nat) : List Text → Option Nat
  | token :: next :: rest =>
    if isDomainRole token && isPriority next then some column
    else roleColumnFrom? (column + 1) (next :: rest)
  | _ => none

def roleColumn? (tokens : List Text) : Option Nat := roleColumnFrom? 1 (tokens.drop 1)

/-- The item of a line `name domain:role priority uri display`, in which the name and the display
name may be several words. Without a role in sight the second word is taken for it. -/
def ofLine? (line : Text) : Option InventoryItem :=
  let trimmed := trim line
  let tokens := words trimmed
  if trimmed.startsWith "#" || tokens.length < 4 then none
  else
    let column := (roleColumn? tokens).getD 1
    match tokens.drop column with
    | domainRole :: priority :: uri :: display =>
      some {
        name := joinWith " " (tokens.take column)
        domainRole
        priority := (priority? priority).getD 0
        uri
        displayName := if display.isEmpty then "-" else joinWith " " display }
    | _ => none

/-- The items of an inventory's body, line by line; blank lines, comments and malformed lines have
none. -/
def ofBody (body : Text) : List InventoryItem := (lines body).filterMap ofLine?

/-- The line that an item is written on. -/
def line (item : InventoryItem) : Text :=
  joinWith " " [item.name, item.domainRole,
    (if item.priority < 0 then ['-'] else []) ++ Text.ofNat item.priority.natAbs, item.uri,
    item.displayName]

end SymbolDocs.InventoryItem
