import SymbolDocs.Docstring.Entry
import SymbolDocs.Docstring.Prose

namespace SymbolDocs.Google

open Text Docstring

inductive Section where
  | args
  | returns
  | raises
  | examples
  | notes
  | ignored
  deriving DecidableEq, Repr

/-- Titles in lower case, without their colon. -/
def titles : List (String × Section) :=
  [("args", .args), ("arguments", .args), ("parameters", .args), ("params", .args),
   ("keyword args", .args), ("keyword arguments", .args), ("other parameters", .args),
   ("returns", .returns), ("return", .returns), ("yields", .returns), ("yield", .returns),
   ("raises", .raises), ("raise", .raises), ("except", .raises), ("exceptions", .raises),
   ("example", .examples), ("examples", .examples), ("note", .notes), ("notes", .notes),
   ("see also", .notes), ("warning", .notes), ("warnings", .notes), ("attributes", .ignored),
   ("methods", .ignored), ("todo", .ignored), ("references", .ignored)]

/-- A known title with a colon behind it. -/
def sectionOf? (line : Text) : Option Section := do
  let title := asciiLower (← before? ":" (trim line))
  (titles.find? fun (t, _) => (t : Text) == title).map (·.2)

def opensSection (lines : List Text) : Bool := lines.head?.any fun line => (sectionOf? line).isSome

/-- A header that is indented no deeper than `indent`. -/
def opensSectionWithin (indent : Nat) (lines : List Text) : Bool :=
  opensSection lines && lines.head?.any fun line => indentWidth line ≤ indent

/-- The sections with their titles and bodies. A header that is indented deeper than the one above
it belongs to the body. -/
def sections (lines : List Text) : List (Section × Text × List Text) :=
  match lines with
  | [] => []
  | line :: rest =>
    match sectionOf? line with
    | some s =>
      let split := spanUntil (opensSectionWithin (indentWidth line)) rest
      (s, dropEndWhile (· == ':') (trim line), split.1) :: sections split.2
    | none => sections rest
termination_by lines.length
decreasing_by
  · have := length_spanUntil_le (opensSectionWithin (indentWidth line)) rest
    simp only [List.length_cons]
    omega
  · simp

/-- Entries stand at the least indentation; a deeper line continues the last one, and so does a
line that is no entry. -/
def addArgLine (base : Nat) (doc : Docstring) (line : Text) : Docstring :=
  let text := trim line
  let entry := if indentWidth line ≤ base then Entry.nameTypeText? text else none
  match entry with
  | some (name, type, first) =>
    let p : Parameter := { name, type := type.bind nonBlank? }
    { doc with parameters := doc.parameters ++ [p.describe first] }
  | none => doc.describeLastParameter text

/-- What stands before the first colon when it looks like a type: no spaces in it except after
commas. -/
def typeAndText? (text : Text) : Option (Text × Text) := do
  let (head, tail) ← cut? ':' text
  let head := trim head
  let joined := tightenCommas head
  if head.isEmpty || joined.contains ' ' then none else some (head, trim tail)
where
  /-- Without the space behind each comma. -/
  tightenCommas : Text → Text
    | ',' :: ' ' :: s => ',' :: tightenCommas s
    | c :: s => c :: tightenCommas s
    | [] => []

/-- Only the first line may begin with a type. -/
def addReturns (returns : Returns) : List Text → Returns
  | [] => returns
  | first :: more =>
    let text := trim first
    let start : Returns :=
      match returns.type, typeAndText? text with
      | none, some (type, description) => { returns with type := some type }.describe description
      | _, _ => returns.describe text
    more.foldl Returns.describe start

def addRaisesLine (base : Nat) (doc : Docstring) (line : Text) : Docstring :=
  let text := trim line
  let entry := if indentWidth line ≤ base then Entry.dottedNameText? text else none
  match entry with
  | some (type, first) =>
    let r : Raise := { type }
    { doc with raises := doc.raises ++ [r.describe first] }
  | none => doc.describeLastRaise text

/-- Notes under another title than `Note` keep it. -/
def noteText (title text : Text) : Text :=
  if eqIgnoreCase title "note" || eqIgnoreCase title "notes" then text
  else title ++ ':' :: ' ' :: text

def addSection (doc : Docstring) : Section × Text × List Text → Docstring
  | (s, title, body) =>
    let lines := body.filter (!isBlank ·)
    match s with
    | .args => lines.foldl (addArgLine (margin body)) doc
    | .returns =>
      let returns := addReturns (doc.returns.getD {}) lines
      { doc with returns := if returns == {} then none else some returns }
    | .raises => lines.foldl (addRaisesLine (margin body)) doc
    | .examples => doc.addExample body
    | .notes =>
      (paragraphText? (body.map trim)).elim doc fun text => doc.addNote (noteText title text)
    | .ignored => doc

/-- A docstring whose sections are headed by titles with a colon. -/
def parse (lines : List Text) : Docstring :=
  let (doc, rest) := withProse opensSection lines
  (sections rest).foldl addSection doc

end SymbolDocs.Google
