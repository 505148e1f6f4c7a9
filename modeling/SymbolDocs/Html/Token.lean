import SymbolDocs.Text.Basic

namespace SymbolDocs.Html

/-- Attributes in the order they are written, the first of each name. -/
abbrev Attributes := List (String × Text)

/-- What a run of characters is made of. -/
inductive CharKind where
  | space
  | nul
  | other
  deriving DecidableEq, Repr

structure Tag where
  name : String
  attributes : Attributes := []
  selfClosing : Bool := false
  deriving DecidableEq, Repr, Inhabited

inductive Token where
  | doctype (asksOldLayout : Bool)
  | startTag (tag : Tag)
  | endTag (name : String)
  | comment (text : Text)
  | characters (kind : CharKind) (text : Text)
  | eof
  deriving DecidableEq, Repr, Inhabited

/-- How text is read: with tags in it, up to the end tag of an element, or to the end. -/
inductive TextMode where
  | data
  /-- Text with character references, up to an end tag. -/
  | rcdata
  | rawtext
  | script
  | plaintext
  deriving DecidableEq, Repr

def isSpaceChar (c : Char) : Bool :=
  c == ' ' || c == '\n' || c == '\t' || c == '\r' || c == '\x0c'

def kindOf (c : Char) : CharKind :=
  if c = '\x00' then .nul else if isSpaceChar c then .space else .other

/-- A text cut into runs of one kind. -/
def runsOf (s : Text) : List (CharKind × Text) :=
  s.foldr (fun c runs =>
    match runs with
    | (kind, run) :: more =>
      if kind = kindOf c then (kind, c :: run) :: more else (kindOf c, [c]) :: runs
    | [] => [(kindOf c, [c])]) []

def characterTokens (s : Text) : List Token :=
  (runsOf s).map fun (kind, run) => .characters kind run

end SymbolDocs.Html

namespace SymbolDocs.Html.Doctype

open Text

/-- Titles of document types that ask for the layout of old browsers. -/
def oldTitles : List String :=
  ["html 2", "html 3", "html level ", "html strict", "html//", "html extended ",
   "html experimental ", "html pro ", "html 4.0 frameset//", "html 4.0 transitional//",
   "strict html//", "w3 html"]

/-- Titles that ask for it only without the address of the type. -/
def olderTitles : List String := ["html 4.01 frameset//", "html 4.01 transitional//"]

def hasTitle (titles : List String) (publicId : Text) : Bool :=
  match cutAt? "//dtd " (asciiLower publicId) with
  | some (_, title) => titles.any (Text.startsWith title ·)
  | none => false

def isOldPublicId (publicId : Text) (systemId : Option Text) : Bool :=
  hasTitle oldTitles publicId || eqIgnoreCase publicId "html" ||
    (systemId.isNone && hasTitle olderTitles publicId)

def dropSpaces (s : Text) : Text := s.dropWhile isSpaceChar

/-- A quoted identifier and what follows it. -/
def quoted? (s : Text) : Option (Text × Text) :=
  match s with
  | c :: rest => if c = '"' ∨ c = '\'' then cut? c rest else none
  | [] => none

def afterKeyword? (keyword : Text) (s : Text) : Option Text :=
  if eqIgnoreCase (s.take keyword.length) keyword then some (dropSpaces (s.drop keyword.length))
  else none

/-- Whether identifiers behind a name ask for old layout; malformed ones do. -/
def tailAsksOldLayout (s : Text) : Bool :=
  if s.isEmpty then false
  else match afterKeyword? "public" s, afterKeyword? "system" s with
    | some rest, _ =>
      match quoted? rest with
      | none => true
      | some (publicId, rest) =>
        let rest := dropSpaces rest
        if rest.isEmpty then isOldPublicId publicId none
        else match quoted? rest with
          | none => true
          | some (systemId, _) => isOldPublicId publicId (some systemId)
    | none, some rest => (quoted? rest).isNone
    | none, none => true

/-- Whether the text between `<!doctype` and `>` asks for old layout. -/
def asksOldLayout (s : Text) : Bool :=
  let (name, rest) := (dropSpaces s).span (!isSpaceChar ·)
  !eqIgnoreCase name "html" || tailAsksOldLayout (dropSpaces rest)

end SymbolDocs.Html.Doctype
