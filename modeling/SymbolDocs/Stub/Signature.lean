import SymbolDocs.Text.CharClass

namespace SymbolDocs.Signature

open Text

/-- Whether a trimmed line begins a definition, or decorates one. -/
def isDefinitionLine (line : Text) : Bool :=
  line.startsWith "def " || line.startsWith "async def " || line.startsWith "class " ||
    line.startsWith "@"

/-- Name of the class that a trimmed line begins. -/
def openedClass? (line : Text) : Option Text := do
  nonEmpty? ((← after? "class " line).takeWhile fun c => isAlphanumericChar c || c == '_')

/-- Name of the function that a trimmed line begins. -/
def openedFunction? (line : Text) : Option Text := do
  let rest ← (after? "async def " line).or (after? "def " line)
  nonEmpty? (trim (rest.takeWhile fun c => !(c == '(' || c == '[' || c == ':' || c == ' ')))

def openedName? (line : Text) : Option Text := (openedFunction? line).or (openedClass? line)

/-- A comment starts at two spaces and a hash sign. -/
def withoutComment (s : Text) : Text :=
  match cutAt? "  #" s with
  | some (code, _) => trimEnd code
  | none => trimEnd s

/-- Whether the code of a trimmed line ends the header of a definition. -/
def closesHeader (line : Text) : Bool :=
  let code := withoutComment line
  code.endsWith ":" || code.endsWith "..."

/-- Where a scan of a line stands: in code, in a string, or behind a backslash in a string. -/
inductive Quoting where
  | code
  | quoted (mark : Char)
  | escaped (mark : Char)
  deriving DecidableEq, Repr

def isOpening (c : Char) : Bool := c == '(' || c == '[' || c == '\x7b'

def isClosing (c : Char) : Bool := c == ')' || c == ']' || c == '\x7d'

def netBracketsFrom (depth : Int) : Quoting → Text → Int
  | _, [] => depth
  | .escaped q, _ :: s => netBracketsFrom depth (.quoted q) s
  | .quoted q, c :: s =>
    if c = '\\' then netBracketsFrom depth (.escaped q) s
    else if c = q then netBracketsFrom depth .code s
    else netBracketsFrom depth (.quoted q) s
  | .code, c :: s =>
    if c = '\'' ∨ c = '"' then netBracketsFrom depth (.quoted c) s
    else if c = '#' then depth
    else if isOpening c then netBracketsFrom (depth + 1) .code s
    else if isClosing c then netBracketsFrom (depth - 1) .code s
    else netBracketsFrom depth .code s

/-- By how much a line nests deeper, brackets in strings and comments aside. -/
def netBrackets (line : Text) : Int := netBracketsFrom 0 .code line

/-- The text without the ending, and without white space in front of it, if it ends so. -/
def dropEnding (ending s : Text) : Text := ((before? ending s).map trimEnd).getD s

/-- A header without its comment, its `...` body and the colon in front of that. -/
def clean (s : Text) : Text := dropEnding ":" (dropEnding "..." (withoutComment (trimEnd s)))

end SymbolDocs.Signature
