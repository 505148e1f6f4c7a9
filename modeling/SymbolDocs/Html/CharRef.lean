import SymbolDocs.Html.EntityTable
import SymbolDocs.Text.Basic

namespace SymbolDocs.Html

open Text

def decimalNumber (s : Text) : Nat := s.foldl (fun n c => n * 10 + (c.toNat - '0'.toNat)) 0

def entityPairs : List Text → List (Text × Text)
  | name :: codes :: rest =>
    (name, (splitOn '+' codes).map fun code => Char.ofNat (hexNumber code)) :: entityPairs rest
  | _ => []

/-- Named characters. -/
def entities : List (Text × Text) := entityPairs (words entityTable)

/-- The longest name at the start of a text, what it stands for, and the rest. -/
def namedReference? (s : Text) : Option (Text × Text × Text) :=
  entities.foldl (fun best (name, meaning) =>
    match best with
    | some (longest, _, _) =>
      if longest.length < name.length then
        ((after? name s).map fun rest => (name, meaning, rest)).or best
      else best
    | none => (after? name s).map fun rest => (name, meaning, rest)) none

/-- What the references 128 to 159 stand for; a gap stands for itself. -/
def controlTable : List Nat :=
  [0x20AC, 0x81, 0x201A, 0x192, 0x201E, 0x2026, 0x2020, 0x2021, 0x2C6, 0x2030, 0x160, 0x2039,
   0x152, 0x8D, 0x17D, 0x8F, 0x90, 0x2018, 0x2019, 0x201C, 0x201D, 0x2022, 0x2013, 0x2014, 0x2DC,
   0x2122, 0x161, 0x203A, 0x153, 0x9D, 0x17E, 0x178]

/-- The character of a number. -/
def numberedChar (n : Nat) : Char :=
  if n = 0 ∨ 0x10FFFF < n ∨ (0xD800 ≤ n ∧ n ≤ 0xDFFF) then '\ufffd'
  else if 0x80 ≤ n ∧ n < 0xA0 then Char.ofNat ((controlTable[n - 0x80]?).getD n)
  else Char.ofNat n

def skipSemicolon (s : Text) : Text := (after? [';'] s).getD s

/-- The characters that a reference stands for, and the rest; the ampersand is left out of what is
given. Without a reference the ampersand stands for itself. -/
def characterReference (inAttribute : Bool) (s : Text) : Text × Text :=
  match s with
  | '#' :: x :: rest =>
    if x = 'x' ∨ x = 'X' then
      match rest.span fun c => (hexValue? c).isSome with
      | ([], _) => (['&'], s)
      | (digits, rest) => ([numberedChar (hexNumber digits)], skipSemicolon rest)
    else
      match (x :: rest).span Char.isDigit with
      | ([], _) => (['&'], s)
      | (digits, rest) => ([numberedChar (decimalNumber digits)], skipSemicolon rest)
  | _ =>
    match namedReference? s with
    | none => (['&'], s)
    | some (name, meaning, rest) =>
      let goesOn := rest.head?.any fun c => c == '=' || c.isAlphanum
      if inAttribute && name.getLast? != some ';' && goesOn then (['&'], s) else (meaning, rest)

/-- The text with its references replaced, at most `fuel` of them. -/
def expandReferencesFrom (inAttribute : Bool) : Nat → Text → Text
  | 0, s => s
  | fuel + 1, s =>
    match s.span (· != '&') with
    | (before, '&' :: rest) =>
      let (chars, rest) := characterReference inAttribute rest
      before ++ chars ++ expandReferencesFrom inAttribute fuel rest
    | (before, _) => before

def expandReferences (inAttribute : Bool) (s : Text) : Text :=
  expandReferencesFrom inAttribute (s.length + 1) s

end SymbolDocs.Html
