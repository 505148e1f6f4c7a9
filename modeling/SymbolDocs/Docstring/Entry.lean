import SymbolDocs.Text.CharClass

namespace SymbolDocs.Entry

open Text

/-- ASCII letters and the underscore. -/
def startsName (c : Char) : Bool := c.isAlpha || c == '_'

/-- Up to two stars and what follows them. -/
def leadingStars (s : Text) : Text × Text :=
  match s with
  | '*' :: '*' :: rest => (['*', '*'], rest)
  | '*' :: rest => (['*'], rest)
  | rest => ([], rest)

/-- A name at the start of a text: up to two stars, a letter, and then as many characters of the
class as there are. -/
def name? (inName : Char → Bool) (s : Text) : Option (Text × Text) :=
  match leadingStars s with
  | (stars, c :: s) =>
    if startsName c then
      let (more, rest) := s.span inName
      some (stars ++ c :: more, rest)
    else none
  | (_, []) => none

/-- A lone name, perhaps with stars. -/
def isBareName (s : Text) : Bool :=
  match name? isWordChar s with
  | some (_, []) => true
  | _ => false

/-- One or more names and the text behind the first colon: `x, y : int`. -/
def namesAndType? (s : Text) : Option (Text × Text) := do
  let (names, type) ← cut? ':' s
  let names := trimEnd names
  match name? (fun c => isWordChar c || c == ',' || c == ' ' || c == '*') names with
  | some (_, []) => return (names, trim type)
  | _ => none

/-- A name, the text of the parentheses behind it if there are any, and the text behind the colon:
`x (int): first line`. -/
def nameTypeText? (s : Text) : Option (Text × Option Text × Text) := do
  let (name, rest) ← name? isWordChar s
  match trimStart rest with
  | '(' :: rest =>
    let (type, rest) ← cut? ')' rest
    match trimStart rest with
    | ':' :: text => return (name, some type, trimStart text)
    | _ => none
  | ':' :: text => return (name, none, trimStart text)
  | _ => none

/-- A dotted name and the text behind the colon: `pkg.Error: when`. -/
def dottedNameText? (s : Text) : Option (Text × Text) := do
  match s with
  | c :: rest =>
    if startsName c then
      let (more, rest) := rest.span fun c => isWordChar c || c == '.'
      match trimStart rest with
      | ':' :: text => return (c :: more, trimStart text)
      | _ => none
    else none
  | [] => none

/-- A field between colons, its argument and the text behind it: `:param int x: text`. -/
def field? (s : Text) : Option (Text × Option Text × Text) :=
  match s with
  | ':' :: rest => do
    let (field, rest) := rest.span Char.isAlpha
    let (gap, text) ← cut? ':' rest
    if field.isEmpty then none
    else match gap with
      | [] => return (field, none, trimStart text)
      | c :: more =>
        if !isBlankChar c then none
        -- a single space is no argument, but the last one of several is
        else if more.isEmpty then return (field, none, trimStart text)
        else return (field, some (trim more), trimStart text)
  | _ => none

end SymbolDocs.Entry
