namespace SymbolDocs

/-- Text is a list of Unicode scalar values; a string literal stands for its characters. -/
abbrev Text := List Char

instance : Coe String Text := ⟨String.toList⟩

namespace Text

/-- The Unicode property White_Space. -/
def isBlankChar (c : Char) : Bool :=
  let n := c.toNat
  (9 ≤ n && n ≤ 13) || n == 0x20 || n == 0x85 || n == 0xA0 || n == 0x1680 ||
    (0x2000 ≤ n && n ≤ 0x200A) || n == 0x2028 || n == 0x2029 || n == 0x202F || n == 0x205F ||
    n == 0x3000

def dropEndWhile (p : Char → Bool) (s : Text) : Text := (s.reverse.dropWhile p).reverse

def trimStart (s : Text) : Text := s.dropWhile isBlankChar

def trimEnd (s : Text) : Text := dropEndWhile isBlankChar s

def trim (s : Text) : Text := trimEnd (trimStart s)

def isBlank (s : Text) : Bool := s.all isBlankChar

/-- Trimmed text, when anything is left of it. -/
def nonBlank? (s : Text) : Option Text :=
  let t := trim s
  if t.isEmpty then none else some t

/-- The text itself unless it is empty. -/
def nonEmpty? (s : Text) : Option Text := if s.isEmpty then none else some s

/-- Length in bytes of UTF-8. -/
def byteLength (s : Text) : Nat := s.foldr (fun c n => c.utf8Size + n) 0

def asciiLower (s : Text) : Text := s.map Char.toLower

def eqIgnoreCase (a b : Text) : Bool := asciiLower a == asciiLower b

/-- Pieces between the characters that satisfy `p`; there is always at least one piece. -/
def splitWhen (p : Char → Bool) (s : Text) : List Text :=
  s.foldr (fun c pieces =>
    if p c then [] :: pieces
    else match pieces with
      | [] => [[c]]
      | piece :: more => (c :: piece) :: more) [[]]

def splitOn (sep : Char) (s : Text) : List Text := splitWhen (· == sep) s

/-- The words of a text: its maximal runs without white space. -/
def words (s : Text) : List Text := (splitWhen isBlankChar s).filter (!·.isEmpty)

def joinWith (sep : Text) (pieces : List Text) : Text := sep.intercalate pieces

/-- The parts around the first `sep`, if there is one. -/
def cut? (sep : Char) (s : Text) : Option (Text × Text) :=
  match s.span (· != sep) with
  | (_, []) => none
  | (before, _ :: after) => some (before, after)

/-- The parts around the last `sep`, if there is one. -/
def cutLast? (sep : Char) (s : Text) : Option (Text × Text) :=
  (cut? sep s.reverse).map fun (after, before) => (before.reverse, after.reverse)

/-- What stands before the first `sep`, or everything. -/
def firstPart (sep : Char) (s : Text) : Text := s.takeWhile (· != sep)

/-- What stands after the last `sep`, or everything. -/
def lastPart (sep : Char) (s : Text) : Text := (s.reverse.takeWhile (· != sep)).reverse

/-- What follows `lead` at the start of a list, if the list starts so. -/
def after? [DecidableEq α] : List α → List α → Option (List α)
  | [], s => some s
  | _ :: _, [] => none
  | l :: lead, c :: s => if l = c then after? lead s else none

/-- What precedes `tail` at the end of a list, if the list ends so. -/
def before? [DecidableEq α] (tail s : List α) : Option (List α) :=
  (after? tail.reverse s.reverse).map List.reverse

def startsWith (s lead : Text) : Bool := (after? lead s).isSome

def endsWith (s tail : Text) : Bool := (before? tail s).isSome

/-- The parts around the first occurrence of `needle`, if there is one. -/
def cutAt? [DecidableEq α] (needle : List α) : List α → Option (List α × List α)
  | [] => if needle.isEmpty then some ([], []) else none
  | c :: s =>
    match after? needle (c :: s) with
    | some rest => some ([], rest)
    | none => (cutAt? needle s).map fun (before, after) => (c :: before, after)

def occursIn (needle s : Text) : Bool := (cutAt? needle s).isSome

/-- A line feed ends a line; a carriage return right before it belongs to the ending. -/
def unixLines : Text → Text
  | '\r' :: '\n' :: s => '\n' :: unixLines s
  | c :: s => c :: unixLines s
  | [] => []

/-- The lines of a text; an ending at the very end opens no further line. -/
def lines (s : Text) : List Text :=
  let pieces := splitOn '\n' (unixLines s)
  if pieces.getLast? == some [] then pieces.dropLast else pieces

def expandTabs (s : Text) : Text :=
  s.flatMap fun c => if c = '\t' then [' ', ' ', ' ', ' '] else [c]

/-- Decimal digits of a natural number. -/
def ofNat (n : Nat) : Text := Nat.toDigits 10 n

def hexValue? (c : Char) : Option Nat :=
  if c.isDigit then some (c.toNat - 48)
  else if 'a' ≤ c.toLower ∧ c.toLower ≤ 'f' then some (c.toLower.toNat - 87)
  else none

/-- The number that hexadecimal digits spell; other characters count as zeros. -/
def hexNumber (s : Text) : Nat := s.foldl (fun n c => n * 16 + (hexValue? c).getD 0) 0

end Text
end SymbolDocs
