import SymbolDocs.Json.Basic
import SymbolDocs.Limits
import SymbolDocs.Text.Utf8

namespace SymbolDocs.Json

def isSpaceChar (c : Char) : Bool := c == ' ' || c == '\n' || c == '\t' || c == '\r'

def skipSpace (s : Text) : Text := s.dropWhile isSpaceChar

def digitValue (c : Char) : Nat := c.toNat - '0'.toNat

/-- Value of a hexadecimal digit of either case. -/
def hexValue? (c : Char) : Option Nat :=
  if c.isDigit then some (c.toNat - 48)
  else if 'a' ≤ c ∧ c ≤ 'f' then some (c.toNat - 87)
  else if 'A' ≤ c ∧ c ≤ 'F' then some (c.toNat - 55)
  else none

/-- The code unit spelt by four hexadecimal digits. -/
def unit? (a b c d : Char) : Option Nat := do
  let high := (← hexValue? a) * 16 + (← hexValue? b)
  let low := (← hexValue? c) * 16 + (← hexValue? d)
  return high * 256 + low

/-- The character that a one-letter escape stands for. -/
def escaped? (c : Char) : Option Char :=
  match c with
  | '"' => some '"'
  | '\\' => some '\\'
  | '/' => some '/'
  | 'b' => some '\x08'
  | 'f' => some '\x0c'
  | 'n' => some '\n'
  | 'r' => some '\r'
  | 't' => some '\t'
  | _ => none

/-- The text spelt by code units: two halves of a surrogate pair make one character, a half that
stands alone makes the text void. -/
def joinUnits : List Nat → Option Text
  | [] => some []
  | u :: v :: us =>
    if 0xD800 ≤ u ∧ u < 0xDC00 ∧ 0xDC00 ≤ v ∧ v < 0xE000 then
      (joinUnits us).map (Char.ofNat (0x10000 + (u - 0xD800) * 0x400 + (v - 0xDC00)) :: ·)
    else if 0xD800 ≤ u ∧ u < 0xE000 then none
    else (joinUnits (v :: us)).map (Char.ofNat u :: ·)
  | [u] => if 0xD800 ≤ u ∧ u < 0xE000 then none else some [Char.ofNat u]

/-- What follows an opening quote: the units up to the closing quote and the rest. -/
def stringTail : Text → Option (List Nat × Text)
  | [] => none
  | '"' :: rest => some ([], rest)
  | '\\' :: 'u' :: a :: b :: c :: d :: rest => do
    let u ← unit? a b c d
    let (us, rest) ← stringTail rest
    return (u :: us, rest)
  | '\\' :: c :: rest => do
    let e ← escaped? c
    let (us, rest) ← stringTail rest
    return (e.toNat :: us, rest)
  | c :: rest =>
    if c.toNat < 0x20 ∨ c = '\\' then none
    else (stringTail rest).map fun (us, rest) => (c.toNat :: us, rest)

def digitsValue (ds : Text) : Nat := ds.foldl (fun n c => n * 10 + digitValue c) 0

/-- A number literal in parts. -/
structure Literal where
  negative : Bool
  whole : Text
  fraction : Option Text
  /-- Sign and digits of the exponent. -/
  power : Option (Bool × Text)

/-- The exponent of a literal, if one follows: none when its digits are missing. -/
def readPower (s : Text) : Option (Option (Bool × Text) × Text) :=
  match s with
  | c :: rest =>
    if c = 'e' ∨ c = 'E' then
      let (negative, rest) := match rest with
        | '-' :: r => (true, r)
        | '+' :: r => (false, r)
        | r => (false, r)
      match rest.span Char.isDigit with
      | ([], _) => none
      | (ds, rest) => some (some (negative, ds), rest)
    else some (none, s)
  | [] => some (none, s)

/-- The longest literal at the start of the text; no digit follows a leading zero. -/
def readLiteral (s : Text) : Option (Literal × Text) := do
  let (negative, s) := match s with
    | '-' :: r => (true, r)
    | r => (false, r)
  let (whole, s) := s.span Char.isDigit
  match whole with
  | [] => none
  | '0' :: _ :: _ => none
  | _ =>
    let (fraction, s) ← match s with
      | '.' :: r =>
        match r.span Char.isDigit with
        | ([], _) => none
        | (ds, r) => some (some ds, r)
      | r => some (none, r)
    let (power, s) ← readPower s
    return (⟨negative, whole, fraction, power⟩, s)

def zeroOf (negative : Bool) : Binary64 := { Binary64.zero with negative }

/-- Divides by a power of ten in steps of at most 308, as far as the number stays above zero. -/
def shrink : Nat → Binary64 → Nat → Option Binary64
  | 0, x, _ => some x
  | fuel + 1, x, k =>
    if k ≤ 308 then (Binary64.pow10? k).bind x.div?
    else if x.isZero then some x
    else ((Binary64.pow10? 308).bind x.div?).bind fun y => shrink fuel y (k - 308)

/-- `significand · 10 ^ power`, rounded once for the significand and once for each scaling. -/
def scaleByTen (negative : Bool) (significand : Nat) (power : Int) : Option Binary64 := do
  let x ← Binary64.ofRatio? negative significand 1
  if power < 0 then shrink (power.natAbs / 308 + 1) x power.natAbs
  else if power ≤ 308 then (Binary64.pow10? power.toNat).bind x.mul?
  else if x.isZero then some x
  else none

/-- Digits taken while the number they spell stays below 2^64, the number, and the digits left. -/
def leadingDigits (n : Nat) : Text → Nat × Text
  | [] => (n, [])
  | c :: ds =>
    let n' := n * 10 + digitValue c
    if Limits.word < n' then (n, c :: ds) else leadingDigits n' ds

def greatestPower : Nat := 0x7FFFFFFF

def clampPower (p : Int) : Int := max (-0x80000000) (min p 0x7FFFFFFF)

/-- The number that a literal denotes; none when it is out of range. Digits beyond the first ones
that fit 64 bits only count by their place. -/
def Literal.value? (l : Literal) : Option Number :=
  let (n, dropped) := leadingDigits 0 l.whole
  if l.fraction.isNone ∧ l.power.isNone ∧ dropped.isEmpty then
    if !l.negative then some (.int n)
    else if n = 0 ∨ 0x8000000000000000 < n then (Binary64.ofRatio? true n 1).map .real
    else some (.int (-n))
  else
    let fraction := l.fraction.getD []
    let (m, unread) := leadingDigits n fraction
    let place : Int := (dropped.length : Int) - ((fraction.length - unread.length : Nat) : Int)
    match l.power with
    | none => (scaleByTen l.negative m place).map .real
    | some (down, ds) =>
      let p := digitsValue ds
      if greatestPower < p then
        if m = 0 ∨ down then some (.real (zeroOf l.negative)) else none
      else
        let power := if down then place - p else place + p
        (scaleByTen l.negative m (clampPower power)).map .real

mutual

/-- A value and the rest of the text. -/
def readValue : Nat → Text → Option (Json × Text)
  | 0, _ => none
  | fuel + 1, s =>
    match skipSpace s with
    | [] => none
    | 'n' :: 'u' :: 'l' :: 'l' :: rest => some (.null, rest)
    | 't' :: 'r' :: 'u' :: 'e' :: rest => some (.bool true, rest)
    | 'f' :: 'a' :: 'l' :: 's' :: 'e' :: rest => some (.bool false, rest)
    | '"' :: rest => (stringTail rest).map fun (us, rest) =>
        (((joinUnits us).map Json.string).getD .void, rest)
    | '[' :: rest =>
      match skipSpace rest with
      | ']' :: rest => some (.array [], rest)
      | rest => (readItems fuel rest).map fun (xs, rest) => (.array xs, rest)
    | '\x7b' :: rest =>
      match skipSpace rest with
      | '\x7d' :: rest => some (.object [], rest)
      | rest => (readFields fuel rest).map fun (fs, rest) =>
          ((fs.map Json.object).getD .void, rest)
    | s => (readLiteral s).map fun (l, rest) => ((l.value?.map Json.number).getD .void, rest)

/-- One or more items up to the closing bracket. -/
def readItems : Nat → Text → Option (List Json × Text)
  | 0, _ => none
  | fuel + 1, s => do
    let (x, s) ← readValue fuel s
    match skipSpace s with
    | ']' :: rest => some ([x], rest)
    | ',' :: rest =>
      let (xs, rest) ← readItems fuel rest
      return (x :: xs, rest)
    | _ => none

/-- One or more fields up to the closing brace; none for the fields when a name is void. -/
def readFields : Nat → Text → Option (Option (List (Text × Json)) × Text)
  | 0, _ => none
  | fuel + 1, s =>
    match skipSpace s with
    | '"' :: s => do
      let (us, s) ← stringTail s
      match skipSpace s with
      | ':' :: s =>
        let (v, s) ← readValue fuel s
        let here := (joinUnits us).map fun name => (name, v)
        match skipSpace s with
        | '\x7d' :: rest => some (here.map ([·]), rest)
        | ',' :: rest =>
          let (more, rest) ← readFields fuel rest
          return (here.bind fun f => more.map (f :: ·), rest)
        | _ => none
      | _ => none
    | _ => none

end

/-- The document that a text spells, white space around it aside. -/
def read (s : Text) : Option Json :=
  match readValue (2 * s.length + 1) s with
  | some (v, rest) => if (skipSpace rest).isEmpty then some v else none
  | none => none

/-- Two halves of surrogate pairs in the wrong order, which make a string void. -/
def voidMark : Text := "\\ud800\\ud800"

/-- The document that bytes spell. A string with bytes that are no text is void. -/
def readBytes (bytes : Bytes) : Option Json := read (Utf8.decodeMarking voidMark 0 bytes)

end SymbolDocs.Json
