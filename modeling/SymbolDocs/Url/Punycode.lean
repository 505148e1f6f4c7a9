import SymbolDocs.Text.Basic

namespace SymbolDocs.Url.Punycode

/-- A letter for the first 26 digits, a decimal digit for the last ten. -/
def digit (d : Nat) : Char := Char.ofNat (if d < 26 then d + 97 else d + 22)

/-- Least digit at a place of a delta. -/
def threshold (place bias : Nat) : Nat := max 1 (min 26 (place - bias))

def shrinkDelta (delta steps : Nat) : Nat × Nat :=
  if 455 < delta then shrinkDelta (delta / 35) (steps + 36) else (delta, steps)
termination_by delta

def nextBias (delta points : Nat) (isFirst : Bool) : Nat :=
  let delta := if isFirst then delta / 700 else delta / 2
  let (delta, steps) := shrinkDelta (delta + delta / points) 0
  steps + 36 * delta / (delta + 38)

/-- A delta in digits of growing weight. -/
def deltaDigits (bias q place : Nat) : Text :=
  let t := threshold place bias
  if q < t then [digit q]
  else digit (t + (q - t) % (36 - t)) :: deltaDigits bias ((q - t) / (36 - t)) (place + 36)
termination_by q
decreasing_by
  have h₁ : 1 ≤ threshold place bias := by unfold threshold; omega
  have h₂ : threshold place bias ≤ 26 := by unfold threshold; omega
  have := Nat.div_le_self (q - threshold place bias) (36 - threshold place bias)
  omega

structure Encoding where
  next : Nat := 128
  delta : Nat := 0
  bias : Nat := 72
  handled : Nat
  isFirst : Bool := true
  out : Text

/-- One character of the label while all places of the code point `point` are encoded. -/
def encodeAt (point : Nat) (e : Encoding) (c : Char) : Encoding :=
  if c.toNat < point then { e with delta := e.delta + 1 }
  else if c.toNat = point then
    { e with
      out := e.out ++ deltaDigits e.bias e.delta 36
      bias := nextBias e.delta (e.handled + 1) e.isFirst
      isFirst := false
      delta := 0
      handled := e.handled + 1 }
  else e

/-- All places of one code point; the points come in ascending order. -/
def encodePoint (label : Text) (e : Encoding) (point : Nat) : Encoding :=
  let e := { e with delta := e.delta + (point - e.next) * (e.handled + 1) }
  let e := label.foldl (encodeAt point) e
  { e with next := point + 1, delta := e.delta + 1 }

/-- A label that is not ASCII, spelt in ASCII: its ASCII characters, and digits for the places of
the others. -/
def encode (label : Text) : Text :=
  let basic := label.filter (·.toNat < 128)
  let points := ((label.map Char.toNat).filter (128 ≤ ·)).mergeSort.eraseDups
  let start : Encoding :=
    { handled := basic.length, out := if basic.isEmpty then [] else basic ++ ['-'] }
  (points.foldl (encodePoint label) start).out

def digit? (c : Char) : Option Nat :=
  if c.isAlpha then some (c.toLower.toNat - 97)
  else if c.isDigit then some (c.toNat - 22)
  else none

/-- The characters read so far and where the next one may go, together with the delta that is being
read: its value so far, and place and weight of its next digit. -/
structure Decoding where
  chars : Text
  point : Nat := 128
  index : Nat := 0
  bias : Nat := 72
  isFirst : Bool := true
  delta : Nat := 0
  place : Nat := 36
  weight : Nat := 1

/-- The delta counts places, first those from `index` on, then those of the points that follow. -/
def insertChar? (d : Decoding) (delta : Nat) : Option Decoding :=
  let places := d.chars.length + 1
  let point := d.point + (d.index + delta) / places
  let index := (d.index + delta) % places
  if point.isValidChar then
    some {
      chars := d.chars.take index ++ Char.ofNat point :: d.chars.drop index
      point
      index := index + 1
      bias := nextBias delta places d.isFirst
      isFirst := false }
  else none

/-- A delta is complete with its first digit below the threshold. No sum reaches 32 bits. -/
def readDigit? (d : Decoding) (c : Char) : Option Decoding := do
  let value ← digit? c
  let delta := d.delta + value * d.weight
  let t := threshold d.place d.bias
  if 0xFFFFFFFF < d.index + delta then none
  else if value < t then insertChar? d delta
  else
    let weight := d.weight * (36 - t)
    if 0xFFFFFFFF < weight then none else some { d with delta, weight, place := d.place + 36 }

/-- The label that a spelling stands for. -/
def decode? (spelling : Text) : Option Text := do
  let (basic, digits) ← match Text.cutLast? '-' spelling with
    | some ([], _) => none
    | some parts => some parts
    | none => some ([], spelling)
  let d ← digits.foldlM readDigit? { chars := basic }
  if basic.all (·.toNat < 128) && d.place == 36 && spelling.length ≤ 2000 then some d.chars
  else none

end SymbolDocs.Url.Punycode
