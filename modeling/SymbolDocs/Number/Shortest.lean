import SymbolDocs.Text.Basic
import SymbolDocs.Number.Binary64

namespace SymbolDocs.Binary64

/-- The reals that round to a positive number lie between `low` and `high`, in quarters of its last
place; `middle` is the number itself and the ends belong iff `closed`. -/
structure Neighbourhood where
  low : Nat
  middle : Nat
  high : Nat
  closed : Bool

def neighbourhood (x : Binary64) : Neighbourhood :=
  let m := x.significand
  let atBinade := m == leastNormal && leastExponent < x.exponent
  { low := if atBinade then 4 * m - 1 else 4 * m - 2
    middle := 4 * m
    high := 4 * m + 2
    closed := m % 2 == 0 }

/-- The positive number's decimal on the grid of multiples of `10 ^ p`, if one of the two nearest
multiples rounds back to it; of two such the nearer, and of two equally near the even one. -/
def onGrid? (x : Binary64) (p : Int) : Option Nat :=
  let nb := x.neighbourhood
  let q := x.exponent - 2
  -- `d · 10 ^ p` lies at `v · 2 ^ q` iff `d · a = v · b`
  let a := Nat.pow 10 p.toNat <<< (-q).toNat
  let b := Nat.pow 10 (-p).toNat <<< q.toNat
  let fits (d : Nat) : Bool :=
    0 < d && if nb.closed then nb.low * b ≤ d * a && d * a ≤ nb.high * b
      else nb.low * b < d * a && d * a < nb.high * b
  let below := nb.middle * b / a
  let above := below + 1
  match fits below, fits above with
  | true, true =>
    let down := nb.middle * b - below * a
    let up := above * a - nb.middle * b
    some (if down < up then below else if up < down then above
      else if below % 2 = 0 then below else above)
  | true, false => some below
  | false, true => some above
  | false, false => none

/-- Digits and exponent of the shortest decimal that reads back as the positive number, found on
the coarsest grid that has one. -/
def shortest (x : Binary64) : Nat × Int :=
  let top : Int := ((x.significand.log2 : Int) + 1 + x.exponent) * 30103 / 100000 + 1
  let grids := (List.range 20).map fun (i : Nat) => top - (i : Int)
  (grids.findSome? fun p => (x.onGrid? p).map (·, p)).getD (0, 0)

/-- Positional from `1e-5` up to below `1e16`, always with a point; otherwise one digit before the
point and an exponent without a plus sign. -/
def layout (digits : Text) (p : Int) : Text :=
  let count : Int := digits.length
  let point := count + p
  if 0 ≤ p ∧ point ≤ 16 then
    digits ++ List.replicate p.toNat '0' ++ ['.', '0']
  else if 0 < point ∧ point ≤ 16 then
    digits.take point.toNat ++ ['.'] ++ digits.drop point.toNat
  else if -5 < point ∧ point ≤ 0 then
    ['0', '.'] ++ List.replicate (-point).toNat '0' ++ digits
  else
    let mantissa := match digits with
      | [] => []
      | [d] => [d]
      | d :: more => d :: '.' :: more
    let e := point - 1
    mantissa ++ ['e'] ++ (if e < 0 then ['-'] else []) ++ Text.ofNat e.natAbs

/-- The shortest text that reads back as the number. -/
def toText (x : Binary64) : Text :=
  let magnitude :=
    if x.isZero then ['0', '.', '0']
    else
      let (d, p) := x.shortest
      layout (Text.ofNat d) p
  if x.negative then '-' :: magnitude else magnitude

end SymbolDocs.Binary64
