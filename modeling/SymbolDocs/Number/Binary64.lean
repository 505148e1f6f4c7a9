namespace SymbolDocs

/-- A finite binary floating-point number of 64 bits: `significand · 2 ^ exponent` with a sign.
Every number that `Binary64.ofRatio?` returns has at most 53 significant bits and an exponent of
at least -1074, and uses all 53 bits unless the exponent is the least one. -/
structure Binary64 where
  negative : Bool
  significand : Nat
  exponent : Int
  deriving DecidableEq, Repr, Inhabited

namespace Binary64

/-- The least significand of 53 bits. -/
def leastNormal : Nat := 0x10000000000000

def leastExponent : Int := -1074

def greatestExponent : Int := 971

def zero : Binary64 := ⟨false, 0, leastExponent⟩

def one : Binary64 := ⟨false, leastNormal, -52⟩

/-- The quotient rounded to the nearest whole number, a half to the even one. -/
def roundDiv (num den : Nat) : Nat :=
  let q := num / den
  let r := num % den
  if 2 * r < den then q else if den < 2 * r then q + 1 else q + q % 2

/-- `num / den / 2 ^ e` as a fraction of natural numbers. -/
def scaled (num den : Nat) (e : Int) : Nat × Nat :=
  if 0 ≤ e then (num, den <<< e.toNat) else (num <<< (-e).toNat, den)

/-- The exponent that leaves a quotient of 53 bits, or the least one. -/
def exponentFor (num den : Nat) : Int :=
  let guess : Int := (num.log2 : Int) - (den.log2 : Int) - 52
  let fitting :=
    let (n, d) := scaled num den guess
    if n < d * leastNormal then guess - 1 else guess
  max fitting leastExponent

/-- The number nearest to `num / den`, a tie going to the even significand; none when it is too
large. -/
def ofRatio? (negative : Bool) (num den : Nat) : Option Binary64 :=
  if num = 0 || den = 0 then some ⟨negative, 0, leastExponent⟩
  else
    let e := exponentFor num den
    let (n, d) := scaled num den e
    let m := roundDiv n d
    let (m, e) := if m = 2 * leastNormal then (leastNormal, e + 1) else (m, e)
    if greatestExponent < e then none else some ⟨negative, m, e⟩

/-- The magnitude as a fraction. -/
def toRatio (x : Binary64) : Nat × Nat :=
  if 0 ≤ x.exponent then (x.significand <<< x.exponent.toNat, 1)
  else (x.significand, 1 <<< (-x.exponent).toNat)

/-- The number nearest to an integer of 64 bits; such an integer is never too large. -/
def ofInt (i : Int) : Binary64 := (ofRatio? (decide (i < 0)) i.natAbs 1).getD zero

def isZero (x : Binary64) : Bool := x.significand == 0

/-- The magnitude times `factor`, rounded; the sign is kept. -/
def mul? (x factor : Binary64) : Option Binary64 :=
  let (n, d) := x.toRatio
  let (n', d') := factor.toRatio
  ofRatio? x.negative (n * n') (d * d')

/-- The magnitude divided by `divisor`, rounded; the sign is kept. -/
def div? (x divisor : Binary64) : Option Binary64 :=
  let (n, d) := x.toRatio
  let (n', d') := divisor.toRatio
  ofRatio? x.negative (n * d') (d * n')

/-- The number nearest to a power of ten. -/
def pow10? (k : Nat) : Option Binary64 := ofRatio? false (Nat.pow 10 k) 1

/-- Whether the magnitude is greater than one. -/
def exceedsOne (x : Binary64) : Bool :=
  let (n, d) := x.toRatio
  decide (d < n)

/-- The nearest number of the unit interval. Zero keeps its sign. -/
def clampUnit (x : Binary64) : Binary64 :=
  if x.isZero then x
  else if x.negative then zero
  else if x.exceedsOne then one
  else x

end Binary64
end SymbolDocs
