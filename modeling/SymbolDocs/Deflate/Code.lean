import SymbolDocs.Text.Utf8

namespace SymbolDocs.Deflate

/-- Why compressed data has no content: it stops too early, or it is malformed. -/
inductive Stop where
  | truncated
  | corrupt
  deriving DecidableEq, Repr

abbrev Bits := List Bool

/-- The bits of bytes, the lowest one of each byte first. -/
def bitsOf (bytes : Bytes) : Bits :=
  bytes.flatMap fun b => (List.range 8).map b.toNat.testBit

/-- A number of `n` bits, the lowest one first, and the bits behind it. -/
def number : Nat → Bits → Except Stop (Nat × Bits)
  | 0, bits => .ok (0, bits)
  | _ + 1, [] => .error .truncated
  | n + 1, b :: bits => (number n bits).map fun (v, bits) => (b.toNat + 2 * v, bits)

/-- The bits from the next byte on. Bits are left over from whole bytes. -/
def alignToByte (bits : Bits) : Bits := bits.drop (bits.length % 8)

/-- A number of bytes, and the bits behind them. -/
def bytesOf : Nat → Bits → Except Stop (Bytes × Bits)
  | 0, bits => .ok ([], bits)
  | n + 1, bits => do
    let (b, bits) ← number 8 bits
    let (bs, bits) ← bytesOf n bits
    return (UInt8.ofNat b :: bs, bits)

/-- A code for symbols. Bits lead from the root to a symbol, or to a place that no symbol has. -/
inductive Code where
  | vacant
  | symbol (s : Nat)
  | branch (zero one : Code)
  deriving DecidableEq, Repr, Inhabited

namespace Code

/-- Puts a symbol where the bits lead. -/
def insert (s : Nat) : List Bool → Code → Code
  | [], _ => .symbol s
  | b :: path, code =>
    let (zero, one) := match code with
      | .branch zero one => (zero, one)
      | _ => (.vacant, .vacant)
    if b then .branch zero (insert s path one) else .branch (insert s path zero) one

/-- The lowest `length` bits of a code word, the highest one first. -/
def path (word length : Nat) : List Bool := ((List.range length).map word.testBit).reverse

def longest : Nat := 15

/-- The first code word of each length, where `counts` tells how many words each length has. -/
def firstWords (counts : Nat → Nat) : Nat → Nat
  | 0 => 0
  | length + 1 => (firstWords counts length + if length = 0 then 0 else counts length) * 2

/-- Gives the next symbol its word. Words of one length go to the symbols in order. -/
def assignNext (first : Nat → Nat) : Code × Nat × List Nat → Nat → Code × Nat × List Nat
  | (code, s, seen), l =>
    (if l = 0 then code else insert s (path (first l + seen.count l) l) code, s + 1, l :: seen)

/-- The canonical code in which the symbols have the given lengths; a length of 0 leaves a symbol
out. -/
def assign (lengths : List Nat) : Code :=
  (lengths.foldl (assignNext (firstWords fun l => lengths.count l)) (.vacant, 0, [])).1

/-- Lengths fit when they use up all words; a single symbol may leave words over. -/
def fits (lengths : List Nat) : Bool :=
  let used := lengths.filter (0 < ·)
  let space := used.foldr (fun l space => (1 <<< (longest - l)) + space) 0
  space == 1 <<< longest || used.length ≤ 1

def ofLengths (lengths : List Nat) : Except Stop Code :=
  if fits lengths then .ok (assign lengths) else .error .corrupt

/-- The symbol that bits lead to, and the bits behind it. -/
def follow : Code → Bits → Except Stop (Nat × Bits)
  | .symbol s, bits => .ok (s, bits)
  | .vacant, _ => .error .corrupt
  | .branch _ _, [] => .error .truncated
  | .branch zero one, b :: bits => if b then follow one bits else follow zero bits

/-- The next symbol and the bits behind it. A place without a symbol is noticed only where a word of
any length would fit. -/
def read (code : Code) (bits : Bits) : Except Stop (Nat × Bits) :=
  match code.follow bits with
  | .error .corrupt => .error (if bits.length < longest then .truncated else .corrupt)
  | outcome => outcome

end Code
end SymbolDocs.Deflate
