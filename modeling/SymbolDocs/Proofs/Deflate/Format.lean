import SymbolDocs.Deflate.Inflate
import SymbolDocs.Proofs.Deflate.CodeWord

namespace SymbolDocs.Deflate

/-- The word of a symbol that has one. -/
def IsWord (lengths : List Nat) (s : Nat) (bits : Bits) : Prop :=
  0 < lengths.getD s 0 ∧ bits = codeWord lengths s

/-- What a symbol of a table stands for together with the extra bits behind it. -/
def IsExtra (table : List Extra) (symbol value : Nat) (bits : Bits) : Prop :=
  ∃ least extra v, table[symbol]? = some (least, extra) ∧ v < 2 ^ extra ∧ value = least + v ∧
    bits = numberBits extra v

/-- Every byte of a copy is the byte at `distance` before it, which may belong to the copy. -/
structure IsCopy (distance length : Nat) (before after : Bytes) : Prop where
  positive : 0 < distance
  inside : distance ≤ before.length
  grows : before <+: after
  size : after.length = before.length + length
  repeats : ∀ i, before.length ≤ i → i < after.length → after[i]? = after[i - distance]?

/-- The symbols of a block. The bits make more of what has been written before. -/
inductive SymbolData (literals distances : List Nat) : Bytes → Bits → Bytes → Prop where
  | stop {out : Bytes} {w : Bits} (word : IsWord literals 256 w) :
      SymbolData literals distances out w out
  | literal {out after : Bytes} {w bits : Bits} (b : UInt8) (word : IsWord literals b.toNat w)
      (more : SymbolData literals distances (out ++ [b]) bits after) :
      SymbolData literals distances out (w ++ bits) after
  | copy {out mid after : Bytes} {w e w' e' bits : Bits} {length distance : Nat} (s d : Nat)
      (word : IsWord literals (257 + s) w) (extra : IsExtra lengthTable s length e)
      (word' : IsWord distances d w') (extra' : IsExtra distanceTable d distance e')
      (copied : IsCopy distance length out mid)
      (more : SymbolData literals distances mid bits after) :
      SymbolData literals distances out (w ++ (e ++ (w' ++ (e' ++ bits)))) after

def fixedLiteralLengths : List Nat :=
  List.replicate 144 8 ++ List.replicate 112 9 ++ List.replicate 24 7 ++ List.replicate 8 8

def fixedDistanceLengths : List Nat := List.replicate 32 5

/-- Lengths of codes, themselves in a code. Three symbols stand for repeated lengths. -/
inductive LengthData (code : List Nat) : List Nat → Bits → List Nat → Prop where
  | stop {seen : List Nat} : LengthData code seen [] seen
  | length {seen all : List Nat} {w bits : Bits} (l : Nat) (short : l < 16) (word : IsWord code l w)
      (more : LengthData code (seen ++ [l]) bits all) : LengthData code seen (w ++ bits) all
  | again {seen all : List Nat} {w bits : Bits} (last n : Nat) (small : n < 2 ^ 2)
      (word : IsWord code 16 w)
      (more : LengthData code (seen ++ [last] ++ List.replicate (n + 3) last) bits all) :
      LengthData code (seen ++ [last]) (w ++ (numberBits 2 n ++ bits)) all
  | zeros {seen all : List Nat} {w bits : Bits} (n : Nat) (small : n < 2 ^ 3)
      (word : IsWord code 17 w)
      (more : LengthData code (seen ++ List.replicate (n + 3) 0) bits all) :
      LengthData code seen (w ++ (numberBits 3 n ++ bits)) all
  | manyZeros {seen all : List Nat} {w bits : Bits} (n : Nat) (small : n < 2 ^ 7)
      (word : IsWord code 18 w)
      (more : LengthData code (seen ++ List.replicate (n + 11) 0) bits all) :
      LengthData code seen (w ++ (numberBits 7 n ++ bits)) all

/-- The lengths of the two codes of a block. The lengths of the code they are written in come
first, in an order of their own, and the last ones may be left out when they are zero. There are
286 symbols of the one code and 30 of the other, so no more lengths than that. -/
inductive CodesData : List Nat → List Nat → Bits → Prop where
  | intro {literals distances code : List Nat} {bits : Bits} (count : Nat)
      (literalCode : IsCode literals) (few : 257 ≤ literals.length) (many : literals.length ≤ 286)
      (distanceCode : IsCode distances) (few' : 1 ≤ distances.length)
      (many' : distances.length ≤ 30)
      (lengthCode : IsCode code) (size : code.length = 19) (short : ∀ l ∈ code, l < 2 ^ 3)
      (least : 4 ≤ count) (most : count ≤ 19)
      (left : ∀ s ∈ lengthOrder.drop count, code.getD s 0 = 0)
      (data : LengthData code [] bits (literals ++ distances)) :
      CodesData literals distances (numberBits 5 (literals.length - 257) ++
        (numberBits 5 (distances.length - 1) ++ (numberBits 4 (count - 4) ++
        ((lengthOrder.take count).flatMap (fun s => numberBits 3 (code.getD s 0)) ++ bits))))

/-- A block of one of the three kinds that starts at a position of the stream. -/
inductive BlockData (pos : Nat) : Nat → Bytes → Bits → Bytes → Prop where
  | stored {out : Bytes} (pad : Bits) (content : Bytes) (short : pad.length < 8)
      (whole : (pos + pad.length) % 8 = 0) (small : content.length < 2 ^ 16) :
      BlockData pos 0 out (pad ++ (numberBits 16 content.length ++
        (numberBits 16 (65535 - content.length) ++ bitsOf content))) (out ++ content)
  | fixed {out after : Bytes} {bits : Bits}
      (data : SymbolData fixedLiteralLengths fixedDistanceLengths out bits after) :
      BlockData pos 1 out bits after
  | dynamic {out after : Bytes} {literals distances : List Nat} {codes bits : Bits}
      (header : CodesData literals distances codes)
      (data : SymbolData literals distances out bits after) :
      BlockData pos 2 out (codes ++ bits) after

/-- Blocks up to the one that is marked as the last. -/
inductive Blocks : Nat → Bytes → Bits → Bytes → Prop where
  | last {pos kind : Nat} {out after : Bytes} {bits : Bits}
      (block : BlockData (pos + 3) kind out bits after) :
      Blocks pos out (numberBits 1 1 ++ (numberBits 2 kind ++ bits)) after
  | more {pos kind : Nat} {out mid after : Bytes} {bits bits' : Bits}
      (block : BlockData (pos + 3) kind out bits mid)
      (rest : Blocks (pos + 3 + bits.length) mid bits' after) :
      Blocks pos out (numberBits 1 0 ++ (numberBits 2 kind ++ (bits ++ bits'))) after

/-- The sum of bytes and a number to start with. -/
def sumFrom (start : Nat) (content : Bytes) : Nat := start + (content.map UInt8.toNat).sum

/-- The sum of the values that the sum has after each byte. -/
def sumsFrom (start : Nat) (content : Bytes) : Nat :=
  ((List.range content.length).map fun i => sumFrom start (content.take (i + 1))).sum

def checksum (content : Bytes) : Nat :=
  sumsFrom 1 content % 65521 * 65536 + sumFrom 1 content % 65521

/-- Four bytes, the highest first. -/
def bigEndian (n : Nat) : Bytes := [24, 16, 8, 0].map fun k => UInt8.ofNat (n / 2 ^ k)

/-- A stream without a preset dictionary that holds some content. -/
def IsZlibStream (content stream : Bytes) : Prop :=
  ∃ (cmf flg : UInt8) (data : Bytes) (bits pad : Bits),
    stream = cmf :: flg :: (data ++ bigEndian (checksum content)) ∧
    (cmf.toNat * 256 + flg.toNat) % 31 = 0 ∧ cmf.toNat % 16 = 8 ∧ cmf.toNat / 16 ≤ 7 ∧
    flg.toNat / 32 % 2 = 0 ∧ bitsOf data = bits ++ pad ∧ pad.length < 8 ∧
    Blocks 0 [] bits content

end SymbolDocs.Deflate
