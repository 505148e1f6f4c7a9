import SymbolDocs.Deflate.Code

namespace SymbolDocs.Deflate

/-- What has been written, and how much may be written at most. -/
structure Output where
  capacity : Nat
  bytes : Array UInt8 := #[]

namespace Output

/-- A byte that does not fit ends everything. -/
def push (out : Output) (b : UInt8) : Except Stop Output :=
  if out.bytes.size < out.capacity then .ok { out with bytes := out.bytes.push b }
  else .error .corrupt

def append : Output → Bytes → Except Stop Output
  | out, [] => .ok out
  | out, b :: bs => (out.push b).bind (append · bs)

/-- Copies bytes from `distance` back, which may run into the copied ones. -/
def copy (distance : Nat) : Nat → Output → Except Stop Output
  | 0, out => .ok out
  | n + 1, out =>
    if distance ≤ out.bytes.size then
      match out.bytes[out.bytes.size - distance]? with
      | some b => (out.push b).bind (copy distance n)
      | none => .error .corrupt
    else .error .corrupt

end Output

/-- Least value and number of extra bits of a length or a distance. -/
abbrev Extra := Nat × Nat

def lengthTable : List Extra :=
  [(3, 0), (4, 0), (5, 0), (6, 0), (7, 0), (8, 0), (9, 0), (10, 0), (11, 1), (13, 1), (15, 1),
   (17, 1), (19, 2), (23, 2), (27, 2), (31, 2), (35, 3), (43, 3), (51, 3), (59, 3), (67, 4),
   (83, 4), (99, 4), (115, 4), (131, 5), (163, 5), (195, 5), (227, 5), (258, 0)]

def distanceTable : List Extra :=
  (List.range 30).map fun i =>
    let bits := i / 2 - 1
    (if i < 2 then i + 1 else ((2 + i % 2) <<< bits) + 1, bits)

/-- A value of a table by its symbol, with the extra bits behind it. -/
def readExtra (table : List Extra) (symbol : Nat) (bits : Bits) : Except Stop (Nat × Bits) :=
  match table[symbol]? with
  | some (least, extra) => (number extra bits).map fun (v, bits) => (least + v, bits)
  | none => .error .corrupt

/-- The symbols of a block up to its end. Every symbol takes a bit at least. -/
def inflateSymbols (literals distances : Code) :
    Nat → Output → Bits → Except Stop (Output × Bits)
  | 0, _, _ => .error .truncated
  | fuel + 1, out, bits => do
    let (s, bits) ← literals.read bits
    if s < 256 then
      let out ← out.push (UInt8.ofNat s)
      inflateSymbols literals distances fuel out bits
    else if s = 256 then return (out, bits)
    else
      let (length, bits) ← readExtra lengthTable (s - 257) bits
      let (d, bits) ← distances.read bits
      let (distance, bits) ← readExtra distanceTable d bits
      let out ← Output.copy distance length out
      inflateSymbols literals distances fuel out bits

def fixedLiterals : Code :=
  Code.assign (List.replicate 144 8 ++ List.replicate 112 9 ++ List.replicate 24 7 ++
    List.replicate 8 8)

def fixedDistances : Code := Code.assign (List.replicate 32 5)

/-- Bytes that are stored as they are, behind their number and its complement. -/
def inflateStored (out : Output) (bits : Bits) : Except Stop (Output × Bits) := do
  let (length, bits) ← number 16 (alignToByte bits)
  let (complement, bits) ← number 16 bits
  if length + complement ≠ 65535 then throw .corrupt
  let available := min length (bits.length / 8)
  let (bytes, bits) ← bytesOf available bits
  let out ← out.append bytes
  if available < length then throw .truncated
  return (out, bits)

/-- The order in which lengths of the code for lengths are listed. -/
def lengthOrder : List Nat := [16, 17, 18, 0, 8, 7, 9, 6, 10, 5, 11, 4, 12, 3, 13, 2, 14, 1, 15]

def readNumbers (width : Nat) : Nat → Bits → Except Stop (List Nat × Bits)
  | 0, bits => .ok ([], bits)
  | n + 1, bits => do
    let (v, bits) ← number width bits
    let (vs, bits) ← readNumbers width n bits
    return (v :: vs, bits)

/-- Lengths of codes until there are `total` of them, the last one first; symbols from 16 on repeat
a length. -/
def readLengths (code : Code) (total : Nat) :
    Nat → List Nat → Bits → Except Stop (List Nat × Bits)
  | 0, _, _ => .error .truncated
  | fuel + 1, seen, bits =>
    if total < seen.length then .error .corrupt
    else if seen.length = total then .ok (seen, bits)
    else do
      let (s, bits) ← code.read bits
      if s < 16 then readLengths code total fuel (s :: seen) bits
      else if s = 16 then
        match seen with
        | [] => throw .corrupt
        | last :: _ =>
          let (n, bits) ← number 2 bits
          readLengths code total fuel (List.replicate (n + 3) last ++ seen) bits
      else
        let (n, bits) ← if s = 17 then number 3 bits else number 7 bits
        let n := if s = 17 then n + 3 else n + 11
        readLengths code total fuel (List.replicate n 0 ++ seen) bits

/-- The two codes that stand in front of a block. -/
def readCodes (bits : Bits) : Except Stop (Code × Code × Bits) := do
  let (hlit, bits) ← number 5 bits
  let (hdist, bits) ← number 5 bits
  let (hclen, bits) ← number 4 bits
  let literals := hlit + 257
  let distances := hdist + 1
  if 286 < literals ∨ 30 < distances then throw .corrupt
  let (listed, bits) ← readNumbers 3 (hclen + 4) bits
  let pairs := lengthOrder.zip listed
  let lengths := (List.range 19).map fun s => ((pairs.find? (·.1 == s)).map (·.2)).getD 0
  let code ← Code.ofLengths lengths
  let (seen, bits) ← readLengths code (literals + distances) (literals + distances + 1) [] bits
  let all := seen.reverse
  return (← Code.ofLengths (all.take literals), ← Code.ofLengths (all.drop literals), bits)

def inflateBlock (kind : Nat) (out : Output) (bits : Bits) : Except Stop (Output × Bits) :=
  match kind with
  | 0 => inflateStored out bits
  | 1 => inflateSymbols fixedLiterals fixedDistances (bits.length + 1) out bits
  | 2 => do
    let (literals, distances, bits) ← readCodes bits
    inflateSymbols literals distances (bits.length + 1) out bits
  | _ => .error .corrupt

/-- Blocks up to the last one. Every block takes three bits at least. -/
def inflateBlocks : Nat → Output → Bits → Except Stop (Output × Bits)
  | 0, _, _ => .error .truncated
  | fuel + 1, out, bits => do
    let (last, bits) ← number 1 bits
    let (kind, bits) ← number 2 bits
    let (out, bits) ← inflateBlock kind out bits
    if last = 1 then return (out, bits) else inflateBlocks fuel out bits

def adlerModulus : Nat := 65521

/-- The checksum of bytes: their sum, and the sum of its values on the way. -/
def adler32 (bytes : Bytes) : Nat :=
  let (a, b) := bytes.foldl (fun (a, b) byte =>
    let a := (a + byte.toNat) % adlerModulus
    (a, (b + a) % adlerModulus)) (1, 0)
  b * 65536 + a

/-- Deflated data of a window up to 32 KiB, without a dictionary. -/
def isZlibHeader (cmf flg : Nat) : Bool :=
  (cmf * 256 + flg) % 31 == 0 && flg / 32 % 2 == 0 && cmf % 16 == 8 && cmf / 16 ≤ 7

/-- The content of a zlib stream, which may be of at most `capacity` bytes; what stands behind the
stream is not looked at. -/
def decodeZlib (capacity : Nat) (bytes : Bytes) : Except Stop Bytes := do
  let bits := bitsOf bytes
  let (cmf, bits) ← number 8 bits
  let (flg, bits) ← number 8 bits
  if !isZlibHeader cmf flg then throw .corrupt
  let (out, bits) ← inflateBlocks (bits.length + 1) { capacity } bits
  let (sum, _) ← bytesOf 4 (alignToByte bits)
  let content := out.bytes.toList
  if sum.foldl (fun n b => n * 256 + b.toNat) 0 ≠ adler32 content then throw .corrupt
  return content

end SymbolDocs.Deflate
