import SymbolDocs.Deflate.Inflate
import SymbolDocs.Proofs.Deflate.CodeWord
import SymbolDocs.Proofs.Deflate.Readers

namespace SymbolDocs.Deflate

namespace Output

/-- The same content with more room behind it. -/
def widen (k : Nat) (out : Output) : Output := { out with capacity := out.capacity + k }

variable {out out' : Output} (k : Nat)

theorem push_widen {b : UInt8} (h : out.push b = .ok out') :
    (out.widen k).push b = .ok (out'.widen k) := by
  rw [push] at h
  split at h
  · next room =>
    have room' : out.bytes.size < out.capacity + k := by omega
    rw [← Except.ok.inj h]
    exact if_pos room'
  · exact nomatch h

theorem append_widen {bytes : Bytes} (h : out.append bytes = .ok out') :
    (out.widen k).append bytes = .ok (out'.widen k) := by
  induction bytes generalizing out with
  | nil => rw [← Except.ok.inj h, append]
  | cons b bytes ih =>
    obtain ⟨mid, first, rest⟩ := exists_of_bind_ok h
    rw [append, push_widen k first]
    exact ih rest

theorem copy_widen {distance length : Nat} (h : copy distance length out = .ok out') :
    copy distance length (out.widen k) = .ok (out'.widen k) := by
  induction length generalizing out with
  | zero => rw [← Except.ok.inj h, copy]
  | succ n ih =>
    rw [copy] at h
    split at h
    · next inside =>
      cases found : out.bytes[out.bytes.size - distance]? with
      | none => simp [found] at h
      | some b =>
        simp only [found] at h
        obtain ⟨mid, first, rest⟩ := exists_of_bind_ok h
        have inside' : distance ≤ (out.widen k).bytes.size := inside
        have found' : (out.widen k).bytes[(out.widen k).bytes.size - distance]? = some b := found
        rw [copy, if_pos inside', found']
        simp only [push_widen k first]
        exact ih rest
    · exact nomatch h

end Output

/-- More bits behind a stream are more fuel, too. -/
theorem Follows.fuel {α β : Type} {w : α → β} {read : Nat → Reader α} {read' : Nat → Reader β}
    (h : ∀ fuel fuel', fuel ≤ fuel' → Follows w (read fuel) (read' fuel')) :
    Follows w (fun bits => read (bits.length + 1) bits)
      fun bits => read' (bits.length + 1) bits := by
  intro bits v rest found
  obtain ⟨used, rfl, -⟩ := h _ _ (Nat.le_refl _) found
  refine ⟨used, rfl, fun rest' more => (h _ _ ?_).apply found more⟩
  have := (more.append_left used).1
  omega

theorem follows_inflateSymbols (literals distances : Code) (k : Nat) {fuel fuel' : Nat}
    (le : fuel ≤ fuel') (out : Output) :
    Follows (Output.widen k) (inflateSymbols literals distances fuel out)
      (inflateSymbols literals distances fuel' (out.widen k)) := by
  induction fuel generalizing fuel' out with
  | zero => exact .error .truncated _ _
  | succ fuel ih =>
    obtain ⟨fuel', rfl⟩ := Nat.exists_eq_succ_of_ne_zero (by omega : fuel' ≠ 0)
    have le := Nat.le_of_succ_le_succ le
    show Follows _ (fun bits => inflateSymbols literals distances (fuel + 1) out bits)
      fun bits => inflateSymbols literals distances (fuel' + 1) (out.widen k) bits
    simp only [inflateSymbols]
    refine literals.follows_read.bind fun s => ?_
    by_cases literal : s < 256
    · simp only [id, if_pos literal]
      exact .step (fun _ => Output.push_widen k) fun out => ih le out
    by_cases stop : s = 256
    · simp only [id, if_neg literal, if_pos stop]
      exact .ok (Output.widen k) out
    simp only [id, if_neg literal, if_neg stop]
    refine (follows_readExtra lengthTable (s - 257)).bind fun length => ?_
    simp only [id]
    refine distances.follows_read.bind fun d => ?_
    simp only [id]
    refine (follows_readExtra distanceTable d).bind fun distance => ?_
    simp only [id]
    exact .step (fun _ => Output.copy_widen k) fun out => ih le out

/-- The content of a stored block. -/
def storedContent (out : Output) (length : Nat) : Reader Output := fun bits => do
  let available := min length (bits.length / 8)
  let (bytes, bits) ← bytesOf available bits
  let out ← out.append bytes
  if available < length then throw .truncated
  return (out, bits)

theorem storedContent_eq {length : Nat} {bits : Bits} (out : Output)
    (enough : length ≤ bits.length / 8) :
    storedContent out length bits =
      bytesOf length bits >>= fun x => out.append x.1 >>= fun out => .ok (out, x.2) := by
  simp only [storedContent, Nat.min_eq_left enough, if_neg (Nat.lt_irrefl length)]
  rfl

theorem le_of_storedContent {length : Nat} {bits : Bits} {out : Output} {v : Output × Bits}
    (h : storedContent out length bits = .ok v) : length ≤ bits.length / 8 := by
  obtain ⟨⟨bytes, rest⟩, -, h⟩ := exists_of_bind_ok h
  obtain ⟨out, -, h⟩ := exists_of_bind_ok h
  refine Nat.le_of_not_lt fun few => ?_
  have short : min length (bits.length / 8) < length := by omega
  simp only [if_pos short] at h
  exact nomatch h

theorem follows_storedContent (out : Output) (k length : Nat) :
    Follows (Output.widen k) (storedContent out length) (storedContent (out.widen k) length) := by
  intro bits v rest found
  -- all of the content is there, and no fewer bits will stand behind it
  have enough := le_of_storedContent found
  rw [storedContent_eq out enough] at found
  have whole : Follows (Output.widen k)
      (fun bits => bytesOf length bits >>= fun x => out.append x.1 >>= fun out => .ok (out, x.2))
      fun bits => bytesOf length bits >>= fun x =>
        (out.widen k).append x.1 >>= fun out => .ok (out, x.2) :=
    (follows_bytesOf length).bind fun bytes =>
      .step (fun _ => Output.append_widen k) fun out => .ok (Output.widen k) out
  obtain ⟨used, rfl, goesOn⟩ := whole found
  refine ⟨used, rfl, fun rest' more => ?_⟩
  have size := (more.append_left used).1
  rw [storedContent_eq (out.widen k) (by omega)]
  exact goesOn rest' more

theorem inflateStored_eq_bind (out : Output) (bits : Bits) :
    inflateStored out bits = number 16 (alignToByte bits) >>= fun x => number 16 x.2 >>= fun y =>
      if x.1 + y.1 ≠ 65535 then .error .corrupt else storedContent out x.1 y.2 := rfl

theorem follows_inflateStored (out : Output) (k : Nat) :
    Follows (Output.widen k) (inflateStored out) (inflateStored (out.widen k)) := by
  show Follows _ (fun bits => inflateStored out bits) fun bits => inflateStored (out.widen k) bits
  simp only [inflateStored_eq_bind]
  refine (follows_number 16).alignToByte.bind fun length => ?_
  simp only [id]
  refine (follows_number 16).bind fun complement => ?_
  by_cases wrong : length + complement ≠ 65535
  · simp only [id, if_pos wrong]
    exact .error .corrupt _ _
  · simp only [id, if_neg wrong]
    exact follows_storedContent out k length

theorem inflateBlock_two (out : Output) (bits : Bits) :
    inflateBlock 2 out bits = readBothCodes bits >>= fun x =>
      inflateSymbols x.1.1 x.1.2 (x.2.length + 1) out x.2 := by
  rw [inflateBlock, readBothCodes]
  cases readCodes bits <;> rfl

theorem follows_inflateBlock (kind : Nat) (out : Output) (k : Nat) :
    Follows (Output.widen k) (inflateBlock kind out) (inflateBlock kind (out.widen k)) := by
  have symbols (literals distances : Code) := Follows.fuel fun fuel fuel' le =>
    follows_inflateSymbols literals distances k le out
  match kind with
  | 0 => exact follows_inflateStored out k
  | 1 => exact symbols fixedLiterals fixedDistances
  | 2 =>
    show Follows _ (fun bits => inflateBlock 2 out bits)
      fun bits => inflateBlock 2 (out.widen k) bits
    simp only [inflateBlock_two]
    exact follows_readBothCodes.bind fun codes => symbols codes.1 codes.2
  | _ + 3 => exact .error .corrupt _ _

theorem follows_inflateBlocks (k : Nat) {fuel fuel' : Nat} (le : fuel ≤ fuel') (out : Output) :
    Follows (Output.widen k) (inflateBlocks fuel out) (inflateBlocks fuel' (out.widen k)) := by
  induction fuel generalizing fuel' out with
  | zero => exact .error .truncated _ _
  | succ fuel ih =>
    obtain ⟨fuel', rfl⟩ := Nat.exists_eq_succ_of_ne_zero (by omega : fuel' ≠ 0)
    have le := Nat.le_of_succ_le_succ le
    show Follows _ (fun bits => inflateBlocks (fuel + 1) out bits)
      fun bits => inflateBlocks (fuel' + 1) (out.widen k) bits
    simp only [inflateBlocks]
    refine (follows_number 1).bind fun last => ?_
    dsimp +instances only [id]
    refine (follows_number 2).bind fun kind => ?_
    dsimp +instances only [id]
    refine (follows_inflateBlock kind out k).bind fun out => ?_
    by_cases done : last = 1
    · simp only [if_pos done]
      exact .ok (Output.widen k) out
    · simp only [if_neg done]
      exact ih le out

/-- What a zlib stream holds in front of its checksum. -/
def readBlocks (capacity : Nat) : Reader Output := fun bits => do
  let (cmf, bits) ← number 8 bits
  let (flg, bits) ← number 8 bits
  if !isZlibHeader cmf flg then throw .corrupt
  inflateBlocks (bits.length + 1) { capacity } bits

/-- The content that has been written, if its checksum is right. -/
def readChecksum (out : Output) : Reader Bytes := fun bits => do
  let (sum, bits) ← bytesOf 4 (alignToByte bits)
  let content := out.bytes.toList
  if sum.foldl (fun n b => n * 256 + b.toNat) 0 ≠ adler32 content then throw .corrupt
  return (content, bits)

/-- The content of a zlib stream, and the bits behind the stream. -/
def readStream (capacity : Nat) : Reader Bytes := fun bits =>
  readBlocks capacity bits >>= fun x => readChecksum x.1 x.2

theorem decodeZlib_eq_map (capacity : Nat) (bytes : Bytes) :
    decodeZlib capacity bytes = (readStream capacity (bitsOf bytes)).map (·.1) := by
  simp only [decodeZlib, readStream, readBlocks, readChecksum, bind_assoc, ite_bind, map_bind,
    apply_ite (Except.map _)]
  rfl

theorem follows_readBlocks (capacity k : Nat) :
    Follows (Output.widen k) (readBlocks capacity) (readBlocks (capacity + k)) := by
  show Follows _ (fun bits => readBlocks capacity bits) fun bits => readBlocks (capacity + k) bits
  simp only [readBlocks]
  refine (follows_number 8).bind fun cmf => ?_
  dsimp +instances only [id]
  refine (follows_number 8).bind fun flg => ?_
  by_cases header : (!isZlibHeader cmf flg) = true
  · simp only [id, if_pos header]
    exact .error .corrupt _ _
  · simp only [id, if_neg header]
    exact .fuel fun fuel fuel' le => follows_inflateBlocks k le { capacity }

theorem follows_readChecksum (out : Output) (k : Nat) :
    Follows id (readChecksum out) (readChecksum (out.widen k)) := by
  have same : (out.widen k).bytes = out.bytes := rfl
  show Follows id (fun bits => readChecksum out bits) fun bits => readChecksum (out.widen k) bits
  simp only [readChecksum, same]
  refine (follows_bytesOf 4).alignToByte.bind fun sum => ?_
  by_cases wrong : sum.foldl (fun n b => n * 256 + b.toNat) 0 ≠ adler32 out.bytes.toList
  · simp only [id, if_pos wrong]
    exact .error .corrupt _ _
  · simp only [id, if_neg wrong]
    exact .ok id out.bytes.toList

theorem follows_readStream (capacity k : Nat) :
    Follows id (readStream capacity) (readStream (capacity + k)) :=
  (follows_readBlocks capacity k).bind fun out => follows_readChecksum out k

theorem length_of_number {n v : Nat} {bits rest : Bits} (h : number n bits = .ok (v, rest)) :
    bits.length = n + rest.length := by
  induction n generalizing bits v with
  | zero =>
    obtain ⟨-, rfl⟩ := Prod.mk.inj (Except.ok.inj h)
    exact (Nat.zero_add _).symm
  | succ n ih =>
    cases bits with
    | nil => exact nomatch h
    | cons b bits =>
      obtain ⟨⟨a, rest⟩, first, same⟩ := exists_of_map_ok h
      obtain ⟨-, rfl⟩ := Prod.mk.inj same
      rw [List.length_cons, ih first]
      omega

theorem length_of_bytesOf {n : Nat} {bytes : Bytes} {bits rest : Bits}
    (h : bytesOf n bits = .ok (bytes, rest)) : bits.length = 8 * n + rest.length := by
  induction n generalizing bits bytes with
  | zero =>
    obtain ⟨-, rfl⟩ := Prod.mk.inj (Except.ok.inj h)
    exact (Nat.zero_add _).symm
  | succ n ih =>
    obtain ⟨⟨b, mid⟩, first, h⟩ := exists_of_bind_ok h
    obtain ⟨⟨bs, last⟩, others, h⟩ := exists_of_bind_ok h
    obtain ⟨-, rfl⟩ := Prod.mk.inj (Except.ok.inj h)
    have size := length_of_number first
    have size' := ih others
    omega

/-- Whole bytes stand behind a stream. -/
theorem readStream_whole {capacity : Nat} {bits rest : Bits} {content : Bytes}
    (h : readStream capacity bits = .ok (content, rest)) : rest.length % 8 = 0 := by
  obtain ⟨⟨out, mid⟩, -, h⟩ := exists_of_bind_ok h
  obtain ⟨⟨sum, last⟩, checksum, h⟩ := exists_of_bind_ok h
  have size : (alignToByte mid).length = 8 * 4 + last.length := length_of_bytesOf checksum
  have aligned : (alignToByte mid).length % 8 = 0 := by
    rw [alignToByte, List.length_drop]
    omega
  have same : last = rest := by
    dsimp only at h
    split at h
    · cases h
    · exact (Prod.mk.inj (Except.ok.inj h)).2
  rw [← same]
  omega

/-- A stream of some content that stands in front of other bytes and is read to its end. -/
def HoldsStream (capacity : Nat) (content stream behind : Bytes) : Prop :=
  readStream capacity (bitsOf (stream ++ behind)) = .ok (content, bitsOf behind)

namespace HoldsStream

variable {capacity capacity' : Nat} {content content' stream stream' behind behind' : Bytes}

theorem decode (h : HoldsStream capacity content stream behind) :
    decodeZlib capacity (stream ++ behind) = .ok content := by
  rw [decodeZlib_eq_map, h]
  rfl

theorem of_decode {bytes : Bytes} (h : decodeZlib capacity bytes = .ok content) :
    ∃ stream behind, bytes = stream ++ behind ∧ HoldsStream capacity content stream behind := by
  rw [decodeZlib_eq_map] at h
  obtain ⟨⟨content, rest⟩, read, rfl⟩ := exists_of_map_ok h
  obtain ⟨used, split, -⟩ := follows_readStream capacity 0 read
  have whole := readStream_whole read
  have size := congrArg List.length split
  rw [bitsOf_length, List.length_append] at size
  have parts := List.take_append_drop (bytes.length - rest.length / 8) bytes
  have ends : bitsOf (bytes.drop (bytes.length - rest.length / 8)) = rest := by
    rw [← parts, bitsOf_append] at split
    refine (List.append_inj' split ?_).2
    rw [bitsOf_length, List.length_drop]
    omega
  refine ⟨_, _, parts.symm, ?_⟩
  rw [HoldsStream, parts, ends, read]

/-- Other bytes behind a stream, no fewer, do not matter. -/
theorem replace (h : HoldsStream capacity content stream behind) (room : capacity ≤ capacity')
    (le : behind.length ≤ behind'.length) : HoldsStream capacity' content stream behind' := by
  obtain ⟨k, rfl⟩ := Nat.exists_eq_add_of_le room
  rw [HoldsStream, bitsOf_append] at h ⊢
  refine (follows_readStream capacity k).apply h ⟨?_, ?_⟩
  · rw [bitsOf_length, bitsOf_length]
    omega
  · rw [bitsOf_length, bitsOf_length]
    omega

theorem unique (h : HoldsStream capacity content stream behind)
    (h' : HoldsStream capacity content' stream' behind')
    (same : stream ++ behind = stream' ++ behind') : content = content' ∧ stream = stream' := by
  rw [HoldsStream, same, h'] at h
  obtain ⟨rfl, bits⟩ := Prod.mk.inj (Except.ok.inj h)
  have size := congrArg List.length bits
  rw [bitsOf_length, bitsOf_length] at size
  exact ⟨rfl, (List.append_inj' same (by omega)).1⟩

/-- Bytes that are cut have the same content, or none when they are cut inside the stream. -/
theorem of_take (h : HoldsStream capacity content stream behind) (room : capacity' ≤ capacity)
    {n : Nat} (h' : decodeZlib capacity' ((stream ++ behind).take n) = .ok content') :
    content' = content ∧ stream.length ≤ n := by
  obtain ⟨stream', behind', split, holds⟩ := of_decode h'
  -- the bytes that were cut off are put back behind the stream that was found
  have more : behind'.length ≤ (behind' ++ (stream ++ behind).drop n).length := by simp
  have back := holds.replace room more
  have same : stream' ++ (behind' ++ (stream ++ behind).drop n) = stream ++ behind := by
    rw [← List.append_assoc, ← split, List.take_append_drop]
  obtain ⟨rfl, rfl⟩ := back.unique h same
  have size := congrArg List.length split
  simp only [List.length_take, List.length_append] at size
  exact ⟨rfl, by omega⟩

end HoldsStream

end SymbolDocs.Deflate
