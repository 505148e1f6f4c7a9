import SymbolDocs.Proofs.Deflate.Symbols

namespace SymbolDocs.Deflate

theorem LengthData.length_le {code seen all : List Nat} {bits : Bits}
    (data : LengthData code seen bits all) : seen.length ≤ all.length := by
  induction data with
  | stop => exact Nat.le_refl _
  | length l short word more ih => simp at ih; omega
  | again last n small word more ih => simp at ih ⊢; omega
  | zeros n small word more ih => simp at ih; omega
  | manyZeros n small word more ih => simp at ih; omega

/-- Lengths of codes are read as they are meant. -/
theorem readLengths_eq {code seen all : List Nat} (isCode : IsCode code) {bits : Bits}
    (data : LengthData code seen bits all) {fuel : Nat} (enough : all.length < fuel + seen.length)
    (rest : Bits) :
    readLengths (Code.assign code) all.length fuel seen.reverse (bits ++ rest) =
      .ok (all.reverse, rest) := by
  induction data generalizing fuel with
  | @stop seen =>
    obtain ⟨fuel, rfl⟩ := Nat.exists_eq_succ_of_ne_zero (by omega : fuel ≠ 0)
    simp [readLengths]
  | @length seen all w bits l short word more ih =>
    have le := more.length_le
    simp only [List.length_append, List.length_singleton] at le
    obtain ⟨fuel, rfl⟩ := Nat.exists_eq_succ_of_ne_zero (by omega : fuel ≠ 0)
    have next := @ih fuel (by simp; omega)
    rw [List.append_assoc, readLengths, if_neg (by simp; omega), if_neg (by simp; omega),
      word.read isCode]
    simpa [ok_bind, short] using next
  | @again seen all w bits last n small word more ih =>
    have le := more.length_le
    simp only [List.length_append, List.length_singleton, List.length_replicate] at le enough
    obtain ⟨fuel, rfl⟩ := Nat.exists_eq_succ_of_ne_zero (by omega : fuel ≠ 0)
    have next := @ih fuel (by simp; omega)
    rw [List.append_assoc, readLengths, if_neg (by simp; omega), if_neg (by simp; omega),
      word.read isCode]
    simpa [ok_bind, number_numberBits_of_lt small] using next
  | @zeros seen all w bits n small word more ih =>
    have le := more.length_le
    simp only [List.length_append, List.length_replicate] at le
    obtain ⟨fuel, rfl⟩ := Nat.exists_eq_succ_of_ne_zero (by omega : fuel ≠ 0)
    have next := @ih fuel (by simp; omega)
    rw [List.append_assoc, readLengths, if_neg (by simp; omega), if_neg (by simp; omega),
      word.read isCode]
    simpa [ok_bind, number_numberBits_of_lt small] using next
  | @manyZeros seen all w bits n small word more ih =>
    have le := more.length_le
    simp only [List.length_append, List.length_replicate] at le
    obtain ⟨fuel, rfl⟩ := Nat.exists_eq_succ_of_ne_zero (by omega : fuel ≠ 0)
    have next := @ih fuel (by simp; omega)
    rw [List.append_assoc, readLengths, if_neg (by simp; omega), if_neg (by simp; omega),
      word.read isCode]
    simpa [ok_bind, number_numberBits_of_lt small] using next

theorem readNumbers_eq {width : Nat} {f : Nat → Nat} {xs : List Nat}
    (small : ∀ x ∈ xs, f x < 2 ^ width) (rest : Bits) :
    readNumbers width xs.length (xs.flatMap (fun x => numberBits width (f x)) ++ rest) =
      .ok (xs.map f, rest) := by
  induction xs with
  | nil => rfl
  | cons x xs ih =>
    rw [List.flatMap_cons, List.append_assoc, List.length_cons, readNumbers,
      number_numberBits_of_lt (small x (by simp))]
    simp only [ok_bind, ih fun y mem => small y (List.mem_cons_of_mem x mem)]
    rfl

/-- A value is found by its place in the order in which the first values are listed. -/
theorem find_listed (order : List Nat) (count s : Nat) (f : Nat → Nat) :
    ((order.zip ((order.take count).map f)).find? (·.1 == s)).map (·.2) =
      if s ∈ order.take count then some (f s) else none := by
  induction order generalizing count with
  | nil => simp
  | cons x order ih =>
    cases count with
    | zero => simp
    | succ count =>
      by_cases eq : x = s
      · simp [eq]
      · simpa [eq, Ne.symm eq, List.map_take] using ih count

theorem listed_lengths {code : List Nat} {count : Nat} (size : code.length = 19)
    (left : ∀ s ∈ lengthOrder.drop count, code.getD s 0 = 0) :
    ((List.range 19).map fun s => (((lengthOrder.zip ((lengthOrder.take count).map
      (code.getD · 0))).find? (·.1 == s)).map (·.2)).getD 0) = code := by
  have all : ∀ s < 19, s ∈ lengthOrder := by decide
  apply List.ext_getElem
  · simp [size]
  · intro s lt lt'
    have mem := all s (by omega)
    rw [← List.take_append_drop count lengthOrder, List.mem_append] at mem
    simp only [List.getElem_map, List.getElem_range, find_listed]
    split
    · simp [lt']
    · have zero := left s (mem.resolve_left ‹_›)
      simpa [lt'] using zero.symm

/-- The codes of a block are read as they are meant. -/
theorem readCodes_eq {literals distances : List Nat} {bits : Bits}
    (data : CodesData literals distances bits) (rest : Bits) :
    readCodes (bits ++ rest) = .ok (Code.assign literals, Code.assign distances, rest) := by
  cases data with
  | @intro code bits count literalCode few many distanceCode few' many' lengthCode size short
      least most left lengths =>
    have small (x : Nat) : code.getD x 0 < 2 ^ 3 := by
      by_cases lt : x < code.length
      · simpa [lt] using short _ (List.getElem_mem lt)
      · simp [List.getD, List.getElem?_eq_none (Nat.le_of_not_lt lt)]
    have listed := readNumbers_eq (fun x (_ : x ∈ lengthOrder.take count) => small x) (bits ++ rest)
    rw [List.length_take, show min count lengthOrder.length = count - 4 + 4 by
      have : lengthOrder.length = 19 := rfl
      omega] at listed
    have read := readLengths_eq lengthCode lengths (Nat.lt_succ_self _) rest
    rw [List.length_append, List.reverse_nil] at read
    have tooMany : ¬ (286 < literals.length ∨ 30 < distances.length) := by omega
    simp only [readCodes, List.append_assoc, ok_bind, Nat.sub_add_cancel few,
      number_numberBits_of_lt (show literals.length - 257 < 2 ^ 5 by omega),
      number_numberBits_of_lt (show distances.length - 1 < 2 ^ 5 by omega),
      number_numberBits_of_lt (show count - 4 < 2 ^ 4 by omega), Nat.sub_add_cancel few',
      if_neg tooMany, listed, listed_lengths size left, Code.ofLengths_eq lengthCode, read,
      List.reverse_reverse, List.take_left, List.drop_left, Code.ofLengths_eq literalCode,
      Code.ofLengths_eq distanceCode]
    rfl

theorem isCode_fixedLiteralLengths : IsCode fixedLiteralLengths where
  short l mem := by
    simp only [fixedLiteralLengths, List.mem_append, List.mem_replicate] at mem
    show l ≤ 15
    omega
  full := .inl (by
    simp only [usedWords, fixedLiteralLengths, Code.longest, List.map_append, List.map_replicate,
      List.sum_append, List.sum_replicate_nat]
    rfl)

theorem isCode_fixedDistanceLengths : IsCode fixedDistanceLengths where
  short l mem := by
    simp only [fixedDistanceLengths, List.mem_replicate] at mem
    show l ≤ 15
    omega
  full := .inl (by
    simp only [usedWords, fixedDistanceLengths, Code.longest, List.map_replicate,
      List.sum_replicate_nat]
    rfl)

theorem inflateStored_eq {capacity : Nat} {before content : Bytes} {pad rest : Bits}
    (short : pad.length < 8) (small : content.length < 2 ^ 16) (whole : rest.length % 8 = 0)
    (fits : before.length ≤ capacity) :
    inflateStored ⟨capacity, before.toArray⟩ (pad ++ (numberBits 16 content.length ++
      (numberBits 16 (65535 - content.length) ++ bitsOf content)) ++ rest) =
      (Output.holding capacity (before ++ content)).map (·, rest) := by
  have body : (numberBits 16 content.length ++ (numberBits 16 (65535 - content.length) ++
      (bitsOf content ++ rest))).length % 8 = 0 := by
    simp
    omega
  have aligned := alignToByte_append short body
  have room : min content.length ((bitsOf content ++ rest).length / 8) = content.length := by
    simp; omega
  have sum : ¬ content.length + (65535 - content.length) ≠ 65535 := by omega
  simp only [inflateStored, List.append_assoc, aligned, number_numberBits_of_lt small,
    number_numberBits_of_lt (show 65535 - content.length < 2 ^ 16 by omega), ok_bind, if_neg sum, room,
    bytesOf_bitsOf, Output.append_eq fits, if_neg (Nat.lt_irrefl _)]
  cases Output.holding capacity (before ++ content) <;> rfl

theorem BlockData.length_le {pos kind : Nat} {before after : Bytes} {bits : Bits}
    (block : BlockData pos kind before bits after) : before.length ≤ after.length := by
  cases block with
  | stored pad content short whole small => simp
  | fixed data => exact data.length_le
  | dynamic header data => exact data.length_le

/-- A block is read as it is meant, as far as the content fits. -/
theorem inflateBlock_eq {pos kind : Nat} {before after : Bytes} {bits : Bits}
    (block : BlockData pos kind before bits after) {capacity : Nat}
    (fits : before.length ≤ capacity) {rest : Bits}
    (whole : (pos + bits.length + rest.length) % 8 = 0) :
    inflateBlock kind ⟨capacity, before.toArray⟩ (bits ++ rest) =
      (Output.holding capacity after).map (·, rest) := by
  cases block with
  | stored pad content short start small =>
    simp only [List.length_append, numberBits_length, bitsOf_length] at whole
    exact inflateStored_eq short small (by omega) fits
  | fixed data =>
    exact inflateSymbols_eq isCode_fixedLiteralLengths isCode_fixedDistanceLengths data
      (by rw [List.length_append]; omega) fits rest
  | @dynamic _ _ literals distances codes bits header data =>
    have read := readCodes_eq header (bits ++ rest)
    cases header with
    | intro count literalCode few many distanceCode =>
      rw [inflateBlock, List.append_assoc, read]
      exact inflateSymbols_eq literalCode distanceCode data
        (by rw [List.length_append]; omega) fits rest

theorem Blocks.length_le {pos : Nat} {before after : Bytes} {bits : Bits}
    (blocks : Blocks pos before bits after) : before.length ≤ after.length := by
  induction blocks with
  | last block => exact block.length_le
  | more block rest ih => exact Nat.le_trans block.length_le ih

theorem BlockData.kind_lt {pos kind : Nat} {before after : Bytes} {bits : Bits}
    (block : BlockData pos kind before bits after) : kind < 2 ^ 2 := by
  cases block <;> omega

/-- The blocks of a stream are read as they are meant, as far as the content fits. -/
theorem inflateBlocks_eq {pos : Nat} {before after : Bytes} {bits : Bits}
    (blocks : Blocks pos before bits after) {capacity fuel : Nat} (enough : bits.length < fuel)
    (fits : before.length ≤ capacity) {rest : Bits}
    (whole : (pos + bits.length + rest.length) % 8 = 0) :
    inflateBlocks fuel ⟨capacity, before.toArray⟩ (bits ++ rest) =
      (Output.holding capacity after).map (·, rest) := by
  induction blocks generalizing fuel with
  | @last pos kind before after bits block =>
    obtain ⟨fuel, rfl⟩ := Nat.exists_eq_succ_of_ne_zero (by omega : fuel ≠ 0)
    simp only [List.length_append, numberBits_length] at whole
    simp only [inflateBlocks, List.append_assoc, ok_bind,
      number_numberBits_of_lt (show 1 < 2 ^ 1 by omega), number_numberBits_of_lt block.kind_lt]
    rw [inflateBlock_eq block fits (by omega)]
    cases Output.holding capacity after <;> rfl
  | @more pos kind before mid after bits bits' block blocks ih =>
    obtain ⟨fuel, rfl⟩ := Nat.exists_eq_succ_of_ne_zero (by omega : fuel ≠ 0)
    simp only [List.length_append, numberBits_length] at whole enough
    simp only [inflateBlocks, List.append_assoc, ok_bind,
      number_numberBits_of_lt (show 0 < 2 ^ 1 by omega), number_numberBits_of_lt block.kind_lt]
    rw [inflateBlock_eq block fits (by simp; omega)]
    have next : ((Output.holding capacity mid).bind fun out => inflateBlocks fuel out (bits' ++ rest))
        = (Output.holding capacity after).map (·, rest) :=
      Output.bind_holding blocks.length_le fun fits' => ih (by omega) fits' (by omega)
    rw [← next]
    cases Output.holding capacity mid <;> rfl

end SymbolDocs.Deflate
