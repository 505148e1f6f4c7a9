import SymbolDocs.Proofs.Deflate.Blocks
import SymbolDocs.Proofs.Deflate.Remainder

namespace SymbolDocs.Deflate

theorem sumFrom_cons (start : Nat) (b : UInt8) (bytes : Bytes) :
    sumFrom start (b :: bytes) = sumFrom (start + b.toNat) bytes := by
  simp [sumFrom, Nat.add_assoc]

theorem sumsFrom_cons (start : Nat) (b : UInt8) (bytes : Bytes) :
    sumsFrom start (b :: bytes) = start + b.toNat + sumsFrom (start + b.toNat) bytes := by
  simp [sumsFrom, List.range_succ_eq_map, sumFrom_cons, Function.comp_def]
  simp [sumFrom]

/-- Reducing the sums on the way does not change them in the end. -/
theorem foldl_adler (bytes : Bytes) (a b : Nat) :
    bytes.foldl (fun (a, b) byte =>
      let a := (a + byte.toNat) % adlerModulus
      (a, (b + a) % adlerModulus)) (a % adlerModulus, b % adlerModulus) =
      (sumFrom a bytes % adlerModulus, (b + sumsFrom a bytes) % adlerModulus) := by
  induction bytes generalizing a b with
  | nil => simp [sumFrom, sumsFrom]
  | cons byte bytes ih =>
    have next := ih (a + byte.toNat) (b + (a + byte.toNat))
    rw [List.foldl_cons, sumFrom_cons, sumsFrom_cons, ← Nat.add_assoc, ← next]
    simp

theorem adler32_eq (content : Bytes) : adler32 content = checksum content := by
  have sums := foldl_adler content 1 0
  rw [adler32, checksum, show ((1, 0) : Nat × Nat) = (1 % adlerModulus, 0 % adlerModulus) from rfl,
    sums, Nat.zero_add, adlerModulus]

theorem checksum_lt (content : Bytes) : checksum content < 2 ^ 32 := by
  rw [checksum]
  omega

theorem bigEndian_value {n : Nat} (small : n < 2 ^ 32) :
    (bigEndian n).foldl (fun n b => n * 256 + b.toNat) 0 = n := by
  simp [bigEndian]
  omega

/-- A stream is read to its end as it is meant, unless there is more content than may be written. -/
theorem readStream_eq {content stream : Bytes} (valid : IsZlibStream content stream)
    (capacity : Nat) : readStream capacity (bitsOf stream) =
      if content.length ≤ capacity then .ok (content, []) else .error .corrupt := by
  obtain ⟨cmf, flg, data, bits, pad, rfl, multiple, method, window, noDictionary, split, short,
    blocks⟩ := valid
  have size := congrArg List.length split
  rw [bitsOf_length, List.length_append] at size
  have header : isZlibHeader cmf.toNat flg.toNat := by
    simp [isZlibHeader, multiple, method, window, noDictionary]
  have trailer : (bitsOf (bigEndian (checksum content))).length = 32 := by
    simp [bigEndian]
  have inflated : inflateBlocks ((bits ++ (pad ++ bitsOf (bigEndian (checksum content)))).length + 1)
      { capacity } (bits ++ (pad ++ bitsOf (bigEndian (checksum content)))) =
      (Output.holding capacity content).map (·, pad ++ bitsOf (bigEndian (checksum content))) :=
    inflateBlocks_eq blocks (by rw [List.length_append]; omega) (Nat.zero_le _)
      (by rw [List.length_append, trailer]; omega)
  obtain ⟨sum, read, value⟩ :
      ∃ sum, bytesOf 4 (alignToByte (pad ++ bitsOf (bigEndian (checksum content)))) = .ok (sum, []) ∧
        sum.foldl (fun n b => n * 256 + b.toNat) 0 = adler32 content := by
    have read := bytesOf_bitsOf (bigEndian (checksum content)) []
    rw [List.append_nil] at read
    rw [alignToByte_append short (by rw [trailer]), adler32_eq]
    exact ⟨_, read, bigEndian_value (checksum_lt content)⟩
  simp only [readStream, readBlocks, readChecksum, bitsOf_cons, bitsOf_append, split, List.append_assoc, ok_bind,
    number_numberBits_of_lt (n := 8) cmf.toNat_lt, number_numberBits_of_lt (n := 8) flg.toNat_lt,
    header, Bool.not_true, Bool.false_eq_true, if_false, inflated]
  by_cases fits : content.length ≤ capacity
  · rw [if_pos fits, Output.holding_of_le fits]
    simp only [Except.map, ok_bind, read, value, ne_eq, not_true, if_false]
    rfl
  · rw [if_neg fits, Output.holding, if_neg fits]
    simp only [Except.map, error_bind]

theorem decodeZlib_eq {content stream : Bytes} (valid : IsZlibStream content stream)
    (capacity : Nat) : decodeZlib capacity stream =
      if content.length ≤ capacity then .ok content else .error .corrupt := by
  rw [decodeZlib_eq_map, readStream_eq valid]
  split <;> rfl

end SymbolDocs.Deflate
