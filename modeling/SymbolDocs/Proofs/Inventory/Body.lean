import SymbolDocs.Inventory.File
import SymbolDocs.Proofs.Deflate.Stream
import SymbolDocs.Proofs.Text.Cut
import SymbolDocs.Proofs.Text.Utf8

namespace SymbolDocs.Inventory

theorem payload?_eq {lead : Bytes}
    (once : ∀ a b, lead ++ sentinel = a ++ sentinel ++ b → b = []) (payload : Bytes) :
    payload? (lead ++ sentinel ++ payload) = some payload := by
  rw [payload?, List.append_assoc, Text.cutAt?_eq (by decide) once]
  rfl

/-- Of a body that is too long nothing is read. -/
theorem body_eq_corrupt {lead content stream : Bytes}
    (once : ∀ a b, lead ++ sentinel = a ++ sentinel ++ b → b = [])
    (valid : Deflate.IsZlibStream content stream) (long : capacity stream < content.length) :
    body (lead ++ sentinel ++ stream) = .error .corrupt := by
  rw [body, payload?_eq once]
  simp only [Deflate.decodeZlib_eq valid, if_neg (Nat.not_le_of_lt long)]

/-- The body of a file is what its zlib stream holds, as long as that is at most four times as long
as the stream, or 1024 bytes. -/
theorem body_of_isZlibStream {lead stream : Bytes} {text : Text}
    (once : ∀ a b, lead ++ sentinel = a ++ sentinel ++ b → b = [])
    (valid : Deflate.IsZlibStream (Utf8.encode text) stream) :
    body (lead ++ sentinel ++ stream) =
      if (Utf8.encode text).length ≤ max 1024 (4 * stream.length) then .ok text
      else .error .corrupt := by
  by_cases fits : (Utf8.encode text).length ≤ max 1024 (4 * stream.length)
  · have read : Deflate.decodeZlib (capacity stream) stream = .ok (Utf8.encode text) := by
      rw [Deflate.decodeZlib_eq valid]
      exact if_pos fits
    rw [if_pos fits, body, payload?_eq once]
    simp only [read, Utf8.decode_encode]
  · rw [if_neg fits, body_eq_corrupt once valid (Nat.lt_of_not_le fits)]

/-- The sentinel does not overlap the lead of its line. -/
theorem body_stored : body (Utf8.encode "# ".toList ++ sentinel ++
    [120, 1, 1, 2, 0, 253, 255, 104, 105, 1, 59, 0, 210]) = .ok "hi".toList := by
  have valid : Deflate.IsZlibStream (Utf8.encode "hi".toList)
      [120, 1, 1, 2, 0, 253, 255, 104, 105, 1, 59, 0, 210] :=
    ⟨120, 1, [1, 2, 0, 253, 255, 104, 105], _, [], by decide, by decide, by decide, by decide,
      by decide, by decide, by decide,
      .last (.stored (List.replicate 5 false) [104, 105] (by decide) (by decide) (by decide))⟩
  have lead : Utf8.encode "# ".toList = [35, 32] := by decide
  have start : sentinel = 84 :: sentinel.tail := by decide
  have once : ∀ a b, Utf8.encode "# ".toList ++ sentinel = a ++ sentinel ++ b → b = [] := by
    rw [lead]
    intro a b eq
    match a with
    | [] => rw [start] at eq; simp at eq
    | [x] => rw [start] at eq; simp at eq
    | x :: y :: a =>
      have size := congrArg List.length eq
      simp only [List.length_append, List.length_cons, List.length_nil] at size
      exact List.length_eq_zero_iff.mp (by omega)
  exact body_of_isZlibStream once valid

theorem isCopy_replicate (b : UInt8) (n length : Nat) : Deflate.IsCopy 1 length
    (List.replicate (n + 1) b) (List.replicate (n + 1 + length) b) where
  positive := Nat.one_pos
  inside := by simp
  grows := ⟨List.replicate length b, by simp⟩
  size := by simp
  repeats i le lt := by
    simp only [List.length_replicate] at le lt
    simp [lt, show i - 1 < n + 1 + length by omega]

/-- One character and four copies of it, of 258 each, are too much for their short stream. -/
theorem body_overfull :
    Deflate.IsZlibStream (Utf8.encode (List.replicate 1033 '#'))
      [120, 1, 83, 30, 5, 163, 96, 20, 140, 2, 0, 76, 227, 141, 60] ∧
    body ([] ++ sentinel ++ [120, 1, 83, 30, 5, 163, 96, 20, 140, 2, 0, 76, 227, 141, 60]) ≠
      .ok (List.replicate 1033 '#') := by
  have content : Utf8.encode (List.replicate 1033 '#') = List.replicate 1033 35 := by
    decide +kernel
  have sum : Deflate.checksum (List.replicate 1033 35) = 0x4ce38d3c := by
    rw [← Deflate.adler32_eq]
    decide +kernel
  have again {n : Nat} {after : Bytes} {bits : Deflate.Bits}
      (more : Deflate.SymbolData Deflate.fixedLiteralLengths Deflate.fixedDistanceLengths
        (List.replicate (n + 1 + 258) 35) bits after) :=
    Deflate.SymbolData.copy 28 0 ⟨by decide, rfl⟩ ⟨258, 0, 0, rfl, by decide, rfl, rfl⟩
      ⟨by decide, rfl⟩ ⟨1, 0, 0, rfl, by decide, rfl, rfl⟩ (isCopy_replicate 35 n 258) more
  have valid : Deflate.IsZlibStream (Utf8.encode (List.replicate 1033 '#'))
      [120, 1, 83, 30, 5, 163, 96, 20, 140, 2, 0, 76, 227, 141, 60] := by
    rw [content]
    exact ⟨120, 1, [83, 30, 5, 163, 96, 20, 140, 2, 0], _, [false, false], by rw [sum]; decide,
      by decide, by decide, by decide, by decide, by decide +kernel, by decide,
      .last (.fixed (.literal 35 ⟨by decide, rfl⟩ (again (n := 0) (again (again (again
        (.stop ⟨by decide, rfl⟩)))))))⟩
  have once (a b : Bytes) (eq : [] ++ sentinel = a ++ sentinel ++ b) : b = [] := by
    have size := congrArg List.length eq
    simp only [List.length_append, List.length_nil] at size
    exact List.length_eq_zero_iff.mp (by omega)
  refine ⟨valid, ?_⟩
  rw [body_eq_corrupt once valid (by rw [content, List.length_replicate]; decide)]
  exact fun h => nomatch h

end SymbolDocs.Inventory
