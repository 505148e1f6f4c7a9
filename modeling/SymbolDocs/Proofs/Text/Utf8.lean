import SymbolDocs.Text.Utf8

namespace SymbolDocs.Utf8

theorem width_ascii {b : UInt8} (h : b.toNat < 0x80) : width b = 1 := by
  simp [width, UInt8.lt_iff_toNat_lt, h]

theorem width_two {b : UInt8} (low : 0xC2 ≤ b.toNat) (high : b.toNat < 0xE0) : width b = 2 := by
  simp only [width, UInt8.lt_iff_toNat_lt, UInt8.reduceToNat]
  grind

theorem width_three {b : UInt8} (low : 0xE0 ≤ b.toNat) (high : b.toNat < 0xF0) : width b = 3 := by
  simp only [width, UInt8.lt_iff_toNat_lt, UInt8.reduceToNat]
  grind

theorem width_four {b : UInt8} (low : 0xF0 ≤ b.toNat) (high : b.toNat < 0xF5) : width b = 4 := by
  simp only [width, UInt8.lt_iff_toNat_lt, UInt8.reduceToNat]
  grind

theorem isContinuation_iff {b : UInt8} : isContinuation b ↔ 0x80 ≤ b.toNat ∧ b.toNat ≤ 0xBF := by
  simp [isContinuation, UInt8.le_iff_toNat_le]

theorem mayFollow_iff {b next : UInt8} : mayFollow b next ↔
    0x80 ≤ next.toNat ∧ next.toNat ≤ 0xBF ∧ (b.toNat = 0xE0 → 0xA0 ≤ next.toNat) ∧
      (b.toNat = 0xED → next.toNat ≤ 0x9F) ∧ (b.toNat = 0xF0 → 0x90 ≤ next.toNat) ∧
      (b.toNat = 0xF4 → next.toNat ≤ 0x8F) := by
  simp only [mayFollow, isContinuation, ← UInt8.toNat_inj, UInt8.le_iff_toNat_le,
    UInt8.reduceToNat]
  grind

theorem head_one {b : UInt8} (h : b.toNat < 0x80) (rest : Bytes) :
    head b rest = .char (Char.ofNat b.toNat) 1 := by
  simp only [head, width_ascii h]

theorem head_two {b b₁ : UInt8} (low : 0xC2 ≤ b.toNat) (high : b.toNat < 0xE0)
    (h₁ : isContinuation b₁) (rest : Bytes) : head b (b₁ :: rest) =
      .char (Char.ofNat (b.toNat % 32 * 64 + b₁.toNat % 64)) 2 := by
  simp only [head, width_two low high, h₁, if_true, payload]

theorem head_three {b b₁ b₂ : UInt8} (low : 0xE0 ≤ b.toNat) (high : b.toNat < 0xF0)
    (h₁ : mayFollow b b₁) (h₂ : isContinuation b₂) (rest : Bytes) : head b (b₁ :: b₂ :: rest) =
      .char (Char.ofNat ((b.toNat % 16 * 64 + b₁.toNat % 64) * 64 + b₂.toNat % 64)) 3 := by
  simp only [head, width_three low high, h₁, h₂, Bool.not_true, Bool.false_eq_true, if_false,
    if_true, payload]

theorem head_four {b b₁ b₂ b₃ : UInt8} (low : 0xF0 ≤ b.toNat) (high : b.toNat < 0xF5)
    (h₁ : mayFollow b b₁) (h₂ : isContinuation b₂) (h₃ : isContinuation b₃) (rest : Bytes) :
    head b (b₁ :: b₂ :: b₃ :: rest) = .char (Char.ofNat
      (((b.toNat % 8 * 64 + b₁.toNat % 64) * 64 + b₂.toNat % 64) * 64 + b₃.toNat % 64)) 4 := by
  simp only [head, width_four low high, h₁, h₂, h₃, Bool.not_true, Bool.false_eq_true, if_false,
    if_true, payload]

/-- Reading the bytes of a character gives the character, whatever follows. -/
theorem head_encodeChar (c : Char) (rest : Bytes) : ∃ b bs, String.utf8EncodeChar c = b :: bs ∧
    head b (bs ++ rest) = .char c (bs.length + 1) := by
  have valid := c.valid
  have back : Char.ofNat c.val.toNat = c := Char.ofNat_toNat c
  simp only [UInt32.isValidChar, Nat.isValidChar] at valid
  simp only [String.utf8EncodeChar]
  generalize c.val.toNat = v at valid back ⊢
  by_cases one : v ≤ 0x7f
  · have eq := UInt8.toNat_ofNat_of_lt' (show v < 256 by omega)
    refine ⟨_, _, if_pos one, ?_⟩
    rw [head_one (by omega), eq, back]
    rfl
  by_cases two : v ≤ 0x7ff
  · have eq := UInt8.toNat_ofNat_of_lt' (show v / 64 % 32 + 0xc0 < 256 by omega)
    have eq₁ := UInt8.toNat_ofNat_of_lt' (show v % 64 + 0x80 < 256 by omega)
    refine ⟨_, _, (if_neg one).trans (if_pos two), ?_⟩
    rw [List.cons_append, head_two (by omega) (by omega) (isContinuation_iff.mpr (by omega)), eq,
      eq₁, show (v / 64 % 32 + 0xc0) % 32 * 64 + (v % 64 + 0x80) % 64 = v by omega, back]
    rfl
  by_cases three : v ≤ 0xffff
  · have eq := UInt8.toNat_ofNat_of_lt' (show v / 4096 % 16 + 0xe0 < 256 by omega)
    have eq₁ := UInt8.toNat_ofNat_of_lt' (show v / 64 % 64 + 0x80 < 256 by omega)
    have eq₂ := UInt8.toNat_ofNat_of_lt' (show v % 64 + 0x80 < 256 by omega)
    refine ⟨_, _, (if_neg one).trans ((if_neg two).trans (if_pos three)), ?_⟩
    rw [List.cons_append, List.cons_append, head_three (by omega) (by omega)
      (mayFollow_iff.mpr (by omega)) (isContinuation_iff.mpr (by omega)), eq, eq₁, eq₂,
      show ((v / 4096 % 16 + 0xe0) % 16 * 64 + (v / 64 % 64 + 0x80) % 64) * 64 +
        (v % 64 + 0x80) % 64 = v by omega, back]
    rfl
  · have eq := UInt8.toNat_ofNat_of_lt' (show v / 262144 % 8 + 0xf0 < 256 by omega)
    have eq₁ := UInt8.toNat_ofNat_of_lt' (show v / 4096 % 64 + 0x80 < 256 by omega)
    have eq₂ := UInt8.toNat_ofNat_of_lt' (show v / 64 % 64 + 0x80 < 256 by omega)
    have eq₃ := UInt8.toNat_ofNat_of_lt' (show v % 64 + 0x80 < 256 by omega)
    refine ⟨_, _, (if_neg one).trans ((if_neg two).trans (if_neg three)), ?_⟩
    rw [List.cons_append, List.cons_append, List.cons_append, head_four (by omega) (by omega)
      (mayFollow_iff.mpr (by omega)) (isContinuation_iff.mpr (by omega))
      (isContinuation_iff.mpr (by omega)), eq, eq₁, eq₂, eq₃,
      show (((v / 262144 % 8 + 0xf0) % 8 * 64 + (v / 4096 % 64 + 0x80) % 64) * 64 +
        (v / 64 % 64 + 0x80) % 64) * 64 + (v % 64 + 0x80) % 64 = v by omega, back]
    rfl

theorem decodeFrom_skip (bs : Bytes) (pos : Nat) (rest : Bytes) :
    decodeFrom bs.length pos (bs ++ rest) = decodeFrom 0 (pos + bs.length) rest := by
  induction bs generalizing pos with
  | nil => simp
  | cons b bs ih =>
    rw [List.length_cons, List.cons_append, decodeFrom, ih (pos + 1)]
    congr 1
    omega

theorem decodeFrom_encode (s : Text) (pos : Nat) : decodeFrom 0 pos (encode s) = .ok s := by
  induction s generalizing pos with
  | nil => rfl
  | cons c s ih =>
    obtain ⟨b, bs, eq, head_eq⟩ := head_encodeChar c (encode s)
    have split : encode (c :: s) = b :: (bs ++ encode s) := by simp [encode, eq]
    simp [split, decodeFrom, head_eq, decodeFrom_skip, ih, Except.map]

/-- Every text is read back from its bytes. -/
theorem decode_encode (s : Text) : decode (encode s) = .ok s := decodeFrom_encode s 0

end SymbolDocs.Utf8
