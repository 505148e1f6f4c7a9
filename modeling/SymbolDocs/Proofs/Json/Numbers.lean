import Mathlib.Data.List.TakeDrop
import SymbolDocs.Json.Reader
import SymbolDocs.Json.Writer

namespace SymbolDocs.Json

/-- A number ends before the text: it goes on neither with a digit nor with another part. -/
def endsNumber : Text → Bool
  | [] => true
  | c :: _ => !(c.isDigit || c == '.' || c == 'e' || c == 'E')

theorem digitsOf_endsNumber {rest : Text} (ends : endsNumber rest) :
    rest.takeWhile Char.isDigit = [] ∧ rest.dropWhile Char.isDigit = rest := by
  cases rest with
  | nil => exact ⟨rfl, rfl⟩
  | cons c rest =>
    have noDigit : c.isDigit = false := by
      simp only [endsNumber, Bool.not_eq_true', Bool.or_eq_false_iff] at ends
      exact ends.1.1.1
    simp [noDigit]

theorem span_isDigit {ds rest : Text} (digits : ∀ c ∈ ds, c.isDigit) (ends : endsNumber rest) :
    (ds ++ rest).span Char.isDigit = (ds, rest) := by
  obtain ⟨before, after⟩ := digitsOf_endsNumber ends
  rw [List.span_eq_takeWhile_dropWhile, List.takeWhile_append_of_pos digits,
    List.dropWhile_append_of_pos digits, before, after, List.append_nil]

theorem readPower_eq_none {rest : Text} (ends : endsNumber rest) :
    readPower rest = some (none, rest) := by
  cases rest with
  | nil => rfl
  | cons c rest =>
    simp only [endsNumber, Bool.not_eq_true', Bool.or_eq_false_iff, beq_eq_false_iff_ne] at ends
    simp [readPower, ends.1.2, ends.2]

theorem readLiteral_digits {ds rest : Text} (digits : ∀ c ∈ ds, c.isDigit) (some : ds ≠ [])
    (noLead : ds.head? = .some '0' → ds.tail = []) (ends : endsNumber rest) :
    readLiteral (ds ++ rest) = .some (⟨false, ds, none, none⟩, rest) := by
  obtain ⟨c, ds, rfl⟩ := List.exists_cons_of_ne_nil some
  have digit : c.isDigit := digits c List.mem_cons_self
  have noSign : c ≠ '-' := by
    rintro rfl
    exact absurd digit (by decide)
  have whole := span_isDigit digits ends
  have power := readPower_eq_none ends
  rw [List.cons_append] at whole ⊢
  rw [readLiteral]
  · simp only [whole]
    split
    case h_1 => contradiction
    case h_2 eq =>
      obtain ⟨rfl, rfl⟩ := List.cons.inj eq
      cases noLead rfl
    case h_3 =>
      split
      case h_1 => simp [endsNumber] at ends
      case h_2 => simp [power]
  · exact fun _ eq => noSign (List.cons.inj eq).1

theorem head?_ofNat {n : Nat} (h : 0 < n) : (Text.ofNat n).head? ≠ some '0' := by
  rw [Text.ofNat]
  induction n using Nat.strongRecOn with
  | ind n ih =>
    by_cases small : n < 10
    · have digit : ∀ m < 10, 0 < m → [m.digitChar].head? ≠ some '0' := by decide
      rw [Nat.toDigits_of_lt_base small]
      exact digit n small h
    · obtain ⟨c, ds, eq⟩ := List.exists_cons_of_ne_nil (Nat.toDigits_ne_nil (n := n / 10) (b := 10))
      have first := ih (n / 10) (by omega) (by omega)
      rw [eq] at first
      rwa [Nat.toDigits_of_base_le (by decide) (Nat.le_of_not_lt small), eq]

theorem le_foldl (ds : Text) (n : Nat) :
    n ≤ ds.foldl (fun n c => n * 10 + digitValue c) n := by
  induction ds generalizing n with
  | nil => exact Nat.le_refl n
  | cons c ds ih => exact Nat.le_trans (by omega) (ih (n * 10 + digitValue c))

theorem leadingDigits_eq {ds : Text} {n : Nat}
    (small : ds.foldl (fun n c => n * 10 + digitValue c) n ≤ Limits.word) :
    leadingDigits n ds = (ds.foldl (fun n c => n * 10 + digitValue c) n, []) := by
  induction ds generalizing n with
  | nil => rfl
  | cons c ds ih =>
    have grown := le_foldl ds (n * 10 + digitValue c)
    rw [List.foldl_cons] at small ⊢
    rw [leadingDigits, ← ih small]
    exact if_neg (Nat.not_lt_of_le (Nat.le_trans grown small))

theorem foldl_ofNat (n : Nat) : (Text.ofNat n).foldl (fun n c => n * 10 + digitValue c) 0 = n := by
  have value := Nat.ofDigitChars_ten_toDigits (n := n)
  rw [Nat.ofDigitChars_eq_foldl] at value
  simpa only [Text.ofNat, digitValue, Nat.mul_comm 10] using value

theorem digits_ofNat (n : Nat) : ∀ c ∈ Text.ofNat n, c.isDigit := fun _ =>
  Nat.isDigit_of_mem_toDigits (by decide) (by decide)

theorem readLiteral_ofNat (n : Nat) {rest : Text} (ends : endsNumber rest) :
    readLiteral (Text.ofNat n ++ rest) = some (⟨false, Text.ofNat n, none, none⟩, rest) := by
  refine readLiteral_digits (digits_ofNat n) Nat.toDigits_ne_nil (fun lead => ?_) ends
  rcases Nat.eq_zero_or_pos n with rfl | positive
  · rfl
  · exact absurd lead (head?_ofNat positive)

theorem value?_ofNat {n : Nat} (small : n ≤ Limits.word) :
    (⟨false, Text.ofNat n, none, none⟩ : Literal).value? = some (.int n) := by
  have read : leadingDigits 0 (Text.ofNat n) = (n, []) := by
    rw [leadingDigits_eq (by rwa [foldl_ofNat]), foldl_ofNat]
  simp [Literal.value?, read]

theorem readLiteral_one {rest : Text} (ends : endsNumber rest) :
    readLiteral (Binary64.one.toText ++ rest) =
      some (⟨false, ['1'], some ['0'], none⟩, rest) := by
  have text : Binary64.one.toText = ['1', '.', '0'] := by decide
  obtain ⟨before, after⟩ := digitsOf_endsNumber ends
  simp [text, readLiteral, before, after, readPower_eq_none ends]

theorem value?_one :
    (⟨false, ['1'], some ['0'], none⟩ : Literal).value? = some (.real Binary64.one) := by
  decide +kernel

end SymbolDocs.Json
