import Mathlib.Data.List.Chain
import Mathlib.Data.List.TakeWhile
import SymbolDocs.Text.CharClass

namespace SymbolDocs.Text

/-- The stretches of code points that ascending bounds give, each from its first code point to the
one behind its last. -/
def stretches : List Nat → List (Nat × Nat)
  | first :: stop :: bounds => (first, stop) :: stretches bounds
  | _ => []

/-- Each stretch of the second list lies in one of the first. Both lists ascend, so one walk along
them is enough. -/
def coversStretches : List (Nat × Nat) → List (Nat × Nat) → Bool
  | [], narrow => narrow.isEmpty
  | (first, stop) :: wide, narrow =>
    coversStretches wide (narrow.dropWhile fun s => first.ble s.1 && s.2.ble stop)

theorem exists_of_coversStretches {wide narrow : List (Nat × Nat)}
    (covers : coversStretches wide narrow) {s : Nat × Nat} (mem : s ∈ narrow) :
    ∃ w ∈ wide, w.1 ≤ s.1 ∧ s.2 ≤ w.2 := by
  induction wide generalizing narrow with
  | nil =>
    rw [coversStretches, List.isEmpty_iff] at covers
    rw [covers] at mem
    exact absurd mem List.not_mem_nil
  | cons w wide ih =>
    obtain ⟨first, stop⟩ := w
    rw [← List.takeWhile_append_dropWhile (p := fun s => first.ble s.1 && s.2.ble stop)
      (l := narrow), List.mem_append] at mem
    rcases mem with here | later
    · have within := List.mem_takeWhile_imp here
      rw [Bool.and_eq_true, Nat.ble_eq, Nat.ble_eq] at within
      exact ⟨_, List.mem_cons_self, within⟩
    · obtain ⟨w, inside, within⟩ := ih covers later
      exact ⟨w, List.mem_cons_of_mem _ inside, within⟩

/-- A character of an ascending table lies in one of its stretches. -/
theorem inBounds_iff {bounds : List Nat} (even : bounds.length % 2 = 0)
    (ascending : bounds.Pairwise (· < ·)) {c : Char} :
    inBounds bounds c ↔ ∃ s ∈ stretches bounds, s.1 ≤ c.toNat ∧ c.toNat < s.2 := by
  rw [inBounds, beq_iff_eq]
  induction bounds using stretches.induct with
  | case1 first stop bounds ih =>
    have size : bounds.length % 2 = 0 := by
      rw [List.length_cons, List.length_cons] at even
      omega
    obtain ⟨least, ascending⟩ := List.pairwise_cons.mp ascending
    obtain ⟨above, ascending⟩ := List.pairwise_cons.mp ascending
    have order : first < stop := least stop List.mem_cons_self
    simp only [List.countP_cons, stretches, List.mem_cons, or_and_right, exists_or, exists_eq_left,
      decide_eq_true_eq]
    by_cases reached : stop ≤ c.toNat
    · -- both bounds of the stretch count
      rw [if_pos reached, if_pos (by omega), ← ih size ascending]
      omega
    · have none : bounds.countP (· ≤ c.toNat) = 0 := by
        rw [List.countP_eq_zero]
        intro bound mem
        have := above bound mem
        simp only [decide_eq_true_eq]
        omega
      have apart := ih size ascending
      rw [none] at apart
      rw [none, if_neg reached, ← apart]
      split <;> omega
  | case2 bounds short =>
    rcases bounds with _ | ⟨bound, _ | ⟨next, bounds⟩⟩
    · simp [stretches]
    · exact absurd even (by simp)
    · exact (short bound next bounds rfl).elim

theorem even_digitBounds : digitBounds.length % 2 = 0 := by decide +kernel

theorem even_wordBounds : wordBounds.length % 2 = 0 := by decide +kernel

theorem ascending_digitBounds : digitBounds.Pairwise (· < ·) := by
  rw [← List.isChain_iff_pairwise]
  decide +kernel

theorem ascending_wordBounds : wordBounds.Pairwise (· < ·) := by
  rw [← List.isChain_iff_pairwise]
  decide +kernel

theorem isDecimalDigit_of_isDigit {c : Char} (digit : c.isDigit) : isDecimalDigit c := by
  have ascii : isAsciiChar c := by
    simp only [Char.isDigit, Bool.and_eq_true, decide_eq_true_eq, UInt32.le_iff_toNat_le] at digit
    simp only [isAsciiChar, Char.toNat, decide_eq_true_eq]
    exact Nat.lt_of_le_of_lt digit.2 (by decide)
  rw [isDecimalDigit, if_pos ascii]
  exact digit

/-- Digits make up words. -/
theorem isWordChar_of_isDecimalDigit {c : Char} (digit : isDecimalDigit c) : isWordChar c := by
  rw [isDecimalDigit] at digit
  rw [isWordChar]
  split at digit
  · next ascii => simp [ascii, Char.isAlphanum, digit]
  · next ascii =>
    have covers : coversStretches (stretches wordBounds) (stretches digitBounds) := by
      decide +kernel
    rw [inBounds_iff even_digitBounds ascending_digitBounds] at digit
    rw [if_neg ascii, inBounds_iff even_wordBounds ascending_wordBounds]
    obtain ⟨s, mem, least, lt⟩ := digit
    obtain ⟨w, inside, lower, upper⟩ := exists_of_coversStretches covers mem
    exact ⟨w, inside, by omega, by omega⟩

/-- The code points of white space. -/
def blankCodes : List Nat :=
  List.range' 9 5 ++ [0x20, 0x85, 0xA0, 0x1680] ++ List.range' 0x2000 11 ++
    [0x2028, 0x2029, 0x202F, 0x205F, 0x3000]

/-- What no code point of white space satisfies, no white space does. -/
theorem not_of_isBlankChar {p : Char → Bool} (none : blankCodes.all fun n => !p (Char.ofNat n))
    {c : Char} (blank : isBlankChar c) : ¬ p c := by
  have code : c.toNat ∈ blankCodes := by
    simp only [isBlankChar, Bool.or_eq_true, Bool.and_eq_true, decide_eq_true_eq,
      beq_iff_eq] at blank
    simp only [blankCodes, List.mem_append, List.mem_range'_1, List.mem_cons, List.not_mem_nil,
      or_false]
    omega
  have here := List.all_eq_true.mp none c.toNat code
  rw [Char.ofNat_toNat] at here
  simpa using here

/-- White space makes up no words. -/
theorem not_isWordChar_of_isBlankChar {c : Char} (blank : isBlankChar c) : ¬ isWordChar c :=
  not_of_isBlankChar (by decide +kernel) blank

theorem not_isBlankChar_of_isDecimalDigit {c : Char} (digit : isDecimalDigit c) :
    ¬ isBlankChar c := fun blank =>
  not_isWordChar_of_isBlankChar blank (isWordChar_of_isDecimalDigit digit)

end SymbolDocs.Text
