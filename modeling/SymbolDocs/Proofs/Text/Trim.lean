import Mathlib.Data.List.TakeWhile
import SymbolDocs.Text.Layout

namespace SymbolDocs.Text

theorem trimStart_append {s : Text} (visible : ¬ isBlank s) (t : Text) :
    trimStart (s ++ t) = trimStart s ++ t := by
  have left : ¬ (s.dropWhile isBlankChar).isEmpty := by
    rw [List.isEmpty_iff, List.dropWhile_eq_nil_iff]
    intro blank
    exact visible (List.all_eq_true.mpr blank)
  rw [trimStart, List.dropWhile_append, if_neg left]
  rfl

theorem trimEnd_append (s : Text) {t : Text} (visible : ¬ isBlank t) :
    trimEnd (s ++ t) = s ++ trimEnd t := by
  have reversed : ¬ isBlank t.reverse := by rwa [isBlank, List.all_reverse]
  have left := trimStart_append reversed s.reverse
  rw [trimStart, trimStart] at left
  rw [trimEnd, dropEndWhile, List.reverse_append, left, List.reverse_append, List.reverse_reverse]
  rfl

theorem trimEnd_append_of_isBlank (s : Text) {t : Text} (blank : isBlank t) :
    trimEnd (s ++ t) = trimEnd s := by
  have all : ∀ c ∈ t.reverse, isBlankChar c := fun c mem =>
    List.all_eq_true.mp blank c (List.mem_reverse.mp mem)
  rw [trimEnd, dropEndWhile, List.reverse_append, List.dropWhile_append_of_pos all]
  rfl

theorem trimEnd_concat (s : Text) {c : Char} (visible : ¬ isBlankChar c) :
    trimEnd (s ++ [c]) = s ++ [c] := by
  rw [trimEnd, dropEndWhile, List.reverse_append, List.reverse_singleton, List.singleton_append,
    List.dropWhile_cons_of_neg visible, List.reverse_cons, List.reverse_reverse]

theorem trimEnd_cons {c : Char} (visible : ¬ isBlankChar c) (s : Text) :
    trimEnd (c :: s) = c :: trimEnd s := by
  by_cases blank : isBlank s
  · have alone : trimEnd (c :: s) = trimEnd [c] := trimEnd_append_of_isBlank [c] blank
    have nothing : trimEnd s = trimEnd [] := trimEnd_append_of_isBlank [] blank
    rw [alone, nothing]
    exact trimEnd_concat [] visible
  · exact trimEnd_append [c] blank

/-- What is dropped at the end of a list stands behind what is left of it. -/
theorem exists_eq_dropEnd_append {α : Type} (p : α → Bool) (l : List α) :
    ∃ ending, (∀ x ∈ ending, p x) ∧ l = (l.reverse.dropWhile p).reverse ++ ending := by
  refine ⟨(l.reverse.takeWhile p).reverse, fun x mem => ?_, ?_⟩
  · exact List.mem_takeWhile_imp (List.mem_reverse.mp mem)
  · rw [← List.reverse_append, List.takeWhile_append_dropWhile, List.reverse_reverse]

theorem exists_eq_trimEnd_append (s : Text) : ∃ blank, isBlank blank ∧ s = trimEnd s ++ blank := by
  obtain ⟨blank, all, eq⟩ := exists_eq_dropEnd_append isBlankChar s
  exact ⟨blank, List.all_eq_true.mpr all, eq⟩

theorem prefix_trimEnd (s : Text) : trimEnd s <+: s := by
  obtain ⟨blank, _, eq⟩ := exists_eq_trimEnd_append s
  exact ⟨blank, eq.symm⟩

theorem trimEnd_prefix_trimEnd {s t : Text} (starts : s <+: t) : trimEnd s <+: trimEnd t := by
  obtain ⟨more, rfl⟩ := starts
  by_cases blank : isBlank more
  · exact trimEnd_append_of_isBlank s blank ▸ List.prefix_rfl
  · rw [trimEnd_append s blank]
    exact (prefix_trimEnd s).trans (List.prefix_append s _)

theorem not_isBlankChar_of_getLast?_trimEnd {s : Text} {c : Char}
    (last : (trimEnd s).getLast? = some c) : ¬ isBlankChar c := by
  have visible := List.head?_dropWhile_not isBlankChar s.reverse
  rw [trimEnd, dropEndWhile, List.getLast?_reverse] at last
  rw [last] at visible
  simpa using visible

theorem trimEnd_trimEnd (s : Text) : trimEnd (trimEnd s) = trimEnd s := by
  obtain ⟨blank, all, eq⟩ := exists_eq_trimEnd_append s
  have trimmed := trimEnd_append_of_isBlank (trimEnd s) all
  rw [← eq] at trimmed
  exact trimmed.symm

theorem trimEnd_eq_self_of_suffix {s t : Text} (whole : trimEnd s = s) (ends : t <:+ s) :
    trimEnd t = t := by
  obtain ⟨lead, rfl⟩ := ends
  by_cases blank : isBlank t
  · obtain ⟨rest, _, eq⟩ := exists_eq_trimEnd_append lead
    rw [trimEnd_append_of_isBlank lead blank] at whole
    have size := congrArg List.length whole
    have bound := congrArg List.length eq
    rw [List.length_append] at size bound
    rw [List.eq_nil_of_length_eq_zero (show t.length = 0 by omega)]
    rfl
  · rw [trimEnd_append lead blank] at whole
    exact List.append_cancel_left whole

theorem suffix_trimStart {s t : Text} (whole : trimStart t = t) (ends : t <:+ s) :
    t <:+ trimStart s := by
  obtain ⟨lead, rfl⟩ := ends
  by_cases blank : isBlank lead
  · rw [trimStart, List.dropWhile_append_of_pos (List.all_eq_true.mp blank)]
    exact ⟨[], whole.symm⟩
  · rw [trimStart_append blank]
    exact ⟨trimStart lead, rfl⟩

theorem trimStart_of_isBlank {s : Text} (blank : isBlank s) : trimStart s = [] :=
  List.dropWhile_eq_nil_iff.mpr (List.all_eq_true.mp blank)

theorem not_isBlank_of_cons {c : Char} {s : Text} (visible : ¬ isBlank (c :: s))
    (blank : isBlankChar c) : ¬ isBlank s := by
  intro rest
  exact visible (by rw [isBlank, List.all_cons, blank, Bool.true_and]; exact rest)

theorem exists_trimStart_eq_cons {s : Text} (visible : ¬ isBlank s) :
    ∃ c rest, trimStart s = c :: rest ∧ ¬ isBlankChar c := by
  induction s with
  | nil => exact absurd rfl visible
  | cons c s ih =>
    by_cases blank : isBlankChar c
    · obtain ⟨d, rest, eq, seen⟩ := ih (not_isBlank_of_cons visible blank)
      exact ⟨d, rest, by rw [trimStart, List.dropWhile_cons_of_pos blank]; exact eq, seen⟩
    · exact ⟨c, s, List.dropWhile_cons_of_neg blank, blank⟩

theorem trim_eq_nil_iff {s : Text} : trim s = [] ↔ isBlank s := by
  constructor
  · intro empty
    by_contra visible
    obtain ⟨c, rest, eq, seen⟩ := exists_trimStart_eq_cons visible
    rw [trim, eq, trimEnd_cons seen] at empty
    exact absurd empty (by simp)
  · intro blank
    rw [trim, trimStart_of_isBlank blank]
    rfl

theorem not_isEmpty_trim {s : Text} (visible : ¬ isBlank s) : ¬ (trim s).isEmpty := by
  rw [List.isEmpty_iff, trim_eq_nil_iff]
  exact visible

theorem nonEmpty?_eq_some {s : Text} (ne : s ≠ []) : nonEmpty? s = some s := by
  rw [nonEmpty?, if_neg (by rwa [List.isEmpty_iff])]

theorem nonEmpty?_eq_some_iff {s t : Text} : nonEmpty? s = some t ↔ s ≠ [] ∧ s = t := by
  constructor
  · intro some
    rw [nonEmpty?] at some
    split at some
    · exact nomatch some
    · next nonempty => exact ⟨by simpa using nonempty, Option.some.inj some⟩
  · rintro ⟨ne, rfl⟩
    exact nonEmpty?_eq_some ne

theorem not_isBlank_of_trim {s rest : Text} {c : Char} (starts : trim s = c :: rest) :
    ¬ isBlank s := by
  rw [← trim_eq_nil_iff, starts]
  exact List.cons_ne_nil c rest

theorem dropIndent_append {s : Text} (visible : ¬ isBlank s) (width : Nat) (t : Text) :
    dropIndent width (s ++ t) = dropIndent width s ++ t := by
  induction s generalizing width with
  | nil => exact absurd rfl visible
  | cons c s ih =>
    by_cases falls : (isBlankChar c && c.utf8Size ≤ width) = true
    · have blank : isBlankChar c := (Bool.and_eq_true _ _ ▸ falls).1
      rw [List.cons_append, dropIndent, dropIndent, if_pos falls, if_pos falls]
      exact ih (not_isBlank_of_cons visible blank) _
    · rw [List.cons_append, dropIndent, dropIndent, if_neg falls, if_neg falls, List.cons_append]

/-- A line without the white space in front of it that lies within `width` bytes. -/
def IsMoved (width : Nat) (line moved : Text) : Prop :=
  ∃ blank, isBlank blank ∧ line = blank ++ moved ∧ byteLength blank ≤ width ∧
    ∀ c, moved.head? = some c → isBlankChar c → width < byteLength blank + c.utf8Size

theorem isMoved_dropIndent (width : Nat) (s : Text) : IsMoved width s (dropIndent width s) := by
  induction s generalizing width with
  | nil => exact ⟨[], rfl, rfl, Nat.zero_le width, nofun⟩
  | cons c s ih =>
    by_cases falls : (isBlankChar c && c.utf8Size ≤ width) = true
    · obtain ⟨first, fits⟩ : isBlankChar c ∧ c.utf8Size ≤ width := by simpa using falls
      obtain ⟨blank, all, eq, within, full⟩ := ih (width - c.utf8Size)
      have size : byteLength (c :: blank) = c.utf8Size + byteLength blank := rfl
      rw [dropIndent, if_pos falls]
      refine ⟨c :: blank, by rw [isBlank, List.all_cons, first, Bool.true_and]; exact all,
        by rw [List.cons_append, ← eq], by omega, fun d head next => ?_⟩
      have wide := full d head next
      omega
    · rw [dropIndent, if_neg falls]
      refine ⟨[], rfl, rfl, Nat.zero_le width, fun d head next => ?_⟩
      obtain rfl : c = d := Option.some.inj head
      have wide : ¬ c.utf8Size ≤ width := by simpa [next] using falls
      have size : byteLength [] = 0 := rfl
      omega

theorem exists_eq_append_dropIndent (width : Nat) (s : Text) :
    ∃ blank, isBlank blank ∧ s = blank ++ dropIndent width s := by
  obtain ⟨blank, all, eq, _⟩ := isMoved_dropIndent width s
  exact ⟨blank, all, eq⟩

theorem dropIndent_suffix (width : Nat) (s : Text) : dropIndent width s <:+ s := by
  obtain ⟨blank, _, eq⟩ := exists_eq_append_dropIndent width s
  exact ⟨blank, eq.symm⟩

theorem not_isBlank_dropIndent {s : Text} (visible : ¬ isBlank s) (width : Nat) :
    ¬ isBlank (dropIndent width s) := by
  obtain ⟨blank, all, eq⟩ := exists_eq_append_dropIndent width s
  intro rest
  rw [isBlank] at all rest
  exact visible (by rw [isBlank, eq, List.all_append, all, rest]; rfl)

theorem dropIndent_indentWidth (s : Text) : dropIndent (indentWidth s) s = trimStart s := by
  induction s with
  | nil => rfl
  | cons c s ih =>
    by_cases blank : isBlankChar c
    · have width : indentWidth (c :: s) = c.utf8Size + indentWidth s := by
        rw [indentWidth, List.takeWhile_cons_of_pos blank]
        rfl
      rw [dropIndent, width, if_pos (by simp [blank]), Nat.add_sub_cancel_left, ih, trimStart,
        trimStart, List.dropWhile_cons_of_pos blank]
    · rw [dropIndent, if_neg (by simp [blank]), trimStart, List.dropWhile_cons_of_neg blank]

@[simp]
theorem byteLength_cons (c : Char) (s : Text) :
    byteLength (c :: s) = c.utf8Size + byteLength s := rfl

theorem byteLength_append (s t : Text) : byteLength (s ++ t) = byteLength s + byteLength t := by
  induction s with
  | nil => exact (Nat.zero_add _).symm
  | cons c s ih => rw [List.cons_append, byteLength_cons, byteLength_cons, ih, Nat.add_assoc]

theorem dropBytes?_eq_some_iff {n : Nat} {s rest : Text} :
    dropBytes? n s = some rest ↔ ∃ lead, s = lead ++ rest ∧ byteLength lead = n := by
  induction s generalizing n with
  | nil =>
    cases n with
    | zero =>
      constructor
      · rintro ⟨⟩
        exact ⟨[], rfl, rfl⟩
      · rintro ⟨lead, split, -⟩
        rw [(List.append_eq_nil_iff.mp split.symm).2]
        rfl
    | succ n =>
      constructor
      · exact fun h => nomatch h
      · rintro ⟨lead, split, size⟩
        rw [(List.append_eq_nil_iff.mp split.symm).1] at size
        exact absurd size (Nat.succ_ne_zero n).symm
  | cons c s ih =>
    have positive := c.utf8Size_pos
    cases n with
    | zero =>
      simp only [dropBytes?, Option.some.injEq]
      constructor
      · rintro rfl
        exact ⟨[], rfl, rfl⟩
      · rintro ⟨lead, split, size⟩
        cases lead with
        | nil => exact split
        | cons d lead =>
          have := d.utf8Size_pos
          rw [byteLength_cons] at size
          omega
    | succ n =>
      by_cases fits : c.utf8Size ≤ n + 1
      · rw [dropBytes?, if_pos fits, ih]
        constructor
        · rintro ⟨lead, rfl, size⟩
          exact ⟨c :: lead, rfl, by rw [byteLength_cons]; omega⟩
        · rintro ⟨lead, split, size⟩
          cases lead with
          | nil => exact absurd size (Nat.succ_ne_zero n).symm
          | cons d lead =>
            obtain ⟨rfl, rfl⟩ := List.cons.inj split
            rw [byteLength_cons] at size
            exact ⟨lead, rfl, by omega⟩
      · rw [dropBytes?, if_neg fits]
        constructor
        · exact fun h => nomatch h
        · rintro ⟨lead, split, size⟩
          cases lead with
          | nil => exact absurd size (Nat.succ_ne_zero n).symm
          | cons d lead =>
            obtain ⟨rfl, -⟩ := List.cons.inj split
            rw [byteLength_cons] at size
            omega

theorem length_le_byteLength (s : Text) : s.length ≤ byteLength s := by
  induction s with
  | nil => exact Nat.le_refl 0
  | cons c s ih =>
    have positive := c.utf8Size_pos
    rw [byteLength_cons, List.length_cons]
    omega

end SymbolDocs.Text
