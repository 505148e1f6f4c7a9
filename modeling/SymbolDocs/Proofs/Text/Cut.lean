import Mathlib.Data.List.TakeDrop
import Mathlib.Data.List.TakeWhile
import SymbolDocs.Text.Basic

namespace SymbolDocs.Text

variable {α : Type} [DecidableEq α]

theorem after?_eq_some_iff {lead s rest : List α} : after? lead s = some rest ↔ s = lead ++ rest := by
  induction lead generalizing s with
  | nil => simp [after?]
  | cons l lead ih =>
    cases s with
    | nil => simp [after?]
    | cons c s =>
      by_cases eq : l = c
      · simp [after?, eq, ih]
      · simp [after?, eq, Ne.symm eq]

theorem after?_append (lead s : List α) : after? lead (lead ++ s) = some s :=
  after?_eq_some_iff.mpr rfl

theorem startsWith_iff_prefix {s lead : Text} : s.startsWith lead ↔ lead <+: s := by
  rw [startsWith, Option.isSome_iff_exists]
  exact ⟨fun ⟨rest, found⟩ => ⟨rest, (after?_eq_some_iff.mp found).symm⟩,
    fun ⟨rest, eq⟩ => ⟨rest, after?_eq_some_iff.mpr eq.symm⟩⟩

theorem cut?_append {sep : Char} {before : Text} (absent : sep ∉ before) (after : Text) :
    cut? sep (before ++ sep :: after) = some (before, after) := by
  have passed : ∀ c ∈ before, (c != sep) = true := fun c mem => by
    simpa using fun same : c = sep => absent (same ▸ mem)
  rw [cut?, List.span_eq_takeWhile_dropWhile, List.takeWhile_append_of_pos passed,
    List.dropWhile_append_of_pos passed]
  simp

theorem cut?_eq_none_iff {sep : Char} {s : Text} : cut? sep s = none ↔ sep ∉ s := by
  constructor
  · intro none mem
    obtain ⟨first, rest, eq, absent⟩ := List.eq_append_cons_of_mem mem
    rw [eq, cut?_append absent] at none
    cases none
  · intro absent
    have passed : ∀ c ∈ s, (c != sep) = true := fun c mem => by
      simpa using fun same : c = sep => absent (same ▸ mem)
    have rest : s.dropWhile (· != sep) = [] := List.dropWhile_eq_nil_iff.mpr passed
    rw [cut?, List.span_eq_takeWhile_dropWhile, rest]

/-- A text is cut at the first separator. -/
theorem cut?_eq_some_iff {sep : Char} {s before after : Text} :
    cut? sep s = some (before, after) ↔ s = before ++ sep :: after ∧ sep ∉ before := by
  constructor
  · intro cut
    by_cases mem : sep ∈ s
    · obtain ⟨first, rest, eq, absent⟩ := List.eq_append_cons_of_mem mem
      rw [eq, cut?_append absent] at cut
      obtain ⟨rfl, rfl⟩ := Prod.mk.inj (Option.some.inj cut)
      exact ⟨eq, absent⟩
    · rw [cut?_eq_none_iff.mpr mem] at cut
      cases cut
  · rintro ⟨rfl, absent⟩
    exact cut?_append absent after

theorem cutLast?_append {sep : Char} {after : Text} (absent : sep ∉ after) (before : Text) :
    cutLast? sep (before ++ sep :: after) = some (before, after) := by
  have reversed : (before ++ sep :: after).reverse = after.reverse ++ sep :: before.reverse := by
    simp
  rw [cutLast?, reversed, cut?_append (by simpa using absent)]
  simp

theorem cutLast?_eq_none_iff {sep : Char} {s : Text} : cutLast? sep s = none ↔ sep ∉ s := by
  rw [cutLast?, Option.map_eq_none_iff, cut?_eq_none_iff, List.mem_reverse]

/-- A text is cut at the last separator. -/
theorem cutLast?_eq_some_iff {sep : Char} {s before after : Text} :
    cutLast? sep s = some (before, after) ↔ s = before ++ sep :: after ∧ sep ∉ after := by
  constructor
  · intro cut
    obtain ⟨⟨last, first⟩, reversed, same⟩ := Option.map_eq_some_iff.mp cut
    obtain ⟨rfl, rfl⟩ := Prod.mk.inj same
    obtain ⟨eq, absent⟩ := cut?_eq_some_iff.mp reversed
    have whole := congrArg List.reverse eq
    rw [List.reverse_reverse] at whole
    exact ⟨by rw [whole]; simp, by simpa using absent⟩
  · rintro ⟨rfl, absent⟩
    exact cutLast?_append absent before

theorem firstPart_eq_self_iff {sep : Char} {s : Text} : firstPart sep s = s ↔ sep ∉ s := by
  rw [firstPart, List.takeWhile_eq_self_iff]
  simp only [bne_iff_ne]
  exact ⟨fun apart mem => apart sep mem rfl, fun absent c mem same => absent (same ▸ mem)⟩

/-- A text is cut at the first occurrence of a needle. -/
theorem cutAt?_eq {needle before : List α} (ne : needle ≠ [])
    (first : ∀ a b, before ++ needle = a ++ needle ++ b → b = []) (after : List α) :
    cutAt? needle (before ++ (needle ++ after)) = some (before, after) := by
  induction before with
  | nil =>
    cases needle with
    | nil => exact absurd rfl ne
    | cons n needle =>
      have here := after?_eq_some_iff.mpr (rfl : n :: needle ++ after = n :: needle ++ after)
      rw [List.cons_append] at here
      simp [cutAt?, here]
  | cons c before ih =>
    have next := ih fun a b eq => first (c :: a) b (by simpa using eq)
    rw [List.cons_append, cutAt?, next]
    cases found : after? needle (c :: (before ++ (needle ++ after))) with
    | none => rfl
    | some rest =>
      -- the needle would already occur at the start of what ends in it
      have eq := after?_eq_some_iff.mp found
      have start : needle <+: (c :: before) ++ (needle ++ after) := ⟨rest, by simpa using eq.symm⟩
      have whole : (c :: before) ++ needle <+: (c :: before) ++ (needle ++ after) :=
        ⟨after, by simp⟩
      have start := List.prefix_of_prefix_length_le start whole (by simp; omega)
      obtain ⟨b, split⟩ := start
      have empty := first [] b (by simpa using split.symm)
      rw [empty, List.append_nil] at split
      have size := congrArg List.length split
      simp only [List.length_append, List.length_cons] at size
      omega

theorem eq_of_cutAt?_eq_some {needle s before after : List α}
    (h : cutAt? needle s = some (before, after)) :
    s = before ++ (needle ++ after) ∧ ∀ a b, before ++ needle = a ++ needle ++ b → b = [] := by
  induction s generalizing before with
  | nil =>
    cases needle with
    | nil =>
      obtain ⟨rfl, rfl⟩ := Prod.mk.inj (Option.some.inj h)
      exact ⟨rfl, fun a b eq => (List.append_eq_nil_iff.mp eq.symm).2⟩
    | cons n needle => exact absurd h (by simp [cutAt?])
  | cons c s ih =>
    rw [cutAt?] at h
    cases found : after? needle (c :: s) with
    | some rest =>
      rw [found] at h
      obtain ⟨rfl, rfl⟩ := Prod.mk.inj (Option.some.inj h)
      have here := after?_eq_some_iff.mp found
      refine ⟨here, fun a b eq => ?_⟩
      have size := congrArg List.length eq
      simp only [List.nil_append, List.length_append] at size
      exact List.length_eq_zero_iff.mp (by omega)
    | none =>
      rw [found] at h
      obtain ⟨⟨before, after⟩, cut, same⟩ := Option.map_eq_some_iff.mp h
      obtain ⟨rfl, rfl⟩ := Prod.mk.inj same
      obtain ⟨rfl, first⟩ := ih cut
      refine ⟨rfl, fun a b eq => ?_⟩
      cases a with
      | nil =>
        -- the needle does not start here
        have start : c :: (before ++ (needle ++ after)) = needle ++ (b ++ after) := by
          simpa using congrArg (· ++ after) eq
        rw [start, after?_append] at found
        exact absurd found (by simp)
      | cons x a =>
        rw [List.cons_append, List.cons_append, List.cons_append] at eq
        exact first a b (List.cons.inj eq).2

/-- What stands behind the first occurrence of a needle does not change where it is. -/
theorem cutAt?_of_cutAt? {needle s before after : List α} (ne : needle ≠ [])
    (h : cutAt? needle s = some (before, after)) (after' : List α) :
    cutAt? needle (before ++ (needle ++ after')) = some (before, after') :=
  cutAt?_eq ne (eq_of_cutAt?_eq_some h).2 after'

theorem cutAt?_eq_none_iff {needle s : List α} : cutAt? needle s = none ↔ ¬ needle <:+: s := by
  induction s with
  | nil => cases needle <;> simp [cutAt?]
  | cons c s ih =>
    rw [cutAt?, List.infix_cons_iff]
    cases found : after? needle (c :: s) with
    | none =>
      have noStart : ¬ needle <+: c :: s := by
        rintro ⟨rest, eq⟩
        rw [after?_eq_some_iff.mpr eq.symm] at found
        exact absurd found (by simp)
      simp [ih, noStart]
    | some rest =>
      have start : needle <+: c :: s := ⟨rest, (after?_eq_some_iff.mp found).symm⟩
      simp [start]

/-- A text that is cut inside the first occurrence of a needle, or in front of it, has none. -/
theorem cutAt?_take_eq_none {needle s before after : List α}
    (h : cutAt? needle s = some (before, after)) {n : Nat} (lt : n < (before ++ needle).length) :
    cutAt? needle (s.take n) = none := by
  obtain ⟨rfl, first⟩ := eq_of_cutAt?_eq_some h
  rw [cutAt?_eq_none_iff, ← List.append_assoc, List.take_append_of_le_length (Nat.le_of_lt lt)]
  rintro ⟨a, b, eq⟩
  have whole : before ++ needle = a ++ needle ++ (b ++ (before ++ needle).drop n) := by
    rw [← List.append_assoc, eq, List.take_append_drop]
  have size := congrArg List.length (List.append_eq_nil_iff.mp (first a _ whole)).2
  rw [List.length_drop, List.length_nil] at size
  omega

theorem occursIn_iff_isInfix {needle s : Text} : occursIn needle s ↔ needle <:+: s := by
  have absent : cutAt? needle s = none ↔ ¬ needle <:+: s := cutAt?_eq_none_iff
  rw [occursIn]
  cases found : cutAt? needle s with
  | none => simpa using absent.mp found
  | some parts =>
    rw [found] at absent
    simpa using absent

theorem before?_eq_some_iff {tail s lead : List α} :
    before? tail s = some lead ↔ s = lead ++ tail := by
  rw [before?, Option.map_eq_some_iff]
  constructor
  · rintro ⟨rest, found, rfl⟩
    have eq := congrArg List.reverse (after?_eq_some_iff.mp found)
    rwa [List.reverse_reverse, List.reverse_append, List.reverse_reverse] at eq
  · rintro rfl
    refine ⟨lead.reverse, after?_eq_some_iff.mpr ?_, List.reverse_reverse lead⟩
    rw [List.reverse_append]

theorem endsWith_iff_suffix {s tail : Text} : s.endsWith tail ↔ tail <:+ s := by
  rw [endsWith, Option.isSome_iff_exists]
  exact ⟨fun ⟨lead, found⟩ => ⟨lead, (before?_eq_some_iff.mp found).symm⟩,
    fun ⟨lead, eq⟩ => ⟨lead, before?_eq_some_iff.mpr eq.symm⟩⟩

omit [DecidableEq α] in
theorem eq_nil_of_prefix_cons {needle t : List α} {sep : α} (avoids : sep ∉ needle)
    (h : needle <+: sep :: t) : needle = [] := by
  cases needle with
  | nil => rfl
  | cons c needle =>
    have first : c = sep := (List.cons_prefix_cons.mp h).1
    exact absurd first.symm (List.ne_of_not_mem_cons avoids)

omit [DecidableEq α] in
/-- A needle that avoids the separator occurs on one side of it. -/
theorem infix_append_cons {needle s t : List α} {sep : α} (avoids : sep ∉ needle)
    (h : needle <:+: s ++ sep :: t) : needle <:+: s ∨ needle <:+: t := by
  rcases List.infix_append_iff.mp h with left | right | ⟨a, b, rfl, ends, starts⟩
  · exact .inl left
  · rcases List.infix_cons_iff.mp right with start | right
    · rw [eq_nil_of_prefix_cons avoids start]
      exact .inl (List.nil_infix)
    · exact .inr right
  · have empty : b = [] :=
      eq_nil_of_prefix_cons (fun mem => avoids (List.mem_append_right a mem)) starts
    rw [empty, List.append_nil]
    exact .inl ends.isInfix

omit [DecidableEq α] in
theorem takeWhile_append_cons {p : α → Bool} {c : α} (stops : ¬ p c) (s t : List α) :
    (s ++ c :: t).takeWhile p = s.takeWhile p := by
  induction s with
  | nil => exact List.takeWhile_cons_of_neg stops
  | cons d s ih =>
    by_cases goes : p d
    · rw [List.cons_append, List.takeWhile_cons_of_pos goes, List.takeWhile_cons_of_pos goes, ih]
    · rw [List.cons_append, List.takeWhile_cons_of_neg goes, List.takeWhile_cons_of_neg goes]

omit [DecidableEq α] in
theorem takeWhile_prefix_takeWhile {p : α → Bool} {s t : List α} (starts : s <+: t) :
    s.takeWhile p <+: t.takeWhile p := by
  obtain ⟨more, rfl⟩ := starts
  rw [List.takeWhile_append]
  split
  · exact (List.takeWhile_prefix p).trans (List.prefix_append s _)
  · exact List.prefix_rfl

omit [DecidableEq α] in
theorem span_append {p : α → Bool} {s : List α} (all : ∀ c ∈ s, p c) (rest : List α)
    (ends : ∀ c, rest.head? = some c → ¬ p c) : (s ++ rest).span p = (s, rest) := by
  have stop : rest.takeWhile p = [] ∧ rest.dropWhile p = rest := by
    cases rest with
    | nil => exact ⟨rfl, rfl⟩
    | cons c rest =>
      have here := ends c rfl
      exact ⟨List.takeWhile_cons_of_neg here, List.dropWhile_cons_of_neg here⟩
  rw [List.span_eq_takeWhile_dropWhile, List.takeWhile_append_of_pos all,
    List.dropWhile_append_of_pos all, stop.1, stop.2, List.append_nil]

omit [DecidableEq α] in
/-- A needle does not reach into a tail that avoids its last element. -/
theorem infix_of_infix_append {init s tail : List α} {last : α} (avoids : last ∉ tail)
    (h : init ++ [last] <:+: s ++ tail) : init ++ [last] <:+: s := by
  rcases List.infix_append_iff.mp h with left | right | ⟨a, b, eq, ends, starts⟩
  · exact left
  · have mem : last ∈ init ++ [last] := List.mem_append_right init (List.mem_singleton_self last)
    exact absurd (right.subset mem) avoids
  · rcases List.eq_nil_or_concat b with rfl | ⟨b, x, rfl⟩
    · rw [List.append_nil] at eq
      rw [eq]
      exact ends.isInfix
    · rw [List.concat_eq_append, ← List.append_assoc] at eq
      have same : last = x := (List.append_inj' eq rfl).2 |> List.singleton_inj.mp
      rw [same] at avoids
      exact absurd (starts.subset (by simp)) avoids

/-- Behind a text without the needle, and a gap that avoids its last element, the first needle is
the next one. -/
theorem cutAt?_append_gap {init s gap : List α} {last : α} (absent : ¬ init ++ [last] <:+: s)
    (avoids : last ∉ gap ++ init) (after : List α) :
    cutAt? (init ++ [last]) (s ++ (gap ++ (init ++ [last] ++ after))) = some (s ++ gap, after) := by
  rw [← List.append_assoc s]
  refine cutAt?_eq (by simp) (fun a b eq => ?_) after
  rcases List.eq_nil_or_concat b with rfl | ⟨b, x, rfl⟩
  · rfl
  · rw [List.concat_eq_append, ← List.append_assoc, ← List.append_assoc] at eq
    have shorter : s ++ (gap ++ init) = a ++ (init ++ [last]) ++ b := by
      have eq := (List.append_inj' eq rfl).1
      rwa [List.append_assoc] at eq
    -- an earlier needle would end in the gap or in the start of this one
    have early : init ++ [last] <:+: s ++ (gap ++ init) := ⟨a, b, shorter.symm⟩
    exact absurd (infix_of_infix_append avoids early) absent

end SymbolDocs.Text
