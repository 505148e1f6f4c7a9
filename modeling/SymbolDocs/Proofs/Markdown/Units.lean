import SymbolDocs.Proofs.Markdown.Inline

namespace SymbolDocs.Markdown

open Text

def EndsOpen (s : Text) : Prop := s.getLast? = some '['

instance : DecidablePred EndsOpen := fun s => inferInstanceAs (Decidable (s.getLast? = some '['))

/-- Something that is written in one piece: it ends in a visible character. -/
def IsUnit (u : Text) : Prop := ∃ s c, u = s ++ [c] ∧ ¬ isBlankChar c

/-- No unit that another one follows ends in an opening bracket. -/
def AreSpaced (units : List Text) : Prop := ∀ u ∈ units.dropLast, ¬ EndsOpen u

instance : DecidablePred AreSpaced := fun units =>
  inferInstanceAs (Decidable (∀ u ∈ units.dropLast, ¬ EndsOpen u))

/-- Less has been written than units with single spaces between them. -/
structure IsShort (units : List Text) (written : Text) : Prop where
  total : written.length ≤ (joinWith " " units).length
  trimmed : (written.dropWhile isBlankOrTab).length < (joinWith " " units).length

/-- Units are written with single spaces between them, and set off from what comes, provided that
all has been well so far and they can be set off from each other. Otherwise less is written. -/
structure Tracks (well : Prop) (units : List Text) (written : Text) : Prop where
  whole : well → AreSpaced units → written = gapped (joinWith " " units).reverse
  short : ¬ (well ∧ AreSpaced units) → IsShort units written

theorem isUnit_of_isWord {w : Text} (word : IsWord w) : IsUnit w := by
  rcases List.eq_nil_or_concat w with empty | ⟨s, c, eq⟩
  · exact absurd empty word.1
  · rw [List.concat_eq_append] at eq
    exact ⟨s, c, eq, word.2 c (by simp [eq])⟩

theorem areSpaced_concat_iff {units : List Text} {u : Text} :
    AreSpaced (units ++ [u]) ↔ ∀ v ∈ units, ¬ EndsOpen v := by
  rw [AreSpaced, List.dropLast_concat]

theorem joinWith_concat_of_ne_nil {units : List Text} (ne : units ≠ []) (u : Text) :
    joinWith " " (units ++ [u]) = joinWith " " units ++ ' ' :: u := by
  rw [joinWith_append " " ne (List.cons_ne_nil u []), joinWith_singleton, List.append_assoc]
  rfl

theorem length_le_joinWith_concat (units : List Text) (u : Text) :
    (joinWith " " units).length + u.length ≤ (joinWith " " (units ++ [u])).length := by
  by_cases empty : units = []
  · rw [empty, List.nil_append, joinWith_singleton]
    exact (Nat.zero_add _).le
  · rw [joinWith_concat_of_ne_nil empty, List.length_append, List.length_cons]
    omega

theorem dropWhile_blankOrTab_gapped (written : Text) :
    (gapped written).dropWhile isBlankOrTab = written.dropWhile isBlankOrTab := by
  cases written with
  | nil => rfl
  | cons c written =>
    rw [gapped]
    split
    · rfl
    · rw [List.dropWhile_cons_of_pos (by decide)]

theorem isShort_gapped {units : List Text} {written : Text}
    (less : written.length < (joinWith " " units).length) : IsShort units (gapped written) := by
  refine ⟨(length_gapped_le written).trans less, ?_⟩
  rw [dropWhile_blankOrTab_gapped]
  exact (List.dropWhile_suffix isBlankOrTab).length_le.trans_lt less

/-- The last character of a text of units is the last one of the last unit. -/
theorem exists_joinWith_concat_eq (units : List Text) (s : Text) (c : Char) :
    ∃ t, joinWith " " (units ++ [s ++ [c]]) = t ++ [c] := by
  rw [joinWith_concat, ← List.append_assoc]
  exact ⟨_, rfl⟩

theorem gapped_joinWith_of_endsOpen {units : List Text} {u : Text} (isOpen : EndsOpen u) :
    gapped (joinWith " " (units ++ [u])).reverse = (joinWith " " (units ++ [u])).reverse := by
  obtain ⟨s, rfl⟩ := List.getLast?_eq_some_iff.mp isOpen
  obtain ⟨t, eq⟩ := exists_joinWith_concat_eq units s '['
  rw [eq, List.reverse_append]
  rfl

theorem gapped_joinWith_of_not_endsOpen {units : List Text} {u : Text} (unit : IsUnit u)
    (other : ¬ EndsOpen u) : gapped (joinWith " " (units ++ [u])).reverse =
      ' ' :: (joinWith " " (units ++ [u])).reverse := by
  obtain ⟨s, c, rfl, visible⟩ := unit
  obtain ⟨t, eq⟩ := exists_joinWith_concat_eq units s c
  have differs : c ≠ '[' := by
    rintro rfl
    exact other List.getLast?_concat
  rw [eq, List.reverse_append]
  exact gapped_of_visible visible differs t.reverse

theorem dropWhile_joinWith {units : List Text} {u : Text} (unit : IsUnit u) :
    (joinWith " " (units ++ [u])).reverse.dropWhile isBlankOrTab =
      (joinWith " " (units ++ [u])).reverse := by
  obtain ⟨s, c, rfl, visible⟩ := unit
  obtain ⟨t, eq⟩ := exists_joinWith_concat_eq units s c
  rw [eq, List.reverse_append, List.reverse_singleton, List.singleton_append,
    List.dropWhile_cons_of_neg fun blank => visible (isBlankChar_of_isBlankOrTab blank)]

theorem closed_space {written : Text} (trimmed : written.dropWhile isBlankOrTab = written)
    (target : Text) : closed target (' ' :: written) = (linkEnd target).reverse ++ written := by
  have here : closed target (' ' :: written) =
      (linkEnd target).reverse ++ (' ' :: written).dropWhile isBlankOrTab := rfl
  rw [here, List.dropWhile_cons_of_pos (by decide), trimmed]

/-- A link that ends takes back a bracket, or adds its end to what stands in front of the spaces. -/
theorem length_closed_le (target written : Text) : (closed target written).length + 1 ≤
    max written.length ((written.dropWhile isBlankOrTab).length + (linkEnd target).length + 1) := by
  unfold closed
  split
  · exact le_max_left ..
  · rw [List.length_append, List.length_reverse, Nat.add_comm (linkEnd target).length]
    exact le_max_right ..

theorem length_closed_of_endsOpen (units : List Text) {u : Text} (isOpen : EndsOpen u)
    (target : Text) : (closed target (joinWith " " (units ++ [u])).reverse).length <
      (joinWith " " (units ++ [u])).length := by
  obtain ⟨s, rfl⟩ := List.getLast?_eq_some_iff.mp isOpen
  obtain ⟨t, eq⟩ := exists_joinWith_concat_eq units s '['
  rw [eq, List.reverse_append, List.reverse_singleton, List.singleton_append, closed,
    List.length_reverse, List.length_append]
  exact Nat.lt_succ_self _

namespace Tracks

variable {well : Prop} {units : List Text} {written : Text}

theorem nil : Tracks True [] [] :=
  ⟨fun _ _ => rfl, fun no => absurd ⟨trivial, fun _ mem => absurd mem List.not_mem_nil⟩ no⟩

theorem length_le (tracks : Tracks well units written) :
    written.length ≤ (joinWith " " units).length + 1 := by
  by_cases good : well ∧ AreSpaced units
  · rw [tracks.whole good.1 good.2]
    exact (length_gapped_le _).trans (by rw [List.length_reverse])
  · exact (tracks.short good).total.trans (Nat.le_succ _)

theorem unit (tracks : Tracks well units written) (sound : ∀ v ∈ units, IsUnit v) (u : Text) :
    Tracks well (units ++ [u]) (gapped (u.reverse ++ written)) := by
  rcases List.eq_nil_or_concat units with rfl | ⟨init, last, eq⟩
  · have alone : AreSpaced [] := fun _ mem => absurd mem List.not_mem_nil
    refine ⟨fun good _ => ?_, fun bad => ?_⟩
    · rw [tracks.whole good alone, List.nil_append, joinWith_singleton]
      exact congrArg gapped (List.append_nil _)
    · have good : well := by
        by_contra no
        exact absurd (tracks.short fun h => no h.1).trimmed (Nat.not_lt_zero _)
      exact absurd ⟨good, areSpaced_concat_iff.mpr fun _ mem => absurd mem List.not_mem_nil⟩ bad
  · rw [List.concat_eq_append] at eq
    subst eq
    have unitLast := sound last (by simp)
    have longer := @joinWith_concat_of_ne_nil (init ++ [last]) (by simp) u
    refine ⟨fun good spaced => ?_, fun bad => isShort_gapped ?_⟩
    · rw [areSpaced_concat_iff] at spaced
      have before : AreSpaced (init ++ [last]) :=
        areSpaced_concat_iff.mpr fun v mem => spaced v (by simp [mem])
      rw [tracks.whole good before,
        gapped_joinWith_of_not_endsOpen unitLast (spaced last (by simp)), longer]
      simp
    · have before : written.length ≤ (joinWith " " (init ++ [last])).length := by
        by_cases good : well ∧ AreSpaced (init ++ [last])
        · have isOpen : EndsOpen last := by
            by_contra closed
            refine bad ⟨good.1, areSpaced_concat_iff.mpr fun v mem => ?_⟩
            rcases List.mem_append.mp mem with mem | mem
            · exact areSpaced_concat_iff.mp good.2 v mem
            · rwa [List.mem_singleton.mp mem]
          rw [tracks.whole good.1 good.2, gapped_joinWith_of_endsOpen isOpen, List.length_reverse]
        · exact (tracks.short good).total
      rw [longer, List.length_append, List.length_append, List.length_reverse, List.length_cons]
      omega

theorem words (tracks : Tracks well units written) (sound : ∀ v ∈ units, IsUnit v)
    {ws : List Text} (all : ∀ w ∈ ws, IsUnit w) :
    Tracks well (units ++ ws) (withWords written ws) := by
  induction ws generalizing units written with
  | nil => rwa [List.append_nil]
  | cons w ws ih =>
    have here := tracks.unit sound w
    have sound' : ∀ v ∈ units ++ [w], IsUnit v := by
      intro v mem
      rcases List.mem_append.mp mem with mem | mem
      · exact sound v mem
      · exact all v (by simp [List.mem_singleton.mp mem])
    have rest := ih here sound' fun v mem => all v (List.mem_cons_of_mem w mem)
    rwa [List.append_assoc, List.singleton_append] at rest

/-- The last units become the text of a link, unless one of them ends in a bracket. -/
theorem close {init : List Text} {last : Text}
    (tracks : Tracks well (units ++ (init ++ [last])) written) (unitLast : IsUnit last)
    (target : Text) : Tracks (well ∧ ∀ v ∈ init ++ [last], ¬ EndsOpen v)
      (units ++ [joinWith " " (init ++ [last]) ++ linkEnd target])
      (gapped (closed target written)) := by
  have joined : joinWith " " (units ++ [joinWith " " (init ++ [last]) ++ linkEnd target]) =
      joinWith " " (units ++ (init ++ [last])) ++ linkEnd target := by
    by_cases ne : units = []
    · rw [ne, List.nil_append, List.nil_append, joinWith_singleton]
    · rw [joinWith_append _ ne (by simp), joinWith_append _ ne (by simp), joinWith_singleton]
      simp only [List.append_assoc]
  rw [← List.append_assoc] at tracks joined
  refine ⟨fun good spaced => ?_, fun bad => isShort_gapped ?_⟩
  · rw [areSpaced_concat_iff] at spaced
    have before : AreSpaced (units ++ init ++ [last]) := by
      refine areSpaced_concat_iff.mpr fun v mem => ?_
      rcases List.mem_append.mp mem with mem | mem
      · exact spaced v mem
      · exact good.2 v (by simp [mem])
    rw [tracks.whole good.1 before,
      gapped_joinWith_of_not_endsOpen unitLast (good.2 last (by simp)),
      closed_space (dropWhile_joinWith unitLast), joined, List.reverse_append]
  · rw [joined, List.length_append]
    by_cases good : well ∧ AreSpaced (units ++ init ++ [last])
    · have isOpen : EndsOpen last := by
        by_contra other
        refine bad ⟨⟨good.1, fun v mem => ?_⟩, areSpaced_concat_iff.mpr fun v mem => ?_⟩
        · rcases List.mem_append.mp mem with mem | mem
          · exact areSpaced_concat_iff.mp good.2 v (by simp [mem])
          · rwa [List.mem_singleton.mp mem]
        · exact areSpaced_concat_iff.mp good.2 v (by simp [mem])
      rw [tracks.whole good.1 good.2, gapped_joinWith_of_endsOpen isOpen]
      have short := length_closed_of_endsOpen (units ++ init) isOpen target
      omega
    · have less := tracks.short good
      have size := length_closed_le target written
      have total := less.total
      have trimmed := less.trimmed
      omega

end Tracks

end SymbolDocs.Markdown
