import SymbolDocs.Record.Basic

namespace SymbolDocs.Links

theorem get?_cons (link : Text × Text) (links : Links) (label : Text) :
    Links.get? label (link :: links) =
      if label = link.1 then some link.2 else links.get? label := by
  rw [get?, List.find?_cons]
  by_cases here : label = link.1
  · rw [if_pos here, beq_iff_eq.mpr here.symm]
    rfl
  · have passed : (link.1 == label) = false := beq_false_of_ne (Ne.symm here)
    rw [if_neg here, passed, get?]

/-- Setting a link changes its label only. -/
theorem get?_set (label url : Text) (links : Links) (other : Text) :
    (links.set label url).get? other = if other = label then some url else links.get? other := by
  induction links with
  | nil => rw [set, get?_cons]
  | cons link links ih =>
    obtain ⟨l, u⟩ := link
    by_cases same : l = label
    · rw [set, if_pos same, get?_cons, get?_cons, same]
      by_cases asked : other = label
      · rw [if_pos asked, if_pos asked]
      · rw [if_neg asked, if_neg asked, if_neg asked]
    · rw [set, if_neg same]
      by_cases before : label < l
      · rw [if_pos before, get?_cons]
      · rw [if_neg before, get?_cons, get?_cons, ih]
        by_cases passed : other = l
        · have apart : other ≠ label := fun asked => same (passed.symm.trans asked)
          rw [if_pos passed, if_neg apart, if_pos passed]
        · rw [if_neg passed, if_neg passed]

theorem get?_setNew (label url : Text) (links : Links) (other : Text) :
    (links.setNew label url).get? other =
      (links.get? other).or (if other = label then some url else none) := by
  rw [setNew]
  by_cases known : (links.get? label).isSome
  · rw [if_pos known]
    by_cases asked : other = label
    · rw [asked, Option.or_of_isSome known]
    · rw [if_neg asked, Option.or_none]
  · have open' : links.get? label = none := Option.not_isSome_iff_eq_none.mp known
    rw [if_neg known, get?_set]
    by_cases asked : other = label
    · rw [if_pos asked, if_pos asked, asked, open', Option.none_or]
    · rw [if_neg asked, if_neg asked, Option.or_none]

/-- Links with the pairs whose labels are open. -/
def setAllNew (pairs : List (Text × Text)) (links : Links) : Links :=
  pairs.foldl (fun links (label, url) => links.setNew label url) links

theorem setAllNew_cons (label url : Text) (pairs : List (Text × Text)) (links : Links) :
    links.setAllNew ((label, url) :: pairs) = (links.setNew label url).setAllNew pairs := rfl

/-- Of one label the first pair counts, unless there is a link of that label. -/
theorem get?_setAllNew (pairs : List (Text × Text)) (links : Links) (label : Text) :
    (links.setAllNew pairs).get? label = (links.get? label).or (Links.get? label pairs) := by
  induction pairs generalizing links with
  | nil => exact (Option.or_none).symm
  | cons pair pairs ih =>
    obtain ⟨l, u⟩ := pair
    rw [setAllNew_cons, ih, get?_setNew, get?_cons, Option.or_assoc]
    by_cases first : label = l
    · rw [if_pos first, if_pos first, Option.some_or]
    · rw [if_neg first, if_neg first, Option.none_or]

/-- The labels stand in order, so that none stands twice. -/
def IsSorted (links : Links) : Prop := links.Pairwise fun link next => link.1 < next.1

theorem isSorted_nil : IsSorted [] := .nil

theorem mem_set {label url : Text} {links : Links} {link : Text × Text}
    (mem : link ∈ links.set label url) : link = (label, url) ∨ link ∈ links := by
  induction links with
  | nil => exact .inl (List.mem_singleton.mp mem)
  | cons first links ih =>
    obtain ⟨l, u⟩ := first
    rw [set] at mem
    split at mem
    · exact (List.mem_cons.mp mem).imp_right (List.mem_cons_of_mem _)
    · split at mem
      · exact List.mem_cons.mp mem
      · rcases List.mem_cons.mp mem with rfl | mem
        · exact .inr List.mem_cons_self
        · exact (ih mem).imp_right (List.mem_cons_of_mem _)

theorem IsSorted.set {links : Links} (sorted : links.IsSorted) (label url : Text) :
    (links.set label url).IsSorted := by
  induction links with
  | nil => exact List.pairwise_singleton _ _
  | cons link links ih =>
    obtain ⟨l, u⟩ := link
    obtain ⟨behind, rest⟩ := List.pairwise_cons.mp sorted
    by_cases same : l = label
    · rw [Links.set, if_pos same, ← same]
      exact List.pairwise_cons.mpr ⟨behind, rest⟩
    · rw [Links.set, if_neg same]
      by_cases before : label < l
      · rw [if_pos before]
        refine List.pairwise_cons.mpr ⟨fun link mem => ?_, sorted⟩
        rcases List.mem_cons.mp mem with rfl | mem
        · exact before
        · exact List.lt_trans before (behind link mem)
      · rw [if_neg before]
        have after : l < label := Decidable.byContradiction fun other =>
          same (List.le_antisymm (List.not_lt.mp before) (List.not_lt.mp other))
        refine List.pairwise_cons.mpr ⟨fun link mem => ?_, ih rest⟩
        rcases mem_set mem with rfl | mem
        · exact after
        · exact behind link mem

theorem IsSorted.setNew {links : Links} (sorted : links.IsSorted) (label url : Text) :
    (links.setNew label url).IsSorted := by
  rw [Links.setNew]
  split
  · exact sorted
  · exact sorted.set label url

theorem IsSorted.setAllNew {links : Links} (sorted : links.IsSorted)
    (pairs : List (Text × Text)) : (links.setAllNew pairs).IsSorted := by
  induction pairs generalizing links with
  | nil => exact sorted
  | cons pair pairs ih => exact ih (sorted.setNew pair.1 pair.2)

end SymbolDocs.Links
