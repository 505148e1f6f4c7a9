import SymbolDocs.Proofs.Text.Lines
import SymbolDocs.Proofs.Text.Trim

namespace SymbolDocs.Text

/-- The runs of characters that do not satisfy `p`, as long as possible. -/
def fields (p : Char → Bool) (s : Text) : List Text := (splitWhen p s).filter (!·.isEmpty)

variable {p q : Char → Bool} {c : Char}

theorem splitWhen_append {s t piece : Text} {more : List Text}
    (none : ∀ c ∈ s, ¬ p c) (rest : splitWhen p t = piece :: more) :
    splitWhen p (s ++ t) = (s ++ piece) :: more := by
  induction s with
  | nil => exact rest
  | cons c s ih =>
    have tail := ih fun d mem => none d (List.mem_cons_of_mem c mem)
    exact splitWhen_cons_of_neg (none c List.mem_cons_self) tail

theorem splitWhen_append_cons (here : p c) (s t : Text) :
    splitWhen p (s ++ c :: t) = splitWhen p s ++ splitWhen p t := by
  induction s with
  | nil => exact splitWhen_cons_of_pos here t
  | cons d s ih =>
    by_cases first : p d
    · rw [List.cons_append, splitWhen_cons_of_pos first, splitWhen_cons_of_pos first, ih,
        List.cons_append]
    · obtain ⟨piece, more, split⟩ := exists_splitWhen_eq_cons p s
      rw [split, List.cons_append] at ih
      rw [List.cons_append, splitWhen_cons_of_neg first ih, splitWhen_cons_of_neg first split,
        List.cons_append]

theorem not_of_mem_splitWhen {s piece : Text} (mem : piece ∈ splitWhen p s) :
    ∀ c ∈ piece, ¬ p c := by
  induction s generalizing piece with
  | nil =>
    rw [show splitWhen p [] = [[]] from rfl, List.mem_singleton] at mem
    simp [mem]
  | cons d s ih =>
    by_cases here : p d
    · rw [splitWhen_cons_of_pos here, List.mem_cons] at mem
      rcases mem with rfl | mem
      · simp
      · exact ih mem
    · obtain ⟨first, more, split⟩ := exists_splitWhen_eq_cons p s
      rw [splitWhen_cons_of_neg here split, List.mem_cons] at mem
      rw [split] at ih
      rcases mem with rfl | mem
      · have rest := ih List.mem_cons_self
        intro c inside
        rcases List.mem_cons.mp inside with rfl | inside
        · exact here
        · exact rest c inside
      · exact ih (List.mem_cons_of_mem first mem)

theorem infix_of_mem_splitWhen {s piece : Text} (mem : piece ∈ splitWhen p s) :
    piece <:+: s := by
  -- the first piece is what grows with the text
  have parts : ∀ first more, splitWhen p s = first :: more →
      first <+: s ∧ ∀ q ∈ more, q <:+: s := by
    clear mem
    induction s with
    | nil =>
      intro first more split
      obtain ⟨rfl, rfl⟩ := List.cons.inj split
      exact ⟨List.nil_prefix, nofun⟩
    | cons c s ih =>
      obtain ⟨next, rest, tail⟩ := exists_splitWhen_eq_cons p s
      obtain ⟨lead, others⟩ := ih next rest tail
      intro first more split
      by_cases here : p c
      · rw [splitWhen_cons_of_pos here, tail] at split
        obtain ⟨rfl, rfl⟩ := List.cons.inj split
        refine ⟨List.nil_prefix, fun q mem => ?_⟩
        rcases List.mem_cons.mp mem with rfl | mem
        · exact List.infix_cons lead.isInfix
        · exact List.infix_cons (others q mem)
      · rw [splitWhen_cons_of_neg here tail] at split
        obtain ⟨rfl, rfl⟩ := List.cons.inj split
        exact ⟨List.cons_prefix_cons.mpr ⟨rfl, lead⟩, fun q mem => List.infix_cons (others q mem)⟩
  obtain ⟨first, more, split⟩ := exists_splitWhen_eq_cons p s
  obtain ⟨lead, others⟩ := parts first more split
  rw [split] at mem
  rcases List.mem_cons.mp mem with rfl | mem
  · exact lead.isInfix
  · exact others piece mem

theorem fields_of_none {s : Text} (ne : s ≠ []) (none : ∀ c ∈ s, ¬ p c) : fields p s = [s] := by
  have split := splitWhen_append none (rfl : splitWhen p [] = [[]])
  rw [List.append_nil] at split
  simp [fields, split, ne]

theorem mem_fields {s field : Text} (mem : field ∈ fields p s) :
    field ≠ [] ∧ ∀ c ∈ field, ¬ p c := by
  obtain ⟨piece, some⟩ := List.mem_filter.mp mem
  exact ⟨by simpa using some, not_of_mem_splitWhen piece⟩

theorem infix_of_mem_fields {s field : Text} (mem : field ∈ fields p s) : field <:+: s :=
  infix_of_mem_splitWhen (List.mem_filter.mp mem).1

/-- What is not cut stands within a field. -/
theorem exists_mem_fields_infix {needle s : Text} (ne : needle ≠ []) (none : ∀ c ∈ needle, ¬ p c)
    (inside : needle <:+: s) : ∃ field ∈ fields p s, needle <:+: field := by
  obtain ⟨lead, rest, rfl⟩ := inside
  have found : ∃ piece ∈ splitWhen p (lead ++ needle ++ rest), needle <:+: piece := by
    induction lead with
    | nil =>
      obtain ⟨piece, more, split⟩ := exists_splitWhen_eq_cons p rest
      refine ⟨needle ++ piece, ?_, (List.prefix_append needle piece).isInfix⟩
      rw [List.nil_append, splitWhen_append none split]
      exact List.mem_cons_self
    | cons c lead ih =>
      obtain ⟨piece, mem, found⟩ := ih
      rw [List.cons_append, List.cons_append]
      by_cases here : p c
      · rw [splitWhen_cons_of_pos here]
        exact ⟨piece, List.mem_cons_of_mem _ mem, found⟩
      · obtain ⟨first, more, split⟩ := exists_splitWhen_eq_cons p (lead ++ needle ++ rest)
        rw [splitWhen_cons_of_neg here split]
        rw [split] at mem
        rcases List.mem_cons.mp mem with rfl | mem
        · exact ⟨c :: piece, List.mem_cons_self, List.infix_cons found⟩
        · exact ⟨piece, List.mem_cons_of_mem _ mem, found⟩
  obtain ⟨piece, mem, found⟩ := found
  refine ⟨piece, List.mem_filter.mpr ⟨mem, ?_⟩, found⟩
  cases piece with
  | nil => exact absurd (List.infix_nil.mp found) ne
  | cons c piece => rfl

theorem fields_append_cons (here : p c) (s t : Text) :
    fields p (s ++ c :: t) = fields p s ++ fields p t := by
  rw [fields, splitWhen_append_cons here, List.filter_append]
  rfl

theorem fields_append_of_all {gap : Text} (all : ∀ c ∈ gap, p c) (s : Text) :
    fields p (gap ++ s) = fields p s := by
  induction gap with
  | nil => rfl
  | cons c gap ih =>
    have tail := ih fun d mem => all d (List.mem_cons_of_mem c mem)
    exact (fields_append_cons (all c List.mem_cons_self) [] (gap ++ s)).trans tail

theorem fields_append_all (s : Text) {gap : Text} (all : ∀ c ∈ gap, p c) :
    fields p (s ++ gap) = fields p s := by
  cases gap with
  | nil => rw [List.append_nil]
  | cons c gap =>
    have none := fields_append_of_all (fun d mem => all d (List.mem_cons_of_mem c mem)) []
    rw [List.append_nil] at none
    rw [fields_append_cons (all c List.mem_cons_self), none]
    exact List.append_nil _

theorem fields_append_gap {gap : Text} (ne : gap ≠ []) (all : ∀ c ∈ gap, p c) (s t : Text) :
    fields p (s ++ gap ++ t) = fields p s ++ fields p t := by
  obtain ⟨c, gap, rfl⟩ := List.exists_cons_of_ne_nil ne
  have tail := fields_append_of_all (fun d mem => all d (List.mem_cons_of_mem c mem)) t
  rw [List.append_assoc, List.cons_append, fields_append_cons (all c List.mem_cons_self), tail]

theorem fields_dropWhile (s : Text) : fields p (s.dropWhile p) = fields p s := by
  have all : ∀ c ∈ s.takeWhile p, p c := fun c mem => List.mem_takeWhile_imp mem
  have cut := fields_append_of_all all (s.dropWhile p)
  rw [List.takeWhile_append_dropWhile] at cut
  exact cut.symm

theorem fields_dropEndWhile (s : Text) : fields p (dropEndWhile p s) = fields p s := by
  obtain ⟨ending, all, whole⟩ := exists_eq_dropEnd_append p s
  have cut := fields_append_all (s.reverse.dropWhile p).reverse all
  rw [← whole] at cut
  exact cut.symm

theorem fields_joinWith {sep : Text} (ne : sep ≠ []) (all : ∀ c ∈ sep, p c)
    (pieces : List Text) : fields p (joinWith sep pieces) = pieces.flatMap (fields p) := by
  induction pieces with
  | nil => rfl
  | cons piece pieces ih =>
    by_cases last : pieces = []
    · rw [last, joinWith_singleton, List.flatMap_singleton]
    · rw [joinWith_cons sep piece last, fields_append_gap ne all, ih, List.flatMap_cons]

/-- Texts without a cut, and then texts with one more cut in front. -/
theorem cut_induction (p : Char → Bool) {motive : Text → Prop}
    (last : ∀ s : Text, (∀ c ∈ s, ¬ p c) → motive s)
    (cut : ∀ (lead : Text) (c : Char) (rest : Text), (∀ d ∈ lead, ¬ p d) → p c → motive rest →
      motive (lead ++ c :: rest)) (s : Text) : motive s := by
  have behind : ∀ lead : Text, (∀ c ∈ lead, ¬ p c) → motive (lead ++ s) := by
    induction s with
    | nil =>
      intro lead none
      rw [List.append_nil]
      exact last lead none
    | cons c s ih =>
      intro lead none
      by_cases here : p c
      · exact cut lead c s none here (ih [] (List.forall_mem_nil _))
      · have more : ∀ d ∈ lead ++ [c], ¬ p d := by
          intro d mem
          rcases List.mem_append.mp mem with mem | mem
          · exact none d mem
          · rwa [List.mem_singleton.mp mem]
        have later := ih (lead ++ [c]) more
        rwa [List.append_assoc] at later
  exact behind [] (List.forall_mem_nil _)

/-- Nothing but the places of the cuts is lost. -/
theorem flatten_fields (s : Text) : (fields p s).flatten = s.filter (!p ·) := by
  have whole : ∀ s : Text, (∀ c ∈ s, ¬ p c) → (fields p s).flatten = s := by
    intro s none
    by_cases empty : s = []
    · rw [empty]
      rfl
    · rw [fields_of_none empty none, List.flatten_singleton]
  have kept : ∀ s : Text, (∀ c ∈ s, ¬ p c) → s.filter (!p ·) = s := fun s none =>
    List.filter_eq_self.mpr fun c mem => by simpa using none c mem
  induction s using cut_induction p with
  | last s none => rw [whole s none, kept s none]
  | cut lead c rest none here ih =>
    rw [fields_append_cons here, List.flatten_append, whole lead none, ih, List.filter_append,
      kept lead none, List.filter_cons_of_neg (by simpa using here)]

/-- A text can be cut at fewer places first. -/
theorem flatMap_fields (fewer : ∀ c, q c → p c) (s : Text) :
    (fields q s).flatMap (fields p) = fields p s := by
  have whole : ∀ s : Text, (∀ c ∈ s, ¬ q c) → (fields q s).flatMap (fields p) = fields p s := by
    intro s none
    by_cases empty : s = []
    · rw [empty]
      rfl
    · rw [fields_of_none empty none, List.flatMap_singleton]
  induction s using cut_induction q with
  | last s none => exact whole s none
  | cut lead c rest none here ih =>
    rw [fields_append_cons here, fields_append_cons (fewer c here), List.flatMap_append,
      whole lead none, ih]

end SymbolDocs.Text
