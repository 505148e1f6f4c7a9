import SymbolDocs.Proofs.Text.Tidy
import SymbolDocs.Text.Replace

namespace SymbolDocs.Text

theorem isBlank_append (s t : Text) : isBlank (s ++ t) = (isBlank s && isBlank t) :=
  List.all_append

theorem isBlank_cons (c : Char) (s : Text) : isBlank (c :: s) = (isBlankChar c && isBlank s) :=
  List.all_cons

theorem isBlank_trimStart (s : Text) : isBlank (trimStart s) = isBlank s := by
  have whole := List.takeWhile_append_dropWhile (p := isBlankChar) (l := s)
  have lead : isBlank (s.takeWhile isBlankChar) := List.all_takeWhile
  have parts := congrArg isBlank whole
  rw [isBlank_append, lead, Bool.true_and] at parts
  exact parts

theorem isBlank_trim (s : Text) : isBlank (trim s) = isBlank s := by
  rw [trim, isBlank_trimEnd, isBlank_trimStart]

theorem trim_trim (s : Text) : trim (trim s) = trim s := by
  by_cases blank : isBlank s
  · rw [trim_eq_nil_iff.mpr blank]
    rfl
  · obtain ⟨c, rest, eq, visible⟩ := exists_trimStart_eq_cons blank
    have whole : trim s = c :: trimEnd rest := by rw [trim, eq, trimEnd_cons visible]
    have starts : trimStart (trim s) = trim s := by
      rw [whole]
      exact List.dropWhile_cons_of_neg visible
    have ends : trimEnd (trim s) = trim s := trimEnd_trimEnd _
    rw [trim.eq_1 (trim s), starts, ends]

theorem mem_trim {c : Char} {s : Text} (mem : c ∈ s) (visible : ¬ isBlankChar c) : c ∈ trim s := by
  obtain ⟨blank, all, eq⟩ := exists_eq_trimEnd_append (trimStart s)
  rw [← List.takeWhile_append_dropWhile (p := isBlankChar) (l := s), List.mem_append] at mem
  rcases mem with lead | rest
  · exact absurd (List.mem_takeWhile_imp lead) visible
  · have kept : c ∈ trimEnd (trimStart s) ++ blank := eq ▸ rest
    rcases List.mem_append.mp kept with here | behind
    · exact here
    · exact absurd (List.all_eq_true.mp all c behind) visible

theorem isBlank_iff_of_trim {s : Text} (trimmed : trim s = s) : isBlank s ↔ s = [] := by
  rw [← trim_eq_nil_iff, trimmed]

/-- A word character, or anything else that is no white space, makes a text visible. -/
theorem not_isBlank_of_mem {c : Char} {s : Text} (mem : c ∈ s) (visible : ¬ isBlankChar c) :
    ¬ isBlank s := fun blank => visible (List.all_eq_true.mp blank c mem)

theorem not_isBlank_cons {c : Char} (visible : ¬ isBlankChar c) (s : Text) :
    ¬ isBlank (c :: s) := not_isBlank_of_mem List.mem_cons_self visible

theorem not_isBlank_joinWith {sep piece : Text} {pieces : List Text} (mem : piece ∈ pieces)
    (visible : ¬ isBlank piece) : ¬ isBlank (joinWith sep pieces) := by
  obtain ⟨c, inside, seen⟩ : ∃ c ∈ piece, ¬ isBlankChar c := by
    simpa [isBlank] using visible
  have joined : c ∈ joinWith sep pieces := by
    clear visible
    induction pieces with
    | nil => exact absurd mem List.not_mem_nil
    | cons first more ih =>
      by_cases alone : more = []
      · rw [alone, List.mem_singleton] at mem
        rw [alone, joinWith_singleton, ← mem]
        exact inside
      · rw [joinWith_cons sep first alone]
        rcases List.mem_cons.mp mem with rfl | later
        · exact List.mem_append_left _ (List.mem_append_left _ inside)
        · exact List.mem_append_right _ (ih later)
  exact not_isBlank_of_mem joined seen

section Lines

variable {line : Text} {lines : List Text}

theorem mem_dropWhile_isBlank (mem : line ∈ lines) (visible : ¬ isBlank line) :
    line ∈ lines.dropWhile isBlank := by
  rw [← List.takeWhile_append_dropWhile (p := isBlank) (l := lines)] at mem
  exact (List.mem_append.mp mem).resolve_left fun lead => visible (List.mem_takeWhile_imp lead)

theorem mem_dropBlankEnds (mem : line ∈ lines) (visible : ¬ isBlank line) :
    line ∈ dropBlankEnds lines := by
  rw [dropBlankEnds, List.mem_reverse]
  exact mem_dropWhile_isBlank (List.mem_reverse.mpr (mem_dropWhile_isBlank mem visible)) visible

theorem exists_mem_dropBlankEnds (ne : dropBlankEnds lines ≠ []) :
    ∃ line ∈ dropBlankEnds lines, ¬ isBlank line := by
  rw [dropBlankEnds, ne_eq, List.reverse_eq_nil_iff] at ne
  refine ⟨_, List.mem_reverse.mpr (List.head_mem ne), ?_⟩
  rw [List.head_dropWhile_not isBlank ne]
  exact Bool.false_ne_true

/-- Lines of an example with something on one of them. -/
theorem not_isBlank_dedent (mem : line ∈ lines) (visible : ¬ isBlank line) :
    ¬ isBlank (dedent lines) := by
  have moved := not_isBlank_dropIndent visible (margin lines)
  exact not_isBlank_joinWith (mem_dropBlankEnds (List.mem_map_of_mem mem) moved) moved

theorem not_isBlank_dedent_of_ne_nil (ne : dedent lines ≠ []) : ¬ isBlank (dedent lines) := by
  have left : dropBlankEnds (lines.map (dropIndent (margin lines))) ≠ [] := by
    intro none
    rw [dedent, none] at ne
    exact ne rfl
  obtain ⟨line, mem, visible⟩ := exists_mem_dropBlankEnds left
  exact not_isBlank_joinWith mem visible

/-- Paragraphs are made of lines that are not blank. -/
theorem not_isBlank_of_mem_paragraphs {run : List Text} (inside : run ∈ paragraphs lines) :
    run ≠ [] ∧ ∀ line ∈ run, ¬ isBlank line := by
  rw [paragraphs, List.mem_filter] at inside
  obtain ⟨mem, filled⟩ := inside
  refine ⟨by simpa using filled, ?_⟩
  clear filled
  induction lines generalizing run with
  | nil =>
    rw [List.foldr_nil, List.mem_singleton] at mem
    rw [mem]
    exact nofun
  | cons line lines ih =>
    rw [List.foldr_cons] at mem
    by_cases blank : isBlank line
    · rw [if_pos blank] at mem
      rcases List.mem_cons.mp mem with rfl | later
      · exact nofun
      · exact ih later
    · rw [if_neg blank] at mem
      split at mem
      · rw [List.mem_singleton.mp mem]
        exact fun l here => List.mem_singleton.mp here ▸ blank
      · next first more runs =>
        rw [runs] at ih
        rcases List.mem_cons.mp mem with rfl | later
        · intro l here
          rcases List.mem_cons.mp here with rfl | here
          · exact blank
          · exact ih List.mem_cons_self l here
        · exact ih (List.mem_cons_of_mem first later)

theorem not_isBlank_of_paragraphText? {text : Text} (some : paragraphText? lines = some text) :
    ¬ isBlank text := by
  rw [paragraphText?, nonEmpty?] at some
  split at some
  · cases some
  · next filled =>
    rw [← Option.some.inj some]
    cases known : paragraphs lines with
    | nil =>
      rw [known] at filled
      exact absurd rfl filled
    | cons run more =>
      obtain ⟨ne, all⟩ := not_isBlank_of_mem_paragraphs (known ▸ List.mem_cons_self)
      obtain ⟨line, mem⟩ := List.exists_mem_of_ne_nil run ne
      have shown : ¬ isBlank (trimEnd line) := by
        rw [isBlank_trimEnd]
        exact all line mem
      exact not_isBlank_joinWith List.mem_cons_self
        (not_isBlank_joinWith (List.mem_map_of_mem mem) shown)

end Lines

/-- Visible text takes the place of visible text. -/
def Substitution.KeepsVisible (sub : Substitution) : Prop :=
  ∀ prev s replacement count, sub prev s = some (replacement, count) →
    ¬ isBlank replacement ∧ ∃ c rest, s = c :: rest ∧ ¬ isBlankChar c

theorem isBlank_substitute {sub : Substitution} (keeps : sub.KeepsVisible) (s : Text) :
    isBlank (substitute sub s) = isBlank s := by
  have anywhere : ∀ prev, isBlank (substituteFrom sub 0 prev s) = isBlank s := by
    induction s with
    | nil => exact fun prev => rfl
    | cons c s ih =>
      intro prev
      rw [substituteFrom]
      cases found : sub prev (c :: s) with
      | none =>
        simp only [isBlank_cons, ih]
      | some way =>
        obtain ⟨replacement, count⟩ := way
        obtain ⟨shown, d, rest, eq, visible⟩ := keeps prev (c :: s) replacement count found
        obtain ⟨rfl, rfl⟩ := List.cons.inj eq
        simp only [isBlank_append, isBlank_cons]
        rw [Bool.eq_false_iff.mpr shown, Bool.eq_false_iff.mpr visible,
          Bool.false_and, Bool.false_and]
  exact anywhere none

end SymbolDocs.Text
