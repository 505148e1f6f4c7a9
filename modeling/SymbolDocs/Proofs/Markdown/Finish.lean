import SymbolDocs.Markdown.Writer
import SymbolDocs.Proofs.Text.LineEnds

namespace SymbolDocs.Markdown

open Text

theorem isBlankChar_of_isBlankOrTab {c : Char} (blank : isBlankOrTab c) : isBlankChar c := by
  rw [isBlankOrTab, Bool.or_eq_true, beq_iff_eq, beq_iff_eq] at blank
  rcases blank with rfl | rfl
  · decide
  · decide

theorem dropWhile_dropWhile_isBlankOrTab (s : Text) :
    (s.dropWhile isBlankOrTab).dropWhile isBlankChar = s.dropWhile isBlankChar := by
  have blank : ∀ c ∈ s.takeWhile isBlankOrTab, isBlankChar c := fun c mem =>
    isBlankChar_of_isBlankOrTab (List.mem_takeWhile_imp mem)
  conv_rhs => rw [← List.takeWhile_append_dropWhile (p := isBlankOrTab) (l := s)]
  exact (List.dropWhile_append_of_pos blank).symm

theorem length_dropWhile_isBlankChar_le (s : Text) :
    (s.dropWhile isBlankChar).length ≤ (s.dropWhile isBlankOrTab).length := by
  rw [← dropWhile_dropWhile_isBlankOrTab]
  exact (List.dropWhile_suffix isBlankChar).length_le

/-- What becomes of a text that has been written. -/
def finished (s : Text) : Text :=
  trim (joinWith "\n" ((lines (collapseBlankLines s)).map trimEnd))

theorem Writer.feedAll_append (w : Writer) (events more : List Html.Node.Event) :
    w.feedAll (events ++ more) = (w.feedAll events).feedAll more := List.foldl_append

theorem Writer.finish_eq (w : Writer) : w.finish = finished w.written.reverse := rfl

theorem finished_eq (s : Text) : finished s =
    trim (joinWith "\n" ((splitOn '\n' (collapseBlankLines s)).map trimEnd)) :=
  trim_joinWith_lines (collapseBlankLines s)

theorem trim_finished (s : Text) : trim (finished s) = finished s := trim_trim _

theorem words_collapseBlankLines (s : Text) : words (collapseBlankLines s) = words s := by
  have behind : ∀ lead, words (lead ++ collapseBlankLines s) = words (lead ++ s) := by
    induction s with
    | nil => exact fun lead => rfl
    | cons c s ih =>
      intro lead
      rw [collapseBlankLines]
      split
      · next doubled =>
        obtain ⟨rfl, next⟩ := doubled
        obtain ⟨rest, rfl⟩ := startsWith_iff_prefix.mp next
        rw [ih lead, words_append_cons (by decide)]
        exact words_append_cons (c := '\n') (by decide) lead ('\n' :: rest)
      · have later := ih (lead ++ [c])
        rwa [List.append_assoc, List.append_assoc] at later
  exact behind []

theorem words_map_trimEnd (ls : List Text) : (ls.map trimEnd).flatMap words = ls.flatMap words := by
  rw [List.flatMap_map]
  exact congrArg (fun f => List.flatMap f ls) (funext words_trimEnd)

/-- Finishing a text leaves its words and their order. -/
theorem words_finished (s : Text) : words (finished s) = words s := by
  have joined := joinWith_splitOn '\n' (collapseBlankLines s)
  have parts := @words_joinWith_eq_flatMap ['\n'] (by decide) (by decide)
    (splitOn '\n' (collapseBlankLines s))
  rw [joined] at parts
  rw [finished_eq, words_trim, words_joinWith_eq_flatMap (by decide) (by decide),
    words_map_trimEnd, ← parts, words_collapseBlankLines]

theorem isBlank_iff_words {s : Text} : isBlank s ↔ words s = [] := by
  constructor
  · exact words_of_isBlank
  · intro none
    have visible := flatten_fields (p := isBlankChar) s
    rw [← words_eq_fields, none, List.flatten_nil, eq_comm, List.filter_eq_nil_iff] at visible
    exact List.all_eq_true.mpr fun c mem => by simpa using visible c mem

theorem finished_eq_nil_iff {s : Text} : finished s = [] ↔ isBlank s := by
  rw [← trim_finished, trim_eq_nil_iff, isBlank_iff_words, words_finished, isBlank_iff_words]

/-- What is not a line feed keeps the blank lines before and behind it apart. -/
theorem collapseBlankLines_append_cons {c : Char} (other : c ≠ '\n') (s t : Text) :
    collapseBlankLines (s ++ c :: t) = collapseBlankLines s ++ c :: collapseBlankLines t := by
  induction s with
  | nil =>
    have here : collapseBlankLines (c :: t) = c :: collapseBlankLines t := by
      rw [collapseBlankLines, if_neg (by simp [other])]
    exact here
  | cons d s ih =>
    have same : startsWith (s ++ c :: t) "\n\n" = startsWith s "\n\n" := by
      have twice : ("\n\n" : Text) = ['\n', '\n'] := rfl
      rw [Bool.eq_iff_iff, startsWith_iff_prefix, startsWith_iff_prefix, twice]
      rcases s with _ | ⟨x, _ | ⟨y, s⟩⟩
      · simp [other.symm]
      · simp [other.symm]
      · simp
    rw [List.cons_append, collapseBlankLines, collapseBlankLines, same, ih]
    split <;> rfl

theorem collapseBlankLines_of_not_mem {s : Text} (whole : '\n' ∉ s) :
    collapseBlankLines s = s := by
  induction s with
  | nil => rfl
  | cons c s ih =>
    have other : c ≠ '\n' := (List.ne_of_not_mem_cons whole).symm
    have step := collapseBlankLines_append_cons other [] s
    rw [ih (List.not_mem_of_not_mem_cons whole)] at step
    exact step

theorem sublist_collapseBlankLines (s : Text) : (collapseBlankLines s).Sublist s := by
  induction s with
  | nil => exact .slnil
  | cons c s ih =>
    rw [collapseBlankLines]
    split
    · exact ih.cons c
    · exact ih.cons_cons c

/-- White space at the end of a text leaves nothing behind. -/
theorem finished_trimEnd (s : Text) : finished (trimEnd s) = finished s := by
  rcases List.eq_nil_or_concat (trimEnd s) with none | ⟨lead, c, ends⟩
  · have blank : isBlank s := by rw [← isBlank_trimEnd, none]; rfl
    rw [finished_eq_nil_iff.mpr blank, none]
    rfl
  · rw [List.concat_eq_append] at ends
    obtain ⟨blank, all, eq⟩ := exists_eq_trimEnd_append s
    have visible : ¬ isBlankChar c :=
      not_isBlankChar_of_getLast?_trimEnd (s := s) (by rw [ends, List.getLast?_concat])
    have other : c ≠ '\n' := by
      rintro rfl
      exact visible (by decide)
    have here := collapseBlankLines_append_cons other lead []
    have whole := collapseBlankLines_append_cons other lead blank
    have left : isBlank (collapseBlankLines blank) := List.all_eq_true.mpr fun d mem =>
      List.all_eq_true.mp all d ((sublist_collapseBlankLines blank).subset mem)
    have parts : collapseBlankLines s =
        collapseBlankLines (trimEnd s) ++ collapseBlankLines blank := by
      rw [eq, ends, trimEnd_append_of_isBlank _ all, trimEnd_concat lead visible, here,
        List.append_assoc, List.singleton_append, whole, List.append_assoc]
      rfl
    rw [finished_eq, finished_eq s, parts, trim_joinWith_splitOn_append _ left]

theorem finished_congr {s t : Text} (same : trimEnd s = trimEnd t) : finished s = finished t := by
  rw [← finished_trimEnd, same, finished_trimEnd]

/-- Finishing a text adds nothing to it. -/
theorem length_finished_le (s : Text) : (finished s).length ≤ (trimEnd s).length := by
  have shorter : ∀ t : Text, (finished t).length ≤ t.length := by
    intro t
    have joined := length_joinWith_map_trimEnd_le ['\n'] (splitOn '\n' (collapseBlankLines t))
    rw [joinWith_splitOn] at joined
    rw [finished_eq]
    exact (length_trim_le _).trans (joined.trans (sublist_collapseBlankLines t).length_le)
  rw [← finished_trimEnd]
  exact shorter _

theorem finished_of_line {s : Text} (whole : '\n' ∉ s) : finished s = trim s := by
  rw [finished_eq, collapseBlankLines_of_not_mem whole, splitOn_of_not_mem whole,
    List.map_singleton, joinWith_singleton, trim_trimEnd]

end SymbolDocs.Markdown
