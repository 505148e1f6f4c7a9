import SymbolDocs.Proofs.Text.Visible

namespace SymbolDocs.Text

theorem trim_append (s : Text) {blank : Text} (all : isBlank blank) :
    trim (s ++ blank) = trim s := by
  by_cases empty : isBlank s
  · have both : isBlank (s ++ blank) := by rw [isBlank_append, empty, all]; rfl
    rw [trim_eq_nil_iff.mpr both, trim_eq_nil_iff.mpr empty]
  · rw [trim, trimStart_append empty, trimEnd_append_of_isBlank _ all]
    rfl

theorem trimEnd_reverse (s : Text) : trimEnd s.reverse = (s.dropWhile isBlankChar).reverse := by
  rw [trimEnd, dropEndWhile, List.reverse_reverse]

theorem length_trim_le (s : Text) : (trim s).length ≤ s.length :=
  (prefix_trimEnd _).length_le.trans (List.dropWhile_suffix isBlankChar).length_le

theorem length_joinWith_map_trimEnd_le (sep : Text) (ls : List Text) :
    (joinWith sep (ls.map trimEnd)).length ≤ (joinWith sep ls).length := by
  induction ls with
  | nil => exact Nat.le_refl _
  | cons line ls ih =>
    have here := (prefix_trimEnd line).length_le
    by_cases alone : ls = []
    · rw [alone, List.map_singleton, joinWith_singleton, joinWith_singleton]
      exact here
    · rw [List.map_cons, joinWith_cons sep _ (by simpa using alone), joinWith_cons sep _ alone]
      simp only [List.length_append]
      omega

theorem trim_trimEnd (s : Text) : trim (trimEnd s) = trim s := by
  obtain ⟨blank, all, eq⟩ := exists_eq_trimEnd_append s
  have cut := trim_append (trimEnd s) all
  rw [← eq] at cut
  exact cut.symm

theorem isBlank_joinWith {sep : Text} (blank : isBlank sep) {pieces : List Text}
    (all : ∀ piece ∈ pieces, isBlank piece) : isBlank (joinWith sep pieces) := by
  induction pieces with
  | nil => rfl
  | cons piece pieces ih =>
    have here := all piece List.mem_cons_self
    have rest := ih fun p mem => all p (List.mem_cons_of_mem piece mem)
    by_cases last : pieces = []
    · rw [last, joinWith_singleton]
      exact here
    · rw [joinWith_cons sep piece last, isBlank_append, isBlank_append, here, blank, rest]
      rfl

/-- Blank lines at either end fall away when the text is trimmed. -/
theorem trim_joinWith_blankEnds {sep : Text} (blank : isBlank sep) {lead lines ending : List Text}
    (ne : lines ≠ []) (before : ∀ l ∈ lead, isBlank l) (behind : ∀ l ∈ ending, isBlank l) :
    trim (joinWith sep (lead ++ lines ++ ending)) = trim (joinWith sep lines) := by
  have front : trim (joinWith sep (lead ++ lines)) = trim (joinWith sep lines) := by
    by_cases none : lead = []
    · rw [none, List.nil_append]
    · have all : isBlank (joinWith sep lead ++ sep) := by
        rw [isBlank_append, isBlank_joinWith blank before, blank]
        rfl
      rw [joinWith_append sep none ne, trim_append_of_isBlank all]
  by_cases none : ending = []
  · rw [none, List.append_nil, front]
  · have all : isBlank (sep ++ joinWith sep ending) := by
      rw [isBlank_append, isBlank_joinWith blank behind, blank]
      rfl
    rw [joinWith_append sep (by simp [ne]) none, List.append_assoc, trim_append _ all, front]

theorem trimEnd_dropReturn (line : Text) : trimEnd (dropReturn line) = trimEnd line := by
  rcases eq_dropReturn_or line with eq | eq
  · rw [← eq]
  · have cut := trimEnd_append_of_isBlank (dropReturn line) (t := ['\r']) (by decide)
    rw [← eq] at cut
    exact cut.symm

/-- A text is its pieces with the separator behind each but the last. -/
theorem exists_splitOn_eq_concat (sep : Char) (s : Text) : ∃ lead last,
    splitOn sep s = lead ++ [last] ∧ s = lead.flatMap (· ++ [sep]) ++ last ∧
      (∀ l ∈ lead, sep ∉ l) ∧ sep ∉ last := by
  obtain ⟨first, more, split⟩ := exists_splitOn_eq_cons sep s
  obtain ⟨lead, last, eq⟩ : ∃ lead last, splitOn sep s = lead ++ [last] :=
    ⟨_, _, (List.dropLast_concat_getLast (by simp [split])).symm⟩
  have whole : ∀ l ∈ lead ++ [last], sep ∉ l := fun l mem here =>
    not_of_mem_splitWhen (eq ▸ mem : l ∈ splitOn sep s) sep here (beq_self_eq_true sep)
  have joined := joinWith_splitOn sep s
  rw [eq, joinWith_concat] at joined
  exact ⟨lead, last, eq, joined.symm, fun l mem => whole l (by simp [mem]), whole last (by simp)⟩

theorem cons_joinWith {sep : Char} {pieces : List Text} (ne : pieces ≠ []) :
    sep :: joinWith [sep] pieces = pieces.flatMap (sep :: ·) := by
  induction pieces with
  | nil => exact absurd rfl ne
  | cons piece pieces ih =>
    by_cases alone : pieces = []
    · rw [alone, joinWith_singleton, List.flatMap_singleton]
    · rw [joinWith_cons _ piece alone, List.flatMap_cons, ← ih alone]
      simp only [List.append_assoc, List.cons_append, List.nil_append]

/-- In front of each piece is a separator, if there is one in front of the text. -/
theorem cons_infix_of_mem_splitOn {sep : Char} {s piece : Text} (mem : piece ∈ splitOn sep s) :
    sep :: piece <:+: sep :: s := by
  have whole := @cons_joinWith sep _ (List.ne_nil_of_mem mem)
  rw [joinWith_splitOn] at whole
  obtain ⟨before, behind, parts⟩ := List.append_of_mem mem
  rw [whole, parts, List.flatMap_append, List.flatMap_cons]
  exact ⟨_, _, List.append_assoc ..⟩

theorem lines_flatMap_append {lead : List Text} {last : Text} (whole : ∀ l ∈ lead, '\n' ∉ l)
    (wholeLast : '\n' ∉ last) : lines (lead.flatMap (· ++ ['\n']) ++ last) =
      lead.map dropReturn ++ if last = [] then [] else [last] := by
  have split := splitOn_flatMap (not_mem_map_dropReturn whole) wholeLast
  rw [lines, unixLines_flatMap whole wholeLast, split]
  by_cases empty : last = []
  · simp [empty]
  · simp [empty]

/-- Where the lines end makes no difference when each of them, and the whole, is trimmed. -/
theorem trim_joinWith_lines (s : Text) :
    trim (joinWith "\n" ((lines s).map trimEnd)) =
      trim (joinWith "\n" ((splitOn '\n' s).map trimEnd)) := by
  obtain ⟨lead, last, split, eq, whole, wholeLast⟩ := exists_splitOn_eq_concat '\n' s
  have ends : (lead.map dropReturn).map trimEnd = lead.map trimEnd := by
    rw [List.map_map]
    exact List.map_congr_left fun line _ => trimEnd_dropReturn line
  have read : lines s = lead.map dropReturn ++ if last = [] then [] else [last] := by
    rw [eq]
    exact lines_flatMap_append whole wholeLast
  rw [read, split, List.map_append, List.map_append, ends]
  by_cases empty : last = []
  · rw [if_pos empty, empty, List.map_nil, List.append_nil]
    by_cases none : lead = []
    · rw [none]
      rfl
    · have cut := @trim_joinWith_blankEnds "\n" (by decide) [] (lead.map trimEnd) [[]]
        (by simpa using none) nofun (by simp [isBlank])
      exact cut.symm
  · rw [if_neg empty]

/-- White space without a line feed at the end of a text is at the end of its last line. -/
theorem map_trimEnd_splitOn_append (s : Text) {blank : Text} (all : isBlank blank)
    (whole : '\n' ∉ blank) :
    (splitOn '\n' (s ++ blank)).map trimEnd = (splitOn '\n' s).map trimEnd := by
  obtain ⟨lead, last, split, eq, wholeLead, wholeLast⟩ := exists_splitOn_eq_concat '\n' s
  have longer : '\n' ∉ last ++ blank := by
    rw [List.mem_append]
    exact not_or.mpr ⟨wholeLast, whole⟩
  have split' : splitOn '\n' (s ++ blank) = lead ++ [last ++ blank] := by
    rw [eq, List.append_assoc]
    exact splitOn_flatMap wholeLead longer
  rw [split, split', List.map_append, List.map_append, List.map_singleton, List.map_singleton,
    trimEnd_append_of_isBlank last all]

/-- White space at the end of a text is nothing to its lines when they and the whole are trimmed. -/
theorem trim_joinWith_splitOn_append (s : Text) {blank : Text} (all : isBlank blank) :
    trim (joinWith "\n" ((splitOn '\n' (s ++ blank)).map trimEnd)) =
      trim (joinWith "\n" ((splitOn '\n' s).map trimEnd)) := by
  obtain ⟨first, more, split⟩ := exists_splitOn_eq_cons '\n' s
  have ne : (splitOn '\n' s).map trimEnd ≠ [] := by simp [split]
  cases cut : cut? '\n' blank with
  | none => rw [map_trimEnd_splitOn_append s all (cut?_eq_none_iff.mp cut)]
  | some parts =>
    obtain ⟨before, after⟩ := parts
    obtain ⟨rfl, whole⟩ := cut?_eq_some_iff.mp cut
    have both := all
    rw [isBlank_append, isBlank_cons, Bool.and_eq_true, Bool.and_eq_true] at both
    have later : ∀ l ∈ (splitOn '\n' after).map trimEnd, isBlank l := by
      intro l mem
      obtain ⟨line, inside, rfl⟩ := List.mem_map.mp mem
      rw [isBlank_trimEnd]
      refine List.all_eq_true.mpr fun c here => ?_
      exact List.all_eq_true.mp both.2.2 c ((infix_of_mem_splitWhen inside).subset here)
    have parts : splitOn '\n' (s ++ (before ++ '\n' :: after)) =
        splitOn '\n' (s ++ before) ++ splitOn '\n' after := by
      rw [← List.append_assoc]
      exact splitWhen_append_cons (p := (· == '\n')) (beq_self_eq_true '\n') _ _
    have ends := @trim_joinWith_blankEnds "\n" (by decide) [] _ _ ne nofun later
    rw [parts, List.map_append, map_trimEnd_splitOn_append s both.1 whole]
    exact ends

end SymbolDocs.Text
