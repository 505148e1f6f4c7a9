import SymbolDocs.Proofs.Text.Visible

namespace SymbolDocs.Text

/-- How far a line is indented when a tab counts as four columns. -/
def column (line : Text) : Nat := (expandTabs (line.takeWhile isBlankChar)).length

/-- A line that nothing but spaces and tabs stands in front of. -/
def IsIndented (line : Text) : Prop := ∀ c ∈ line.takeWhile isBlankChar, c = ' ' ∨ c = '\t'

instance (line : Text) : Decidable (IsIndented line) := List.decidableBAll _ _

theorem expandTabs_append (s t : Text) : expandTabs (s ++ t) = expandTabs s ++ expandTabs t :=
  List.flatMap_append

theorem expandTabs_of_spaces {s : Text} (plain : ∀ c ∈ s, c = ' ' ∨ c = '\t') :
    expandTabs s = List.replicate (expandTabs s).length ' ' := by
  rw [List.eq_replicate_iff]
  refine ⟨rfl, fun c mem => ?_⟩
  obtain ⟨d, inside, here⟩ := List.mem_flatMap.mp mem
  rcases plain d inside with rfl | rfl
  · simpa using here
  · simpa using here

theorem trimStart_expandTabs {c : Char} (visible : ¬ isBlankChar c) (s : Text) :
    trimStart (expandTabs (c :: s)) = expandTabs (c :: s) := by
  have ne : c ≠ '\t' := by
    rintro rfl
    exact visible (by decide)
  rw [expandTabs_cons, if_neg ne, List.singleton_append]
  exact List.dropWhile_cons_of_neg visible

/-- A visible line is read as its text, so far behind the margin as it is indented. -/
theorem plainLine_eq_indented {line : Text} (visible : ¬ isBlank line) (plain : IsIndented line) :
    plainLine line = indented (column line) (trim (expandTabs line)) := by
  obtain ⟨c, rest, starts, seen⟩ := exists_trimStart_eq_cons visible
  have parts : expandTabs line =
      List.replicate (column line) ' ' ++ expandTabs (c :: rest) := by
    have whole := List.takeWhile_append_dropWhile (p := isBlankChar) (l := line)
    have behind : line.dropWhile isBlankChar = c :: rest := starts
    rw [behind] at whole
    rw [column, ← expandTabs_of_spaces plain, ← expandTabs_append, whole]
  have shown : ¬ isBlank (expandTabs (c :: rest)) := by
    rw [isBlank_expandTabs]
    exact not_isBlank_cons seen rest
  have between : trim (expandTabs line) = trimEnd (expandTabs (c :: rest)) := by
    rw [parts, trim_append_of_isBlank (isBlank_replicate_space _), trim,
      trimStart_expandTabs seen]
  rw [between, indented, plainLine, parts, trimEnd_append _ shown]

theorem column_indented (width : Nat) {s : Text} (visible : ¬ isBlank s)
    (starts : trimStart s = s) : column (indented width s) = width := by
  obtain ⟨c, rest, eq, seen⟩ := exists_trimStart_eq_cons visible
  have spaces := List.all_eq_true.mp (isBlank_replicate_space width)
  have noTab : '\t' ∉ List.replicate width ' ' := fun mem =>
    absurd (List.eq_of_mem_replicate mem) (by decide)
  rw [column, indented, List.takeWhile_append_of_pos spaces, ← starts, eq,
    List.takeWhile_cons_of_neg seen, List.append_nil, expandTabs_eq_self noTab,
    List.length_replicate]

theorem movedLine_indented {width least : Nat} (le : least ≤ width) (s : Text) :
    movedLine least (indented width s) = indented (width - least) s := by
  have cut : dropBytes? least (indented width s) = some (indented (width - least) s) := by
    rw [dropBytes?_eq_some_iff]
    refine ⟨List.replicate least ' ', ?_, byteLength_replicate rfl least⟩
    rw [indented, indented, ← List.append_assoc, List.replicate_append_replicate,
      Nat.add_sub_cancel' le]
  rw [movedLine, cut, Option.getD_some]

theorem isBlank_movedLine {lines : List Text} {line : Text} (mem : line ∈ lines) :
    isBlank (movedLine (margin lines) line) = isBlank line := by
  rw [← isBlank_trim, trim_moved mem, isBlank_trim]

theorem exists_indentWidth_eq_margin {lines : List Text} (some : ∃ l ∈ lines, ¬ isBlank l) :
    ∃ l ∈ lines, ¬ isBlank l ∧ indentWidth l = margin lines := by
  obtain ⟨line, mem, visible⟩ := some
  cases min : ((lines.filter (!isBlank ·)).map indentWidth).min? with
  | none =>
    have empty := List.map_eq_nil_iff.mp (List.min?_eq_none_iff.mp min)
    have kept : line ∈ lines.filter (!isBlank ·) :=
      List.mem_filter.mpr ⟨mem, by simpa using visible⟩
    rw [empty] at kept
    exact absurd kept List.not_mem_nil
  | some width =>
    obtain ⟨l, inside, eq⟩ := List.mem_map.mp (List.min?_eq_some_iff.mp min).1
    obtain ⟨mem, shown⟩ := List.mem_filter.mp inside
    exact ⟨l, mem, by simpa using shown, by rw [eq, margin, min, Option.getD_some]⟩

/-- Visible lines stay in their order, behind as many lines less as were dropped. -/
theorem exists_getElem?_dropBlankEnds (lines : List Text) :
    ∃ skipped, (∀ l ∈ lines.take skipped, isBlank l) ∧
      ∀ i line, lines[i]? = some line → ¬ isBlank line →
        (dropBlankEnds lines)[i - skipped]? = some line := by
  obtain ⟨lead, ending, eq, blank, blankEnd⟩ := exists_eq_dropBlankEnds lines
  refine ⟨lead.length, ?_, fun i line here visible => ?_⟩
  · rw [eq, List.append_assoc, List.take_left]
    exact blank
  · rw [eq, List.append_assoc] at here
    have behind : lead.length ≤ i := by
      by_contra early
      rw [List.getElem?_append_left (by omega)] at here
      exact visible (blank line (List.mem_of_getElem? here))
    rw [List.getElem?_append_right behind] at here
    have within : i - lead.length < (dropBlankEnds lines).length := by
      by_contra late
      rw [List.getElem?_append_right (by omega)] at here
      exact visible (blankEnd line (List.mem_of_getElem? here))
    rwa [List.getElem?_append_left within] at here

/-- The tidied lines of a text, `skipped` lines in front left out: those that are visible and not
the first one stand `width` columns less to the right, and one of them at the margin. -/
structure IsMovedLeft (skipped width : Nat) (raw tidied : List Text) : Prop where
  blank : ∀ line ∈ raw.take skipped, isBlank line
  shown : ∀ i line, 0 < i → raw[i]? = some line → ¬ isBlank line →
    ∃ moved, tidied[i - skipped]? = some moved ∧ trim moved = trim (expandTabs line) ∧
      column line = width + column moved
  atMargin : (∃ line ∈ raw.tail, ¬ isBlank line) →
    ∃ line ∈ raw.tail, ¬ isBlank line ∧ column line = width

theorem filter_tidyLines (s : Text) :
    (tidyLines s).flatten.filter (!isBlankChar ·) = s.filter (!isBlankChar ·) := by
  obtain ⟨moved, tidied, same⟩ := exists_tidyLines_eq s
  obtain ⟨lead, ending, parts, blank, blankEnd⟩ := exists_eq_dropBlankEnds moved
  have none : ∀ {lines : List Text}, (∀ l ∈ lines, isBlank l) → lines.flatMap words = [] := by
    intro lines all
    refine List.flatMap_eq_nil_iff.mpr fun line mem => ?_
    rw [← words_trim, trim_eq_nil_iff.mpr (all line mem)]
    rfl
  have trimmed : ∀ lines : List Text, lines.flatMap words = (lines.map trim).flatMap words := by
    intro lines
    rw [List.flatMap_map]
    exact congrArg (fun f => List.flatMap f _) (funext fun line => (words_trim line).symm)
  have ordered : (tidyLines s).flatMap words = words s := by
    rw [words_eq_flatMap_plainLines, trimmed (plainLines s), ← same, ← trimmed moved, tidied,
      parts, List.flatMap_append, List.flatMap_append, none blank, none blankEnd, List.nil_append,
      List.append_nil, ← parts]
  have shown : ∀ t, t.filter (!isBlankChar ·) = (words t).flatten := fun t =>
    (flatten_fields t).symm
  rw [shown s, ← ordered, List.flatMap, List.filter_flatten, List.flatten_flatten, List.map_map]
  exact congrArg List.flatten (List.map_congr_left fun line _ => shown line)

theorem not_isBlank_of_head?_dropWhile {lines : List Text} {line : Text}
    (first : (lines.dropWhile isBlank).head? = some line) : ¬ isBlank line := by
  have stops := List.head?_dropWhile_not isBlank lines
  rw [first] at stops
  simpa using stops

/-- No blank line is left at the ends. -/
theorem not_isBlank_of_end {lines : List Text} {line : Text}
    (outer : (dropBlankEnds lines).head? = some line ∨ (dropBlankEnds lines).getLast? = some line) :
    ¬ isBlank line := by
  rcases outer with first | last
  · have lead : dropBlankEnds lines <+: lines.dropWhile isBlank := by
      rw [← List.reverse_suffix, dropBlankEnds, List.reverse_reverse]
      exact List.dropWhile_suffix isBlank
    obtain ⟨rest, eq⟩ := lead
    obtain ⟨more, known⟩ := List.head?_eq_some_iff.mp first
    exact not_isBlank_of_head?_dropWhile (by rw [← eq, known]; rfl)
  · rw [dropBlankEnds, List.getLast?_reverse] at last
    exact not_isBlank_of_head?_dropWhile last

theorem dropBlankEnds_of_ends {lines : List Text} (visible : ∀ line,
    lines.head? = some line ∨ lines.getLast? = some line → ¬ isBlank line) :
    dropBlankEnds lines = lines := by
  cases lines with
  | nil => rfl
  | cons first more =>
    have last := List.getLast?_eq_some_getLast (List.cons_ne_nil first more)
    exact dropBlankEnds_eq_self (visible first (.inl rfl)) last (visible _ (.inr last))

section Indented

variable {line : Text} {more : List Text}

theorem not_isBlank_trim_expandTabs (visible : ¬ isBlank line) :
    ¬ isBlank (trim (expandTabs line)) := by
  rwa [isBlank_trim, isBlank_expandTabs]

theorem indentWidth_plainLine (visible : ¬ isBlank line) (plain : IsIndented line) :
    indentWidth (plainLine line) = column line := by
  rw [plainLine_eq_indented visible plain,
    indentWidth_indented _ (not_isBlank_trim_expandTabs visible) (trimStart_of_trim (trim_trim _))]

theorem margin_le_column (mem : line ∈ more) (visible : ¬ isBlank line) (plain : IsIndented line) :
    margin (more.map plainLine) ≤ column line := by
  rw [← indentWidth_plainLine visible plain]
  exact margin_le (List.mem_map_of_mem mem) (by rwa [isBlank_plainLine])

theorem exists_column_eq_margin (plain : ∀ line ∈ more, ¬ isBlank line → IsIndented line)
    (some : ∃ line ∈ more, ¬ isBlank line) :
    ∃ line ∈ more, ¬ isBlank line ∧ column line = margin (more.map plainLine) := by
  obtain ⟨line, mem, visible⟩ := some
  obtain ⟨_, inside, shown, eq⟩ := exists_indentWidth_eq_margin
    ⟨plainLine line, List.mem_map_of_mem mem, by rwa [isBlank_plainLine]⟩
  obtain ⟨least, here, rfl⟩ := List.mem_map.mp inside
  rw [isBlank_plainLine] at shown
  rw [indentWidth_plainLine shown (plain least here shown)] at eq
  exact ⟨least, here, shown, eq⟩

theorem movedLine_plainLine (mem : line ∈ more) (visible : ¬ isBlank line)
    (plain : IsIndented line) : movedLine (margin (more.map plainLine)) (plainLine line) =
      indented (column line - margin (more.map plainLine)) (trim (expandTabs line)) := by
  rw [plainLine_eq_indented visible plain]
  exact movedLine_indented (margin_le_column mem visible plain) _

end Indented

theorem map_isBlank_moved (first : Text) (more : List Text) :
    (trimStart (plainLine first) ::
        (more.map plainLine).map (movedLine (margin (more.map plainLine)))).map isBlank =
      (first :: more).map isBlank := by
  rw [List.map_cons, List.map_cons, isBlank_trimStart, isBlank_plainLine, List.map_map,
    List.map_map]
  exact congrArg _ (List.map_congr_left fun line mem =>
    (isBlank_movedLine (List.mem_map_of_mem mem)).trans (isBlank_plainLine line))

/-- The lines of a text that only spaces and tabs indent keep their distances. -/
theorem exists_isMovedLeft {s : Text}
    (plain : ∀ line ∈ (splitOn '\n' s).tail, ¬ isBlank line → IsIndented line) :
    ∃ skipped width, IsMovedLeft skipped width (splitOn '\n' s) (tidyLines s) := by
  obtain ⟨first, more, split⟩ := exists_splitOn_eq_cons '\n' s
  have tidied := tidyLines_eq split
  rw [split, List.tail_cons] at plain
  rw [split]
  obtain ⟨skipped, blank, stays⟩ := exists_getElem?_dropBlankEnds
    (trimStart (plainLine first) ::
      (more.map plainLine).map (movedLine (margin (more.map plainLine))))
  rw [← tidied] at stays
  refine ⟨skipped, margin (more.map plainLine), ?_, ?_, exists_column_eq_margin plain⟩
  · intro line mem
    have old : isBlank line ∈ ((first :: more).map isBlank).take skipped := by
      rw [← List.map_take]
      exact List.mem_map_of_mem mem
    rw [← map_isBlank_moved, ← List.map_take] at old
    obtain ⟨l, inside, eq⟩ := List.mem_map.mp old
    rw [← eq]
    exact blank l inside
  · intro i line later here visible
    obtain ⟨j, rfl⟩ := Nat.exists_eq_succ_of_ne_zero (Nat.ne_of_gt later)
    rw [Nat.succ_eq_add_one, List.getElem?_cons_succ] at here
    have mem := List.mem_of_getElem? here
    have indent := plain line mem visible
    have shown := not_isBlank_trim_expandTabs visible
    refine ⟨indented (column line - margin (more.map plainLine)) (trim (expandTabs line)),
      stays _ _ ?_ (by rwa [isBlank_indented]), (trim_indented _ _).trans (trim_trim _), ?_⟩
    · rw [Nat.succ_eq_add_one, List.getElem?_cons_succ, List.getElem?_map, List.getElem?_map, here,
        Option.map_some, Option.map_some, movedLine_plainLine mem visible indent]
    · rw [column_indented _ shown (trimStart_of_trim (trim_trim _)),
        Nat.add_sub_cancel' (margin_le_column mem visible indent)]

/-- Tidying the lines of a text loses nothing that is visible, leaves no blank line at the ends, and
moves the lines behind the first one to the left together. -/
theorem tidyLines_keeps (s : Text) :
    (tidyLines s).flatten.filter (!isBlankChar ·) = s.filter (!isBlankChar ·) ∧
      (∀ line, (tidyLines s).head? = some line ∨ (tidyLines s).getLast? = some line →
        ¬ isBlank line) ∧
      ((∀ line ∈ (splitOn '\n' s).tail, ¬ isBlank line → IsIndented line) →
        ∃ skipped width, IsMovedLeft skipped width (splitOn '\n' s) (tidyLines s)) := by
  refine ⟨filter_tidyLines s, fun line outer => ?_, exists_isMovedLeft⟩
  obtain ⟨moved, tidied, _⟩ := exists_tidyLines_eq s
  rw [tidied] at outer
  exact not_isBlank_of_end outer

def nestedBody : Text := "\n  Opens the file.\n\n\t  mode\n      \thow it is opened\n \n    "

theorem tidyLines_nestedBody :
    tidyLines nestedBody = ["Opens the file.", "", "    mode", "        how it is opened"] ∧
      (∀ line ∈ (splitOn '\n' nestedBody).tail, ¬ isBlank line → IsIndented line) ∧
      ∃ skipped width, IsMovedLeft skipped width (splitOn '\n' nestedBody)
        (tidyLines nestedBody) := by
  have plain : ∀ line ∈ (splitOn '\n' nestedBody).tail, ¬ isBlank line → IsIndented line := by
    decide +kernel
  exact ⟨by decide +kernel, plain, (tidyLines_keeps nestedBody).2.2 plain⟩

end SymbolDocs.Text
