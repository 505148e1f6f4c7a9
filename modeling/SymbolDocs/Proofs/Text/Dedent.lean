import Mathlib.Data.List.Forall2
import SymbolDocs.Proofs.Text.Margin
import SymbolDocs.Proofs.Text.Words

namespace SymbolDocs.Text

/-- The longest white space in front of a line that takes at most `width` bytes. -/
structure IsLead (width : Nat) (line lead : Text) : Prop where
  blank : isBlank lead
  starts : lead <+: line
  fits : byteLength lead ≤ width
  longest : ∀ other, isBlank other → other <+: line → byteLength other ≤ width → other <+: lead

/-- The lines of a text between its line feeds; the empty text has none. -/
def linesBetween (s : Text) : List Text := if s = [] then [] else splitOn '\n' s

/-- What is left of some lines when they are dedented: blank lines are gone at the ends, and white
space in front of the others, so that one of them has none. -/
structure IsDedented (lines : List Text) (text : Text) : Prop where
  parts : ∃ above kept below, lines = above ++ (kept ++ below) ∧
    (∀ line ∈ above ++ below, isBlank line) ∧
    List.Forall₂ (fun line moved => ∃ lead, IsLead (margin lines) line lead ∧ line = lead ++ moved)
      kept (linesBetween text)
  ends : ∀ line, (linesBetween text).head? = some line ∨ (linesBetween text).getLast? = some line →
    ¬ isBlank line
  atMargin : text ≠ [] → ∃ line ∈ linesBetween text, ¬ isBlank line ∧ indentWidth line = 0
  settled : dedent (linesBetween text) = text
  read : (∀ line ∈ lines, '\r' ∉ line) → Text.lines text = linesBetween text

theorem IsMoved.exists_isLead {width : Nat} {line moved : Text} (h : IsMoved width line moved) :
    ∃ lead, IsLead width line lead ∧ line = lead ++ moved := by
  obtain ⟨lead, blank, rfl, fits, full⟩ := h
  refine ⟨lead, ⟨blank, List.prefix_append lead moved, fits, fun other blank' starts fits' => ?_⟩,
    rfl⟩
  rcases List.prefix_or_prefix_of_prefix starts (List.prefix_append lead moved) with here | longer
  · exact here
  · obtain ⟨more, rfl⟩ := longer
    cases more with
    | nil => exact (List.append_nil lead).symm ▸ List.prefix_rfl
    | cons c more =>
      -- one more character of white space is too wide
      have next : moved.head? = some c := by
        obtain ⟨rest, eq⟩ := (List.prefix_append_right_inj lead).mp starts
        rw [← eq]
        rfl
      have blankNext : isBlankChar c := List.all_eq_true.mp blank' c (by simp)
      have wide := full c next blankNext
      rw [byteLength_append, byteLength_cons] at fits'
      omega

theorem dropIndent_zero (line : Text) : dropIndent 0 line = line := by
  cases line with
  | nil => rfl
  | cons c line =>
    have positive := c.utf8Size_pos
    rw [dropIndent, if_neg]
    simp
    omega

theorem isBlank_dropIndent (width : Nat) (line : Text) :
    isBlank (dropIndent width line) = isBlank line := by
  obtain ⟨blank, all, eq⟩ := exists_eq_append_dropIndent width line
  have parts := congrArg isBlank eq
  rw [isBlank_append, all, Bool.true_and] at parts
  exact parts.symm

theorem indentWidth_trimStart (line : Text) : indentWidth (trimStart line) = 0 := by
  have stops := List.head?_dropWhile_not isBlankChar line
  rw [indentWidth, trimStart]
  cases eq : line.dropWhile isBlankChar with
  | nil => rfl
  | cons c rest =>
    rw [eq] at stops
    rw [List.takeWhile_cons_of_neg (by simpa using stops)]
    rfl

section Dedented

variable {lines : List Text}

/-- The lines that are left, moved to the margin. -/
def movedLines (lines : List Text) : List Text :=
  dropBlankEnds (lines.map (dropIndent (margin lines)))

theorem dedent_eq (lines : List Text) : dedent lines = joinWith "\n" (movedLines lines) := rfl

theorem dedent_eq_nil_iff : dedent lines = [] ↔ movedLines lines = [] := by
  constructor
  · intro empty
    by_contra left
    obtain ⟨line, mem, visible⟩ := exists_mem_dropBlankEnds left
    have shown : ¬ isBlank (dedent lines) := not_isBlank_joinWith mem visible
    rw [empty] at shown
    exact shown rfl
  · intro none
    rw [dedent_eq, none]
    rfl

theorem exists_movedLines_eq (lines : List Text) : ∃ above kept below,
    lines = above ++ (kept ++ below) ∧ (∀ line ∈ above ++ below, isBlank line) ∧
      movedLines lines = kept.map (dropIndent (margin lines)) := by
  obtain ⟨lead, ending, parts, blank, blankEnd⟩ :=
    exists_eq_dropBlankEnds (lines.map (dropIndent (margin lines)))
  rw [List.append_assoc] at parts
  obtain ⟨above, more, split, leads, rest⟩ := List.map_eq_append_iff.mp parts
  obtain ⟨kept, below, split', moved, ends⟩ := List.map_eq_append_iff.mp rest
  refine ⟨above, kept, below, by rw [split, split'], fun line mem => ?_, moved.symm⟩
  rw [← isBlank_dropIndent (margin lines)]
  rcases List.mem_append.mp mem with mem | mem
  · exact blank _ (leads ▸ List.mem_map_of_mem mem)
  · exact blankEnd _ (ends ▸ List.mem_map_of_mem mem)

theorem exists_mem_of_mem_movedLines {moved : Text} (mem : moved ∈ movedLines lines) :
    ∃ line ∈ lines, moved = dropIndent (margin lines) line := by
  obtain ⟨above, kept, below, parts, -, eq⟩ := exists_movedLines_eq lines
  rw [eq] at mem
  obtain ⟨line, inside, rfl⟩ := List.mem_map.mp mem
  exact ⟨line, by simp [parts, inside], rfl⟩

theorem not_mem_of_mem_movedLines {c : Char} (absent : ∀ line ∈ lines, c ∉ line) :
    ∀ moved ∈ movedLines lines, c ∉ moved := by
  intro moved mem here
  obtain ⟨line, inside, rfl⟩ := exists_mem_of_mem_movedLines mem
  exact absent line inside ((dropIndent_suffix _ line).subset here)

theorem linesBetween_dedent (whole : ∀ line ∈ lines, '\n' ∉ line) :
    linesBetween (dedent lines) = movedLines lines := by
  rw [linesBetween]
  split
  · next empty => exact (dedent_eq_nil_iff.mp empty).symm
  · next some =>
    exact splitOn_joinWith (fun none => some (dedent_eq_nil_iff.mpr none))
      (not_mem_of_mem_movedLines whole)

/-- Without carriage returns the lines of a dedented text are those between its line feeds. -/
theorem lines_dedent (whole : ∀ line ∈ lines, '\n' ∉ line)
    (noReturn : ∀ line ∈ lines, '\r' ∉ line) :
    Text.lines (dedent lines) = movedLines lines := by
  have plain : '\r' ∉ dedent lines :=
    not_mem_joinWith_of_not_mem (by decide) (not_mem_of_mem_movedLines noReturn)
  by_cases none : movedLines lines = []
  · rw [dedent_eq, none]
    rfl
  · have split : splitOn '\n' (dedent lines) = movedLines lines :=
      splitOn_joinWith none (not_mem_of_mem_movedLines whole)
    have last : ¬ (movedLines lines).getLast? = some [] :=
      fun empty => not_isBlank_of_end (.inr empty) rfl
    rw [Text.lines, unixLines_eq_self plain, split]
    simp [last]

theorem exists_atMargin (some : movedLines lines ≠ []) :
    ∃ moved ∈ movedLines lines, ¬ isBlank moved ∧ indentWidth moved = 0 := by
  obtain ⟨moved, mem, visible⟩ := exists_mem_dropBlankEnds some
  obtain ⟨line, inside, rfl⟩ := exists_mem_of_mem_movedLines mem
  rw [isBlank_dropIndent] at visible
  obtain ⟨least, here, shown, width⟩ := exists_indentWidth_eq_margin ⟨line, inside, visible⟩
  have start : dropIndent (margin lines) least = trimStart least := by
    rw [← width, dropIndent_indentWidth]
  refine ⟨trimStart least, ?_, by rwa [isBlank_trimStart], indentWidth_trimStart least⟩
  rw [← start]
  exact mem_dropBlankEnds (List.mem_map_of_mem here) (by rwa [isBlank_dropIndent])

/-- Lines at the margin with no blank one at the ends are left as they are. -/
theorem movedLines_movedLines (lines : List Text) :
    movedLines (movedLines lines) = movedLines lines := by
  have flush : margin (movedLines lines) = 0 := by
    by_cases none : movedLines lines = []
    · rw [none]
      rfl
    · obtain ⟨moved, mem, visible, width⟩ := exists_atMargin none
      exact margin_eq ⟨moved, mem, visible, width⟩ fun _ _ _ => Nat.zero_le _
  have same : (movedLines lines).map (dropIndent 0) = movedLines lines :=
    (List.map_congr_left fun line _ => dropIndent_zero line).trans (List.map_id _)
  rw [movedLines, flush, same]
  exact dropBlankEnds_of_ends fun _ => not_isBlank_of_end

theorem isDedented_dedent (whole : ∀ line ∈ lines, '\n' ∉ line) :
    IsDedented lines (dedent lines) := by
  have same := linesBetween_dedent whole
  constructor
  case parts =>
    obtain ⟨above, kept, below, parts, blank, eq⟩ := exists_movedLines_eq lines
    refine ⟨above, kept, below, parts, blank, ?_⟩
    rw [same, eq, List.forall₂_map_right_iff, List.forall₂_same]
    exact fun line _ => (isMoved_dropIndent _ line).exists_isLead
  case ends =>
    rw [same]
    exact fun line => not_isBlank_of_end
  case atMargin =>
    intro some
    rw [same]
    exact exists_atMargin fun none => some (dedent_eq_nil_iff.mpr none)
  case settled => rw [same, dedent_eq, movedLines_movedLines, ← dedent_eq]
  case read => exact fun noReturn => (lines_dedent whole noReturn).trans same.symm

end Dedented

/-- A line loses the longest white space in front of it that fits in the width, and nothing else. Of
lines without line feeds only that and the blank ones at the ends are lost when they are dedented;
one line then has no indentation, and dedenting once more changes nothing. -/
theorem dedent_moves :
    (∀ (width : Nat) (line : Text), ∃ lead, IsLead width line lead ∧
        line = lead ++ dropIndent width line) ∧
      ∀ lines : List Text, (∀ line ∈ lines, '\n' ∉ line) → IsDedented lines (dedent lines) :=
  ⟨fun width line => (isMoved_dropIndent width line).exists_isLead, fun _ => isDedented_dedent⟩

/-- The margin takes three bytes, which in one line end inside a character. -/
def wideLines : List Text := ["", "  \u3000z", "    x", "", "\u3000y", "  "]

theorem dedent_wideLines :
    dedent wideLines = ("\u3000z\n x\n\ny" : Text) ∧ IsDedented wideLines (dedent wideLines) :=
  ⟨by decide +kernel, dedent_moves.2 wideLines (by decide)⟩

end SymbolDocs.Text
