import SymbolDocs.Docstring.Parse
import SymbolDocs.Proofs.Text.Tidy

namespace SymbolDocs.Docstring

open Text

/-- Some text on one line, without tabs in it and nothing blank around it. -/
structure IsPhrase (s : Text) : Prop where
  visible : ¬ isBlank s
  trimmed : trim s = s
  noTab : '\t' ∉ s
  noNewline : '\n' ∉ s

/-- A phrase that may have a line of its own, where a row of dashes would underline the line above
it. -/
structure IsLine (s : Text) : Prop extends IsPhrase s where
  noRule : ¬ s.all (· == '-')

instance (s : Text) : Decidable (IsPhrase s) :=
  decidable_of_iff (¬ isBlank s ∧ trim s = s ∧ '\t' ∉ s ∧ '\n' ∉ s)
    ⟨fun ⟨visible, trimmed, noTab, noNewline⟩ => ⟨visible, trimmed, noTab, noNewline⟩,
      fun ⟨visible, trimmed, noTab, noNewline⟩ => ⟨visible, trimmed, noTab, noNewline⟩⟩

instance (s : Text) : Decidable (IsLine s) :=
  decidable_of_iff (IsPhrase s ∧ ¬ s.all (· == '-'))
    ⟨fun ⟨phrase, noRule⟩ => ⟨phrase, noRule⟩, fun ⟨phrase, noRule⟩ => ⟨phrase, noRule⟩⟩

/-- A parameter as it is written down: its name, perhaps a type, and the lines about it. -/
structure WrittenParameter where
  name : Text
  type : Option Text := none
  lines : List Text := []

/-- A value or an error as it is written down. -/
structure WrittenResult where
  type : Text
  lines : List Text := []

/-- What is written down about a function. -/
structure Written where
  summary : Text
  parameters : List WrittenParameter
  returns : Option WrittenResult := none
  raises : List WrittenResult := []

/-- The lines joined by single spaces, if there are any. -/
def joined? : List Text → Option Text
  | [] => none
  | lines => some (joinWith " " lines)

namespace Written

/-- What is to be read back: the entries in their order, each described by its lines with the
references in them as links. An underline is no summary. -/
def docstring (w : Written) : Docstring :=
  let linked (lines : List Text) := (joined? lines).map Reference.toMarkdown
  { summary := if isTitleRule w.summary then none else some (Reference.toMarkdown w.summary)
    parameters := w.parameters.map fun p =>
      { name := p.name, type := p.type, description := linked p.lines }
    returns := w.returns.map fun r => { type := some r.type, description := linked r.lines }
    raises := w.raises.map fun r => { type := r.type, description := linked r.lines } }

end Written

/-- How a style lays out the parts of what is written down. -/
structure Layout where
  header : Text → List Text
  parametersTitle : Text
  parameter : WrittenParameter → List Text
  result : WrittenResult → List Text

namespace Layout

/-- The titles of the sections and the lines below them. A section without entries is left out,
unless it is the first one. -/
def sections (style : Layout) (w : Written) : List (Text × List Text) :=
  let returns := w.returns.toList.map fun r => (("Returns" : Text), style.result r)
  let raises :=
    if w.raises.isEmpty then [] else [(("Raises" : Text), w.raises.flatMap style.result)]
  (style.parametersTitle, w.parameters.flatMap style.parameter) :: (returns ++ raises)

/-- The sections below their headers, with some empty lines between them. -/
def sectionLines (style : Layout) (gap : Nat) : List (Text × List Text) → List Text
  | [] => []
  | (title, body) :: more =>
    let between := if more.isEmpty then [] else List.replicate gap []
    style.header title ++ (body ++ between ++ sectionLines style gap more)

/-- The summary, an empty line and the sections. -/
def lines (style : Layout) (gap : Nat) (w : Written) : List Text :=
  w.summary :: [] :: style.sectionLines gap (style.sections w)

def text (style : Layout) (gap : Nat) (w : Written) : Text := joinWith "\n" (style.lines gap w)

end Layout

namespace IsPhrase

variable {s : Text}

theorem starts (phrase : IsPhrase s) : trimStart s = s := trimStart_of_trim phrase.trimmed

theorem ends (phrase : IsPhrase s) : trimEnd s = s := trimEnd_of_trim phrase.trimmed

theorem ne_nil (phrase : IsPhrase s) : s ≠ [] := fun empty => phrase.visible (empty ▸ rfl)

theorem trim_indented (phrase : IsPhrase s) (width : Nat) : trim (indented width s) = s := by
  rw [Text.trim_indented, phrase.trimmed]

theorem indentWidth_indented (phrase : IsPhrase s) (width : Nat) :
    indentWidth (indented width s) = width :=
  Text.indentWidth_indented width phrase.visible phrase.starts

theorem indentWidth_eq (phrase : IsPhrase s) : indentWidth s = 0 := phrase.indentWidth_indented 0

theorem map_trim_indented {lines : List Text} (all : ∀ line ∈ lines, IsPhrase line) (width : Nat) :
    (lines.map (indented width)).map trim = lines := by
  rw [List.map_map]
  exact (List.map_congr_left fun line mem => (all line mem).trim_indented width).trans
    (List.map_id lines)

/-- Two phrases with some text between. -/
theorem append {t : Text} (phrase : IsPhrase s) (phrase' : IsPhrase t) (gap : Text)
    (noTab : '\t' ∉ gap) (noNewline : '\n' ∉ gap) : IsPhrase (s ++ gap ++ t) := by
  refine ⟨?_, ?_, by simp [phrase.noTab, noTab, phrase'.noTab],
    by simp [phrase.noNewline, noNewline, phrase'.noNewline]⟩
  · have visible := phrase.visible
    rw [isBlank] at visible
    rw [isBlank, List.all_append, List.all_append, Bool.and_eq_true, Bool.and_eq_true]
    exact fun all => visible all.1.1
  · rw [trim, List.append_assoc, trimStart_append phrase.visible, phrase.starts,
      ← List.append_assoc, trimEnd_append _ phrase'.visible, phrase'.ends]

end IsPhrase

theorem isPhrase_of_isWord {s : Text} (word : IsWord s) : IsPhrase s where
  visible := not_isBlank_of_isWord word
  trimmed := trim_eq_self_of_isWord word
  noTab inside := word.2 _ inside (by decide)
  noNewline inside := word.2 _ inside (by decide)

theorem IsPhrase.isLine {s : Text} (phrase : IsPhrase s) {c : Char} (inside : c ∈ s)
    (ne : c ≠ '-') : IsLine s := by
  refine ⟨phrase, fun all => ne ?_⟩
  simpa using List.all_eq_true.mp all c inside

/-- A line with a phrase on it, perhaps indented. -/
def IsVisibleLine (line : Text) : Prop := ∃ width s, IsPhrase s ∧ line = indented width s

namespace IsVisibleLine

variable {line : Text}

theorem visible : IsVisibleLine line → ¬ isBlank line := by
  rintro ⟨width, s, phrase, rfl⟩
  rw [isBlank_indented]
  exact phrase.visible

theorem noNewline : IsVisibleLine line → '\n' ∉ line := by
  rintro ⟨width, s, phrase, rfl⟩ mem
  rcases List.mem_append.mp mem with space | inside
  · exact absurd (List.eq_of_mem_replicate space) (by decide)
  · exact phrase.noNewline inside

theorem plainLine_eq : IsVisibleLine line → plainLine line = line := by
  rintro ⟨width, s, phrase, rfl⟩
  have noTab : '\t' ∉ indented width s := by
    intro mem
    rcases List.mem_append.mp mem with space | inside
    · exact absurd (List.eq_of_mem_replicate space) (by decide)
    · exact phrase.noTab inside
  exact plainLine_eq_self noTab (by rw [trimEnd_indented width phrase.visible, phrase.ends])

end IsVisibleLine

theorem IsPhrase.isVisibleLine {s : Text} (phrase : IsPhrase s) : IsVisibleLine s :=
  ⟨0, s, phrase, rfl⟩

theorem filter_visible {body : List Text} (all : ∀ line ∈ body, IsVisibleLine line) :
    body.filter (!isBlank ·) = body :=
  List.filter_eq_self.mpr fun line mem => by simpa using (all line mem).visible

/-- A line with more than dashes on it, perhaps indented. -/
def IsOwnLine (line : Text) : Prop := ∃ width s, IsLine s ∧ line = indented width s

theorem IsOwnLine.isVisibleLine {line : Text} : IsOwnLine line → IsVisibleLine line := by
  rintro ⟨width, s, own, rfl⟩
  exact ⟨width, s, own.toIsPhrase, rfl⟩

namespace Layout

variable {style : Layout} {gap : Nat} {w : Written}

theorem mem_sections {sec : Text × List Text} (mem : sec ∈ style.sections w) :
    sec = (style.parametersTitle, w.parameters.flatMap style.parameter) ∨
      (∃ r ∈ w.returns, sec = (("Returns" : Text), style.result r)) ∨
      sec = (("Raises" : Text), w.raises.flatMap style.result) := by
  rcases List.mem_cons.mp mem with rfl | mem
  · exact .inl rfl
  · rcases List.mem_append.mp mem with value | errors
    · obtain ⟨r, known, rfl⟩ := List.mem_map.mp value
      exact .inr (.inl ⟨r, Option.mem_toList.mp known, rfl⟩)
    · split at errors
      · exact absurd errors List.not_mem_nil
      · exact .inr (.inr (List.mem_singleton.mp errors))

theorem mem_titles {sec : Text × List Text} (mem : sec ∈ style.sections w) :
    sec.1 ∈ [style.parametersTitle, "Returns", "Raises"] := by
  rcases mem_sections mem with rfl | ⟨r, _, rfl⟩ | rfl
  · exact List.mem_cons_self
  · exact List.mem_cons_of_mem _ List.mem_cons_self
  · exact List.mem_cons_of_mem _ (List.mem_cons_of_mem _ List.mem_cons_self)

/-- No line of an entry is a row of dashes. -/
structure HasOwnLines (style : Layout) (w : Written) : Prop where
  parameter : ∀ p ∈ w.parameters, ∀ line ∈ style.parameter p, IsOwnLine line
  returns : ∀ r ∈ w.returns, ∀ line ∈ style.result r, IsOwnLine line
  raises : ∀ r ∈ w.raises, ∀ line ∈ style.result r, IsOwnLine line

theorem HasOwnLines.isOwnLine (own : style.HasOwnLines w) {sec : Text × List Text}
    (mem : sec ∈ style.sections w) : ∀ line ∈ sec.2, IsOwnLine line := by
  intro line inside
  rcases mem_sections mem with rfl | ⟨r, known, rfl⟩ | rfl
  · obtain ⟨p, known, here⟩ := List.mem_flatMap.mp inside
    exact own.parameter p known line here
  · exact own.returns r known line inside
  · obtain ⟨r, known, here⟩ := List.mem_flatMap.mp inside
    exact own.raises r known line here

theorem HasOwnLines.filter_parameters (own : style.HasOwnLines w) :
    (w.parameters.flatMap style.parameter).filter (!isBlank ·) =
      w.parameters.flatMap style.parameter :=
  filter_visible fun line mem => (own.isOwnLine List.mem_cons_self line mem).isVisibleLine

theorem HasOwnLines.filter_returns (own : style.HasOwnLines w) {r : WrittenResult}
    (known : r ∈ w.returns) : (style.result r).filter (!isBlank ·) = style.result r :=
  filter_visible fun line mem => (own.returns r known line mem).isVisibleLine

theorem HasOwnLines.filter_raises (own : style.HasOwnLines w) :
    (w.raises.flatMap style.result).filter (!isBlank ·) = w.raises.flatMap style.result :=
  filter_visible fun line mem => by
    obtain ⟨r, known, here⟩ := List.mem_flatMap.mp mem
    exact (own.raises r known line here).isVisibleLine

theorem mem_sectionLines {secs : List (Text × List Text)} {line : Text}
    (mem : line ∈ style.sectionLines gap secs) :
    line = [] ∨ ∃ sec ∈ secs, line ∈ style.header sec.1 ++ sec.2 := by
  induction secs with
  | nil => exact absurd mem List.not_mem_nil
  | cons sec more ih =>
    rw [sectionLines, List.mem_append, List.mem_append, List.mem_append] at mem
    rcases mem with title | (body | empty) | later
    · exact .inr ⟨sec, List.mem_cons_self, List.mem_append_left _ title⟩
    · exact .inr ⟨sec, List.mem_cons_self, List.mem_append_right _ body⟩
    · split at empty
      · exact absurd empty List.not_mem_nil
      · exact .inl (List.eq_of_mem_replicate empty)
    · exact (ih later).imp id fun ⟨sec, known, inside⟩ =>
        ⟨sec, List.mem_cons_of_mem _ known, inside⟩

theorem exists_getLast?_sectionLines (gap : Nat) {secs : List (Text × List Text)} (ne : secs ≠ [])
    (headed : ∀ title, style.header title ≠ []) :
    ∃ last, (style.sectionLines gap secs).getLast? = some last ∧
      ∃ sec ∈ secs, last ∈ style.header sec.1 ++ sec.2 := by
  induction secs with
  | nil => exact absurd rfl ne
  | cons sec more ih =>
    by_cases alone : more = []
    · have filled : style.header sec.1 ++ sec.2 ≠ [] := by simp [headed sec.1]
      refine ⟨_, ?_, sec, List.mem_cons_self, List.getLast_mem filled⟩
      rw [alone, sectionLines]
      simp [sectionLines, ← List.getLast?_eq_some_getLast filled]
    · obtain ⟨last, ends, sec', known, inside⟩ := ih alone
      refine ⟨last, ?_, sec', List.mem_cons_of_mem _ known, inside⟩
      rw [sectionLines, List.getLast?_append, List.getLast?_append, ends, Option.some_or,
        Option.some_or]

/-- The lines of a layout are visible, and the first header stands at the margin. -/
structure IsVisible (style : Layout) (w : Written) : Prop where
  summary : IsPhrase w.summary
  headed : ∀ title, style.header title ≠ []
  atMargin : ∃ title ∈ style.header style.parametersTitle, IsPhrase title
  shown : ∀ sec ∈ style.sections w, ∀ line ∈ style.header sec.1 ++ sec.2, IsVisibleLine line

theorem IsVisible.mem_lines (seen : style.IsVisible w) {line : Text}
    (mem : line ∈ style.lines gap w) : line = [] ∨ IsVisibleLine line := by
  rcases List.mem_cons.mp mem with rfl | mem
  · exact .inr seen.summary.isVisibleLine
  · rcases List.mem_cons.mp mem with rfl | mem
    · exact .inl rfl
    · exact (mem_sectionLines mem).imp id fun ⟨sec, known, inside⟩ =>
        seen.shown sec known line inside

theorem IsVisible.noNewline (seen : style.IsVisible w) :
    ∀ line ∈ style.lines gap w, '\n' ∉ line := by
  intro line mem
  rcases seen.mem_lines mem with rfl | shown
  · exact List.not_mem_nil
  · exact shown.noNewline

theorem IsVisible.splitOn_text (seen : style.IsVisible w) :
    splitOn '\n' (style.text gap w) = style.lines gap w :=
  splitOn_joinWith (List.cons_ne_nil _ _) seen.noNewline

/-- What is laid out is read line by line. -/
theorem IsVisible.tidyLines_text (seen : style.IsVisible w) :
    tidyLines (style.text gap w) = style.lines gap w := by
  have plain : ∀ line ∈ style.lines gap w, plainLine line = line := by
    intro line mem
    rcases seen.mem_lines mem with rfl | shown
    · rfl
    · exact shown.plainLine_eq
  have first : plainLine w.summary = w.summary := plain _ List.mem_cons_self
  have rest : ([] :: style.sectionLines gap (style.sections w)).map plainLine =
      [] :: style.sectionLines gap (style.sections w) :=
    (List.map_congr_left fun line mem => plain line (List.mem_cons_of_mem _ mem)).trans
      (List.map_id _)
  have zero : margin ([] :: style.sectionLines gap (style.sections w)) = 0 := by
    obtain ⟨title, mem, phrase⟩ := seen.atMargin
    have inside : title ∈ style.sectionLines gap (style.sections w) := List.mem_append_left _ mem
    exact margin_eq ⟨title, List.mem_cons_of_mem _ inside, phrase.visible,
      phrase.indentWidth_indented 0⟩ fun _ _ _ => Nat.zero_le _
  have ne : style.sections w ≠ [] := List.cons_ne_nil _ _
  obtain ⟨last, ends, sec, known, inside⟩ :=
    exists_getLast?_sectionLines gap ne seen.headed
  have lastLine : (style.lines gap w).getLast? = some last := by
    rw [Layout.lines, List.getLast?_cons, List.getLast?_cons, ends]
    rfl
  rw [text, Layout.lines, Text.tidyLines_joinWith seen.noNewline (by rw [rest, zero]), rest, first,
    seen.summary.starts]
  exact dropBlankEnds_eq_self seen.summary.visible lastLine
    (seen.shown sec known last inside).visible

end Layout

end SymbolDocs.Docstring
