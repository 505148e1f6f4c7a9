import SymbolDocs.Proofs.Docstring.Entries
import SymbolDocs.Proofs.Text.Visible
import Mathlib.Data.List.Infix
import Mathlib.Data.List.TakeWhile

namespace SymbolDocs

open Text Docstring

namespace DocstringStyle

theorem isBlankChar_of_isTabOrSpace {c : Char} (gap : isTabOrSpace c) : isBlankChar c := by
  have kind : c = ' ' ∨ c = '\t' := by simpa [isTabOrSpace] using gap
  rcases kind with rfl | rfl
  · decide
  · decide

/-- Where no white space would be dropped, no tabs and spaces are. -/
theorem dropWhile_isTabOrSpace {s : Text} (same : s.dropWhile isBlankChar = s) :
    s.dropWhile isTabOrSpace = s := by
  rw [List.dropWhile_eq_self_iff] at same ⊢
  exact fun filled gap => same filled (isBlankChar_of_isTabOrSpace gap)

theorem dropTabsAndSpaces_indented (width : Nat) {s : Text} (phrase : IsPhrase s) :
    dropTabsAndSpaces (indented width s) = s := by
  have spaces : ∀ c ∈ List.replicate width ' ', isTabOrSpace c := by
    intro c mem
    rw [List.eq_of_mem_replicate mem]
    rfl
  rw [dropTabsAndSpaces, indented, List.dropWhile_append_of_pos spaces]
  exact dropWhile_isTabOrSpace phrase.starts

theorem dropEndWhile_isTabOrSpace {s : Text} (phrase : IsPhrase s) :
    dropEndWhile isTabOrSpace s = s := by
  have ends := congrArg List.reverse phrase.ends
  rw [trimEnd, dropEndWhile, List.reverse_reverse] at ends
  rw [dropEndWhile, dropWhile_isTabOrSpace ends, List.reverse_reverse]

theorem not_isDashLine_of_isOwnLine {line : Text} : IsOwnLine line → ¬ isDashLine line := by
  rintro ⟨width, s, own, rfl⟩ dashes
  rw [isDashLine, dropTabsAndSpaces_indented width own.toIsPhrase,
    dropEndWhile_isTabOrSpace own.toIsPhrase] at dashes
  exact own.noRule ((Bool.and_eq_true _ _).mp dashes).2

/-- Only a line behind another one underlines it. -/
theorem exists_isDashLine {lines : List Text} (underlined : hasUnderlinedTitle lines) :
    ∃ line ∈ lines.tail, isDashLine line := by
  induction lines using hasUnderlinedTitle.induct with
  | case1 title under rest ih =>
    rw [hasUnderlinedTitle, Bool.or_eq_true] at underlined
    rcases underlined with here | later
    · exact ⟨under, List.mem_cons_self, ((Bool.and_eq_true _ _).mp here).2⟩
    · obtain ⟨line, mem, dashes⟩ := ih later
      exact ⟨line, List.mem_cons_of_mem _ mem, dashes⟩
  | case2 lines short =>
    rw [hasUnderlinedTitle.eq_2 lines short] at underlined
    exact absurd underlined Bool.false_ne_true

theorem mem_of_mem_title {line : Text} {c : Char}
    (mem : c ∈ dropEndWhile isTabOrSpace (dropTabsAndSpaces line)) : c ∈ line := by
  rw [dropEndWhile, List.mem_reverse] at mem
  have inside := List.mem_reverse.mp ((List.dropWhile_suffix isTabOrSpace).subset mem)
  exact (List.dropWhile_suffix isTabOrSpace).subset inside

theorem not_isDashLine_of_isBlank {line : Text} (blank : isBlank line) : ¬ isDashLine line := by
  intro dashes
  rw [isDashLine, Bool.and_eq_true, decide_eq_true_eq] at dashes
  obtain ⟨long, all⟩ := dashes
  obtain ⟨c, mem⟩ := List.exists_mem_of_length_pos (Nat.lt_of_lt_of_le (by decide) long)
  have dash : c = '-' := by simpa using List.all_eq_true.mp all c mem
  have visible := List.all_eq_true.mp blank c (mem_of_mem_title mem)
  rw [dash] at visible
  exact absurd visible (by decide)

theorem not_isGoogleTitle_of_isBlank {line : Text} (blank : isBlank line) :
    ¬ isGoogleTitle line := by
  intro titled
  rw [isGoogleTitle, List.contains_iff_mem] at titled
  have colon : ∀ title ∈ [("Args:" : Text), "Arguments:", "Keyword Args:", "Returns:", "Yields:",
      "Raises:"], ':' ∈ title := by decide
  have visible := List.all_eq_true.mp blank ':' (mem_of_mem_title (colon _ titled))
  exact absurd visible (by decide)

/-- Titles do not start with a colon. -/
theorem not_isGoogleTitle_of_colon {s : Text} (phrase : IsPhrase (':' :: s)) :
    ¬ isGoogleTitle (':' :: s) := by
  intro titled
  have whole : dropTabsAndSpaces (':' :: s) = ':' :: s := dropTabsAndSpaces_indented 0 phrase
  rw [isGoogleTitle, whole, dropEndWhile_isTabOrSpace phrase, List.contains_iff_mem] at titled
  have letter : ∀ title ∈ [("Args:" : Text), "Arguments:", "Keyword Args:", "Returns:", "Yields:",
      "Raises:"], title.head? ≠ some ':' := by decide
  exact letter _ titled rfl

section Titles

theorem exists_eq_append_dropTabsAndSpaces (s : Text) :
    ∃ gap, isBlank gap ∧ s = gap ++ dropTabsAndSpaces s := by
  refine ⟨s.takeWhile isTabOrSpace, List.all_eq_true.mpr fun c mem => ?_,
    List.takeWhile_append_dropWhile.symm⟩
  exact isBlankChar_of_isTabOrSpace (List.mem_takeWhile_imp mem)

theorem exists_eq_dropEndWhile_append (s : Text) :
    ∃ gap, isBlank gap ∧ s = dropEndWhile isTabOrSpace s ++ gap := by
  obtain ⟨gap, all, eq⟩ := exists_eq_dropEnd_append isTabOrSpace s
  exact ⟨gap, List.all_eq_true.mpr fun c mem => isBlankChar_of_isTabOrSpace (all c mem), eq⟩

variable {line : Text}

/-- What is seen of a line between tabs and spaces is what is read of it. -/
theorem trim_plainLine_eq (phrase : IsPhrase (dropEndWhile isTabOrSpace (dropTabsAndSpaces line))) :
    trim (plainLine line) = dropEndWhile isTabOrSpace (dropTabsAndSpaces line) := by
  obtain ⟨gap, blank, eq⟩ := exists_eq_append_dropTabsAndSpaces line
  obtain ⟨gap', blank', eq'⟩ := exists_eq_dropEndWhile_append (dropTabsAndSpaces line)
  have read := trim_plainLine_append blank blank' phrase.noTab phrase.trimmed phrase.visible
  rwa [← eq', ← eq] at read

theorem exists_title_of_isNumPyTitle (titled : isNumPyTitle line) :
    ∃ title, trim (plainLine line) = title ∧ IsPhrase title ∧ (NumPy.sectionOf? title).isSome := by
  obtain ⟨bare, ending, blank, eq, mem⟩ : ∃ bare ending, isBlank ending ∧ line = bare ++ ending ∧
      dropTabsAndSpaces (dropEndWhile isTabOrSpace bare) ∈
        [("Parameters" : Text), "Other Parameters", "Returns", "Yields", "Raises"] := by
    have mem := List.contains_iff_mem.mp titled
    cases cut : before? ("\r" : Text) line with
    | none =>
      rw [cut] at mem
      exact ⟨line, [], rfl, (List.append_nil line).symm, mem⟩
    | some bare =>
      rw [cut] at mem
      exact ⟨bare, ['\r'], rfl, before?_eq_some_iff.mp cut, mem⟩
  obtain ⟨gap', blank', eq'⟩ := exists_eq_dropEndWhile_append bare
  obtain ⟨gap, lead, whole⟩ :=
    exists_eq_append_dropTabsAndSpaces (dropEndWhile isTabOrSpace bare)
  have known : ∀ title ∈ [("Parameters" : Text), "Other Parameters", "Returns", "Yields", "Raises"],
      IsPhrase title ∧ (NumPy.sectionOf? title).isSome := by decide +kernel
  obtain ⟨phrase, headed⟩ := known _ mem
  have ends : isBlank (gap' ++ ending) := by rw [isBlank_append, blank', blank]; rfl
  have read := trim_plainLine_append lead ends phrase.noTab phrase.trimmed phrase.visible
  rw [← List.append_assoc, ← List.append_assoc, ← whole, ← eq', ← eq] at read
  exact ⟨_, read, phrase, headed⟩

theorem exists_title_of_isGoogleTitle (titled : isGoogleTitle line) :
    ∃ title, trim (plainLine line) = title ∧ IsPhrase title ∧
      (Google.sectionOf? title).isSome := by
  have known : ∀ title ∈ [("Args:" : Text), "Arguments:", "Keyword Args:", "Returns:", "Yields:",
      "Raises:"], IsPhrase title ∧ (Google.sectionOf? title).isSome := by decide +kernel
  obtain ⟨phrase, headed⟩ := known _ (List.contains_iff_mem.mp titled)
  exact ⟨_, trim_plainLine_eq phrase, phrase, headed⟩

theorem exists_dashes_of_isDashLine (dashes : isDashLine line) :
    ∃ row, trim (plainLine line) = row ∧ IsPhrase row ∧ NumPy.isDashes row := by
  obtain ⟨long, all⟩ := (Bool.and_eq_true _ _).mp dashes
  rw [decide_eq_true_eq] at long
  have word : IsWord (dropEndWhile isTabOrSpace (dropTabsAndSpaces line)) := by
    refine ⟨List.ne_nil_of_length_pos (Nat.lt_of_lt_of_le (by decide) long), fun c mem => ?_⟩
    have dash : c = '-' := by simpa using List.all_eq_true.mp all c mem
    rw [dash]
    decide
  have phrase := isPhrase_of_isWord word
  refine ⟨_, trim_plainLine_eq phrase, phrase, ?_⟩
  rw [NumPy.isDashes, phrase.trimmed, Bool.and_eq_true, decide_eq_true_eq]
  exact ⟨long.trans (length_le_byteLength _), all⟩

end Titles

theorem exists_infix_of_hasUnderlinedTitle {lines : List Text}
    (underlined : hasUnderlinedTitle lines) :
    ∃ title under, [title, under] <:+: lines ∧ isNumPyTitle title ∧ isDashLine under := by
  induction lines using hasUnderlinedTitle.induct with
  | case1 title under rest ih =>
    rw [hasUnderlinedTitle, Bool.or_eq_true] at underlined
    rcases underlined with here | later
    · obtain ⟨titled, dashes⟩ := (Bool.and_eq_true _ _).mp here
      exact ⟨title, under, ⟨[], rest, rfl⟩, titled, dashes⟩
    · obtain ⟨title', under', inside, found⟩ := ih later
      exact ⟨title', under', inside.trans (List.suffix_cons _ _).isInfix, found⟩
  | case2 lines short =>
    rw [hasUnderlinedTitle.eq_2 lines short] at underlined
    exact absurd underlined Bool.false_ne_true

end DocstringStyle

theorem NumPy.opensSection_of_trim {title under : Text} (rest : List Text)
    (headed : (NumPy.sectionOf? (trim title)).isSome) (dashes : NumPy.isDashes (trim under)) :
    NumPy.opensSection (title :: under :: rest) := by
  rw [NumPy.sectionOf?, trim_trim] at headed
  rw [NumPy.isDashes, trim_trim] at dashes
  rw [NumPy.opensSection, NumPy.sectionAt?, NumPy.isDashes, if_pos dashes]
  exact headed

theorem Google.opensSection_of_trim {line : Text} (rest : List Text)
    (headed : (Google.sectionOf? (trim line)).isSome) : Google.opensSection (line :: rest) := by
  rw [Google.sectionOf?, trim_trim] at headed
  exact headed

theorem NumPy.sections_ne_nil {lines : List Text} (opens : NumPy.opensSection lines) :
    NumPy.sections lines ≠ [] := by
  obtain ⟨s, known⟩ := Option.isSome_iff_exists.mp opens
  cases lines with
  | nil => cases known
  | cons line rest =>
    rw [NumPy.sections, known]
    exact List.cons_ne_nil _ _

theorem Google.sections_ne_nil {lines : List Text} (opens : Google.opensSection lines) :
    Google.sections lines ≠ [] := by
  cases lines with
  | nil => cases opens
  | cons line rest =>
    obtain ⟨s, known⟩ := Option.isSome_iff_exists.mp opens
    rw [Google.sections, known]
    exact List.cons_ne_nil _ _

namespace Docstring

open DocstringStyle

theorem exists_opensSection_numpy {text : Text} (told : detect text = .numpy) :
    ∃ title rest, title :: rest <:+ tidyLines text ∧ ¬ isBlank title ∧
      NumPy.opensSection (title :: rest) := by
  have underlined : hasUnderlinedTitle (splitOn '\n' text) := by
    by_contra none
    rw [detect, if_neg none] at told
    split at told <;> cases told
  obtain ⟨title, under, inside, titled, dashes⟩ := exists_infix_of_hasUnderlinedTitle underlined
  obtain ⟨t, read, phrase, headed⟩ := exists_title_of_isNumPyTitle titled
  obtain ⟨u, read', phrase', row⟩ := exists_dashes_of_isDashLine dashes
  have seen : [t] ++ [u] <:+: (splitOn '\n' text).map fun line => trim (plainLine line) := by
    have seen := inside.map fun line => trim (plainLine line)
    rwa [List.map_cons, List.map_singleton, read, read'] at seen
  obtain ⟨lead, rest, whole⟩ :=
    infix_map_trim_tidyLines seen (by simp [phrase.ne_nil, phrase'.ne_nil])
  obtain ⟨front, after, lines, eq, _⟩ := List.map_eq_append_iff.mp whole.symm
  obtain ⟨before, part, rfl, _, known⟩ := List.map_eq_append_iff.mp eq
  obtain ⟨first, more, rfl, same, known⟩ := List.map_eq_cons_iff.mp known
  obtain ⟨second, none, rfl, same', known⟩ := List.map_eq_cons_iff.mp known
  rw [List.map_eq_nil_iff.mp known] at lines
  refine ⟨first, second :: after, ⟨before, by rw [lines]; simp⟩, ?_, ?_⟩
  · rw [← trim_eq_nil_iff, same]
    exact phrase.ne_nil
  · exact NumPy.opensSection_of_trim after (same ▸ headed) (same' ▸ row)

theorem exists_opensSection_google {text : Text} (told : detect text = .google) :
    ∃ title rest, title :: rest <:+ tidyLines text ∧ ¬ isBlank title ∧
      Google.opensSection (title :: rest) := by
  have some : (splitOn '\n' text).any isGoogleTitle := by
    by_contra none
    rw [detect, if_neg none] at told
    split at told <;> cases told
  obtain ⟨title, mem, titled⟩ := List.any_eq_true.mp some
  obtain ⟨t, read, phrase, headed⟩ := exists_title_of_isGoogleTitle titled
  have seen : [] ++ [t] <:+: (splitOn '\n' text).map fun line => trim (plainLine line) := by
    rw [List.nil_append, List.singleton_infix_iff, ← read]
    exact List.mem_map_of_mem mem
  have known := infix_map_trim_tidyLines seen (by simp [phrase.ne_nil])
  rw [List.nil_append, List.singleton_infix_iff] at known
  obtain ⟨line, inside, same⟩ := List.mem_map.mp known
  obtain ⟨lead, rest, eq⟩ := List.append_of_mem inside
  refine ⟨line, rest, ⟨lead, eq.symm⟩, ?_, Google.opensSection_of_trim rest (same ▸ headed)⟩
  rw [← trim_eq_nil_iff, same]
  exact phrase.ne_nil

/-- A style that was told by a header is read with this header: the parser finds it among the lines
and has a section behind the prose. -/
theorem opensSection_of_detect (text : Text) :
    (detect text = .numpy →
      (∃ rest, rest <:+ tidyLines text ∧ NumPy.opensSection rest) ∧
        NumPy.sections (withProse NumPy.opensSection (tidyLines text)).2 ≠ []) ∧
    (detect text = .google →
      (∃ line ∈ tidyLines text, (Google.sectionOf? line).isSome) ∧
        Google.sections (withProse Google.opensSection (tidyLines text)).2 ≠ []) := by
  constructor
  · intro told
    obtain ⟨title, rest, ends, visible, opens⟩ := exists_opensSection_numpy told
    exact ⟨⟨_, ends, opens⟩, NumPy.sections_ne_nil (isHeader_withProse ends visible opens)⟩
  · intro told
    obtain ⟨title, rest, ends, visible, opens⟩ := exists_opensSection_google told
    exact ⟨⟨title, ends.subset List.mem_cons_self, opens⟩,
      Google.sections_ne_nil (isHeader_withProse ends visible opens)⟩

end Docstring
end SymbolDocs
