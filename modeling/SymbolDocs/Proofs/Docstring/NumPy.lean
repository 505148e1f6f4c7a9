import SymbolDocs.Proofs.Docstring.Entries
import SymbolDocs.Proofs.Docstring.EntryLine

namespace SymbolDocs.NumPy

open Text Docstring

/-- A phrase with deeper lines below it. -/
def entryLines (head : Text) (lines : List Text) : List Text := head :: lines.map (indented 4)

/-- Underlined titles, entries at the margin. -/
def layout : Layout where
  header title := [title, List.replicate title.length '-']
  parametersTitle := "Parameters"
  parameter p :=
    let type := p.type.elim [] fun type => ' ' :: ':' :: ' ' :: type
    entryLines (p.name ++ type) p.lines
  result r := entryLines r.type r.lines

/-- What can be written down in this style. -/
structure Fits (w : Written) : Prop where
  summary : IsPhrase w.summary
  nonempty : w.parameters ≠ []
  parameter : ∀ p ∈ w.parameters, Entry.IsStarredName p.name ∧ (∀ type ∈ p.type, IsPhrase type) ∧
    ∀ line ∈ p.lines, IsLine line
  returns : ∀ r ∈ w.returns, (IsLine r.type ∧ ':' ∉ r.type) ∧ ∀ line ∈ r.lines, IsLine line
  raises : ∀ r ∈ w.raises, IsLine r.type ∧ ∀ line ∈ r.lines, IsLine line

section Sections

variable {title under : Text} {kind : Section} {more : List Text} {doc : Docstring}

theorem sectionAt?_eq (rule : isDashes under) :
    sectionAt? (title :: under :: more) = sectionOf? title := by
  rw [sectionAt?, if_pos rule]

theorem sections_of_header (rule : isDashes under) (known : sectionOf? title = some kind)
    (more : List Text) :
    sections (title :: under :: more) =
      (kind, (spanUntil opensSection more).1) :: sections (spanUntil opensSection more).2 := by
  rw [sections, sectionAt?_eq rule, known]
  rfl

theorem not_opensSection {line : Text} {rest : List Text}
    (plain : ∀ next, rest.head? = some next → ¬ isDashes next) : ¬ opensSection (line :: rest) := by
  cases rest with
  | nil => exact Bool.false_ne_true
  | cons next rest =>
    rw [opensSection, sectionAt?, if_neg (plain next rfl)]
    decide

/-- The sections that hold entries. -/
def HasEntries (kind : Section) : Prop := kind = .parameters ∨ kind = .returns ∨ kind = .raises

theorem addSection_append (entries : HasEntries kind) (body : List Text) {gap : List Text}
    (blank : ∀ l ∈ gap, isBlank l) :
    addSection doc (kind, body ++ gap) = addSection doc (kind, body) := by
  have none : gap.filter (!isBlank ·) = [] := by simpa using blank
  have same := margin_append_of_isBlank body blank
  rcases entries with rfl | rfl | rfl
  · simp only [addSection, List.filter_append, none, List.append_nil, same]
  · simp only [addSection, List.filter_append, none, List.append_nil]
  · simp only [addSection, List.filter_append, none, List.append_nil, same]

/-- Adds a section under the title it is written with. -/
def addTitled (doc : Docstring) : Text × List Text → Docstring
  | (title, body) => (sectionOf? title).elim doc fun kind => addSection doc (kind, body)

/-- A section as it is written: under a known title, and without a row of dashes in it. -/
structure IsWritten (sec : Text × List Text) : Prop where
  long : 3 ≤ sec.1.length
  known : ∃ kind, HasEntries kind ∧ sectionOf? sec.1 = some kind
  plain : ∀ line ∈ sec.1 :: sec.2, ¬ isDashes line

theorem isWord_replicate_dash {width : Nat} (long : 3 ≤ width) :
    IsWord (List.replicate width '-') := by
  constructor
  · intro empty
    have none : width = 0 := by simpa using empty
    omega
  · intro c mem
    rw [List.eq_of_mem_replicate mem]
    decide

theorem isDashes_replicate {width : Nat} (long : 3 ≤ width) :
    isDashes (List.replicate width '-') := by
  rw [isDashes, trim_eq_self_of_isWord (isWord_replicate_dash long)]
  simp [byteLength_replicate (c := '-') rfl, long]

theorem sectionLines_cons (gap : Nat) (title : Text) (body : List Text)
    (more : List (Text × List Text)) : layout.sectionLines gap ((title, body) :: more) =
      title :: List.replicate title.length '-' ::
        (body ++ (if more.isEmpty then [] else List.replicate gap []) ++
          layout.sectionLines gap more) := rfl

theorem opensSection_sectionLines {gap : Nat} {secs : List (Text × List Text)}
    (written : ∀ sec ∈ secs, IsWritten sec) :
    layout.sectionLines gap secs = [] ∨ opensSection (layout.sectionLines gap secs) := by
  rcases secs with _ | ⟨⟨title, body⟩, more⟩
  · exact .inl rfl
  · obtain ⟨long, ⟨kind, _, known⟩, _⟩ := written _ List.mem_cons_self
    rw [sectionLines_cons, opensSection, sectionAt?_eq (isDashes_replicate long), known]
    exact .inr rfl

/-- The lines of a section, with empty ones behind it, go up to the next title. -/
theorem spanUntil_sectionLines (gap : Nat) {body between : List Text}
    {more : List (Text × List Text)} (plain : ∀ line ∈ body, ¬ isDashes line)
    (empty : ∀ line ∈ between, line = []) (written : ∀ sec ∈ more, IsWritten sec) :
    spanUntil opensSection (body ++ between ++ layout.sectionLines gap more) =
      (body ++ between, layout.sectionLines gap more) := by
  refine spanUntil_append (fun line rest ends => not_opensSection fun next first => ?_)
    (opensSection_sectionLines written)
  rcases rest with _ | ⟨under, rest⟩
  · rcases more with _ | ⟨⟨title, body'⟩, more⟩
    · exact absurd first (by simp [Layout.sectionLines])
    · have start : some title = some next := first
      rw [← Option.some.inj start]
      exact (written _ List.mem_cons_self).plain title List.mem_cons_self
  · have inside : under ∈ body ++ between :=
      ends.subset (List.mem_cons_of_mem line List.mem_cons_self)
    rw [← Option.some.inj first]
    rcases List.mem_append.mp inside with mem | mem
    · exact plain under mem
    · rw [empty under mem]
      decide

/-- What is laid out in sections is added section by section. -/
theorem foldl_sectionLines (gap : Nat) {secs : List (Text × List Text)} (doc : Docstring)
    (written : ∀ sec ∈ secs, IsWritten sec) :
    (sections (layout.sectionLines gap secs)).foldl addSection doc = secs.foldl addTitled doc := by
  refine Layout.foldl_sectionLines (by rw [sections])
    (fun title body more between here later empty => ?_) written doc
  obtain ⟨long, ⟨kind, entries, known⟩, plain⟩ := here
  have split := spanUntil_sectionLines gap
    (fun line mem => plain line (List.mem_cons_of_mem title mem)) empty later
  refine ⟨(kind, body ++ between), ?_, fun doc => ?_⟩
  · have header := sections_of_header (isDashes_replicate long) known
      (body ++ between ++ layout.sectionLines gap more)
    rwa [split] at header
  · rw [addTitled, known]
    exact addSection_append entries body fun line mem => by
      rw [empty line mem]
      rfl

end Sections

section Entries

variable {p : WrittenParameter} {r : WrittenResult} {line : Text}

theorem not_indented (phrase : IsPhrase line) : ¬ indentWidth (indented 4 line) ≤ 0 := by
  rw [phrase.indentWidth_indented]
  decide

theorem isPhrase_head (name : Entry.IsStarredName p.name)
    (phrase : ∀ type ∈ p.type, IsPhrase type) :
    IsPhrase (p.name ++ p.type.elim [] fun type => ' ' :: ':' :: ' ' :: type) := by
  have word := isPhrase_of_isWord name.isWord
  cases known : p.type with
  | none => rwa [Option.elim_none, List.append_nil]
  | some type =>
    have both := word.append (phrase type known) " : " (by decide) (by decide)
    rwa [List.append_assoc] at both

theorem addParameterLine_head (name : Entry.IsStarredName p.name)
    (phrase : ∀ type ∈ p.type, IsPhrase type) (doc : Docstring) :
    addParameterLine 0 doc (p.name ++ p.type.elim [] fun type => ' ' :: ':' :: ' ' :: type) =
      doc.addParameters [{ name := p.name, type := p.type }] := by
  have head := isPhrase_head name phrase
  rw [addParameterLine]
  simp only [head.indentWidth_eq, head.trimmed, Nat.le_refl, if_true]
  cases known : p.type with
  | none =>
    simp only [Option.elim_none, List.append_nil, name.namesAndType?_eq_none, name.isBareName,
      if_true]
    rfl
  | some type =>
    have shown := phrase type known
    simp only [Option.elim_some, name.namesAndType?_typed, shown.trimmed,
      nonEmpty?_eq_some shown.ne_nil]
    rfl

theorem foldl_parameter (name : Entry.IsStarredName p.name)
    (phrase : ∀ type ∈ p.type, IsPhrase type) (lines : ∀ line ∈ p.lines, IsPhrase line)
    (doc : Docstring) :
    (layout.parameter p).foldl (addParameterLine 0) doc = doc.addParameters [p.entry] := by
  have entry := foldl_entry addParameters Parameter.describe (p.lines.map (indented 4)) doc
    (addParameterLine_head name phrase doc) fun e line mem => by
      obtain ⟨said, inside, rfl⟩ := List.mem_map.mp mem
      rw [addParameterLine]
      simp only [if_neg (not_indented (lines said inside)), describeLastParameter_addParameters]
  rw [IsPhrase.map_trim_indented lines, foldl_describe_entry p lines] at entry
  exact entry

theorem foldl_raise (phrase : IsPhrase r.type) (lines : ∀ line ∈ r.lines, IsPhrase line)
    (doc : Docstring) :
    (layout.result r).foldl (addRaisesLine 0) doc = doc.addRaises [r.raise] := by
  have head : addRaisesLine 0 doc r.type = doc.addRaises [{ type := r.type }] := by
    rw [addRaisesLine]
    simp only [phrase.indentWidth_eq, phrase.trimmed, Nat.le_refl, if_true]
    rfl
  have entry := foldl_entry addRaises Raise.describe (r.lines.map (indented 4)) doc head
    fun e line mem => by
      obtain ⟨said, inside, rfl⟩ := List.mem_map.mp mem
      rw [addRaisesLine]
      simp only [if_neg (not_indented (lines said inside)), describeLastRaise_addRaises]
  rw [IsPhrase.map_trim_indented lines, foldl_describe_raise r lines] at entry
  exact entry

theorem foldl_addReturnsLine_typed {value : Returns} {type : Text} (typed : value.type = some type)
    (lines : List Text) :
    lines.foldl addReturnsLine value = (lines.map trim).foldl Returns.describe value := by
  induction lines generalizing value with
  | nil => rfl
  | cons line lines ih =>
    have step : addReturnsLine value line = value.describe (trim line) := by
      rw [addReturnsLine, typed]
    have kept : (value.describe (trim line)).type = some type := typed
    rw [List.foldl_cons, step, ih kept, List.map_cons, List.foldl_cons]

theorem foldl_returns (phrase : IsPhrase r.type) (noColon : ':' ∉ r.type)
    (lines : ∀ line ∈ r.lines, IsPhrase line) :
    (layout.result r).foldl addReturnsLine {} = r.value := by
  have unnamed : Entry.namesAndType? r.type = none := by
    rw [Entry.namesAndType?, cut?_eq_none_iff.mpr noColon]
    rfl
  have head : addReturnsLine {} r.type = { type := some r.type } := by
    rw [addReturnsLine]
    simp only [phrase.trimmed, unnamed]
  have whole : layout.result r = r.type :: r.lines.map (indented 4) := rfl
  rw [whole, List.foldl_cons, head, foldl_addReturnsLine_typed rfl,
    IsPhrase.map_trim_indented lines, foldl_describe_value r lines]

end Entries

section Texts

variable {w : Written}

theorem not_isDashes_of_isOwnLine {line : Text} : IsOwnLine line → ¬ isDashes line := by
  rintro ⟨width, s, own, rfl⟩ dashes
  rw [isDashes, own.trim_indented, Bool.and_eq_true] at dashes
  exact own.noRule dashes.2

theorem isOwnLine_entryLines {head : Text} {lines : List Text} (own : IsLine head)
    (all : ∀ line ∈ lines, IsLine line) : ∀ line ∈ entryLines head lines, IsOwnLine line := by
  intro line mem
  rcases List.mem_cons.mp mem with rfl | mem
  · exact ⟨0, line, own, rfl⟩
  · obtain ⟨said, inside, rfl⟩ := List.mem_map.mp mem
    exact ⟨4, said, all said inside, rfl⟩

theorem Fits.hasOwnLines (fits : Fits w) : layout.HasOwnLines w where
  parameter p known := by
    obtain ⟨name, type, lines⟩ := fits.parameter p known
    obtain ⟨c, named, ne⟩ := name.exists_mem_ne_dash
    exact isOwnLine_entryLines ((isPhrase_head name type).isLine (List.mem_append_left _ named) ne)
      lines
  returns r known := isOwnLine_entryLines (fits.returns r known).1.1 (fits.returns r known).2
  raises r known := isOwnLine_entryLines (fits.raises r known).1 (fits.raises r known).2

theorem sectionOf?_parameters : sectionOf? "Parameters" = some .parameters := by decide

theorem sectionOf?_returns : sectionOf? "Returns" = some .returns := by decide

theorem sectionOf?_raises : sectionOf? "Raises" = some .raises := by decide

theorem isLine_of_mem_titles : ∀ title ∈ [("Parameters" : Text), "Returns", "Raises"],
    IsLine title ∧ 3 ≤ title.length := by decide

theorem Fits.isWritten (fits : Fits w) : ∀ sec ∈ layout.sections w, IsWritten sec := by
  intro sec mem
  obtain ⟨own, long⟩ := isLine_of_mem_titles _ (Layout.mem_titles mem)
  refine ⟨long, ?_, fun line inside => ?_⟩
  · rcases Layout.mem_sections mem with rfl | ⟨r, _, rfl⟩ | rfl
    · exact ⟨.parameters, .inl rfl, sectionOf?_parameters⟩
    · exact ⟨.returns, .inr (.inl rfl), sectionOf?_returns⟩
    · exact ⟨.raises, .inr (.inr rfl), sectionOf?_raises⟩
  · rcases List.mem_cons.mp inside with rfl | inside
    · exact not_isDashes_of_isOwnLine ⟨0, _, own, rfl⟩
    · exact not_isDashes_of_isOwnLine (fits.hasOwnLines.isOwnLine mem line inside)

theorem Fits.isVisible (fits : Fits w) : layout.IsVisible w where
  summary := fits.summary
  headed _ := List.cons_ne_nil _ _
  atMargin := ⟨"Parameters", List.mem_cons_self, by decide⟩
  shown := by
    intro sec mem line inside
    obtain ⟨own, long⟩ := isLine_of_mem_titles _ (Layout.mem_titles mem)
    rcases List.mem_append.mp inside with header | body
    · rcases List.mem_cons.mp header with rfl | rule
      · exact own.isVisibleLine
      · rw [List.mem_singleton.mp rule]
        exact (isPhrase_of_isWord (isWord_replicate_dash long)).isVisibleLine
    · exact (fits.hasOwnLines.isOwnLine mem line body).isVisibleLine

theorem detect_text (fits : Fits w) (gap : Nat) :
    DocstringStyle.detect (layout.text gap w) = .numpy := by
  have lines : layout.lines gap w = w.summary :: [] :: ("Parameters" : Text) ::
      ("----------" : Text) :: (layout.lines gap w).drop 4 := rfl
  have underlined : DocstringStyle.hasUnderlinedTitle (layout.lines gap w) := by
    have title : DocstringStyle.isNumPyTitle "Parameters" = true := by decide
    have under : DocstringStyle.isDashLine "----------" = true := by decide
    rw [lines]
    simp only [DocstringStyle.hasUnderlinedTitle, title, under, Bool.and_true, Bool.true_or,
      Bool.or_true]
  rw [DocstringStyle.detect, fits.isVisible.splitOn_text, if_pos underlined]

theorem margin_eq_zero {head : Text} (phrase : IsPhrase head) {body : List Text}
    (mem : head ∈ body) : margin body = 0 :=
  margin_eq ⟨head, mem, phrase.visible, phrase.indentWidth_eq⟩ fun _ _ _ => Nat.zero_le _

theorem Fits.addTitled_parameters (fits : Fits w) (doc : Docstring) :
    addTitled doc ("Parameters", w.parameters.flatMap layout.parameter) =
      doc.addParameters (w.parameters.map (·.entry)) := by
  have atMargin : margin (w.parameters.flatMap layout.parameter) = 0 := by
    obtain ⟨p, known⟩ := List.exists_mem_of_ne_nil _ fits.nonempty
    obtain ⟨name, type, _⟩ := fits.parameter p known
    exact margin_eq_zero (isPhrase_head name type)
      (List.mem_flatMap.mpr ⟨p, known, List.mem_cons_self⟩)
  have read : (w.parameters.flatMap layout.parameter).foldl (addParameterLine 0) doc =
      doc.addParameters (w.parameters.map (·.entry)) :=
    foldl_entries addParameters_nil addParameters_addParameters (fun p known doc =>
      have ⟨name, type, lines⟩ := fits.parameter p known
      foldl_parameter name type (fun line mem => (lines line mem).toIsPhrase) doc) doc
  rw [addTitled, sectionOf?_parameters, Option.elim_some, addSection,
    fits.hasOwnLines.filter_parameters]
  simp only [atMargin, read]

theorem Fits.addTitled_returns (fits : Fits w) {r : WrittenResult} (known : r ∈ w.returns)
    {doc : Docstring} (fresh : doc.returns = none) :
    addTitled doc ("Returns", layout.result r) = { doc with returns := some r.value } := by
  obtain ⟨⟨own, noColon⟩, lines⟩ := fits.returns r known
  have read := foldl_returns own.toIsPhrase noColon fun line mem => (lines line mem).toIsPhrase
  have filled : r.value ≠ {} := fun empty => by
    have type := congrArg Returns.type empty
    exact absurd type (by simp [WrittenResult.value])
  rw [addTitled, sectionOf?_returns, Option.elim_some, addSection,
    fits.hasOwnLines.filter_returns known]
  simp [fresh, read, filled]

theorem Fits.addTitled_raises (fits : Fits w) (nonempty : w.raises ≠ []) (doc : Docstring) :
    addTitled doc ("Raises", w.raises.flatMap layout.result) =
      doc.addRaises (w.raises.map (·.raise)) := by
  have atMargin : margin (w.raises.flatMap layout.result) = 0 := by
    obtain ⟨r, known⟩ := List.exists_mem_of_ne_nil _ nonempty
    exact margin_eq_zero (fits.raises r known).1.toIsPhrase
      (List.mem_flatMap.mpr ⟨r, known, List.mem_cons_self⟩)
  have read : (w.raises.flatMap layout.result).foldl (addRaisesLine 0) doc =
      doc.addRaises (w.raises.map (·.raise)) :=
    foldl_entries addRaises_nil addRaises_addRaises (fun r known doc =>
      have ⟨own, lines⟩ := fits.raises r known
      foldl_raise own.toIsPhrase (fun line mem => (lines line mem).toIsPhrase) doc) doc
  rw [addTitled, sectionOf?_raises, Option.elim_some, addSection,
    fits.hasOwnLines.filter_raises]
  simp only [atMargin, read]

theorem parse_lines (fits : Fits w) (gap : Nat) : parse (layout.lines gap w) = w.unlinked := by
  have header : opensSection (layout.sectionLines gap (layout.sections w)) :=
    (opensSection_sectionLines fits.isWritten).resolve_left (List.cons_ne_nil _ _)
  have prose := withProse_summary fits.summary
    (not_opensSection (by rintro next ⟨⟩; decide)) (not_opensSection (by rintro next ⟨⟩; decide))
    header
  have added := Layout.foldl_sections layout fits.addTitled_parameters
    (fun r known doc fresh => fits.addTitled_returns known fresh) fits.addTitled_raises
  rw [← foldl_sectionLines gap _ fits.isWritten] at added
  rw [parse, Layout.lines, prose]
  exact added

end Texts

end SymbolDocs.NumPy

namespace SymbolDocs.Docstring

/-- What is laid out in the NumPy style is read back, whatever its lines say. -/
theorem parse_numpy_text {w : Written} (fits : NumPy.Fits w) (gap : Nat) :
    parse (NumPy.layout.text gap w) = w.docstring :=
  fits.isVisible.parse_text (NumPy.detect_text fits gap) (NumPy.parse_lines fits gap)

/-- Lines about a parameter that look like a title and like another parameter. -/
def writtenMean : Written where
  summary := "Compute the mean."
  parameters := [
    { name := "a", type := some "list : of float", lines := ["Returns", "b : see PEP 8"] },
    { name := "**kwargs" }]
  returns := some { type := "float", lines := ["The mean,", "or :data:`math.nan`."] }
  raises := [{ type := "ValueError: empty", lines := ["Raises"] }, { type := "TypeError" }]

theorem parse_numpy_text_mean : NumPy.Fits writtenMean ∧
    parse (NumPy.layout.text 1 writtenMean) =
      { summary := some ("Compute the mean." : Text)
        parameters := [
          { name := "a"
            type := some ("list : of float" : Text)
            description := some
              ("Returns b : see [PEP 8](https://peps.python.org/pep-0008/)" : Text) },
          { name := "**kwargs" }]
        returns := some
          { type := some ("float" : Text)
            description := some ("The mean, or `math.nan`." : Text) }
        raises := [
          { type := "ValueError: empty", description := some ("Raises" : Text) },
          { type := "TypeError" }] } := by
  have fits : NumPy.Fits writtenMean :=
    { summary := by decide
      nonempty := by decide
      parameter := by
        intro p mem
        rcases List.mem_cons.mp mem with rfl | mem
        · exact ⟨⟨0, "a", by decide, rfl, by decide⟩, by decide, by decide⟩
        · rw [List.mem_singleton.mp mem]
          exact ⟨⟨2, "kwargs", by decide, rfl, by decide⟩, by decide, by decide⟩
      returns := by decide
      raises := by decide }
  exact ⟨fits, (parse_numpy_text fits 1).trans (by decide +kernel)⟩

end SymbolDocs.Docstring
