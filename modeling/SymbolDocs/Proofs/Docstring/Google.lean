import Mathlib.Data.List.Chain
import SymbolDocs.Proofs.Docstring.Detection
import SymbolDocs.Proofs.Docstring.Entries
import SymbolDocs.Proofs.Docstring.EntryLine

namespace SymbolDocs.Google

open Text Docstring

/-- What stands behind the colon of an entry. -/
def entryTail : List Text → Text
  | [] => []
  | first :: _ => ' ' :: first

/-- An entry with its first line behind the colon and the others deeper below. -/
def entryLines (head : Text) (lines : List Text) : List Text :=
  indented 4 (head ++ ':' :: entryTail lines) :: lines.tail.map (indented 8)

/-- A name, with its type in parentheses. -/
def parameterHead (p : WrittenParameter) : Text :=
  p.name ++ p.type.elim [] fun type => ' ' :: '(' :: (type ++ [')'])

/-- Titles with a colon, and everything indented below them. -/
def layout : Layout where
  header title := [title ++ [':']]
  parametersTitle := "Args"
  parameter p := entryLines (parameterHead p) p.lines
  result r := entryLines r.type r.lines

/-- What can be written down in this style. -/
structure Fits (w : Written) : Prop where
  summary : IsPhrase w.summary
  untitled : sectionOf? w.summary = none
  nonempty : w.parameters ≠ []
  parameter : ∀ p ∈ w.parameters, Entry.IsStarredName p.name ∧
    (∀ type ∈ p.type, IsPhrase type ∧ ')' ∉ type) ∧ ∀ line ∈ p.lines, IsLine line
  returns : ∀ r ∈ w.returns, (IsPhrase r.type ∧ ':' ∉ r.type ∧
    r.type.IsChain fun c d => d = ' ' → c = ',') ∧ ∀ line ∈ r.lines, IsLine line
  raises : ∀ r ∈ w.raises, Entry.IsNameOf (fun c => isWordChar c || c == '.') r.type ∧
    ∀ line ∈ r.lines, IsLine line

section Sections

variable {header title : Text} {kind : Section} {more : List Text} {doc : Docstring}

theorem sections_of_header (known : sectionOf? header = some kind) (more : List Text) :
    sections (header :: more) =
      (kind, dropEndWhile (· == ':') (trim header),
        (spanUntil (opensSectionWithin (indentWidth header)) more).1) ::
      sections (spanUntil (opensSectionWithin (indentWidth header)) more).2 := by
  rw [sections, known]

/-- The sections that hold entries. -/
def HasEntries (kind : Section) : Prop := kind = .args ∨ kind = .returns ∨ kind = .raises

/-- Entries are read the same under every title. -/
theorem addSection_append (entries : HasEntries kind) (title' : Text) (body : List Text)
    {gap : List Text} (blank : ∀ l ∈ gap, isBlank l) :
    addSection doc (kind, title', body ++ gap) = addSection doc (kind, title, body) := by
  have none : gap.filter (!isBlank ·) = [] := by simpa using blank
  have same := margin_append_of_isBlank body blank
  rcases entries with rfl | rfl | rfl
  · simp only [addSection, List.filter_append, none, List.append_nil, same]
  · simp only [addSection, List.filter_append, none, List.append_nil]
  · simp only [addSection, List.filter_append, none, List.append_nil, same]

/-- Adds a section under the title it is written with. -/
def addTitled (doc : Docstring) : Text × List Text → Docstring
  | (title, body) =>
    (sectionOf? (title ++ [':'])).elim doc fun kind => addSection doc (kind, title, body)

/-- A section as it is written: under a known title at the margin, and deeper below it. -/
structure IsWritten (sec : Text × List Text) : Prop where
  known : ∃ kind, HasEntries kind ∧ sectionOf? (sec.1 ++ [':']) = some kind
  atMargin : indentWidth (sec.1 ++ [':']) = 0
  deeper : ∀ line ∈ sec.2, 0 < indentWidth line

theorem sectionLines_cons (gap : Nat) (title : Text) (body : List Text)
    (more : List (Text × List Text)) : layout.sectionLines gap ((title, body) :: more) =
      (title ++ [':']) :: (body ++ (if more.isEmpty then [] else List.replicate gap []) ++
        layout.sectionLines gap more) := rfl

theorem opensSection_sectionLines {gap : Nat} {secs : List (Text × List Text)}
    (written : ∀ sec ∈ secs, IsWritten sec) :
    layout.sectionLines gap secs = [] ∨
      opensSectionWithin 0 (layout.sectionLines gap secs) := by
  rcases secs with _ | ⟨⟨title, body⟩, more⟩
  · exact .inl rfl
  · obtain ⟨⟨kind, _, known⟩, atMargin, _⟩ := written _ List.mem_cons_self
    have known : (sectionOf? (title ++ [':'])).isSome := by rw [known]; rfl
    have atMargin : indentWidth (title ++ [':']) = 0 := atMargin
    rw [sectionLines_cons, opensSectionWithin, opensSection]
    simp [known, atMargin]

/-- The lines of a section, with empty ones behind it, go up to the next title. -/
theorem spanUntil_sectionLines (gap : Nat) {body between : List Text}
    {more : List (Text × List Text)} (deeper : ∀ line ∈ body, 0 < indentWidth line)
    (empty : ∀ line ∈ between, line = []) (written : ∀ sec ∈ more, IsWritten sec) :
    spanUntil (opensSectionWithin 0) (body ++ between ++ layout.sectionLines gap more) =
      (body ++ between, layout.sectionLines gap more) := by
  refine spanUntil_append (fun line rest ends opens => ?_) (opensSection_sectionLines written)
  obtain ⟨titled, within⟩ : (sectionOf? line).isSome ∧ indentWidth line ≤ 0 := by
    simpa [opensSectionWithin, opensSection] using opens
  rcases List.mem_append.mp (ends.subset List.mem_cons_self) with inside | gap
  · exact absurd (deeper line inside) (by omega)
  · rw [empty line gap] at titled
    exact absurd titled (by decide)

/-- What is laid out in sections is added section by section. -/
theorem foldl_sectionLines (gap : Nat) {secs : List (Text × List Text)} (doc : Docstring)
    (written : ∀ sec ∈ secs, IsWritten sec) :
    (sections (layout.sectionLines gap secs)).foldl addSection doc = secs.foldl addTitled doc := by
  refine Layout.foldl_sectionLines (by rw [sections])
    (fun title body more between here later empty => ?_) written doc
  obtain ⟨⟨kind, entries, known⟩, atMargin, deeper⟩ := here
  have split := spanUntil_sectionLines gap deeper empty later
  refine ⟨(kind, dropEndWhile (· == ':') (trim (title ++ [':'])), body ++ between), ?_,
    fun doc => ?_⟩
  · have header := sections_of_header known (body ++ between ++ layout.sectionLines gap more)
    rwa [atMargin, split] at header
  · rw [addTitled, known]
    exact addSection_append entries _ body fun line mem => by
      rw [empty line mem]
      rfl

end Sections

section Entries

variable {p : WrittenParameter} {r : WrittenResult} {head : Text} {lines : List Text}

theorem trimStart_entryTail (all : ∀ line ∈ lines, IsPhrase line) :
    trimStart (entryTail lines) = lines.headD [] := by
  cases lines with
  | nil => rfl
  | cons first more => exact (all first List.mem_cons_self).starts

theorem trim_entryTail (all : ∀ line ∈ lines, IsPhrase line) :
    trim (entryTail lines) = lines.headD [] := by
  rw [trim, trimStart_entryTail all]
  cases lines with
  | nil => rfl
  | cons first more => exact (all first List.mem_cons_self).ends

theorem isPhrase_entry (phrase : IsPhrase head) (all : ∀ line ∈ lines, IsPhrase line) :
    IsPhrase (head ++ ':' :: entryTail lines) := by
  cases lines with
  | nil =>
    have whole := phrase.append (t := ":") (by decide) [] (by decide) (by decide)
    rwa [List.append_nil] at whole
  | cons first more =>
    have whole := phrase.append (all first List.mem_cons_self) ": " (by decide) (by decide)
    rwa [List.append_assoc] at whole

theorem isPhrase_parameterHead (name : Entry.IsStarredName p.name)
    (phrase : ∀ type ∈ p.type, IsPhrase type) : IsPhrase (parameterHead p) := by
  have word := isPhrase_of_isWord name.isWord
  rw [parameterHead]
  cases known : p.type with
  | none => rwa [Option.elim_none, List.append_nil]
  | some type =>
    have opened := word.append (phrase type known) " (" (by decide) (by decide)
    have closed := opened.append (t := ")") (by decide) [] (by decide) (by decide)
    rwa [List.append_nil, List.append_assoc, List.append_assoc] at closed

/-- Describing by nothing changes nothing, so the first line may be there or not. -/
theorem foldl_tail_headD {ε : Type} {describe : ε → Text → ε} {entry : ε}
    (same : describe entry [] = entry) :
    lines.tail.foldl describe (describe entry (lines.headD [])) = lines.foldl describe entry := by
  cases lines with
  | nil => exact same
  | cons first more => rfl

theorem not_indented {line : Text} (phrase : IsPhrase line) :
    ¬ indentWidth (indented 8 line) ≤ 4 := by
  rw [phrase.indentWidth_indented]
  decide

theorem addArgLine_head (name : Entry.IsStarredName p.name)
    (phrase : ∀ type ∈ p.type, IsPhrase type ∧ ')' ∉ type)
    (all : ∀ line ∈ p.lines, IsPhrase line) (doc : Docstring) :
    addArgLine 4 doc (indented 4 (parameterHead p ++ ':' :: entryTail p.lines)) =
      doc.addParameters
        [Parameter.describe { name := p.name, type := p.type } (p.lines.headD [])] := by
  have entry := isPhrase_entry (isPhrase_parameterHead name fun type mem => (phrase type mem).1) all
  rw [addArgLine]
  simp only [entry.trim_indented, entry.indentWidth_indented, Nat.le_refl, if_true]
  rw [parameterHead]
  cases known : p.type with
  | none =>
    simp only [Option.elim_none, List.append_nil, name.nameTypeText?_plain,
      trimStart_entryTail all]
    rfl
  | some type =>
    obtain ⟨shown, plain⟩ := phrase type known
    have same : nonBlank? type = some type := by
      rw [nonBlank?, shown.trimmed]
      exact nonEmpty?_eq_some shown.ne_nil
    simp only [Option.elim_some, List.append_assoc, List.cons_append, List.nil_append,
      name.nameTypeText?_typed plain, trimStart_entryTail all, Option.bind_some, same]
    rfl

theorem foldl_parameter (name : Entry.IsStarredName p.name)
    (phrase : ∀ type ∈ p.type, IsPhrase type ∧ ')' ∉ type)
    (all : ∀ line ∈ p.lines, IsPhrase line) (doc : Docstring) :
    (layout.parameter p).foldl (addArgLine 4) doc = doc.addParameters [p.entry] := by
  have entry := foldl_entry addParameters Parameter.describe (p.lines.tail.map (indented 8)) doc
    (addArgLine_head name phrase all doc)
    fun e line mem => by
      obtain ⟨said, inside, rfl⟩ := List.mem_map.mp mem
      rw [addArgLine]
      simp only [if_neg (not_indented (all said (List.mem_of_mem_tail inside))),
        describeLastParameter_addParameters]
  rw [IsPhrase.map_trim_indented fun line mem => all line (List.mem_of_mem_tail mem),
    foldl_tail_headD rfl, foldl_describe_entry p all] at entry
  exact entry

theorem isPhrase_type (name : Entry.IsNameOf (fun c => isWordChar c || c == '.') r.type) :
    IsPhrase r.type := by
  obtain ⟨c, more, eq, starts, all⟩ := name
  rw [eq]
  refine isPhrase_of_isWord ⟨List.cons_ne_nil c more, fun d mem blank => ?_⟩
  have none := not_isWordChar_of_isBlankChar blank
  rcases List.mem_cons.mp mem with rfl | mem
  · exact none (Entry.isWordChar_of_startsName starts)
  · rcases (Bool.or_eq_true _ _).mp (all d mem) with part | dot
    · exact none part
    · rw [beq_iff_eq.mp dot] at blank
      exact absurd blank (by decide)

theorem foldl_raise (name : Entry.IsNameOf (fun c => isWordChar c || c == '.') r.type)
    (all : ∀ line ∈ r.lines, IsPhrase line) (doc : Docstring) :
    (layout.result r).foldl (addRaisesLine 4) doc = doc.addRaises [r.raise] := by
  have whole := isPhrase_entry (isPhrase_type name) all
  have head : addRaisesLine 4 doc (indented 4 (r.type ++ ':' :: entryTail r.lines)) =
      doc.addRaises [Raise.describe { type := r.type } (r.lines.headD [])] := by
    rw [addRaisesLine]
    simp only [whole.trim_indented, whole.indentWidth_indented, Nat.le_refl, if_true,
      Entry.dottedNameText?_append name, trimStart_entryTail all]
    rfl
  have entry := foldl_entry addRaises Raise.describe (r.lines.tail.map (indented 8)) doc head
    fun e line mem => by
      obtain ⟨said, inside, rfl⟩ := List.mem_map.mp mem
      rw [addRaisesLine]
      simp only [if_neg (not_indented (all said (List.mem_of_mem_tail inside))),
        describeLastRaise_addRaises]
  rw [IsPhrase.map_trim_indented fun line mem => all line (List.mem_of_mem_tail mem),
    foldl_tail_headD rfl, foldl_describe_raise r all] at entry
  exact entry

/-- Spaces that stand behind commas only are all taken out. -/
theorem not_mem_tightenCommas {s : Text} (behind : s.IsChain fun c d => d = ' ' → c = ',')
    (starts : s.head? ≠ some ' ') : ' ' ∉ typeAndText?.tightenCommas s := by
  induction s using typeAndText?.tightenCommas.induct with
  | case1 s ih =>
    have later := (List.isChain_cons_cons.mp behind).2
    have next : s.head? ≠ some ' ' := by
      cases s with
      | nil => exact nofun
      | cons d s =>
        rintro ⟨⟩
        exact absurd ((List.isChain_cons_cons.mp later).1 rfl) (by decide)
    rw [typeAndText?.tightenCommas]
    exact List.not_mem_cons_of_ne_of_not_mem (by decide) (ih later.tail next)
  | case2 c s other ih =>
    have next : s.head? ≠ some ' ' := by
      cases s with
      | nil => exact nofun
      | cons d s =>
        rintro ⟨⟩
        exact other s ((List.isChain_cons_cons.mp behind).1 rfl) rfl
    rw [typeAndText?.tightenCommas.eq_2 c s other]
    refine List.not_mem_cons_of_ne_of_not_mem (fun same => starts ?_) (ih behind.tail next)
    rw [← same]
    rfl
  | case3 => exact List.not_mem_nil

theorem typeAndText?_entry {type : Text} (phrase : IsPhrase type) (noColon : ':' ∉ type)
    (behind : type.IsChain fun c d => d = ' ' → c = ',') (tail : Text) :
    typeAndText? (type ++ ':' :: tail) = some (type, trim tail) := by
  have starts : type.head? ≠ some ' ' := by
    intro blank
    obtain ⟨rest, rfl⟩ := List.head?_eq_some_iff.mp blank
    have shorter := congrArg List.length phrase.starts
    have le := (List.dropWhile_suffix isBlankChar (l := rest)).length_le
    have drop : trimStart (' ' :: rest) = rest.dropWhile isBlankChar := rfl
    rw [drop, List.length_cons] at shorter
    omega
  have tight := not_mem_tightenCommas behind starts
  rw [typeAndText?, cut?_append noColon]
  simp [phrase.trimmed, tight, phrase.ne_nil]

theorem addReturns_result (phrase : IsPhrase r.type) (noColon : ':' ∉ r.type)
    (behind : r.type.IsChain fun c d => d = ' ' → c = ',')
    (all : ∀ line ∈ r.lines, IsPhrase line) :
    addReturns {} (layout.result r) = r.value := by
  have whole := isPhrase_entry phrase all
  have deeper : (fun value line => Returns.describe value (indented 8 line)) =
      Returns.describe := by
    funext value line
    simp only [Returns.describe, extendedBy, trim_indented]
  have lines : layout.result r = indented 4 (r.type ++ ':' :: entryTail r.lines) ::
      r.lines.tail.map (indented 8) := rfl
  rw [lines, addReturns]
  simp only [whole.trim_indented, typeAndText?_entry phrase noColon behind, trim_entryTail all]
  rw [List.foldl_map, deeper, foldl_tail_headD rfl, foldl_describe_value r all]

end Entries

section Texts

variable {w : Written}

theorem isOwnLine_entryLines {head : Text} {lines : List Text} (phrase : IsPhrase head)
    (all : ∀ line ∈ lines, IsLine line) : ∀ line ∈ entryLines head lines, IsOwnLine line := by
  intro line mem
  rcases List.mem_cons.mp mem with rfl | mem
  · have entry := isPhrase_entry phrase fun line inside => (all line inside).toIsPhrase
    have colon : ':' ∈ head ++ ':' :: entryTail lines := by simp
    exact ⟨4, _, entry.isLine colon (by decide), rfl⟩
  · obtain ⟨said, inside, rfl⟩ := List.mem_map.mp mem
    exact ⟨8, said, all said (List.mem_of_mem_tail inside), rfl⟩

theorem Fits.hasOwnLines (fits : Fits w) : layout.HasOwnLines w where
  parameter p known := by
    obtain ⟨name, type, lines⟩ := fits.parameter p known
    exact isOwnLine_entryLines (isPhrase_parameterHead name fun t mem => (type t mem).1) lines
  returns r known := isOwnLine_entryLines (fits.returns r known).1.1 (fits.returns r known).2
  raises r known := isOwnLine_entryLines (isPhrase_type (fits.raises r known).1)
    (fits.raises r known).2

/-- Everything below a title is indented. -/
theorem indentWidth_entryLines {head : Text} {lines : List Text} (phrase : IsPhrase head)
    (all : ∀ line ∈ lines, IsPhrase line) :
    ∀ line ∈ entryLines head lines, 4 ≤ indentWidth line := by
  intro line mem
  rcases List.mem_cons.mp mem with rfl | mem
  · rw [(isPhrase_entry phrase all).indentWidth_indented]
  · obtain ⟨said, inside, rfl⟩ := List.mem_map.mp mem
    rw [(all said (List.mem_of_mem_tail inside)).indentWidth_indented]
    decide

theorem Fits.deeper (fits : Fits w) {sec : Text × List Text} (mem : sec ∈ layout.sections w) :
    ∀ line ∈ sec.2, 4 ≤ indentWidth line := by
  intro line inside
  rcases Layout.mem_sections mem with rfl | ⟨r, known, rfl⟩ | rfl
  · obtain ⟨p, known, here⟩ := List.mem_flatMap.mp inside
    obtain ⟨name, type, lines⟩ := fits.parameter p known
    exact indentWidth_entryLines (isPhrase_parameterHead name fun t mem => (type t mem).1)
      (fun l mem => (lines l mem).toIsPhrase) line here
  · obtain ⟨⟨phrase, _⟩, lines⟩ := fits.returns r known
    exact indentWidth_entryLines phrase (fun l mem => (lines l mem).toIsPhrase) line inside
  · obtain ⟨r, known, here⟩ := List.mem_flatMap.mp inside
    obtain ⟨name, lines⟩ := fits.raises r known
    exact indentWidth_entryLines (isPhrase_type name) (fun l mem => (lines l mem).toIsPhrase)
      line here

theorem Fits.margin_eq (fits : Fits w) {sec : Text × List Text} (mem : sec ∈ layout.sections w)
    {head : Text} (phrase : IsPhrase head) {lines : List Text} (all : ∀ l ∈ lines, IsLine l)
    (inside : ∀ line ∈ entryLines head lines, line ∈ sec.2) : margin sec.2 = 4 := by
  have entry := isPhrase_entry phrase fun l mem => (all l mem).toIsPhrase
  refine Text.margin_eq ⟨_, inside _ List.mem_cons_self, ?_, entry.indentWidth_indented 4⟩
    fun line mem' _ => fits.deeper mem line mem'
  rw [isBlank_indented]
  exact entry.visible

theorem sectionOf?_args : sectionOf? "Args:" = some .args := by decide

theorem sectionOf?_returns : sectionOf? "Returns:" = some .returns := by decide

theorem sectionOf?_raises : sectionOf? "Raises:" = some .raises := by decide

theorem isLine_of_mem_titles : ∀ title ∈ [("Args" : Text), "Returns", "Raises"],
    IsLine (title ++ [':']) := by decide

theorem Fits.isWritten (fits : Fits w) : ∀ sec ∈ layout.sections w, IsWritten sec := by
  intro sec mem
  have own := isLine_of_mem_titles _ (Layout.mem_titles mem)
  refine ⟨?_, own.indentWidth_eq, fun line inside => ?_⟩
  · rcases Layout.mem_sections mem with rfl | ⟨r, _, rfl⟩ | rfl
    · exact ⟨.args, .inl rfl, sectionOf?_args⟩
    · exact ⟨.returns, .inr (.inl rfl), sectionOf?_returns⟩
    · exact ⟨.raises, .inr (.inr rfl), sectionOf?_raises⟩
  · have deeper := fits.deeper mem line inside
    omega

theorem Fits.isOwnLine (fits : Fits w) : ∀ sec ∈ layout.sections w,
    ∀ line ∈ layout.header sec.1 ++ sec.2, IsOwnLine line := by
  intro sec mem line inside
  rcases List.mem_append.mp inside with header | body
  · rw [List.mem_singleton.mp header]
    exact ⟨0, _, isLine_of_mem_titles _ (Layout.mem_titles mem), rfl⟩
  · exact fits.hasOwnLines.isOwnLine mem line body

theorem Fits.isVisible (fits : Fits w) : layout.IsVisible w where
  summary := fits.summary
  headed _ := List.cons_ne_nil _ _
  atMargin := ⟨"Args:", List.mem_cons_self, by decide⟩
  shown sec mem line inside := (fits.isOwnLine sec mem line inside).isVisibleLine

/-- No line underlines another one, and one is a title. -/
theorem detect_text (fits : Fits w) (gap : Nat) :
    DocstringStyle.detect (layout.text gap w) = .google := by
  have underlined : ¬ DocstringStyle.hasUnderlinedTitle (layout.lines gap w) := by
    intro underlined
    obtain ⟨line, mem, dashes⟩ := DocstringStyle.exists_isDashLine underlined
    have own : line = [] ∨ IsOwnLine line := by
      rcases List.mem_cons.mp mem with rfl | mem
      · exact .inl rfl
      · exact (Layout.mem_sectionLines mem).imp id fun ⟨sec, known, inside⟩ =>
          fits.isOwnLine sec known line inside
    rcases own with rfl | own
    · exact absurd dashes (by decide)
    · exact DocstringStyle.not_isDashLine_of_isOwnLine own dashes
  have titled : (layout.lines gap w).any DocstringStyle.isGoogleTitle := by
    have title : ("Args:" : Text) ∈ layout.lines gap w :=
      List.mem_cons_of_mem _ (List.mem_cons_of_mem _ List.mem_cons_self)
    exact List.any_eq_true.mpr ⟨"Args:", title, by decide⟩
  rw [DocstringStyle.detect, fits.isVisible.splitOn_text, if_neg underlined, if_pos titled]

theorem Fits.addTitled_args (fits : Fits w) (doc : Docstring) :
    addTitled doc ("Args", w.parameters.flatMap layout.parameter) =
      doc.addParameters (w.parameters.map (·.entry)) := by
  have least : margin (w.parameters.flatMap layout.parameter) = 4 := by
    obtain ⟨p, known⟩ := List.exists_mem_of_ne_nil _ fits.nonempty
    obtain ⟨name, type, lines⟩ := fits.parameter p known
    exact fits.margin_eq List.mem_cons_self
      (isPhrase_parameterHead name fun t mem => (type t mem).1) lines
      fun line mem => List.mem_flatMap.mpr ⟨p, known, mem⟩
  have read : (w.parameters.flatMap layout.parameter).foldl (addArgLine 4) doc =
      doc.addParameters (w.parameters.map (·.entry)) :=
    foldl_entries addParameters_nil addParameters_addParameters (fun p known doc =>
      have ⟨name, type, lines⟩ := fits.parameter p known
      foldl_parameter name type (fun line mem => (lines line mem).toIsPhrase) doc) doc
  have title : ("Args" : Text) ++ [':'] = ("Args:" : Text) := rfl
  rw [addTitled, title, sectionOf?_args, Option.elim_some, addSection,
    fits.hasOwnLines.filter_parameters]
  simp only [least, read]

theorem Fits.addTitled_returns (fits : Fits w) {r : WrittenResult} (known : r ∈ w.returns)
    {doc : Docstring} (fresh : doc.returns = none) :
    addTitled doc ("Returns", layout.result r) = { doc with returns := some r.value } := by
  obtain ⟨⟨phrase, noColon, behind⟩, lines⟩ := fits.returns r known
  have read := addReturns_result phrase noColon behind fun line mem => (lines line mem).toIsPhrase
  have filled : r.value ≠ {} := fun empty => by
    have type := congrArg Returns.type empty
    exact absurd type (by simp [WrittenResult.value])
  have title : ("Returns" : Text) ++ [':'] = ("Returns:" : Text) := rfl
  rw [addTitled, title, sectionOf?_returns, Option.elim_some, addSection,
    fits.hasOwnLines.filter_returns known]
  simp [fresh, read, filled]

theorem Fits.addTitled_raises (fits : Fits w) (nonempty : w.raises ≠ []) (doc : Docstring) :
    addTitled doc ("Raises", w.raises.flatMap layout.result) =
      doc.addRaises (w.raises.map (·.raise)) := by
  have least : margin (w.raises.flatMap layout.result) = 4 := by
    obtain ⟨r, known⟩ := List.exists_mem_of_ne_nil _ nonempty
    obtain ⟨name, lines⟩ := fits.raises r known
    have titled : (("Raises" : Text), w.raises.flatMap layout.result) ∈ layout.sections w := by
      refine List.mem_cons_of_mem _ (List.mem_append_right _ ?_)
      rw [if_neg (by simpa using nonempty)]
      exact List.mem_singleton_self _
    exact fits.margin_eq titled (isPhrase_type name) lines
      fun line mem => List.mem_flatMap.mpr ⟨r, known, mem⟩
  have read : (w.raises.flatMap layout.result).foldl (addRaisesLine 4) doc =
      doc.addRaises (w.raises.map (·.raise)) :=
    foldl_entries addRaises_nil addRaises_addRaises (fun r known doc =>
      have ⟨name, lines⟩ := fits.raises r known
      foldl_raise name (fun line mem => (lines line mem).toIsPhrase) doc) doc
  have title : ("Raises" : Text) ++ [':'] = ("Raises:" : Text) := rfl
  rw [addTitled, title, sectionOf?_raises, Option.elim_some, addSection,
    fits.hasOwnLines.filter_raises]
  simp only [least, read]

theorem parse_lines (fits : Fits w) (gap : Nat) : parse (layout.lines gap w) = w.unlinked := by
  have header : opensSection (layout.sectionLines gap (layout.sections w)) := by
    have known : (sectionOf? "Args:").isSome := by decide
    exact known
  have plain : ¬ opensSection (w.summary :: [] :: layout.sectionLines gap (layout.sections w)) := by
    simp [opensSection, fits.untitled]
  have plainGap : ¬ opensSection ([] :: layout.sectionLines gap (layout.sections w)) := by
    have none : sectionOf? [] = none := by decide
    simp [opensSection, none]
  have prose := withProse_summary fits.summary plain plainGap header
  have added := Layout.foldl_sections layout fits.addTitled_args
    (fun r known doc fresh => fits.addTitled_returns known fresh) fits.addTitled_raises
  rw [← foldl_sectionLines gap _ fits.isWritten] at added
  rw [parse, Layout.lines, prose]
  exact added

end Texts

end SymbolDocs.Google

namespace SymbolDocs.Docstring

/-- What is laid out in the Google style is read back, whatever its lines say. -/
theorem parse_google_text {w : Written} (fits : Google.Fits w) (gap : Nat) :
    parse (Google.layout.text gap w) = w.docstring :=
  fits.isVisible.parse_text (Google.detect_text fits gap) (Google.parse_lines fits gap)

/-- Lines that look like a title, like another parameter and like an underlined title. -/
def writtenFetch : Written where
  summary := "Fetch a page: the whole of it."
  parameters := [
    { name := "url"
      type := some "str, optional"
      lines := ["Where it is.", "Returns:", "b: see"] },
    { name := "*names" },
    { name := "_retries", lines := ["Parameters", "how often"] }]
  returns := some { type := "dict[str, int]", lines := ["The page,", "int: or :obj:`None`."] }
  raises := [{ type := "pkg.FetchError", lines := ["When it fails."] }, { type := "OSError" }]

theorem parse_google_text_fetch : Google.Fits writtenFetch ∧
    parse (Google.layout.text 1 writtenFetch) =
      { summary := some ("Fetch a page: the whole of it." : Text)
        parameters := [
          { name := "url"
            type := some ("str, optional" : Text)
            description := some ("Where it is. Returns: b: see" : Text) },
          { name := "*names" },
          { name := "_retries", description := some ("Parameters how often" : Text) }]
        returns := some
          { type := some ("dict[str, int]" : Text)
            description := some ("The page, int: or `None`." : Text) }
        raises := [
          { type := "pkg.FetchError", description := some ("When it fails." : Text) },
          { type := "OSError" }] } := by
  have fits : Google.Fits writtenFetch :=
    { summary := by decide
      untitled := by decide
      nonempty := by decide
      parameter := by
        intro p mem
        rcases List.mem_cons.mp mem with rfl | mem
        · exact ⟨⟨0, "url", by decide, rfl, by decide⟩, by decide, by decide⟩
        · rcases List.mem_cons.mp mem with rfl | mem
          · exact ⟨⟨1, "names", by decide, rfl, by decide⟩, by decide, by decide⟩
          · rw [List.mem_singleton.mp mem]
            exact ⟨⟨0, "_retries", by decide, rfl, by decide⟩, by decide, by decide⟩
      returns := by
        rintro r ⟨⟩
        exact ⟨⟨by decide, by decide, by decide⟩, by decide⟩
      raises := by decide }
  exact ⟨fits, (parse_google_text fits 1).trans (by decide +kernel)⟩

end SymbolDocs.Docstring
