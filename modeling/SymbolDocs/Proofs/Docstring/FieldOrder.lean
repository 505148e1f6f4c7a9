import Mathlib.Data.List.Nodup
import SymbolDocs.Proofs.Docstring.Detection
import SymbolDocs.Proofs.Docstring.Entries
import SymbolDocs.Proofs.Docstring.EntryLine
import SymbolDocs.Proofs.Docstring.Pieces

namespace SymbolDocs.FieldList

open Text Docstring

/-- A field about a parameter as it is written down: its type, or else a text. -/
structure WrittenField where
  holdsType : Bool
  name : Text
  value : Text
  deriving DecidableEq

namespace WrittenField

def keyword (f : WrittenField) : Text := if f.holdsType then "type" else "param"

def line (f : WrittenField) : Text :=
  ':' :: (f.keyword ++ ' ' :: (f.name ++ ':' :: ' ' :: f.value))

/-- What the field does to its parameter. -/
def apply (f : WrittenField) (p : Parameter) : Parameter :=
  if f.holdsType then { p with type := some f.value } else p.describe f.value

structure Fits (f : WrittenField) : Prop where
  name : IsWord f.name
  noColon : ':' ∉ f.name
  value : IsPhrase f.value

/-- What the fields say about a parameter: its type, or the text about it. -/
def valueOf (fields : List WrittenField) (holdsType : Bool) (name : Text) : Option Text :=
  (fields.find? fun f => f.holdsType == holdsType && f.name == name).map (·.value)

/-- The parameter of a name, put together from the fields. -/
def parameter (fields : List WrittenField) (name : Text) : Parameter :=
  { name, type := valueOf fields true name, description := valueOf fields false name }

/-- At most one field of each kind for a name. -/
def Distinct (fields : List WrittenField) : Prop :=
  (fields.map fun f => (f.holdsType, f.name)).Nodup

variable {fields : List WrittenField} {f : WrittenField} {holdsType : Bool} {name : Text}

theorem valueOf_concat (fields : List WrittenField) (f : WrittenField) (holdsType : Bool)
    (name : Text) : valueOf (fields ++ [f]) holdsType name =
      (valueOf fields holdsType name).or
        (if f.holdsType = holdsType ∧ f.name = name then some f.value else none) := by
  rw [valueOf, valueOf, List.find?_append]
  cases fields.find? fun f => f.holdsType == holdsType && f.name == name with
  | some g => rfl
  | none =>
    by_cases here : f.holdsType = holdsType ∧ f.name = name
    · simp [here]
    · rw [if_neg here]
      simpa using here

theorem valueOf_eq_none (absent : (holdsType, name) ∉ fields.map fun f => (f.holdsType, f.name)) :
    valueOf fields holdsType name = none := by
  rw [valueOf, Option.map_eq_none_iff, List.find?_eq_none]
  intro f mem same
  obtain ⟨rfl, rfl⟩ : f.holdsType = holdsType ∧ f.name = name := by simpa using same
  exact absent (List.mem_map.mpr ⟨f, mem, rfl⟩)

theorem valueOf_eq_some_iff (distinct : Distinct fields) {value : Text} :
    valueOf fields holdsType name = some value ↔ ⟨holdsType, name, value⟩ ∈ fields := by
  rw [valueOf, Option.map_eq_some_iff]
  constructor
  · rintro ⟨f, found, rfl⟩
    have key := List.find?_some found
    obtain ⟨rfl, rfl⟩ : f.holdsType = holdsType ∧ f.name = name := by simpa using key
    exact List.mem_of_find?_eq_some found
  · intro mem
    cases found : fields.find? fun f => f.holdsType == holdsType && f.name == name with
    | none =>
      have missed := List.find?_eq_none.mp found _ mem
      exact absurd missed (by simp)
    | some f =>
      have key := List.find?_some found
      have same : (f.holdsType, f.name) = (holdsType, name) := by simpa using key
      have one := List.inj_on_of_nodup_map distinct (List.mem_of_find?_eq_some found) mem same
      exact ⟨f, rfl, by rw [one]⟩

/-- In which order the fields stand does not matter. -/
theorem valueOf_perm {fields' : List WrittenField} (distinct : Distinct fields)
    (perm : fields'.Perm fields) (holdsType : Bool) (name : Text) :
    valueOf fields' holdsType name = valueOf fields holdsType name := by
  have distinct' : Distinct fields' := (perm.map _).nodup_iff.mpr distinct
  refine Option.ext fun value => ?_
  rw [valueOf_eq_some_iff distinct', valueOf_eq_some_iff distinct, perm.mem_iff]

theorem apply_parameter (fresh : valueOf fields f.holdsType f.name = none)
    (phrase : IsPhrase f.value) :
    f.apply (parameter fields f.name) = parameter (fields ++ [f]) f.name := by
  have said : extendedBy none f.value = some f.value := by
    simp [extendedBy, phrase.trimmed, phrase.ne_nil]
  cases kind : f.holdsType with
  | true =>
    rw [kind] at fresh
    simp [apply, parameter, valueOf_concat, kind, fresh]
  | false =>
    rw [kind] at fresh
    simp [apply, parameter, Parameter.describe, valueOf_concat, kind, fresh, said]

theorem parameter_concat_of_ne (apart : f.name ≠ name) :
    parameter (fields ++ [f]) name = parameter fields name := by
  simp [parameter, valueOf_concat, apart]

end WrittenField

section Update

variable {name : Text} {f : Parameter → Parameter} {e : Text → Parameter}

/-- Changing one of the named parameters, or adding it. -/
theorem updateParameter_map (named : ∀ n, (e n).name = n) {ns : List Text} (distinct : ns.Nodup)
    (new : name ∉ ns → e name = { name }) :
    updateParameter name f (ns.map e) =
      (withName name ns).map fun n => if n = name then f (e n) else e n := by
  induction ns with
  | nil =>
    have fresh := new List.not_mem_nil
    rw [withName_of_notMem List.not_mem_nil]
    simp [updateParameter, fresh]
  | cons n ns ih =>
    obtain ⟨absent, distinct⟩ := List.nodup_cons.mp distinct
    rw [List.map_cons, updateParameter, named]
    by_cases here : n = name
    · have apart : ∀ m ∈ ns, m ≠ name := fun m mem same => absent (here ▸ same ▸ mem)
      have rest : ns.map e = ns.map fun n => if n = name then f (e n) else e n :=
        List.map_congr_left fun m mem => (if_neg (apart m mem)).symm
      rw [if_pos here, here, withName_cons_self, List.map_cons, if_pos rfl, ← rest]
    · have rest := ih distinct fun absent => new (List.not_mem_cons_of_ne_of_not_mem
        (Ne.symm here) absent)
      rw [if_neg here, rest, withName_cons_of_ne here, List.map_cons, if_neg here]

end Update

section Lines

variable {fields : List WrittenField} {f : WrittenField}

/-- Fields with distinct keys are put together parameter by parameter. -/
theorem foldl_updateParameter (fits : ∀ f ∈ fields, f.Fits)
    (distinct : WrittenField.Distinct fields) :
    fields.foldl (fun ps f => updateParameter f.name f.apply ps) [] =
      (fields.map (·.name)).eraseDups.map (WrittenField.parameter fields) := by
  induction fields using List.reverseRecOn with
  | nil => rfl
  | append_singleton fields f ih =>
    have here := fits f (by simp)
    rw [WrittenField.Distinct, List.map_append, List.map_singleton] at distinct
    obtain ⟨before, _, apart⟩ := List.nodup_append.mp distinct
    have fresh : WrittenField.valueOf fields f.holdsType f.name = none :=
      WrittenField.valueOf_eq_none fun mem => apart _ mem _ (List.mem_singleton_self _) rfl
    have new : f.name ∉ (fields.map (·.name)).eraseDups →
        WrittenField.parameter fields f.name = { name := f.name } := by
      intro absent
      have none : ∀ holdsType, WrittenField.valueOf fields holdsType f.name = none := by
        refine fun holdsType => WrittenField.valueOf_eq_none fun mem => absent ?_
        obtain ⟨g, known, same⟩ := List.mem_map.mp mem
        exact List.mem_eraseDups.mpr (List.mem_map.mpr ⟨g, known, (Prod.mk.inj same).2⟩)
      rw [WrittenField.parameter, none, none]
    rw [List.foldl_append, ih (fun g mem => fits g (List.mem_append_left _ mem)) before,
      List.foldl_cons, List.foldl_nil,
      updateParameter_map (fun _ => rfl) (nodup_eraseDups _) new, List.map_append,
      List.map_singleton, eraseDups_concat]
    refine List.map_congr_left fun n _ => ?_
    by_cases same : n = f.name
    · rw [if_pos same, same, WrittenField.apply_parameter fresh here.value]
    · rw [if_neg same, WrittenField.parameter_concat_of_ne (Ne.symm same)]

theorem WrittenField.keyword_spec (f : WrittenField) :
    IsPhrase (':' :: f.keyword) ∧ f.keyword ≠ [] ∧ ∀ c ∈ f.keyword, c.isAlpha := by
  rw [WrittenField.keyword, ← List.all_eq_true]
  cases f.holdsType with
  | true => decide
  | false => decide

theorem WrittenField.Fits.isPhrase_line (fits : f.Fits) : IsPhrase f.line := by
  have named := f.keyword_spec.1.append (isPhrase_of_isWord fits.name) " " (by decide)
    (by decide)
  have whole := named.append fits.value ": " (by decide) (by decide)
  rwa [List.append_assoc, List.append_assoc, List.append_assoc] at whole

theorem WrittenField.Fits.field?_line (fits : f.Fits) :
    Entry.field? f.line = some (f.keyword, some f.name, f.value) := by
  obtain ⟨_, ne, letters⟩ := f.keyword_spec
  have filled : f.keyword.isEmpty = false := by simpa using ne
  have named : f.name.isEmpty = false := by simpa using fits.name.1
  have read : (f.keyword ++ ' ' :: (f.name ++ ':' :: ' ' :: f.value)).span Char.isAlpha =
      (f.keyword, ' ' :: (f.name ++ ':' :: ' ' :: f.value)) :=
    span_append letters _ (by rintro c ⟨⟩; decide)
  have cut : cut? ':' (' ' :: (f.name ++ ':' :: ' ' :: f.value)) =
      some (' ' :: f.name, ' ' :: f.value) :=
    @cut?_append ':' (' ' :: f.name) (by simp [fits.noColon]) _
  have gap : isBlankChar ' ' = true := by decide
  have body : trimStart (' ' :: f.value) = f.value := fits.value.starts
  rw [WrittenField.line, Entry.field?]
  simp only [read, cut, Option.bind_eq_bind, Option.bind_some, filled, named, gap, body,
    trim_eq_self_of_isWord fits.name, Bool.not_true, Bool.false_eq_true, if_false]
  rfl

theorem WrittenField.fieldOf?_keyword (f : WrittenField) :
    fieldOf? f.keyword = some (if f.holdsType then .parameterType else .parameter) := by
  rw [WrittenField.keyword]
  cases f.holdsType with
  | true => decide
  | false => decide

theorem WrittenField.Fits.parameters_addField (fits : f.Fits) (doc : Docstring) :
    (addField doc (fieldOf? f.keyword) (some f.name) f.value).1.parameters =
      updateParameter f.name f.apply doc.parameters := by
  have flat : ' ' ∉ f.name := fun space => fits.name.2 _ space (by decide)
  have whole : splitArgument f.name = (none, f.name) := by
    rw [splitArgument, cutLast?_eq_none_iff.mpr flat]
  rw [f.fieldOf?_keyword]
  cases kind : f.holdsType with
  | true =>
    have change : (fun p : Parameter => { p with type := (nonEmpty? f.value).or p.type }) =
        f.apply := by
      funext p
      rw [nonEmpty?_eq_some fits.value.ne_nil, WrittenField.apply, kind]
      rfl
    rw [← change]
    rfl
  | false =>
    have change : (fun p : Parameter => Parameter.describe { p with type := p.type.or none }
        f.value) = f.apply := by
      funext p
      rw [Option.or_none, WrittenField.apply, kind]
      rfl
    rw [← change, if_neg Bool.false_ne_true, addField, whole]
    rfl

theorem WrittenField.Fits.parameters_addLine (fits : f.Fits) (doc : Docstring)
    (target : Continued) : (addLine doc target f.line).1.parameters =
      updateParameter f.name f.apply doc.parameters := by
  have lead : after? ".. " f.line = none := rfl
  have read : addLine doc target f.line =
      addField doc (fieldOf? f.keyword) (some f.name) f.value := by
    rw [addLine]
    simp only [fits.isPhrase_line.trimmed, lead, fits.field?_line, fits.value.trimmed]
  rw [read, fits.parameters_addField]

theorem pieces_lines (fits : ∀ f ∈ fields, f.Fits) :
    pieces (fields.map (·.line)) = fields.map fun f => .line f.line := by
  induction fields with
  | nil => rw [List.map_nil, pieces]; rfl
  | cons f fields ih =>
    have plain : ¬ (trim f.line).startsWith ">>>" := by
      rw [(fits f List.mem_cons_self).isPhrase_line.trimmed]
      exact Bool.false_ne_true
    rw [List.map_cons, pieces, if_neg plain, ih fun g mem => fits g (List.mem_cons_of_mem f mem),
      List.map_cons]

theorem parameters_foldl_addPiece (fits : ∀ f ∈ fields, f.Fits) (s : Docstring × Continued) :
    ((fields.map fun f => Piece.line f.line).foldl addPiece s).1.parameters =
      fields.foldl (fun ps f => updateParameter f.name f.apply ps) s.1.parameters := by
  induction fields generalizing s with
  | nil => rfl
  | cons f fields ih =>
    have here : (addPiece s (.line f.line)).1.parameters =
        updateParameter f.name f.apply s.1.parameters :=
      (fits f List.mem_cons_self).parameters_addLine s.1 s.2
    rw [List.map_cons, List.foldl_cons, ih fun g mem => fits g (List.mem_cons_of_mem f mem), here,
      List.foldl_cons]

end Lines

/-- A docstring as it is written down: a summary, a blank line and fields about parameters. -/
structure WrittenFields where
  summary : Text
  gap : Text
  fields : List WrittenField

namespace WrittenFields

def lines (w : WrittenFields) : List Text := w.summary :: w.gap :: w.fields.map (·.line)

def text (w : WrittenFields) : Text := joinWith "\n" w.lines

/-- The summary is no field about a parameter itself. -/
structure Fits (w : WrittenFields) : Prop where
  visible : ¬ isBlank w.summary
  oneLine : '\n' ∉ w.summary
  noField : mentioned? (.line (trimStart (plainLine w.summary))) = none
  gap : isBlank w.gap ∧ '\n' ∉ w.gap
  fields : ∀ f ∈ w.fields, f.Fits
  distinct : WrittenField.Distinct w.fields

variable {w : WrittenFields}

theorem Fits.isVisibleLine (fits : w.Fits) {line : Text} (mem : line ∈ w.fields.map (·.line)) :
    IsVisibleLine line := by
  obtain ⟨f, known, rfl⟩ := List.mem_map.mp mem
  exact (fits.fields f known).isPhrase_line.isVisibleLine

theorem Fits.noNewline (fits : w.Fits) : ∀ line ∈ w.lines, '\n' ∉ line := by
  intro line mem
  rcases List.mem_cons.mp mem with rfl | mem
  · exact fits.oneLine
  · rcases List.mem_cons.mp mem with rfl | mem
    · exact fits.gap.2
    · exact (fits.isVisibleLine mem).noNewline

theorem Fits.not_hasUnderlinedTitle (fits : w.Fits) :
    ¬ DocstringStyle.hasUnderlinedTitle w.lines := by
  intro underlined
  obtain ⟨line, mem, dashes⟩ := DocstringStyle.exists_isDashLine underlined
  rcases List.mem_cons.mp mem with rfl | mem
  · exact DocstringStyle.not_isDashLine_of_isBlank fits.gap.1 dashes
  · obtain ⟨f, known, rfl⟩ := List.mem_map.mp mem
    have own : IsLine f.line :=
      (fits.fields f known).isPhrase_line.isLine List.mem_cons_self (by decide)
    exact DocstringStyle.not_isDashLine_of_isOwnLine ⟨0, _, own, rfl⟩ dashes

theorem Fits.any_isGoogleTitle (fits : w.Fits) :
    w.lines.any DocstringStyle.isGoogleTitle ↔ DocstringStyle.isGoogleTitle w.summary := by
  rw [List.any_eq_true]
  refine ⟨fun ⟨line, mem, title⟩ => ?_, fun title => ⟨_, List.mem_cons_self, title⟩⟩
  rcases List.mem_cons.mp mem with rfl | mem
  · exact title
  · rcases List.mem_cons.mp mem with rfl | mem
    · exact absurd title (DocstringStyle.not_isGoogleTitle_of_isBlank fits.gap.1)
    · obtain ⟨f, known, rfl⟩ := List.mem_map.mp mem
      exact absurd title
        (DocstringStyle.not_isGoogleTitle_of_colon (fits.fields f known).isPhrase_line)

/-- The style shows in the summary only. -/
theorem Fits.detect_text (fits : w.Fits) :
    DocstringStyle.detect w.text = .fieldList ↔ ¬ DocstringStyle.isGoogleTitle w.summary := by
  have split : splitOn '\n' w.text = w.lines :=
    splitOn_joinWith (List.cons_ne_nil _ _) fits.noNewline
  rw [DocstringStyle.detect, split, if_neg fits.not_hasUnderlinedTitle, ← fits.any_isGoogleTitle]
  by_cases google : w.lines.any DocstringStyle.isGoogleTitle
  · rw [if_pos google]
    exact iff_of_false (by decide) (not_not_intro google)
  · rw [if_neg google]
    exact ⟨fun _ => google, fun _ => rfl⟩

/-- The lines as they are read. -/
theorem Fits.tidyLines_text (fits : w.Fits) :
    tidyLines w.text =
      dropBlankEnds (trimStart (plainLine w.summary) :: [] :: w.fields.map (·.line)) := by
  have same : (w.gap :: w.fields.map (·.line)).map plainLine = [] :: w.fields.map (·.line) := by
    rw [List.map_cons, plainLine_of_isBlank fits.gap.1]
    have kept : ∀ line ∈ w.fields.map (·.line), plainLine line = line := fun line mem =>
      (fits.isVisibleLine mem).plainLine_eq
    rw [List.map_congr_left kept, List.map_id']
  have zero : margin ([] :: w.fields.map (·.line)) = 0 := by
    cases known : w.fields with
    | nil => rfl
    | cons f fields =>
      have phrase := (fits.fields f (by simp [known])).isPhrase_line
      exact margin_eq ⟨f.line, by simp, phrase.visible, phrase.indentWidth_eq⟩
        fun _ _ _ => Nat.zero_le _
  rw [text, lines, tidyLines_joinWith fits.noNewline (by rw [same, zero]), same]

end WrittenFields

section Parse

variable {s : Text} {fields : List WrittenField}

theorem names_eq_nil_iff {doc : Docstring} : names doc = [] ↔ doc.parameters = [] :=
  List.map_eq_nil_iff

/-- A piece that mentions no parameter is followed by none. -/
theorem parameters_addPiece_eq_nil {piece : Piece} (none : mentioned? piece = none) :
    (addPiece ({}, .nothing) piece).1.parameters = [] := by
  have same := (names_step (step_addPiece ({}, .nothing) piece) nofun).1
  rw [none] at same
  exact names_eq_nil_iff.mp same

theorem exists_pieces_cons (noField : mentioned? (.line s) = none) (rest : List Text)
    (ends : rest.head?.all isBlank) :
    ∃ piece, pieces (s :: rest) = piece :: pieces rest ∧ mentioned? piece = none := by
  rw [pieces]
  by_cases prompt : (trim s).startsWith ">>>"
  · have stop : spanUntil (·.head?.any isBlank) rest = ([], rest) := by
      refine spanUntil_of_stops ?_
      cases rest with
      | nil => exact .inl rfl
      | cons line rest => exact .inr ends
    rw [if_pos prompt, stop]
    exact ⟨_, rfl, rfl⟩
  · rw [if_neg prompt]
    exact ⟨_, rfl, noField⟩

theorem WrittenField.Fits.opensEntry {f : WrittenField} (fits : f.Fits) (rest : List Text) :
    opensEntry (f.line :: rest) := by
  have field : (Entry.field? f.line).isSome := by rw [fits.field?_line]; rfl
  simp [FieldList.opensEntry, fits.isPhrase_line.starts, field]

/-- A line by itself that is no field about a parameter. -/
theorem parameters_parse_singleton (noField : mentioned? (.line s) = none) :
    (parse [s]).parameters = [] := by
  have nothing : pieces [] = [] := by rw [pieces]
  have mentions : (pieces (withProse opensEntry [s]).2).filterMap mentioned? = [] := by
    rcases List.suffix_cons_iff.mp (withProse_suffix opensEntry [s]) with all | none
    · obtain ⟨piece, split, none⟩ := exists_pieces_cons noField [] rfl
      rw [all, split, nothing, List.filterMap_cons_none none, List.filterMap_nil]
    · rw [List.suffix_nil.mp none, nothing, List.filterMap_nil]
  rw [← names_eq_nil_iff, names_parse, mentions]
  rfl

theorem dropBlankEnds_lines (visible : ¬ isBlank s) (fits : ∀ f ∈ fields, f.Fits)
    (ne : fields ≠ []) : dropBlankEnds (s :: [] :: fields.map (·.line)) =
      s :: [] :: fields.map (·.line) := by
  obtain ⟨last, ends⟩ : ∃ last, fields.getLast? = some last :=
    ⟨_, List.getLast?_eq_some_getLast ne⟩
  have inside := List.mem_of_getLast? ends
  refine @dropBlankEnds_eq_self _ last.line _ visible ?_ (fits last inside).isPhrase_line.visible
  rw [List.getLast?_cons, List.getLast?_cons, List.getLast?_map, ends]
  rfl

theorem parameters_parse_lines (visible : ¬ isBlank s) (noField : mentioned? (.line s) = none)
    (fits : ∀ f ∈ fields, f.Fits) :
    (parse (dropBlankEnds (s :: [] :: fields.map (·.line)))).parameters =
      fields.foldl (fun ps f => updateParameter f.name f.apply ps) [] := by
  have same := parameters_foldl_addPiece fits
  cases fields with
  | nil =>
    have ends : dropBlankEnds [s, []] = [s] :=
      (dropBlankEnds_append_of_isBlank [s] (by simp [isBlank])).trans
        (dropBlankEnds_eq_self visible rfl visible)
    rw [List.map_nil, ends, parameters_parse_singleton noField]
    rfl
  | cons f fields =>
    have first := fits f List.mem_cons_self
    rw [dropBlankEnds_lines visible fits (List.cons_ne_nil f fields), parse_eq_foldl]
    by_cases opens : opensEntry (s :: [] :: (f :: fields).map (·.line))
    · obtain ⟨piece, split, none⟩ := exists_pieces_cons noField
        ([] :: (f :: fields).map (·.line)) rfl
      have gap : pieces ([] :: (f :: fields).map (·.line)) =
          .line [] :: pieces ((f :: fields).map (·.line)) := by
        rw [pieces]
        rfl
      have blank : ∀ s, addPiece s (.line []) = s := fun s => rfl
      rw [withProse_of_header visible opens, split, gap, List.foldl_cons, List.foldl_cons, blank,
        pieces_lines fits, same, parameters_addPiece_eq_nil none]
    · rw [withProse_line visible opens Bool.false_ne_true (.inr (first.opensEntry _)),
        pieces_lines fits, same]

end Parse

namespace WrittenFields

variable {w : WrittenFields}

/-- The parameter of a name, its text with the references in it as links. -/
def parameter (w : WrittenFields) (name : Text) : Parameter :=
  { name
    type := WrittenField.valueOf w.fields true name
    description := (WrittenField.valueOf w.fields false name).map Reference.toMarkdown }

theorem Fits.of_perm (fits : w.Fits) {fields : List WrittenField} (perm : fields.Perm w.fields) :
    Fits { w with fields } :=
  { fits with
    fields := fun f mem => fits.fields f (perm.mem_iff.mp mem)
    distinct := (perm.map _).nodup_iff.mpr fits.distinct }

theorem Fits.parameters_parse (fits : w.Fits) (told : DocstringStyle.detect w.text = .fieldList) :
    (Docstring.parse w.text).parameters =
      (w.fields.map (·.name)).eraseDups.map w.parameter := by
  have visible : ¬ isBlank (trimStart (plainLine w.summary)) := by
    have shown : ¬ isBlank (plainLine w.summary) := by rw [isBlank_plainLine]; exact fits.visible
    obtain ⟨c, rest, eq, seen⟩ := exists_trimStart_eq_cons shown
    rw [eq, isBlank, List.all_cons, Bool.and_eq_true]
    exact fun blank => seen blank.1
  have read := parameters_parse_lines visible fits.noField fits.fields
  rw [foldl_updateParameter fits.fields fits.distinct] at read
  rw [parse_eq, told, fits.tidyLines_text]
  have linked : ∀ doc : Docstring, doc.withMarkdown.parameters = doc.parameters.map fun p =>
    { p with description := p.description.map Reference.toMarkdown } := fun doc => rfl
  rw [linked, DocstringStyle.parser, read, List.map_map]
  rfl

end WrittenFields

end SymbolDocs.FieldList

namespace SymbolDocs.Docstring

open Text FieldList

/-- In which order fields about parameters stand only shows in the order of the parameters, which
is that of their first mention. No parameter is there twice. -/
theorem parse_fields_perm :
    (∀ w : WrittenFields, w.Fits → DocstringStyle.detect w.text = .fieldList →
      ∀ fields : List WrittenField, fields.Perm w.fields →
        (parse { w with fields }.text).parameters =
          (fields.map (·.name)).eraseDups.map w.parameter ∧
        (parse { w with fields }.text).parameters.Perm (parse w.text).parameters) ∧
    ∀ text, DocstringStyle.detect text = .fieldList →
      ((parse text).parameters.map (·.name)).Nodup := by
  refine ⟨fun w fits told fields perm => ?_, fun text told => ?_⟩
  · have fits' := fits.of_perm perm
    have told' : DocstringStyle.detect { w with fields }.text = .fieldList :=
      fits'.detect_text.mpr (fits.detect_text.mp told)
    have same : WrittenFields.parameter { w with fields } = w.parameter := by
      funext name
      simp only [WrittenFields.parameter, WrittenField.valueOf_perm fits.distinct perm]
    have read := fits'.parameters_parse told'
    rw [same] at read
    refine ⟨read, ?_⟩
    rw [read, fits.parameters_parse told]
    refine List.Perm.map _ ((List.perm_ext_iff_of_nodup (nodup_eraseDups _)
      (nodup_eraseDups _)).mpr fun name => ?_)
    rw [List.mem_eraseDups, List.mem_eraseDups, (perm.map _).mem_iff]
  · have distinct := nodup_eraseDups ((pieces (withProse opensEntry (tidyLines text)).2).filterMap
      mentioned?)
    rw [← names_parse] at distinct
    have kept : ∀ doc : Docstring, doc.withMarkdown.parameters.map (·.name) = names doc := by
      intro doc
      simp [withMarkdown, names]
    rw [parse_eq, told, kept]
    exact distinct

/-- Types in front of and behind the texts they belong to. -/
def writtenMove : WrittenFields where
  summary := "Move a file: all of it."
  gap := "  "
  fields := [⟨true, "src", "Path, or str"⟩, ⟨false, "src", "a :class:`Path`: where it is"⟩,
    ⟨false, "dst", "where it goes"⟩, ⟨true, "dst", "str"⟩]

theorem parse_fields_perm_reverse :
    (parse { writtenMove with fields := writtenMove.fields.reverse }.text).parameters =
      [{ name := "dst"
         type := some ("str" : Text)
         description := some ("where it goes" : Text) },
       { name := "src"
         type := some ("Path, or str" : Text)
         description := some ("a `Path`: where it is" : Text) }] ∧
    ((parse writtenMove.text).parameters.map (·.name)).Nodup := by
  have fits : writtenMove.Fits :=
    { visible := by decide
      oneLine := by decide
      noField := by decide
      gap := by decide
      fields := by
        have all : ∀ f ∈ writtenMove.fields, IsWord f.name ∧ ':' ∉ f.name ∧ IsPhrase f.value := by
          decide
        exact fun f mem => ⟨(all f mem).1, (all f mem).2.1, (all f mem).2.2⟩
      distinct := by
        rw [WrittenField.Distinct]
        decide }
  have told : DocstringStyle.detect writtenMove.text = .fieldList :=
    fits.detect_text.mpr (by decide)
  have read := parse_fields_perm.1 writtenMove fits told _ (List.reverse_perm _)
  exact ⟨read.1.trans (by decide +kernel), parse_fields_perm.2 _ told⟩

end SymbolDocs.Docstring
