import SymbolDocs.Proofs.Docstring.Pieces
import SymbolDocs.Proofs.Docstring.Solid

namespace SymbolDocs.FieldList

open Text Docstring

section Arguments

variable {s name body arg : Text}

theorem trim_of_field? (found : Entry.field? s = some (name, some arg, body)) : trim arg = arg := by
  unfold Entry.field? at found
  split at found
  · obtain ⟨⟨gap, text⟩, _, found⟩ := Option.bind_eq_some_iff.mp found
    dsimp only at found
    split at found
    · cases found
    · split at found
      · cases found
      · split at found
        · cases found
        · split at found
          · cases found
          · cases found
            exact trim_trim _
  · cases found

/-- The name at the end of an argument is blank only if all of it is. -/
theorem isBlank_splitArgument (trimmed : trim arg = arg) :
    isBlank (splitArgument arg).2 ↔ arg = [] := by
  rw [splitArgument]
  cases cut : cutLast? ' ' arg with
  | none => exact isBlank_iff_of_trim trimmed
  | some parts =>
    obtain ⟨type, name⟩ := parts
    obtain ⟨eq, _⟩ := cutLast?_eq_some_iff.mp cut
    have filled : arg ≠ [] := by simp [eq]
    refine iff_of_false (fun blank => ?_) filled
    have tail : isBlank (' ' :: name) := by
      rw [isBlank_trim] at blank
      exact blank
    have ends := trimEnd_of_trim trimmed
    rw [eq, trimEnd_append_of_isBlank type tail] at ends
    have short := (prefix_trimEnd type).length_le
    rw [ends, List.length_append, List.length_cons] at short
    omega

end Arguments

/-- A field that is about a parameter or an error of its own. -/
def needsArgument : Option Field → Bool
  | some .parameter => true
  | some .parameterType => true
  | some .raise => true
  | _ => false

/-- A field whose argument is there, but is only white space. -/
def hasBlankArgument : Piece → Bool
  | .block _ => false
  | .line line =>
    match kindOf line with
    | .field field (some []) _ => needsArgument field
    | _ => false

def raised? : Piece → Option Text
  | .block _ => none
  | .line line =>
    match kindOf line with
    | .field field arg _ => raisedBy? field arg
    | _ => none

/-- The note that a directive starts. -/
def noteOf? (directive : Text) : Option Text :=
  (cutAt? "::" directive).bind fun (kind, rest) => (noteLabel? (trim kind)).map (· ++ trim rest)

def note? : Piece → Option Text
  | .block _ => none
  | .line line =>
    match kindOf line with
    | .directive text => noteOf? text
    | _ => none

/-- Some indented text comes next, perhaps behind blank lines. -/
def isContinued : List Piece → Bool
  | .line line :: more =>
    match kindOf line with
    | .plain => if isBlank line then isContinued more else 0 < indentWidth line
    | _ => false
  | _ => false

/-- Some note has no text of its own and is not continued either. -/
def leavesEmptyNote : List Piece → Bool
  | [] => false
  | piece :: more => note? piece == some [] && !isContinued more || leavesEmptyNote more

theorem trim_of_kindOf {line body arg : Text} {field : Option Field}
    (kind : kindOf line = .field field (some arg) body) : trim arg = arg := by
  rw [kindOf] at kind
  split at kind
  · cases kind
  · next name arg' body' _ found =>
    obtain ⟨_, rfl, _⟩ := LineKind.field.inj kind
    exact trim_of_field? found
  · cases kind

theorem needsArgument_iff {field : Option Field} {arg : Option Text}
    (trimmed : ∀ a ∈ arg, trim a = a) :
    (arg = some [] ∧ needsArgument field) ↔
      (∃ name ∈ mentionedBy? field arg, isBlank name) ∨
        ∃ type ∈ raisedBy? field arg, isBlank type := by
  cases arg with
  | none =>
    have named : mentionedBy? field none = none := by
      rcases field with _ | _ | _ | _ | _ | _ <;> rfl
    refine iff_of_false (by simp) ?_
    rw [named]
    rintro (⟨_, ⟨⟩, _⟩ | ⟨type, mem, blank⟩)
    rw [raisedBy?.eq_def] at mem
    split at mem
    · rw [← Option.some.inj mem] at blank
      exact absurd blank (by decide)
    · cases mem
  | some arg =>
    have same := isBlank_iff_of_trim (trimmed arg rfl)
    have last := isBlank_splitArgument (trimmed arg rfl)
    rcases field with _ | _ | _ | _ | _ | _ <;>
      simp [mentionedBy?, raisedBy?, needsArgument, same, last]

/-- Where a parameter without a name or an error without a type comes from. -/
theorem hasBlankArgument_iff {piece : Piece} :
    hasBlankArgument piece ↔
      (∃ name ∈ mentioned? piece, isBlank name) ∨ ∃ type ∈ raised? piece, isBlank type := by
  cases piece with
  | block lines => simp [hasBlankArgument, mentioned?, raised?]
  | line line =>
    cases kind : kindOf line with
    | directive text => simp [hasBlankArgument, mentioned?, raised?, kind]
    | plain => simp [hasBlankArgument, mentioned?, raised?, kind]
    | field field arg body =>
      have trimmed : ∀ a ∈ arg, trim a = a := by
        rintro a rfl
        exact trim_of_kindOf kind
      have blank : hasBlankArgument (.line line) ↔ arg = some [] ∧ needsArgument field := by
        rcases arg with _ | _ | ⟨c, arg⟩ <;> simp [hasBlankArgument, kind]
      rw [blank, needsArgument_iff trimmed]
      simp only [mentioned?, raised?, kind]

section Types

def types (doc : Docstring) : List Text := doc.raises.map (·.type)

theorem map_modify {α β : Type} {f : α → α} {g : α → β} (kept : ∀ x, g (f x) = g x) (l : List α)
    (i : Nat) : (l.modify i f).map g = l.map g := by
  induction l generalizing i with
  | nil => simp
  | cons x l ih =>
    cases i with
    | zero => simp [kept]
    | succ i => simp [ih]

theorem types_fieldStep {doc : Docstring} {field : Option Field} {arg : Option Text} {body : Text}
    {s : Docstring × Continued} (step : FieldStep doc body field arg s) :
    types s.1 = types doc ++ (raisedBy? field arg).toList := by
  cases step with
  | parameter => exact (List.append_nil _).symm
  | parameterType => exact (List.append_nil _).symm
  | returns => exact (List.append_nil _).symm
  | returnsType => exact (List.append_nil _).symm
  | raise => exact List.map_append
  | ignored _ unraised => rw [unraised, Option.toList_none, List.append_nil]

theorem types_addDirective (doc : Docstring) (directive : Text) :
    types (addDirective doc directive).1 = types doc := by
  rw [addDirective]
  split
  · rfl
  · rfl

theorem types_addContinuation (doc : Docstring) (target : Continued) (text : Text) :
    types (addContinuation doc target text) = types doc := by
  cases target with
  | raise => exact map_modify (f := fun r : Raise => r.describe text) (fun _ => rfl) doc.raises _
  | nothing => rfl
  | parameter name => rfl
  | returns => rfl
  | note => rfl

/-- A piece adds at most the error that it is a field of. -/
theorem types_step {s s' : Docstring × Continued} {piece : Piece} (step : Step s piece s') :
    types s'.1 = types s.1 ++ (raised? piece).toList := by
  cases step with
  | block => exact (List.append_nil _).symm
  | directive kind => simp [raised?, kind, types_addDirective]
  | field kind step => simp [raised?, kind, types_fieldStep step]
  | blank kind => simp [raised?, kind]
  | deeper kind => simp [raised?, kind, types_addContinuation]
  | prose kind => simp [raised?, kind, types]

theorem types_foldl_addPiece (ps : List Piece) (s : Docstring × Continued) :
    types (ps.foldl addPiece s).1 = types s.1 ++ ps.filterMap raised? := by
  induction ps generalizing s with
  | nil => exact (List.append_nil _).symm
  | cons piece ps ih =>
    rw [List.foldl_cons, ih, types_step (step_addPiece s piece), List.append_assoc,
      List.filterMap_cons]
    cases raised? piece with
    | none => rfl
    | some type => rfl

end Types

section Notes

/-- The notes can all be seen, or the last one still can be continued. -/
def NotesOpen (s : Docstring × Continued) (ps : List Piece) : Prop :=
  (∀ n ∈ s.1.notes, ¬ isBlank n) ∨
    (s.2 = .note ∧ isContinued ps ∧ ∀ n ∈ s.1.notes.dropLast, ¬ isBlank n)

theorem isBlank_noteOf? {directive note : Text} (found : noteOf? directive = some note) :
    isBlank note ↔ note = [] := by
  obtain ⟨⟨kind, rest⟩, _, found⟩ := Option.bind_eq_some_iff.mp found
  obtain ⟨label, known, rfl⟩ := Option.map_eq_some_iff.mp found
  have trimmed := isBlank_iff_of_trim (trim_trim rest)
  rw [noteLabel?] at known
  split at known
  · cases known
    exact trimmed
  · split at known
    · cases known
      exact iff_of_false (not_isBlank_cons (by decide) _) (List.cons_ne_nil _ _)
    · split at known
      · cases known
        exact iff_of_false (not_isBlank_cons (by decide) _) (List.cons_ne_nil _ _)
      · cases known

theorem not_isBlank_extendNote (note : Text) {text : Text} (visible : ¬ isBlank text) :
    ¬ isBlank (extendNote note text) := by
  rw [extendNote]
  split
  · rw [isBlank_append, Bool.and_eq_true]
    exact fun both => visible both.2
  · rw [isBlank_append, Bool.and_eq_true]
    exact fun both => visible both.2

theorem notes_fieldStep {doc : Docstring} {field : Option Field} {arg : Option Text} {body : Text}
    {s : Docstring × Continued} (step : FieldStep doc body field arg s) :
    s.1.notes = doc.notes ∧ s.2 ≠ .note := by
  cases step with
  | parameter => exact ⟨rfl, nofun⟩
  | parameterType => exact ⟨rfl, nofun⟩
  | returns => exact ⟨rfl, nofun⟩
  | returnsType => exact ⟨rfl, nofun⟩
  | raise => exact ⟨rfl, nofun⟩
  | ignored => exact ⟨rfl, nofun⟩

/-- Where nothing can be continued any more the notes have to be seen. -/
theorem notesOpen_iff_of_ne {s : Docstring × Continued} {ps : List Piece}
    (closed : s.2 ≠ .note ∨ isContinued ps = false) :
    NotesOpen s ps ↔ ∀ n ∈ s.1.notes, ¬ isBlank n := by
  refine ⟨fun opened => opened.resolve_right ?_, .inl⟩
  rintro ⟨target, continued, _⟩
  rcases closed with ne | none
  · exact ne target
  · rw [none] at continued
    exact Bool.false_ne_true continued

theorem forall_notes_addNote {doc : Docstring} {note : Text} :
    (∀ n ∈ (doc.addNote note).notes, ¬ isBlank n) ↔
      (∀ n ∈ doc.notes, ¬ isBlank n) ∧ ¬ isBlank note := by
  simp [addNote, or_imp, forall_and]

/-- A note that a directive starts is open if it is empty and continued. -/
theorem notesOpen_addNote {doc : Docstring} {note : Text} (empty : isBlank note ↔ note = [])
    (more : List Piece) :
    NotesOpen (doc.addNote note, .note) more ↔
      (∀ n ∈ doc.notes, ¬ isBlank n) ∧ ¬ (note = [] ∧ ¬ isContinued more) := by
  have before : (doc.addNote note).notes.dropLast = doc.notes := List.dropLast_concat
  rw [NotesOpen, forall_notes_addNote, before, empty]
  by_cases continued : isContinued more
  · simp only [continued, not_true, and_false, not_false_eq_true, and_true, true_and]
    exact ⟨fun both => both.elim And.left id, .inr⟩
  · simp [continued]

/-- Text that is put to the last note makes it visible. -/
theorem notesOpen_extendNote {doc : Docstring} {text : Text} (visible : ¬ isBlank text)
    (more : List Piece) :
    NotesOpen (addContinuation doc .note text, .note) more ↔
      ∀ n ∈ doc.notes.dropLast, ¬ isBlank n := by
  rcases List.eq_nil_or_concat doc.notes with none | ⟨init, last, eq⟩
  · simp [NotesOpen, addContinuation, none]
  · have modified : (addContinuation doc .note text).notes = init ++ [extendNote last text] := by
      rw [addContinuation, eq, List.concat_eq_append]
      exact modify_concat init last _
    have seen := not_isBlank_extendNote last visible
    simp only [NotesOpen, modified, eq, List.concat_eq_append, List.dropLast_concat]
    constructor
    · rintro (all | ⟨_, _, all⟩)
      · exact fun n mem => all n (List.mem_append_left _ mem)
      · exact all
    · exact fun all => .inl (forall_mem_concat all seen)

theorem notes_addContinuation {doc : Docstring} {target : Continued} (ne : target ≠ .note)
    (text : Text) : (addContinuation doc target text).notes = doc.notes := by
  cases target with
  | note => exact absurd rfl ne
  | nothing => rfl
  | parameter name => rfl
  | returns => rfl
  | raise => rfl

/-- A deeper line is what an open note waits for. -/
theorem notesOpen_addContinuation {s : Docstring × Continued} {line : Text} {more : List Piece}
    (kind : kindOf line = .plain) (visible : ¬ isBlank line) (deeper : 0 < indentWidth line) :
    NotesOpen (addContinuation s.1 s.2 (trim line), s.2) more ↔
      NotesOpen s (.line line :: more) := by
  have continued : isContinued (.line line :: more) := by
    simp [isContinued, kind, visible, deeper]
  by_cases target : s.2 = .note
  · have shown : ¬ isBlank (trim line) := by rwa [isBlank_trim]
    rw [target, notesOpen_extendNote shown, NotesOpen]
    simp only [target, continued, true_and]
    exact ⟨.inr, fun opened => opened.elim
      (fun all n mem => all n (List.dropLast_subset _ mem)) id⟩
  · have before := @notesOpen_iff_of_ne s (.line line :: more) (.inl target)
    have after := @notesOpen_iff_of_ne (addContinuation s.1 s.2 (trim line), s.2)
      more (.inl target)
    rw [before, after, notes_addContinuation target]

theorem notesOpen_step {s s' : Docstring × Continued} {piece : Piece} (step : Step s piece s')
    (more : List Piece) :
    NotesOpen s' more ↔
      NotesOpen s (piece :: more) ∧ ¬ (note? piece = some [] ∧ ¬ isContinued more) := by
  cases step with
  | block =>
    rw [notesOpen_iff_of_ne (.inl (by simp)), notesOpen_iff_of_ne (.inr rfl)]
    simp [note?]
  | @directive line text kind =>
    have closed : isContinued (.line line :: more) = false := by simp only [isContinued, kind]
    have starts : note? (.line line) = noteOf? text := by simp only [note?, kind]
    rw [notesOpen_iff_of_ne (.inr closed), starts]
    cases found : noteOf? text with
    | none =>
      have read : addDirective s.1 text = (s.1, .nothing) := by
        rw [addDirective, ← noteOf?, found]
      rw [read, notesOpen_iff_of_ne (.inl (by simp))]
      simp
    | some note =>
      have read : addDirective s.1 text = (s.1.addNote note, .note) := by
        rw [addDirective, ← noteOf?, found]
      rw [read, notesOpen_addNote (isBlank_noteOf? found), Option.some_inj]
  | field kind step =>
    obtain ⟨same, ne⟩ := notes_fieldStep step
    rw [notesOpen_iff_of_ne (.inl ne), same,
      notesOpen_iff_of_ne (.inr (by simp only [isContinued, kind]))]
    simp [note?, kind]
  | blank kind blank =>
    simp [NotesOpen, isContinued, note?, kind, blank]
  | @deeper line kind visible deeper =>
    rw [notesOpen_addContinuation kind visible deeper]
    simp [note?, kind]
  | prose kind visible atMargin =>
    rw [notesOpen_iff_of_ne (.inl (by simp)),
      notesOpen_iff_of_ne (.inr (by simp [isContinued, kind, visible, atMargin]))]
    simp [note?, kind]

theorem forall_notes_foldl_addPiece (ps : List Piece) (s : Docstring × Continued) :
    (∀ n ∈ (ps.foldl addPiece s).1.notes, ¬ isBlank n) ↔
      NotesOpen s ps ∧ ¬ leavesEmptyNote ps := by
  induction ps generalizing s with
  | nil =>
    rw [notesOpen_iff_of_ne (.inr rfl)]
    simp [leavesEmptyNote]
  | cons piece ps ih =>
    rw [List.foldl_cons, ih, notesOpen_step (step_addPiece s piece), and_assoc]
    simp [leavesEmptyNote]

end Notes

section Texts

theorem forall_mem_updateParameter {P : Parameter → Prop} {name : Text}
    {f : Parameter → Parameter} {ps : List Parameter} (all : ∀ p ∈ ps, P p)
    (kept : ∀ p, P p → P (f p)) (new : P { name }) : ∀ p ∈ updateParameter name f ps, P p := by
  induction ps with
  | nil =>
    intro p mem
    rw [List.mem_singleton.mp mem]
    exact kept _ new
  | cons q ps ih =>
    obtain ⟨first, rest⟩ := List.forall_mem_cons.mp all
    rw [updateParameter]
    split
    · exact List.forall_mem_cons.mpr ⟨kept q first, rest⟩
    · exact List.forall_mem_cons.mpr ⟨first, ih rest⟩

theorem hasTexts_onParameter {doc : Docstring} (texts : doc.HasTexts) (name : Text)
    {f : Parameter → Parameter}
    (kept : ∀ p, IsFilled p.description → IsFilled (f p).description) :
    (onParameter doc name f).HasTexts :=
  { texts with parameters := forall_mem_updateParameter texts.parameters kept isFilled_none }

theorem hasTexts_fieldStep {doc : Docstring} (texts : doc.HasTexts) {field : Option Field}
    {arg : Option Text} {body : Text} {s : Docstring × Continued}
    (step : FieldStep doc body field arg s) : s.1.HasTexts := by
  cases step with
  | parameter => exact hasTexts_onParameter texts _ fun _ filled => isFilled_extendedBy filled body
  | parameterType => exact hasTexts_onParameter texts _ fun _ filled => filled
  | returns =>
    refine { texts with returns := ?_ }
    rintro r ⟨⟩
    exact isFilled_extendedBy texts.isFilled_returns body
  | returnsType =>
    refine { texts with returns := ?_ }
    rintro r ⟨⟩
    exact texts.isFilled_returns
  | raise =>
    exact { texts with
      raises := forall_mem_concat texts.raises (isFilled_extendedBy isFilled_none body) }
  | ignored => exact texts

theorem hasTexts_addContinuation {doc : Docstring} (texts : doc.HasTexts) (target : Continued)
    (text : Text) : (addContinuation doc target text).HasTexts := by
  cases target with
  | nothing => exact texts
  | parameter name =>
    exact hasTexts_onParameter texts name fun _ filled => isFilled_extendedBy filled text
  | returns =>
    refine { texts with returns := fun q mem => ?_ }
    obtain ⟨r, known, rfl⟩ := Option.map_eq_some_iff.mp mem
    exact isFilled_extendedBy (texts.returns r known) text
  | raise =>
    exact { texts with
      raises := forall_mem_modify texts.raises (fun _ filled => isFilled_extendedBy filled text) _ }
  | note => exact { texts with }

/-- Examples start with a prompt. -/
def HasPrompt : Piece → Prop
  | .block lines => ∃ line ∈ lines, ¬ isBlank line
  | .line _ => True

theorem hasPrompt_of_mem_pieces {lines : List Text} {piece : Piece} (mem : piece ∈ pieces lines) :
    HasPrompt piece := by
  induction lines using pieces.induct with
  | case1 =>
    rw [pieces] at mem
    exact absurd mem List.not_mem_nil
  | case2 line rest prompt split ih =>
    rw [pieces, if_pos prompt] at mem
    rcases List.mem_cons.mp mem with rfl | later
    · refine ⟨line, List.mem_cons_self, fun blank => ?_⟩
      rw [trim_eq_nil_iff.mpr blank] at prompt
      exact Bool.false_ne_true prompt
    · exact ih later
  | case3 line rest plain ih =>
    rw [pieces, if_neg plain] at mem
    rcases List.mem_cons.mp mem with rfl | later
    · trivial
    · exact ih later

theorem hasTexts_step {s s' : Docstring × Continued} {piece : Piece} (step : Step s piece s')
    (prompt : HasPrompt piece) (texts : s.1.HasTexts) : s'.1.HasTexts := by
  cases step with
  | block =>
    obtain ⟨line, mem, visible⟩ := prompt
    exact { texts with
      examples := forall_mem_concat texts.examples (not_isBlank_dedent mem visible) }
  | directive =>
    rw [addDirective]
    split
    · exact { texts with }
    · exact texts
  | field kind step => exact hasTexts_fieldStep texts step
  | blank => exact texts
  | deeper => exact hasTexts_addContinuation texts _ _
  | prose kind visible atMargin said => exact { texts with description := isFilled_some said }

end Texts

theorem any_hasBlankArgument (ps : List Piece) :
    ¬ ps.any hasBlankArgument ↔
      (∀ name ∈ ps.filterMap mentioned?, ¬ isBlank name) ∧
        ∀ type ∈ ps.filterMap raised?, ¬ isBlank type := by
  rw [List.any_eq_true, not_exists]
  constructor
  · intro none
    constructor
    · intro name mem blank
      obtain ⟨piece, inside, known⟩ := List.mem_filterMap.mp mem
      exact none piece ⟨inside, hasBlankArgument_iff.mpr (.inl ⟨name, known, blank⟩)⟩
    · intro type mem blank
      obtain ⟨piece, inside, known⟩ := List.mem_filterMap.mp mem
      exact none piece ⟨inside, hasBlankArgument_iff.mpr (.inr ⟨type, known, blank⟩)⟩
  · rintro ⟨named, typed⟩ piece ⟨inside, hollow⟩
    rcases hasBlankArgument_iff.mp hollow with ⟨name, known, blank⟩ | ⟨type, known, blank⟩
    · exact named name (List.mem_filterMap.mpr ⟨piece, inside, known⟩) blank
    · exact typed type (List.mem_filterMap.mpr ⟨piece, inside, known⟩) blank

/-- Some parameter has no name, some error has no type, or some note has no text. -/
def leavesHollow (ps : List Piece) : Bool := ps.any hasBlankArgument || leavesEmptyNote ps

section Parse

variable (lines : List Text)

theorem hasTexts_parse : (parse lines).HasTexts := by
  rw [parse_eq_foldl]
  exact List.foldlRecOn (motive := fun s : Docstring × Continued => s.1.HasTexts) _ _
    (isSolid_withProse opensEntry lines).toHasTexts fun s texts piece mem =>
      hasTexts_step (step_addPiece s piece) (hasPrompt_of_mem_pieces mem) texts

theorem forall_names_parse : (∀ p ∈ (parse lines).parameters, ¬ isBlank p.name) ↔
    ∀ name ∈ (pieces (withProse opensEntry lines).2).filterMap mentioned?, ¬ isBlank name := by
  have mem : ∀ name, name ∈ names (parse lines) ↔
      name ∈ (pieces (withProse opensEntry lines).2).filterMap mentioned? := by
    intro name
    rw [names_parse, List.mem_eraseDups]
  simp only [← mem, names, List.forall_mem_map]

theorem forall_types_parse : (∀ r ∈ (parse lines).raises, ¬ isBlank r.type) ↔
    ∀ type ∈ (pieces (withProse opensEntry lines).2).filterMap raised?, ¬ isBlank type := by
  have all : types (parse lines) = (pieces (withProse opensEntry lines).2).filterMap raised? := by
    rw [parse_eq_foldl, types_foldl_addPiece]
    rfl
  rw [← all]
  simp only [types, List.forall_mem_map]

theorem forall_notes_parse : (∀ n ∈ (parse lines).notes, ¬ isBlank n) ↔
    ¬ leavesEmptyNote (pieces (withProse opensEntry lines).2) := by
  rw [parse_eq_foldl, forall_notes_foldl_addPiece]
  exact and_iff_right (.inl (isSolid_withProse opensEntry lines).notes)

theorem isSolid_iff_not_leavesHollow :
    (parse lines).IsSolid ↔ ¬ leavesHollow (pieces (withProse opensEntry lines).2) := by
  rw [isSolid_iff, forall_names_parse, forall_types_parse, forall_notes_parse,
    ← and_assoc (c := ¬ _), ← any_hasBlankArgument, leavesHollow, Bool.or_eq_true, not_or]
  exact and_iff_right (hasTexts_parse lines)

end Parse

end SymbolDocs.FieldList

namespace SymbolDocs.Docstring

open Text

/-- What is parsed is solid, but for fields with blank arguments and for notes that stay empty in
docstrings of fields. -/
theorem isSolid_parse_iff (text : Text) :
    (parse text).IsSolid ↔
      ¬ (DocstringStyle.detect text = .fieldList ∧
        FieldList.leavesHollow
          (FieldList.pieces (withProse FieldList.opensEntry (tidyLines text)).2)) := by
  rw [parse_eq, isSolid_withMarkdown]
  cases DocstringStyle.detect text with
  | numpy => exact iff_of_true (NumPy.isSolid_parse _) nofun
  | google => exact iff_of_true (Google.isSolid_parse _) nofun
  | fieldList =>
    rw [DocstringStyle.parser, FieldList.isSolid_iff_not_leavesHollow]
    simp

/-- One line is enough to leave something hollow. -/
theorem not_isSolid_of_line {line : Text} (lines : tidyLines line = [line])
    (visible : ¬ isBlank line) (told : DocstringStyle.detect line = .fieldList)
    (opens : FieldList.opensEntry [line]) (plain : ¬ (trim line).startsWith ">>>")
    (hollow : FieldList.leavesHollow [.line line]) : ¬ (parse line).IsSolid := by
  have one : FieldList.pieces [line] = [.line line] := by
    rw [FieldList.pieces, if_neg plain, FieldList.pieces]
  rw [parse_eq, isSolid_withMarkdown, lines, told, DocstringStyle.parser,
    FieldList.isSolid_iff_not_leavesHollow, withProse_of_header visible opens, one]
  exact fun solid => solid hollow

/-- A parameter whose name is white space, and a note without a text. -/
theorem not_isSolid_parse_blankArgument :
    ¬ (parse ":param  : x").IsSolid ∧ ¬ (parse ".. note::").IsSolid := by
  constructor
  · exact not_isSolid_of_line (by decide +kernel) (by decide) (by decide +kernel) (by decide)
      (by decide) (by decide)
  · exact not_isSolid_of_line (by decide +kernel) (by decide) (by decide +kernel) (by decide)
      (by decide) (by decide)

end SymbolDocs.Docstring
