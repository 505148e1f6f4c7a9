import SymbolDocs.Docstring.FieldList
import SymbolDocs.Proofs.Text.Names
import SymbolDocs.Proofs.Text.Visible

namespace SymbolDocs.FieldList

open Text Docstring

/-- An example from its prompt on, or a line outside of the examples. -/
inductive Piece where
  | block (lines : List Text)
  | line (line : Text)

/-- The pieces of a docstring. -/
def pieces (lines : List Text) : List Piece :=
  match lines with
  | [] => []
  | line :: rest =>
    if (trim line).startsWith ">>>" then
      let split := spanUntil (·.head?.any isBlank) rest
      .block (line :: split.1) :: pieces split.2
    else .line line :: pieces rest
termination_by lines.length
decreasing_by
  · have := length_spanUntil_le (·.head?.any isBlank) rest
    simp only [List.length_cons]
    omega
  · simp

def addPiece : Docstring × Continued → Piece → Docstring × Continued
  | (doc, _), .block lines =>
    ({ doc with examples := doc.examples ++ [dedent lines] }, .nothing)
  | (doc, target), .line line => addLine doc target line

/-- A docstring is read piece by piece. -/
theorem addLines_eq_foldl (doc : Docstring) (target : Continued) (lines : List Text) :
    addLines doc target lines = ((pieces lines).foldl addPiece (doc, target)).1 := by
  induction lines using pieces.induct generalizing doc target with
  | case1 => rw [addLines, pieces]; rfl
  | case2 line rest prompt split ih => rw [addLines, pieces, if_pos prompt, if_pos prompt, ih]; rfl
  | case3 line rest plain ih => rw [addLines, pieces, if_neg plain, if_neg plain]; exact ih _ _

/-- A line outside of the examples: the text of a directive, a field or anything else. -/
inductive LineKind where
  | directive (text : Text)
  | field (field : Option Field) (arg : Option Text) (body : Text)
  | plain

def kindOf (line : Text) : LineKind :=
  match after? ".. " (trim line), Entry.field? (trim line) with
  | some text, _ => .directive text
  | none, some (name, arg, body) => .field (fieldOf? name) arg body
  | none, none => .plain

/-- The parameter that a field is about. -/
def mentionedBy? : Option Field → Option Text → Option Text
  | some .parameter, some arg => some (splitArgument arg).2
  | some .parameterType, some arg => some arg
  | _, _ => none

/-- The type of the error that a field is about. -/
def raisedBy? : Option Field → Option Text → Option Text
  | some .raise, arg => some (arg.getD "Exception")
  | _, _ => none

/-- What a field does to the docstring and to what is continued. A field about a parameter needs an
argument, and one for the type of the value a text. -/
inductive FieldStep (doc : Docstring) (body : Text) :
    Option Field → Option Text → Docstring × Continued → Prop where
  | parameter {arg : Text} : FieldStep doc body (some .parameter) (some arg)
    (onParameter doc (splitArgument arg).2 fun p =>
      { p with type := p.type.or (splitArgument arg).1 }.describe body,
      .parameter (splitArgument arg).2)
  | parameterType {name : Text} : FieldStep doc body (some .parameterType) (some name)
    (onParameter doc name fun p => { p with type := (nonEmpty? body).or p.type }, .nothing)
  | returns {arg : Option Text} : FieldStep doc body (some .returns) arg
    ({ doc with returns := some ((doc.returns.getD {}).describe body) }, .returns)
  | returnsType {arg : Option Text} : FieldStep doc body (some .returnsType) arg
    ({ doc with returns := some { doc.returns.getD {} with type := some body } }, .nothing)
  | raise {arg : Option Text} : FieldStep doc body (some .raise) arg
    ({ doc with raises := doc.raises ++ [{ type := arg.getD "Exception" : Raise }.describe body] },
      .raise)
  | ignored {field : Option Field} {arg : Option Text} (unnamed : mentionedBy? field arg = none)
    (unraised : raisedBy? field arg = none) : FieldStep doc body field arg (doc, .nothing)

theorem fieldStep_addField (doc : Docstring) (field : Option Field) (arg : Option Text)
    (body : Text) : FieldStep doc body field arg (addField doc field arg body) := by
  cases field with
  | none => exact .ignored rfl rfl
  | some field =>
    cases field with
    | parameter =>
      cases arg with
      | none => exact .ignored rfl rfl
      | some arg => exact .parameter
    | parameterType =>
      cases arg with
      | none => exact .ignored rfl rfl
      | some name => exact .parameterType
    | returns => exact .returns
    | returnsType =>
      rw [addField]
      split
      · exact .ignored rfl rfl
      · exact .returnsType
    | raise => exact .raise

/-- What a piece does to the docstring and to what is continued. -/
inductive Step : Docstring × Continued → Piece → Docstring × Continued → Prop where
  | block {s : Docstring × Continued} {lines : List Text} :
    Step s (.block lines) ({ s.1 with examples := s.1.examples ++ [dedent lines] }, .nothing)
  | directive {s : Docstring × Continued} {line text : Text}
    (kind : kindOf line = .directive text) : Step s (.line line) (addDirective s.1 text)
  | field {s s' : Docstring × Continued} {line body : Text} {field : Option Field}
    {arg : Option Text} (kind : kindOf line = .field field arg body)
    (step : FieldStep s.1 (trim body) field arg s') : Step s (.line line) s'
  | blank {s : Docstring × Continued} {line : Text} (kind : kindOf line = .plain)
    (blank : isBlank line) : Step s (.line line) s
  | deeper {s : Docstring × Continued} {line : Text} (kind : kindOf line = .plain)
    (visible : ¬ isBlank line) (deeper : 0 < indentWidth line) :
    Step s (.line line) (addContinuation s.1 s.2 (trim line), s.2)
  | prose {s : Docstring × Continued} {line description : Text} (kind : kindOf line = .plain)
    (visible : ¬ isBlank line) (atMargin : ¬ 0 < indentWidth line)
    (said : ¬ isBlank description) :
    Step s (.line line) ({ s.1 with description := some description }, .nothing)

theorem step_addPiece (s : Docstring × Continued) (piece : Piece) :
    Step s piece (addPiece s piece) := by
  cases piece with
  | block lines => exact .block
  | line line =>
    rw [addPiece, addLine]
    cases lead : after? ".. " (trim line) with
    | some text => exact .directive (by simp only [kindOf, lead])
    | none =>
      cases field : Entry.field? (trim line) with
      | some parts =>
        exact .field (by simp only [kindOf, lead, field]) (fieldStep_addField s.1 _ _ _)
      | none =>
        have kind : kindOf line = .plain := by simp only [kindOf, lead, field]
        simp only [List.isEmpty_iff, trim_eq_nil_iff]
        by_cases blank : isBlank line
        · rw [if_pos blank]
          exact .blank kind blank
        · rw [if_neg blank]
          by_cases deeper : 0 < indentWidth line
          · rw [if_pos deeper]
            exact .deeper kind blank deeper
          · rw [if_neg deeper]
            refine .prose kind blank deeper ?_
            have visible : ¬ isBlank (trim line) := by rwa [isBlank_trim]
            split
            · rw [isBlank_append, Bool.and_eq_true]
              exact fun both => visible both.2
            · exact visible

section Names

variable {name : Text} {f : Parameter → Parameter}

theorem map_name_updateParameter (kept : ∀ p, (f p).name = p.name) (ps : List Parameter) :
    (updateParameter name f ps).map (·.name) = withName name (ps.map (·.name)) := by
  induction ps with
  | nil => simp [updateParameter, withName, kept]
  | cons p ps ih =>
    rw [updateParameter, List.map_cons]
    by_cases here : p.name = name
    · rw [if_pos here, List.map_cons, kept, here, withName_cons_self]
    · rw [if_neg here, List.map_cons, ih, withName_cons_of_ne here]

def names (doc : Docstring) : List Text := doc.parameters.map (·.name)

theorem names_onParameter (name : Text) (kept : ∀ p, (f p).name = p.name) (doc : Docstring) :
    names (onParameter doc name f) = withName name (names doc) :=
  map_name_updateParameter kept doc.parameters

/-- The parameter that a piece is a field of. -/
def mentioned? : Piece → Option Text
  | .block _ => none
  | .line line =>
    match kindOf line with
    | .field field arg _ => mentionedBy? field arg
    | _ => none

/-- What is continued is a parameter that is there. -/
def IsKnown (s : Docstring × Continued) : Prop := ∀ n, s.2 = .parameter n → n ∈ names s.1

theorem names_fieldStep {doc : Docstring} {field : Option Field} {arg : Option Text} {body : Text}
    {s : Docstring × Continued} (step : FieldStep doc body field arg s) :
    names s.1 = (mentionedBy? field arg).elim (names doc) (withName · (names doc)) ∧
      IsKnown s := by
  cases step with
  | @parameter arg =>
    have added := names_onParameter (splitArgument arg).2 (f := fun p =>
      { p with type := p.type.or (splitArgument arg).1 }.describe body) (fun _ => rfl) doc
    have there : (splitArgument arg).2 ∈ withName (splitArgument arg).2 (names doc) :=
      mem_withName.mpr (.inl rfl)
    rw [← added] at there
    refine ⟨added, fun n same => ?_⟩
    rw [← Continued.parameter.inj same]
    exact there
  | @parameterType name =>
    have added := names_onParameter name (f := fun p =>
      { p with type := (nonEmpty? body).or p.type }) (fun _ => rfl) doc
    exact ⟨added, nofun⟩
  | returns => exact ⟨rfl, nofun⟩
  | returnsType => exact ⟨rfl, nofun⟩
  | raise => exact ⟨rfl, nofun⟩
  | ignored unnamed =>
    rw [unnamed]
    exact ⟨rfl, nofun⟩

theorem names_addDirective (doc : Docstring) (directive : Text) :
    names (addDirective doc directive).1 = names doc ∧ IsKnown (addDirective doc directive) := by
  rw [addDirective]
  split
  · exact ⟨rfl, nofun⟩
  · exact ⟨rfl, nofun⟩

theorem names_addContinuation {s : Docstring × Continued} (known : IsKnown s) (text : Text) :
    names (addContinuation s.1 s.2 text) = names s.1 := by
  obtain ⟨doc, target⟩ := s
  cases target with
  | parameter n =>
    have added := names_onParameter n (f := (·.describe text)) (fun _ => rfl) doc
    rw [withName_of_mem (known n rfl)] at added
    exact added
  | nothing => rfl
  | returns => rfl
  | raise => rfl
  | note => rfl

/-- A piece adds at most the parameter that it mentions. -/
theorem names_step {s s' : Docstring × Continued} {piece : Piece} (step : Step s piece s')
    (known : IsKnown s) :
    names s'.1 = (mentioned? piece).elim (names s.1) (withName · (names s.1)) ∧ IsKnown s' := by
  cases step with
  | block => exact ⟨rfl, nofun⟩
  | directive kind =>
    simp only [mentioned?, kind]
    exact names_addDirective s.1 _
  | field kind step =>
    simp only [mentioned?, kind]
    exact names_fieldStep step
  | blank kind =>
    simp only [mentioned?, kind]
    exact ⟨rfl, known⟩
  | @deeper line kind =>
    simp only [mentioned?, kind]
    have same := names_addContinuation known (trim line)
    exact ⟨same, fun n target => same ▸ known n target⟩
  | prose kind =>
    simp only [mentioned?, kind]
    exact ⟨rfl, nofun⟩

/-- The parameters are the ones that are mentioned, in the order of their first mention. -/
theorem names_foldl_addPiece {s : Docstring × Continued} (known : IsKnown s) (ps : List Piece) :
    names (ps.foldl addPiece s).1 =
      (ps.filterMap mentioned?).foldl (fun seen name => withName name seen) (names s.1) := by
  induction ps generalizing s with
  | nil => rfl
  | cons piece ps ih =>
    obtain ⟨here, known'⟩ := names_step (step_addPiece s piece) known
    rw [List.foldl_cons, ih known', here, List.filterMap_cons]
    cases mentioned? piece with
    | none => rfl
    | some name => rfl

theorem parse_eq_foldl (lines : List Text) :
    parse lines = ((pieces (withProse opensEntry lines).2).foldl addPiece
      ((withProse opensEntry lines).1, .nothing)).1 :=
  addLines_eq_foldl _ _ _

theorem names_parse (lines : List Text) :
    names (parse lines) =
      ((pieces (withProse opensEntry lines).2).filterMap mentioned?).eraseDups := by
  have known : IsKnown ((withProse opensEntry lines).1, .nothing) :=
    fun _ same => Continued.noConfusion same
  rw [parse_eq_foldl, names_foldl_addPiece known, ← foldl_withName_nil]
  rfl

end Names

end SymbolDocs.FieldList
