import Mathlib.Tactic.MkIffOfInductiveProp
import SymbolDocs.Proofs.Docstring.Entries
import SymbolDocs.Proofs.Docstring.EntryLine
import SymbolDocs.Proofs.Docstring.References

namespace SymbolDocs

open Text

namespace Docstring

/-- The text is visible if there is one. -/
def IsFilled (slot : Option Text) : Prop := ∀ s ∈ slot, ¬ isBlank s

/-- No text about the function or about one of its entries is blank, and no example is. -/
@[mk_iff]
structure HasTexts (doc : Docstring) : Prop where
  summary : IsFilled doc.summary
  description : IsFilled doc.description
  parameters : ∀ p ∈ doc.parameters, IsFilled p.description
  returns : ∀ r ∈ doc.returns, IsFilled r.description
  raises : ∀ r ∈ doc.raises, IsFilled r.description
  examples : ∀ e ∈ doc.examples, ¬ isBlank e

/-- Nothing in the docstring is hollow: parameters have names, errors have types, and whatever text
there is can be seen. -/
@[mk_iff]
structure IsSolid (doc : Docstring) : Prop extends HasTexts doc where
  names : ∀ p ∈ doc.parameters, ¬ isBlank p.name
  types : ∀ r ∈ doc.raises, ¬ isBlank r.type
  notes : ∀ n ∈ doc.notes, ¬ isBlank n

theorem isFilled_none : IsFilled none := nofun

theorem isFilled_some {s : Text} (visible : ¬ isBlank s) : IsFilled (some s) := by
  rintro _ ⟨⟩
  exact visible

theorem isFilled_map_toMarkdown {slot : Option Text} :
    IsFilled (slot.map Reference.toMarkdown) ↔ IsFilled slot := by
  cases slot with
  | none => exact Iff.rfl
  | some s => simp [IsFilled, Reference.isBlank_toMarkdown]

/-- The value is described by a visible text, if there is a text about it. -/
theorem HasTexts.isFilled_returns {doc : Docstring} (texts : doc.HasTexts) :
    IsFilled (doc.returns.getD {}).description := by
  cases known : doc.returns with
  | none => exact isFilled_none
  | some returns => exact texts.returns returns known

/-- Links change nothing about that. -/
theorem isSolid_withMarkdown {doc : Docstring} : doc.withMarkdown.IsSolid ↔ doc.IsSolid := by
  have returns : (∀ r ∈ doc.withMarkdown.returns, IsFilled r.description) ↔
      ∀ r ∈ doc.returns, IsFilled r.description := by
    cases known : doc.returns with
    | none => simp [withMarkdown, known]
    | some r => simp [withMarkdown, known, isFilled_map_toMarkdown]
  rw [isSolid_iff, isSolid_iff, hasTexts_iff, hasTexts_iff, returns]
  simp only [withMarkdown, List.forall_mem_map, isFilled_map_toMarkdown,
    Reference.isBlank_toMarkdown]

theorem isFilled_extendedBy {slot : Option Text} (filled : IsFilled slot) (text : Text) :
    IsFilled (extendedBy slot text) := by
  unfold extendedBy
  dsimp only
  split
  · exact filled
  · next said =>
    have visible : ¬ isBlank (trim text) := by
      rw [isBlank_trim, ← trim_eq_nil_iff, ← List.isEmpty_iff]
      exact said
    split
    · refine isFilled_some fun blank => visible ?_
      rw [isBlank_append, Bool.and_eq_true] at blank
      exact blank.2
    · exact isFilled_some visible

theorem forall_mem_modify {α : Type} {P : α → Prop} {f : α → α} {l : List α}
    (all : ∀ x ∈ l, P x) (kept : ∀ x, P x → P (f x)) (i : Nat) : ∀ x ∈ l.modify i f, P x := by
  intro x mem
  obtain ⟨j, here⟩ := List.mem_iff_getElem?.mp mem
  rw [List.getElem?_modify] at here
  obtain ⟨y, there, rfl⟩ := Option.map_eq_some_iff.mp here
  have before := all y (List.mem_of_getElem? there)
  split
  · exact kept y before
  · exact before

theorem not_stop_of_mem_spanUntil {stop : List Text → Bool} {lines : List Text} {line : Text}
    (mem : line ∈ (spanUntil stop lines).1) : ∃ rest, ¬ stop (line :: rest) := by
  induction lines with
  | nil => exact absurd mem List.not_mem_nil
  | cons first lines ih =>
    rw [spanUntil] at mem
    split at mem
    · exact absurd mem List.not_mem_nil
    · next passes =>
      rcases List.mem_cons.mp mem with rfl | later
      · exact ⟨lines, passes⟩
      · exact ih later

theorem isFilled_paragraphText? (lines : List Text) : IsFilled (paragraphText? lines) :=
  fun _ some => not_isBlank_of_paragraphText? some

theorem isFilled_nonEmpty? {s : Text} (visible : s ≠ [] → ¬ isBlank s) :
    IsFilled (nonEmpty? s) := by
  intro t some
  obtain ⟨ne, rfl⟩ := nonEmpty?_eq_some_iff.mp some
  exact visible ne

/-- The summary is put together from lines that are not blank. -/
theorem isFilled_summary (isHeader : List Text → Bool) (lines : List Text) :
    IsFilled (splitProse isHeader lines).1 := by
  refine isFilled_nonEmpty? fun ne => ?_
  obtain ⟨t, mem⟩ : ∃ t, t ∈ (((spanUntil (fun rest => rest.head?.any isBlank || isHeader rest)
      (lines.dropWhile isBlank)).1.filter (!isTitleRule ·)).map trim) := by
    refine List.exists_mem_of_ne_nil _ fun none => ne ?_
    rw [none]
    rfl
  obtain ⟨line, inside, rfl⟩ := List.mem_map.mp mem
  obtain ⟨rest, passes⟩ := not_stop_of_mem_spanUntil (List.mem_filter.mp inside).1
  refine not_isBlank_joinWith mem ?_
  rw [isBlank_trim]
  exact fun blank => passes (by simp [blank])

theorem isSolid_withProse (isHeader : List Text → Bool) (lines : List Text) :
    (withProse isHeader lines).1.IsSolid :=
  { summary := isFilled_summary isHeader lines
    description := isFilled_paragraphText? _
    parameters := nofun
    returns := nofun
    raises := nofun
    examples := nofun
    names := nofun
    types := nofun
    notes := nofun }

theorem isFilled_dedent (body : List Text) : IsFilled (nonEmpty? (dedent body)) :=
  isFilled_nonEmpty? not_isBlank_dedent_of_ne_nil

theorem forall_mem_concat {α : Type} {P : α → Prop} {l : List α} {x : α} (all : ∀ y ∈ l, P y)
    (last : P x) : ∀ y ∈ l ++ [x], P y := by
  intro y mem
  rcases List.mem_append.mp mem with before | here
  · exact all y before
  · rw [List.mem_singleton.mp here]
    exact last

namespace IsSolid

variable {doc : Docstring}

theorem addParameter (solid : doc.IsSolid) {p : Parameter} (named : ¬ isBlank p.name)
    (filled : IsFilled p.description) :
    IsSolid { doc with parameters := doc.parameters ++ [p] } :=
  { solid with
    parameters := forall_mem_concat solid.parameters filled
    names := forall_mem_concat solid.names named }

theorem addRaise (solid : doc.IsSolid) {r : Raise} (typed : ¬ isBlank r.type)
    (filled : IsFilled r.description) : IsSolid { doc with raises := doc.raises ++ [r] } :=
  { solid with
    raises := forall_mem_concat solid.raises filled
    types := forall_mem_concat solid.types typed }

theorem withReturns (solid : doc.IsSolid) {returns : Returns}
    (filled : IsFilled returns.description) :
    IsSolid { doc with returns := if returns == {} then none else some returns } := by
  refine { solid with returns := fun r mem => ?_ }
  split at mem
  · cases mem
  · rw [← Option.some.inj mem]
    exact filled

theorem addExample (solid : doc.IsSolid) (body : List Text) : (doc.addExample body).IsSolid := by
  refine { solid with examples := fun e mem => ?_ }
  rcases List.mem_append.mp mem with before | here
  · exact solid.examples e before
  · exact isFilled_dedent body e (Option.mem_toList.mp here)

theorem addNote (solid : doc.IsSolid) {note : Text} (visible : ¬ isBlank note) :
    (doc.addNote note).IsSolid :=
  { solid with notes := forall_mem_concat solid.notes visible }

theorem describeLastParameter (solid : doc.IsSolid) (text : Text) :
    (doc.describeLastParameter text).IsSolid :=
  { solid with
    parameters := forall_mem_modify solid.parameters
      (fun _ filled => isFilled_extendedBy filled text) _
    names := forall_mem_modify (f := fun p : Parameter => p.describe text) solid.names
      (fun _ named => named) _ }

theorem describeLastRaise (solid : doc.IsSolid) (text : Text) :
    (doc.describeLastRaise text).IsSolid :=
  { solid with
    raises := forall_mem_modify solid.raises
      (fun _ filled => isFilled_extendedBy filled text) _
    types := forall_mem_modify (f := fun r : Raise => r.describe text) solid.types
      (fun _ typed => typed) _ }

end IsSolid

end Docstring

namespace Entry

theorem not_isBlank_of_startsName {c : Char} {s : Text} (mem : c ∈ s) (starts : startsName c) :
    ¬ isBlank s :=
  not_isBlank_of_mem mem fun blank =>
    not_isWordChar_of_isBlankChar blank (isWordChar_of_startsName starts)

theorem leadingStars_append_eq (s : Text) : (leadingStars s).1 ++ (leadingStars s).2 = s := by
  rw [leadingStars.eq_def]
  split
  · rfl
  · rfl
  · rfl

/-- A name stands at the start, and there is a letter in it. -/
theorem name?_eq_some {inName : Char → Bool} {s name rest : Text}
    (found : name? inName s = some (name, rest)) : s = name ++ rest ∧ ¬ isBlank name := by
  have parts := leadingStars_append_eq s
  rw [name?] at found
  split at found
  · next stars c behind lead =>
    rw [lead] at parts
    split at found
    · next starts =>
      rw [List.span_eq_takeWhile_dropWhile] at found
      obtain ⟨rfl, rfl⟩ := Prod.mk.inj (Option.some.inj found)
      refine ⟨?_, not_isBlank_of_startsName (List.mem_append_right stars List.mem_cons_self) starts⟩
      rw [List.append_assoc, List.cons_append, List.takeWhile_append_dropWhile]
      exact parts.symm
    · cases found
  · cases found

theorem not_isBlank_of_namesAndType? {s names type : Text}
    (found : namesAndType? s = some (names, type)) : ¬ isBlank names := by
  obtain ⟨⟨before, behind⟩, _, found⟩ := Option.bind_eq_some_iff.mp found
  dsimp only at found
  split at found
  · next named =>
    obtain ⟨rfl, _⟩ := Prod.mk.inj (Option.some.inj found)
    obtain ⟨eq, visible⟩ := name?_eq_some named
    rw [eq, List.append_nil]
    exact visible
  · cases found

theorem not_isBlank_of_nameTypeText? {s name text : Text} {type : Option Text}
    (found : nameTypeText? s = some (name, type, text)) : ¬ isBlank name := by
  obtain ⟨⟨name', rest⟩, named, found⟩ := Option.bind_eq_some_iff.mp found
  have visible := (name?_eq_some named).2
  dsimp only at found
  split at found
  · obtain ⟨⟨typed, behind⟩, _, found⟩ := Option.bind_eq_some_iff.mp found
    dsimp only at found
    split at found
    · rw [← (Prod.mk.inj (Option.some.inj found)).1]
      exact visible
    · cases found
  · rw [← (Prod.mk.inj (Option.some.inj found)).1]
    exact visible
  · cases found

theorem not_isBlank_of_dottedNameText? {s name text : Text}
    (found : dottedNameText? s = some (name, text)) : ¬ isBlank name := by
  unfold dottedNameText? at found
  split at found
  · next c rest =>
    split at found
    · next starts =>
      dsimp only at found
      split at found
      · obtain ⟨rfl, _⟩ := Prod.mk.inj (Option.some.inj found)
        exact not_isBlank_of_startsName List.mem_cons_self starts
      · cases found
    · cases found
  · cases found

end Entry

namespace NumPy

open Docstring

variable {doc : Docstring}

theorem isSolid_addParameterLine (solid : doc.IsSolid) (base : Nat) {line : Text}
    (visible : ¬ isBlank line) : (addParameterLine base doc line).IsSolid := by
  unfold addParameterLine
  dsimp only
  split
  · next p entry =>
    have named : ¬ isBlank p.name ∧ p.description = none := by
      split at entry
      · split at entry
        · next names type found =>
          obtain rfl := Option.some.inj entry
          exact ⟨Entry.not_isBlank_of_namesAndType? found, rfl⟩
        · split at entry
          · obtain rfl := Option.some.inj entry
            exact ⟨by rw [isBlank_trim]; exact visible, rfl⟩
          · cases entry
      · cases entry
    exact solid.addParameter named.1 (named.2 ▸ isFilled_none)
  · exact solid.describeLastParameter _

theorem isFilled_addReturnsLine {returns : Returns} (filled : IsFilled returns.description)
    (line : Text) : IsFilled (addReturnsLine returns line).description := by
  unfold addReturnsLine
  dsimp only
  split
  · exact isFilled_extendedBy filled _
  · split
    · exact filled
    · exact filled

theorem isSolid_addRaisesLine (solid : doc.IsSolid) (base : Nat) {line : Text}
    (visible : ¬ isBlank line) : (addRaisesLine base doc line).IsSolid := by
  unfold addRaisesLine
  dsimp only
  split
  · refine solid.addRaise ?_ isFilled_none
    rw [isBlank_trim]
    exact visible
  · exact solid.describeLastRaise _

theorem isSolid_addSection (solid : doc.IsSolid) (sec : Section × List Text) :
    (addSection doc sec).IsSolid := by
  obtain ⟨kind, body⟩ := sec
  have visible : ∀ line ∈ body.filter (!isBlank ·), ¬ isBlank line := by simp
  cases kind with
  | parameters =>
    exact List.foldlRecOn _ _ solid fun doc solid line mem =>
      isSolid_addParameterLine solid _ (visible line mem)
  | returns =>
    have read : IsFilled ((body.filter (!isBlank ·)).foldl addReturnsLine
        (doc.returns.getD {})).description :=
      List.foldlRecOn (motive := fun r : Returns => IsFilled r.description) _ _
        solid.isFilled_returns
        fun returns filled line _ => isFilled_addReturnsLine filled line
    exact solid.withReturns read
  | raises =>
    exact List.foldlRecOn _ _ solid fun doc solid line mem =>
      isSolid_addRaisesLine solid _ (visible line mem)
  | examples => exact solid.addExample body
  | notes =>
    rw [addSection]
    cases known : paragraphText? body with
    | none => exact solid
    | some text => exact solid.addNote (not_isBlank_of_paragraphText? known)
  | seeAlso =>
    rw [addSection]
    split
    · exact solid
    · exact solid.addNote (not_isBlank_cons (by decide) _)
  | ignored => exact solid

/-- Nothing hollow comes out of this style. -/
theorem isSolid_parse (lines : List Text) : (parse lines).IsSolid :=
  List.foldlRecOn _ _ (isSolid_withProse opensSection lines) fun _ solid sec _ =>
    isSolid_addSection solid sec

end NumPy

namespace Google

open Docstring

variable {doc : Docstring}

theorem isSolid_addArgLine (solid : doc.IsSolid) (base : Nat) (line : Text) :
    (addArgLine base doc line).IsSolid := by
  unfold addArgLine
  dsimp only
  split
  · next name type first entry =>
    split at entry
    · exact solid.addParameter (Entry.not_isBlank_of_nameTypeText? entry)
        (isFilled_extendedBy isFilled_none first)
    · cases entry
  · exact solid.describeLastParameter _

theorem isFilled_addReturns {returns : Returns} (filled : IsFilled returns.description)
    (lines : List Text) : IsFilled (addReturns returns lines).description := by
  have more : ∀ (lines : List Text) (returns : Returns), IsFilled returns.description →
      IsFilled (lines.foldl Returns.describe returns).description := fun lines returns filled =>
    List.foldlRecOn (motive := fun r : Returns => IsFilled r.description) _ _ filled
      fun r filled line _ => isFilled_extendedBy filled line
  cases lines with
  | nil => exact filled
  | cons first lines =>
    rw [addReturns]
    refine more lines _ ?_
    split
    · exact isFilled_extendedBy filled _
    · exact isFilled_extendedBy filled _

theorem isSolid_addRaisesLine (solid : doc.IsSolid) (base : Nat) (line : Text) :
    (addRaisesLine base doc line).IsSolid := by
  unfold addRaisesLine
  dsimp only
  split
  · next type first entry =>
    split at entry
    · exact solid.addRaise (Entry.not_isBlank_of_dottedNameText? entry)
        (isFilled_extendedBy isFilled_none first)
    · cases entry
  · exact solid.describeLastRaise _

theorem not_isBlank_noteText {text : Text} (visible : ¬ isBlank text) (title : Text) :
    ¬ isBlank (noteText title text) := by
  rw [noteText]
  split
  · exact visible
  · exact not_isBlank_of_mem (List.mem_append_right title List.mem_cons_self) (by decide)

theorem isSolid_addSection (solid : doc.IsSolid) (sec : Section × Text × List Text) :
    (addSection doc sec).IsSolid := by
  obtain ⟨kind, title, body⟩ := sec
  cases kind with
  | args =>
    exact List.foldlRecOn _ _ solid fun doc solid line _ => isSolid_addArgLine solid _ line
  | returns =>
    exact solid.withReturns (isFilled_addReturns solid.isFilled_returns _)
  | raises =>
    exact List.foldlRecOn _ _ solid fun doc solid line _ => isSolid_addRaisesLine solid _ line
  | examples => exact solid.addExample body
  | notes =>
    rw [addSection]
    cases known : paragraphText? (body.map trim) with
    | none => exact solid
    | some text =>
      exact solid.addNote (not_isBlank_noteText (not_isBlank_of_paragraphText? known) _)
  | ignored => exact solid

/-- Nothing hollow comes out of this style. -/
theorem isSolid_parse (lines : List Text) : (parse lines).IsSolid :=
  List.foldlRecOn _ _ (isSolid_withProse opensSection lines) fun _ solid sec _ =>
    isSolid_addSection solid sec

end Google

end SymbolDocs
