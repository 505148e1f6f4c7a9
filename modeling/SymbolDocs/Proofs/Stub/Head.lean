import SymbolDocs.Proofs.Stub.Definition
import SymbolDocs.Proofs.Text.CharSets
import SymbolDocs.Proofs.Text.LineEnds

namespace SymbolDocs

open Text

/-- Whether the name of a definition goes on with a character. -/
def DefinitionKind.goesOn (kind : DefinitionKind) (c : Char) : Bool :=
  match kind with
  | type => isClassNameChar c
  | _ => !(c == '(' || c == '[' || c == ':' || c == ' ')

/-- The name that stands at the start of a text. -/
def DefinitionKind.nameIn? (kind : DefinitionKind) (s : Text) : Option Text :=
  nonEmpty? (trim (s.takeWhile kind.goesOn))

theorem DefinitionKind.goesOn_not (kind : DefinitionKind) :
    ¬ kind.goesOn ' ' ∧ ¬ kind.goesOn ':' := by
  cases kind <;> decide

theorem DefinitionKind.lead_plain (kind : DefinitionKind) :
    ¬ ("  " : Text) <:+: kind.lead ∧ ':' ∉ kind.lead ∧ '.' ∉ kind.lead := by
  rw [← occursIn_iff_isInfix]
  cases kind <;> decide

namespace Signature

theorem not_isBlankChar_of_isClassNameChar {c : Char} (letter : isClassNameChar c) :
    ¬ isBlankChar c := fun blank =>
  not_of_isBlankChar (p := isClassNameChar) (by decide +kernel) blank letter

theorem openedFunction?_eq_nameIn? {kind : DefinitionKind} (function : kind ≠ .type) (s : Text) :
    openedFunction? (kind.lead ++ s) = kind.nameIn? s := by
  rw [openedFunction?, after?_lead function]
  cases kind with
  | type => exact absurd rfl function
  | _ => rfl

theorem openedClass?_eq_nameIn? (s : Text) :
    openedClass? (DefinitionKind.type.lead ++ s) = DefinitionKind.type.nameIn? s := by
  have lead : after? "class " (DefinitionKind.type.lead ++ s) = some s := after?_append _ s
  have trimmed : trim (s.takeWhile isClassNameChar) = s.takeWhile isClassNameChar := by
    by_cases empty : s.takeWhile isClassNameChar = []
    · rw [empty]
      rfl
    · exact trim_eq_self_of_isWord ⟨empty, fun c mem =>
        not_isBlankChar_of_isClassNameChar (List.mem_takeWhile_imp mem)⟩
  rw [openedClass?, lead]
  exact congrArg nonEmpty? trimmed.symm

theorem openedName?_lead_append (kind : DefinitionKind) (s : Text) :
    openedName? (kind.lead ++ s) = kind.nameIn? s := by
  by_cases type : kind = .type
  · have other : openedFunction? (DefinitionKind.type.lead ++ s) = none := by
      simp [openedFunction?, DefinitionKind.lead, DefinitionKind.keyword, after?]
    rw [type, openedName?, other, openedClass?_eq_nameIn?]
    rfl
  · have other : openedClass? (kind.lead ++ s) = none := by
      cases kind with
      | type => exact absurd rfl type
      | _ => simp [openedClass?, DefinitionKind.lead, DefinitionKind.keyword, after?]
    rw [openedName?, other, openedFunction?_eq_nameIn? type, Option.or_none]

theorem exists_lead_append {line name : Text} (named : openedName? line = some name) :
    ∃ (kind : DefinitionKind) (s : Text), line = kind.lead ++ s := by
  rcases exists_eq_of_openedName? named with ⟨s, eq⟩ | ⟨s, eq⟩ | ⟨s, eq⟩
  · exact ⟨.coroutine, s, eq⟩
  · exact ⟨.function, s, eq⟩
  · exact ⟨.type, s, eq⟩

theorem openedName?_ne_nil {line name : Text} (named : openedName? line = some name) :
    name ≠ [] := by
  obtain ⟨kind, s, rfl⟩ := exists_lead_append named
  rw [openedName?_lead_append, DefinitionKind.nameIn?, nonEmpty?_eq_some_iff] at named
  exact named.2 ▸ named.1

/-- What a line that defines a name starts with, up to the end of the name. What follows is not
needed to read the name, and nothing that is left out of a header reaches into it. -/
structure IsHead (name line head : Text) : Prop where
  starts : head <+: line
  names : ∀ s, head <+: s → s <+: line → openedName? s = some name
  whole : trimEnd head = head
  unspaced : ¬ ("  " : Text) <:+: head
  uncolonned : ':' ∉ head
  undotted : '.' ∉ name → '.' ∉ head

variable {kind : DefinitionKind} {name s : Text}

theorem goesOn_of_mem {c : Char} (mem : c ∈ trimEnd (s.takeWhile kind.goesOn)) : kind.goesOn c :=
  List.mem_takeWhile_imp ((prefix_trimEnd _).subset mem)

theorem nameIn?_of_prefix {more : Text}
    (inside : trimEnd (s.takeWhile kind.goesOn) ++ more <+: s) :
    kind.nameIn? (trimEnd (s.takeWhile kind.goesOn) ++ more) = kind.nameIn? s := by
  have goesOn : ∀ c ∈ trimEnd (s.takeWhile kind.goesOn), kind.goesOn c := fun _ => goesOn_of_mem
  obtain ⟨gap, blank, split⟩ := exists_eq_trimEnd_append (s.takeWhile kind.goesOn)
  -- what is read behind the name is a part of the white space that is there in the whole text
  have rest : isBlank (more.takeWhile kind.goesOn) := by
    have cut := takeWhile_prefix_takeWhile (p := kind.goesOn) inside
    rw [List.takeWhile_append_of_pos goesOn, split, trimEnd_append_of_isBlank _ blank,
      trimEnd_trimEnd, List.prefix_append_right_inj] at cut
    exact List.all_eq_true.mpr fun c mem => List.all_eq_true.mp blank c (cut.subset mem)
  rw [DefinitionKind.nameIn?, List.takeWhile_append_of_pos goesOn, trim_append _ rest, trim_trimEnd]
  rfl

theorem isHead_lead_append (named : kind.nameIn? s = some name) :
    IsHead name (kind.lead ++ s) (kind.lead ++ trimEnd (s.takeWhile kind.goesOn)) := by
  obtain ⟨noSpace, noColon⟩ := kind.goesOn_not
  obtain ⟨unspaced, uncolonned, undotted⟩ := kind.lead_plain
  obtain ⟨some, isName⟩ := nonEmpty?_eq_some_iff.mp named
  constructor
  case starts =>
    exact (List.prefix_append_right_inj _).mpr
      ((prefix_trimEnd _).trans (List.takeWhile_prefix _))
  case names =>
    rintro - ⟨more, rfl⟩ inside
    rw [List.append_assoc, List.prefix_append_right_inj] at inside
    rw [List.append_assoc, openedName?_lead_append, nameIn?_of_prefix inside, named]
  case whole =>
    have visible : ¬ isBlank (trimEnd (s.takeWhile kind.goesOn)) := by
      rw [isBlank_trimEnd]
      exact fun blank => some (trim_eq_nil_iff.mpr blank)
    rw [trimEnd_append _ visible, trimEnd_trimEnd]
  case unspaced =>
    intro (spaces : [' '] ++ [' '] <:+: _)
    exact unspaced (infix_of_infix_append (fun mem => noSpace (goesOn_of_mem mem)) spaces)
  case uncolonned =>
    intro mem
    rcases List.mem_append.mp mem with here | here
    · exact uncolonned here
    · exact noColon (goesOn_of_mem here)
  case undotted =>
    intro none mem
    rcases List.mem_append.mp mem with here | here
    · exact undotted here
    · exact none (isName ▸ mem_trim ((prefix_trimEnd _).subset here) (by decide))

theorem exists_isHead {line : Text} (named : openedName? line = some name) :
    ∃ head, IsHead name line head := by
  obtain ⟨kind, s, rfl⟩ := exists_lead_append named
  rw [openedName?_lead_append] at named
  exact ⟨_, isHead_lead_append named⟩

/-- The end of a text and white space in front of it are cut off behind a head. -/
theorem stays_of_cut {head lead rest : Text} (whole : trimEnd head = head)
    (starts : head <+: lead ++ rest) (inside : lead <+: head → head = lead) :
    head <+: trimEnd lead := by
  rcases List.prefix_or_prefix_of_prefix starts (List.prefix_append lead rest) with before | reaches
  · exact whole ▸ trimEnd_prefix_trimEnd before
  · exact inside reaches ▸ whole.symm ▸ List.prefix_rfl

theorem stays_withoutComment {head : Text} (whole : trimEnd head = head)
    (unspaced : ¬ ("  " : Text) <:+: head) (starts : head <+: s) : head <+: withoutComment s := by
  rw [withoutComment]
  split
  · next code comment cut =>
    have eq : s = code ++ ' ' :: ' ' :: '#' :: comment := (eq_of_cutAt?_eq_some cut).1
    rw [eq] at starts
    refine stays_of_cut whole starts ?_
    rintro ⟨more, rfl⟩
    rw [List.prefix_append_right_inj] at starts
    -- a head that reaches into the sign of the comment ends in a space, or has two
    rcases more with _ | ⟨c, _ | ⟨d, more⟩⟩
    · exact List.append_nil code
    · have space : c = ' ' := (List.cons_prefix_cons.mp starts).1
      have last : (trimEnd (code ++ [c])).getLast? = some c := by
        rw [whole, List.getLast?_concat]
      exact absurd (by rw [space]; decide) (not_isBlankChar_of_getLast?_trimEnd last)
    · obtain ⟨first, starts⟩ := List.cons_prefix_cons.mp starts
      have second := (List.cons_prefix_cons.mp starts).1
      have spaces : code ++ [' ', ' '] ++ more = code ++ c :: d :: more := by
        rw [first, second]
        simp
      exact absurd ⟨code, more, spaces⟩ unspaced
  · exact whole ▸ trimEnd_prefix_trimEnd starts

theorem stays_dropEnding {head ending : Text} (whole : trimEnd head = head)
    (absent : ∀ c ∈ ending, c ∉ head) (starts : head <+: s) : head <+: dropEnding ending s := by
  rw [dropEnding]
  cases found : before? ending s with
  | none => exact starts
  | some lead =>
    rw [before?_eq_some_iff.mp found] at starts
    refine stays_of_cut whole starts ?_
    rintro ⟨more, rfl⟩
    rw [List.prefix_append_right_inj] at starts
    cases more with
    | nil => exact List.append_nil lead
    | cons c more =>
      exact absurd (by simp) (absent c (starts.subset List.mem_cons_self))

theorem prefix_withoutComment (s : Text) : withoutComment s <+: s := by
  rw [withoutComment]
  split
  · next code comment cut =>
    have eq := (eq_of_cutAt?_eq_some cut).1
    exact (prefix_trimEnd code).trans ⟨_, eq.symm⟩
  · exact prefix_trimEnd s

theorem prefix_dropEnding (ending s : Text) : dropEnding ending s <+: s := by
  rw [dropEnding]
  cases found : before? ending s with
  | none => exact List.prefix_rfl
  | some lead => exact (prefix_trimEnd lead).trans ⟨_, (before?_eq_some_iff.mp found).symm⟩

theorem prefix_clean (s : Text) : clean s <+: s :=
  (prefix_dropEnding _ _).trans <| (prefix_dropEnding _ _).trans <|
    (prefix_withoutComment _).trans (prefix_trimEnd s)

/-- Cleaning does not cut into the head of a definition. -/
theorem IsHead.stays_clean {line head : Text} (isHead : IsHead name line head)
    (dotless : '.' ∉ name) (starts : head <+: s) : head <+: clean s := by
  have code : head <+: withoutComment (trimEnd s) :=
    stays_withoutComment isHead.whole isHead.unspaced
      (isHead.whole ▸ trimEnd_prefix_trimEnd starts)
  have noDots : ∀ c ∈ ("..." : Text), c ∉ head := by
    simpa using isHead.undotted dotless
  have noColon : ∀ c ∈ (":" : Text), c ∉ head := by
    simpa using isHead.uncolonned
  exact stays_dropEnding isHead.whole noColon (stays_dropEnding isHead.whole noDots code)

end Signature
end SymbolDocs
