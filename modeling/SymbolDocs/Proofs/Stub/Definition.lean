import SymbolDocs.Proofs.Stub.Header
import SymbolDocs.Proofs.Text.Words

namespace SymbolDocs

open Text

/-- What a header defines, by the words that it begins with. -/
inductive DefinitionKind where
  | function
  | coroutine
  | type
  deriving DecidableEq, Repr

def DefinitionKind.keyword : DefinitionKind → String
  | function => "def "
  | coroutine => "async def "
  | type => "class "

def DefinitionKind.lead (kind : DefinitionKind) : Text := kind.keyword

def definesNothing (line : Text) : Bool :=
  !(startsWith (trim line) "def " || startsWith (trim line) "async def " ||
    startsWith (trim line) "class ")

/-- Characters of the names of classes, as the scan reads them. -/
def isClassNameChar (c : Char) : Bool := isAlphanumericChar c || c == '_'

/-- The header of a definition without comments. What defines is on the first line, with the name
and what stands behind it; the last line has its code and then the colon, perhaps with an empty
body. Further lines are indented no less than the first one and do not start like a definition. -/
structure StubHeader extends CommentedHeader where
  kind : DefinitionKind
  name : Text
  behindName : Text
  code : Text
  ending : Text
  begins : trim toCommentedHeader.first.text = kind.lead ++ (name ++ behindName)
  isName : IsWord name ∧ '(' ∉ name ∧ '[' ∉ name ∧ ':' ∉ name
  delimited : ∃ c s, behindName = c :: s ∧ c ∈ ['(', '[', ':', ' ']
  last_eq : last.code = code ++ ending
  isEnding : ending = [':'] ∨ ∃ gap, isBlank gap ∧ ending = ':' :: (gap ++ ['.', '.', '.'])
  whole : ¬ isBlank code ∧ trimEnd code = code
  plain : ∀ line ∈ toCommentedHeader.lines,
    isBlank line.trailer ∧ occursIn "  #" line.code = false
  deeper : ∀ line ∈ toCommentedHeader.lines.tail, ¬ isBlank line.code ∧
    toCommentedHeader.indent ≤ indentWidth line.text ∧ ¬ Signature.isDefinitionLine (trim line.text)

namespace Signature

theorem openedName?_eq_none {line : Text} (other : ¬ isDefinitionLine line) :
    openedName? line = none := by
  rw [← Option.not_isSome_iff_eq_none, Option.isSome_iff_exists]
  rintro ⟨name, named⟩
  exact other (begins_of_openedName? named).1

theorem openedName?_eq_none_of_definesNothing {line : Text} (nothing : definesNothing line) :
    openedName? (trim line) = none := by
  rw [definesNothing, Bool.not_eq_true', Bool.or_eq_false_iff, Bool.or_eq_false_iff] at nothing
  obtain ⟨⟨function, coroutine⟩, type⟩ := nothing
  have noFunction : openedFunction? (trim line) = none := by
    rw [openedFunction?, Option.isSome_eq_false_iff.mp coroutine |> Option.isNone_iff_eq_none.mp,
      Option.isSome_eq_false_iff.mp function |> Option.isNone_iff_eq_none.mp]
    rfl
  have noType : openedClass? (trim line) = none := by
    rw [openedClass?, Option.isSome_eq_false_iff.mp type |> Option.isNone_iff_eq_none.mp]
    rfl
  rw [openedName?, noFunction, noType]
  rfl

theorem openedClass?_eq_none {line : Text} (unnamed : openedName? line = none) :
    openedClass? line = none := (Option.or_eq_none_iff.mp unnamed).2

variable {name behind : Text} {c : Char} {s : Text}

theorem after?_lead {kind : DefinitionKind} (function : kind ≠ .type) (s : Text) :
    (after? "async def " (kind.lead ++ s)).or (after? "def " (kind.lead ++ s)) = some s := by
  cases kind with
  | function =>
    have other : after? "async def " (DefinitionKind.function.lead ++ s) = none := by
      simp [DefinitionKind.lead, DefinitionKind.keyword, after?]
    rw [other, Option.none_or]
    exact after?_append _ s
  | coroutine =>
    have lead : after? "async def " (DefinitionKind.coroutine.lead ++ s) = some s :=
      after?_append _ s
    rw [lead, Option.some_or]
  | type => exact absurd rfl function

theorem takeWhile_name (isName : IsWord name ∧ '(' ∉ name ∧ '[' ∉ name ∧ ':' ∉ name)
    (delimited : c ∈ ['(', '[', ':', ' ']) :
    (name ++ c :: s).takeWhile (fun c => !(c == '(' || c == '[' || c == ':' || c == ' ')) =
      name := by
  have stops : ¬ (!(c == '(' || c == '[' || c == ':' || c == ' ')) = true := by
    simp only [List.mem_cons, List.not_mem_nil, or_false] at delimited
    rcases delimited with rfl | rfl | rfl | rfl <;> decide
  have inside : ∀ d ∈ name, (!(d == '(' || d == '[' || d == ':' || d == ' ')) = true := by
    obtain ⟨word, noParenthesis, noBracket, noColon⟩ := isName
    have noSpace : ' ' ∉ name := fun mem => word.2 ' ' mem (by decide)
    intro d mem
    have ne {c : Char} (absent : c ∉ name) : d ≠ c := by
      rintro rfl
      exact absent mem
    simp [ne noParenthesis, ne noBracket, ne noColon, ne noSpace]
  have cut := takeWhile_append_cons
    (p := fun c => !(c == '(' || c == '[' || c == ':' || c == ' ')) stops name s
  exact cut.trans (List.takeWhile_eq_self_iff.mpr inside)

theorem openedFunction?_lead {kind : DefinitionKind} (function : kind ≠ .type)
    (isName : IsWord name ∧ '(' ∉ name ∧ '[' ∉ name ∧ ':' ∉ name)
    (delimited : c ∈ ['(', '[', ':', ' ']) :
    openedFunction? (kind.lead ++ (name ++ c :: s)) = some name := by
  have kept : nonEmpty? (trim name) = some name := by
    obtain ⟨start, stop⟩ := trim_of_isWord isName.1
    rw [trim, start, stop, nonEmpty?_eq_some isName.1.1]
  rw [openedFunction?, after?_lead function]
  exact (congrArg (fun n => nonEmpty? (trim n)) (takeWhile_name isName delimited)).trans kept

theorem openedClass?_lead (delimited : c ∈ ['(', '[', ':', ' ']) :
    openedClass? (DefinitionKind.type.lead ++ (name ++ c :: s)) =
      nonEmpty? (name.takeWhile isClassNameChar) := by
  have lead : after? "class " (DefinitionKind.type.lead ++ (name ++ c :: s)) =
      some (name ++ c :: s) := after?_append _ _
  have stops : ¬ isClassNameChar c := by
    simp only [List.mem_cons, List.not_mem_nil, or_false] at delimited
    rcases delimited with rfl | rfl | rfl | rfl <;> decide
  have read : (name ++ c :: s).takeWhile isClassNameChar = name.takeWhile isClassNameChar :=
    takeWhile_append_cons stops name s
  rw [openedClass?, lead, ← read]
  rfl

theorem dropEnding_append {s : Text} (whole : trimEnd s = s) (ending : Text) :
    dropEnding ending (s ++ ending) = s := by
  rw [dropEnding, before?_eq_some_iff.mpr rfl]
  exact whole

theorem dropEnding_eq_self {ending s : Text} (other : ¬ ending <:+ s) :
    dropEnding ending s = s := by
  have none : before? ending s = none := by
    rw [← endsWith_iff_suffix, endsWith, Bool.not_eq_true, Option.isSome_eq_false_iff,
      Option.isNone_iff_eq_none] at other
    exact other
  rw [dropEnding, none]
  rfl

theorem dropEnding_dropEnding {s ending : Text} (whole : trimEnd s = s)
    (isEnding : ending = [':'] ∨ ∃ gap, isBlank gap ∧ ending = ':' :: (gap ++ ['.', '.', '.'])) :
    dropEnding ":" (dropEnding "..." (s ++ ending)) = s := by
  rcases isEnding with rfl | ⟨gap, blank, rfl⟩
  · have other : ¬ ("..." : Text) <:+ s ++ [':'] := by
      intro ends
      have last := ends.getLast (by decide)
      rw [List.getLast_concat] at last
      exact absurd last (by decide)
    rw [dropEnding_eq_self other]
    exact dropEnding_append whole ":"
  · have body : dropEnding "..." (s ++ ':' :: (gap ++ ['.', '.', '.'])) = s ++ [':'] := by
      have regroup : s ++ ':' :: (gap ++ ['.', '.', '.']) =
          (s ++ [':'] ++ gap) ++ ("..." : Text) := by simp
      rw [regroup, dropEnding, before?_eq_some_iff.mpr rfl, Option.map_some, Option.getD_some,
        trimEnd_append_of_isBlank _ blank, trimEnd_concat s (by decide)]
    rw [body]
    exact dropEnding_append whole ":"

end Signature

namespace StubHeader

variable (h : StubHeader)

/-- The name by which the scan knows the definition. -/
def read? : Option Text :=
  if h.kind = .type then nonEmpty? (h.name.takeWhile isClassNameChar) else some h.name

theorem read?_of_all (letters : h.kind = .type → h.name.all isClassNameChar) :
    h.read? = some h.name := by
  rw [read?]
  split
  next type =>
    have all : h.name.takeWhile isClassNameChar = h.name :=
      List.takeWhile_eq_self_iff.mpr (List.all_eq_true.mp (letters type))
    rw [all, nonEmpty?_eq_some h.isName.1.1]
  next => rfl

theorem openedName?_first : Signature.openedName? (trim h.first.text) = h.read? := by
  obtain ⟨c, s, behind, delimiter⟩ := h.delimited
  rw [h.begins, behind, read?, Signature.openedName?]
  by_cases type : h.kind = .type
  · rw [if_pos type, type]
    exact Signature.openedClass?_lead delimiter
  · rw [if_neg type, Signature.openedFunction?_lead type h.isName delimiter]
    rfl

theorem openedClass?_first :
    Signature.openedClass? (trim h.first.text) = if h.kind = .type then h.read? else none := by
  obtain ⟨c, s, behind, delimiter⟩ := h.delimited
  rw [h.begins, behind, read?]
  cases h.kind with
  | function => rfl
  | coroutine => rfl
  | type => exact Signature.openedClass?_lead delimiter

theorem exists_trim_first : ∃ c s, trim h.first.text = c :: s ∧ c ≠ '#' := by
  rw [h.begins]
  cases h.kind <;> exact ⟨_, _, rfl, by decide⟩

theorem not_isBlank_first : ¬ isBlank h.first.text := by
  obtain ⟨c, s, starts, _⟩ := h.exists_trim_first
  exact not_isBlank_of_trim starts

theorem not_startsWith_hash_first : ¬ startsWith (trim h.first.text) "#" := by
  obtain ⟨c, s, starts, other⟩ := h.exists_trim_first
  rw [starts]
  simp [startsWith, after?, other.symm]

theorem not_isBlank_of_mem_init {line : CodeLine} (mem : line ∈ h.init) : ¬ isBlank line.text := by
  cases lines : h.init with
  | nil =>
    rw [lines] at mem
    exact absurd mem List.not_mem_nil
  | cons first more =>
    rw [lines] at mem
    rcases List.mem_cons.mp mem with rfl | later
    · rw [← CommentedHeader.first_of_cons lines]
      exact h.not_isBlank_first
    · have inTail : line ∈ h.lines.tail := by
        rw [CommentedHeader.lines, lines]
        exact List.mem_append_left _ later
      exact line.not_isBlank_text (h.deeper line inTail).1

/-- The definition as it is shown: the lines moved to the margin, up to the ending. -/
def signature : Text :=
  joinWith "\n" (h.init.map (fun line => h.shown line.text) ++ [dropIndent h.indent h.code])

/-- How the definition is to be shown: its lines moved to the left by its indentation, without white
space behind them, and the last one up to the ending. -/
def IsShownAs (shown : Text) : Prop :=
  ∃ (move : CodeLine → Text) (last : Text), IsMoved h.indent h.code last ∧
    (∀ line ∈ h.init, ∃ gap, isBlank gap ∧ IsMoved h.indent line.text (move line ++ gap) ∧
      ∀ c, (move line).getLast? = some c → ¬ isBlankChar c) ∧
    shown = joinWith "\n" (h.init.map move ++ [last])

theorem isShownAs_signature : h.IsShownAs h.signature := by
  refine ⟨fun line => h.shown line.text, dropIndent h.indent h.code,
    isMoved_dropIndent h.indent h.code, fun line _ => ?_, rfl⟩
  obtain ⟨gap, blank, eq⟩ := exists_eq_trimEnd_append (dropIndent h.indent line.text)
  have moved := isMoved_dropIndent h.indent line.text
  rw [eq] at moved
  exact ⟨gap, blank, moved, fun c last => not_isBlankChar_of_getLast?_trimEnd last⟩

theorem overload_eq_signature : h.overload = h.signature := by
  obtain ⟨visible, whole⟩ := h.whole
  have all : CodeLine.visible h.init = h.init.map CodeLine.text := by
    rw [CodeLine.visible, List.filter_eq_self]
    intro text mem
    obtain ⟨line, inInit, rfl⟩ := List.mem_map.mp mem
    simpa using h.not_isBlank_of_mem_init inInit
  have last : dropIndent h.indent h.last.code = dropIndent h.indent h.code ++ h.ending := by
    rw [h.last_eq, dropIndent_append visible]
  have kept : ∀ lead : Text, trimEnd (lead ++ dropIndent h.indent h.code) =
      lead ++ dropIndent h.indent h.code := by
    intro lead
    rw [trimEnd_append lead (not_isBlank_dropIndent visible h.indent),
      trimEnd_eq_self_of_suffix whole (dropIndent_suffix h.indent h.code)]
  rw [CommentedHeader.overload, all, List.map_map, last, joinWith_concat, ← List.append_assoc,
    Signature.dropEnding_dropEnding (kept _) h.isEnding, signature, joinWith_concat]
  rfl

theorem not_infix_code {line : CodeLine} (mem : line ∈ h.lines) : ¬ ("  #" : Text) <:+: line.code :=
  Text.occursIn_iff_isInfix.not.mp (Bool.not_eq_true _ ▸ (h.plain line mem).2)

theorem not_infix_shown {line : CodeLine} (mem : line ∈ h.lines) :
    ¬ ("  #" : Text) <:+: h.shown line.text := by
  intro occurs
  have avoids : '#' ∉ line.trailer := by
    intro inTrailer
    have blank := List.all_eq_true.mp (h.plain line mem).1 '#' inTrailer
    exact absurd blank (by decide)
  have part : h.shown line.text <:+: line.text :=
    (prefix_trimEnd _).isInfix.trans (dropIndent_suffix h.indent line.text).isInfix
  have inText : [' ', ' '] ++ ['#'] <:+: line.code ++ line.trailer := occurs.trans part
  exact h.not_infix_code mem (infix_of_infix_append avoids inText)

theorem isSetOff_last : IsSetOff h.last.trailer :=
  .inl (h.plain h.last (List.mem_append_right _ List.mem_cons_self)).1

theorem closesHeader_last : Signature.closesHeader (trim h.last.text) :=
  h.toCommentedHeader.closesHeader_last
    (h.not_infix_code (List.mem_append_right _ List.mem_cons_self)) h.isSetOff_last

theorem nonEmpty?_overload_pending {st : StubScan} (opens : st.Opens h.first.text) :
    nonEmpty? h.pending.overload = some h.signature := by
  rw [h.overload_pending (fun line mem => h.not_infix_shown (List.mem_append_left _ mem))
    (h.not_infix_code (List.mem_append_right _ List.mem_cons_self)) h.isSetOff_last,
    nonEmpty?_eq_some (CommentedHeader.overload_ne_nil opens), h.overload_eq_signature]

end StubHeader
end SymbolDocs
