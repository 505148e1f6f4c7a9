import SymbolDocs.Docstring.Parse
import SymbolDocs.Proofs.Text.Cut
import SymbolDocs.Proofs.Text.Lines

namespace SymbolDocs

open Text

namespace DocstringStyle

theorem dropTabsAndSpaces_concat_return (line : Text) :
    ∃ rest, dropTabsAndSpaces (line ++ ['\r']) = rest ++ ['\r'] := by
  induction line with
  | nil => exact ⟨[], rfl⟩
  | cons c line ih =>
    by_cases gap : isTabOrSpace c
    · rw [dropTabsAndSpaces, List.cons_append, List.dropWhile_cons_of_pos gap]
      exact ih
    · rw [dropTabsAndSpaces, List.cons_append, List.dropWhile_cons_of_neg gap]
      exact ⟨c :: line, rfl⟩

theorem dropEndTabsAndSpaces_concat_return (line : Text) :
    dropEndWhile isTabOrSpace (line ++ ['\r']) = line ++ ['\r'] := by
  rw [dropEndWhile, List.reverse_append]
  simp [isTabOrSpace]

/-- A carriage return at its end hides a title of the Google style. -/
theorem isGoogleTitle_concat_return (line : Text) : isGoogleTitle (line ++ ['\r']) = false := by
  obtain ⟨rest, eq⟩ := dropTabsAndSpaces_concat_return line
  rw [isGoogleTitle, eq, dropEndTabsAndSpaces_concat_return, ← Bool.not_eq_true]
  intro listed
  have mem := List.contains_iff_mem.mp listed
  have plain : ∀ title ∈ [("Args:" : Text), "Arguments:", "Keyword Args:", "Returns:", "Yields:",
      "Raises:"], '\r' ∉ title := by decide
  exact plain _ mem (by simp)

/-- A carriage return at its end hides an underline of the NumPy style. -/
theorem isDashLine_concat_return (line : Text) : isDashLine (line ++ ['\r']) = false := by
  obtain ⟨rest, eq⟩ := dropTabsAndSpaces_concat_return line
  rw [isDashLine, eq, dropEndTabsAndSpaces_concat_return]
  simp

theorem before?_of_not_mem {line : Text} (plain : '\r' ∉ line) : before? ['\r'] line = none := by
  rw [Option.eq_none_iff_forall_ne_some]
  intro lead found
  have eq := before?_eq_some_iff.mp found
  exact plain (by rw [eq]; exact List.mem_append_right lead List.mem_cons_self)

/-- A title of the NumPy style may have a carriage return at its end. -/
theorem isNumPyTitle_concat_return {line : Text} (plain : '\r' ∉ line) :
    isNumPyTitle (line ++ ['\r']) = isNumPyTitle line := by
  have marked : before? ("\r" : Text) (line ++ ['\r']) = some line := before?_eq_some_iff.mpr rfl
  have unmarked : before? ("\r" : Text) line = none := before?_of_not_mem plain
  simp only [isNumPyTitle, marked, unmarked, Option.getD_some, Option.getD_none]

/-- The last two lines are a title and its underline. -/
def endsUnderlined : List Text → Bool
  | [title, under] => isNumPyTitle title && isDashLine under
  | _ :: rest => endsUnderlined rest
  | [] => false

/-- Before carriage returns, only the title of the last line but one is seen to be underlined. -/
theorem hasUnderlinedTitle_endReturns {lines : List Text} (plain : ∀ line ∈ lines, '\r' ∉ line) :
    hasUnderlinedTitle (endReturns lines) = endsUnderlined lines := by
  induction lines using endsUnderlined.induct with
  | case1 title under =>
    have here : '\r' ∉ title := plain title List.mem_cons_self
    simp only [endReturns, hasUnderlinedTitle, endsUnderlined, isNumPyTitle_concat_return here,
      Bool.or_false]
  | case2 line rest short ih =>
    have ih := ih fun l mem => plain l (List.mem_cons_of_mem line mem)
    rcases rest with _ | ⟨under, _ | ⟨last, more⟩⟩
    · rfl
    · exact (short under rfl).elim
    · rw [endReturns] at ih
      rw [endReturns, endReturns, hasUnderlinedTitle, isDashLine_concat_return, Bool.and_false,
        Bool.false_or, ih]
      rfl
  | case3 => rfl

theorem any_isGoogleTitle_endReturns (lines : List Text) :
    (endReturns lines).any isGoogleTitle = lines.getLast?.any isGoogleTitle := by
  induction lines using endReturns.induct with
  | case1 line next more ih =>
    rw [endReturns, List.any_cons, isGoogleTitle_concat_return, Bool.false_or, ih,
      List.getLast?_cons_cons]
  | case2 line => simp [endReturns]
  | case3 => rfl

theorem hasUnderlinedTitle_of_endsUnderlined {lines : List Text} (h : endsUnderlined lines) :
    hasUnderlinedTitle lines := by
  induction lines using endsUnderlined.induct with
  | case1 title under =>
    rw [endsUnderlined] at h
    rw [hasUnderlinedTitle, h, Bool.true_or]
  | case2 line rest short ih =>
    rcases rest with _ | ⟨under, _ | ⟨last, more⟩⟩
    · exact h
    · exact (short under rfl).elim
    · rw [hasUnderlinedTitle, ih h, Bool.or_true]
  | case3 => exact h

theorem any_of_any_getLast? {lines : List Text} {p : Text → Bool} (h : lines.getLast?.any p) :
    lines.any p := by
  obtain ⟨line, last, holds⟩ := (Option.any_eq_true p lines.getLast?).mp h
  exact List.any_eq_true.mpr ⟨line, List.mem_of_getLast? last, holds⟩

/-- The style of a text with carriage returns: only its end is looked at. -/
theorem detect_withReturns {text : Text} (plain : '\r' ∉ text) :
    detect (withReturns text) =
      if endsUnderlined (splitOn '\n' text) then numpy
      else if (splitOn '\n' text).getLast?.any isGoogleTitle then google
      else fieldList := by
  have within : ∀ line ∈ splitOn '\n' text, '\r' ∉ line := fun line =>
    not_mem_of_mem_splitOn plain
  rw [detect, splitOn_withReturns]
  simp only [hasUnderlinedTitle_endReturns within, any_isGoogleTitle_endReturns]

/-- The header that tells the style of a text is the last thing in it. -/
def isToldAtEnd (text : Text) : Bool :=
  match detect text with
  | numpy => endsUnderlined (splitOn '\n' text)
  | google => (splitOn '\n' text).getLast?.any isGoogleTitle
  | fieldList => true

theorem detect_withReturns_eq_iff {text : Text} (plain : '\r' ∉ text) :
    detect (withReturns text) = detect text ↔ isToldAtEnd text := by
  rw [detect_withReturns plain, isToldAtEnd]
  by_cases underlined : hasUnderlinedTitle (splitOn '\n' text)
  · have style : detect text = numpy := if_pos underlined
    rw [style]
    by_cases atEnd : endsUnderlined (splitOn '\n' text)
    · exact iff_of_true (if_pos atEnd) atEnd
    · rw [if_neg atEnd]
      refine iff_of_false (fun eq => ?_) atEnd
      split at eq <;> contradiction
  · -- the end of a text tells no style that its whole does not tell
    have noEnd : ¬ endsUnderlined (splitOn '\n' text) :=
      fun h => underlined (hasUnderlinedTitle_of_endsUnderlined h)
    rw [if_neg noEnd]
    by_cases titled : (splitOn '\n' text).any isGoogleTitle
    · have style : detect text = google := (if_neg underlined).trans (if_pos titled)
      rw [style]
      by_cases atEnd : (splitOn '\n' text).getLast?.any isGoogleTitle
      · exact iff_of_true (if_pos atEnd) atEnd
      · rw [if_neg atEnd]
        exact iff_of_false (by decide) atEnd
    · have style : detect text = fieldList := (if_neg underlined).trans (if_neg titled)
      have noEnd : ¬ (splitOn '\n' text).getLast?.any isGoogleTitle :=
        fun h => titled (any_of_any_getLast? h)
      rw [style]
      exact iff_of_true (if_neg noEnd) rfl

end DocstringStyle

namespace Docstring

open DocstringStyle

/-- A docstring reads the same with carriage returns at its line ends if its style is told by its
last lines or by none, and only then its style is told the same. -/
theorem parse_withReturns {text : Text} (plain : '\r' ∉ text) :
    (detect (withReturns text) = detect text ↔ isToldAtEnd text) ∧
      (isToldAtEnd text → parse (withReturns text) = parse text) := by
  have same := detect_withReturns_eq_iff plain
  refine ⟨same, fun told => ?_⟩
  rw [parse, parse, tidyLines_withReturns plain, same.mpr told]

theorem parse_withReturns_fieldList : parse (withReturns "Sum.\n\n:param x: value") =
    parse "Sum.\n\n:param x: value" ∧ (parse "Sum.\n\n:param x: value").parameters.length = 1 := by
  have plain : '\r' ∉ ("Sum.\n\n:param x: value" : Text) := by decide
  have told : isToldAtEnd "Sum.\n\n:param x: value" := by decide
  exact ⟨(parse_withReturns plain).2 told, by decide +kernel⟩

/-- A Google header in the middle of the text is lost with carriage returns. -/
theorem parse_withReturns_ne : ¬ ∀ text : Text, '\r' ∉ text →
    parse (withReturns text) = parse text := by
  intro same
  have eq := same "Sum.\n\nArgs:\n    x (int): value" (by decide)
  have unix : (parse "Sum.\n\nArgs:\n    x (int): value").parameters.length = 1 := by
    decide +kernel
  have other : (parse (withReturns "Sum.\n\nArgs:\n    x (int): value")).parameters.length = 0 := by
    decide +kernel
  rw [eq, unix] at other
  exact absurd other (by decide)

end Docstring
end SymbolDocs
