import SymbolDocs.Proofs.Markdown.Edits
import SymbolDocs.Proofs.Markdown.Finish
import SymbolDocs.Proofs.Page.Heading

namespace SymbolDocs.Markdown

open Text Html Node

/-- The characters of a text that are not white space. -/
def visibleChars (s : Text) : Text := s.filter (!isBlankChar ·)

theorem visibleChars_append (s t : Text) :
    visibleChars (s ++ t) = visibleChars s ++ visibleChars t := List.filter_append ..

theorem visibleChars_eq_nil_iff {s : Text} : visibleChars s = [] ↔ isBlank s := by
  rw [visibleChars, List.filter_eq_nil_iff, isBlank, List.all_eq_true]
  simp only [Bool.not_eq_true', Bool.not_eq_false]

theorem flatten_words (s : Text) : (words s).flatten = visibleChars s := flatten_fields s

theorem visibleChars_finished (s : Text) : visibleChars (finished s) = visibleChars s := by
  rw [← flatten_words, words_finished, flatten_words]

theorem visibleChars_trimEnd (s : Text) : visibleChars (trimEnd s) = visibleChars s := by
  rw [← flatten_words, words_trimEnd, flatten_words]

theorem trimEnd_finished (s : Text) : trimEnd (finished s) = finished s := by
  rw [← trim_finished, trim, trimEnd_trimEnd]

namespace Writer

/-- A walk that may stop reads the first part of what there is. -/
theorem exists_feedUntil_eq (cap : Nat) (w : Writer) (events : List Event) :
    ∃ read behind, events = read ++ behind ∧ w.feedUntil cap events = w.feedAll read := by
  induction events generalizing w with
  | nil => exact ⟨[], [], rfl, rfl⟩
  | cons event events ih =>
    rw [feedUntil]
    split
    · exact ⟨[event], events, rfl, rfl⟩
    · obtain ⟨read, behind, parts, eq⟩ := ih (w.feed event)
      exact ⟨event :: read, behind, congrArg (event :: ·) parts, eq⟩

theorem edits_feedUntil (cap : Nat) (w : Writer) (events : List Event) :
    Edits (w.feedUntil cap events).written (w.feedAll events).written := by
  obtain ⟨read, behind, rfl, eq⟩ := exists_feedUntil_eq cap w events
  rw [eq, feedAll_append]
  exact edits_feedAll _ behind

end Writer

/-- What is visible stays, unless it ends in a bracket. -/
theorem Edits.prefix_trimEnd {written written' : Text} (edits : Edits written written')
    (noBracket : (trimEnd written.reverse).getLast? ≠ some '[') :
    trimEnd written.reverse <+: written'.reverse := by
  have tail := List.dropWhile_suffix (l := written) isBlankChar
  rw [trimEnd_reverse, List.getLast?_reverse] at noBracket
  rw [trimEnd_reverse, List.reverse_prefix]
  cases eq : written.dropWhile isBlankChar with
  | nil => exact List.nil_suffix
  | cons c s =>
    rw [eq] at noBracket tail
    have visible : ¬ isBlankChar c := by
      have first := List.head?_dropWhile_not isBlankChar written
      rw [eq] at first
      simpa using first
    exact edits.keeps visible (fun same => noBracket (congrArg some same)) tail

end SymbolDocs.Markdown

namespace SymbolDocs.Page

open Text Html Node Markdown

/-- What is written of an element, and of what follows it up to the next heading, until the walk
stops. -/
def writtenUntilCap (base : Option Url) (spot : Spot) : Text :=
  (({ base } : Writer).feedUntil Limits.sectionChars (eventsUpToHeading spot)).written.reverse

/-- What is written of all of it. -/
def writtenUpToHeading (base : Option Url) (spot : Spot) : Text :=
  (({ base } : Writer).feedAll (eventsUpToHeading spot)).written.reverse

theorem textUpToHeading_eq (base : Option Url) (spot : Spot) : textUpToHeading base spot =
    trimEnd ((finished (writtenUntilCap base spot)).take Limits.sectionChars) := rfl

section Stop

variable {base : Option Url} {spot : Spot}

theorem textUpToHeading_of_trimEnd_eq
    (fits : (finished (writtenUpToHeading base spot)).length ≤ Limits.sectionChars)
    (same : trimEnd (writtenUpToHeading base spot) = trimEnd (writtenUntilCap base spot)) :
    textUpToHeading base spot = finished (writtenUpToHeading base spot) := by
  rw [textUpToHeading_eq, ← finished_congr same, List.take_of_length_le fits, trimEnd_finished]

theorem trimEnd_eq_of_textUpToHeading
    (noBracket : (trimEnd (writtenUntilCap base spot)).getLast? ≠ some '[')
    (whole : textUpToHeading base spot = finished (writtenUpToHeading base spot)) :
    trimEnd (writtenUpToHeading base spot) = trimEnd (writtenUntilCap base spot) := by
  obtain ⟨behind, parts⟩ : trimEnd (writtenUntilCap base spot) <+: writtenUpToHeading base spot :=
    (Writer.edits_feedUntil _ _ _).prefix_trimEnd noBracket
  generalize writtenUpToHeading base spot = all at whole parts
  generalize stop : writtenUntilCap base spot = stopped at noBracket parts
  have short : (visibleChars all).length ≤ (visibleChars stopped).length := by
    have cut : textUpToHeading base spot <+: finished stopped := by
      rw [textUpToHeading_eq, stop]
      exact (Text.prefix_trimEnd _).trans (List.take_prefix ..)
    rw [whole] at cut
    have visible : (visibleChars (finished all)).length ≤ (visibleChars (finished stopped)).length :=
      (cut.filter (!isBlankChar ·)).length_le
    rwa [visibleChars_finished, visibleChars_finished] at visible
  have none : visibleChars behind = [] := by
    rw [← parts, visibleChars_append, visibleChars_trimEnd, List.length_append] at short
    exact List.eq_nil_of_length_eq_zero (by omega)
  rw [← parts, trimEnd_append_of_isBlank _ (visibleChars_eq_nil_iff.mp none), trimEnd_trimEnd]

/-- Where the Markdown up to the next heading is short enough, it is returned in full if nothing is
written behind the place where the walk stops but white space. There is no other case, but where the
walk stops at a bracket that may be taken back. -/
theorem renderSpot_eq_finished_iff (notTerm : spot.element.name ≠ "dt")
    (notSection : spot.element.name ≠ "section")
    (fits : (finished (writtenUpToHeading base spot)).length ≤ Limits.sectionChars) :
    (trimEnd (writtenUpToHeading base spot) = trimEnd (writtenUntilCap base spot) →
      renderSpot base spot = finished (writtenUpToHeading base spot)) ∧
    ((trimEnd (writtenUntilCap base spot)).getLast? ≠ some '[' →
      renderSpot base spot = finished (writtenUpToHeading base spot) →
      trimEnd (writtenUpToHeading base spot) = trimEnd (writtenUntilCap base spot)) := by
  rw [renderSpot_of_generic notTerm notSection]
  exact ⟨textUpToHeading_of_trimEnd_eq fits, trimEnd_eq_of_textUpToHeading⟩

end Stop

theorem renderSpot_eq_finished_twoParts : ∃ spot rest,
    anchored? "a" (spotsOf [] (twoParts [.text "Next"] [])) = some (spot, rest) ∧
      spot.element.name ≠ "dt" ∧ spot.element.name ≠ "section" ∧
      (finished (writtenUpToHeading none spot)).length ≤ Limits.sectionChars ∧
      renderSpot none spot = finished (writtenUpToHeading none spot) := by
  refine ⟨_, _, rfl, by decide, by decide, by decide +kernel, ?_⟩
  exact (renderSpot_eq_finished_iff (by decide) (by decide) (by decide +kernel)).1
    (by decide +kernel)

/-- A page on which preformatted text begins with as many empty lines as the walk reads. -/
def emptyLines : List Node :=
  [.element { name := "div", attributes := [("id", "a")] }
    [.element { name := "p" } [.text "A paragraph that is long enough to be kept."],
      .element { name := "pre" } [.text (List.replicate Limits.sectionChars '\n')],
      .element { name := "p" } [.text "More."]]]

/-- The empty lines fall away when the text is finished, but the walk has stopped at them. -/
theorem renderSpot_ne_finished_emptyLines : ∃ spot rest,
    anchored? "a" (spotsOf [] emptyLines) = some (spot, rest) ∧
      spot.element.name ≠ "dt" ∧ spot.element.name ≠ "section" ∧
      finished (writtenUpToHeading none spot) =
        "A paragraph that is long enough to be kept.\n\n```python\n\n```\n\nMore.".toList ∧
      renderSpot none spot =
        "A paragraph that is long enough to be kept.\n\n```python".toList :=
  ⟨_, _, rfl, by decide, by decide, by decide +kernel, by decide +kernel⟩

end SymbolDocs.Page
