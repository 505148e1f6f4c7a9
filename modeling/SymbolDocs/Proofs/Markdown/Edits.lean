import Mathlib.Logic.Relation
import SymbolDocs.Proofs.Markdown.Finish

namespace SymbolDocs.Markdown

open Text Html Node

/-- What can become of what has been written, its last character first: more is written, spaces and
tabs at the end are removed, or a bracket at the end is taken back. -/
inductive Edit : Text → Text → Prop where
  | push (written s : Text) : Edit written (s ++ written)
  | trimBlanks (written : Text) : Edit written (written.dropWhile isBlankOrTab)
  | takeBack (written : Text) : Edit ('[' :: written) written

/-- What becomes of it in some such steps. -/
abbrev Edits : Text → Text → Prop := Relation.ReflTransGen Edit

namespace Writer

theorem edits_push (w : Writer) (s : Text) : Edits w.written (w.push s).written :=
  .single (.push w.written s.reverse)

theorem edits_trimBlanks (w : Writer) : Edits w.written w.trimBlanks.written :=
  .single (.trimBlanks w.written)

theorem edits_gap (w : Writer) : Edits w.written w.gap.written := by
  rw [gap]
  split
  · exact .refl
  · split
    · exact .refl
    · exact w.edits_push " "

theorem edits_freshLine (w : Writer) : Edits w.written w.freshLine.written := by
  have trimmed := w.edits_trimBlanks
  rw [freshLine]
  split
  · exact trimmed
  · exact trimmed
  · exact trimmed.trans (w.trimBlanks.edits_push "\n")

theorem edits_blankLine (w : Writer) : Edits w.written w.blankLine.written := by
  have trimmed := w.edits_trimBlanks
  rw [blankLine]
  split
  · exact trimmed
  · exact trimmed
  · exact trimmed.trans (w.trimBlanks.edits_push "\n")
  · exact trimmed.trans (w.trimBlanks.edits_push "\n\n")

theorem edits_openLink (w : Writer) (e : Element) : Edits w.written (w.openLink e).written := by
  rw [openLink]
  generalize (e.attribute? "href").bind w.target? = target
  cases target with
  | none => exact .refl
  | some target => exact w.edits_push "["

theorem edits_closeLink (w : Writer) : Edits w.written w.closeLink.written := by
  rw [closeLink]
  split
  · exact .refl
  · exact .refl
  · next target links eq =>
    dsimp only
    split
    · next written eq' =>
      rw [eq']
      exact .single (.takeBack written)
    · exact w.edits_trimBlanks.trans (w.trimBlanks.edits_push _)

theorem edits_closePreformatted (w : Writer) :
    Edits w.written w.closePreformatted.written := by
  rw [closePreformatted]
  dsimp only
  split
  · exact (w.edits_push "```").trans (edits_blankLine _)
  · exact ((w.edits_push "\n").trans ((w.push "\n").edits_push "```")).trans (edits_blankLine _)

theorem edits_enter (w : Writer) (e : Element) : Edits w.written (w.enter e).written := by
  rw [enter]
  split
  · exact .refl
  split
  · exact .refl
  split
  · exact w.edits_blankLine.trans (w.blankLine.edits_push _)
  · exact w.edits_blankLine.trans (w.blankLine.edits_push _)
  · exact w.edits_blankLine.trans (w.blankLine.edits_push _)
  · split
    · exact w.edits_push _
    · exact .refl
  · exact w.edits_freshLine.trans (w.freshLine.edits_push _)
  · exact w.edits_push _
  · exact w.edits_freshLine
  · exact w.edits_gap
  · exact w.edits_openLink e
  · exact w.edits_blankLine
  · exact .refl

theorem edits_leave (w : Writer) (e : Element) : Edits w.written (w.leave e).written := by
  rw [leave]
  split
  · exact .refl
  split
  · exact w.edits_blankLine
  · exact (w.edits_trimBlanks.trans (w.trimBlanks.edits_push _)).trans (edits_blankLine _)
  · exact w.edits_closePreformatted
  · split
    · exact w.edits_push _
    · exact .refl
  · exact w.edits_freshLine
  · exact w.edits_closeLink
  · exact w.edits_blankLine
  all_goals exact .refl

theorem edits_pushWords (w : Writer) (ws : List Text) :
    Edits w.written (w.pushWords ws).written := by
  induction ws generalizing w with
  | nil => exact .refl
  | cons word more ih =>
    cases more with
    | nil => exact w.edits_push word
    | cons next more =>
      exact ((w.edits_push word).trans (w.push word).edits_gap).trans (ih (w.push word).gap)

theorem edits_gapIf (w : Writer) (b : Bool) :
    Edits w.written (if b then w.gap else w).written := by
  cases b with
  | false => exact .refl
  | true => exact w.edits_gap

theorem edits_addText (w : Writer) (s : Text) : Edits w.written (w.addText s).written := by
  rw [addText]
  split
  · exact .refl
  split
  · exact w.edits_push s
  · exact ((w.edits_gapIf _).trans (edits_pushWords _ _)).trans (edits_gapIf _ _)

theorem edits_feed (w : Writer) (event : Event) : Edits w.written (w.feed event).written := by
  cases event with
  | enter e => exact w.edits_enter e
  | text s => exact w.edits_addText s
  | leave e => exact w.edits_leave e

/-- All that a walk does to what has been written are edits. -/
theorem edits_feedAll (w : Writer) (events : List Event) :
    Edits w.written (w.feedAll events).written := by
  induction events generalizing w with
  | nil => exact .refl
  | cons event events ih => exact (w.edits_feed event).trans (ih (w.feed event))

end Writer

theorem suffix_dropWhile {c : Char} {s t : Text} {p : Char → Bool} (kept : ¬ p c)
    (ends : (c :: s) <:+ t) : (c :: s) <:+ t.dropWhile p := by
  obtain ⟨lead, rfl⟩ := ends
  rw [List.dropWhile_append, List.dropWhile_cons_of_neg kept]
  split
  · exact List.suffix_rfl
  · exact List.suffix_append ..

/-- A visible character stays with all in front of it, unless it is a bracket. -/
theorem Edits.keeps {written written' : Text} (edits : Edits written written') {c : Char} {s : Text}
    (visible : ¬ isBlankChar c) (other : c ≠ '[') (there : (c :: s) <:+ written) :
    (c :: s) <:+ written' := by
  induction edits with
  | refl => exact there
  | tail _ edit ih =>
    cases edit with
    | push written more => exact ih.trans (List.suffix_append ..)
    | trimBlanks written =>
      exact suffix_dropWhile (fun blank => visible (isBlankChar_of_isBlankOrTab blank)) ih
    | takeBack written =>
      rcases List.suffix_cons_iff.mp ih with same | inside
      · exact absurd (List.cons.inj same).1 other
      · exact inside

end SymbolDocs.Markdown
