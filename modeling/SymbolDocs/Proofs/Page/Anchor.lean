import SymbolDocs.Proofs.Page.Isolation

namespace SymbolDocs.Page

open Html Node

/-- What a spot is about, with all that is behind it. -/
def placeText? (base : Option Url) (spot : Spot) (behind : Spots) : Option Text :=
  let text := renderSpot base spot
  if Limits.leastSectionChars ≤ text.length then some text
  else (joined? (nextParagraphs base behind)).or (Text.nonEmpty? text)

/-- Whether an element has the very id that an anchor asks for. -/
def carriesExactly (anchor : Text) (e : Element) : Bool :=
  e.id? == some (anchor.dropWhile (· == '#'))

theorem find?_eq_some_iff {p : Element → Bool} {spots behind : Spots} {spot : Spot} :
    find? p spots = some (spot, behind) ↔ p spot.element ∧
      ∃ lead, spots = lead ++ spot :: behind ∧ ∀ s ∈ lead, ¬ p s.element := by
  constructor
  · intro found
    induction spots with
    | nil => exact absurd found (by simp [find?])
    | cons first spots ih =>
      by_cases here : p first.element
      · rw [find?_cons_of_pos here] at found
        obtain ⟨rfl, rfl⟩ := Prod.mk.inj (Option.some.inj found)
        exact ⟨here, [], rfl, by simp⟩
      · rw [find?_cons_of_neg here] at found
        obtain ⟨holds, lead, rfl, new⟩ := ih found
        exact ⟨holds, first :: lead, rfl, by simpa [here] using new⟩
  · rintro ⟨holds, lead, rfl, new⟩
    rw [find?_append new, find?_cons_of_pos holds]

theorem sectionOf?_eq {anchor : Text} (asked : anchor.dropWhile (· == '#') ≠ [])
    (nodes : List Node) (base : Option Url) :
    sectionOf? nodes anchor base =
      (find? (carries anchor) (spotsOf [] nodes)).bind fun (spot, behind) =>
        placeText? base spot behind := by
  have named : ¬ (anchor.dropWhile (· == '#')).isEmpty := by rwa [List.isEmpty_iff]
  rw [sectionOf?, anchored?_eq_find?]
  simp only [if_neg named]
  rfl

theorem carries_of_carriesExactly {anchor : Text} {e : Element} (exact : carriesExactly anchor e) :
    carries anchor e := by
  rw [carries, eq_of_beq exact]
  exact beq_self_eq_true _

/-- The element of an anchor is the first one that has it as its id in any letter case. This is the
first one that has it exactly when no other one in front of it has it in another letter case. -/
theorem exists_isolated {html anchor : Text} {before behind : Spots} {spot : Spot}
    (asked : anchor.dropWhile (· == '#') ≠ [])
    (split : spotsOf [] (parsePage html) = before ++ spot :: behind)
    (exact : carriesExactly anchor spot.element)
    (new : ∀ s ∈ before, ¬ carriesExactly anchor s.element) (url : Text) :
    ∃ lead found rest, spotsOf [] (parsePage html) = lead ++ found :: rest ∧
      carries anchor found.element ∧ (∀ s ∈ lead, ¬ carries anchor s.element) ∧
      sectionText? html anchor url = placeText? (Url.ofText? url) found rest ∧
      (lead = before ↔
        ∀ s ∈ before, carries anchor s.element → carriesExactly anchor s.element) := by
  have carried := carries_of_carriesExactly exact
  have text := sectionOf?_eq asked (parsePage html) (Url.ofText? url)
  cases first : find? (carries anchor) (spotsOf [] (parsePage html)) with
  | none =>
    have mem : spot ∈ spotsOf [] (parsePage html) := by rw [split]; simp
    exact absurd carried (none_of_find?_eq_none first spot mem)
  | some place =>
    obtain ⟨found, rest⟩ := place
    obtain ⟨holds, lead, eq, none⟩ := find?_eq_some_iff.mp first
    rw [first] at text
    refine ⟨lead, found, rest, eq, holds, none, text, ?_, fun same => ?_⟩
    · rintro rfl s mem other
      exact absurd other (none s mem)
    · have alone : ∀ s ∈ before, ¬ carries anchor s.element := fun s mem other =>
        new s mem (same s mem other)
      have here := find?_eq_some_iff.mpr ⟨carried, before, split, alone⟩
      obtain ⟨rfl, rfl⟩ := Prod.mk.inj (Option.some.inj (first.symm.trans here))
      exact List.append_cancel_right (eq.symm.trans split)

theorem exists_isolated_shortTerm : ∃ before spot behind,
    spotsOf [] (parsePage shortTerm) = before ++ spot :: behind ∧
      carriesExactly "a" spot.element ∧ (∀ s ∈ before, ¬ carriesExactly "a" s.element) ∧
      sectionText? shortTerm "a" "" = placeText? none spot behind := by
  have some : (find? (carriesExactly "a") (spotsOf [] (parsePage shortTerm))).isSome := by
    decide +kernel
  have alone : ∀ s ∈ spotsOf [] (parsePage shortTerm),
      carries "a" s.element → carriesExactly "a" s.element := by
    decide +kernel
  obtain ⟨⟨spot, behind⟩, found⟩ := Option.isSome_iff_exists.mp some
  obtain ⟨exact, before, split, new⟩ := find?_eq_some_iff.mp found
  obtain ⟨lead, first, rest, eq, -, -, text, same⟩ :=
    @exists_isolated shortTerm "a" _ _ _ (by decide) split exact new ""
  have here : lead = before := same.mpr fun s mem =>
    alone s (by rw [split]; exact List.mem_append_left _ mem)
  rw [here] at eq
  obtain ⟨rfl, rfl⟩ := List.cons.inj (List.append_cancel_left (eq.symm.trans split))
  exact ⟨before, first, rest, split, exact, new, text⟩

def twoSpellings : Text :=
  "<dl><dt id=Foo>Foo<dd>The class.<dt id=foo>foo<dd>The function.</dl>"

/-- The second term has the id that is asked for, the text is that of the first one. -/
theorem exists_not_isolated : ∃ before spot behind,
    spotsOf [] (parsePage twoSpellings) = before ++ spot :: behind ∧
      carriesExactly "foo" spot.element ∧ (∀ s ∈ before, ¬ carriesExactly "foo" s.element) ∧
      placeText? none spot behind = some "The function.".toList ∧
      sectionText? twoSpellings "foo" "" = some "The class.".toList := by
  have text : (find? (carriesExactly "foo") (spotsOf [] (parsePage twoSpellings))).bind
      (fun (spot, behind) => placeText? none spot behind) = some "The function.".toList := by
    decide +kernel
  obtain ⟨⟨spot, behind⟩, found, eq⟩ := Option.bind_eq_some_iff.mp text
  obtain ⟨exact, before, split, new⟩ := find?_eq_some_iff.mp found
  exact ⟨before, spot, behind, split, exact, new, eq, by decide +kernel⟩

end SymbolDocs.Page
