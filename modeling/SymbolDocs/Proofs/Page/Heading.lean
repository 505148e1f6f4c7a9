import SymbolDocs.Proofs.Html.Walk
import SymbolDocs.Proofs.Page.Place
import SymbolDocs.Proofs.Text.Trim

namespace SymbolDocs.Page

open Html Node

/-- Pages that are the same, in the order of the page, up to the first heading that opens behind the
first element that satisfies `p`. The heading keeps its name; what it holds and all that comes later
may differ. -/
inductive SameUpToNextHeading (p : Element → Bool) (page page' : List Node) : Prop where
  | intro {before mid behind behind' : List Event} {node : Node} {heading heading' : Element}
      (new : ∀ event ∈ before, ¬ enters p event) (found : node.element?.any p)
      (between : ∀ event ∈ mid, ¬ entersHeading event) (opens : isHeading heading.name)
      (sameName : heading'.name = heading.name)
      (walk : eventsOf page = before ++ (node.events ++ (mid ++ .enter heading :: behind)))
      (walk' : eventsOf page' = before ++ (node.events ++ (mid ++ .enter heading' :: behind')))

/-- How a walk goes when a search ends: past all elements, or up to the first that satisfies `p`,
through it, and on. Of what comes then, `own` is what begins in the walk. -/
def IsWalkTo (p : Element → Bool) (walk : List Event) (later : List (List Node)) :
    Option (Spot × Spots) → Prop
  | none => ∀ event ∈ walk, ¬ enters p event
  | some (spot, _) => p spot.element ∧ ∃ before tail own,
      (∀ event ∈ before, ¬ enters p event) ∧ walk = before ++ (spot.node.events ++ tail) ∧
      spot.following = own ++ later.flatten ∧
      ∀ rest, ownEvents 0 (tail ++ rest) = eventsOf own ++ ownEvents 0 rest

mutual

theorem isWalkTo_find?_spots (p : Element → Bool) (siblings : List Node)
    (later : List (List Node)) : ∀ node : Node,
      IsWalkTo p node.events (siblings :: later) (find? p (node.spots siblings later))
  | .element e children => by
    by_cases here : p e
    · rw [Node.spots, find?_cons_of_pos here]
      refine ⟨here, [], [], [], nofun, ?_, rfl, fun rest => rfl⟩
      rw [List.nil_append, List.append_nil]
      rfl
    · have inside := isWalkTo_find?_spotsOf p (siblings :: later) children
      rw [Node.spots, find?_cons_of_neg here, events]
      cases found : find? p (spotsOf (siblings :: later) children) with
      | none =>
        rw [found] at inside
        intro event mem
        rw [List.mem_append, List.mem_cons, List.mem_singleton] at mem
        rcases mem with (rfl | mem) | rfl
        · exact here
        · exact inside event mem
        · exact Bool.false_ne_true
      | some place =>
        rw [found] at inside
        obtain ⟨holds, before, tail, own, new, walk, following, kept⟩ := inside
        refine ⟨holds, .enter e :: before, tail ++ [.leave e], own, ?_, ?_, following, ?_⟩
        · intro event mem
          rcases List.mem_cons.mp mem with rfl | mem
          · exact here
          · exact new event mem
        · rw [walk]
          simp only [List.cons_append, List.append_assoc]
        · intro rest
          rw [List.append_assoc, kept, List.singleton_append, ownEvents]
  | .text _ => by
    intro event mem
    rw [List.mem_singleton.mp mem]
    exact Bool.false_ne_true
  | .comment => nofun

/-- A search for an element and a walk through the page come to the same place. -/
theorem isWalkTo_find?_spotsOf (p : Element → Bool) (later : List (List Node)) :
    ∀ nodes : List Node, IsWalkTo p (eventsOf nodes) later (find? p (spotsOf later nodes))
  | [] => nofun
  | node :: more => by
    have here := isWalkTo_find?_spots p more later node
    have behind := isWalkTo_find?_spotsOf p later more
    rw [spotsOf, find?_append_eq, eventsOf]
    cases found : find? p (node.spots more later) with
    | none =>
      rw [found] at here
      rw [Option.map_none, Option.none_or]
      cases next : find? p (spotsOf later more) with
      | none =>
        rw [next] at behind
        intro event mem
        exact (List.mem_append.mp mem).elim (here event) (behind event)
      | some place =>
        rw [next] at behind
        obtain ⟨holds, before, tail, own, new, walk, following, kept⟩ := behind
        refine ⟨holds, node.events ++ before, tail, own, ?_, ?_, following, kept⟩
        · intro event mem
          exact (List.mem_append.mp mem).elim (here event) (new event)
        · rw [walk, List.append_assoc]
    | some place =>
      rw [found] at here
      obtain ⟨holds, before, tail, own, new, walk, following, kept⟩ := here
      refine ⟨holds, before, tail ++ eventsOf more, own ++ more, new, ?_, ?_, ?_⟩
      · rw [walk, List.append_assoc, List.append_assoc]
      · rw [List.append_assoc]
        exact following
      · intro rest
        rw [List.append_assoc, kept, ownEvents_eventsOf, eventsOf_append, List.append_assoc]

end

/-- There is one place where a walk first comes to an element that satisfies `p`. -/
theorem walk_inj {p : Element → Bool} {before before' rest rest' : List Event} {e e' : Element}
    (new : ∀ event ∈ before, ¬ enters p event) (new' : ∀ event ∈ before', ¬ enters p event)
    (found : p e) (found' : p e')
    (same : before ++ .enter e :: rest = before' ++ .enter e' :: rest') :
    Event.enter e :: rest = .enter e' :: rest' := by
  have skipped : ∀ {lead rest : List Event} {e : Element}, (∀ event ∈ lead, ¬ enters p event) →
      p e → (lead ++ .enter e :: rest).dropWhile (!enters p ·) = .enter e :: rest := by
    intro lead rest e new found
    rw [List.dropWhile_append_of_pos (by simpa using new),
      List.dropWhile_cons_of_neg (by simpa [enters] using found)]
  rw [← skipped new found, same, skipped new' found']

theorem entersHeading_enter (e : Element) : entersHeading (.enter e) = isHeading e.name := rfl

/-- An element is found where a walk comes to it, with what it meets up to the next heading. -/
theorem exists_find?_of_walk {p : Element → Bool} {page : List Node}
    {before mid behind : List Event} {node : Node} {heading : Element}
    (new : ∀ event ∈ before, ¬ enters p event) (found : node.element?.any p)
    (between : ∀ event ∈ mid, ¬ entersHeading event) (opens : isHeading heading.name)
    (walk : eventsOf page = before ++ (node.events ++ (mid ++ .enter heading :: behind))) :
    ∃ spot rest, find? p (spotsOf [] page) = some (spot, rest) ∧
      spot.node.events = node.events ∧
      eventsUpToHeading spot = node.events ++ ownEvents 0 mid := by
  obtain ⟨e, children, rfl, holds⟩ : ∃ e children, node = .element e children ∧ p e := by
    cases node with
    | element e children => exact ⟨e, children, rfl, found⟩
    | text _ => exact absurd found Bool.false_ne_true
    | comment => exact absurd found Bool.false_ne_true
  have place := isWalkTo_find?_spotsOf p [] page
  cases known : find? p (spotsOf [] page) with
  | none =>
    rw [known] at place
    refine absurd holds (place (.enter e) ?_)
    rw [walk, events]
    simp
  | some place' =>
    obtain ⟨spot, rest⟩ := place'
    rw [known] at place
    obtain ⟨holds', before', tail, own, new', walk', following, kept⟩ := place
    have here := walk_inj new new' holds holds' (walk.symm.trans walk')
    obtain ⟨same, rfl⟩ := events_append_inj here
    refine ⟨spot, rest, rfl, same.symm, ?_⟩
    obtain ⟨depth, split⟩ := exists_ownEvents_append 0 mid
    have nodes : eventsOf spot.following =
        ownEvents 0 mid ++ .enter heading :: ownEvents (depth + 1) behind := by
      have all := kept []
      rw [List.append_nil, ownEvents, List.append_nil, split, ownEvents] at all
      rw [following, List.flatten_nil, List.append_nil, ← all]
    have none : ∀ event ∈ ownEvents 0 mid, !entersHeading event := by
      intro event mem
      simpa using between event ((sublist_ownEvents 0 mid).subset mem)
    rw [eventsUpToHeading, nodes, Text.takeWhile_append_cons (by simpa [entersHeading_enter]),
      List.takeWhile_eq_self_iff.mpr none, same]
    rfl

theorem element_of_events {spot spot' : Spot} (same : spot.node.events = spot'.node.events) :
    spot.element = spot'.element := by
  rw [Spot.node, Spot.node, events, events, List.cons_append, List.cons_append] at same
  exact Event.enter.inj (List.cons.inj same).1

theorem renderSpot_of_generic {spot : Spot} (notTerm : spot.element.name ≠ "dt")
    (notSection : spot.element.name ≠ "section") (base : Option Url) :
    renderSpot base spot = textUpToHeading base spot := by
  rw [renderSpot]
  split
  · next name => exact absurd name notTerm
  · next name => exact absurd name notSection
  · rfl

theorem length_textUpToHeading_le (base : Option Url) (spot : Spot) :
    (textUpToHeading base spot).length ≤ Limits.sectionChars :=
  (Text.prefix_trimEnd _).length_le.trans (List.length_take_le _ _)

theorem textUpToHeading_congr {spot spot' : Spot}
    (same : eventsUpToHeading spot = eventsUpToHeading spot') (base : Option Url) :
    textUpToHeading base spot = textUpToHeading base spot' := by
  rw [textUpToHeading, textUpToHeading, same]

/-- A page is an instance of itself when some heading opens behind the element that is found. -/
theorem sameUpToNextHeading_self {p : Element → Bool} {page : List Node} {spot : Spot}
    {rest : Spots} (found : find? p (spotsOf [] page) = some (spot, rest))
    (heading : ∃ event ∈ eventsOf spot.following, entersHeading event) :
    SameUpToNextHeading p page page := by
  have place := isWalkTo_find?_spotsOf p [] page
  rw [found] at place
  obtain ⟨holds, before, tail, own, new, walk, following, kept⟩ := place
  have all := kept []
  rw [List.append_nil, ownEvents, List.append_nil] at all
  rw [following, List.flatten_nil, List.append_nil, ← all] at heading
  obtain ⟨event, mem, opens⟩ := heading
  have some : (tail.find? entersHeading).isSome :=
    List.find?_isSome.mpr ⟨event, (sublist_ownEvents 0 tail).subset mem, opens⟩
  obtain ⟨first, first_eq⟩ := Option.isSome_iff_exists.mp some
  obtain ⟨opens, mid, behind, rfl, between⟩ := List.find?_eq_some_iff_append.mp first_eq
  cases first with
  | enter heading =>
    have between' : ∀ event ∈ mid, ¬ entersHeading event := by simpa using between
    exact @SameUpToNextHeading.intro p page page before mid behind behind spot.node heading heading
      new holds between' opens rfl walk walk
  | text _ => exact absurd opens Bool.false_ne_true
  | leave _ => exact absurd opens Bool.false_ne_true

/-- The text of an element that is neither a term nor a section is short, and it is found in front of
the heading that opens first behind the element: a page with anything else in that heading and
later, which the page itself is an instance of, gives the same text. -/
theorem renderSpot_isolated {page : List Node} {anchor : Text} {spot : Spot} {rest : Spots}
    (found : anchored? (anchor.dropWhile (· == '#')) (spotsOf [] page) = some (spot, rest))
    (notTerm : spot.element.name ≠ "dt") (notSection : spot.element.name ≠ "section")
    (base : Option Url) :
    (renderSpot base spot).length ≤ Limits.sectionChars ∧
      ((∃ event ∈ eventsOf spot.following, entersHeading event) →
        SameUpToNextHeading (carries anchor) page page) ∧
      ∀ page', SameUpToNextHeading (carries anchor) page page' → ∃ spot' rest',
        anchored? (anchor.dropWhile (· == '#')) (spotsOf [] page') = some (spot', rest') ∧
          spot'.element = spot.element ∧ renderSpot base spot' = renderSpot base spot := by
  rw [anchored?_eq_find?] at found
  have generic := renderSpot_of_generic notTerm notSection base
  refine ⟨?_, sameUpToNextHeading_self found, ?_⟩
  · rw [generic]
    exact length_textUpToHeading_le base spot
  · rintro page' ⟨new, holds, between, opens, sameName, walk, walk'⟩
    obtain ⟨spot₁, rest₁, found₁, node₁, events₁⟩ :=
      exists_find?_of_walk new holds between opens walk
    obtain ⟨spot', rest', found', node', events'⟩ :=
      exists_find?_of_walk new holds between (sameName ▸ opens) walk'
    obtain ⟨rfl, rfl⟩ := Prod.mk.inj (Option.some.inj (found.symm.trans found₁))
    have element := element_of_events (node'.trans node₁.symm)
    refine ⟨spot', rest', found', element, ?_⟩
    rw [generic, renderSpot_of_generic (element ▸ notTerm) (element ▸ notSection)]
    exact textUpToHeading_congr (events'.trans events₁.symm) base

/-- A page with a paragraph in one part and a heading in the next one. -/
def twoParts (heading behind : List Node) : List Node :=
  let first : Node := .element { name := "p", attributes := [("id", "a")] } [.text "First."]
  let second : Node := .element { name := "h2" } heading
  [.element { name := "html" } [.element { name := "body" }
    [.element { name := "div" } [first, .element { name := "p" } [.text "More."]],
      .element { name := "div" } (second :: behind)]]]

theorem twoParts_same (heading behind : List Node) :
    SameUpToNextHeading (carries "a") (twoParts [.text "Next"] []) (twoParts heading behind) :=
  @SameUpToNextHeading.intro (carries "a") _ _
    [.enter { name := "html" }, .enter { name := "body" }, .enter { name := "div" }]
    [.enter { name := "p" }, .text "More.", .leave { name := "p" }, .leave { name := "div" },
      .enter { name := "div" }] _ _
    (.element { name := "p", attributes := [("id", "a")] } [.text "First."])
    { name := "h2" } { name := "h2" } (by decide) (by decide) (by decide) (by decide) rfl rfl rfl

theorem renderSpot_isolated_twoParts : ∃ spot rest,
    anchored? "a" (spotsOf [] (twoParts [.text "Next"] [])) = some (spot, rest) ∧
      spot.element.name ≠ "dt" ∧ spot.element.name ≠ "section" ∧
      ∀ heading behind, ∃ spot' rest',
        anchored? "a" (spotsOf [] (twoParts heading behind)) = some (spot', rest') ∧
          renderSpot none spot' = renderSpot none spot := by
  refine ⟨_, _, rfl, by decide, by decide, fun heading behind => ?_⟩
  have whole := @renderSpot_isolated (twoParts [.text "Next"] []) "a" _ _ rfl (by decide)
    (by decide) none
  obtain ⟨spot', rest', found', _, text⟩ := whole.2.2 _ (twoParts_same heading behind)
  exact ⟨spot', rest', found', text⟩

end SymbolDocs.Page
