import SymbolDocs.Page.Section
import SymbolDocs.Proofs.Html.Walk
import SymbolDocs.Proofs.Text.Cut

namespace SymbolDocs.Page

open Html Node

/-- Whether an element has the id that an anchor asks for. -/
def carries (anchor : Text) (e : Element) : Bool :=
  e.id?.any (Text.eqIgnoreCase · (anchor.dropWhile (· == '#')))

/-- Pages that are the same up to the next term of the list in which the first element that
satisfies `p` is a term. What that next term holds and all that stands behind it may differ. -/
inductive SameUpToNextTerm (p : Element → Bool) : List Node → List Node → Prop where
  | here {before mid : List Node} {term next next' : Element} (new : HasNone p before)
      (found : p term) (isTerm : term.name = "dt") (between : ∀ node ∈ mid, ¬ node.hasName "dt")
      (isNext : next.name = "dt") (isNext' : next'.name = "dt")
      (children contents contents' behind behind' : List Node) :
      SameUpToNextTerm p
        (before ++ .element term children :: (mid ++ .element next contents :: behind))
        (before ++ .element term children :: (mid ++ .element next' contents' :: behind'))
  | inside {before children children' : List Node} {e : Element} (new : HasNone p before)
      (other : ¬ p e) (inner : SameUpToNextTerm p children children') (behind behind' : List Node) :
      SameUpToNextTerm p (before ++ .element e children :: behind)
        (before ++ .element e children' :: behind')

theorem find?_append {p : Element → Bool} {spots : Spots} (new : ∀ spot ∈ spots, ¬ p spot.element)
    (more : Spots) : find? p (spots ++ more) = find? p more := by
  have skipped : ∀ spot ∈ spots, (!p spot.element) = true := by simpa using new
  rw [find?, find?, List.dropWhile_append_of_pos skipped]

theorem find?_cons_of_pos {p : Element → Bool} {spot : Spot} (found : p spot.element)
    (more : Spots) : find? p (spot :: more) = some (spot, more) := by
  rw [find?, List.dropWhile_cons_of_neg (by simpa using found)]

theorem find?_cons_of_neg {p : Element → Bool} {spot : Spot} (other : ¬ p spot.element)
    (more : Spots) : find? p (spot :: more) = find? p more := by
  have new : ∀ spot' ∈ [spot], ¬ p spot'.element := by simpa using other
  exact find?_append new more

theorem find?_append_of_some {p : Element → Bool} {spots behind : Spots} {spot : Spot}
    (found : find? p spots = some (spot, behind)) (more : Spots) :
    find? p (spots ++ more) = some (spot, behind ++ more) := by
  induction spots with
  | nil => exact absurd found (by simp [find?])
  | cons first spots ih =>
    by_cases here : p first.element
    · rw [find?_cons_of_pos here] at found
      obtain ⟨rfl, rfl⟩ := Prod.mk.inj (Option.some.inj found)
      exact find?_cons_of_pos here (spots ++ more)
    · rw [find?_cons_of_neg here] at found
      rw [List.cons_append, find?_cons_of_neg here]
      exact ih found

theorem none_of_find?_eq_none {p : Element → Bool} {spots : Spots} (none : find? p spots = none) :
    ∀ spot ∈ spots, ¬ p spot.element := by
  induction spots with
  | nil => simp
  | cons first spots ih =>
    by_cases here : p first.element
    · rw [find?_cons_of_pos here] at none
      exact absurd none (by simp)
    · rw [find?_cons_of_neg here] at none
      simpa [here] using ih none

/-- Elements that are the same up to a term in both lists. -/
def AgreeUpToTerm (xs ys : List Node) : Prop :=
  ∃ common x xs' y ys', xs = common ++ x :: xs' ∧ ys = common ++ y :: ys' ∧
    x.hasName "dt" ∧ y.hasName "dt"

theorem AgreeUpToTerm.append {xs ys : List Node} (h : AgreeUpToTerm xs ys)
    (more more' : List Node) : AgreeUpToTerm (xs ++ more) (ys ++ more') := by
  obtain ⟨common, x, xs', y, ys', rfl, rfl, isTerm, isTerm'⟩ := h
  exact ⟨common, x, xs' ++ more, y, ys' ++ more', by simp, by simp, isTerm, isTerm'⟩

theorem AgreeUpToTerm.takeWhile_eq {xs ys : List Node} (h : AgreeUpToTerm xs ys) :
    xs.takeWhile (!·.hasName "dt") = ys.takeWhile (!·.hasName "dt") := by
  obtain ⟨common, x, xs', y, ys', rfl, rfl, isTerm, isTerm'⟩ := h
  rw [Text.takeWhile_append_cons (by simpa using isTerm),
    Text.takeWhile_append_cons (by simpa using isTerm')]

/-- Places at the same term, with the same definition and the same elements up to a next term. -/
structure SameDefinition (place place' : Spot × Spots) : Prop where
  element : place.1.element = place'.1.element
  isTerm : place.1.element.name = "dt"
  siblings : place.1.siblings.takeWhile (!·.hasName "dt") =
    place'.1.siblings.takeWhile (!·.hasName "dt")
  behind : AgreeUpToTerm (place.2.map Spot.node) (place'.2.map Spot.node)

theorem hasName_element {e : Element} {name : String} (children : List Node)
    (same : e.name = name) : (Node.element e children).hasName name := by
  simpa [hasName, element?] using same

theorem takeWhile_isNext {mid : List Node} {next : Element}
    (between : ∀ node ∈ mid, ¬ node.hasName "dt") (isNext : next.name = "dt")
    (contents behind : List Node) :
    (mid ++ .element next contents :: behind).takeWhile (!·.hasName "dt") = mid := by
  have term := hasName_element contents isNext
  rw [List.takeWhile_append_of_pos (by simpa using between),
    List.takeWhile_cons_of_neg (by simpa using term), List.append_nil]

/-- The spots up to the next term are those of the nodes in front of it. -/
theorem exists_spotsOf_next (later : List (List Node)) (mid : List Node) (next : Element)
    (contents behind : List Node) :
    ∃ more, (spotsOf later (mid ++ .element next contents :: behind)).map Spot.node =
      (spotsOf [] mid).map Spot.node ++ .element next contents :: more := by
  obtain ⟨spots, split, same⟩ := exists_spotsOf_append later mid (.element next contents :: behind)
  rw [split, List.map_append, same, spotsOf, Node.spots]
  exact ⟨_, rfl⟩

theorem find?_spotsOf_append {p : Element → Bool} {before : List Node} (new : HasNone p before)
    (later : List (List Node)) (nodes : List Node) :
    find? p (spotsOf later (before ++ nodes)) = find? p (spotsOf later nodes) := by
  obtain ⟨spots, split, same⟩ := exists_spotsOf_append later before nodes
  rw [split, find?_append (none_of_map_node new same)]

theorem find?_spotsOf_here {p : Element → Bool} {e : Element} (found : p e)
    (later : List (List Node)) (children siblings : List Node) :
    find? p (spotsOf later (.element e children :: siblings)) =
      some ({ element := e, children, siblings, later },
        spotsOf (siblings :: later) children ++ spotsOf later siblings) :=
  find?_cons_of_pos found _

theorem find?_spotsOf_inside {p : Element → Bool} {e : Element} (other : ¬ p e)
    {later : List (List Node)} {children siblings : List Node} {spot : Spot} {behind : Spots}
    (found : find? p (spotsOf (siblings :: later) children) = some (spot, behind)) :
    find? p (spotsOf later (.element e children :: siblings)) =
      some (spot, behind ++ spotsOf later siblings) := by
  rw [spotsOf, Node.spots, List.cons_append, find?_cons_of_neg other]
  exact find?_append_of_some found _

/-- The element is found at the same term in both pages. -/
theorem SameUpToNextTerm.exists_find? {p : Element → Bool} {nodes nodes' : List Node}
    (h : SameUpToNextTerm p nodes nodes') (later later' : List (List Node)) :
    ∃ place place', find? p (spotsOf later nodes) = some place ∧
      find? p (spotsOf later' nodes') = some place' ∧ SameDefinition place place' := by
  induction h generalizing later later' with
  | @here before mid term next next' new found isTerm between isNext isNext' children contents
      contents' behind behind' =>
    rw [find?_spotsOf_append new, find?_spotsOf_here found, find?_spotsOf_append new,
      find?_spotsOf_here found]
    refine ⟨_, _, rfl, rfl, rfl, isTerm, ?_, ?_⟩
    · show List.takeWhile _ (mid ++ _ :: _) = List.takeWhile _ (mid ++ _ :: _)
      rw [takeWhile_isNext between isNext, takeWhile_isNext between isNext']
    · obtain ⟨more, split⟩ := exists_spotsOf_next later mid next contents behind
      obtain ⟨more', split'⟩ := exists_spotsOf_next later' mid next' contents' behind'
      refine ⟨(spotsOf [] children).map Spot.node ++ (spotsOf [] mid).map Spot.node,
        .element next contents, more, .element next' contents', more', ?_, ?_,
        hasName_element contents isNext, hasName_element contents' isNext'⟩
      · rw [List.map_append, split, map_node_spotsOf _ [] children, List.append_assoc]
      · rw [List.map_append, split', map_node_spotsOf _ [] children, List.append_assoc]
  | @inside before children children' e new other inner behind behind' ih =>
    obtain ⟨place, place', found, found', agree⟩ := ih (behind :: later) (behind' :: later')
    rw [find?_spotsOf_append new, find?_spotsOf_inside other found, find?_spotsOf_append new,
      find?_spotsOf_inside other found']
    refine ⟨_, _, rfl, rfl, agree.element, agree.isTerm, agree.siblings, ?_⟩
    rw [List.map_append, List.map_append]
    exact agree.behind.append _ _

theorem paragraphs_congr {spots spots' : Spots} (same : spots.map Spot.node = spots'.map Spot.node)
    (base : Option Url) (most least : Nat) :
    paragraphs base most least spots = paragraphs base most least spots' := by
  have asNodes : ∀ spots : Spots,
      (spots.filter (·.element.name == "p")).map (fun spot => Markdown.render base spot.node) =
        ((spots.map Spot.node).filter (·.hasName "p")).map (Markdown.render base) := by
    intro spots
    rw [List.filter_map, List.map_map]
    rfl
  rw [paragraphs, asNodes, same, ← asNodes, ← paragraphs]

/-- The elements among which paragraphs are looked for are those up to the next term. -/
theorem map_node_upToTerm (behind : Spots) (most : Nat) :
    ((behind.take most).takeWhile (·.element.name != "dt")).map Spot.node =
      ((behind.map Spot.node).takeWhile (!·.hasName "dt")).take most := by
  rw [← List.take_takeWhile, List.map_take, List.takeWhile_map]
  rfl

theorem nextParagraphs_congr {behind behind' : Spots}
    (agree : AgreeUpToTerm (behind.map Spot.node) (behind'.map Spot.node)) (base : Option Url) :
    nextParagraphs base behind = nextParagraphs base behind' := by
  refine paragraphs_congr ?_ base _ _
  rw [map_node_upToTerm, map_node_upToTerm, agree.takeWhile_eq]

theorem anchored?_eq_find? (anchor : Text) (spots : Spots) :
    anchored? (anchor.dropWhile (· == '#')) spots = find? (carries anchor) spots := rfl

theorem renderSpot_of_term {spot : Spot} (term : spot.element.name = "dt") (base : Option Url) :
    renderSpot base spot = definitionText base spot := by
  rw [renderSpot, term]
  rfl

/-- What a term is about does not depend on its next term and on what stands behind it. -/
theorem sectionOf?_congr {anchor : Text} {nodes nodes' : List Node}
    (same : SameUpToNextTerm (carries anchor) nodes nodes') (base : Option Url) :
    sectionOf? nodes' anchor base = sectionOf? nodes anchor base := by
  obtain ⟨⟨spot, behind⟩, ⟨spot', behind'⟩, found, found', agree⟩ := same.exists_find? [] []
  have text : renderSpot base spot' = renderSpot base spot := by
    rw [renderSpot_of_term agree.isTerm, renderSpot_of_term (agree.element ▸ agree.isTerm),
      definitionText, definitionText, agree.siblings]
  have more := nextParagraphs_congr agree.behind base
  rw [sectionOf?, sectionOf?, anchored?_eq_find?, anchored?_eq_find?, found, found']
  simp only [Option.bind_eq_bind, Option.bind_some, text, more]

theorem exists_element_of_hasName {node : Node} {name : String} (h : node.hasName name) :
    ∃ e children, node = .element e children ∧ e.name = name := by
  cases node with
  | element e children => exact ⟨e, children, rfl, by simpa [hasName, element?] using h⟩
  | text _ => simp [hasName, element?] at h
  | comment => simp [hasName, element?] at h

theorem exists_next {siblings : List Node} (h : ∃ node ∈ siblings, node.hasName "dt") :
    ∃ mid next contents behind, siblings = mid ++ .element next contents :: behind ∧
      next.name = "dt" ∧ ∀ node ∈ mid, ¬ node.hasName "dt" := by
  induction siblings with
  | nil => simp at h
  | cons node siblings ih =>
    by_cases here : node.hasName "dt"
    · obtain ⟨next, contents, rfl, isNext⟩ := exists_element_of_hasName here
      exact ⟨[], next, contents, siblings, rfl, isNext, by simp⟩
    · obtain ⟨mid, next, contents, behind, rfl, isNext, between⟩ := ih (by simpa [here] using h)
      exact ⟨node :: mid, next, contents, behind, rfl, isNext, by simpa [here] using between⟩

theorem SameUpToNextTerm.cons {p : Element → Bool} {node : Node} {nodes nodes' : List Node}
    (skip : HasNone p [node]) (h : SameUpToNextTerm p nodes nodes') :
    SameUpToNextTerm p (node :: nodes) (node :: nodes') := by
  cases h with
  | here new found isTerm between isNext isNext' =>
    exact .here (skip.cons new) found isTerm between isNext isNext' _ _ _ _ _
  | inside new other inner => exact .inside (skip.cons new) other inner _ _

mutual

/-- A page is the same as itself up to a term next to the one that is found in it. -/
theorem sameUpToNextTerm_cons {p : Element → Bool} {spot : Spot} {behind : Spots}
    (isTerm : spot.element.name = "dt") (next : ∃ node ∈ spot.siblings, node.hasName "dt") :
    ∀ (node : Node) (siblings : List Node) (later : List (List Node)),
      find? p (node.spots siblings later) = some (spot, behind) →
      SameUpToNextTerm p (node :: siblings) (node :: siblings)
  | .element e children, siblings, later, found => by
    by_cases here : p e
    · rw [Node.spots, find?_cons_of_pos here] at found
      obtain ⟨rfl, rfl⟩ := Prod.mk.inj (Option.some.inj found)
      obtain ⟨mid, next, contents, behind, rfl, isNext, between⟩ := exists_next next
      exact .here (hasNone_nil p) here isTerm between isNext isNext _ _ _ _ _
    · rw [Node.spots, find?_cons_of_neg here] at found
      exact .inside (hasNone_nil p) here (sameUpToNextTerm_self isTerm next children _ found) _ _

theorem sameUpToNextTerm_self {p : Element → Bool} {spot : Spot} {behind : Spots}
    (isTerm : spot.element.name = "dt") (next : ∃ node ∈ spot.siblings, node.hasName "dt") :
    ∀ (nodes : List Node) (later : List (List Node)),
      find? p (spotsOf later nodes) = some (spot, behind) → SameUpToNextTerm p nodes nodes
  | node :: nodes, later, found => by
    cases first : find? p (node.spots nodes later) with
    | some place =>
      have whole := find?_append_of_some first (spotsOf later nodes)
      obtain ⟨same, -⟩ := Prod.mk.inj (Option.some.inj (whole.symm.trans found))
      subst same
      exact sameUpToNextTerm_cons isTerm next node nodes later first
    | none =>
      have skip := none_of_find?_eq_none first
      rw [spotsOf, find?_append skip] at found
      have same : (spotsOf [] [node]).map Spot.node = (node.spots nodes later).map Spot.node := by
        rw [spotsOf, spotsOf, List.append_nil]
        exact map_node_spots [] nodes [] later node
      exact (sameUpToNextTerm_self isTerm next nodes later found).cons (none_of_map_node skip same)

end

/-- Whether an anchor stands for a term that has another one behind it in its list. -/
def isBeforeTerm (nodes : List Node) (anchor : Text) : Bool :=
  (anchored? (anchor.dropWhile (· == '#')) (spotsOf [] nodes)).any fun (spot, _) =>
    spot.element.name == "dt" && spot.siblings.any (·.hasName "dt")

/-- What a term is about is found in front of the next one: a page with anything else in that one
and behind it, which the page itself is an instance of, gives the same text. -/
theorem sectionText?_isolated {html anchor : Text} (h : isBeforeTerm (parsePage html) anchor)
    (url : Text) :
    SameUpToNextTerm (carries anchor) (parsePage html) (parsePage html) ∧
      ∀ nodes, SameUpToNextTerm (carries anchor) (parsePage html) nodes →
        sectionOf? nodes anchor (Url.ofText? url) = sectionText? html anchor url := by
  refine ⟨?_, fun nodes same => sectionOf?_congr same (Url.ofText? url)⟩
  rw [isBeforeTerm, Option.any_eq_true] at h
  obtain ⟨⟨spot, behind⟩, found, h⟩ := h
  have parts : spot.element.name = "dt" ∧ ∃ node ∈ spot.siblings, node.hasName "dt" := by
    simpa using h
  exact sameUpToNextTerm_self parts.1 parts.2 (parsePage html) [] found

def shortTerm : Text := "<dl><dt id=a>a<dd>First.<dt>b<dd>Second.</dl>"

/-- The page of a short term, with other nodes from the next term on. -/
def shortTermWith (contents behind : List Node) : List Node :=
  let term : Node := .element { name := "dt", attributes := [("id", "a")] } [.text "a"]
  let first : Node := .element { name := "dd" } [.text "First."]
  [.element { name := "html" } [.element { name := "head" } [], .element { name := "body" }
    [.element { name := "dl" }
      (term :: ([first] ++ .element { name := "dt" } contents :: behind))]]]

theorem parsePage_shortTerm : parsePage shortTerm =
    shortTermWith [.text "b"] [.element { name := "dd" } [.text "Second."]] := rfl

theorem shortTermWith_same (contents behind : List Node) :
    SameUpToNextTerm (carries "a") (parsePage shortTerm) (shortTermWith contents behind) := by
  rw [parsePage_shortTerm]
  have head : HasNone (carries "a") [.element { name := "head" } []] := by
    simpa [HasNone, spotsOf, Node.spots] using (by decide : ¬ carries "a" { name := "head" })
  have between : ∀ node ∈ [Node.element { name := "dd" } [.text "First."]],
      ¬ node.hasName "dt" := by
    simp [hasName, element?]
  refine .inside (hasNone_nil _) (by decide) ?_ [] []
  refine .inside head (by decide) ?_ [] []
  refine .inside (hasNone_nil _) (by decide) ?_ [] []
  exact .here (hasNone_nil _) (by decide) rfl between rfl rfl _ _ _ _ _

/-- The text of a short term stays as it is when a long one comes next. -/
theorem sectionText?_isolated_shortTerm :
    isBeforeTerm (parsePage shortTerm) "a" ∧ sectionOf? (shortTermWith
      [.element { name := "p" } [.text "A paragraph that is longer than what a term has."]] [])
      "a" none = sectionText? shortTerm "a" "" := by
  have h : isBeforeTerm (parsePage shortTerm) "a" := by decide +kernel
  exact ⟨h, (sectionText?_isolated h "").2 _ (shortTermWith_same _ [])⟩

end SymbolDocs.Page
