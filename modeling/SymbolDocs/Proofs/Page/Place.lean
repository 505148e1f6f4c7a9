import SymbolDocs.Proofs.Page.Anchor
import SymbolDocs.Proofs.Text.Trim

namespace SymbolDocs.Page

open Html Node

/-- The elements among some nodes, in the order of the page. -/
def elements (nodes : List Node) : List Node := (spotsOf [] nodes).map Spot.node

/-- An element with what stands behind it. -/
structure Place where
  element : Element
  children : List Node
  siblings : List Node
  /-- The elements around it, innermost first, each with the nodes behind it. -/
  enclosing : List (Element × List Node) := []

namespace Place

def within (place : Place) (e : Element) (behind : List Node) : Place :=
  { place with enclosing := place.enclosing ++ [(e, behind)] }

/-- The elements behind the start of a place that stand in the innermost list around it. -/
def own (place : Place) : List Node :=
  elements place.children ++ elements place.siblings ++
    (place.enclosing.takeWhile (·.1.name != "dl")).flatMap (elements ·.2)

/-- The elements behind that list. -/
def foreign (place : Place) : List Node :=
  (place.enclosing.dropWhile (·.1.name != "dl")).flatMap (elements ·.2)

def definition (base : Option Url) (place : Place) : Text :=
  Markdown.renderAll base (place.siblings.takeWhile (!·.hasName "dt"))

theorem own_append_foreign (place : Place) : place.own ++ place.foreign =
    elements place.children ++ elements place.siblings ++
      place.enclosing.flatMap (elements ·.2) := by
  rw [own, foreign, List.append_assoc, ← List.flatMap_append, List.takeWhile_append_dropWhile]

theorem within_own_append_foreign (place : Place) (e : Element) (behind : List Node) :
    (place.within e behind).own ++ (place.within e behind).foreign =
      place.own ++ place.foreign ++ elements behind := by
  rw [own_append_foreign, own_append_foreign, within, List.flatMap_append, List.flatMap_singleton,
    List.append_assoc, List.append_assoc, List.append_assoc]

end Place

mutual

/-- The place of the first element that satisfies `p`, in a node with others behind it. -/
def place? (p : Element → Bool) (siblings : List Node) : Node → Option Place
  | .element e children =>
    if p e then some { element := e, children, siblings }
    else (placeIn? p children).map (·.within e siblings)
  | _ => none

/-- The place of the first element that satisfies `p`. -/
def placeIn? (p : Element → Bool) : List Node → Option Place
  | [] => none
  | node :: more => (place? p more node).or (placeIn? p more)

end

theorem find?_append_eq (p : Element → Bool) (spots more : Spots) :
    find? p (spots ++ more) =
      ((find? p spots).map fun (spot, behind) => (spot, behind ++ more)).or (find? p more) := by
  cases found : find? p spots with
  | none => rw [find?_append (none_of_find?_eq_none found)]; rfl
  | some place => rw [find?_append_of_some found]; rfl

/-- An element that is found, the nodes next to it, and the elements behind it with some more. -/
def outline (more : List Node) (found : Spot × Spots) : Element × List Node × List Node :=
  (found.1.element, found.1.siblings, found.2.map Spot.node ++ more)

def Place.outline (place : Place) : Element × List Node × List Node :=
  (place.element, place.siblings, place.own ++ place.foreign)

theorem map_node_eq_elements (later : List (List Node)) (nodes : List Node) :
    (spotsOf later nodes).map Spot.node = elements nodes := map_node_spotsOf later [] nodes

mutual

theorem outline_find?_spots (p : Element → Bool) (siblings : List Node)
    (later : List (List Node)) : ∀ node : Node,
      (find? p (node.spots siblings later)).map (outline (elements siblings)) =
        (place? p siblings node).map Place.outline
  | .element e children => by
    by_cases here : p e
    · rw [Node.spots, find?_cons_of_pos here, place?, if_pos here, Option.map_some,
        Option.map_some, outline, map_node_eq_elements, Place.outline, Place.own_append_foreign,
        List.flatMap_nil, List.append_nil]
    · have inside := outline_find?_spotsOf p (siblings :: later) children
      have behind : Place.outline ∘ (Place.within · e siblings) =
          (fun (e, nodes, behind) => (e, nodes, behind ++ elements siblings)) ∘ Place.outline := by
        funext place
        rw [Function.comp_apply, Place.outline, Place.within_own_append_foreign]
        rfl
      have same : outline (elements siblings) =
          (fun (e, nodes, behind) => (e, nodes, behind ++ elements siblings)) ∘ outline [] := by
        funext place
        rw [outline, Function.comp_apply, outline, List.append_nil]
      rw [Node.spots, find?_cons_of_neg here, place?, if_neg here, Option.map_map, behind, same,
        ← Option.map_map, ← Option.map_map, inside]
  | .text _ => rfl
  | .comment => rfl

/-- A place is where the first element is found. -/
theorem outline_find?_spotsOf (p : Element → Bool) (later : List (List Node)) :
    ∀ nodes : List Node, (find? p (spotsOf later nodes)).map (outline []) =
      (placeIn? p nodes).map Place.outline
  | [] => rfl
  | node :: more => by
    have here := outline_find?_spots p more later node
    have rest := outline_find?_spotsOf p later more
    have same : outline [] ∘ (fun (spot, behind) => (spot, behind ++ spotsOf later more)) =
        outline (elements more) := by
      funext place
      rw [Function.comp_apply, outline, outline, List.map_append, map_node_eq_elements,
        List.append_nil]
    rw [spotsOf, find?_append_eq, placeIn?, Option.map_or, Option.map_or, rest, ← here,
      Option.map_map, same]

end

theorem exists_find?_of_placeIn? {p : Element → Bool} {nodes : List Node} {place : Place}
    (found : placeIn? p nodes = some place) : ∃ spot behind,
      find? p (spotsOf [] nodes) = some (spot, behind) ∧ spot.element = place.element ∧
        spot.siblings = place.siblings ∧ behind.map Spot.node = place.own ++ place.foreign := by
  have outlines := outline_find?_spotsOf p [] nodes
  rw [found, Option.map_some] at outlines
  obtain ⟨⟨spot, behind⟩, first, same⟩ := Option.map_eq_some_iff.mp outlines
  refine ⟨spot, behind, first, ?_⟩
  simpa [outline, Place.outline] using same

section FirstPicks

variable {α : Type} {stays picks : α → Bool}

/-- The first `k` elements that are picked among the first `n`, in front of any that does not
stay. -/
def firstPicks (stays picks : α → Bool) (n k : Nat) (l : List α) : List α :=
  (((l.takeWhile stays).take n).filter picks).take k

theorem sublist_firstPicks (n k : Nat) (l : List α) : (firstPicks stays picks n k l).Sublist l :=
  (List.take_sublist _ _).trans <| List.filter_sublist.trans <|
    (List.take_sublist _ _).trans (List.takeWhile_sublist _)

/-- Where a search goes on behind a list, it has as much less to go as it has seen there. -/
theorem firstPicks_append (n k : Nat) (l more : List α) :
    firstPicks stays picks n k (l ++ more) = firstPicks stays picks n k l ++
      if l.all stays then
        firstPicks stays picks (n - l.length) (k - ((l.take n).filter picks).length) more
      else [] := by
  by_cases all : l.all stays
  · have stay := List.all_eq_true.mp all
    have whole : l.takeWhile stays = l := List.takeWhile_eq_self_iff.mpr stay
    rw [if_pos all, firstPicks, List.takeWhile_append_of_pos stay, List.take_append,
      List.filter_append, List.take_append, firstPicks, whole]
    rfl
  · have stops : (l ++ more).takeWhile stays = l.takeWhile stays := by
      rw [List.takeWhile_append, if_neg]
      intro size
      have whole := (List.takeWhile_prefix stays).eq_of_length size
      exact all (List.all_eq_true.mpr (List.takeWhile_eq_self_iff.mp whole))
    rw [if_neg all, List.append_nil, firstPicks, stops]
    rfl

/-- Something is picked exactly when it stands in front of all three bounds. -/
theorem firstPicks_ne_nil_iff (stay_of_pick : ∀ x, picks x → stays x) {n k : Nat} {l : List α} :
    firstPicks stays picks n k l ≠ [] ↔ ∃ seen x rest, l = seen ++ x :: rest ∧ picks x ∧
      (∀ y ∈ seen, stays y) ∧ seen.length < n ∧ (seen.filter picks).length < k := by
  constructor
  · intro found
    induction l generalizing n with
    | nil => simp [firstPicks] at found
    | cons y l ih =>
      have go : stays y := by
        by_contra stop
        simp [firstPicks, stop] at found
      cases n with
      | zero => simp [firstPicks] at found
      | succ n =>
        by_cases pick : picks y
        · have room : 0 < k := by
            by_contra full
            simp [firstPicks, Nat.eq_zero_of_not_pos full] at found
          exact ⟨[], y, l, rfl, pick, by simp, Nat.succ_pos n, room⟩
        · have step : firstPicks stays picks (n + 1) k (y :: l) = firstPicks stays picks n k l := by
            simp [firstPicks, go, pick]
          obtain ⟨seen, x, rest, rfl, holds, stay, near, few⟩ := ih (step ▸ found)
          refine ⟨y :: seen, x, rest, rfl, holds, ?_, Nat.succ_lt_succ near, ?_⟩
          · exact List.forall_mem_cons.mpr ⟨go, stay⟩
          · rwa [List.filter_cons_of_neg pick]
  · rintro ⟨seen, x, rest, rfl, pick, stay, near, few⟩
    have short : seen.take n = seen := List.take_of_length_le (Nat.le_of_lt near)
    obtain ⟨n', left⟩ := Nat.exists_eq_add_of_lt near
    obtain ⟨k', room⟩ := Nat.exists_eq_add_of_lt few
    have n_eq : n - seen.length = n' + 1 := by omega
    have k_eq : k - (seen.filter picks).length = k' + 1 := by omega
    rw [firstPicks_append, if_pos (List.all_eq_true.mpr stay), short, n_eq, k_eq]
    simp [firstPicks, pick, stay_of_pick x pick]

end FirstPicks

/-- Whether a node is shown in the place of a text that is too short. -/
def isParagraph (base : Option Url) (node : Node) : Bool :=
  node.hasName "p" && Limits.paragraphChars < (Markdown.render base node).length

theorem not_hasName_of_isParagraph (base : Option Url) (node : Node)
    (paragraph : isParagraph base node) : !node.hasName "dt" := by
  rw [isParagraph, Bool.and_eq_true] at paragraph
  obtain ⟨e, children, rfl, name⟩ := exists_element_of_hasName paragraph.1
  simp [hasName, element?, name]

/-- What is shown in the place of a definition that is too short: the first paragraphs among the
nodes behind its term, if they are near and in front of the next term. -/
def firstParagraphs (base : Option Url) (nodes : List Node) : List Node :=
  firstPicks (!·.hasName "dt") (isParagraph base) Limits.fallbackElements Limits.paragraphCount nodes

theorem nextParagraphs_eq (base : Option Url) (behind : Spots) : nextParagraphs base behind =
    (firstParagraphs base (behind.map Spot.node)).map (Markdown.render base) := by
  have same : ∀ spot : Spot, isParagraph base spot.node =
      (decide (Limits.paragraphChars < (Markdown.render base spot.node).length) &&
        spot.element.name == "p") := by
    intro spot
    rw [isParagraph, Bool.and_comm]
    rfl
  rw [firstParagraphs, firstPicks, ← map_node_upToTerm, nextParagraphs, paragraphs, List.map_take,
    List.filter_map, List.filter_map, List.map_map, List.filter_filter]
  apply congrArg
  apply congrArg
  apply List.filter_congr
  intro spot _
  rw [Function.comp_apply, Function.comp_apply, same]

/-- What may stand in front of a paragraph that is still shown. -/
structure IsReached (base : Option Url) (between : List Node) : Prop where
  sameTerm : ∀ node ∈ between, ¬ node.hasName "dt"
  near : between.length < Limits.fallbackElements
  few : (between.filter (isParagraph base)).length < Limits.paragraphCount

/-- Behind some nodes, a paragraph among others is still shown. -/
def HasParagraph (base : Option Url) (before nodes : List Node) : Prop :=
  ∃ seen node rest, nodes = seen ++ node :: rest ∧ isParagraph base node ∧
    IsReached base (before ++ seen)

/-- Behind nodes without a term, the search has a paragraph left to show exactly when one is still
in reach. -/
theorem firstPicks_ne_nil_iff_hasParagraph {base : Option Url} {before nodes : List Node}
    (sameTerm : ∀ node ∈ before, ¬ node.hasName "dt") :
    firstPicks (!·.hasName "dt") (isParagraph base) (Limits.fallbackElements - before.length)
        (Limits.paragraphCount -
          ((before.take Limits.fallbackElements).filter (isParagraph base)).length) nodes ≠ [] ↔
      HasParagraph base before nodes := by
  rw [firstPicks_ne_nil_iff (not_hasName_of_isParagraph base)]
  constructor
  · rintro ⟨seen, node, rest, split, paragraph, stay, near, few⟩
    have short : before.take Limits.fallbackElements = before :=
      List.take_of_length_le (by omega)
    rw [short] at few
    refine ⟨seen, node, rest, split, paragraph, ?_, ?_, ?_⟩
    · rw [List.forall_mem_append]
      exact ⟨sameTerm, by simpa using stay⟩
    · rw [List.length_append]
      omega
    · rw [List.filter_append, List.length_append]
      omega
  · rintro ⟨seen, node, rest, split, paragraph, stay, near, few⟩
    rw [List.length_append] at near
    rw [List.filter_append, List.length_append] at few
    have short : before.take Limits.fallbackElements = before :=
      List.take_of_length_le (by omega)
    rw [List.forall_mem_append] at stay
    rw [short]
    exact ⟨seen, node, rest, split, paragraph, by simpa using stay.2, by omega, by omega⟩

theorem firstParagraphs_ne_nil_iff {base : Option Url} {nodes : List Node} :
    firstParagraphs base nodes ≠ [] ↔ HasParagraph base [] nodes :=
  firstPicks_ne_nil_iff_hasParagraph (List.forall_mem_nil _)

/-- The paragraphs shown of some nodes and of more behind them: those of the nodes come first, as if
there were no more. -/
theorem exists_firstParagraphs_append (base : Option Url) (nodes more : List Node) :
    ∃ shown, shown.Sublist more ∧
      firstParagraphs base (nodes ++ more) = firstParagraphs base nodes ++ shown ∧
      (shown ≠ [] ↔ HasParagraph base nodes more) := by
  refine ⟨_, ?_, firstPicks_append _ _ nodes more, ?_⟩
  · split
    · exact sublist_firstPicks _ _ more
    · exact List.nil_sublist more
  · split
    · next all => exact firstPicks_ne_nil_iff_hasParagraph (by simpa using all)
    · next stops =>
      refine iff_of_false (fun ne => ne rfl) ?_
      rintro ⟨seen, node, rest, -, -, reached⟩
      have before := (List.forall_mem_append.mp reached.sameTerm).1
      exact stops (by simpa using before)

/-- The text of a term is its definition or, where that is short, made of the first paragraphs behind
the term, as far as they are in reach: `own` ones in its list and `foreign` ones behind the list. -/
structure IsTermText (base : Option Url) (place : Place) (text : Option Text)
    (own foreign : List Node) : Prop where
  sublist : own.Sublist place.own
  sublist_foreign : foreign.Sublist place.foreign
  paragraphs : ∀ node ∈ own ++ foreign, isParagraph base node
  few : (own ++ foreign).length ≤ Limits.paragraphCount
  text : text = (joined? ((own ++ foreign).map (Markdown.render base))).or
    (Text.nonEmpty? (place.definition base))
  long : Limits.leastSectionChars ≤ (place.definition base).length → own ++ foreign = []
  short : (place.definition base).length < Limits.leastSectionChars →
    own = firstParagraphs base place.own ∧
      own ++ foreign = firstParagraphs base (place.own ++ place.foreign)
  replaced : own ++ foreign ≠ [] ↔ (place.definition base).length < Limits.leastSectionChars ∧
    HasParagraph base [] (place.own ++ place.foreign)
  leaves : foreign ≠ [] ↔ (place.definition base).length < Limits.leastSectionChars ∧
    HasParagraph base place.own place.foreign

theorem isTermText_of_long {base : Option Url} {place : Place}
    (long : Limits.leastSectionChars ≤ (place.definition base).length) :
    IsTermText base place (some (place.definition base)) [] [] := by
  have notShort : ¬ (place.definition base).length < Limits.leastSectionChars :=
    Nat.not_lt_of_le long
  constructor
  case sublist => exact List.nil_sublist _
  case sublist_foreign => exact List.nil_sublist _
  case paragraphs => exact nofun
  case few => exact Nat.zero_le _
  case text =>
    have shown : place.definition base ≠ [] := by
      rw [← List.length_pos_iff]
      exact Nat.lt_of_lt_of_le (by decide) long
    rw [Text.nonEmpty?_eq_some shown]
    rfl
  case long => exact fun _ => rfl
  case short => exact fun short => absurd short notShort
  case replaced => exact iff_of_false (fun ne => ne rfl) fun h => notShort h.1
  case leaves => exact iff_of_false (fun ne => ne rfl) fun h => notShort h.1

theorem exists_isTermText_of_short {base : Option Url} {place : Place} {behind : Spots}
    (short : (place.definition base).length < Limits.leastSectionChars)
    (nodes : behind.map Spot.node = place.own ++ place.foreign) :
    ∃ own foreign, IsTermText base place
      ((joined? (nextParagraphs base behind)).or (Text.nonEmpty? (place.definition base)))
      own foreign := by
  obtain ⟨foreign, inForeign, eq, leaves⟩ :=
    exists_firstParagraphs_append base place.own place.foreign
  refine ⟨firstParagraphs base place.own, foreign, ?_⟩
  constructor
  case sublist => exact sublist_firstPicks _ _ _
  case sublist_foreign => exact inForeign
  case paragraphs =>
    intro node mem
    rw [← eq] at mem
    exact (List.mem_filter.mp (List.mem_of_mem_take mem)).2
  case few =>
    rw [← eq]
    exact List.length_take_le _ _
  case text => rw [nextParagraphs_eq, nodes, eq]
  case long => exact fun long => absurd short (Nat.not_lt_of_le long)
  case short => exact fun _ => ⟨rfl, eq.symm⟩
  case replaced =>
    rw [← eq, firstParagraphs_ne_nil_iff]
    exact (and_iff_right short).symm
  case leaves =>
    rw [leaves]
    exact (and_iff_right short).symm

theorem exists_isTermText {html anchor : Text} {place : Place}
    (asked : anchor.dropWhile (· == '#') ≠ [])
    (found : placeIn? (carries anchor) (parsePage html) = some place)
    (term : place.element.name = "dt") (url : Text) :
    ∃ own foreign,
      IsTermText (Url.ofText? url) place (sectionText? html anchor url) own foreign := by
  generalize based : Url.ofText? url = base
  obtain ⟨spot, behind, first, element, siblings, nodes⟩ := exists_find?_of_placeIn? found
  have definition : renderSpot base spot = place.definition base := by
    rw [renderSpot_of_term (element ▸ term), definitionText, siblings, Place.definition]
  have text : sectionText? html anchor url = placeText? base spot behind := by
    rw [sectionText?, based, sectionOf?_eq asked, first, Option.bind_some]
  rw [text, placeText?]
  simp only [definition]
  by_cases long : Limits.leastSectionChars ≤ (place.definition base).length
  · rw [if_pos long]
    exact ⟨[], [], isTermText_of_long long⟩
  · rw [if_neg long]
    exact exists_isTermText_of_short (Nat.lt_of_not_le long) nodes

def lastTerm : Text :=
  "<dl><dt id=a>a<dd>Short.</dl><p>A paragraph that is about something else.</p>"

/-- What can be compared of a place: the name of its element, its definition, what is foreign. -/
def Place.excerpt (place : Place) : String × Text × List (Bool × Text) :=
  (place.element.name, place.definition none,
    place.foreign.map fun node => (node.hasName "p", Markdown.render none node))

theorem excerpt_lastTerm :
    (placeIn? (carries "a") (parsePage lastTerm)).map Place.excerpt =
      some ("dt", "Short.".toList,
        [(true, "A paragraph that is about something else.".toList)]) := by
  decide +kernel

theorem exists_isTermText_lastTerm : ∃ place,
    placeIn? (carries "a") (parsePage lastTerm) = some place ∧ place.element.name = "dt" ∧
      ∃ own foreign,
        IsTermText (Url.ofText? "") place (sectionText? lastTerm "a" "") own foreign := by
  obtain ⟨place, found, eq⟩ := Option.map_eq_some_iff.mp excerpt_lastTerm
  have term : place.element.name = "dt" := congrArg Prod.fst eq
  exact ⟨place, found, term, exists_isTermText (by decide) found term ""⟩

/-- The last term of a list has a definition, but its text is a paragraph behind the list. -/
theorem exists_foreign_lastTerm : ∃ place,
    placeIn? (carries "a") (parsePage lastTerm) = some place ∧ place.element.name = "dt" ∧
      place.definition none = "Short.".toList ∧ ∃ node ∈ place.foreign, node.hasName "p" ∧
        sectionText? lastTerm "a" "" = some (Markdown.render none node) := by
  obtain ⟨place, found, eq⟩ := Option.map_eq_some_iff.mp excerpt_lastTerm
  obtain ⟨term, definition, shown⟩ : place.element.name = "dt" ∧
      place.definition none = "Short.".toList ∧
      place.foreign.map (fun node => (node.hasName "p", Markdown.render none node)) =
        [(true, "A paragraph that is about something else.".toList)] := by
    simpa only [Place.excerpt, Prod.mk.injEq] using eq
  obtain ⟨node, behind, node_eq⟩ := List.map_eq_singleton_iff.mp shown
  obtain ⟨paragraph, text⟩ := Prod.mk.inj node_eq
  refine ⟨place, found, term, definition, node, ?_, paragraph, ?_⟩
  · rw [behind]
    exact List.mem_singleton_self node
  · rw [text]
    decide +kernel

end SymbolDocs.Page
