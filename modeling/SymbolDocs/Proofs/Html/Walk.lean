import SymbolDocs.Html.Node

namespace SymbolDocs.Html.Node

mutual

/-- The elements that are read from a node on do not depend on what stands around it. -/
theorem map_node_spots (siblings siblings' : List Node) (later later' : List (List Node)) :
    ∀ node : Node, (node.spots siblings later).map Spot.node =
      (node.spots siblings' later').map Spot.node
  | .element e children => by
    rw [spots, spots, List.map_cons, List.map_cons,
      map_node_spotsOf (siblings :: later) (siblings' :: later') children]
    rfl
  | .text _ => rfl
  | .comment => rfl

theorem map_node_spotsOf (later later' : List (List Node)) :
    ∀ nodes : List Node, (spotsOf later nodes).map Spot.node = (spotsOf later' nodes).map Spot.node
  | [] => rfl
  | node :: more => by
    rw [spotsOf, spotsOf, List.map_append, List.map_append,
      map_node_spots more more later later' node, map_node_spotsOf later later' more]

end

/-- The spots of nodes with others behind them: the same elements, with more siblings. -/
theorem exists_spotsOf_append (later : List (List Node)) (nodes behind : List Node) :
    ∃ spots, spotsOf later (nodes ++ behind) = spots ++ spotsOf later behind ∧
      spots.map Spot.node = (spotsOf [] nodes).map Spot.node := by
  induction nodes with
  | nil => exact ⟨[], rfl, rfl⟩
  | cons node nodes ih =>
    obtain ⟨spots, split, same⟩ := ih
    refine ⟨node.spots (nodes ++ behind) later ++ spots, ?_, ?_⟩
    · rw [List.cons_append, spotsOf, split, List.append_assoc]
    · rw [spotsOf, List.map_append, List.map_append, same,
        map_node_spots (nodes ++ behind) nodes later [] node]

theorem element_of_node {spot spot' : Spot} (same : spot.node = spot'.node) :
    spot.element = spot'.element := (Node.element.inj same).1

/-- None of the elements of some nodes satisfies `p`. -/
def HasNone (p : Element → Bool) (nodes : List Node) : Prop :=
  ∀ spot ∈ spotsOf [] nodes, ¬ p spot.element

theorem none_of_map_node {p : Element → Bool} {spots spots' : List Spot}
    (none : ∀ spot ∈ spots, ¬ p spot.element) (same : spots'.map Spot.node = spots.map Spot.node) :
    ∀ spot ∈ spots', ¬ p spot.element := by
  intro spot mem
  have mem' : spot.node ∈ spots.map Spot.node := same ▸ List.mem_map_of_mem mem
  obtain ⟨spot', mem'', node⟩ := List.mem_map.mp mem'
  rw [← element_of_node node]
  exact none spot' mem''

theorem hasNone_nil (p : Element → Bool) : HasNone p [] := by
  simp [HasNone, spotsOf]

theorem HasNone.cons {p : Element → Bool} {node : Node} {nodes : List Node}
    (h : HasNone p [node]) (hs : HasNone p nodes) : HasNone p (node :: nodes) := by
  obtain ⟨spots, split, same⟩ := exists_spotsOf_append [] [node] nodes
  intro spot mem
  rw [← List.singleton_append, split] at mem
  rcases List.mem_append.mp mem with mem | mem
  · exact none_of_map_node h same spot mem
  · exact hs spot mem

/-- Whether a walk comes to an element that satisfies `p`. -/
def enters (p : Element → Bool) : Event → Bool
  | .enter e => p e
  | _ => false

/-- What a walk meets behind the end of the innermost element that is open, `depth` elements having
begun in it. -/
def behindEnd : Nat → List Event → List Event
  | _, [] => []
  | depth, .enter _ :: more => behindEnd (depth + 1) more
  | depth, .text _ :: more => behindEnd depth more
  | 0, .leave _ :: more => more
  | depth + 1, .leave _ :: more => behindEnd depth more

/-- A walk without the ends of the elements that had begun before it; `depth` elements have begun in
it and are open. -/
def ownEvents : Nat → List Event → List Event
  | _, [] => []
  | depth, .enter e :: more => .enter e :: ownEvents (depth + 1) more
  | depth, .text s :: more => .text s :: ownEvents depth more
  | 0, .leave _ :: more => ownEvents 0 more
  | depth + 1, .leave e :: more => .leave e :: ownEvents depth more

theorem eventsOf_append (nodes more : List Node) :
    eventsOf (nodes ++ more) = eventsOf nodes ++ eventsOf more := by
  induction nodes with
  | nil => rfl
  | cons node nodes ih => rw [List.cons_append, eventsOf, eventsOf, ih, List.append_assoc]

mutual

theorem behindEnd_events (depth : Nat) (rest : List Event) :
    ∀ node : Node, behindEnd depth (node.events ++ rest) = behindEnd depth rest
  | .element e children => by
    have inner := behindEnd_eventsOf (depth + 1) (.leave e :: rest) children
    rw [events, List.append_assoc, List.cons_append, behindEnd, List.singleton_append, inner,
      behindEnd]
  | .text _ => by rw [events, List.singleton_append, behindEnd]
  | .comment => by rw [events, List.nil_append]

/-- What begins and ends in a walk changes nothing for what is open. -/
theorem behindEnd_eventsOf (depth : Nat) (rest : List Event) :
    ∀ nodes : List Node, behindEnd depth (eventsOf nodes ++ rest) = behindEnd depth rest
  | [] => by rw [eventsOf, List.nil_append]
  | node :: more => by
    rw [eventsOf, List.append_assoc, behindEnd_events depth _ node,
      behindEnd_eventsOf depth rest more]

end

mutual

theorem ownEvents_events (depth : Nat) (rest : List Event) :
    ∀ node : Node, ownEvents depth (node.events ++ rest) = node.events ++ ownEvents depth rest
  | .element e children => by
    have inner := ownEvents_eventsOf (depth + 1) (.leave e :: rest) children
    rw [events, List.append_assoc, List.cons_append, ownEvents, List.singleton_append, inner,
      ownEvents, List.append_assoc]
    rfl
  | .text _ => by
    rw [events, List.singleton_append, ownEvents]
    rfl
  | .comment => by rw [events, List.nil_append, List.nil_append]

/-- Elements that begin and end in a walk are its own. -/
theorem ownEvents_eventsOf (depth : Nat) (rest : List Event) : ∀ nodes : List Node,
    ownEvents depth (eventsOf nodes ++ rest) = eventsOf nodes ++ ownEvents depth rest
  | [] => by rw [eventsOf, List.nil_append, List.nil_append]
  | node :: more => by
    rw [eventsOf, List.append_assoc, ownEvents_events depth _ node,
      ownEvents_eventsOf depth rest more, List.append_assoc]

end

theorem behindEnd_tail_element (e : Element) (children : List Node) (rest : List Event) :
    behindEnd 0 ((element e children).events ++ rest).tail = rest := by
  rw [events, List.append_assoc, List.cons_append, List.tail_cons, List.singleton_append,
    behindEnd_eventsOf, behindEnd]

/-- Where an element ends is seen in a walk. -/
theorem events_append_inj {e e' : Element} {children children' : List Node}
    {rest rest' : List Event}
    (same : (element e children).events ++ rest = (element e' children').events ++ rest') :
    (element e children).events = (element e' children').events ∧ rest = rest' := by
  have ends : rest = rest' := by
    have behind := congrArg (fun walk => behindEnd 0 walk.tail) same
    simpa only [behindEnd_tail_element] using behind
  exact ⟨List.append_cancel_right (ends ▸ same), ends⟩

theorem sublist_ownEvents (depth : Nat) (walk : List Event) :
    (ownEvents depth walk).Sublist walk := by
  induction depth, walk using ownEvents.induct with
  | case1 depth => exact .slnil
  | case2 depth e more ih => exact ih.cons_cons _
  | case3 depth s more ih => exact ih.cons_cons _
  | case4 e more ih => exact ih.cons _
  | case5 depth e more ih => exact ih.cons_cons _

/-- What a walk has of its own at first does not depend on how it goes on. -/
theorem exists_ownEvents_append (depth : Nat) (walk : List Event) : ∃ depth', ∀ rest,
    ownEvents depth (walk ++ rest) = ownEvents depth walk ++ ownEvents depth' rest := by
  induction depth, walk using ownEvents.induct with
  | case1 depth => exact ⟨depth, fun rest => rfl⟩
  | case2 depth e more ih =>
    obtain ⟨depth', split⟩ := ih
    exact ⟨depth', fun rest => congrArg (Event.enter e :: ·) (split rest)⟩
  | case3 depth s more ih =>
    obtain ⟨depth', split⟩ := ih
    exact ⟨depth', fun rest => congrArg (Event.text s :: ·) (split rest)⟩
  | case4 e more ih => exact ih
  | case5 depth e more ih =>
    obtain ⟨depth', split⟩ := ih
    exact ⟨depth', fun rest => congrArg (Event.leave e :: ·) (split rest)⟩

end SymbolDocs.Html.Node
