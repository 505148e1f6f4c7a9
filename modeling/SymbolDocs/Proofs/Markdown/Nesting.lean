import SymbolDocs.Proofs.Html.Walk
import SymbolDocs.Proofs.Markdown.Inline

namespace SymbolDocs.Markdown

open Text Html Node

mutual

/-- A node without the elements in it that are left out, and nothing if it is one of them. -/
def withoutLeftOut : Node → List Node
  | .element e children => if isLeftOut e then [] else [.element e (withoutLeftOutIn children)]
  | node => [node]

def withoutLeftOutIn : List Node → List Node
  | [] => []
  | node :: more => withoutLeftOut node ++ withoutLeftOutIn more

end

namespace Writer

variable {w v : Writer} {e : Element}

/-- All but what has been written is as it was. -/
def OnlyWrites (w v : Writer) : Prop := ∃ written, v = { w with written }

/-- The same elements and links are open. -/
structure IsOpenAs (w v : Writer) : Prop where
  preDepth : v.preDepth = w.preDepth
  skipDepth : v.skipDepth = w.skipDepth
  links : v.links = w.links

namespace OnlyWrites

theorem isOpenAs (h : OnlyWrites w v) : w.IsOpenAs v := by
  obtain ⟨written, rfl⟩ := h
  exact ⟨rfl, rfl, rfl⟩

theorem refl (w : Writer) : OnlyWrites w w := ⟨w.written, rfl⟩

theorem trans {u : Writer} (first : OnlyWrites w v) (second : OnlyWrites v u) :
    OnlyWrites w u := by
  obtain ⟨written, rfl⟩ := first
  obtain ⟨written', rfl⟩ := second
  exact ⟨written', rfl⟩

theorem push (h : OnlyWrites w v) (s : Text) : OnlyWrites w (v.push s) := h.trans ⟨_, rfl⟩

theorem trimBlanks (h : OnlyWrites w v) : OnlyWrites w v.trimBlanks := h.trans ⟨_, rfl⟩

theorem gap (h : OnlyWrites w v) : OnlyWrites w v.gap := h.trans ⟨_, v.gap_eq⟩

theorem gapIf (h : OnlyWrites w v) (b : Bool) : OnlyWrites w (if b then v.gap else v) :=
  h.trans ⟨_, v.gapIf_eq b⟩

theorem freshLine (h : OnlyWrites w v) : OnlyWrites w v.freshLine := by
  rw [Writer.freshLine]
  split
  · exact h.trimBlanks
  · exact h.trimBlanks
  · exact h.trimBlanks.push "\n"

theorem blankLine (h : OnlyWrites w v) : OnlyWrites w v.blankLine := by
  rw [Writer.blankLine]
  split
  · exact h.trimBlanks
  · exact h.trimBlanks
  · exact h.trimBlanks.push "\n"
  · exact h.trimBlanks.push "\n\n"

theorem addText (h : OnlyWrites w v) (s : Text) : OnlyWrites w (v.addText s) := by
  rw [Writer.addText]
  split
  · exact h
  split
  · exact h.push s
  · exact ((h.gapIf _).trans ⟨_, pushWords_eq _ _⟩).gapIf _

end OnlyWrites

/-- What is open behind the start of an element that is not left out. -/
def opened (w : Writer) (e : Element) : Writer :=
  match Style.ofName e.name with
  | .preformatted => { w with preDepth := w.preDepth + 1 }
  | .link => { w with links := (e.attribute? "href").bind w.target? :: w.links }
  | _ => w

theorem opened_of_preformatted (style : Style.ofName e.name = .preformatted) :
    w.opened e = { w with preDepth := w.preDepth + 1 } := by
  rw [opened, style]

theorem opened_of_link (style : Style.ofName e.name = .link) :
    w.opened e = { w with links := (e.attribute? "href").bind w.target? :: w.links } := by
  rw [opened, style]

theorem opened_of_other (noPre : Style.ofName e.name ≠ .preformatted)
    (noLink : Style.ofName e.name ≠ .link) : w.opened e = w := by
  rw [opened]
  split
  · next style => exact absurd style noPre
  · next style => exact absurd style noLink
  · rfl

theorem skipDepth_opened (w : Writer) (e : Element) : (w.opened e).skipDepth = w.skipDepth := by
  rw [opened]
  split <;> rfl

/-- The start of an element opens it, and else it only writes. -/
theorem onlyWrites_enter (read : w.skipDepth = 0) (kept : ¬ isLeftOut e) :
    OnlyWrites (w.opened e) (w.enter e) := by
  have start := OnlyWrites.refl w
  have reading : ¬ 0 < w.skipDepth := by omega
  rw [enter, if_neg reading, if_neg kept]
  by_cases pre : Style.ofName e.name = .preformatted
  · obtain ⟨written, eq⟩ := start.blankLine.push "```python\n"
    rw [opened_of_preformatted pre, pre]
    exact ⟨written, by dsimp only; rw [eq]⟩
  by_cases link : Style.ofName e.name = .link
  · rw [opened_of_link link, link]
    dsimp only
    rw [openLink]
    cases (e.attribute? "href").bind w.target? with
    | none => exact .refl _
    | some target => exact ⟨'[' :: w.written, rfl⟩
  rw [opened_of_other pre link]
  split
  · exact start.blankLine.push _
  · exact start.blankLine.push _
  · next style => exact absurd style pre
  · split
    · exact start.push _
    · exact start
  · exact start.freshLine.push _
  · exact start.push _
  · exact start.freshLine
  · exact start.gap
  · next style => exact absurd style link
  · exact start.blankLine
  · exact start

theorem onlyWrites_closeLink {links : List (Option Text)} {target : Option Text}
    (inside : v.links = target :: links) : OnlyWrites { v with links } v.closeLink := by
  have popped := OnlyWrites.refl { v with links }
  rw [closeLink, inside]
  cases target with
  | none => exact popped
  | some target =>
    dsimp only
    split
    · next written _ => exact ⟨written, rfl⟩
    · exact popped.trimBlanks.push _

theorem onlyWrites_closePreformatted {depth : Nat} (inside : v.preDepth = depth + 1) :
    OnlyWrites { v with preDepth := depth } v.closePreformatted := by
  have outside := OnlyWrites.refl { v with preDepth := depth }
  rw [closePreformatted, inside, Nat.add_sub_cancel]
  dsimp only
  split
  · exact (outside.push "```").blankLine
  · exact ((outside.push "\n").push "```").blankLine

/-- The end of an element closes what its start has opened. -/
theorem onlyWrites_leave (read : w.skipDepth = 0) (inner : OnlyWrites (w.opened e) v) :
    OnlyWrites w (v.leave e) := by
  have reading : ¬ 0 < v.skipDepth := by
    obtain ⟨written, rfl⟩ := inner
    simp [skipDepth_opened, read]
  rw [leave, if_neg reading]
  by_cases pre : Style.ofName e.name = .preformatted
  · rw [opened_of_preformatted pre] at inner
    obtain ⟨written, rfl⟩ := inner
    rw [pre]
    exact .trans ⟨written, rfl⟩ (onlyWrites_closePreformatted rfl)
  by_cases link : Style.ofName e.name = .link
  · rw [opened_of_link link] at inner
    obtain ⟨written, rfl⟩ := inner
    rw [link]
    exact .trans ⟨written, rfl⟩ (onlyWrites_closeLink rfl)
  rw [opened_of_other pre link] at inner
  split
  · exact inner.blankLine
  · exact (inner.trimBlanks.push _).blankLine
  · next style => exact absurd style pre
  · split
    · exact inner.push _
    · exact inner
  · exact inner.freshLine
  · next style => exact absurd style link
  · exact inner.blankLine
  all_goals exact inner

theorem feedAll_element (w : Writer) (e : Element) (children : List Node) :
    w.feedAll (Node.element e children).events =
      ((w.enter e).feedAll (eventsOf children)).leave e := by
  rw [events, feedAll_append]
  rfl

theorem feedAll_eventsOf_cons (w : Writer) (node : Node) (more : List Node) :
    w.feedAll (eventsOf (node :: more)) = (w.feedAll node.events).feedAll (eventsOf more) := by
  rw [eventsOf, feedAll_append]

/-- An element that is left out, or that is in one, is only counted. -/
theorem enter_eq_of_unread (unread : 0 < w.skipDepth ∨ isLeftOut e) :
    w.enter e = { w with skipDepth := w.skipDepth + 1 } := by
  rw [enter]
  split
  · rfl
  · next reading =>
    have none : w.skipDepth = 0 := by omega
    rw [if_pos (unread.resolve_left reading), none]

theorem leave_eq_of_unread {depth : Nat} (unread : w.skipDepth = depth + 1) :
    w.leave e = { w with skipDepth := depth } := by
  rw [leave, unread, if_pos (Nat.succ_pos depth), Nat.add_sub_cancel]

mutual

theorem feedAll_events_of_unread (w : Writer) (unread : 0 < w.skipDepth) :
    ∀ node : Node, w.feedAll node.events = w
  | .element e children => by
    have inner := feedAll_eventsOf_of_unread { w with skipDepth := w.skipDepth + 1 }
      (Nat.succ_pos _) children
    rw [feedAll_element, enter_eq_of_unread (.inl unread), inner, leave_eq_of_unread rfl]
  | .text s => by
    have step : w.feedAll (Node.text s).events = w.addText s := rfl
    rw [step, addText, if_pos unread]
  | .comment => rfl

/-- Inside an element that is left out a walk changes nothing. -/
theorem feedAll_eventsOf_of_unread (w : Writer) (unread : 0 < w.skipDepth) :
    ∀ nodes : List Node, w.feedAll (eventsOf nodes) = w
  | [] => rfl
  | node :: more => by
    rw [feedAll_eventsOf_cons, feedAll_events_of_unread w unread node,
      feedAll_eventsOf_of_unread w unread more]

end

theorem feedAll_element_of_unread (w : Writer) (unread : 0 < w.skipDepth ∨ isLeftOut e)
    (children : List Node) : w.feedAll (Node.element e children).events = w := by
  rw [feedAll_element, enter_eq_of_unread unread,
    feedAll_eventsOf_of_unread _ (Nat.succ_pos _) children, leave_eq_of_unread rfl]

mutual

theorem onlyWrites_feedAll_events (w : Writer) :
    ∀ node : Node, OnlyWrites w (w.feedAll node.events)
  | .element e children => by
    by_cases unread : 0 < w.skipDepth ∨ isLeftOut e
    · rw [feedAll_element_of_unread w unread]
      exact .refl w
    · obtain ⟨reading, kept⟩ := not_or.mp unread
      have read : w.skipDepth = 0 := by omega
      rw [feedAll_element]
      exact onlyWrites_leave read
        ((onlyWrites_enter read kept).trans (onlyWrites_feedAll_eventsOf _ children))
  | .text s => (OnlyWrites.refl w).addText s
  | .comment => .refl w

/-- What begins and ends in a walk is not open behind it. -/
theorem onlyWrites_feedAll_eventsOf (w : Writer) :
    ∀ nodes : List Node, OnlyWrites w (w.feedAll (eventsOf nodes))
  | [] => .refl w
  | node :: more => by
    rw [feedAll_eventsOf_cons]
    exact (onlyWrites_feedAll_events w node).trans (onlyWrites_feedAll_eventsOf _ more)

end

theorem feedAll_eventsOf_append (w : Writer) (nodes more : List Node) :
    w.feedAll (eventsOf (nodes ++ more)) = (w.feedAll (eventsOf nodes)).feedAll (eventsOf more) := by
  rw [eventsOf_append, feedAll_append]

theorem feedAll_eventsOf_singleton (w : Writer) (node : Node) :
    w.feedAll (eventsOf [node]) = w.feedAll node.events := by
  rw [eventsOf, eventsOf, List.append_nil]

mutual

theorem feedAll_withoutLeftOut (w : Writer) :
    ∀ node : Node, w.feedAll (eventsOf (withoutLeftOut node)) = w.feedAll node.events
  | .element e children => by
    rw [withoutLeftOut]
    split
    · next unread =>
      rw [feedAll_element_of_unread w (.inr unread)]
      rfl
    · rw [feedAll_eventsOf_singleton, feedAll_element, feedAll_element,
        feedAll_withoutLeftOutIn _ children]
  | .text s => feedAll_eventsOf_singleton w (.text s)
  | .comment => rfl

/-- Elements that are left out might as well not be there. -/
theorem feedAll_withoutLeftOutIn (w : Writer) :
    ∀ nodes : List Node, w.feedAll (eventsOf (withoutLeftOutIn nodes)) = w.feedAll (eventsOf nodes)
  | [] => rfl
  | node :: more => by
    rw [withoutLeftOutIn, feedAll_eventsOf_append, feedAll_withoutLeftOut w node,
      feedAll_withoutLeftOutIn _ more, feedAll_eventsOf_cons]

end

/-- Whatever is open when a walk through a node or some nodes begins is open behind it, and nothing
else. An element that is left out changes nothing at all, so what is written would be the same if
there were no such elements, at any depth. -/
theorem feedAll_keepsOpen (w : Writer) :
    (∀ node : Node, w.IsOpenAs (w.feedAll node.events)) ∧
      (∀ nodes : List Node, w.IsOpenAs (w.feedAll (eventsOf nodes))) ∧
      (∀ (e : Element) (children : List Node), isLeftOut e →
        w.feedAll (Node.element e children).events = w) ∧
      ∀ nodes : List Node,
        w.feedAll (eventsOf (withoutLeftOutIn nodes)) = w.feedAll (eventsOf nodes) :=
  ⟨fun node => (onlyWrites_feedAll_events w node).isOpenAs,
    fun nodes => (onlyWrites_feedAll_eventsOf w nodes).isOpenAs,
    fun _ children unread => feedAll_element_of_unread w (.inr unread) children,
    feedAll_withoutLeftOutIn w⟩

/-- A link to the place it is in, with what would open an element and another link. -/
def permalink : Element := { name := "a", attributes := [("class", "headerlink"), ("href", "#x")] }

theorem feedAll_keepsOpen_permalink : isLeftOut permalink ∧
    ({ preDepth := 1, links := [none, some "y"] } : Writer).feedAll (Node.element permalink
      [.text "¶", .element { name := "pre" } [.element { name := "a" } [.text "z"]]]).events =
      { preDepth := 1, links := [none, some "y"] } :=
  have unread : isLeftOut permalink := by decide
  ⟨unread, (feedAll_keepsOpen _).2.2.1 permalink _ unread⟩

end Writer
end SymbolDocs.Markdown
