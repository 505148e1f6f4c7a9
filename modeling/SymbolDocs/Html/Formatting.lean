import SymbolDocs.Html.Builder

namespace SymbolDocs.Html

namespace FormatEntry

def isNode (id : NodeId) : FormatEntry → Bool
  | .marker => false
  | .element other _ => other == id

/-- Entries behind the last marker, latest first. -/
def sinceMarker (entries : List FormatEntry) : List (NodeId × Tag) :=
  (entries.takeWhile (· != .marker)).filterMap fun
    | .marker => none
    | .element id tag => some (id, tag)

/-- Whether two tags open the same element, in whatever order the attributes are. -/
def sameTag (s t : Tag) : Bool := s.name == t.name && s.attributes.isPerm t.attributes

/-- Removes the earliest of three entries that are like the tag. -/
def dropThird (tag : Tag) (entries : List FormatEntry) : List FormatEntry :=
  match ((sinceMarker entries).filter fun (_, t) => sameTag tag t).drop 2 with
  | [] => entries
  | first :: more => entries.filter fun e => !e.isNode ((first :: more).getLast (by simp)).1

end FormatEntry

namespace Builder

def dropFormatting (b : Builder) (id : NodeId) : Builder :=
  { b with formatting := b.formatting.filter fun e => !e.isNode id }

def isOpen (b : Builder) (id : NodeId) : Bool := b.stack.any (·.id == id)

def isFormatting (b : Builder) (id : NodeId) : Bool := b.formatting.any (·.isNode id)

def openFormatting (b : Builder) (tag : Tag) : Builder :=
  let b := { b with formatting := FormatEntry.dropThird tag b.formatting }
  let (b, o) := b.addElement (elementOf tag)
  { b with stack := o :: b.stack, formatting := .element o.id tag :: b.formatting }

/-- Opens the formatting elements that have been closed by the end of a block, once more. -/
def reopenFormatting (b : Builder) : Builder :=
  let isClosed : FormatEntry → Bool
    | .marker => false
    | .element id _ => !b.isOpen id
  let closed := b.formatting.takeWhile isClosed
  closed.reverse.foldl (fun b entry =>
    match entry with
    | .marker => b
    | .element _ tag =>
      let (b, o) := b.addElement (elementOf tag)
      { b with stack := o :: b.stack, formatting := .element o.id tag :: b.formatting })
    { b with formatting := b.formatting.drop closed.length }

/-- An end tag without rules of its own closes the element of its name, if no block is between. -/
def closeOther (b : Builder) (name : String) : Builder :=
  let isTarget := fun (o : OpenElement) => o.element.isHtml name
  match b.stack.find? fun o => isTarget o || o.element.isSpecial with
  | some o => if isTarget o then b.closeNamed name else b
  | none => b

/-- The elements between a block and the formatting element around it, while they are copied into
the block. -/
structure Copying where
  builder : Builder
  /-- The elements that stay open, innermost first. -/
  kept : OpenElements := []
  /-- The outermost node that has been moved. -/
  moved : NodeId
  /-- The formatting entry in front of which the new one goes. -/
  behind : Option NodeId := none

/-- One element on the way out: it is copied around what has been moved if it formats text and is
one of the first three, and closed otherwise. -/
def Copying.step (c : Copying) (block : NodeId) (count : Nat) (o : OpenElement) : Copying :=
  let b := c.builder
  if 3 < count then { c with builder := b.dropFormatting o.id }
  else match b.formatting.find? (·.isNode o.id) with
    | some (.element _ tag) =>
      let (b, id) := b.newNode (.element (elementOf tag))
      let entry := FormatEntry.element id tag
      let formatting := b.formatting.map fun e => if e.isNode o.id then entry else e
      let arena := b.arena.append id c.moved
      { builder := { b with formatting, arena }
        kept := c.kept ++ [{ id, element := elementOf tag }]
        moved := id
        behind := if c.moved = block then some id else c.behind }
    | _ => c

def copyBetween (b : Builder) (block : NodeId) (between : OpenElements) : Copying :=
  (between.foldl (fun (c, count) o => (c.step block count o, count + 1))
    (({ builder := b, moved := block } : Copying), 1)).1

/-- Gives a block that stands in a formatting element a copy of the element for its content, and
moves the block out of it. -/
def moveBlockOut (b : Builder) (tag : Tag) (target : OpenElement) (inner : OpenElements)
    (block : OpenElement) (between outer : OpenElements) : Builder :=
  let c := b.copyBetween block.id between
  let b := c.builder
  let b := { b with arena := b.arena.detach c.moved }
  let b := match outer.head? with
    | some ancestor => b.put (b.placeIn ancestor) c.moved
    | none => b
  let (b, id) := b.newNode (.element (elementOf tag))
  let arena := (b.arena.moveChildren block.id id).append block.id id
  let entry := FormatEntry.element id tag
  let formatting := match c.behind with
    | none => b.formatting.map fun e => if e.isNode target.id then entry else e
    | some previous =>
      (b.formatting.flatMap fun e => if e.isNode previous then [entry, e] else [e]).filter
        fun e => !e.isNode target.id
  let stack := inner ++ { id, element := elementOf tag } :: block :: c.kept ++ outer
  { b with arena, formatting, stack }

/-- One round for the end tag of a formatting element, and whether another one follows. -/
def closeFormattingOnce (b : Builder) (name : String) : Builder × Bool :=
  match (FormatEntry.sinceMarker b.formatting).find? fun (_, tag) => tag.name == name with
  | none => (b.closeOther name, false)
  | some (id, tag) =>
    let inside := b.stack.takeWhile (·.id != id)
    match b.stack.dropWhile (·.id != id) with
    | [] => (b.dropFormatting id, false)
    | target :: outer =>
      if !b.stack.inScope .block (·.id == id) then (b, false)
      else match inside.reverse.span fun o => !o.element.isSpecial with
        | (_, []) => ({ b.dropFormatting id with stack := outer }, false)
        | (between, block :: inner) =>
          (b.moveBlockOut tag target inner.reverse block between.reverse outer, true)

def closeFormattingFor : Nat → Builder → String → Builder
  | 0, b, _ => b
  | rounds + 1, b, name =>
    match b.closeFormattingOnce name with
    | (b, true) => closeFormattingFor rounds b name
    | (b, false) => b

/-- The end tag of a formatting element. -/
def closeFormatting (b : Builder) (name : String) : Builder :=
  match b.stack.head? with
  | some o =>
    if o.element.isHtml name && !b.isFormatting o.id then b.pop
    else closeFormattingFor 8 b name
  | none => b

/-- An anchor ends the anchor that is open. -/
def closeOpenAnchor (b : Builder) : Builder :=
  match (FormatEntry.sinceMarker b.formatting).find? fun (_, tag) => tag.name == "a" with
  | none => b
  | some (id, _) => ((b.closeFormatting "a").dropFormatting id).mapStack (·.without id)

end Builder
end SymbolDocs.Html
