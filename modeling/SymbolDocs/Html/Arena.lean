import SymbolDocs.Html.Node

namespace SymbolDocs.Html

abbrev NodeId := Nat

inductive Content where
  | document
  | element (element : Element)
  /-- The last piece comes first. -/
  | text (pieces : List Text)
  | comment
  deriving Repr, Inhabited

structure Cell where
  content : Content
  parent : Option NodeId := none
  children : Array NodeId := #[]
  deriving Repr, Inhabited

/-- The nodes of a page under construction, by number. The first is the document. -/
structure Arena where
  cells : Array Cell := #[{ content := .document }]
  deriving Repr, Inhabited

namespace Arena

def document : NodeId := 0

def add (a : Arena) (content : Content) : Arena × NodeId :=
  ({ cells := a.cells.push { content } }, a.cells.size)

def parent? (a : Arena) (id : NodeId) : Option NodeId := a.cells[id]?.bind (·.parent)

def isText (a : Arena) (id : NodeId) : Bool :=
  match a.cells[id]?.map Cell.content with
  | some (.text _) => true
  | _ => false

def modify (a : Arena) (id : NodeId) (f : Cell → Cell) : Arena :=
  { cells := a.cells.modify id f }

def changeElement (a : Arena) (id : NodeId) (f : Element → Element) : Arena :=
  a.modify id fun cell =>
    match cell.content with
    | .element e => { cell with content := .element (f e) }
    | _ => cell

/-- Takes a node from its parent. -/
def detach (a : Arena) (id : NodeId) : Arena :=
  match a.parent? id with
  | none => a
  | some parent =>
    (a.modify parent fun cell => { cell with children := cell.children.filter (· != id) }).modify id
      fun cell => { cell with parent := none }

def append (a : Arena) (parent id : NodeId) : Arena :=
  ((a.detach id).modify id fun cell => { cell with parent := some parent }).modify parent
    fun cell => { cell with children := cell.children.push id }

/-- Puts a node in front of a sibling that has a parent. -/
def insertBefore (a : Arena) (sibling id : NodeId) : Arena :=
  let a := a.detach id
  match a.parent? sibling with
  | none => a
  | some parent =>
    (a.modify id fun cell => { cell with parent := some parent }).modify parent fun cell =>
      { cell with children := cell.children.flatMap fun child =>
          if child = sibling then #[id, child] else #[child] }

def addPiece (a : Arena) (id : NodeId) (s : Text) : Arena :=
  a.modify id fun cell =>
    match cell.content with
    | .text pieces => { cell with content := .text (s :: pieces) }
    | _ => cell

/-- Text behind text joins it. -/
def addText (a : Arena) (parent : NodeId) (s : Text) : Arena :=
  match a.cells[parent]?.bind (·.children.back?) with
  | some last =>
    if a.isText last then a.addPiece last s
    else
      let (a, id) := a.add (.text [s])
      a.append parent id
  | none =>
    let (a, id) := a.add (.text [s])
    a.append parent id

def previousSibling? (a : Arena) (id : NodeId) : Option NodeId := do
  let parent ← a.parent? id
  let cell ← a.cells[parent]?
  let place ← cell.children.idxOf? id
  if place = 0 then none else cell.children[place - 1]?

def insertTextBefore (a : Arena) (sibling : NodeId) (s : Text) : Arena :=
  match (a.previousSibling? sibling).filter a.isText with
  | some previous => a.addPiece previous s
  | none =>
    let (a, id) := a.add (.text [s])
    a.insertBefore sibling id

/-- Moves all children of a node behind those of another. -/
def moveChildren (a : Arena) (source target : NodeId) : Arena :=
  ((a.cells[source]?.map (·.children)).getD #[]).foldl (fun a id => a.append target id) a

/-- The node with a number, with all it holds down to `depth` levels. -/
def node (a : Arena) : Nat → NodeId → Option Node
  | 0, _ => none
  | depth + 1, id => do
    let cell ← a.cells[id]?
    match cell.content with
    | .element e => some (.element e (cell.children.toList.filterMap (a.node depth)))
    | .text pieces => some (.text pieces.reverse.flatten)
    | .comment => some .comment
    | .document => none

/-- The nodes of the whole page. No node stands inside of itself, so that no branch is longer than
the page has nodes. -/
def toNodes (a : Arena) : List Node :=
  ((a.cells[document]?.map (·.children.toList)).getD []).filterMap (a.node a.cells.size)

end Arena
end SymbolDocs.Html
