import SymbolDocs.Html.OpenElement

namespace SymbolDocs.Html

/-- The part of a page that is being read, which decides what a tag means. -/
inductive Mode where
  | initial
  | beforeHtml
  | beforeHead
  | inHead
  | afterHead
  | inBody
  | text
  | inTable
  | inTableText
  | inCaption
  | inColumnGroup
  | inTableBody
  | inRow
  | inCell
  | inSelect
  | inSelectInTable
  | inTemplate
  | afterBody
  | inFrameset
  | afterFrameset
  | afterAfterBody
  | afterAfterFrameset
  deriving DecidableEq, Repr, Inhabited

/-- A formatting element goes on in the blocks that follow it; a marker keeps outer ones out. -/
inductive FormatEntry where
  | marker
  | element (id : NodeId) (tag : Tag)
  deriving DecidableEq, Repr, Inhabited

/-- A page while it is read. -/
structure Builder where
  arena : Arena := {}
  mode : Mode := .initial
  /-- The mode to go back to behind text. -/
  returnMode : Mode := .inBody
  templateModes : List Mode := []
  stack : OpenElements := []
  /-- The latest comes first. -/
  formatting : List FormatEntry := []
  head : Option OpenElement := none
  form : Option NodeId := none
  framesetAllowed : Bool := true
  hasOldLayout : Bool := false
  /-- Whether content that does not belong into a table is put in front of it. -/
  fosters : Bool := false
  dropsLineFeed : Bool := false
  /-- Text in a table, latest first. -/
  tableText : List (CharKind × Text) := []
  textMode : TextMode := .data
  isFragment : Bool := false
  deriving Inhabited

/-- Whether the token has been used up, or is to be read again in the mode reached. -/
inductive Outcome where
  | done (b : Builder)
  | again (b : Builder)
  deriving Inhabited

namespace Builder

def currentIs (b : Builder) (p : Element → Bool) : Bool := b.stack.currentIs p

def currentIsHtml (b : Builder) (name : String) : Bool := b.currentIs (·.isHtml name)

def isIn (b : Builder) (name : String) : Bool := b.stack.holds name

def mapStack (b : Builder) (f : OpenElements → OpenElements) : Builder :=
  { b with stack := f b.stack }

def pop (b : Builder) : Builder := b.mapStack List.tail

def withMode (b : Builder) (mode : Mode) : Builder := { b with mode }

/-- Where a node is put. -/
inductive Place where
  | lastIn (parent : NodeId)
  | before (sibling : NodeId)
  deriving DecidableEq, Repr

/-- The place in front of the innermost table, or in the template in it. -/
def fosterPlace (b : Builder) : OpenElements → Place
  | [] => .lastIn Arena.document
  | o :: outer =>
    if o.element.isHtml "template" then .lastIn o.id
    else if o.element.isHtml "table" then
      if (b.arena.parent? o.id).isSome then .before o.id
      else .lastIn ((outer.head?.map (·.id)).getD Arena.document)
    else if outer.isEmpty then .lastIn o.id
    else fosterPlace b outer

/-- Where content of an element goes: into it, unless it is part of a table and the content is
none. -/
def placeIn (b : Builder) (o : OpenElement) : Place :=
  if b.fosters && o.element.isHtmlIn ["table", "tbody", "tfoot", "thead", "tr"] then
    b.fosterPlace b.stack
  else .lastIn o.id

def place (b : Builder) : Place :=
  match b.stack.head? with
  | some o => b.placeIn o
  | none => .lastIn Arena.document

def put (b : Builder) (place : Place) (id : NodeId) : Builder :=
  match place with
  | .lastIn parent => { b with arena := b.arena.append parent id }
  | .before sibling => { b with arena := b.arena.insertBefore sibling id }

def addText (b : Builder) (s : Text) : Builder :=
  match b.place with
  | .lastIn parent => { b with arena := b.arena.addText parent s }
  | .before sibling => { b with arena := b.arena.insertTextBefore sibling s }

def newNode (b : Builder) (content : Content) : Builder × NodeId :=
  let (arena, id) := b.arena.add content
  ({ b with arena }, id)

def addComment (b : Builder) : Builder :=
  let place := b.place
  let (b, id) := b.newNode .comment
  b.put place id

def addCommentTo (b : Builder) (parent : NodeId) : Builder :=
  let (b, id) := b.newNode .comment
  b.put (.lastIn parent) id

/-- Adds an element at the current place. -/
def addElement (b : Builder) (element : Element) : Builder × OpenElement :=
  let place := b.place
  let (b, id) := b.newNode (.element element)
  (b.put place id, { id, element })

/-- Adds an element and opens it. -/
def openElement (b : Builder) (element : Element) : Builder :=
  let (b, o) := b.addElement element
  b.mapStack (o :: ·)

def elementOf (tag : Tag) : Element := { name := tag.name, attributes := tag.attributes }

def openTag (b : Builder) (tag : Tag) : Builder := b.openElement (elementOf tag)

def openNamed (b : Builder) (name : String) : Builder := b.openElement { name }

/-- Adds an element without content. -/
def addVoid (b : Builder) (tag : Tag) : Builder := (b.addElement (elementOf tag)).1

def openRoot (b : Builder) (attributes : Attributes) : Builder :=
  let (b, id) := b.newNode (.element { name := "html", attributes })
  (b.put (.lastIn Arena.document) id).mapStack
    ({ id, element := { name := "html", attributes } } :: ·)

/-- Opens an element whose content is text. -/
def openText (b : Builder) (tag : Tag) (textMode : TextMode) : Builder :=
  { b.openTag tag with textMode, returnMode := b.mode, mode := .text }

def closeImplied (b : Builder) : Builder := b.mapStack (·.closeImplied impliedEndNames none)

def closeImpliedExcept (b : Builder) (name : String) : Builder :=
  b.mapStack (·.closeImplied impliedEndNames (some name))

def closeNamed (b : Builder) (name : String) : Builder := b.mapStack (·.closeNamed name)

def closeParagraph (b : Builder) : Builder := (b.closeImpliedExcept "p").closeNamed "p"

/-- A block cannot stand in a paragraph. -/
def closeOpenParagraph (b : Builder) : Builder :=
  if b.stack.nameInScope .button "p" then b.closeParagraph else b

def forbidFrameset (b : Builder) : Builder := { b with framesetAllowed := false }

/-- The second element of the page from outside, if it is the body. -/
def body? (b : Builder) : Option OpenElement :=
  match b.stack.reverse with
  | _ :: o :: _ => if o.element.isHtml "body" then some o else none
  | _ => none

def mergeAttributes (b : Builder) (id : NodeId) (attributes : Attributes) : Builder :=
  { b with arena := b.arena.changeElement id (·.withMissing attributes) }

/-- A further tag of the root adds attributes. -/
def mergeRoot (b : Builder) (tag : Tag) : Builder :=
  match b.stack.getLast? with
  | some root => if b.isIn "template" then b else b.mergeAttributes root.id tag.attributes
  | none => b

def pushMarker (b : Builder) : Builder := { b with formatting := .marker :: b.formatting }

def clearToMarker (b : Builder) : Builder :=
  { b with formatting := (b.formatting.dropWhile (· != .marker)).drop 1 }

/-- The mode that the open elements ask for. -/
def modeFor (b : Builder) : OpenElements → Mode
  | [] => .inBody
  | o :: outer =>
    let isRoot := outer.isEmpty
    let name := if isRoot && b.isFragment then "body" else o.element.name
    if o.element.vocabulary != .html then modeFor b outer
    else match name with
      | "select" =>
        match outer.find? fun o => o.element.isHtmlIn ["template", "table"] with
        | some o => if o.element.name = "table" then .inSelectInTable else .inSelect
        | none => .inSelect
      | "td" | "th" => if isRoot then .inBody else .inCell
      | "tr" => .inRow
      | "tbody" | "thead" | "tfoot" => .inTableBody
      | "caption" => .inCaption
      | "colgroup" => .inColumnGroup
      | "table" => .inTable
      | "template" => b.templateModes.head?.getD .inBody
      | "head" => if isRoot then .inBody else .inHead
      | "body" => .inBody
      | "frameset" => .inFrameset
      | "html" => if b.head.isNone then .beforeHead else .afterHead
      | _ => modeFor b outer

def resetMode (b : Builder) : Builder := b.withMode (b.modeFor b.stack)

/-- Closes the cell that is open in a row. -/
def closeCell (b : Builder) : Builder :=
  (b.closeImplied.mapStack (·.closeThrough (·.isHtmlIn ["td", "th"]))).clearToMarker

end Builder
end SymbolDocs.Html
