import SymbolDocs.Html.Token

namespace SymbolDocs.Html

/-- The vocabularies that a page can use. -/
inductive Vocabulary where
  | html
  | svg
  | math
  deriving DecidableEq, Repr, Inhabited

structure Element where
  vocabulary : Vocabulary := .html
  name : String
  attributes : Attributes := []
  deriving DecidableEq, Repr, Inhabited

namespace Element

def attribute? (e : Element) (name : String) : Option Text :=
  (e.attributes.find? (·.1 == name)).map (·.2)

def id? (e : Element) : Option Text := e.attribute? "id"

def hasClass (e : Element) (name : Text) : Bool :=
  (Text.words ((e.attribute? "class").getD [])).contains name

/-- The attributes of a second tag for one element count where it has none of the name. -/
def withMissing (e : Element) (attributes : Attributes) : Element :=
  { e with attributes := e.attributes ++
      attributes.filter fun (name, _) => !e.attributes.any (·.1 == name) }

def isHtml (e : Element) (name : String) : Bool := e.vocabulary == .html && e.name == name

def isHtmlIn (e : Element) (names : List String) : Bool :=
  e.vocabulary == .html && names.contains e.name

end Element

/-- A part of a page. -/
inductive Node where
  | element (element : Element) (children : List Node)
  | text (text : Text)
  | comment
  deriving Repr, Inhabited

namespace Node

/-- What a walk through a page meets. -/
inductive Event where
  | enter (element : Element)
  | text (text : Text)
  | leave (element : Element)
  deriving DecidableEq, Repr, Inhabited

def element? : Node → Option Element
  | element e _ => some e
  | _ => none

def hasName (name : String) (node : Node) : Bool := node.element?.any (·.name == name)

mutual

/-- A walk through a node and all it holds. -/
def events : Node → List Event
  | .element e children => .enter e :: eventsOf children ++ [.leave e]
  | .text s => [.text s]
  | .comment => []

def eventsOf : List Node → List Event
  | [] => []
  | node :: more => node.events ++ eventsOf more

end

/-- An element at its place in a page. -/
structure Spot where
  element : Element
  children : List Node
  /-- The nodes behind it with the same parent. -/
  siblings : List Node
  /-- All other nodes behind it: the siblings of its ancestors, innermost first. -/
  later : List (List Node)
  deriving Repr, Inhabited

mutual

/-- All elements from a node on, in the order of the page. -/
def spots (siblings : List Node) (later : List (List Node)) : Node → List Spot
  | .element e children =>
    { element := e, children, siblings, later } :: spotsOf (siblings :: later) children
  | _ => []

def spotsOf (later : List (List Node)) : List Node → List Spot
  | [] => []
  | node :: more => node.spots more later ++ spotsOf later more

end

namespace Spot

def node (spot : Spot) : Node := .element spot.element spot.children

/-- The nodes that begin after the element has ended. -/
def following (spot : Spot) : List Node := spot.siblings ++ spot.later.flatten

end Spot
end Node
end SymbolDocs.Html
