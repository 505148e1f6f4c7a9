import SymbolDocs.Html.Arena

namespace SymbolDocs.Html

/-- Elements whose end tag closes everything in them. -/
def specialNames : List String :=
  ["address", "applet", "area", "article", "aside", "base", "basefont", "bgsound", "blockquote",
   "body", "br", "button", "caption", "center", "col", "colgroup", "dd", "details", "dir", "div",
   "dl", "dt", "embed", "fieldset", "figcaption", "figure", "footer", "form", "frame", "frameset",
   "h1", "h2", "h3", "h4", "h5", "h6", "head", "header", "hgroup", "hr", "html", "iframe", "img",
   "input", "isindex", "li", "link", "listing", "main", "marquee", "menu", "meta", "nav",
   "noembed", "noframes", "noscript", "object", "ol", "p", "param", "plaintext", "pre", "script",
   "search", "section", "select", "source", "style", "summary", "table", "tbody", "td", "template",
   "textarea", "tfoot", "th", "thead", "title", "tr", "track", "ul", "wbr", "xmp"]

def headingNames : List String := ["h1", "h2", "h3", "h4", "h5", "h6"]

/-- Elements that end where a surrounding one ends. -/
def impliedEndNames : List String :=
  ["dd", "dt", "li", "option", "optgroup", "p", "rb", "rp", "rt", "rtc"]

def allImpliedEndNames : List String :=
  impliedEndNames ++ ["caption", "colgroup", "tbody", "td", "tfoot", "th", "thead", "tr"]

namespace Element

/-- A place in a formula that holds ordinary text. -/
def isMathText (e : Element) : Bool :=
  e.vocabulary == .math && ["mi", "mo", "mn", "ms", "mtext"].contains e.name

/-- A place in a drawing that holds ordinary content. -/
def isSvgContent (e : Element) : Bool :=
  e.vocabulary == .svg && ["foreignobject", "desc", "title"].contains e.name

def isSpecial (e : Element) : Bool := e.isHtmlIn specialNames

def isHeading (e : Element) : Bool := e.isHtmlIn headingNames

end Element

/-- A kind of scope: the elements that end it. -/
inductive Scope where
  | block
  | listItem
  | button
  | table
  | select
  deriving DecidableEq, Repr

namespace Scope

def endsBlock (e : Element) : Bool :=
  e.isHtmlIn ["applet", "caption", "html", "table", "td", "th", "marquee", "object", "template"] ||
    e.isMathText || e.isSvgContent

def isEnd (scope : Scope) (e : Element) : Bool :=
  match scope with
  | block => endsBlock e
  | listItem => endsBlock e || e.isHtmlIn ["ol", "ul"]
  | button => endsBlock e || e.isHtml "button"
  | table => e.isHtmlIn ["html", "table", "template"]
  | select => !e.isHtmlIn ["optgroup", "option"]

end Scope

/-- An element whose end has not been read. -/
structure OpenElement where
  id : NodeId
  element : Element
  deriving Repr, Inhabited

/-- The open elements, innermost first. -/
abbrev OpenElements := List OpenElement

namespace OpenElements

def currentIs (stack : OpenElements) (p : Element → Bool) : Bool :=
  stack.head?.any fun o => p o.element

def holds (stack : OpenElements) (name : String) : Bool := stack.any (·.element.isHtml name)

/-- Whether an element that satisfies `p` is open in the innermost scope of a kind. -/
def inScope (scope : Scope) (p : OpenElement → Bool) : OpenElements → Bool
  | [] => false
  | o :: outer =>
    if p o then true else if scope.isEnd o.element then false else inScope scope p outer

def nameInScope (scope : Scope) (name : String) (stack : OpenElements) : Bool :=
  stack.inScope scope (·.element.isHtml name)

/-- Closes elements up to and with the first that satisfies `p`. -/
def closeThrough (p : Element → Bool) (stack : OpenElements) : OpenElements :=
  (stack.dropWhile fun o => !p o.element).drop 1

def closeNamed (name : String) (stack : OpenElements) : OpenElements :=
  stack.closeThrough (·.isHtml name)

/-- Closes elements up to the first that satisfies `p`. -/
def closeTo (p : Element → Bool) (stack : OpenElements) : OpenElements :=
  stack.dropWhile fun o => !p o.element

/-- Closes the innermost elements that end where a surrounding one ends, up to one of a name. -/
def closeImplied (names : List String) (stop : Option String) (stack : OpenElements) :
    OpenElements :=
  stack.dropWhile fun o => o.element.isHtmlIn names && some o.element.name != stop

def without (id : NodeId) (stack : OpenElements) : OpenElements := stack.filter (·.id != id)

end OpenElements
end SymbolDocs.Html
