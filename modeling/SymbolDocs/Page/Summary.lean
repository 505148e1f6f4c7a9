import SymbolDocs.Html.Parse
import SymbolDocs.Limits
import SymbolDocs.Markdown.Writer

namespace SymbolDocs.Page

open Html Node

/-- Elements of a page, each at its place, in the order of the page. -/
abbrev Spots := List Spot

/-- The first element that satisfies `p`, and all behind it. -/
def find? (p : Element → Bool) (spots : Spots) : Option (Spot × Spots) :=
  match spots.dropWhile fun spot => !p spot.element with
  | [] => none
  | spot :: behind => some (spot, behind)

/-- The first paragraphs with more than `least` characters, at most `most` of them. -/
def paragraphs (base : Option Url) (most least : Nat) (spots : Spots) : List Text :=
  (((spots.filter (·.element.name == "p")).map fun spot => Markdown.render base spot.node).filter
    (least < ·.length)).take most

/-- Paragraphs with empty lines between them, if there are any. -/
def joined? (paragraphs : List Text) : Option Text :=
  if paragraphs.isEmpty then none else some (Text.joinWith "\n\n" paragraphs)

/-- The first paragraphs behind the first element that satisfies `p`. -/
def paragraphsBehind? (base : Option Url) (p : Element → Bool) (spots : Spots) : Option Text := do
  let (_, behind) ← find? p spots
  joined? (paragraphs base Limits.paragraphCount Limits.paragraphChars behind)

def isModule (e : Element) : Bool :=
  e.id?.any fun id => Text.startsWith (Text.asciiLower id) "module-"

/-- The paragraphs in the section of a module, or behind the title, or a long one from anywhere. -/
def summaryOf? (nodes : List Node) (base : Option Url) : Option Text :=
  let spots := spotsOf [] nodes
  (paragraphsBehind? base isModule spots).or
    ((paragraphsBehind? base (·.name == "h1") spots).or
      (paragraphs base 1 Limits.pageParagraphChars spots).head?)

def summaryText? (html url : Text) : Option Text :=
  summaryOf? (parsePage html) (Url.ofText? url)

/-- Markdown of a piece of a page. -/
def toMarkdown (fragment url : Text) : Text :=
  Markdown.renderAll (Url.ofText? url) (parseFragment fragment)

end SymbolDocs.Page
