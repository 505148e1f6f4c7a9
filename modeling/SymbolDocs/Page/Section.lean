import SymbolDocs.Html.Parse
import SymbolDocs.Page.Summary
import SymbolDocs.Text.Layout

namespace SymbolDocs.Page

open Html Node

/-- The first element with an id, whatever the letter case. -/
def anchored? (anchor : Text) (spots : Spots) : Option (Spot × Spots) :=
  find? (fun e => e.id?.any (Text.eqIgnoreCase · anchor)) spots

/-- What a term is defined as: all up to the next term of the list. -/
def definitionText (base : Option Url) (spot : Spot) : Text :=
  Markdown.renderAll base (spot.siblings.takeWhile fun node => !node.hasName "dt")

def isHeading (name : String) : Bool := headings.contains name
where
  headings : List String := ["h1", "h2", "h3", "h4", "h5", "h6"]

def entersHeading : Event → Bool
  | .enter e => isHeading e.name
  | _ => false

/-- An element and what follows it up to the next heading. -/
def eventsUpToHeading (spot : Spot) : List Event :=
  spot.node.events ++ (eventsOf spot.following).takeWhile (!entersHeading ·)

def textUpToHeading (base : Option Url) (spot : Spot) : Text :=
  let w := ({ base } : Markdown.Writer).feedUntil Limits.sectionChars (eventsUpToHeading spot)
  Text.trimEnd (Text.truncate Limits.sectionChars w.finish)

/-- A term stands for its definition, a section for itself, and anything else for the text up to the
next heading. -/
def renderSpot (base : Option Url) (spot : Spot) : Text :=
  match spot.element.name with
  | "dt" => definitionText base spot
  | "section" => Markdown.render base spot.node
  | _ => textUpToHeading base spot

/-- The next paragraphs in front of the next term. -/
def nextParagraphs (base : Option Url) (behind : Spots) : List Text :=
  paragraphs base Limits.paragraphCount Limits.paragraphChars
    ((behind.take Limits.fallbackElements).takeWhile (·.element.name != "dt"))

/-- What the element of an anchor is about; where that is short, the paragraphs behind it. -/
def sectionOf? (nodes : List Node) (anchor : Text) (base : Option Url) : Option Text := do
  let anchor := anchor.dropWhile (· == '#')
  if anchor.isEmpty then none
  let (spot, behind) ← anchored? anchor (spotsOf [] nodes)
  let text := renderSpot base spot
  if Limits.leastSectionChars ≤ text.length then text
  else (joined? (nextParagraphs base behind)).or (Text.nonEmpty? text)

/-- Markdown of the part of a page that an anchor stands for. -/
def sectionText? (html anchor url : Text) : Option Text :=
  sectionOf? (parsePage html) anchor (Url.ofText? url)

end SymbolDocs.Page
