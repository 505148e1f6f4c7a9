import SymbolDocs.Docstring.Prose
import SymbolDocs.Docstring.Reference
import SymbolDocs.Text.Layout

namespace SymbolDocs.HelpPage

open Text

/-- A piece of a page of the interactive help. -/
inductive Block where
  | heading (title : Text)
  | prose (text : Text)
  | quote (text : Text)
  | code (lines : List Text)
  deriving DecidableEq, Repr

/-- Deeper than the page by this many bytes, a line is code. -/
def codeDepth : Nat := 4

def isCapital (c : Char) : Bool := c.isUpper

/-- Capitals, digits and underscores. -/
def isTopicChar (c : Char) : Bool := c.isUpper || c.isDigit || c == '_'

/-- A word of capitals at the start of a text, its first letter included. -/
def topicName? (prev : Option Char) (s : Text) : Option Text :=
  match s with
  | c :: s =>
    let (more, rest) := s.span isTopicChar
    if isCapital c && isEdge prev && !more.isEmpty && isEdge rest.head? then some (c :: more)
    else none
  | [] => none

/-- Names of help topics vanish. -/
def dropTopic : Substitution := fun prev s => do
  let name ← topicName? prev s
  return (if name = "PEP" then name else [], name.length)

/-- Commas with the white space around them become one comma and a space. -/
def tidySeparator : Substitution := fun _ s =>
  let run := s.takeWhile fun c => isBlankChar c || c == ','
  if run.contains ',' then some (", ", run.length) else none

def isLooseChar (c : Char) : Bool := c == ',' || c == '.' || isBlankChar c

/-- References without the names of help topics, tidied up; none when nothing is left. -/
def tidyTopics (s : Text) : Option Text :=
  let collapsed := joinWith " " (words (substitute dropTopic s))
  let separated := substitute tidySeparator collapsed
  let trimmed := dropEndWhile isLooseChar (separated.dropWhile isLooseChar)
  (nonEmpty? trimmed).map Reference.linkProposals

def startsWithIgnoreCase (s lead : Text) : Bool := eqIgnoreCase (s.take lead.length) lead

def footerTitle : Text := "related help topics:"

/-- The page and the topics of its last footer. -/
def cutFooter (lines : List Text) : List Text × Option Text :=
  let isFooter (line : Text) := startsWithIgnoreCase (trim line) footerTitle
  match lines.reverse.span (!isFooter ·) with
  | (_, []) => (lines, none)
  | (below, footer :: above) =>
    let text := joinWith " " ((footer :: below.reverse).map trim)
    (above.reverse, some (trim (text.drop footerTitle.length)))

def isRuleChar (c : Char) : Bool := c == '-' || c == '=' || c == '*'

/-- A title and a line below it that underlines it over its whole length. -/
def isSectionTitle (line next : Text) : Bool :=
  let title := trim line
  let under := trim next
  !title.isEmpty && !under.isEmpty && title.length ≤ under.length && under.all isRuleChar &&
    !title.all isRuleChar

/-- Lines of code that are being collected. A blank line ends a transcript, but no other code. -/
structure CodeRun where
  indent : Nat
  isTranscript : Bool
  lines : List Text
  deriving DecidableEq, Repr

inductive Part where
  | body
  | examples
  | seeAlso
  deriving DecidableEq, Repr

/-- A page that is being read. -/
structure Reading where
  blocks : List Block := []
  paragraph : List Text := []
  isQuote : Bool := false
  code : Option CodeRun := none
  exampleLines : List Text := []
  examples : List Text := []
  seeAlso : List Text := []
  part : Part := .body
  deriving DecidableEq, Repr

namespace Reading

def closeParagraph (r : Reading) : Reading :=
  if r.paragraph.isEmpty then r
  else
    let text := Reference.toMarkdown (joinWith " " r.paragraph)
    let block := if r.isQuote then Block.quote text else Block.prose text
    { r with blocks := r.blocks ++ [block], paragraph := [], isQuote := false }

def closeCode (r : Reading) : Reading :=
  match r.code with
  | none => r
  | some span =>
    let lines := ((span.lines.map (dropIndent span.indent)).reverse.dropWhile isBlank).reverse
    { r with
      code := none
      blocks := if lines.isEmpty then r.blocks else r.blocks ++ [.code lines] }

/-- Ends the examples, if the page is at them. -/
def closeExamples (r : Reading) : Reading :=
  if r.part = .examples then
    { r with
      exampleLines := []
      examples := r.examples ++ (nonEmpty? (dedent r.exampleLines)).toList }
  else r

/-- Ends whatever is being collected and goes on with another part. -/
def enter (r : Reading) (part : Part) : Reading :=
  { r.closeParagraph.closeCode.closeExamples with part }

/-- A line of the body, `relative` bytes deeper than the page. -/
def addBodyLine (r : Reading) (relative : Nat) (line : Text) : Reading :=
  let text := trim line
  let isPrompt := text.startsWith ">>>"
  let isGrammar := occursIn "::=" text
  let plain (r : Reading) : Reading :=
    if text.isEmpty then r.closeParagraph
    else if isGrammar || isPrompt || codeDepth ≤ relative then
      { r.closeParagraph with code := some ⟨indentWidth line, isPrompt, [line]⟩ }
    else
      let isNote := startsWithIgnoreCase text "note:"
      let r := if isNote then { r.closeParagraph with isQuote := true } else r
      { r with paragraph := r.paragraph ++ [text] }
  match r.code with
  | none => plain r
  | some span =>
    if text.isEmpty then
      if span.isTranscript then r.closeCode
      else { r with code := some { span with lines := span.lines ++ [[]] } }
    else if span.isTranscript || isPrompt || isGrammar || text.startsWith "..." ||
        codeDepth ≤ relative then
      { r with code := some { span with
          isTranscript := span.isTranscript || isPrompt
          lines := span.lines ++ [line] } }
    else plain r.closeCode

/-- A line that is no title. -/
def addLine (baseline : Nat) (r : Reading) (line : Text) : Reading :=
  let text := trim line
  if startsWithIgnoreCase text "see also:" then
    let r := r.enter .seeAlso
    { r with seeAlso := r.seeAlso ++ [trim (text.drop "see also:".length)] }
  else if eqIgnoreCase text "examples:" || eqIgnoreCase text "example:" then r.enter .examples
  else match r.part with
    | .seeAlso => { r with seeAlso := r.seeAlso ++ [text] }
    | .examples => { r with exampleLines := r.exampleLines ++ [line] }
    | .body => r.addBodyLine (indentWidth line - baseline) line

def addTitle (r : Reading) (line : Text) : Reading :=
  let r := r.enter .body
  { r with blocks := r.blocks ++ [.heading (trim line)] }

def addLines (baseline : Nat) (r : Reading) : List Text → Reading
  | [] => r
  | [line] => r.addLine baseline line
  | line :: next :: rest =>
    if isSectionTitle line next then addLines baseline (r.addTitle line) rest
    else addLines baseline (r.addLine baseline line) (next :: rest)

end Reading

/-- Grammar has no language; all other code is Python. -/
def Block.render : Block → Text
  | heading title => ("### " : Text) ++ title
  | prose text => text
  | quote text => ("> " : Text) ++ text
  | code lines =>
    (if lines.any (occursIn "::=") then "```\n" else "```python\n" : Text) ++
      joinWith "\n" lines ++ ("\n```" : Text)

def Block.prose? : Block → Option Text
  | prose text => some text
  | _ => none

/-- The title of a page is not shown. -/
def shownBlocks : List Block → List Block
  | .heading _ :: blocks => blocks
  | blocks => blocks

/-- A page of the interactive help as a docstring whose description shows the whole page. -/
def parse (s : Text) : Docstring :=
  let (lines, footer) := cutFooter (plainLines s)
  let r := (Reading.addLines (margin lines) {} lines).enter .body
  let notes := (tidyTopics (joinWith " " r.seeAlso)).toList ++
    (footer.bind tidyTopics).toList
  { summary := r.blocks.findSome? Block.prose?
    description := nonEmpty? (joinWith "\n\n" ((shownBlocks r.blocks).map Block.render))
    examples := r.examples
    notes := notes.map fun note => ("See also: " : Text) ++ note }

end SymbolDocs.HelpPage
