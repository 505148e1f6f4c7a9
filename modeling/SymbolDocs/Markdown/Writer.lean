import SymbolDocs.Html.Node
import SymbolDocs.Url.Parse

namespace SymbolDocs.Markdown

open Html

/-- Markdown that is being written from a walk through a page. -/
structure Writer where
  /-- The page that links are relative to. -/
  base : Option Url := none
  /-- What has been written, the last character first. -/
  written : Text := []
  /-- How many preformatted elements are open. -/
  preDepth : Nat := 0
  /-- How many elements are open from the one on that is left out. -/
  skipDepth : Nat := 0
  /-- The targets of the open links, innermost first. -/
  links : List (Option Text) := []
  deriving DecidableEq, Repr, Inhabited

/-- Elements that hold nothing to read. -/
def leftOutNames : List String := ["script", "style", "noscript", "template", "head"]

def blockNames : List String :=
  ["p", "div", "section", "article", "dl", "dd", "dt", "ul", "ol", "blockquote", "table",
   "figure", "aside"]

/-- Whether an element is left out: one that is not to be read, or a link to the place it is in. -/
def isLeftOut (e : Element) : Bool :=
  leftOutNames.contains e.name || (e.name == "a" && e.hasClass "headerlink")

/-- What an element looks like. -/
inductive Style where
  | heading (level : Nat)
  | boldHeading
  | preformatted
  | inline (mark : Text)
  | item
  | newline
  | row
  | cell
  | link
  | block
  | plain
  deriving DecidableEq, Repr

def Style.ofName (name : String) : Style :=
  match name with
  | "h1" => heading 1
  | "h2" => heading 2
  | "h3" => heading 3
  | "h4" | "h5" | "h6" => boldHeading
  | "pre" => preformatted
  | "code" | "tt" | "kbd" | "samp" => inline "`"
  | "em" | "i" | "var" => inline "*"
  | "strong" | "b" => inline "**"
  | "li" => item
  | "br" => newline
  | "tr" => row
  | "td" | "th" => cell
  | "a" => link
  | name => if blockNames.contains name then block else plain

def isBlankOrTab (c : Char) : Bool := c == ' ' || c == '\t'

/-- At most one empty line in a row is kept. -/
def collapseBlankLines : Text → Text
  | [] => []
  | c :: s =>
    if c = '\n' ∧ Text.startsWith s "\n\n" then collapseBlankLines s else c :: collapseBlankLines s

namespace Writer

def push (w : Writer) (s : Text) : Writer := { w with written := s.reverse ++ w.written }

def trimBlanks (w : Writer) : Writer := { w with written := w.written.dropWhile isBlankOrTab }

/-- Sets what comes off from what is written, unless it stands off already. -/
def gap (w : Writer) : Writer :=
  match w.written with
  | [] => w
  | c :: _ => if Text.isBlankChar c || c == '[' then w else w.push " "

def freshLine (w : Writer) : Writer :=
  let w := w.trimBlanks
  match w.written with
  | [] | '\n' :: _ => w
  | _ => w.push "\n"

def blankLine (w : Writer) : Writer :=
  let w := w.trimBlanks
  match w.written with
  | [] | '\n' :: '\n' :: _ => w
  | '\n' :: _ => w.push "\n"
  | _ => w.push "\n\n"

/-- Where a link leads, if it leads anywhere. -/
def target? (w : Writer) (href : Text) : Option Text :=
  let href := Text.trim href
  if href.isEmpty || Text.startsWith href "javascript:" then none
  else match w.base with
    | some base => (base.join? href).map Url.toText
    | none => some href

def openLink (w : Writer) (e : Element) : Writer :=
  let target := (e.attribute? "href").bind w.target?
  let w := if target.isSome then w.push "[" else w
  { w with links := target :: w.links }

/-- A link without text leaves nothing behind. -/
def closeLink (w : Writer) : Writer :=
  match w.links with
  | [] => w
  | none :: links => { w with links }
  | some target :: links =>
    let w := { w with links }
    match w.written with
    | '[' :: written => { w with written }
    | _ => w.trimBlanks.push ("](" ++ target ++ ")")

def enter (w : Writer) (e : Element) : Writer :=
  if 0 < w.skipDepth then { w with skipDepth := w.skipDepth + 1 }
  else if isLeftOut e then { w with skipDepth := 1 }
  else match Style.ofName e.name with
    | .heading level => w.blankLine.push (List.replicate level '#' ++ [' '])
    | .boldHeading => w.blankLine.push "**"
    | .preformatted =>
      let w := w.blankLine.push "```python\n"
      { w with preDepth := w.preDepth + 1 }
    | .inline mark => if w.preDepth = 0 then w.push mark else w
    | .item => w.freshLine.push "- "
    | .newline => w.push "\n"
    | .row => w.freshLine
    | .cell => w.gap
    | .link => w.openLink e
    | .block => w.blankLine
    | .plain => w

def closePreformatted (w : Writer) : Writer :=
  let w := { w with preDepth := w.preDepth - 1 }
  let w := if w.written.head? == some '\n' then w else w.push "\n"
  (w.push "```").blankLine

def leave (w : Writer) (e : Element) : Writer :=
  if 0 < w.skipDepth then { w with skipDepth := w.skipDepth - 1 }
  else match Style.ofName e.name with
    | .heading _ => w.blankLine
    | .boldHeading => (w.trimBlanks.push "**").blankLine
    | .preformatted => w.closePreformatted
    | .inline mark => if w.preDepth = 0 then w.push mark else w
    | .item => w.freshLine
    | .link => w.closeLink
    | .block => w.blankLine
    | .newline | .row | .cell | .plain => w

/-- Words with single spaces between them. -/
def pushWords (w : Writer) : List Text → Writer
  | [] => w
  | [word] => w.push word
  | word :: more => pushWords (w.push word).gap more

/-- Text is kept as it is in preformatted elements; elsewhere white space counts as one space. -/
def addText (w : Writer) (s : Text) : Writer :=
  if 0 < w.skipDepth then w
  else if 0 < w.preDepth then w.push s
  else
    let s := s.filter (· != '\u00b6')
    let w := if s.head?.any Text.isBlankChar then w.gap else w
    let w := w.pushWords (Text.words s)
    if s.getLast?.any Text.isBlankChar then w.gap else w

def feed (w : Writer) : Node.Event → Writer
  | .enter e => w.enter e
  | .text s => w.addText s
  | .leave e => w.leave e

def feedAll (w : Writer) (events : List Node.Event) : Writer := events.foldl feed w

/-- Whether at least so many characters have been written. -/
def reaches (w : Writer) (cap : Nat) : Bool := cap ≤ w.written.length

/-- Reads events until so many characters have been written. -/
def feedUntil (cap : Nat) (w : Writer) : List Node.Event → Writer
  | [] => w
  | event :: more =>
    let w := w.feed event
    if w.reaches cap then w else feedUntil cap w more

/-- The text written: no line ends in white space, and the text neither begins nor ends with it. -/
def finish (w : Writer) : Text :=
  let lines := (Text.lines (collapseBlankLines w.written.reverse)).map Text.trimEnd
  Text.trim (Text.joinWith "\n" lines)

end Writer

/-- A node as Markdown. -/
def render (base : Option Url) (node : Node) : Text :=
  (({ base } : Writer).feedAll node.events).finish

def renderAll (base : Option Url) (nodes : List Node) : Text :=
  (({ base } : Writer).feedAll (Node.eventsOf nodes)).finish

end SymbolDocs.Markdown
