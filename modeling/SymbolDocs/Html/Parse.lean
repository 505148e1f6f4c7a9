import SymbolDocs.Html.FrameRules
import SymbolDocs.Html.SelectRules
import SymbolDocs.Html.TableRules
import SymbolDocs.Html.Tokenizer

namespace SymbolDocs.Html

namespace Builder

/-- What stands first in a template tells what it is a template of. -/
def inTemplate (b : Builder) (token : Token) : Outcome :=
  let become := fun mode =>
    Outcome.again { b with templateModes := mode :: b.templateModes.drop 1, mode }
  match token with
  | .characters .. => b.inBody token
  | .comment _ => b.inBody token
  | .startTag tag =>
    if metaNames.contains tag.name then .done (b.openMeta tag)
    else match tag.name with
      | "caption" | "colgroup" | "tbody" | "tfoot" | "thead" => become .inTable
      | "col" => become .inColumnGroup
      | "tr" => become .inTableBody
      | "td" | "th" => become .inRow
      | _ => become .inBody
  | .endTag name => .done (if name = "template" then b.closeTemplate else b)
  | .eof => b.endInTemplate
  | .doctype _ => .done b

def inText (b : Builder) (token : Token) : Outcome :=
  match token with
  | .characters _ s => .done (b.addText s)
  | .endTag _ => .done (b.pop.withMode b.returnMode)
  | _ => .again (b.pop.withMode b.returnMode)

def step (b : Builder) (token : Token) : Outcome :=
  match b.mode with
  | .initial =>
    match token with
    | .characters .space _ => .done b
    | .comment _ => .done (b.addCommentTo Arena.document)
    | _ => .again { b with hasOldLayout := true, mode := .beforeHtml }
  | .beforeHtml => b.beforeHtml token
  | .beforeHead => b.beforeHead token
  | .inHead => b.inHead token
  | .afterHead => b.afterHead token
  | .inBody => b.inBody token
  | .text => b.inText token
  | .inTable => b.inTable token
  | .inTableText => b.inTableText token
  | .inCaption => b.inCaption token
  | .inColumnGroup => b.inColumnGroup token
  | .inTableBody => b.inTableBody token
  | .inRow => b.inRow token
  | .inCell => b.inCell token
  | .inSelect => b.inSelect token
  | .inSelectInTable => b.inSelectInTable token
  | .inTemplate => b.inTemplate token
  | .afterBody => b.afterBody token
  | .inFrameset => b.inFrameset token
  | .afterFrameset => b.afterFrameset token
  | .afterAfterBody => b.afterAfterBody token
  | .afterAfterFrameset => b.afterAfterFrameset token

/-- Whether the innermost element belongs to a formula or a drawing. -/
def isForeign (b : Builder) : Bool := b.currentIs (·.vocabulary != .html)

/-- Whether a token is content of a formula or a drawing. -/
def isForeignFor (b : Builder) (token : Token) : Bool :=
  b.currentIs fun e =>
    match token with
    | .eof => false
    | .characters .. => e.vocabulary != .html && !e.isMathText && !e.isSvgContent
    | .startTag tag =>
      e.vocabulary != .html && !e.isSvgContent &&
        !(e.isMathText && tag.name != "mglyph" && tag.name != "malignmark") &&
        !(e.vocabulary == .math && e.name == "annotation-xml" && tag.name == "svg")
    | _ => e.vocabulary != .html

/-- Elements of the page itself, which end a formula or a drawing. -/
def breakoutNames : List String :=
  ["b", "big", "blockquote", "body", "br", "center", "code", "dd", "div", "dl", "dt", "em",
   "embed", "h1", "h2", "h3", "h4", "h5", "h6", "head", "hr", "i", "img", "li", "listing", "menu",
   "meta", "nobr", "ol", "p", "pre", "ruby", "s", "small", "span", "strong", "strike", "sub",
   "sup", "table", "tt", "u", "ul", "var"]

def isBreakout (tag : Tag) : Bool :=
  breakoutNames.contains tag.name ||
    (tag.name == "font" && tag.attributes.any fun (name, _) =>
      ["color", "face", "size"].contains name)

def leaveForeign (b : Builder) : Builder :=
  b.mapStack (·.closeTo fun e => e.vocabulary == .html || e.isMathText || e.isSvgContent)

/-- The end tag of an element of a formula or a drawing; one of the page is read by the rules of the
page. -/
def closeForeign (b : Builder) (name : String) : OpenElements → Outcome
  | [] => .done b
  | o :: outer =>
    if outer.isEmpty then .done b
    else if o.element.vocabulary == .html then b.step (.endTag name)
    else if o.element.name = name then .done { b with stack := outer }
    else closeForeign b name outer

def stepForeign (b : Builder) (token : Token) : Outcome :=
  match token with
  | .characters .nul s => .done (b.addText (showNul s))
  | .characters .space s => .done (b.addText s)
  | .characters .other s => .done (b.addText s).forbidFrameset
  | .comment _ => .done b.addComment
  | .startTag tag =>
    if isBreakout tag then b.leaveForeign.step token
    else match b.stack.head? with
      | some o => .done (b.openForeign o.element.vocabulary tag)
      | none => .done b
  | .endTag name =>
    if name = "br" || name = "p" then b.leaveForeign.step token
    else b.closeForeign name b.stack
  | _ => .done b

/-- Reads one token. Whenever it is read again the mode is a later one or an element has been
closed, which bounds the number of rounds. -/
def run : Nat → Builder → Token → Builder
  | 0, b, _ => b
  | rounds + 1, b, token =>
    match if b.isForeignFor token then b.stepForeign token else b.step token with
    | .done b => b
    | .again b => run rounds b token

def feed (b : Builder) (token : Token) : Builder :=
  let drops := b.dropsLineFeed
  let b := { b with dropsLineFeed := false }
  let rounds := 8 * b.stack.length + 64
  match token with
  | .doctype asksOldLayout =>
    if b.mode = .initial then { b with hasOldLayout := asksOldLayout, mode := .beforeHtml } else b
  | .characters .space ('\n' :: s) =>
    if !drops then b.run rounds token
    else if s.isEmpty then b
    else b.run rounds (.characters .space s)
  | _ => b.run rounds token

/-- Reads a text, at most `steps` pieces of it. -/
def read : Nat → Builder → Text → Builder
  | 0, b, _ => b
  | steps + 1, b, s =>
    let name := (b.stack.head?.map (·.element.name)).getD ""
    let (tokens, rest) := nextTokens b.textMode name b.isForeign s
    let b := tokens.foldl feed { b with textMode := .data }
    if tokens.contains .eof then b else read steps b rest

end Builder

/-- The nodes of a whole page. -/
def parsePage (s : Text) : List Node :=
  let s := normalizeInput s
  (({} : Builder).read (s.length + 2) s).arena.toNodes

/-- The nodes of a piece of the body of a page, in an element of their own. -/
def parseFragment (s : Text) : List Node :=
  let s := normalizeInput s
  let b := ({ isFragment := true } : Builder).openRoot []
  (b.resetMode.read (s.length + 2) s).arena.toNodes

end SymbolDocs.Html
