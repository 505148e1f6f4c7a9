import SymbolDocs.Html.HeadRules

namespace SymbolDocs.Html

/-- What a start tag does in the body of a page. -/
inductive StartRole where
  | root
  | describes
  | body
  | frameset
  | block
  | heading
  | preformatted
  | form
  | listItem
  | definition
  | plaintext
  | button
  | anchor
  | formatting
  | noBreak
  | embedded
  | table
  | void
  | input
  | parameter
  | rule
  | textarea
  | literal
  | frame
  | raw
  | select
  | option
  | rubyBase
  | rubyText
  | formula
  | drawing
  | tablePart
  | other
  deriving DecidableEq, Repr

namespace StartRole

def names : List (StartRole × List String) :=
  [(root, ["html"]),
   (describes, Builder.metaNames),
   (body, ["body"]),
   (frameset, ["frameset"]),
   (block,
    ["address", "article", "aside", "blockquote", "center", "details", "dialog", "dir", "div",
     "dl", "fieldset", "figcaption", "figure", "footer", "header", "hgroup", "main", "menu",
     "nav", "ol", "p", "search", "section", "summary", "ul"]),
   (heading, headingNames),
   (preformatted, ["pre", "listing"]),
   (form, ["form"]),
   (listItem, ["li"]),
   (definition, ["dd", "dt"]),
   (plaintext, ["plaintext"]),
   (button, ["button"]),
   (anchor, ["a"]),
   (formatting,
    ["b", "big", "code", "em", "font", "i", "s", "small", "strike", "strong", "tt", "u"]),
   (noBreak, ["nobr"]),
   (embedded, ["applet", "marquee", "object"]),
   (table, ["table"]),
   (void, ["area", "br", "embed", "img", "image", "keygen", "wbr"]),
   (input, ["input"]),
   (parameter, ["param", "source", "track"]),
   (rule, ["hr"]),
   (textarea, ["textarea"]),
   (literal, ["xmp"]),
   (frame, ["iframe"]),
   (raw, ["noembed", "noscript"]),
   (select, ["select"]),
   (option, ["optgroup", "option"]),
   (rubyBase, ["rb", "rtc"]),
   (rubyText, ["rp", "rt"]),
   (formula, ["math"]),
   (drawing, ["svg"]),
   (tablePart,
    ["caption", "col", "colgroup", "frame", "head", "tbody", "td", "tfoot", "th", "thead",
     "tr"])]

def ofName (name : String) : StartRole :=
  ((names.find? (·.2.contains name)).map (·.1)).getD other

end StartRole

/-- Elements that their own end tag closes together with what is open in them. -/
def blockEndNames : List String :=
  ["address", "article", "aside", "blockquote", "button", "center", "details", "dialog", "dir",
   "div", "dl", "fieldset", "figcaption", "figure", "footer", "header", "hgroup", "listing",
   "main", "menu", "nav", "ol", "pre", "search", "section", "summary", "ul"]

def formattingNames : List String :=
  ["a", "b", "big", "code", "em", "font", "i", "nobr", "s", "small", "strike", "strong", "tt", "u"]

def Tag.isHidden (tag : Tag) : Bool :=
  tag.attributes.any fun (name, value) => name == "type" && Text.eqIgnoreCase value "hidden"

namespace Builder

/-- An item ends the item before it, unless a list of its own is open in that. -/
def closeItem (b : Builder) (names : List String) : Builder :=
  let isItem := fun (o : OpenElement) => o.element.isHtmlIn names
  let isBoundary := fun (o : OpenElement) =>
    o.element.isSpecial && !o.element.isHtmlIn ["address", "div", "p"]
  match b.stack.find? fun o => isItem o || isBoundary o with
  | some o =>
    if isItem o then (b.closeImpliedExcept o.element.name).closeNamed o.element.name else b
  | none => b

def openBlock (b : Builder) (tag : Tag) : Builder := b.closeOpenParagraph.openTag tag

def openItem (b : Builder) (names : List String) (tag : Tag) : Builder :=
  (b.forbidFrameset.closeItem names).openBlock tag

def openForm (b : Builder) (tag : Tag) : Builder :=
  if b.isIn "template" then b.openBlock tag
  else if b.form.isSome then b
  else
    let b := b.openBlock tag
    { b with form := b.stack.head?.map (·.id) }

def openButton (b : Builder) (tag : Tag) : Builder :=
  let b :=
    if b.stack.nameInScope .block "button" then b.closeImplied.closeNamed "button" else b
  (b.reopenFormatting.openTag tag).forbidFrameset

def openNoBreak (b : Builder) (tag : Tag) : Builder :=
  let b := b.reopenFormatting
  let b :=
    if b.stack.nameInScope .block "nobr" then (b.closeFormatting "nobr").reopenFormatting else b
  b.openFormatting tag

/-- A second frameset takes the place of a body without content. -/
def replaceBody (b : Builder) (tag : Tag) : Builder :=
  match b.body? with
  | some body =>
    if b.framesetAllowed then
      let b := { b with arena := b.arena.detach body.id }
      ((b.mapStack fun s => s.drop (s.length - 1)).openTag tag).withMode .inFrameset
    else b
  | none => b

def mergeBody (b : Builder) (tag : Tag) : Builder :=
  match b.body? with
  | some body =>
    if b.isIn "template" then b else b.forbidFrameset.mergeAttributes body.id tag.attributes
  | none => b

/-- The start of a formula or a drawing, or of an element in it. -/
def openForeign (b : Builder) (vocabulary : Vocabulary) (tag : Tag) : Builder :=
  let element := { elementOf tag with vocabulary }
  if tag.selfClosing then (b.addElement element).1 else b.openElement element

def openVoid (b : Builder) (tag : Tag) : Builder := (b.reopenFormatting.addVoid tag).forbidFrameset

def openSelect (b : Builder) (tag : Tag) : Builder :=
  let isInTable := [Mode.inTable, .inCaption, .inTableBody, .inRow, .inCell].contains b.mode
  ((b.reopenFormatting.openTag tag).forbidFrameset).withMode
    (if isInTable then .inSelectInTable else .inSelect)

def openRuby (b : Builder) (stop : Option String) (tag : Tag) : Builder :=
  let b := if b.stack.nameInScope .block "ruby" then
      b.mapStack (·.closeImplied impliedEndNames stop)
    else b
  b.openTag tag

def startInBody (b : Builder) (tag : Tag) : Builder :=
  match StartRole.ofName tag.name with
  | .root => b.mergeRoot tag
  | .describes => b.openMeta tag
  | .body => b.mergeBody tag
  | .frameset => b.replaceBody tag
  | .block => b.openBlock tag
  | .heading =>
    let b := b.closeOpenParagraph
    (if b.currentIs Element.isHeading then b.pop else b).openTag tag
  | .preformatted => { (b.openBlock tag).forbidFrameset with dropsLineFeed := true }
  | .form => b.openForm tag
  | .listItem => b.openItem ["li"] tag
  | .definition => b.openItem ["dd", "dt"] tag
  | .plaintext => { b.openBlock tag with textMode := .plaintext }
  | .button => b.openButton tag
  | .anchor => b.closeOpenAnchor.reopenFormatting.openFormatting tag
  | .formatting => b.reopenFormatting.openFormatting tag
  | .noBreak => b.openNoBreak tag
  | .embedded => ((b.reopenFormatting.openTag tag).pushMarker).forbidFrameset
  | .table =>
    let b := if b.hasOldLayout then b else b.closeOpenParagraph
    ((b.openTag tag).forbidFrameset).withMode .inTable
  | .void => b.openVoid (if tag.name = "image" then { tag with name := "img" } else tag)
  | .input => if tag.isHidden then b.reopenFormatting.addVoid tag else b.openVoid tag
  | .parameter => b.addVoid tag
  | .rule => (b.closeOpenParagraph.addVoid tag).forbidFrameset
  | .textarea => { (b.openText tag .rcdata).forbidFrameset with dropsLineFeed := true }
  | .literal => (b.closeOpenParagraph.reopenFormatting.openText tag .rawtext).forbidFrameset
  | .frame => (b.openText tag .rawtext).forbidFrameset
  | .raw => b.openText tag .rawtext
  | .select => b.openSelect tag
  | .option =>
    ((if b.currentIsHtml "option" then b.pop else b).reopenFormatting).openTag tag
  | .rubyBase => b.openRuby none tag
  | .rubyText => b.openRuby (some "rtc") tag
  | .formula => b.reopenFormatting.openForeign .math tag
  | .drawing => b.reopenFormatting.openForeign .svg tag
  | .tablePart => b
  | .other => b.reopenFormatting.openTag tag

def closeForm (b : Builder) : Builder :=
  if b.isIn "template" then
    if b.stack.nameInScope .block "form" then b.closeImplied.closeNamed "form" else b
  else match b.form with
    | none => b
    | some form =>
      let b := { b with form := none }
      if b.stack.inScope .block (·.id == form) then b.closeImplied.mapStack (·.without form) else b

/-- The end of an item, where the item is open. -/
def closeOpenItem (b : Builder) (name : String) : Builder :=
  let scope := if name = "li" then Scope.listItem else .block
  if b.stack.nameInScope scope name then (b.closeImpliedExcept name).closeNamed name else b

def endInBody (b : Builder) (name : String) : Outcome :=
  if name = "template" then .done b.closeTemplate
  else if name = "body" then
    .done (if b.stack.nameInScope .block "body" then b.withMode .afterBody else b)
  else if name = "html" then
    if b.stack.nameInScope .block "body" then .again (b.withMode .afterBody) else .done b
  else if blockEndNames.contains name then
    .done (if b.stack.nameInScope .block name then b.closeImplied.closeNamed name else b)
  else if name = "form" then .done b.closeForm
  else if name = "p" then
    .done (if b.stack.nameInScope .button "p" then b else b.openNamed "p").closeParagraph
  else if ["li", "dd", "dt"].contains name then .done (b.closeOpenItem name)
  else if headingNames.contains name then
    .done (if b.stack.inScope .block (·.element.isHeading) then
      b.closeImplied.mapStack (·.closeThrough Element.isHeading) else b)
  else if formattingNames.contains name then .done (b.closeFormatting name)
  else if ["applet", "marquee", "object"].contains name then
    .done (if b.stack.nameInScope .block name then
      (b.closeImplied.closeNamed name).clearToMarker else b)
  else if name = "br" then .done (b.openVoid { name })
  else .done (b.closeOther name)

/-- The end of the page in a template leaves the template. -/
def endInTemplate (b : Builder) : Outcome :=
  if b.isIn "template" then .again b.leaveTemplate else .done b

def inBody (b : Builder) (token : Token) : Outcome :=
  match token with
  | .characters .nul _ => .done b
  | .characters .space s => .done (b.reopenFormatting.addText s)
  | .characters .other s => .done (b.reopenFormatting.addText s).forbidFrameset
  | .comment _ => .done b.addComment
  | .startTag tag => .done (b.startInBody tag)
  | .endTag name => b.endInBody name
  | .eof => if b.templateModes.isEmpty then .done b else b.endInTemplate
  | .doctype _ => .done b

/-- Reads a token as in the body, and puts what does not belong into a table in front of it. -/
def fosterInBody (b : Builder) (token : Token) : Outcome :=
  match inBody { b with fosters := true } token with
  | .done b => .done { b with fosters := false }
  | .again b => .again { b with fosters := false }

end Builder
end SymbolDocs.Html
