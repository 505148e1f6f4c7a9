import SymbolDocs.Html.Formatting

namespace SymbolDocs.Html.Builder

/-- Elements that describe the page, and may also stand elsewhere. -/
def metaNames : List String :=
  ["base", "basefont", "bgsound", "link", "meta", "noframes", "script", "style", "template",
   "title"]

/-- The start of an element that describes the page, or of one for readers without scripts. -/
def openMeta (b : Builder) (tag : Tag) : Builder :=
  match tag.name with
  | "title" => b.openText tag .rcdata
  | "noframes" | "style" | "noscript" => b.openText tag .rawtext
  | "script" => b.openText tag .script
  | "template" =>
    let b := ((b.openTag tag).pushMarker).forbidFrameset
    { b with mode := .inTemplate, templateModes := .inTemplate :: b.templateModes }
  | _ => b.addVoid tag

/-- Leaves the innermost template. -/
def leaveTemplate (b : Builder) : Builder :=
  let b := (b.closeNamed "template").clearToMarker
  resetMode { b with templateModes := b.templateModes.drop 1 }

def closeTemplate (b : Builder) : Builder :=
  if b.isIn "template" then
    (b.mapStack (·.closeImplied allImpliedEndNames none)).leaveTemplate
  else b

def beforeHtml (b : Builder) (token : Token) : Outcome :=
  match token with
  | .characters .space _ => .done b
  | .comment _ => .done (b.addCommentTo Arena.document)
  | .startTag { name := "html", attributes, .. } =>
    .done ((b.openRoot attributes).withMode .beforeHead)
  | .endTag name =>
    if ["head", "body", "html", "br"].contains name then
      .again ((b.openRoot []).withMode .beforeHead)
    else .done b
  | _ => .again ((b.openRoot []).withMode .beforeHead)

def openHead (b : Builder) (attributes : Attributes) : Builder :=
  let b := b.openElement { name := "head", attributes }
  { b with head := b.stack.head?, mode := .inHead }

def beforeHead (b : Builder) (token : Token) : Outcome :=
  match token with
  | .characters .space _ => .done b
  | .comment _ => .done b.addComment
  | .startTag tag =>
    match tag.name with
    | "html" => .done (b.mergeRoot tag)
    | "head" => .done (b.openHead tag.attributes)
    | _ => .again (b.openHead [])
  | .endTag name =>
    if ["head", "body", "html", "br"].contains name then .again (b.openHead []) else .done b
  | _ => .again (b.openHead [])

def inHead (b : Builder) (token : Token) : Outcome :=
  let leave := Outcome.again (b.pop.withMode .afterHead)
  match token with
  | .characters .space s => .done (b.addText s)
  | .comment _ => .done b.addComment
  | .startTag tag =>
    if tag.name = "html" then .done (b.mergeRoot tag)
    else if tag.name = "head" then .done b
    else if metaNames.contains tag.name || tag.name = "noscript" then .done (b.openMeta tag)
    else leave
  | .endTag name =>
    match name with
    | "head" => .done (b.pop.withMode .afterHead)
    | "template" => .done b.closeTemplate
    | "body" | "html" | "br" => leave
    | _ => .done b
  | _ => leave

def openBody (b : Builder) : Builder := (b.openNamed "body").withMode .inBody

/-- What belongs into the head and comes behind it is put into it all the same. -/
def openMetaInHead (b : Builder) (tag : Tag) : Builder :=
  match b.head with
  | some head => ((b.mapStack (head :: ·)).openMeta tag).mapStack (·.without head.id)
  | none => b

def afterHead (b : Builder) (token : Token) : Outcome :=
  match token with
  | .characters .space s => .done (b.addText s)
  | .comment _ => .done b.addComment
  | .startTag tag =>
    match tag.name with
    | "html" => .done (b.mergeRoot tag)
    | "body" => .done (((b.openTag tag).withMode .inBody).forbidFrameset)
    | "frameset" => .done ((b.openTag tag).withMode .inFrameset)
    | "head" => .done b
    | name => if metaNames.contains name then .done (b.openMetaInHead tag) else .again b.openBody
  | .endTag name =>
    match name with
    | "template" => .done b.closeTemplate
    | "body" | "html" | "br" => .again b.openBody
    | _ => .done b
  | _ => .again b.openBody

end SymbolDocs.Html.Builder
