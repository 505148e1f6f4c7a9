import SymbolDocs.Html.BodyRules

namespace SymbolDocs.Html.Builder

def closeToTable (b : Builder) : Builder := b.mapStack (·.closeTo (Scope.isEnd .table))

def closeToBody (b : Builder) : Builder :=
  b.mapStack (·.closeTo (·.isHtmlIn ["tbody", "tfoot", "thead", "template", "html"]))

def closeToRow (b : Builder) : Builder :=
  b.mapStack (·.closeTo (·.isHtmlIn ["tr", "template", "html"]))

def inTableScope (b : Builder) (name : String) : Bool := b.stack.nameInScope .table name

def textInTable (b : Builder) (token : Token) : Outcome :=
  if b.currentIs (·.isHtmlIn ["table", "tbody", "tfoot", "thead", "tr"]) then
    .again { b with returnMode := b.mode, mode := .inTableText }
  else b.fosterInBody token

def closeTable (b : Builder) : Builder := (b.closeNamed "table").resetMode

def startInTable (b : Builder) (tag : Tag) : Outcome :=
  match tag.name with
  | "caption" => .done ((b.closeToTable.pushMarker.openTag tag).withMode .inCaption)
  | "colgroup" => .done ((b.closeToTable.openTag tag).withMode .inColumnGroup)
  | "col" => .again ((b.closeToTable.openNamed "colgroup").withMode .inColumnGroup)
  | "tbody" | "tfoot" | "thead" => .done ((b.closeToTable.openTag tag).withMode .inTableBody)
  | "td" | "th" | "tr" => .again ((b.closeToTable.openNamed "tbody").withMode .inTableBody)
  | "table" => if b.inTableScope "table" then .again b.closeTable else .done b
  | "style" | "script" | "template" => .done (b.openMeta tag)
  | "input" =>
    if tag.isHidden then .done (b.addVoid tag) else b.fosterInBody (.startTag tag)
  | "form" =>
    if b.isIn "template" || b.form.isSome then .done b
    else
      let (b, o) := b.addElement (elementOf tag)
      .done { b with form := some o.id }
  | _ => b.fosterInBody (.startTag tag)

def inTable (b : Builder) (token : Token) : Outcome :=
  match token with
  | .characters .. => b.textInTable token
  | .comment _ => .done b.addComment
  | .startTag tag => b.startInTable tag
  | .endTag name =>
    match name with
    | "table" => .done (if b.inTableScope "table" then b.closeTable else b)
    | "template" => .done b.closeTemplate
    | "body" | "caption" | "col" | "colgroup" | "html" | "tbody" | "td" | "tfoot" | "th" | "thead"
    | "tr" => .done b
    | _ => b.fosterInBody token
  | .eof => b.inBody token
  | .doctype _ => .done b

/-- Text in a table goes in front of the table, unless it is blank. -/
def releaseTableText (b : Builder) : Builder :=
  let text := b.tableText.reverse
  let b := { b with tableText := [] }
  if text.all (·.1 == .space) then text.foldl (fun b (_, s) => b.addText s) b
  else text.foldl (fun b (kind, s) =>
    match b.fosterInBody (.characters kind s) with
    | .done b => b
    | .again b => b) b

def inTableText (b : Builder) (token : Token) : Outcome :=
  match token with
  | .characters .nul _ => .done b
  | .characters kind s => .done { b with tableText := (kind, s) :: b.tableText }
  | _ => .again (b.releaseTableText.withMode b.returnMode)

def closeCaption (b : Builder) : Builder :=
  ((b.closeImplied.closeNamed "caption").clearToMarker).withMode .inTable

def inCaption (b : Builder) (token : Token) : Outcome :=
  match token with
  | .startTag tag =>
    if ["caption", "col", "colgroup", "tbody", "td", "tfoot", "th", "thead", "tr"].contains
        tag.name then
      if b.inTableScope "caption" then .again b.closeCaption else .done b
    else b.inBody token
  | .endTag name =>
    match name with
    | "caption" => .done (if b.inTableScope "caption" then b.closeCaption else b)
    | "table" => if b.inTableScope "caption" then .again b.closeCaption else .done b
    | "body" | "col" | "colgroup" | "html" | "tbody" | "td" | "tfoot" | "th" | "thead" | "tr" =>
      .done b
    | _ => b.inBody token
  | _ => b.inBody token

def inColumnGroup (b : Builder) (token : Token) : Outcome :=
  let leave :=
    if b.currentIsHtml "colgroup" then Outcome.again (b.pop.withMode .inTable) else .done b
  match token with
  | .characters .space s => .done (b.addText s)
  | .comment _ => .done b.addComment
  | .startTag tag =>
    match tag.name with
    | "html" => .done (b.mergeRoot tag)
    | "col" => .done (b.addVoid tag)
    | "template" => .done (b.openMeta tag)
    | _ => leave
  | .endTag name =>
    match name with
    | "colgroup" =>
      .done (if b.currentIsHtml "colgroup" then b.pop.withMode .inTable else b)
    | "col" => .done b
    | "template" => .done b.closeTemplate
    | _ => leave
  | .eof => b.inBody token
  | _ => leave

def inTableBody (b : Builder) (token : Token) : Outcome :=
  let leave := fun _ : Unit =>
    if b.stack.inScope .table (·.element.isHtmlIn ["table", "tbody", "tfoot"]) then
      Outcome.again (b.closeToBody.pop.withMode .inTable)
    else .done b
  match token with
  | .startTag tag =>
    match tag.name with
    | "tr" => .done ((b.closeToBody.openTag tag).withMode .inRow)
    | "th" | "td" => .again ((b.closeToBody.openNamed "tr").withMode .inRow)
    | "caption" | "col" | "colgroup" | "tbody" | "tfoot" | "thead" => leave ()
    | _ => b.inTable token
  | .endTag name =>
    match name with
    | "tbody" | "tfoot" | "thead" =>
      .done (if b.inTableScope name then b.closeToBody.pop.withMode .inTable else b)
    | "table" => leave ()
    | "body" | "caption" | "col" | "colgroup" | "html" | "td" | "th" | "tr" => .done b
    | _ => b.inTable token
  | _ => b.inTable token

def inRow (b : Builder) (token : Token) : Outcome :=
  let leave := fun _ : Unit =>
    if b.inTableScope "tr" then Outcome.again (b.closeToRow.pop.withMode .inTableBody) else .done b
  match token with
  | .startTag tag =>
    match tag.name with
    | "th" | "td" => .done (((b.closeToRow.openTag tag).withMode .inCell).pushMarker)
    | "caption" | "col" | "colgroup" | "tbody" | "tfoot" | "thead" | "tr" => leave ()
    | _ => b.inTable token
  | .endTag name =>
    match name with
    | "tr" =>
      .done (if b.inTableScope "tr" then b.closeToRow.pop.withMode .inTableBody else b)
    | "table" => leave ()
    | "tbody" | "tfoot" | "thead" => if b.inTableScope name then leave () else .done b
    | "body" | "caption" | "col" | "colgroup" | "html" | "td" | "th" => .done b
    | _ => b.inTable token
  | _ => b.inTable token

def inCell (b : Builder) (token : Token) : Outcome :=
  match token with
  | .startTag tag =>
    if ["caption", "col", "colgroup", "tbody", "td", "tfoot", "th", "thead", "tr"].contains
        tag.name then
      if b.stack.inScope .table (·.element.isHtmlIn ["td", "th"]) then
        .again (b.closeCell.withMode .inRow)
      else .done b
    else b.inBody token
  | .endTag name =>
    match name with
    | "td" | "th" =>
      .done (if b.inTableScope name then
        ((b.closeImplied.closeNamed name).clearToMarker).withMode .inRow else b)
    | "table" | "tbody" | "tfoot" | "thead" | "tr" =>
      if b.inTableScope name then .again (b.closeCell.withMode .inRow) else .done b
    | "body" | "caption" | "col" | "colgroup" | "html" => .done b
    | _ => b.inBody token
  | _ => b.inBody token

end SymbolDocs.Html.Builder
