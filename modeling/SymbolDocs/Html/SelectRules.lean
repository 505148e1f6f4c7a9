import SymbolDocs.Html.BodyRules

namespace SymbolDocs.Html.Builder

def closeSelect (b : Builder) : Builder := (b.closeNamed "select").resetMode

def popNamed (b : Builder) (name : String) : Builder := if b.currentIsHtml name then b.pop else b

/-- The end of a group ends the option that stands in it. -/
def closeGroup (b : Builder) : Builder :=
  let b := match b.stack with
    | o :: group :: _ =>
      if o.element.isHtml "option" && group.element.isHtml "optgroup" then b.pop else b
    | _ => b
  b.popNamed "optgroup"

def inSelect (b : Builder) (token : Token) : Outcome :=
  let isOpen := b.stack.nameInScope .select "select"
  match token with
  | .characters .nul _ => .done b
  | .characters _ s => .done (b.addText s)
  | .comment _ => .done b.addComment
  | .startTag tag =>
    match tag.name with
    | "html" => .done (b.mergeRoot tag)
    | "option" => .done ((b.popNamed "option").openTag tag)
    | "optgroup" => .done (((b.popNamed "option").popNamed "optgroup").openTag tag)
    | "select" => .done (if isOpen then b.closeSelect else b)
    | "input" | "keygen" | "textarea" => if isOpen then .again b.closeSelect else .done b
    | "script" | "template" => .done (b.openMeta tag)
    | _ => .done b
  | .endTag name =>
    match name with
    | "optgroup" => .done b.closeGroup
    | "option" => .done (b.popNamed "option")
    | "select" => .done (if isOpen then b.closeSelect else b)
    | "template" => .done b.closeTemplate
    | _ => .done b
  | .eof => b.inBody token
  | .doctype _ => .done b

/-- A part of the table around it ends a selection. -/
def inSelectInTable (b : Builder) (token : Token) : Outcome :=
  let parts := ["caption", "table", "tbody", "tfoot", "thead", "tr", "td", "th"]
  match token with
  | .startTag tag => if parts.contains tag.name then .again b.closeSelect else b.inSelect token
  | .endTag name =>
    if parts.contains name then
      if b.stack.nameInScope .table name then .again b.closeSelect else .done b
    else b.inSelect token
  | _ => b.inSelect token

end SymbolDocs.Html.Builder
