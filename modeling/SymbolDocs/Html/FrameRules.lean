import SymbolDocs.Html.BodyRules

namespace SymbolDocs.Html.Builder

def inFrameset (b : Builder) (token : Token) : Outcome :=
  match token with
  | .characters .space s => .done (b.addText s)
  | .comment _ => .done b.addComment
  | .startTag tag =>
    match tag.name with
    | "html" => .done (b.mergeRoot tag)
    | "frameset" => .done (b.openTag tag)
    | "frame" => .done (b.addVoid tag)
    | "noframes" => .done (b.openMeta tag)
    | _ => .done b
  | .endTag "frameset" =>
    if b.stack.length = 1 then .done b
    else
      let b := b.pop
      .done (if b.isFragment || b.currentIsHtml "frameset" then b else b.withMode .afterFrameset)
  | _ => .done b

def afterFrameset (b : Builder) (token : Token) : Outcome :=
  match token with
  | .characters .space s => .done (b.addText s)
  | .comment _ => .done b.addComment
  | .startTag tag =>
    match tag.name with
    | "html" => .done (b.mergeRoot tag)
    | "noframes" => .done (b.openMeta tag)
    | _ => .done b
  | .endTag "html" => .done (b.withMode .afterAfterFrameset)
  | _ => .done b

def afterAfterFrameset (b : Builder) (token : Token) : Outcome :=
  match token with
  | .characters .space _ => b.inBody token
  | .comment _ => .done (b.addCommentTo Arena.document)
  | .startTag tag =>
    match tag.name with
    | "html" => .done (b.mergeRoot tag)
    | "noframes" => .done (b.openMeta tag)
    | _ => .done b
  | _ => .done b

/-- Content behind the body belongs into the body. -/
def afterBody (b : Builder) (token : Token) : Outcome :=
  match token with
  | .characters .space _ => b.inBody token
  | .comment _ =>
    .done (match b.stack.getLast? with
      | some root => b.addCommentTo root.id
      | none => b)
  | .startTag { name := "html", .. } => b.inBody token
  | .endTag "html" => .done (if b.isFragment then b else b.withMode .afterAfterBody)
  | .eof => .done b
  | _ => .again (b.withMode .inBody)

def afterAfterBody (b : Builder) (token : Token) : Outcome :=
  match token with
  | .characters .space _ => b.inBody token
  | .comment _ => .done (b.addCommentTo Arena.document)
  | .startTag { name := "html", .. } => b.inBody token
  | .eof => .done b
  | _ => .again (b.withMode .inBody)

end SymbolDocs.Html.Builder
