import SymbolDocs.Docstring.HelpPage
import SymbolDocs.Docstring.Parse
import SymbolDocs.Symbol.Basic

namespace SymbolDocs

/-- What a running interpreter says about a symbol. -/
structure RuntimeInfo where
  docstring : Option Text := none
  signature : Option Text := none
  module : Option Text := none
  qualname : Option Text := none
  kind : Option Text := none
  isStdlib : Bool := false
  url : Option Text := none
  deriving DecidableEq, Repr, Inhabited

namespace RuntimeInfo

def toJson (info : RuntimeInfo) : Json :=
  .object [("docstring", Json.stringOrNull info.docstring),
    ("signature", Json.stringOrNull info.signature), ("module", Json.stringOrNull info.module),
    ("qualname", Json.stringOrNull info.qualname), ("kind", Json.stringOrNull info.kind),
    ("is_stdlib", .bool info.isStdlib), ("url", Json.stringOrNull info.url)]

def fieldNames : List Text :=
  ["docstring", "signature", "module", "qualname", "kind", "is_stdlib", "url"]

def ofJson? (j : Json) : Option RuntimeInfo := do
  match ← j.slots? fieldNames with
  | [docstring, signature, module, qualname, kind, isStdlib, url] =>
    return {
      docstring := ← Json.optional? Json.text? docstring
      signature := ← Json.optional? Json.text? signature
      module := ← Json.optional? Json.text? module
      qualname := ← Json.optional? Json.text? qualname
      kind := ← Json.optional? Json.text? kind
      isStdlib := ← Json.orElse? false Json.bool? isStdlib
      url := ← Json.optional? Json.text? url }
  | _ => none

/-- The report of a failure, which a reply makes in a field of its own. -/
def report? (j : Json) : Option Text :=
  match j with
  | .object fs =>
    match fs.filter fun (name, _) => name == ("error" : Text) with
    | [(_, .string report)] => some report
    | _ => none
  | _ => none

/-- The deepest nesting that a reply may have. -/
def deepest : Nat := 127

/-- Reads the reply of the helper that asks the interpreter. -/
def ofReply (raw : Text) : Except Fault RuntimeInfo :=
  match (Json.read raw).filter fun j => j.isSound && j.depth ≤ deepest with
  | none => .error .json
  | some j =>
    match report? j, ofJson? j with
    | some report, _ => .error (.helper report)
    | none, some info => .ok info
    | none, none => .error .json

def isKeyword (info : RuntimeInfo) : Bool := info.kind == some "keyword"

def toRaw (info : RuntimeInfo) (name : Text) : RawSymbol :=
  { name, module := info.module, qualifiedName := info.qualname, isStdlib := info.isStdlib }

/-- What the docstring says; keywords have pages of the help system instead. -/
def docs? (info : RuntimeInfo) : Option Docstring :=
  let text := info.docstring.filter (!Text.isBlank ·)
  (text.map (if info.isKeyword then HelpPage.parse else Docstring.parse)).filter (!·.isEmpty)

end RuntimeInfo
end SymbolDocs
