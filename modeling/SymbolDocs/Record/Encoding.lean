import SymbolDocs.Json.Fields
import SymbolDocs.Record.Basic

namespace SymbolDocs

namespace Source

def toJson (s : Source) : Json := .string s.label

def ofLabel? (label : Text) : Option Source := all.find? (·.label == label)

/-- A source is named by its label, alone or as the one field of an object whose value is null. -/
def ofJson? : Json → Option Source
  | .string label => ofLabel? label
  | .object [(label, .null)] => ofLabel? label
  | _ => none

end Source

namespace Parameter

def toJson (p : Parameter) : Json :=
  .object <| Json.field "name" (.string p.name) ++ Json.field? "type" .string p.type ++
    Json.field? "description" .string p.description ++ Json.field? "default" .string p.default

def ofJson? (j : Json) : Option Parameter := do
  match ← j.slots? ["name", "type", "description", "default"] with
  | [name, type, description, default] =>
    return {
      name := ← Json.required? Json.text? name
      type := ← Json.optional? Json.text? type
      description := ← Json.optional? Json.text? description
      default := ← Json.optional? Json.text? default }
  | _ => none

end Parameter

namespace Returns

def toJson (r : Returns) : Json :=
  .object <| Json.field? "type" .string r.type ++ Json.field? "description" .string r.description

def ofJson? (j : Json) : Option Returns := do
  match ← j.slots? ["type", "description"] with
  | [type, description] =>
    return {
      type := ← Json.optional? Json.text? type
      description := ← Json.optional? Json.text? description }
  | _ => none

end Returns

namespace Raise

def toJson (r : Raise) : Json :=
  .object <| Json.field "type" (.string r.type) ++
    Json.field? "description" .string r.description

def ofJson? (j : Json) : Option Raise := do
  match ← j.slots? ["type", "description"] with
  | [type, description] =>
    return {
      type := ← Json.required? Json.text? type
      description := ← Json.optional? Json.text? description }
  | _ => none

end Raise

namespace Badge

def toJson (b : Badge) : Json :=
  .object <| Json.field "label" (.string b.label) ++ Json.field? "tooltip" .string b.tooltip

def ofJson? (j : Json) : Option Badge := do
  match ← j.slots? ["label", "tooltip"] with
  | [label, tooltip] =>
    return {
      label := ← Json.required? Json.text? label
      tooltip := ← Json.optional? Json.text? tooltip }
  | _ => none

end Badge

namespace Links

def toJson (links : Links) : Json := .object (links.map fun (label, url) => (label, .string url))

def ofJson? (j : Json) : Option Links := do
  return (← j.map? Json.text?).foldl (fun links (label, url) => links.set label url) []

end Links

namespace Record

/-- Fields without a value are left out. -/
def toJson (r : Record) : Json :=
  .object <|
    Json.field "title" (.string r.title) ++
    Json.field? "kind" .string r.kind ++
    Json.field? "signature" .string r.signature ++
    Json.field? "summary" .string r.summary ++
    Json.items? "parameters" Parameter.toJson r.parameters ++
    Json.field? "returns" Returns.toJson r.returns ++
    Json.items? "raises" Raise.toJson r.raises ++
    Json.items? "examples" .string r.examples ++
    Json.field? "url" .string r.url ++
    (if r.links.isEmpty then [] else Json.field "links" (Links.toJson r.links)) ++
    Json.items? "badges" Badge.toJson r.badges ++
    Json.items? "related" .string r.related ++
    Json.field "source" r.source.toJson ++ Json.field "confidence" (.real r.confidence)

def fieldNames : List Text :=
  ["title", "kind", "signature", "summary", "parameters", "returns", "raises", "examples", "url",
    "links", "badges", "related", "source", "confidence"]

/-- The confidence is kept as it is written. -/
def ofJson? (j : Json) : Option Record := do
  match ← j.slots? fieldNames with
  | [title, kind, signature, summary, parameters, returns, raises, examples, url, links, badges,
      related, source, confidence] =>
    return {
      title := ← Json.required? Json.text? title
      kind := ← Json.optional? Json.text? kind
      signature := ← Json.optional? Json.text? signature
      summary := ← Json.optional? Json.text? summary
      parameters := ← Json.orElse? [] (Json.list? Parameter.ofJson?) parameters
      returns := ← Json.optional? Returns.ofJson? returns
      raises := ← Json.orElse? [] (Json.list? Raise.ofJson?) raises
      examples := ← Json.orElse? [] (Json.list? Json.text?) examples
      url := ← Json.optional? Json.text? url
      links := ← Json.orElse? [] Links.ofJson? links
      badges := ← Json.orElse? [] (Json.list? Badge.ofJson?) badges
      related := ← Json.orElse? [] (Json.list? Json.text?) related
      source := ← Json.required? Source.ofJson? source
      confidence := ← Json.required? Json.real? confidence }
  | _ => none

end Record
end SymbolDocs
