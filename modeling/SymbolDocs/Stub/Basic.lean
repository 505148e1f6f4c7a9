import SymbolDocs.Json.Fields
import SymbolDocs.Text.CharClass

namespace SymbolDocs

/-- What a stub file says about a symbol. -/
structure StubInfo where
  signature : Option Text := none
  overloads : List Text := []
  protocolHints : List Text := []
  deriving DecidableEq, Repr, Inhabited

namespace StubInfo

def toJson (info : StubInfo) : Json :=
  .object <| Json.field? "signature" .string info.signature ++
    Json.items? "overloads" .string info.overloads ++
    Json.items? "protocol_hints" .string info.protocolHints

def ofJson? (j : Json) : Option StubInfo := do
  match ← j.slots? ["signature", "overloads", "protocol_hints"] with
  | [signature, overloads, protocolHints] =>
    return {
      signature := ← Json.optional? Json.text? signature
      overloads := ← Json.orElse? [] (Json.list? Json.text?) overloads
      protocolHints := ← Json.orElse? [] (Json.list? Json.text?) protocolHints }
  | _ => none

end StubInfo

/-- What is looked for in a stub file: a name, perhaps inside a class. -/
structure StubQuery where
  owner : Option Text
  name : Text
  deriving DecidableEq, Repr, Inhabited

/-- Built-in types, whose names are not capitalised. -/
def uncapitalisedTypes : List String :=
  ["object", "type", "str", "bytes", "bytearray", "memoryview", "int", "float", "complex", "bool",
   "list", "tuple", "dict", "set", "frozenset", "range", "slice", "property", "enumerate", "zip",
   "map", "filter", "reversed", "super"]

/-- Whether a part of a dotted name looks like a type. -/
def looksLikeType (segment : Text) : Bool :=
  segment.head?.any Text.isUppercase || uncapitalisedTypes.any fun t => (t : Text) == segment

/-- The last part of a dotted name, with the part before it if that looks like a type. -/
def StubQuery.ofQualified (qualified : Text) : StubQuery :=
  match ((Text.splitOn '.' qualified).filter (!·.isEmpty)).reverse with
  | [] => ⟨none, []⟩
  | [name] => ⟨none, name⟩
  | name :: owner :: _ => ⟨if looksLikeType owner then some owner else none, name⟩

end SymbolDocs
