import SymbolDocs.Json.Fields
import SymbolDocs.Symbol.Basic

namespace SymbolDocs

namespace RawSymbol

def toJson (s : RawSymbol) : Json :=
  .object [("name", .string s.name), ("module", Json.stringOrNull s.module),
    ("qualified_name", Json.stringOrNull s.qualifiedName), ("is_stdlib", .bool s.isStdlib),
    ("version", Json.stringOrNull s.version)]

def ofJson? (j : Json) : Option RawSymbol := do
  match ← j.slots? ["name", "module", "qualified_name", "is_stdlib", "version"] with
  | [name, module, qualifiedName, isStdlib, version] =>
    return {
      name := ← Json.required? Json.text? name
      module := ← Json.optional? Json.text? module
      qualifiedName := ← Json.optional? Json.text? qualifiedName
      isStdlib := ← Json.orElse? false Json.bool? isStdlib
      version := ← Json.optional? Json.text? version }
  | _ => none

end RawSymbol

namespace SymbolKey

def toJson (k : SymbolKey) : Json :=
  .object [("package", .string k.package), ("module", .string k.module), ("name", .string k.name),
    ("qualified_name", .string k.qualifiedName), ("is_stdlib", .bool k.isStdlib),
    ("version", Json.stringOrNull k.version)]

def ofJson? (j : Json) : Option SymbolKey := do
  match ← j.slots? ["package", "module", "name", "qualified_name", "is_stdlib", "version"] with
  | [package, module, name, qualifiedName, isStdlib, version] =>
    return {
      package := ← Json.required? Json.text? package
      module := ← Json.required? Json.text? module
      name := ← Json.required? Json.text? name
      qualifiedName := ← Json.required? Json.text? qualifiedName
      isStdlib := ← Json.required? Json.bool? isStdlib
      version := ← Json.optional? Json.text? version }
  | _ => none

end SymbolKey
end SymbolDocs
