import SymbolDocs.Text.Basic

namespace SymbolDocs

/-- A symbol as far as an editor or a running interpreter knows it. -/
structure RawSymbol where
  name : Text
  module : Option Text := none
  qualifiedName : Option Text := none
  isStdlib : Bool := false
  version : Option Text := none
  deriving DecidableEq, Repr, Inhabited

/-- What documentation is looked up by. -/
structure SymbolKey where
  package : Text
  module : Text
  name : Text
  qualifiedName : Text
  isStdlib : Bool
  version : Option Text
  deriving DecidableEq, Repr, Inhabited

/-- The module, and package, of the built-in namespace. -/
def builtinsModule : Text := "builtins"

/-- Two underscores on either side of something. -/
def isDunder (name : Text) : Bool :=
  4 < name.byteLength && name.startsWith "__" && name.endsWith "__"

/-- The names under which the built-in namespace is reported. -/
def namesBuiltins (module : Text) : Bool :=
  [builtinsModule, ("__builtin__" : Text), "__builtins__"].contains module

namespace SymbolKey

def isBuiltins (key : SymbolKey) : Bool := key.module == builtinsModule

/-- The qualified name below its module, unless it carries the module already. -/
def fullName (key : SymbolKey) : Text :=
  if key.module.isEmpty || key.qualifiedName == key.module ||
      key.qualifiedName.startsWith (key.module ++ ['.']) then
    key.qualifiedName
  else key.module ++ '.' :: key.qualifiedName

def leafName (key : SymbolKey) : Text := Text.lastPart '.' key.qualifiedName

def versionLabel (key : SymbolKey) : Text := key.version.getD "latest"

/-- What a search for the symbol is for. -/
def searchTerm (key : SymbolKey) : Text :=
  let name := Text.trim key.name
  if name.isEmpty then Text.trim key.leafName else name

/-- Names a key goes by in an inventory, in the order they are tried; the built-in namespace is
also left off. -/
def candidates (key : SymbolKey) : List Text :=
  let names := [key.qualifiedName, key.module ++ '.' :: key.qualifiedName, key.name]
  let bare :=
    if key.isBuiltins || key.package == builtinsModule then
      names.map fun n => (Text.after? (builtinsModule ++ ['.']) n).getD n
    else []
  ((names ++ bare).filter (!·.isEmpty)).eraseDups

end SymbolKey

/-- The class whose page lists the special methods. -/
def methodsOwner : Text := "object"

/-- An owner that some hosts make up for special methods. -/
def syntheticOwner : Text := "module"

/-- A special method without an owner, or with a made-up one, is documented on `object`. -/
def documentedName (qualified : Text) : Text :=
  let (owner, leaf) := match Text.cutLast? '.' qualified with
    | some (owner, leaf) => (some owner, leaf)
    | none => (none, qualified)
  if (owner == none || owner == some syntheticOwner) && isDunder leaf then
    methodsOwner ++ '.' :: leaf
  else qualified

namespace RawSymbol

/-- The key of a symbol. Without a module a dotted name is split at its last dot, a special method
belongs to the built-in namespace, and any other word is taken for a package. -/
def toKey (raw : RawSymbol) : SymbolKey :=
  let name := Text.trim raw.name
  let qualified := (raw.qualifiedName.bind Text.nonBlank?).getD name
  let key : SymbolKey :=
    match raw.module.bind Text.nonBlank? with
    | some module =>
      if namesBuiltins module then
        ⟨builtinsModule, builtinsModule, name, documentedName qualified, raw.isStdlib, none⟩
      else ⟨Text.firstPart '.' module, module, name, qualified, raw.isStdlib, none⟩
    | none =>
      match Text.cutLast? '.' name with
      | some (c :: path, d :: leaf) =>
        ⟨Text.firstPart '.' (c :: path), c :: path, d :: leaf,
          if qualified == name then d :: leaf else qualified, raw.isStdlib, none⟩
      | _ =>
        if isDunder name then
          ⟨builtinsModule, builtinsModule, name, methodsOwner ++ '.' :: name, raw.isStdlib, none⟩
        else ⟨name, name, name, qualified, raw.isStdlib, none⟩
  { key with
    isStdlib := raw.isStdlib || key.package == builtinsModule
    version := raw.version.bind Text.nonBlank? }

end RawSymbol
end SymbolDocs
