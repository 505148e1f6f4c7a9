import SymbolDocs.Config
import SymbolDocs.Inventory.SymbolMap
import SymbolDocs.Registry.Info
import SymbolDocs.Web.World

namespace SymbolDocs

/-- What has been looked up before. Failures are remembered too. -/
structure Memory where
  /-- Inventories by the keys they have in the store. -/
  inventories : List (Text × SymbolMap) := []
  /-- Roots of documentation by package. -/
  roots : List (Text × Text) := []
  /-- Answers of the registry by package in lower case. -/
  registry : List (Text × Option RegistryInfo) := []
  /-- Pages by address without fragment. -/
  pages : List (Text × Option Text) := []
  deriving Inhabited

/-- Work on the web by someone who remembers what has been found. -/
abbrev Lookup := StateT Memory Web

namespace Lookup

/-- The remembered value of a key, or else a new one, which is remembered from then on. -/
def remember (table : Memory → List (Text × α)) (extend : (Text × α) → Memory → Memory) (key : Text)
    (load : Lookup α) : Lookup α := do
  match (table (← get)).lookup key with
  | some value => return value
  | none =>
    let value ← load
    modify (extend (key, value))
    return value

end Lookup

/-- The address of the registry's document about a package. -/
def Config.registryDocumentUrl (c : Config) (package : Text) : Text :=
  withoutTrailingSlashes c.registryUrl ++ '/' :: package ++ "/json"

def registryKey (package : Text) : Text := "registry:" ++ package

namespace Lookup

def downloadRegistry (c : Config) (package : Text) : Web (Option RegistryInfo) := do
  match ← Web.fetch (c.registryDocumentUrl package) with
  | .ok bytes =>
    match RegistryInfo.ofBytes bytes with
    | .ok info => return some info
    | .error _ => return none
  | .error _ => return none

/-- What the store holds about a package, or else what the registry answers, which is stored. -/
def loadRegistry (c : Config) (package : Text) : Web (Option RegistryInfo) := do
  let key := registryKey package
  match ← Web.stored? c.registryMaxAgeSecs (Json.optional? RegistryInfo.ofJson?) key with
  | some info => return info
  | none =>
    let info ← downloadRegistry c package
    Web.keep key (Json.optional RegistryInfo.toJson info)
    return info

/-- What the registry says about a package. -/
def registryInfo? (c : Config) (package : Text) : Lookup (Option RegistryInfo) := do
  let package := Text.asciiLower (Text.trim package)
  if package.isEmpty then return none
  remember (·.registry) (fun pair m => { m with registry := pair :: m.registry }) package
    (loadRegistry c package)

end Lookup
end SymbolDocs
