import SymbolDocs.Enrichment
import SymbolDocs.KeyBadges
import SymbolDocs.LanguageReference
import SymbolDocs.Lookup.Inventory
import SymbolDocs.Lookup.Page
import SymbolDocs.Stub.Index
import SymbolDocs.Symbol.Basic

namespace SymbolDocs

def aggregatorLabel : Text := "DevDocs"

namespace Record

/-- The answer for a key without anything to search for. -/
def nothingFound (key : SymbolKey) : Record :=
  let lead : Text := "No documentation found"
  Record.titled
    (if key.qualifiedName.isEmpty then lead else lead ++ " for " ++ key.qualifiedName) .unknown

def failed (key : SymbolKey) (fault : Fault) : Record :=
  { Record.titled ("Documentation lookup failed for " ++ key.fullName) .unknown with
    summary := some fault.message }

/-- Adds the links of the registry, without changing those there are, and a badge for the
version. -/
def withRegistry (r : Record) (info : RegistryInfo) : Record :=
  let linked := { r with
    links := info.links.foldl (fun links (label, url) => links.setNew label url) r.links }
  match info.releaseBadge? with
  | some badge => linked.addBadge badge
  | none => linked

/-- The record of a symbol that only the registry knows the package of. -/
def ofRegistry (key : SymbolKey) (info : RegistryInfo) : Record :=
  { Record.titled key.fullName .pypi with
    kind := if key.qualifiedName = key.package then some "package" else none
    summary := info.shownSummary?
    url := info.bestUrl? }.withRegistry info

/-- The record of a symbol that can only be searched for. -/
def searchOnly (c : Config) (key : SymbolKey) : Record :=
  let name := key.searchTerm
  { Record.titled key.fullName .fallback with
    summary := some ("No indexed documentation found. Search for `" ++ name ++ "` instead.")
    url := some (c.aggregatorSearchUrl name) }

end Record

namespace SymbolKey

/-- The parts of a name hold neither white space nor control characters. -/
def isName (key : SymbolKey) : Bool :=
  let isBad := fun c => Text.isBlankChar c || Text.isControl c
  !(key.qualifiedName.any isBad || key.module.any isBad)

end SymbolKey

/-- Where documentation is looked up: a configuration and perhaps stub files. -/
structure Resolver where
  config : Config := {}
  stubs : Option StubIndex := none
  deriving Inhabited

namespace Lookup

/-- Text of the page in the place of what stands in for a summary. -/
def withPage (c : Config) (r : Record) : Lookup Record := do
  match r.url with
  | none => return r
  | some url =>
    if r.summary.all isStandInSummary then
      return { r with summary := (← content? c url).or r.summary }
    else return r

/-- The registry lists neither the standard library nor the built-in namespace. -/
def registryFor? (c : Config) (key : SymbolKey) : Lookup (Option RegistryInfo) :=
  if key.isStdlib || key.package == builtinsModule then return none
  else registryInfo? c key.package

/-- The inventory of the package first, then the registry, and a search at last. -/
def searchIndexes (c : Config) (key : SymbolKey) : Lookup Record := do
  let hit ← find? c key
  let info ← registryFor? c key
  match hit, info with
  | some record, some info => return (← withPage c record).withRegistry info
  | some record, none => withPage c record
  | none, some info => return Record.ofRegistry key info
  | none, none => return Record.searchOnly c key

end Lookup

namespace Resolver

/-- Adds the signature in the stub of the module, unless there is one. -/
def signedFromStubs (resolver : Resolver) (key : SymbolKey) (r : Record) : Record :=
  if r.signature.isSome || key.module.isEmpty then r
  else match resolver.stubs.bind (·.symbol? key.module key.fullName) with
    | some stub => r.withStub stub
    | none => r

/-- Badges, the link to a search, and the signature. -/
def finish (resolver : Resolver) (key : SymbolKey) (r : Record) : Record :=
  let search := resolver.config.aggregatorSearchUrl key.searchTerm
  resolver.signedFromStubs key ((withKeyBadges key r).addLink aggregatorLabel search)

/-- The documentation of a key. Names of the language itself need no lookup. -/
def resolve (resolver : Resolver) (key : SymbolKey) : Lookup Record := do
  if key.searchTerm.isEmpty then return Record.nothingFound key
  if !key.isName then return Record.failed key (.notASymbol key.qualifiedName key.module)
  let record ← match referenceRecord? resolver.config key with
    | some record => pure record
    | none => Lookup.searchIndexes resolver.config key
  return resolver.finish key record

def resolveSymbol (resolver : Resolver) (raw : RawSymbol) : Lookup Record :=
  resolver.resolve raw.toKey

end Resolver
end SymbolDocs
