import SymbolDocs.Json.Fields
import SymbolDocs.Fault

namespace SymbolDocs

/-- Where a user says that a package is documented. -/
structure CustomLibrary where
  package : Text
  docsUrl : Text
  inventoryUrl : Option Text := none
  deriving DecidableEq, Repr, Inhabited

structure Config where
  pythonVersion : Text := "3.12"
  timeoutMs : Nat := Limits.timeoutMs
  inventoryMaxAgeSecs : Nat := Limits.inventoryAgeSecs
  pageMaxAgeSecs : Nat := Limits.pageAgeSecs
  registryMaxAgeSecs : Nat := Limits.registryAgeSecs
  registryUrl : Text := "https://pypi.org/pypi"
  aggregatorUrl : Text := "https://devdocs.io"
  stdlibDocsUrl : Text := "https://docs.python.org"
  customLibraries : List CustomLibrary := []
  deriving DecidableEq, Repr, Inhabited

/-- A web address: one of the two schemes in any case, and long enough to name a host behind the
longer one. -/
def isWebUrl (url : Text) : Bool :=
  let lower := Text.asciiLower (Text.trim url)
  (lower.startsWith "http://" || lower.startsWith "https://") && 8 < lower.byteLength

/-- Runs of digits between dots. -/
def isVersionNumber (label : Text) : Bool :=
  (Text.splitOn '.' label).all fun part => !part.isEmpty && part.all Char.isDigit

def withoutTrailingSlashes (url : Text) : Text := Text.dropEndWhile (· == '/') url

/-- One slash between the two parts, whatever slashes they end and start with. -/
def urlBelow (base path : Text) : Text :=
  withoutTrailingSlashes base ++ '/' :: path.dropWhile (· == '/')

namespace CustomLibrary

def check (lib : CustomLibrary) : Except ConfigFault Unit :=
  if Text.isBlank lib.package then .error .blankPackage
  else if !isWebUrl lib.docsUrl then .error (.libraryDocs lib.package lib.docsUrl)
  else match lib.inventoryUrl with
    | some url => if isWebUrl url then .ok () else .error (.libraryInventory lib.package url)
    | none => .ok ()

def toJson (lib : CustomLibrary) : Json :=
  .object [("package", .string lib.package), ("docs_url", .string lib.docsUrl),
    ("inventory_url", Json.stringOrNull lib.inventoryUrl)]

def ofJson? (j : Json) : Option CustomLibrary := do
  match ← j.slots? ["package", "docs_url", "inventory_url"] with
  | [package, docsUrl, inventoryUrl] =>
    return {
      package := ← Json.required? Json.text? package
      docsUrl := ← Json.required? Json.text? docsUrl
      inventoryUrl := ← Json.optional? Json.text? inventoryUrl }
  | _ => none

end CustomLibrary

namespace Config

/-- The first fault of a configuration counts: the timeout, the version, the three addresses, then
the libraries in order. -/
def check (c : Config) : Except ConfigFault Unit := do
  if c.timeoutMs = 0 then throw .zeroTimeout
  if !isVersionNumber c.pythonVersion then throw (.versionLabel c.pythonVersion)
  match [c.registryUrl, c.aggregatorUrl, c.stdlibDocsUrl].find? (!isWebUrl ·) with
  | some url => throw (.notHttp url)
  | none => c.customLibraries.forM CustomLibrary.check

def fieldNames : List Text :=
  ["python_version", "timeout_ms", "inventory_max_age_secs", "page_max_age_secs",
    "registry_max_age_secs", "registry_url", "aggregator_url", "stdlib_docs_url",
    "custom_libraries"]

def toJson (c : Config) : Json :=
  .object [("python_version", .string c.pythonVersion), ("timeout_ms", .nat c.timeoutMs),
    ("inventory_max_age_secs", .nat c.inventoryMaxAgeSecs),
    ("page_max_age_secs", .nat c.pageMaxAgeSecs),
    ("registry_max_age_secs", .nat c.registryMaxAgeSecs), ("registry_url", .string c.registryUrl),
    ("aggregator_url", .string c.aggregatorUrl), ("stdlib_docs_url", .string c.stdlibDocsUrl),
    ("custom_libraries", .array (c.customLibraries.map CustomLibrary.toJson))]

def ofJson? (j : Json) : Option Config := do
  let d : Config := {}
  let number := Json.natUpTo? Limits.word
  match ← j.slots? fieldNames with
  | [version, timeout, inventoryAge, pageAge, registryAge, registry, aggregator, stdlib, libs] =>
    return {
      pythonVersion := ← Json.orElse? d.pythonVersion Json.text? version
      timeoutMs := ← Json.orElse? d.timeoutMs number timeout
      inventoryMaxAgeSecs := ← Json.orElse? d.inventoryMaxAgeSecs number inventoryAge
      pageMaxAgeSecs := ← Json.orElse? d.pageMaxAgeSecs number pageAge
      registryMaxAgeSecs := ← Json.orElse? d.registryMaxAgeSecs number registryAge
      registryUrl := ← Json.orElse? d.registryUrl Json.text? registry
      aggregatorUrl := ← Json.orElse? d.aggregatorUrl Json.text? aggregator
      stdlibDocsUrl := ← Json.orElse? d.stdlibDocsUrl Json.text? stdlib
      customLibraries := ← Json.orElse? [] (Json.list? CustomLibrary.ofJson?) libs }
  | _ => none

/-- Reads and validates a configuration document. -/
def parse (raw : Text) : Except ConfigFault Config :=
  match (Json.read raw).bind ofJson? with
  | none => .error .unreadable
  | some c => c.check.map fun () => c

/-- Root of the standard library's documentation for the configured version. -/
def stdlibHome (c : Config) : Text :=
  withoutTrailingSlashes c.stdlibDocsUrl ++ '/' :: c.pythonVersion ++ ['/']

def libraryOf? (c : Config) (package : Text) : Option CustomLibrary :=
  c.customLibraries.find? fun lib => Text.eqIgnoreCase lib.package package

/-- Deep link into the aggregator's search. -/
def aggregatorSearchUrl (c : Config) (name : Text) : Text :=
  withoutTrailingSlashes c.aggregatorUrl ++ ("/#q=" : Text) ++ name

end Config
end SymbolDocs
