import SymbolDocs.Fault
import SymbolDocs.Json.Fields
import SymbolDocs.Record.Basic

namespace SymbolDocs

/-- What the package registry says about a package. -/
structure RegistryInfo where
  name : Option Text := none
  summary : Option Text := none
  version : Option Text := none
  homePage : Option Text := none
  docsUrl : Option Text := none
  packageUrl : Option Text := none
  /-- Addresses by label, in the order of the registry. -/
  projectUrls : Option (List (Text × Text)) := none
  deriving DecidableEq, Repr, Inhabited

namespace RegistryInfo

def projects (info : RegistryInfo) : List (Text × Text) := info.projectUrls.getD []

/-- The address labelled as documentation. -/
def labelledDocs? (info : RegistryInfo) : Option Text :=
  (info.projects.find? fun (label, url) =>
    Text.eqIgnoreCase (Text.trim label) "documentation" && !Text.isBlank url).map fun (_, url) =>
      Text.trim url

/-- Where the documentation most likely is: the address labelled so, the hosted documentation, the
home page, or else the first address there is. -/
def bestUrl? (info : RegistryInfo) : Option Text :=
  info.labelledDocs?.or <| (info.docsUrl.bind Text.nonBlank?).or <|
    (info.homePage.bind Text.nonBlank?).or <|
      info.projects.findSome? fun (_, url) => Text.nonBlank? url

def shownSummary? (info : RegistryInfo) : Option Text := info.summary.bind Text.nonBlank?

/-- Links worth showing: the page in the registry, the home page, and the addresses of the
project. -/
def links (info : RegistryInfo) : List (Text × Text) :=
  ((info.packageUrl.bind Text.nonBlank?).map (("PyPI" : Text), ·)).toList ++
  ((info.homePage.bind Text.nonBlank?).map (("Homepage" : Text), ·)).toList ++
  info.projects.filterMap fun (label, url) =>
    (Text.nonBlank? url).map fun url => (Text.trim label, url)

def releaseBadge? (info : RegistryInfo) : Option Badge :=
  (info.version.bind Text.nonBlank?).map fun version =>
    ⟨'v' :: version, some "Latest release on PyPI"⟩

def toJson (info : RegistryInfo) : Json :=
  .object [("name", Json.stringOrNull info.name), ("summary", Json.stringOrNull info.summary),
    ("version", Json.stringOrNull info.version), ("home_page", Json.stringOrNull info.homePage),
    ("docs_url", Json.stringOrNull info.docsUrl),
    ("package_url", Json.stringOrNull info.packageUrl),
    ("project_urls", Json.optional
      (fun urls => .object (urls.map fun (label, url) => (label, .string url)))
      info.projectUrls)]

def fieldNames : List Text :=
  ["name", "summary", "version", "home_page", "docs_url", "package_url", "project_urls"]

def ofJson? (j : Json) : Option RegistryInfo := do
  match ← j.slots? fieldNames with
  | [name, summary, version, homePage, docsUrl, packageUrl, projectUrls] =>
    return {
      name := ← Json.optional? Json.text? name
      summary := ← Json.optional? Json.text? summary
      version := ← Json.optional? Json.text? version
      homePage := ← Json.optional? Json.text? homePage
      docsUrl := ← Json.optional? Json.text? docsUrl
      packageUrl := ← Json.optional? Json.text? packageUrl
      projectUrls := ← Json.optional? (Json.map? Json.text?) projectUrls }
  | _ => none

/-- The information in a document of the registry. -/
def ofDocument? (j : Json) : Option RegistryInfo := do
  match ← j.slots? ["info"] with
  | [info] => Json.required? ofJson? info
  | _ => none

def ofBytes (bytes : Bytes) : Except Fault RegistryInfo :=
  match (Json.readBytes bytes).bind ofDocument? with
  | some info => .ok info
  | none => .error .registryDocument

end RegistryInfo
end SymbolDocs
