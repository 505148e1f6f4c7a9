import SymbolDocs.Inventory.File
import SymbolDocs.Lookup.Registry

namespace SymbolDocs

def inventoryName : Text := "objects.inv"

/-- The name under which the inventory of the standard library is kept. -/
def stdlibPackage : Text := "python"

/-- Places below a home page where documentation is often found. -/
def usualPlaces : List Text :=
  ["", "docs/", "en/stable/", "en/latest/", "api/", "doc/stable/", "doc/", "stable/"]

/-- Where a package is documented if nothing else is known. -/
def conventionalUrl (package : Text) (version : Option Text) : Text :=
  let host := (Text.asciiLower package).map fun c => if c = '_' then '-' else c
  "https://" ++ host ++ ".readthedocs.io/en/" ++ version.getD "latest" ++ "/"

def inventoryKey (package version : Text) : Text := "inventory:" ++ package ++ ':' :: version

def asFolder (url : Text) : Text := if Text.endsWith url "/" then url else url ++ "/"

/-- What an inventory is asked for. -/
structure InventoryRequest where
  package : Text
  version : Option Text := none
  isStdlib : Bool := false
  deriving DecidableEq, Repr, Inhabited

namespace InventoryRequest

def ofKey (key : SymbolKey) : InventoryRequest := ⟨key.package, key.version, key.isStdlib⟩

/-- The key of the inventory in the store. -/
def storeKey (c : Config) (r : InventoryRequest) : Text :=
  if r.isStdlib then inventoryKey stdlibPackage c.pythonVersion
  else inventoryKey r.package (r.version.getD "latest")

end InventoryRequest

namespace Lookup

/-- The first of some places with an inventory. -/
def firstInventory (home : Text) : List Text → Web (Option Text)
  | [] => return none
  | place :: more => do
    let root := asFolder (urlBelow home place)
    match ← Web.head (urlBelow root inventoryName) with
    | .ok status => if meansPresent status then return some root else firstInventory home more
    | .error _ => firstInventory home more

/-- A place below the home page that the registry knows, or else the conventional one. -/
def discoverRoot (c : Config) (package : Text) (version : Option Text) : Lookup Text := do
  let found ← match (← registryInfo? c package).bind RegistryInfo.bestUrl? with
    | some url => do firstInventory (← Web.withHttps url) usualPlaces
    | none => pure none
  return found.getD (conventionalUrl package version)

/-- Where the documentation of a package has its root; it ends in a slash. -/
def docsRoot (c : Config) (r : InventoryRequest) : Lookup Text := do
  if r.isStdlib then return c.stdlibHome
  match c.libraryOf? r.package with
  | some lib => return asFolder (← Web.withHttps lib.docsUrl)
  | none =>
    remember (·.roots) (fun pair m => { m with roots := pair :: m.roots }) r.package
      (discoverRoot c r.package r.version)

/-- The address of an inventory that a user has given. -/
def givenInventoryUrl? (c : Config) (r : InventoryRequest) : Option Text :=
  if r.isStdlib then none else (c.libraryOf? r.package).bind (·.inventoryUrl)

/-- The inventory at an address. One that cannot be read is empty. -/
def fetchInventory (root url : Text) : Web SymbolMap := do
  match ← Web.fetch url with
  | .ok bytes =>
    match Inventory.symbolMap bytes root with
    | .ok map => return map
    | .error _ => return []
  | .error _ => return []

def downloadInventory (c : Config) (r : InventoryRequest) : Lookup SymbolMap := do
  let root ← docsRoot c r
  match givenInventoryUrl? c r with
  | some url => fetchInventory root (← Web.withHttps url)
  | none => fetchInventory root (urlBelow root inventoryName)

/-- The inventory in the store, or else the one on the web, which is stored. -/
def loadInventory (c : Config) (r : InventoryRequest) : Lookup SymbolMap := do
  let key := r.storeKey c
  match ← Web.stored? c.inventoryMaxAgeSecs (Json.required? SymbolMap.ofJson?) key with
  | some map => return map
  | none =>
    let map ← downloadInventory c r
    Web.keep key map.toJson
    return map

def inventory (c : Config) (r : InventoryRequest) : Lookup SymbolMap :=
  remember (·.inventories) (fun pair m => { m with inventories := pair :: m.inventories })
    (r.storeKey c) (loadInventory c r)

/-- The record of a key in the inventory of its package. -/
def find? (c : Config) (key : SymbolKey) : Lookup (Option Record) := do
  return (← inventory c (.ofKey key)).lookup? key

end Lookup
end SymbolDocs
