import SymbolDocs.Inventory.Item
import SymbolDocs.Record.Encoding
import SymbolDocs.Symbol.Basic

namespace SymbolDocs

/-- The records of an inventory by name. -/
abbrev SymbolMap := List (Text × Record)

namespace SymbolMap

def get? (map : SymbolMap) (name : Text) : Option Record :=
  (map.find? (·.1 == name)).map (·.2)

/-- Of two items of one name the first is kept, unless only the other is of the Python domain. -/
def prefersNew (existing candidate : InventoryItem) : Bool :=
  candidate.isPython && !existing.isPython

/-- Adds an item to the items chosen so far, at most one of each name. -/
def choose (item : InventoryItem) : List InventoryItem → List InventoryItem
  | [] => [item]
  | i :: rest =>
    if i.name = item.name then (if prefersNew i item then item else i) :: rest
    else i :: choose item rest

def ofItems (items : List InventoryItem) (base : Text) : SymbolMap :=
  (items.foldl (fun chosen item => choose item chosen) []).map fun item =>
    (item.name, item.record base)

/-- The record of the first name that a key goes by. -/
def lookup? (map : SymbolMap) (key : SymbolKey) : Option Record :=
  key.candidates.findSome? map.get?

def toJson (map : SymbolMap) : Json := .object (map.map fun (name, record) => (name, record.toJson))

def ofJson? (j : Json) : Option SymbolMap := j.map? Record.ofJson?

end SymbolMap
end SymbolDocs
