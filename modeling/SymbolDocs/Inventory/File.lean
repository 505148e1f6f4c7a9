import SymbolDocs.Deflate.Inflate
import SymbolDocs.Inventory.Item
import SymbolDocs.Inventory.SymbolMap

namespace SymbolDocs.Inventory

/-- The last line of a file's header. -/
def sentinel : Bytes :=
  Utf8.encode ("The remainder of this file is compressed using zlib.\n" : Text)

/-- The compressed part of a file: what follows the first sentinel. -/
def payload? (file : Bytes) : Option Bytes := (Text.cutAt? sentinel file).map (·.2)

/-- The header of a file with its sentinel; without one all of it. -/
def header (file : Bytes) : Bytes :=
  match Text.cutAt? sentinel file with
  | some (before, _) => before ++ sentinel
  | none => file

/-- The value of the first header line `# field: value`, unless it is blank. -/
def headerValue? (file : Bytes) (field : Text) : Option Text :=
  let lead := '#' :: ' ' :: field ++ [':']
  ((Text.lines (Utf8.decodeLossy (header file))).findSome? (Text.after? lead)).bind Text.nonBlank?

/-- How much a payload may inflate to. -/
def capacity (payload : Bytes) : Nat := max 1024 (4 * payload.length)

/-- The text of an inventory's body. -/
def body (file : Bytes) : Except InventoryFault Text :=
  match payload? file with
  | none => .error .noSentinel
  | some payload =>
    match Deflate.decodeZlib (capacity payload) payload with
    | .error .truncated => .error .truncated
    | .error .corrupt => .error .corrupt
    | .ok content =>
      match Utf8.decode content with
      | .ok text => .ok text
      | .error fault => .error (.notUtf8 fault)

/-- The records of an inventory file whose documentation has its root at `base`. -/
def symbolMap (file : Bytes) (base : Text) : Except InventoryFault SymbolMap :=
  (body file).map fun text => SymbolMap.ofItems (InventoryItem.ofBody text) base

end SymbolDocs.Inventory
