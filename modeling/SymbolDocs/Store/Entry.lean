import SymbolDocs.Json.Fields
import SymbolDocs.Json.Writer
import SymbolDocs.Limits
import SymbolDocs.Store.Basic

namespace SymbolDocs

/-- A value in a store and when it was written, in milliseconds. -/
structure Entry (α : Type) where
  data : α
  timestamp : Nat

namespace Entry

/-- The longest age in milliseconds; of a number beyond 64 bits the low 64 are kept. -/
def ageLimit (secs : Nat) : Nat := secs * 1000 % (Limits.word + 1)

/-- Whether an entry is young enough. One from the future has no age. -/
def isCurrent (now maxAgeSecs timestamp : Nat) : Bool := now - timestamp ≤ ageLimit maxAgeSecs

def toJson (data : Json) (timestamp : Nat) : Json :=
  .object [("data", data), ("timestamp", .nat timestamp)]

/-- Reads an entry. The data are read from a slot, as it depends on them whether they may be
missing. -/
def ofJson? (decode : Option Json → Option α) (j : Json) : Option (Entry α) := do
  match ← j.slots? ["data", "timestamp"] with
  | [data, timestamp] =>
    return {
      data := ← decode data
      timestamp := ← Json.required? (Json.natUpTo? Limits.word) timestamp }
  | _ => none

end Entry

namespace Store

/-- The data of an entry that can be read and is young enough. -/
def read? (store : Store) (now maxAgeSecs : Nat) (decode : Option Json → Option α) (key : Text) :
    Option α := do
  let entry ← Entry.ofJson? decode (← Json.read (← store.get? key))
  if Entry.isCurrent now maxAgeSecs entry.timestamp then entry.data else none

def write (store : Store) (now : Nat) (key : Text) (data : Json) : Store :=
  store.set key (Entry.toJson data now).write

end Store
end SymbolDocs
