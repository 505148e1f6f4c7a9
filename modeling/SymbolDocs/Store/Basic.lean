import SymbolDocs.Limits
import SymbolDocs.Text.Basic

namespace SymbolDocs

/-- Entries in memory, the last one set first, and how many of them are kept. -/
structure RecentStore where
  capacity : Nat := Limits.memoryEntries
  entries : List (Text × Text) := []
  deriving DecidableEq, Repr, Inhabited

namespace RecentStore

def size (s : RecentStore) : Nat := s.entries.length

def get? (s : RecentStore) (key : Text) : Option Text := s.entries.lookup key

/-- Puts an entry in front and forgets the last ones beyond the capacity; one is always kept. -/
def set (s : RecentStore) (key value : Text) : RecentStore :=
  { s with
    entries := ((key, value) :: s.entries.filter (·.1 != key)).take (max 1 s.capacity) }

def clear (s : RecentStore) : RecentStore := { s with entries := [] }

end RecentStore

/-- A row of a table: an entry and the bytes of its value. -/
structure StoreRow where
  key : Text
  value : Text
  bytes : Nat
  deriving DecidableEq, Repr, Inhabited

/-- Entries in a table, one row for each key. -/
structure TableStore where
  rows : List StoreRow := []
  deriving DecidableEq, Repr, Inhabited

namespace TableStore

def size (t : TableStore) : Nat := t.rows.length

def bytes (t : TableStore) : Nat := t.rows.foldr (fun row n => row.bytes + n) 0

def get? (t : TableStore) (key : Text) : Option Text :=
  (t.rows.find? (·.key == key)).map (·.value)

/-- Changes the row of a key, or adds one. -/
def upsert (row : StoreRow) : List StoreRow → List StoreRow
  | [] => [row]
  | r :: rest => if r.key = row.key then row :: rest else r :: upsert row rest

def set (t : TableStore) (key value : Text) : TableStore :=
  ⟨upsert ⟨key, value, value.byteLength⟩ t.rows⟩

def clear (_ : TableStore) : TableStore := {}

end TableStore

/-- Where texts are kept between lookups. -/
inductive Store where
  | recent (store : RecentStore)
  | table (store : TableStore)
  deriving DecidableEq, Repr, Inhabited

namespace Store

def get? : Store → Text → Option Text
  | recent s, key => s.get? key
  | table s, key => s.get? key

def set : Store → Text → Text → Store
  | recent s, key, value => recent (s.set key value)
  | table s, key, value => table (s.set key value)

def clear : Store → Store
  | recent s => recent s.clear
  | table s => table s.clear

end Store
end SymbolDocs
