import SymbolDocs.Proofs.Inventory.Stored
import SymbolDocs.Registry.Info
import SymbolDocs.Store.Entry

namespace SymbolDocs

theorem Json.readsAs_optional {α : Type} {encode : α → Json}
    (each : ∀ a, ReadsAs (write (encode a)) (encode a)) (slot : Option α) :
    ReadsAs (write (optional encode slot)) (optional encode slot) := by
  cases slot with
  | none => exact readsAs_null
  | some a => exact each a

theorem RegistryInfo.readsAs_toJson (info : RegistryInfo) :
    Json.ReadsAs info.toJson.write info.toJson := by
  have text := Json.readsAs_optional Json.readsAs_string
  have urls (urls : List (Text × Text)) :
      Json.ReadsAs (Json.object (urls.map fun link => (link.1, .string link.2))).write
        (.object (urls.map fun link => (link.1, .string link.2))) := by
    refine .object (List.forall₂_same.mpr fun field mem => ⟨rfl, ?_⟩)
    obtain ⟨link, -, rfl⟩ := List.mem_map.mp mem
    exact Json.readsAs_string link.2
  exact .object (.cons ⟨rfl, text _⟩ (.cons ⟨rfl, text _⟩ (.cons ⟨rfl, text _⟩
    (.cons ⟨rfl, text _⟩ (.cons ⟨rfl, text _⟩ (.cons ⟨rfl, text _⟩
    (.cons ⟨rfl, Json.readsAs_optional urls _⟩ .nil)))))))

/-- An inventory that was made from the items of a file. -/
def SymbolMap.IsBuilt (map : SymbolMap) : Prop := ∃ items base, map = ofItems items base

namespace Entry

/-- What the library keeps: inventories, answers of the registry, and pages. -/
inductive IsData : Json → Prop
  | inventory {map : SymbolMap} : map.IsBuilt → IsData map.toJson
  | registry (info : Option RegistryInfo) : IsData (Json.optional RegistryInfo.toJson info)
  | page (html : Text) : IsData (.string html)

/-- A text that the library writes to its store, at any time. -/
def IsOwn (text : Text) : Prop := ∃ data now, IsData data ∧ text = (toJson data now).write

theorem IsData.readsAs {data : Json} (h : IsData data) : Json.ReadsAs data.write data := by
  cases h with
  | inventory built =>
    obtain ⟨items, base, rfl⟩ := built
    exact SymbolMap.readsAs_of_perm (.refl _)
  | registry info =>
    cases info with
    | none => exact Json.readsAs_null
    | some info => exact info.readsAs_toJson
  | page html => exact Json.readsAs_string html

/-- Neither answers of the registry nor pages pass for inventories. -/
theorem IsData.isBuilt {data : Json} (h : IsData data) {map : SymbolMap}
    (decoded : SymbolMap.ofJson? data = some map) : map.IsBuilt := by
  cases h with
  | inventory built =>
    obtain ⟨items, base, rfl⟩ := built
    rw [SymbolMap.ofJson?_of_perm (.refl _)] at decoded
    exact ⟨items, base, (Option.some.inj decoded).symm⟩
  | registry info =>
    cases info with
    | none => cases decoded
    | some info =>
      have name : Record.ofJson? (Json.stringOrNull info.name) = none := by
        cases info.name <;> rfl
      simp [Json.optional, RegistryInfo.toJson, SymbolMap.ofJson?, Json.map?, name] at decoded
  | page html => cases decoded

theorem read_toJson {data timestamp : Json} {written : Nat}
    (readable : Json.ReadsAs data.write data)
    (time : Json.ReadsAs (Json.nat written).write timestamp) :
    Json.read (toJson data written).write =
      some (.object [("data", data), ("timestamp", timestamp)]) := by
  have fields : List.Forall₂ (fun f g : Text × Json => f.1 = g.1 ∧ Json.ReadsAs f.2.write g.2)
      [("data", data), ("timestamp", .nat written)] [("data", data), ("timestamp", timestamp)] :=
    .cons ⟨rfl, readable⟩ (.cons ⟨rfl, time⟩ .nil)
  exact (Json.ReadsAs.object fields).read

theorem IsData.read {data : Json} (h : IsData data) (now : Nat) : ∃ timestamp,
    Json.read (toJson data now).write =
      some (.object [("data", data), ("timestamp", timestamp)]) := by
  obtain ⟨timestamp, time⟩ : ∃ v, Json.ReadsAs (Json.nat now).write v := ⟨_, Json.readsAs_ofNat now⟩
  exact ⟨timestamp, read_toJson h.readsAs time⟩

theorem decode_data {α : Type} {decode : Option Json → Option α} {data timestamp : Json}
    {entry : Entry α}
    (h : ofJson? decode (.object [("data", data), ("timestamp", timestamp)]) = some entry) :
    decode (some data) = some entry.data := by
  have slots : (Json.object [("data", data), ("timestamp", timestamp)]).slots?
      ["data", "timestamp"] = some [some data, some timestamp] := rfl
  simp only [ofJson?, slots, Option.bind_eq_bind, Option.bind_some] at h
  obtain ⟨_, decoded, rest⟩ := Option.bind_eq_some_iff.mp h
  obtain ⟨_, -, made⟩ := Option.bind_eq_some_iff.mp rest
  cases made
  exact decoded

end Entry

theorem TableStore.mem_upsert {row r : StoreRow} {rows : List StoreRow}
    (h : r ∈ upsert row rows) : r = row ∨ r ∈ rows := by
  induction rows with
  | nil => exact .inl (List.mem_singleton.mp h)
  | cons old rows ih =>
    rw [upsert] at h
    split at h
    · rcases List.mem_cons.mp h with rfl | mem
      · exact .inl rfl
      · exact .inr (List.mem_cons_of_mem old mem)
    · rcases List.mem_cons.mp h with rfl | mem
      · exact .inr List.mem_cons_self
      · exact (ih mem).imp id (List.mem_cons_of_mem old)

theorem RecentStore.lookup_of_lookup_filter {key other text : Text} {entries : List (Text × Text)}
    (apart : other ≠ key) (h : (entries.filter (·.1 != key)).lookup other = some text) :
    entries.lookup other = some text := by
  induction entries with
  | nil => exact h
  | cons entry entries ih =>
    rw [List.filter_cons] at h
    rw [List.lookup_cons]
    split at h
    · rw [List.lookup_cons] at h
      split at h
      · exact h
      · exact ih h
    · next removed =>
      have same : entry.1 = key := by simpa using removed
      rw [same, beq_eq_false_iff_ne.mpr apart]
      exact ih h

theorem TableStore.find?_upsert (row : StoreRow) (rows : List StoreRow) (key : Text) :
    (upsert row rows).find? (·.key == key) =
      if row.key = key then some row else rows.find? (·.key == key) := by
  induction rows with
  | nil =>
    rw [upsert, List.find?_singleton]
    simp
  | cons old rows ih =>
    rw [upsert]
    by_cases same : old.key = row.key
    · rw [if_pos same, List.find?_cons, List.find?_cons, same]
      by_cases here : row.key = key
      · rw [beq_iff_eq.mpr here, if_pos here]
      · rw [beq_eq_false_iff_ne.mpr here, if_neg here]
    · rw [if_neg same, List.find?_cons, List.find?_cons, ih]
      by_cases first : old.key = key
      · have apart : row.key ≠ key := fun eq => same (first.trans eq.symm)
        simp [first, apart]
      · rw [beq_eq_false_iff_ne.mpr first]

theorem TableStore.get?_set (t : TableStore) (key value other : Text) :
    (t.set key value).get? other = if other = key then some value else t.get? other := by
  rw [get?, set, find?_upsert]
  by_cases same : other = key
  · rw [if_pos same, if_pos same.symm]
    rfl
  · rw [if_neg same, if_neg (Ne.symm same)]
    rfl

namespace Store

def values : Store → List Text
  | recent s => s.entries.map (·.2)
  | table t => t.rows.map (·.value)

/-- A store in which there is only what the library writes. -/
def IsOwn (store : Store) : Prop := ∀ text ∈ store.values, Entry.IsOwn text

theorem mem_values_of_get? {store : Store} {key text : Text} (h : store.get? key = some text) :
    text ∈ store.values := by
  cases store with
  | recent s =>
    obtain ⟨before, after, split, -⟩ := List.lookup_eq_some_iff.mp h
    rw [values, split]
    simp
  | table t =>
    obtain ⟨row, found, rfl⟩ := Option.map_eq_some_iff.mp h
    exact List.mem_map_of_mem (List.mem_of_find?_eq_some found)

theorem mem_values_set {store : Store} {key value text : Text}
    (h : text ∈ (store.set key value).values) : text = value ∨ text ∈ store.values := by
  cases store with
  | recent s =>
    obtain ⟨entry, kept, rfl⟩ := List.mem_map.mp h
    rcases List.mem_cons.mp (List.mem_of_mem_take kept) with rfl | old
    · exact .inl rfl
    · exact .inr (List.mem_map_of_mem (List.mem_filter.mp old).1)
  | table t =>
    obtain ⟨row, kept, rfl⟩ := List.mem_map.mp h
    rcases TableStore.mem_upsert kept with rfl | old
    · exact .inl rfl
    · exact .inr (List.mem_map_of_mem old)

/-- Setting an entry shows no value that was not there. -/
theorem get?_of_get?_set {store : Store} {key value other text : Text}
    (h : (store.set key value).get? other = some text) :
    other = key ∧ text = value ∨ store.get? other = some text := by
  cases store with
  | recent s =>
    have whole : ((key, value) :: s.entries.filter (·.1 != key)).lookup other = some text :=
      (List.take_prefix _ _).lookup_eq_some h
    rw [List.lookup_cons] at whole
    split at whole
    · next same => exact .inl ⟨eq_of_beq same, (Option.some.inj whole).symm⟩
    · next apart => exact .inr (RecentStore.lookup_of_lookup_filter (ne_of_beq_false apart) whole)
  | table t =>
    have shown := (t.get?_set key value other).symm.trans h
    split at shown
    · next same => exact .inl ⟨same, (Option.some.inj shown).symm⟩
    · exact .inr shown

theorem IsOwn.write {store : Store} (own : store.IsOwn) {data : Json} (h : Entry.IsData data)
    (now : Nat) (key : Text) : (store.write now key data).IsOwn := by
  intro text mem
  rcases mem_values_set mem with rfl | mem
  · exact ⟨data, now, h, rfl⟩
  · exact own text mem

theorem decode_of_read? {α : Type} {store : Store} {now maxAgeSecs : Nat}
    {decode : Option Json → Option α} {key : Text} {data : Json} {written : Nat} {value : α}
    (got : store.get? key = some (Entry.toJson data written).write) (h : Entry.IsData data)
    (read : store.read? now maxAgeSecs decode key = some value) : decode (some data) = some value := by
  obtain ⟨text, got', rest⟩ := Option.bind_eq_some_iff.mp read
  obtain ⟨doc, parsed, rest⟩ := Option.bind_eq_some_iff.mp rest
  obtain ⟨entry, decoded, current⟩ := Option.bind_eq_some_iff.mp rest
  obtain ⟨timestamp, made⟩ := h.read written
  rw [got] at got'
  cases got'
  rw [made] at parsed
  cases parsed
  split at current
  · exact (Entry.decode_data decoded).trans current
  · cases current

/-- An inventory that is read from the store was made from the items of a file. -/
theorem IsOwn.isBuilt {store : Store} (own : store.IsOwn) {now maxAgeSecs : Nat} {key : Text}
    {map : SymbolMap}
    (h : store.read? now maxAgeSecs (Json.required? SymbolMap.ofJson?) key = some map) :
    map.IsBuilt := by
  obtain ⟨text, got, -⟩ := Option.bind_eq_some_iff.mp h
  obtain ⟨data, written, ofLibrary, rfl⟩ := own text (mem_values_of_get? got)
  exact ofLibrary.isBuilt (decode_of_read? got ofLibrary h)

end Store
end SymbolDocs
