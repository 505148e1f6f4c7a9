import Mathlib.Data.List.Forall2
import SymbolDocs.Inventory.SymbolMap
import SymbolDocs.Proofs.Json.Maps
import SymbolDocs.Proofs.Json.Reading

namespace SymbolDocs

namespace InventoryItem

theorem toJson_record (item : InventoryItem) (base : Text) :
    (item.record base).toJson = .object [("title", .string item.title), ("kind", .string item.kind),
      ("summary", .string item.placeholder), ("url", .string (item.url base)),
      ("source", .string "sphinx"), ("confidence", .real Binary64.one)] := by
  simp only [Record.toJson, record, Record.titled, Json.field, Json.field?, Json.items?,
    List.isEmpty_nil, if_true, List.append_nil, List.cons_append, List.nil_append]
  rfl

theorem readsAs_record (item : InventoryItem) (base : Text) :
    Json.ReadsAs (item.record base).toJson.write (item.record base).toJson := by
  rw [toJson_record]
  refine .object (.cons ⟨rfl, Json.readsAs_string _⟩ (.cons ⟨rfl, Json.readsAs_string _⟩
    (.cons ⟨rfl, Json.readsAs_string _⟩ (.cons ⟨rfl, Json.readsAs_string _⟩
    (.cons ⟨rfl, Json.readsAs_string _⟩ (.cons ⟨rfl, Json.readsAs_one⟩ .nil))))))

theorem ofJson?_record (item : InventoryItem) (base : Text) :
    Record.ofJson? (item.record base).toJson = some (item.record base) := by
  rw [toJson_record]
  rfl

end InventoryItem

namespace SymbolMap

theorem map_name_choose (item : InventoryItem) (chosen : List InventoryItem) :
    (choose item chosen).map (·.name) = Text.withName item.name (chosen.map (·.name)) := by
  induction chosen with
  | nil => rfl
  | cons i chosen ih =>
    rw [choose, List.map_cons]
    by_cases same : i.name = item.name
    · rw [if_pos same, same, Text.withName_cons_self]
      split <;> simp [same]
    · rw [if_neg same, List.map_cons, ih, Text.withName_cons_of_ne same]

theorem nodup_choose (item : InventoryItem) {chosen : List InventoryItem}
    (distinct : (chosen.map (·.name)).Nodup) : ((choose item chosen).map (·.name)).Nodup := by
  rw [map_name_choose]
  exact Text.nodup_withName distinct item.name

theorem nodup_foldl_choose (items : List InventoryItem) {chosen : List InventoryItem}
    (distinct : (chosen.map (·.name)).Nodup) :
    ((items.foldl (fun chosen item => choose item chosen) chosen).map (·.name)).Nodup := by
  induction items generalizing chosen with
  | nil => exact distinct
  | cons item items ih => exact ih (nodup_choose item distinct)

theorem nodup_ofItems (items : List InventoryItem) (base : Text) :
    ((ofItems items base).map (·.1)).Nodup := by
  have distinct : ((items.foldl (fun chosen item => choose item chosen) []).map (·.name)).Nodup :=
    nodup_foldl_choose items List.nodup_nil
  simpa [ofItems, Function.comp_def] using distinct

theorem mem_ofItems {items : List InventoryItem} {base : Text} {pair : Text × Record}
    (h : pair ∈ ofItems items base) : ∃ item, pair.2 = InventoryItem.record base item := by
  obtain ⟨item, -, rfl⟩ := List.mem_map.mp h
  exact ⟨item, rfl⟩

/-- An inventory that is written in any order and read is what it was. -/
theorem ofJson?_of_perm {map : SymbolMap} {items : List InventoryItem} {base : Text}
    (order : map.Perm (ofItems items base)) : ofJson? map.toJson = some map := by
  have distinct : (map.map (·.1)).Nodup := (order.map _).nodup_iff.mpr (nodup_ofItems items base)
  refine Json.map?_object (fun (name, record) mem => ?_) distinct
  obtain ⟨item, rfl⟩ := mem_ofItems (order.mem_iff.mp mem)
  exact item.ofJson?_record base

theorem readsAs_of_perm {map : SymbolMap} {items : List InventoryItem} {base : Text}
    (order : map.Perm (ofItems items base)) : Json.ReadsAs map.toJson.write map.toJson := by
  refine .object (List.forall₂_same.mpr fun field mem => ⟨rfl, ?_⟩)
  obtain ⟨⟨name, record⟩, here, rfl⟩ := List.mem_map.mp mem
  obtain ⟨item, rfl⟩ := mem_ofItems (order.mem_iff.mp here)
  exact item.readsAs_record base

end SymbolMap
end SymbolDocs
