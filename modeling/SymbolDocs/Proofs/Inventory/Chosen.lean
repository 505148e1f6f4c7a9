import SymbolDocs.Inventory.SymbolMap
import SymbolDocs.Proofs.Inventory.Stored
import SymbolDocs.Proofs.Text.Cut

namespace SymbolDocs

/-- What is left of a text behind all the characters `c` that it starts with. -/
def IsLeftBehind (c : Char) (s rest : Text) : Prop :=
  ∃ n, s = List.replicate n c ++ rest ∧ rest.head? ≠ some c

/-- What is left of a text before all the characters `c` that it ends with. -/
def IsLeftBefore (c : Char) (s rest : Text) : Prop :=
  ∃ n, s = rest ++ List.replicate n c ∧ rest.getLast? ≠ some c

theorem isLeftBehind_dropWhile (c : Char) (s : Text) :
    IsLeftBehind c s (s.dropWhile (· == c)) := by
  induction s with
  | nil => exact ⟨0, rfl, by simp⟩
  | cons d s ih =>
    by_cases same : d = c
    · obtain ⟨n, eq, next⟩ := ih
      rw [List.dropWhile_cons_of_pos (by simpa using same)]
      exact ⟨n + 1, by rw [List.replicate_succ, List.cons_append, ← eq, same], next⟩
    · rw [List.dropWhile_cons_of_neg (by simpa using same)]
      exact ⟨0, rfl, by simpa using same⟩

theorem isLeftBefore_dropEndWhile (c : Char) (s : Text) :
    IsLeftBefore c s (Text.dropEndWhile (· == c) s) := by
  obtain ⟨n, eq, next⟩ := isLeftBehind_dropWhile c s.reverse
  refine ⟨n, ?_, ?_⟩
  · have whole := congrArg List.reverse eq
    rwa [List.reverse_reverse, List.reverse_append, List.reverse_replicate] at whole
  · rwa [Text.dropEndWhile, List.getLast?_reverse]

namespace InventoryItem

/-- The URI with a trailing dollar sign replaced by the name. -/
def IsExpandedUri (item : InventoryItem) (uri : Text) : Prop :=
  (∃ start, item.uri = start ++ ['$'] ∧ uri = start ++ item.name) ∨
    (¬ ['$'] <:+ item.uri ∧ uri = item.uri)

theorem isExpandedUri_fullUri (item : InventoryItem) : item.IsExpandedUri item.fullUri := by
  rw [fullUri]
  cases ends : Text.before? "$" item.uri with
  | some start => exact .inl ⟨start, Text.before?_eq_some_iff.mp ends, rfl⟩
  | none =>
    refine .inr ⟨fun ⟨start, eq⟩ => ?_, rfl⟩
    have found := Text.before?_eq_some_iff.mpr eq.symm
    exact absurd (found.symm.trans ends) (by simp)

/-- A record that says of an item its title, its kind, the placeholder and where it is documented
below the base address. -/
structure Describes (item : InventoryItem) (base : Text) (record : Record) : Prop where
  title : record.title = item.title
  kind : record.kind = some item.kind
  summary : record.summary = some item.placeholder
  url : ∃ stem uri path, IsLeftBefore '/' base stem ∧ item.IsExpandedUri uri ∧
    IsLeftBehind '/' uri path ∧ record.url = some (stem ++ '/' :: path)

theorem describes_record (item : InventoryItem) (base : Text) :
    item.Describes base (item.record base) where
  title := rfl
  kind := rfl
  summary := rfl
  url := ⟨_, _, _, isLeftBefore_dropEndWhile '/' base, item.isExpandedUri_fullUri,
    isLeftBehind_dropWhile '/' item.fullUri, rfl⟩

end InventoryItem

namespace SymbolMap

/-- Of the items of a name the first one of the Python domain, or else the first one. -/
def winner? (name : Text) (items : List InventoryItem) : Option InventoryItem :=
  (items.find? fun item => item.name == name && item.isPython).or (items.find? (·.name == name))

theorem find?_choose_self (item : InventoryItem) (chosen : List InventoryItem) :
    (choose item chosen).find? (·.name == item.name) =
      some (match chosen.find? (·.name == item.name) with
        | none => item
        | some i => if prefersNew i item then item else i) := by
  induction chosen with
  | nil => simp [choose]
  | cons i chosen ih =>
    rw [choose]
    by_cases same : i.name = item.name
    · have kept : (if prefersNew i item then item else i).name = item.name := by
        split <;> simp [same]
      rw [if_pos same, List.find?_cons_of_pos (by simpa using kept),
        List.find?_cons_of_pos (by simpa using same)]
    · rw [if_neg same, List.find?_cons_of_neg (by simpa using same), ih,
        List.find?_cons_of_neg (by simpa using same)]

theorem find?_choose_of_ne {item : InventoryItem} {name : Text} (ne : item.name ≠ name)
    (chosen : List InventoryItem) :
    (choose item chosen).find? (·.name == name) = chosen.find? (·.name == name) := by
  induction chosen with
  | nil => simp [choose, ne]
  | cons i chosen ih =>
    rw [choose]
    by_cases same : i.name = item.name
    · rw [if_pos same]
      split <;> simp [same, ne]
    · rw [if_neg same, List.find?_cons, List.find?_cons, ih]

/-- What has been chosen for a name gives way to the first item of the Python domain, once. -/
theorem find?_foldl_choose (name : Text) (items chosen : List InventoryItem) :
    (items.foldl (fun chosen item => choose item chosen) chosen).find? (·.name == name) =
      ((chosen.find? (·.name == name)).filter (·.isPython)).or
        ((items.find? fun item => item.name == name && item.isPython).or
          ((chosen.find? (·.name == name)).or (items.find? (·.name == name)))) := by
  induction items generalizing chosen with
  | nil =>
    rw [List.foldl_nil]
    cases found : chosen.find? (·.name == name) with
    | none => rfl
    | some i => cases python : i.isPython <;> simp [Option.filter, python]
  | cons item items ih =>
    rw [List.foldl_cons, ih]
    by_cases same : item.name = name
    · subst same
      rw [find?_choose_self]
      cases found : chosen.find? (·.name == item.name) with
      | none => cases python : item.isPython <;> simp [Option.filter, python]
      | some i =>
        cases old : i.isPython <;> cases new : item.isPython <;>
          simp [Option.filter, prefersNew, old, new]
    · rw [find?_choose_of_ne same, List.find?_cons_of_neg (by simp [same]),
        List.find?_cons_of_neg (by simpa using same)]

theorem get?_ofItems (items : List InventoryItem) (base name : Text) :
    (ofItems items base).get? name = (winner? name items).map (InventoryItem.record base) := by
  rw [get?, ofItems, List.find?_map, Option.map_map]
  have chosen := find?_foldl_choose name items []
  rw [List.find?_nil, Option.filter_none, Option.none_or, Option.none_or] at chosen
  rw [winner?, ← chosen]
  rfl

theorem mem_map_name_foldl_choose {name : Text} {items chosen : List InventoryItem} :
    name ∈ (items.foldl (fun chosen item => choose item chosen) chosen).map (·.name) ↔
      name ∈ chosen.map (·.name) ∨ name ∈ items.map (·.name) := by
  induction items generalizing chosen with
  | nil => simp
  | cons item items ih =>
    rw [List.foldl_cons, ih, map_name_choose, Text.mem_withName, List.map_cons, List.mem_cons,
      or_left_comm, or_assoc]

/-- Items that have the same items of each name, in the same order, differ at most in the order of
items of different names. -/
theorem winner?_congr {items items' : List InventoryItem} {name : Text}
    (same : items'.filter (·.name == name) = items.filter (·.name == name)) :
    winner? name items' = winner? name items := by
  have split (items : List InventoryItem) : winner? name items =
      ((items.filter (·.name == name)).find? (·.isPython)).or
        (items.filter (·.name == name)).head? := by
    rw [List.find?_filter, List.head?_filter, winner?]
    simp only [Bool.decide_and, Bool.decide_eq_true]
  rw [split, split, same]

/-- The map has each name of the items once, with the record of the first item of the name in the
Python domain, or else of the first one. Items of different names may change places. -/
theorem ofItems_spec (items : List InventoryItem) (base : Text) :
    ((ofItems items base).map (·.1)).Nodup ∧
    (∀ name, name ∈ (ofItems items base).map (·.1) ↔ name ∈ items.map (·.name)) ∧
    (∀ name, (ofItems items base).get? name =
      (winner? name items).map (InventoryItem.record base)) ∧
    (∀ item, InventoryItem.Describes item base (item.record base)) ∧
    ∀ items' : List InventoryItem,
      (∀ name, items'.filter (·.name == name) = items.filter (·.name == name)) →
      ∀ name, (ofItems items' base).get? name = (ofItems items base).get? name := by
  refine ⟨nodup_ofItems items base, fun name => ?_, get?_ofItems items base,
    fun item => item.describes_record base, fun items' same name => ?_⟩
  · have names : (ofItems items base).map (·.1) =
        (items.foldl (fun chosen item => choose item chosen) []).map (·.name) := by
      rw [ofItems, List.map_map]
      rfl
    rw [names, mem_map_name_foldl_choose]
    simp
  · rw [get?_ofItems, get?_ofItems, winner?_congr (same name)]

/-- A label and a function of one name, with a page in front of them or between them. -/
theorem get?_ofItems_label_function :
    let base : Text := "https://docs.python.org/3/"
    let label : InventoryItem := ⟨"zip", "std:label", -1, "index.html#$", "Zip files"⟩
    let function : InventoryItem := ⟨"zip", "py:function", 1, "functions.html#$", "-"⟩
    let page : InventoryItem := ⟨"about", "std:doc", -1, "about.html", "About"⟩
    (ofItems [page, label, function] base).get? "zip" = some (function.record base) ∧
      (ofItems [label, page, function] base).get? "zip" = some (function.record base) := by
  intro base label function page
  have first : (ofItems [page, label, function] base).get? "zip" = some (function.record base) :=
    (ofItems_spec _ base).2.2.1 "zip"
  have places (name : Text) : [label, page, function].filter (·.name == name) =
      [page, label, function].filter (·.name == name) := by
    by_cases zip : "zip".toList = name
    · subst zip
      decide
    · have other : ("zip".toList == name) = false := by simpa using zip
      simp only [label, page, function, List.filter_cons, other, Bool.false_eq_true, if_false]
  exact ⟨first, ((ofItems_spec _ base).2.2.2.2 _ places "zip").trans first⟩

end SymbolMap
end SymbolDocs
