import SymbolDocs.Json.Fields
import SymbolDocs.Proofs.Text.Names

namespace SymbolDocs.Json

variable {α : Type}

theorem setPair_of_new {name : Text} (value : α) {pairs : List (Text × α)}
    (new : name ∉ pairs.map (·.1)) : setPair name value pairs = pairs ++ [(name, value)] := by
  induction pairs with
  | nil => rfl
  | cons pair pairs ih =>
    obtain ⟨n, v⟩ := pair
    simp only [List.map_cons, List.mem_cons, not_or] at new
    rw [setPair, if_neg (Ne.symm new.1), ih new.2, List.cons_append]

theorem map_name_setPair (name : Text) (value : α) (pairs : List (Text × α)) :
    (setPair name value pairs).map (·.1) = Text.withName name (pairs.map (·.1)) := by
  induction pairs with
  | nil => rfl
  | cons pair pairs ih =>
    obtain ⟨n, v⟩ := pair
    rw [setPair]
    by_cases same : n = name
    · rw [if_pos same, List.map_cons, List.map_cons, same, Text.withName_cons_self]
    · rw [if_neg same, List.map_cons, ih, List.map_cons, Text.withName_cons_of_ne same]

/-- An object whose names are distinct is read as the map that it was written for. -/
theorem map?_object {decode : Json → Option α} {encode : α → Json} {pairs : List (Text × α)}
    (each : ∀ pair ∈ pairs, decode (encode pair.2) = some pair.2)
    (distinct : (pairs.map (·.1)).Nodup) :
    map? decode (.object (pairs.map fun pair => (pair.1, encode pair.2))) = some pairs := by
  -- the pairs read so far stand in front
  suffices step : ∀ before : List (Text × α), ((before ++ pairs).map (·.1)).Nodup →
      (pairs.map fun pair => (pair.1, encode pair.2)).foldlM
        (fun map field => (decode field.2).map (setPair field.1 · map)) before =
        some (before ++ pairs) by
    exact step [] distinct
  clear distinct
  induction pairs with
  | nil => simp
  | cons pair pairs ih =>
    intro before distinct
    have new : pair.1 ∉ before.map (·.1) := by
      intro mem
      rw [List.map_append, List.nodup_append] at distinct
      exact distinct.2.2 pair.1 mem pair.1 List.mem_cons_self rfl
    have next := ih (fun pair mem => each pair (List.mem_cons_of_mem _ mem)) (before ++ [pair])
      (by simpa using distinct)
    have first := each pair List.mem_cons_self
    simp only [List.map_cons, List.foldlM_cons, first, Option.map_some, setPair_of_new pair.2 new,
      Option.bind_eq_bind, Option.bind_some, next, List.append_assoc, List.cons_append,
      List.nil_append]

/-- The names of a map that is read are distinct. -/
theorem nodup_of_map? {decode : Json → Option α} {j : Json} {pairs : List (Text × α)}
    (read : map? decode j = some pairs) : (pairs.map (·.1)).Nodup := by
  cases j with
  | object fields =>
    suffices step : ∀ before : List (Text × α), (before.map (·.1)).Nodup →
        fields.foldlM (fun map field => (decode field.2).map (setPair field.1 · map)) before =
          some pairs → (pairs.map (·.1)).Nodup by
      exact step [] List.nodup_nil read
    clear read
    induction fields with
    | nil =>
      intro before distinct all
      cases all
      exact distinct
    | cons field fields ih =>
      intro before distinct all
      obtain ⟨next, first, rest⟩ := Option.bind_eq_some_iff.mp all
      obtain ⟨value, -, rfl⟩ := Option.map_eq_some_iff.mp first
      have distinct' : ((setPair field.1 value before).map (·.1)).Nodup := by
        rw [map_name_setPair]
        exact Text.nodup_withName distinct field.1
      exact ih _ distinct' rest
  | _ => cases read

end SymbolDocs.Json
