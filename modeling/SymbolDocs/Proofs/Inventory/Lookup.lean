import SymbolDocs.Inventory.SymbolMap

namespace SymbolDocs

variable {α β : Type}

theorem findSome?_filter_ne [BEq α] [LawfulBEq α] {f : α → Option β} {a : α} (h : f a = none)
    (xs : List α) : (xs.filter (!· == a)).findSome? f = xs.findSome? f := by
  induction xs with
  | nil => rfl
  | cons x xs ih =>
    by_cases eq : x = a
    · subst eq
      simp [h, ih]
    · simp [eq, List.findSome?_cons, ih]

/-- Of a repeated element only the first matters for a search. -/
theorem findSome?_eraseDups [BEq α] [LawfulBEq α] (f : α → Option β) :
    ∀ xs : List α, xs.eraseDups.findSome? f = xs.findSome? f
  | [] => rfl
  | x :: xs => by
    rw [List.eraseDups_cons, List.findSome?_cons, List.findSome?_cons]
    cases h : f x with
    | some b => rfl
    | none => exact (findSome?_eraseDups f _).trans (findSome?_filter_ne h xs)
termination_by xs => xs.length
decreasing_by
  have := List.length_filter_le (!· == x) xs
  simp only [List.length_cons]
  omega

namespace SymbolMap

/-- The record of a name, unless it is empty. -/
def named? (map : SymbolMap) (name : Text) : Option Record :=
  if name.isEmpty then none else map.get? name

theorem findSome?_nonempty (map : SymbolMap) (names : List Text) :
    (names.filter (!·.isEmpty)).findSome? map.get? = names.findSome? map.named? := by
  induction names with
  | nil => rfl
  | cons name names ih =>
    cases name with
    | nil => simpa [named?] using ih
    | cons c name => simp [named?, List.findSome?_cons, ih]

/-- The entry of the name below the module is found, unless there is one of the bare name. -/
theorem lookup?_of_get?_module {map : SymbolMap} {key : SymbolKey} {record : Record}
    (h : map.get? (key.module ++ '.' :: key.qualifiedName) = some record) :
    map.lookup? key = (map.named? key.qualifiedName).or (some record) := by
  have full : map.named? (key.module ++ '.' :: key.qualifiedName) = some record := by
    simp [named?, h]
  rw [lookup?, SymbolKey.candidates, findSome?_eraseDups, findSome?_nonempty]
  simp only [List.cons_append, List.findSome?_cons, full]
  cases map.named? key.qualifiedName <;> rfl

theorem lookup?_join :
    SymbolMap.get? [("os.path.join".toList, Record.titled "join".toList .sphinx)]
      ("os.path".toList ++ '.' :: "join".toList) = some (Record.titled "join".toList .sphinx) ∧
    SymbolMap.lookup? [("os.path.join".toList, Record.titled "join".toList .sphinx)]
      ⟨"os".toList, "os.path".toList, "join".toList, "join".toList, true, none⟩ =
      some (Record.titled "join".toList .sphinx) := by
  have h : SymbolMap.get? [("os.path.join".toList, Record.titled "join".toList .sphinx)]
      ("os.path".toList ++ '.' :: "join".toList) = some (Record.titled "join".toList .sphinx) := by
    decide
  refine ⟨h, ?_⟩
  rw [lookup?_of_get?_module h]
  decide

/-- The bare name of a function is also the name of a builtin. -/
theorem lookup?_compile : ¬ ∀ (map : SymbolMap) (key : SymbolKey) (record : Record),
    key.module ≠ [] → key.module ≠ builtinsModule → key.package ≠ builtinsModule →
    map.get? (key.module ++ '.' :: key.qualifiedName) = some record →
    map.lookup? key = some record := by
  intro found
  have eq := found [("compile".toList, Record.titled "compile".toList .sphinx),
      ("re.compile".toList, Record.titled "re.compile".toList .sphinx)]
    ⟨"re".toList, "re".toList, "compile".toList, "compile".toList, true, none⟩
    (Record.titled "re.compile".toList .sphinx)
    (by decide) (by decide) (by decide) (by decide)
  exact absurd eq (by decide)

end SymbolMap
end SymbolDocs
