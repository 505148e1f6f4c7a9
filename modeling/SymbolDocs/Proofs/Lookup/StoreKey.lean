import SymbolDocs.Lookup.Inventory

namespace SymbolDocs

/-- Two texts that a separator joins are two others, unless one of them holds a separator too. -/
theorem append_cons_eq_iff {α : Type} {sep : α} {a b a' b' : List α} :
    a ++ sep :: b = a' ++ sep :: b' ↔ (a = a' ∧ b = b') ∨
      (∃ m, a' = a ++ sep :: m ∧ b = m ++ sep :: b') ∨
      ∃ m, a = a' ++ sep :: m ∧ b' = m ++ sep :: b := by
  constructor
  · intro same
    rcases List.append_eq_append_iff.mp same with ⟨m, longer, rest⟩ | ⟨m, longer, rest⟩
    · cases m with
      | nil => exact .inl ⟨by rw [longer, List.append_nil], (List.cons.inj rest).2⟩
      | cons d m =>
        obtain ⟨rfl, tail⟩ := List.cons.inj rest
        exact .inr (.inl ⟨m, longer, tail⟩)
    · cases m with
      | nil => exact .inl ⟨by rw [longer, List.append_nil], (List.cons.inj rest).2.symm⟩
      | cons d m =>
        obtain ⟨rfl, tail⟩ := List.cons.inj rest
        exact .inr (.inr ⟨m, longer, tail⟩)
  · rintro (⟨rfl, rfl⟩ | ⟨m, rfl, rfl⟩ | ⟨m, rfl, rfl⟩)
    · rfl
    · simp
    · simp

theorem inventoryKey_eq_iff {package version package' version' : Text} :
    inventoryKey package version = inventoryKey package' version' ↔
      package ++ ':' :: version = package' ++ ':' :: version' := by
  unfold inventoryKey
  generalize ("inventory:" : Text) = lead
  rw [List.append_assoc, List.append_assoc, List.append_cancel_left_eq]

namespace InventoryRequest

/-- The package and the version that stand for an inventory in the store. -/
def slot (c : Config) (r : InventoryRequest) : Text × Text :=
  if r.isStdlib then (stdlibPackage, c.pythonVersion) else (r.package, r.version.getD "latest")

/-- Both ask for the standard library, or both ask for one version of one package. -/
def SharesInventory (r r' : InventoryRequest) : Prop :=
  r.isStdlib = r'.isStdlib ∧ (r.isStdlib = false →
    r.package = r'.package ∧ r.version.getD "latest" = r'.version.getD "latest")

/-- The first version goes on with a separator where the second package does. -/
def IsCutLater (s s' : Text × Text) : Prop := ∃ m, s'.1 = s.1 ++ ':' :: m ∧ s.2 = m ++ ':' :: s'.2

theorem IsCutLater.ne {s s' : Text × Text} (h : IsCutLater s s') : s ≠ s' := by
  obtain ⟨m, longer, -⟩ := h
  intro same
  have size := congrArg List.length longer
  rw [same, List.length_append, List.length_cons] at size
  omega

theorem IsCutLater.mem {s s' : Text × Text} (h : IsCutLater s s') : ':' ∈ s.2 := by
  obtain ⟨m, -, rest⟩ := h
  rw [rest]
  exact List.mem_append_right m List.mem_cons_self

/-- Requests for different inventories that the store does not tell apart. -/
inductive Clashes (c : Config) (r r' : InventoryRequest) : Prop where
  /-- A package goes by the name and the version of the standard library. -/
  | stdlib (sides : r.isStdlib ≠ r'.isStdlib) (same : r.slot c = r'.slot c)
  /-- A separator in the version of the first one is one in the package of the second one. -/
  | later (cut : IsCutLater (r.slot c) (r'.slot c))
  | earlier (cut : IsCutLater (r'.slot c) (r.slot c))

variable {c : Config} {r r' : InventoryRequest}

theorem storeKey_eq (c : Config) (r : InventoryRequest) :
    r.storeKey c = inventoryKey (r.slot c).1 (r.slot c).2 := by
  rw [storeKey, slot]
  split <;> rfl

theorem storeKey_eq_iff_slot : r.storeKey c = r'.storeKey c ↔ r.slot c = r'.slot c ∨
    IsCutLater (r.slot c) (r'.slot c) ∨ IsCutLater (r'.slot c) (r.slot c) := by
  rw [storeKey_eq, storeKey_eq, inventoryKey_eq_iff, append_cons_eq_iff, Prod.ext_iff]
  rfl

theorem sharesInventory_iff (c : Config) : r.SharesInventory r' ↔
    r.isStdlib = r'.isStdlib ∧ r.slot c = r'.slot c := by
  rw [SharesInventory]
  refine and_congr_right fun sides => ?_
  rw [slot, slot, ← sides]
  cases r.isStdlib with
  | true => simp
  | false => simp [Prod.ext_iff]

theorem not_clashes (plain : ':' ∉ (r.slot c).2) (plain' : ':' ∉ (r'.slot c).2)
    (apart : r.isStdlib ≠ r'.isStdlib → r.slot c ≠ r'.slot c) : ¬ r.Clashes c r' := by
  intro clash
  cases clash with
  | stdlib sides same => exact apart sides same
  | later cut => exact plain cut.mem
  | earlier cut => exact plain' cut.mem

/-- The store tells requests apart, but for those that clash. Where no version has a colon, only a
package by the name and the version of the standard library clashes with it. -/
theorem storeKey_eq_iff (c : Config) (r r' : InventoryRequest) :
    (r.storeKey c = r'.storeKey c ↔ r.SharesInventory r' ∨ r.Clashes c r') ∧
      (r.Clashes c r' → ¬ r.SharesInventory r') ∧
      (':' ∉ (r.slot c).2 → ':' ∉ (r'.slot c).2 →
        (r.isStdlib ≠ r'.isStdlib → r.slot c ≠ r'.slot c) → ¬ r.Clashes c r') := by
  refine ⟨?_, ?_, not_clashes⟩
  · rw [storeKey_eq_iff_slot]
    constructor
    · rintro (same | cut | cut)
      · by_cases sides : r.isStdlib = r'.isStdlib
        · exact .inl ((sharesInventory_iff c).mpr ⟨sides, same⟩)
        · exact .inr (.stdlib sides same)
      · exact .inr (.later cut)
      · exact .inr (.earlier cut)
    · rintro (shared | ⟨sides, same⟩ | cut | cut)
      · exact .inl ((sharesInventory_iff c).mp shared).2
      · exact .inl same
      · exact .inr (.inl cut)
      · exact .inr (.inr cut)
  · intro clash shared
    obtain ⟨sides, same⟩ := (sharesInventory_iff c).mp shared
    cases clash with
    | stdlib apart _ => exact apart sides
    | later cut => exact cut.ne same
    | earlier cut => exact cut.ne same.symm

theorem storeKey_python : ¬ ∀ (c : Config) (r r' : InventoryRequest),
    r.storeKey c = r'.storeKey c → r.SharesInventory r' := by
  intro apart
  have shared := apart {} ⟨"python", some "3.12", false⟩ ⟨"os", none, true⟩ (by decide)
  exact absurd shared.1 (by decide)

end InventoryRequest
end SymbolDocs
