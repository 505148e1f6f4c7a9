import SymbolDocs.Lookup.Resolve
import SymbolDocs.Proofs.Lookup.Yields

namespace SymbolDocs

variable {α β : Type}

namespace Memory

/-- Whatever is remembered in the first memory is remembered in the second one as well. -/
structure Extends (m m' : Memory) : Prop where
  inventories {key : Text} {map : SymbolMap} :
    m.inventories.lookup key = some map → m'.inventories.lookup key = some map
  roots {package root : Text} :
    m.roots.lookup package = some root → m'.roots.lookup package = some root
  registry {package : Text} {info : Option RegistryInfo} :
    m.registry.lookup package = some info → m'.registry.lookup package = some info
  pages {url : Text} {html : Option Text} :
    m.pages.lookup url = some html → m'.pages.lookup url = some html

/-- The second memory extends the first one and has the same inventories. -/
def ExtendsBelow (m m' : Memory) : Prop := m.Extends m' ∧ m'.inventories = m.inventories

/-- The second memory extends the first one by answers of the registry. -/
def ExtendsByRegistry (m m' : Memory) : Prop :=
  m.ExtendsBelow m' ∧ m'.roots = m.roots

variable {m m' m'' : Memory}

theorem Extends.refl (m : Memory) : m.Extends m := ⟨id, id, id, id⟩

theorem Extends.trans (h : m.Extends m') (h' : m'.Extends m'') : m.Extends m'' :=
  ⟨h'.inventories ∘ h.inventories, h'.roots ∘ h.roots, h'.registry ∘ h.registry,
    h'.pages ∘ h.pages⟩

theorem ExtendsBelow.refl (m : Memory) : m.ExtendsBelow m := ⟨.refl m, rfl⟩

theorem ExtendsBelow.trans (h : m.ExtendsBelow m') (h' : m'.ExtendsBelow m'') :
    m.ExtendsBelow m'' :=
  ⟨h.1.trans h'.1, h'.2.trans h.2⟩

theorem ExtendsByRegistry.refl (m : Memory) : m.ExtendsByRegistry m := ⟨.refl m, rfl⟩

theorem ExtendsByRegistry.trans (h : m.ExtendsByRegistry m') (h' : m'.ExtendsByRegistry m'') :
    m.ExtendsByRegistry m'' :=
  ⟨h.1.trans h'.1, h'.2.trans h.2⟩

/-- A pair for a new key hides none of the pairs behind it. -/
theorem lookup_cons_of_new {table : List (Text × α)} {key other : Text} {a b : α}
    (new : table.lookup key = none) (known : table.lookup other = some b) :
    ((key, a) :: table).lookup other = some b := by
  have apart : other ≠ key := by
    intro same
    rw [same, new] at known
    cases known
  rw [List.lookup_cons, beq_eq_false_iff_ne.mpr apart]
  exact known

end Memory

namespace Lookup

/-- How a lookup with an outcome changes the memory. -/
def Moves (R : Memory → Memory → Prop) (x : Lookup α) : Prop :=
  ∀ ⦃m m' w w' a⦄, x m w = (some (a, m'), w') → R m m'

theorem lift_eq_some_iff {x : Web α} {m m' : Memory} {w w' : World} {a : α} :
    (liftM x : Lookup α) m w = (some (a, m'), w') ↔ x w = (some a, w') ∧ m' = m := by
  constructor
  · intro run
    obtain ⟨b, w₁, first, second⟩ := Web.bind_eq_some_iff.mp run
    cases second
    exact ⟨first, rfl⟩
  · rintro ⟨run, rfl⟩
    exact Web.bind_eq_some_iff.mpr ⟨a, w', run, rfl⟩

namespace Moves

variable {R R' : Memory → Memory → Prop}

theorem pure (refl : ∀ m, R m m) (a : α) : Moves R (pure a : Lookup α) := by
  intro m m' w w' b run
  obtain ⟨-, rfl, -⟩ := pure_eq_some_iff.mp run
  exact refl m

theorem lift (refl : ∀ m, R m m) (x : Web α) : Moves R (liftM x : Lookup α) := by
  intro m m' w w' a run
  obtain ⟨-, rfl⟩ := lift_eq_some_iff.mp run
  exact refl m'

theorem bind (trans : ∀ {m m' m''}, R m m' → R m' m'' → R m m'') {x : Lookup α}
    {f : α → Lookup β} (hx : x.Moves R) (hf : ∀ a, (f a).Moves R) : Moves R (x >>= f) := by
  intro m m' w w' b run
  obtain ⟨a, m₁, w₁, first, second⟩ := bind_eq_some_iff.mp run
  exact trans (hx first) (hf a second)

theorem imp {x : Lookup α} (h : x.Moves R) (weaker : ∀ {m m'}, R m m' → R' m m') :
    x.Moves R' := fun _ _ _ _ _ run => weaker (h run)

/-- A new value is loaded only if the key is not in the table yet. -/
theorem remember {table : Memory → List (Text × α)} {extend : (Text × α) → Memory → Memory}
    {key : Text} {load : Lookup α} (refl : ∀ m, R' m m)
    (added : ∀ {m m'} a, (table m).lookup key = none → R m m' → R' m (extend (key, a) m'))
    (h : load.Moves R) : Moves R' (remember table extend key load) := by
  intro m m' w w' a run
  rcases remember_cases run with ⟨-, same, -⟩ | ⟨new, loaded, first, rfl⟩
  · rw [same]
    exact refl m
  · exact added a new (h first)

end Moves

theorem registryInfo?_moves (c : Config) (package : Text) :
    Moves Memory.ExtendsByRegistry (registryInfo? c package) := by
  rw [registryInfo?]
  split
  · exact .pure .refl _
  · refine .remember .refl ?_ (.lift (R := Eq) (fun _ => rfl) _)
    rintro m m' info new rfl
    exact ⟨⟨⟨id, id, Memory.lookup_cons_of_new new, id⟩, rfl⟩, rfl⟩

theorem discoverRoot_moves (c : Config) (package : Text) (version : Option Text) :
    Moves Memory.ExtendsByRegistry (discoverRoot c package version) := by
  refine .bind .trans (registryInfo?_moves c package) fun info => ?_
  cases info.bind RegistryInfo.bestUrl? with
  | none => exact .bind .trans (.pure .refl none) fun _ => .pure .refl _
  | some url =>
    refine .bind .trans (.lift .refl (Web.withHttps url)) fun home => ?_
    exact .bind .trans (.lift .refl (firstInventory home usualPlaces)) fun _ => .pure .refl _

theorem docsRoot_moves (c : Config) (r : InventoryRequest) :
    Moves Memory.ExtendsBelow (docsRoot c r) := by
  rw [docsRoot]
  split
  · exact .pure .refl _
  · cases c.libraryOf? r.package with
    | some lib => exact .bind .trans (.lift .refl (Web.withHttps lib.docsUrl)) fun _ => .pure .refl _
    | none =>
      refine .remember .refl ?_ (discoverRoot_moves c r.package r.version)
      intro m m' root new moved
      have new' : m'.roots.lookup r.package = none := by rw [moved.2]; exact new
      have added : m'.Extends { m' with roots := (r.package, root) :: m'.roots } :=
        ⟨id, Memory.lookup_cons_of_new new', id, id⟩
      exact ⟨moved.1.1.trans added, moved.1.2⟩

theorem loadInventory_moves (c : Config) (r : InventoryRequest) :
    Moves Memory.ExtendsBelow (loadInventory c r) := by
  have downloaded : Moves Memory.ExtendsBelow (downloadInventory c r) := by
    refine .bind .trans (docsRoot_moves c r) fun root => ?_
    cases givenInventoryUrl? c r with
    | none => exact .lift .refl _
    | some url => exact .bind .trans (.lift .refl (Web.withHttps url)) fun _ => .lift .refl _
  refine .bind .trans (.lift .refl _) fun found => ?_
  cases found with
  | some map => exact .pure .refl map
  | none =>
    refine .bind .trans downloaded fun map => ?_
    exact .bind .trans (.lift .refl _) fun _ => .pure .refl map

end Lookup
end SymbolDocs
