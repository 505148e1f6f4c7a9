import SymbolDocs.Lookup.Inventory
import SymbolDocs.Lookup.Page
import SymbolDocs.Proofs.Lookup.Growth
import SymbolDocs.Proofs.Store.ReadBack

namespace SymbolDocs

variable {α β : Type}

theorem Web.stored?_bind {w : World} {maxAgeSecs : Nat} {decode : Option Json → Option α}
    {key : Text} {value : α} (read : w.store.read? w.now maxAgeSecs decode key = some value)
    (f : Option α → Web β) : (stored? maxAgeSecs decode key >>= f) w =
      f (some value) { w with storeUses := key :: w.storeUses } :=
  bind_of_some (by rw [stored?, read]) f

namespace Lookup

/-- A lookup gives a value without a request, and leaves the store as it is. -/
def Serves (x : Lookup α) (m : Memory) (w : World) (value : α) : Prop :=
  ∃ m' w', x m w = (some (value, m'), w') ∧ w'.requests = w.requests ∧ w'.store = w.store

variable {c : Config} {m : Memory} {w : World}

theorem Serves.lift {x : Web α} {value : α} {uses addresses : List Text}
    (run : x w = (some value, { w with storeUses := uses, addresses })) :
    Serves (liftM x) m w value :=
  ⟨m, _, lift_eq_some_iff.mpr ⟨run, rfl⟩, rfl, rfl⟩

theorem Serves.remember {table : Memory → List (Text × α)}
    {extend : (Text × α) → Memory → Memory} {key : Text} {load : Lookup α} {value : α}
    (new : (table m).lookup key = none) (h : load.Serves m w value) :
    Serves (remember table extend key load) m w value := by
  obtain ⟨m', w', run, requests, store⟩ := h
  refine ⟨extend (key, value) m', w', ?_, requests, store⟩
  rw [remember_of_none new, Web.bind_of_some run]
  rfl

theorem inventory_serves {r : InventoryRequest} {map : SymbolMap}
    (new : m.inventories.lookup (r.storeKey c) = none)
    (read : w.store.read? w.now c.inventoryMaxAgeSecs (Json.required? SymbolMap.ofJson?)
      (r.storeKey c) = some map) : (inventory c r).Serves m w map := by
  refine .remember new ⟨m, { w with storeUses := r.storeKey c :: w.storeUses }, ?_, rfl, rfl⟩
  refine bind_eq_some_iff.mpr ⟨some map, m, _, lift_eq_some_iff.mpr ⟨?_, rfl⟩, rfl⟩
  rw [Web.stored?, read]

theorem registryInfo?_serves {package name : Text} {info : Option RegistryInfo}
    (eq : Text.asciiLower (Text.trim package) = name) (named : name ≠ [])
    (new : m.registry.lookup name = none)
    (read : w.store.read? w.now c.registryMaxAgeSecs (Json.optional? RegistryInfo.ofJson?)
      (registryKey name) = some info) : Serves (registryInfo? c package) m w info := by
  have some : ¬ name.isEmpty = true := by simpa using named
  rw [registryInfo?, eq, if_neg some]
  exact .remember new (.lift (Web.stored?_bind read _))

theorem page?_serves {url address html : Text}
    (eq : withHttps? (withoutFragment url) = some address) (named : address ≠ [])
    (new : m.pages.lookup address = none)
    (read : w.store.read? w.now c.pageMaxAgeSecs (Json.required? Json.text?) address = some html) :
    (page? c url).Serves m w (some html) := by
  have some : ¬ address.isEmpty = true := by simpa using named
  let taken : World := { w with addresses := withoutFragment url :: w.addresses }
  have upgraded : Web.withHttps (withoutFragment url) w = (.some address, taken) := by
    rw [Web.withHttps, eq]
  have load : Serves (liftM (loadPage c address)) m taken (.some html) :=
    .lift (Web.stored?_bind (w := taken) read _)
  obtain ⟨m', w', run, requests, store⟩ : Serves (Lookup.remember (·.pages)
      (fun pair m => { m with pages := pair :: m.pages }) address (liftM (loadPage c address)))
      m taken (.some html) := load.remember new
  refine ⟨m', w', bind_eq_some_iff.mpr ?_, requests, store⟩
  refine ⟨address, m, taken, lift_eq_some_iff.mpr ⟨upgraded, rfl⟩, ?_⟩
  rw [if_neg some]
  exact run

/-- What was written to a store at some time is read from it again, and a resolver that has not asked
for it yet is served it without a request: inventories with their records in any order, answers of the
registry, also that there is none, and pages. Only an age limit that is cut to 64 bits may keep it
from them. -/
theorem kept_serves {written : Nat} (clock : written ≤ Limits.word) (c : Config) (m : Memory)
    (w : World) :
    (∀ (r : InventoryRequest) (items : List InventoryItem) (base : Text) (map : SymbolMap),
      map.Perm (SymbolMap.ofItems items base) →
      w.store.StillHolds (r.storeKey c) map.toJson written →
      w.now - written ≤ 1000 * c.inventoryMaxAgeSecs →
      (w.store.read? w.now c.inventoryMaxAgeSecs (Json.required? SymbolMap.ofJson?) (r.storeKey c) =
          some map ↔ Entry.KeepsLimit c.inventoryMaxAgeSecs (w.now - written)) ∧
        (Entry.KeepsLimit c.inventoryMaxAgeSecs (w.now - written) →
          m.inventories.lookup (r.storeKey c) = none → (inventory c r).Serves m w map)) ∧
    (∀ (package name : Text) (info : Option RegistryInfo),
      Text.asciiLower (Text.trim package) = name → name ≠ [] →
      (∀ answer ∈ info, answer.IsLabelled) →
      w.store.StillHolds (registryKey name) (Json.optional RegistryInfo.toJson info) written →
      w.now - written ≤ 1000 * c.registryMaxAgeSecs →
      (w.store.read? w.now c.registryMaxAgeSecs (Json.optional? RegistryInfo.ofJson?)
          (registryKey name) = some info ↔
          Entry.KeepsLimit c.registryMaxAgeSecs (w.now - written)) ∧
        (Entry.KeepsLimit c.registryMaxAgeSecs (w.now - written) →
          m.registry.lookup name = none → Serves (registryInfo? c package) m w info)) ∧
    (∀ (bytes : Bytes) (answer : RegistryInfo), RegistryInfo.ofBytes bytes = .ok answer →
      answer.IsLabelled) ∧
    ∀ url address html : Text, withHttps? (withoutFragment url) = some address → address ≠ [] →
      w.store.StillHolds address (.string html) written →
      w.now - written ≤ 1000 * c.pageMaxAgeSecs →
      (w.store.read? w.now c.pageMaxAgeSecs (Json.required? Json.text?) address = some html ↔
          Entry.KeepsLimit c.pageMaxAgeSecs (w.now - written)) ∧
        (Entry.KeepsLimit c.pageMaxAgeSecs (w.now - written) →
          m.pages.lookup address = none → (page? c url).Serves m w (some html)) := by
  refine ⟨?_, ?_, fun _ _ => RegistryInfo.isLabelled_of_ofBytes, ?_⟩
  · intro r items base map order held young
    have read := Store.read?_eq_some_iff held (.inventory order) clock young
    exact ⟨read, fun kept new => inventory_serves new (read.mpr kept)⟩
  · intro package name info eq named labelled held young
    have read := Store.read?_eq_some_iff held (.registry labelled) clock young
    exact ⟨read, fun kept new => registryInfo?_serves eq named new (read.mpr kept)⟩
  · intro url address html eq named held young
    have read := Store.read?_eq_some_iff held (.page html) clock young
    exact ⟨read, fun kept new => page?_serves eq named new (read.mpr kept)⟩

/-- Something was written to a store a moment ago, and the web cannot be reached. -/
def holding (key : Text) (data : Json) : World :=
  { client := ({} : Site).client, now := 6, store := (Store.recent {}).write 5 key data }

def barMap : SymbolMap :=
  SymbolMap.ofItems [⟨"foo.bar", "py:function", 1, "api.html#$", "-"⟩] "https://a.b/"

def fooInfo : RegistryInfo :=
  { version := some "1\n", projectUrls := some [("Source", "https://s.t"), ("Docs", "\\")] }

theorem kept_serves_offline :
    (inventory {} ⟨"foo", none, false⟩).Serves {} (holding "inventory:foo:latest" barMap.toJson)
      barMap ∧
    Serves (registryInfo? {} " Foo") {} (holding "registry:foo" fooInfo.toJson) (some fooInfo) ∧
    Serves (registryInfo? {} "bar") {} (holding "registry:bar" .null) none ∧
    (page? {} "http://a.b/#c").Serves {} (holding "https://a.b/" (.string "<p>\"é"))
      (some "<p>\"é") := by
  have clock : 5 ≤ Limits.word := by decide
  have labelled : ∀ answer ∈ some fooInfo, answer.IsLabelled := by
    rintro _ ⟨⟩
    exact (by decide : (fooInfo.projects.map (·.1)).Nodup)
  refine ⟨?_, ?_, ?_, ?_⟩
  · exact ((kept_serves clock {} {} _).1 ⟨"foo", none, false⟩ _ _ barMap (.refl _)
      ⟨.recent {}, rfl⟩ (by decide)).2 (.inl (by decide)) rfl
  · exact ((kept_serves clock {} {} _).2.1 " Foo" "foo" (some fooInfo) (by decide) (by decide)
      labelled ⟨.recent {}, rfl⟩ (by decide)).2 (.inl (by decide)) rfl
  · exact ((kept_serves clock {} {} _).2.1 "bar" "bar" none (by decide) (by decide)
      (fun _ none => nomatch none) ⟨.recent {}, rfl⟩ (by decide)).2 (.inl (by decide)) rfl
  · exact ((kept_serves clock {} {} _).2.2.2 "http://a.b/#c" "https://a.b/" _ (by decide)
      (by decide) ⟨.recent {}, rfl⟩ (by decide)).2 (.inl (by decide)) rfl

end Lookup

/-- A page that was written a millisecond ago is found with an age limit of a second, but not with one
whose low 64 bits, in milliseconds, are zero. -/
theorem Store.read?_write_cutLimit :
    1 - 0 ≤ 1000 * 0x2000000000000000 ∧
    ((Store.recent {}).write 0 "https://a.b/" (.string "x")).read? 1 1
      (Json.required? Json.text?) "https://a.b/" = some "x" ∧
    ((Store.recent {}).write 0 "https://a.b/" (.string "x")).read? 1 0x2000000000000000
      (Json.required? Json.text?) "https://a.b/" = none := by
  decide +kernel

end SymbolDocs
