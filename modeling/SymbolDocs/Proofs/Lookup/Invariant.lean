import SymbolDocs.Lookup.Resolve
import SymbolDocs.Proofs.Lookup.Yields
import SymbolDocs.Proofs.Store.Own

namespace SymbolDocs

namespace Lookup

/-- What stays so whatever is looked up, since every single act keeps it so. -/
structure Invariant where
  holds : Memory → World → Prop
  /-- What is so when a lookup has no outcome. -/
  failed : World → Prop
  isAddress : Text → Prop
  isMap : SymbolMap → Prop
  whole {m : Memory} {w : World} {url address : Text} : holds m w →
    withHttps? url = some address → holds m (Web.withHttps url w).2 ∧ isAddress address
  cut {m : Memory} {w : World} {url : Text} : holds m w → withHttps? url = none →
    failed (Web.withHttps url w).2
  get {m : Memory} {w : World} {url : Text} : holds m w → isAddress url →
    holds m (Web.get url w).2
  head {m : Memory} {w : World} {home place : Text} : holds m w → isAddress home →
    place ∈ usualPlaces →
    holds m (Web.head (urlBelow (asFolder (urlBelow home place)) inventoryName) w).2
  used {m : Memory} {w : World} (key : Text) : holds m w →
    holds m { w with storeUses := key :: w.storeUses }
  keepMap {m : Memory} {w : World} {map : SymbolMap} (key : Text) : holds m w → isMap map →
    holds m (Web.keep key map.toJson w).2
  keepRegistry {m : Memory} {w : World} (key : Text) (info : Option RegistryInfo) : holds m w →
    holds m (Web.keep key (Json.optional RegistryInfo.toJson info) w).2
  keepPage {m : Memory} {w : World} (key html : Text) : holds m w →
    holds m (Web.keep key (.string html) w).2
  noMap : isMap []
  readMap {file : Bytes} {base : Text} {map : SymbolMap} :
    Inventory.symbolMap file base = .ok map → isMap map
  storedMap {m : Memory} {w : World} {maxAgeSecs : Nat} {key : Text} {map : SymbolMap} :
    holds m w →
    w.store.read? w.now maxAgeSecs (Json.required? SymbolMap.ofJson?) key = some map → isMap map
  rememberedMap {m : Memory} {w : World} {key : Text} {map : SymbolMap} : holds m w →
    m.inventories.lookup key = some map → isMap map
  inventories {m : Memory} {w : World} {map : SymbolMap} (key : Text) : holds m w → isMap map →
    holds { m with inventories := (key, map) :: m.inventories } w
  roots {m : Memory} {w : World} (pair : Text × Text) : holds m w →
    holds { m with roots := pair :: m.roots } w
  registry {m : Memory} {w : World} (pair : Text × Option RegistryInfo) : holds m w →
    holds { m with registry := pair :: m.registry } w
  pages {m : Memory} {w : World} (pair : Text × Option Text) : holds m w →
    holds { m with pages := pair :: m.pages } w

namespace Invariant

variable {α : Type} {m : Memory} (I : Invariant)

/-- Work on the web keeps the invariant and has a value as stated. -/
abbrev OnWeb (m : Memory) (post : α → Prop) (x : Web α) : Prop :=
  Web.Yields (I.holds m) I.failed post x

/-- A lookup keeps the invariant and has a value as stated. -/
abbrev Keeps (post : α → Prop) (x : Lookup α) : Prop := Yields I.holds I.failed post x

theorem withHttps (url : Text) : I.OnWeb m I.isAddress (Web.withHttps url) := by
  intro w inv
  cases made : withHttps? url with
  | none =>
    have failed := I.cut inv made
    rw [Web.withHttps, made] at *
    exact failed
  | some address =>
    have whole := I.whole inv made
    rw [Web.withHttps, made] at *
    exact whole

theorem stored? {post : Option α → Prop} {maxAgeSecs : Nat} {decode : Option Json → Option α}
    {key : Text} (h : ∀ w, I.holds m w → post (w.store.read? w.now maxAgeSecs decode key)) :
    I.OnWeb m post (Web.stored? maxAgeSecs decode key) := fun w inv => ⟨I.used key inv, h w inv⟩

theorem visit {url : Text} (address : I.isAddress url) :
    I.OnWeb m (fun _ => True) (Web.visit url) := by
  have got : I.OnWeb m (fun _ => True) (Web.get url) := fun _ inv => ⟨I.get inv address, trivial⟩
  refine got.bind fun reply _ => ?_
  cases reply <;> exact .pure trivial

theorem follow (start : Text) (hops : Nat) {url : Text} (address : I.isAddress url) :
    I.OnWeb m (fun _ => True) (Web.follow start hops url) := by
  induction hops generalizing url with
  | zero =>
    refine (I.visit address).bind fun hop _ => ?_
    cases hop <;> exact .pure trivial
  | succ hops ih =>
    refine (I.visit address).bind fun hop _ => ?_
    cases hop with
    | arrived body => exact .pure trivial
    | failed fault => exact .pure trivial
    | moved location => exact (I.withHttps _).bind fun _ target => ih target

theorem fetch (url : Text) : I.OnWeb m (fun _ => True) (Web.fetch url) :=
  (I.withHttps url).bind fun _ address => I.follow _ _ address

theorem downloadRegistry (c : Config) (package : Text) :
    I.OnWeb m (fun _ => True) (downloadRegistry c package) := by
  refine (I.fetch _).bind fun reply _ => ?_
  rcases reply with _ | bytes
  · exact .pure trivial
  · dsimp only
    cases RegistryInfo.ofBytes bytes <;> exact .pure trivial

theorem loadRegistry (c : Config) (package : Text) :
    I.OnWeb m (fun _ => True) (loadRegistry c package) := by
  have stored : I.OnWeb m (fun _ => True)
      (Web.stored? c.registryMaxAgeSecs (Json.optional? RegistryInfo.ofJson?)
        (registryKey package)) := I.stored? fun _ _ => trivial
  refine stored.bind fun found _ => ?_
  cases found with
  | some info => exact .pure trivial
  | none =>
    refine (I.downloadRegistry c package).bind fun info _ => ?_
    have kept : I.OnWeb m (fun _ => True)
        (Web.keep (registryKey package) (Json.optional RegistryInfo.toJson info)) :=
      fun _ inv => ⟨I.keepRegistry _ info inv, trivial⟩
    exact kept.bind fun _ _ => .pure trivial

theorem registryInfo? (c : Config) (package : Text) :
    I.Keeps (fun _ => True) (registryInfo? c package) := by
  rw [Lookup.registryInfo?]
  split
  · exact .pure trivial
  · exact .remember (fun _ _ _ _ _ => trivial) (fun _ _ _ inv _ => I.registry _ inv)
      (.lift fun _ => I.loadRegistry c _)

theorem firstInventory {home : Text} (address : I.isAddress home) {places : List Text}
    (usual : places ⊆ usualPlaces) :
    I.OnWeb m (fun _ => True) (firstInventory home places) := by
  induction places with
  | nil => exact .pure trivial
  | cons place more ih =>
    obtain ⟨here, others⟩ := List.cons_subset.mp usual
    have asked : I.OnWeb m (fun _ => True)
        (Web.head (urlBelow (asFolder (urlBelow home place)) inventoryName)) :=
      fun _ inv => ⟨I.head inv address here, trivial⟩
    refine asked.bind fun answer _ => ?_
    rcases answer with _ | status
    · exact ih others
    · dsimp only
      split
      · exact .pure trivial
      · exact ih others

theorem discoverRoot (c : Config) (package : Text) (version : Option Text) :
    I.Keeps (fun _ => True) (discoverRoot c package version) := by
  refine (I.registryInfo? c package).bind fun info _ => ?_
  cases info.bind RegistryInfo.bestUrl? with
  | none =>
    have unknown : I.Keeps (fun _ => True) (pure none : Lookup (Option Text)) := .pure trivial
    exact unknown.bind fun _ _ => .pure trivial
  | some url =>
    have upgraded : I.Keeps I.isAddress (liftM (Web.withHttps url)) := .lift fun _ => I.withHttps url
    refine upgraded.bind fun home address => ?_
    have searched : I.Keeps (fun _ => True) (liftM (Lookup.firstInventory home usualPlaces)) :=
      .lift fun _ => I.firstInventory address (List.Subset.refl _)
    exact searched.bind fun _ _ => .pure trivial

theorem docsRoot (c : Config) (r : InventoryRequest) :
    I.Keeps (fun _ => True) (docsRoot c r) := by
  rw [Lookup.docsRoot]
  split
  · exact .pure trivial
  · cases c.libraryOf? r.package with
    | some lib =>
      have upgraded : I.Keeps I.isAddress (liftM (Web.withHttps lib.docsUrl)) :=
        .lift fun _ => I.withHttps lib.docsUrl
      exact upgraded.bind fun _ _ => .pure trivial
    | none =>
      exact .remember (fun _ _ _ _ _ => trivial) (fun _ _ _ inv _ => I.roots _ inv)
        (I.discoverRoot c r.package r.version)

theorem fetchInventory (root url : Text) : I.OnWeb m I.isMap (fetchInventory root url) := by
  refine (I.fetch url).bind fun reply _ => ?_
  rcases reply with _ | bytes
  · exact .pure I.noMap
  · dsimp only
    cases read : Inventory.symbolMap bytes root with
    | error fault => exact .pure I.noMap
    | ok map => exact .pure (I.readMap read)

theorem downloadInventory (c : Config) (r : InventoryRequest) :
    I.Keeps I.isMap (downloadInventory c r) := by
  refine (I.docsRoot c r).bind fun root _ => ?_
  cases givenInventoryUrl? c r with
  | some url =>
    have upgraded : I.Keeps I.isAddress (liftM (Web.withHttps url)) := .lift fun _ => I.withHttps url
    exact upgraded.bind fun _ _ => .lift fun _ => I.fetchInventory root _
  | none => exact .lift fun _ => I.fetchInventory root _

theorem loadInventory (c : Config) (r : InventoryRequest) :
    I.Keeps I.isMap (loadInventory c r) := by
  have stored : I.Keeps (fun found => ∀ map, found = some map → I.isMap map)
      (liftM (Web.stored? c.inventoryMaxAgeSecs (Json.required? SymbolMap.ofJson?)
        (r.storeKey c))) :=
    .lift fun _ => I.stored? fun _ inv _ read => I.storedMap inv read
  refine stored.bind fun found isMap => ?_
  cases found with
  | some map => exact .pure (isMap map rfl)
  | none =>
    refine (I.downloadInventory c r).bind fun map isMap => ?_
    have kept : I.Keeps (fun _ => True) (liftM (Web.keep (r.storeKey c) map.toJson)) :=
      .lift fun _ _ inv => ⟨I.keepMap _ inv isMap, trivial⟩
    exact kept.bind fun _ _ => .pure isMap

theorem inventory (c : Config) (r : InventoryRequest) : I.Keeps I.isMap (inventory c r) :=
  .remember (fun _ _ _ inv known => I.rememberedMap inv known)
    (fun _ _ _ inv isMap => I.inventories _ inv isMap) (I.loadInventory c r)

theorem find? (c : Config) (key : SymbolKey) : I.Keeps (fun _ => True) (find? c key) :=
  (I.inventory c _).bind fun _ _ => .pure trivial

theorem loadPage (c : Config) (url : Text) : I.OnWeb m (fun _ => True) (loadPage c url) := by
  have stored : I.OnWeb m (fun _ => True)
      (Web.stored? c.pageMaxAgeSecs (Json.required? Json.text?) url) := I.stored? fun _ _ => trivial
  refine stored.bind fun found _ => ?_
  cases found with
  | some html => exact .pure trivial
  | none =>
    refine (I.fetch url).bind fun reply _ => ?_
    rcases reply with _ | bytes
    · exact .pure trivial
    · have kept : I.OnWeb m (fun _ => True) (Web.keep url (.string (Utf8.decodeLossy bytes))) :=
        fun _ inv => ⟨I.keepPage _ _ inv, trivial⟩
      exact kept.bind fun _ _ => .pure trivial

theorem page? (c : Config) (url : Text) : I.Keeps (fun _ => True) (page? c url) := by
  have upgraded : I.Keeps I.isAddress (liftM (Web.withHttps (withoutFragment url))) :=
    .lift fun _ => I.withHttps _
  refine upgraded.bind fun url _ => ?_
  split
  · exact .pure trivial
  · exact .remember (fun _ _ _ _ _ => trivial) (fun _ _ _ inv _ => I.pages _ inv)
      (.lift fun _ => I.loadPage c url)

theorem content? (c : Config) (url : Text) : I.Keeps (fun _ => True) (content? c url) := by
  refine (I.page? c url).bind fun html _ => ?_
  cases html with
  | none => exact .pure trivial
  | some html =>
    dsimp only
    cases fragmentOf? url <;> exact .pure trivial

theorem withPage (c : Config) (r : Record) : I.Keeps (fun _ => True) (withPage c r) := by
  rw [Lookup.withPage]
  split
  · exact .pure trivial
  · split
    · exact (I.content? c _).bind fun _ _ => .pure trivial
    · exact .pure trivial

theorem registryFor? (c : Config) (key : SymbolKey) :
    I.Keeps (fun _ => True) (registryFor? c key) := by
  rw [Lookup.registryFor?]
  split
  · exact .pure trivial
  · exact I.registryInfo? c key.package

theorem searchIndexes (c : Config) (key : SymbolKey) :
    I.Keeps (fun _ => True) (searchIndexes c key) := by
  refine (I.find? c key).bind fun hit _ => (I.registryFor? c key).bind fun info _ => ?_
  rcases hit with _ | record <;> rcases info with _ | info
  · exact .pure trivial
  · exact .pure trivial
  · exact I.withPage c record
  · exact (I.withPage c record).bind fun _ _ => .pure trivial

/-- A lookup keeps what its acts keep. -/
theorem resolve (resolver : Resolver) (key : SymbolKey) :
    I.Keeps (fun _ => True) (resolver.resolve key) := by
  rw [Resolver.resolve]
  split
  · exact .pure trivial
  · split
    · exact .pure trivial
    · cases referenceRecord? resolver.config key with
      | some record => exact .pure trivial
      | none => exact (I.searchIndexes _ _).bind fun _ _ => .pure trivial

end Invariant
end Lookup

/-- In the store there is only what the library writes. -/
def World.IsOwn (w : World) : Prop := w.store.IsOwn

/-- Inventories in memory and in the store were made from the items of files. -/
structure Lookup.IsOwn (m : Memory) (w : World) : Prop where
  remembered : ∀ pair ∈ m.inventories, pair.2.IsBuilt
  stored : w.IsOwn

theorem SymbolMap.isBuilt_nil : SymbolMap.IsBuilt [] := ⟨[], [], rfl⟩

theorem SymbolMap.isBuilt_symbolMap {file : Bytes} {base : Text} {map : SymbolMap}
    (h : Inventory.symbolMap file base = .ok map) : map.IsBuilt := by
  rw [Inventory.symbolMap] at h
  cases body : Inventory.body file with
  | error fault =>
    rw [body] at h
    cases h
  | ok text =>
    rw [body] at h
    cases h
    exact ⟨_, base, rfl⟩

/-- What a lookup leaves behind was made by the library, if that was so before. -/
def Lookup.Invariant.own : Invariant where
  holds := IsOwn
  failed _ := True
  isAddress _ := True
  isMap := SymbolMap.IsBuilt
  whole own _ := ⟨⟨own.remembered, own.stored⟩, trivial⟩
  cut _ _ := trivial
  get own _ := ⟨own.remembered, own.stored⟩
  head own _ _ := ⟨own.remembered, own.stored⟩
  used _ own := ⟨own.remembered, own.stored⟩
  keepMap {m w map} key own built := ⟨own.remembered, own.stored.write (.inventory built) w.now key⟩
  keepRegistry {m w} key info own := ⟨own.remembered, own.stored.write (.registry info) w.now key⟩
  keepPage {m w} key html own := ⟨own.remembered, own.stored.write (.page html) w.now key⟩
  noMap := SymbolMap.isBuilt_nil
  readMap := SymbolMap.isBuilt_symbolMap
  storedMap own read := own.stored.isBuilt read
  rememberedMap {m w key map} own known := by
    obtain ⟨before, after, split, -⟩ := List.lookup_eq_some_iff.mp known
    exact own.remembered (key, map) (by rw [split]; simp)
  inventories key own built := ⟨List.forall_mem_cons.mpr ⟨built, own.remembered⟩, own.stored⟩
  roots _ own := ⟨own.remembered, own.stored⟩
  registry _ own := ⟨own.remembered, own.stored⟩
  pages _ own := ⟨own.remembered, own.stored⟩

end SymbolDocs
