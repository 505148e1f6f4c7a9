import SymbolDocs.Lookup.Resolve
import SymbolDocs.Proofs.Lookup.Faithful

namespace SymbolDocs

variable {α β : Type}

theorem registryKey_ne_storeKey (c : Config) (r : InventoryRequest) (package : Text) :
    registryKey package ≠ r.storeKey c := by
  intro same
  have first := congrArg List.head? same
  rw [InventoryRequest.storeKey] at first
  split at first <;> exact absurd (Option.some.inj first) (by decide)

theorem registryKey_inj {package package' : Text} (h : registryKey package = registryKey package') :
    package = package' := List.append_cancel_left h

namespace Memory.Covers

variable {c : Config} {m : Memory} {data : Json}

theorem isData {key : Text} (h : m.Covers c key data) : Entry.IsData data := by
  cases h with
  | inventory r built known => exact .inventory built
  | registry info known => exact .registry info
  | page html known => exact .page html

/-- Under the key of an inventory that is not remembered there is at most a page. -/
theorem not_map {r : InventoryRequest} (new : m.inventories.lookup (r.storeKey c) = none)
    (h : m.Covers c (r.storeKey c) data) : SymbolMap.ofJson? data = none := by
  generalize eq : r.storeKey c = key at h
  cases h with
  | inventory r' built known => simp [← eq, new] at known
  | registry info known => exact absurd eq.symm (registryKey_ne_storeKey c r _)
  | page html known => rfl

theorem not_info {package : Text} (new : m.registry.lookup package = none)
    (h : m.Covers c (registryKey package) data) :
    Json.optional? RegistryInfo.ofJson? (some data) = none := by
  generalize eq : registryKey package = key at h
  cases h with
  | inventory r built known => exact absurd eq (registryKey_ne_storeKey c r package)
  | registry info known => simp [← registryKey_inj eq, new] at known
  | page html known => rfl

theorem not_text {url : Text} (new : m.pages.lookup url = none) (h : m.Covers c url data) :
    data.text? = none := by
  cases h with
  | inventory r built known => rfl
  | registry info known => cases info <;> rfl
  | page html known => simp [new] at known

/-- A memory that extends another one covers what that one covers. -/
theorem mono {m' : Memory} {key : Text} (h : m.Covers c key data)
    (inventories : ∀ key, (m.inventories.lookup key).isSome → (m'.inventories.lookup key).isSome)
    (registry : ∀ key, (m.registry.lookup key).isSome → (m'.registry.lookup key).isSome)
    (pages : ∀ key, (m.pages.lookup key).isSome → (m'.pages.lookup key).isSome) :
    m'.Covers c key data := by
  cases h with
  | inventory r built known => exact .inventory r built (inventories _ known)
  | registry info known => exact .registry info (registry _ known)
  | page html known => exact .page html (pages _ known)

end Memory.Covers

namespace Lookup

variable {c : Config} {client : Client}

namespace Faithful

variable {asked : InventoryRequest → Prop} {m : Memory} {w : World}

/-- What is not remembered is not found in the store. -/
theorem read?_eq_none {maxAgeSecs : Nat} {decode : Option Json → Option α} {key : Text}
    (h : Faithful c client asked m w)
    (other : ∀ data, m.Covers c key data → decode (some data) = none) :
    w.store.read? w.now maxAgeSecs decode key = none := by
  cases read : w.store.read? w.now maxAgeSecs decode key with
  | none => rfl
  | some value =>
    obtain ⟨text, got, -⟩ := Option.bind_eq_some_iff.mp read
    obtain ⟨data, written, rfl, covers⟩ := h.stored got
    have decoded := Store.decode_of_read? got covers.isData read
    rw [other data covers] at decoded
    cases decoded

/-- Storing what the memory covers. -/
theorem keep {key : Text} {data : Json} (h : Faithful c client asked m w)
    (covers : m.Covers c key data) : Faithful c client asked m (Web.keep key data w).2 where
  client_eq := h.client_eq
  pages := h.pages
  registry := h.registry
  roots := h.roots
  inventories := h.inventories
  stored got := by
    rcases Store.get?_of_get?_set got with ⟨rfl, rfl⟩ | old
    · exact ⟨data, w.now, rfl, covers⟩
    · exact h.stored old

theorem isSome_lookup_cons {table : List (Text × α)} {key other : Text} {a : α}
    (h : (table.lookup other).isSome) : (((key, a) :: table).lookup other).isSome := by
  rw [List.lookup_cons]
  split
  · rfl
  · exact h

theorem eq_or_of_lookup_cons {table : List (Text × α)} {key other : Text} {a b : α}
    (h : ((key, a) :: table).lookup other = some b) :
    other = key ∧ a = b ∨ table.lookup other = some b := by
  rw [List.lookup_cons] at h
  split at h
  · next same => exact .inl ⟨eq_of_beq same, Option.some.inj h⟩
  · exact .inr h

theorem addPage {url : Text} {html : Option Text} (h : Faithful c client asked m w)
    (right : ((Web.fetch url).outcome client).map pageOf? = some html) :
    Faithful c client asked { m with pages := (url, html) :: m.pages } w where
  client_eq := h.client_eq
  pages known := by
    rcases eq_or_of_lookup_cons known with ⟨rfl, rfl⟩ | old
    · exact right
    · exact h.pages old
  registry := h.registry
  roots := h.roots
  inventories := h.inventories
  stored got := by
    obtain ⟨data, now, eq, covers⟩ := h.stored got
    exact ⟨data, now, eq, covers.mono (fun _ => id) (fun _ => id) fun _ => isSome_lookup_cons⟩

theorem addRegistry {package : Text} {info : Option RegistryInfo}
    (h : Faithful c client asked m w)
    (right : (downloadRegistry c package).outcome client = some info) :
    Faithful c client asked { m with registry := (package, info) :: m.registry } w where
  client_eq := h.client_eq
  pages := h.pages
  registry known := by
    rcases eq_or_of_lookup_cons known with ⟨rfl, rfl⟩ | old
    · exact right
    · exact h.registry old
  roots := h.roots
  inventories := h.inventories
  stored got := by
    obtain ⟨data, now, eq, covers⟩ := h.stored got
    exact ⟨data, now, eq, covers.mono (fun _ => id) (fun _ => isSome_lookup_cons) fun _ => id⟩

theorem addRoot {r : InventoryRequest} {root : Text} (h : Faithful c client asked m w)
    (mem : asked r) (outside : r.isStdlib = false)
    (right : fresh client (docsRoot c r) = some root) :
    Faithful c client asked { m with roots := (r.package, root) :: m.roots } w where
  client_eq := h.client_eq
  pages := h.pages
  registry := h.registry
  roots known := by
    rcases eq_or_of_lookup_cons known with ⟨rfl, rfl⟩ | old
    · exact ⟨r, mem, outside, rfl, right⟩
    · exact h.roots old
  inventories := h.inventories
  stored got := by
    obtain ⟨data, now, eq, covers⟩ := h.stored got
    exact ⟨data, now, eq, covers.mono (fun _ => id) (fun _ => id) fun _ => id⟩

theorem addInventory {key : Text} {map : SymbolMap} (h : Faithful c client asked m w)
    (right : Found c client asked key (some map)) :
    Faithful c client asked { m with inventories := (key, map) :: m.inventories } w where
  client_eq := h.client_eq
  pages := h.pages
  registry := h.registry
  roots := h.roots
  inventories known := by
    rcases eq_or_of_lookup_cons known with ⟨rfl, rfl⟩ | old
    · exact right
    · exact h.inventories old
  stored got := by
    obtain ⟨data, now, eq, covers⟩ := h.stored got
    exact ⟨data, now, eq, covers.mono (fun _ => isSome_lookup_cons) (fun _ => id) fun _ => id⟩

end Faithful

/-- Whatever faithful state a lookup begins in, it has the outcome of a fresh one. -/
def Settled (c : Config) (client : Client) (x : Lookup α) : Prop :=
  ∀ asked, Ends (Faithful c client asked) (· = fresh client x) x

namespace Settled

theorem of_ends {x : Lookup α} (outcome : Option α)
    (h : ∀ asked, Ends (Faithful c client asked) (· = outcome) x) : Settled c client x := by
  have begins : Faithful c client (fun _ => False) {} { client } := .start _ rfl rfl
  have eq : fresh client x = outcome := (h fun _ => False).outcome begins
  intro asked
  rw [eq]
  exact h asked

theorem pure (a : α) : Settled c client (pure a : Lookup α) :=
  of_ends (some a) fun _ => Yields.pure rfl

theorem bind_ends {x : Lookup α} {f : α → Lookup β} (hx : Settled c client x)
    (hf : ∀ a, Settled c client (f a)) (asked : InventoryRequest → Prop) :
    Ends (Faithful c client asked) (· = (fresh client x).bind fun a => fresh client (f a))
      (x >>= f) := by
  refine (hx asked).bind (fun a found => ?_) fun broken => ?_
  · rw [← found]
    exact hf a asked
  · rw [← broken]
    rfl

theorem bind {x : Lookup α} {f : α → Lookup β} (hx : Settled c client x)
    (hf : ∀ a, Settled c client (f a)) : Settled c client (x >>= f) :=
  of_ends _ (hx.bind_ends hf)

theorem fresh_bind {x : Lookup α} {f : α → Lookup β} (hx : Settled c client x)
    (hf : ∀ a, Settled c client (f a)) :
    fresh client (x >>= f) = (fresh client x).bind fun a => fresh client (f a) :=
  (hx.bind_ends hf fun _ => False).outcome (.start _ rfl rfl)

end Settled

/-- Work on the web that has one outcome changes nothing that the invariant speaks of. -/
theorem Faithful.triple (c : Config) (asked : InventoryRequest → Prop) (m : Memory) {x : Web α}
    (h : Web.Settled client x) : Web.Triple (Faithful c client asked m) x
      (fun a w => Faithful c client asked m w ∧ x.outcome client = some a)
      (fun _ => x.outcome client = none) := by
  intro w inv
  have found := h.outcome_eq inv.client_eq
  obtain ⟨_, settled⟩ := h
  obtain ⟨-, same, store⟩ := settled w inv.client_eq
  rcases run : x w with ⟨_ | a, w'⟩
  · rw [run] at found
    exact found.symm
  · rw [run] at found same store
    exact ⟨inv.elsewhere (same.trans inv.client_eq.symm) store, found.symm⟩

theorem Settled.lift {x : Web α} (h : Web.Settled client x) :
    Settled c client (liftM x : Lookup α) := by
  refine of_ends (x.outcome client) fun asked m => ?_
  have run := (Faithful.triple c asked m h).weaken (fun a w here => here) fun _ => Eq.symm
  refine Web.Triple.bind run ?_
  exact fun a => Web.Triple.pure fun _ here => ⟨here.1, here.2.symm⟩

variable (fixed : client.IsFixed)

include fixed

/-- What the registry answers comes to the memory and to the store. -/
theorem triple_loadRegistry (c : Config) (asked : InventoryRequest → Prop) {m : Memory}
    {package : Text} (new : m.registry.lookup package = none) :
    Web.Triple (Faithful c client asked m) (loadRegistry c package)
      (fun info w =>
        Faithful c client asked { m with registry := (package, info) :: m.registry } w ∧
          (downloadRegistry c package).outcome client = some info)
      (fun _ => (downloadRegistry c package).outcome client = none) := by
  have miss : Web.Triple (Faithful c client asked m)
      (Web.stored? c.registryMaxAgeSecs (Json.optional? RegistryInfo.ofJson?)
        (registryKey package))
      (fun found w => Faithful c client asked m w ∧ found = none)
      (fun _ => (downloadRegistry c package).outcome client = none) :=
    fun w inv => ⟨inv.elsewhere rfl rfl, inv.read?_eq_none fun _ => Memory.Covers.not_info new⟩
  refine Web.Triple.bind miss fun found => ?_
  cases found with
  | some info => exact fun w here => nomatch here.2
  | none =>
    have loaded := Faithful.triple c asked m
      (Web.Settled.downloadRegistry fixed c package)
    refine Web.Triple.bind (fun w here => loaded w here.1) fun info => ?_
    rintro w ⟨inv, right⟩
    refine ⟨(inv.addRegistry right).keep (.registry info ?_), right⟩
    rw [List.lookup_cons_self]
    rfl

theorem registryInfo?_settled (c : Config) (package : Text) :
    Settled c client (registryInfo? c package) := by
  rw [registryInfo?]
  split
  · exact .pure none
  · refine .of_ends
      ((downloadRegistry c (Text.asciiLower (Text.trim package))).outcome client) fun asked => ?_
    refine .remember (fun m w info inv known => (inv.registry known).symm) fun m new => ?_
    have loaded := triple_loadRegistry fixed c asked new
    refine Web.Triple.bind (loaded.weaken (fun _ _ here => here) fun _ => Eq.symm) fun info => ?_
    exact Web.Triple.pure fun w here => ⟨here.1, here.2.symm⟩

/-- A page comes to the memory, and to the store unless it is missing. -/
theorem triple_loadPage (c : Config) (asked : InventoryRequest → Prop) {m : Memory} {url : Text}
    (new : m.pages.lookup url = none) :
    Web.Triple (Faithful c client asked m) (loadPage c url)
      (fun html w => Faithful c client asked { m with pages := (url, html) :: m.pages } w ∧
        ((Web.fetch url).outcome client).map pageOf? = some html)
      (fun _ => ((Web.fetch url).outcome client).map pageOf? = none) := by
  have miss : Web.Triple (Faithful c client asked m)
      (Web.stored? c.pageMaxAgeSecs (Json.required? Json.text?) url)
      (fun found w => Faithful c client asked m w ∧ found = none)
      (fun _ => ((Web.fetch url).outcome client).map pageOf? = none) :=
    fun w inv => ⟨inv.elsewhere rfl rfl, inv.read?_eq_none fun _ => Memory.Covers.not_text new⟩
  refine Web.Triple.bind miss fun found => ?_
  cases found with
  | some html => exact fun w here => nomatch here.2
  | none =>
    have loaded := Faithful.triple c asked m
      (Web.Settled.fetch fixed url)
    refine Web.Triple.bind (Web.Triple.weaken (fun w here => loaded w here.1)
      (fun reply w here => here) fun _ none => Option.map_eq_none_iff.mpr none) fun reply => ?_
    cases reply with
    | error fault =>
      rintro w ⟨inv, right⟩
      have right' : ((Web.fetch url).outcome client).map pageOf? = some none := by
        rw [right]
        rfl
      exact ⟨inv.addPage right', right'⟩
    | ok bytes =>
      rintro w ⟨inv, right⟩
      have right' : ((Web.fetch url).outcome client).map pageOf? =
          some (some (Utf8.decodeLossy bytes)) := by
        rw [right]
        rfl
      refine ⟨(inv.addPage right').keep (.page _ ?_), right'⟩
      rw [List.lookup_cons_self]
      rfl

theorem page?_settled (c : Config) (url : Text) : Settled c client (page? c url) := by
  refine .bind (.lift (.withHttps (withoutFragment url))) fun url => ?_
  split
  · exact .pure none
  · refine .of_ends (((Web.fetch url).outcome client).map pageOf?) fun asked => ?_
    refine .remember (fun m w html inv known => (inv.pages known).symm) fun m new => ?_
    have loaded := triple_loadPage fixed c asked new
    refine Web.Triple.bind (loaded.weaken (fun _ _ here => here) fun _ => Eq.symm) fun html => ?_
    exact Web.Triple.pure fun w here => ⟨here.1, here.2.symm⟩

theorem withPage_settled (c : Config) (r : Record) : Settled c client (withPage c r) := by
  have content (url : Text) : Settled c client (content? c url) := by
    refine .bind (page?_settled fixed c url) fun html => ?_
    cases html with
    | none => exact .pure none
    | some html =>
      dsimp only
      cases fragmentOf? url with
      | none => exact .pure _
      | some anchor => exact .pure _
  rw [withPage]
  split
  · exact .pure r
  · next url _ =>
    split
    · exact .bind (content url) fun _ => .pure _
    · exact .pure r

theorem registryFor?_settled (c : Config) (key : SymbolKey) :
    Settled c client (registryFor? c key) := by
  rw [registryFor?]
  split
  · exact .pure none
  · exact registryInfo?_settled fixed c key.package

omit fixed in
theorem fresh_remember {table : Memory → List (Text × α)}
    {extend : (Text × α) → Memory → Memory} {key : Text} {load : Lookup α}
    (empty : table {} = []) :
    fresh client (remember table extend key load) = fresh client load := by
  have new : (table {}).lookup key = none := by rw [empty]; rfl
  rw [fresh, fresh, remember_of_none new]
  rcases run : load {} { client } with ⟨_ | ⟨a, m⟩, w⟩
  · rw [Web.bind_of_none run]
  · rw [Web.bind_of_some run]
    rfl

/-- The root that is found below the home page which the registry knows. -/
def homeRoot? (c : Config) (package : Text) : Lookup (Option Text) := do
  match (← registryInfo? c package).bind RegistryInfo.bestUrl? with
  | some url => do firstInventory (← Web.withHttps url) usualPlaces
  | none => pure none

theorem homeRoot?_settled (c : Config) (package : Text) :
    Settled c client (homeRoot? c package) := by
  refine .bind (registryInfo?_settled fixed c package) fun info => ?_
  cases info.bind RegistryInfo.bestUrl? with
  | none => exact .pure none
  | some url =>
    exact .bind (.lift (.withHttps url)) fun home =>
      .lift (.firstInventory fixed home usualPlaces)

omit fixed in
theorem discoverRoot_eq (c : Config) (package : Text) (version : Option Text) :
    discoverRoot c package version =
      homeRoot? c package >>= fun found =>
        pure (found.getD (conventionalUrl package version)) := by
  rw [discoverRoot, homeRoot?, bind_assoc]
  refine congrArg (registryInfo? c package >>= ·) (funext fun info => ?_)
  cases info.bind RegistryInfo.bestUrl? with
  | none => rfl
  | some url => rw [bind_assoc]

theorem discoverRoot_settled (c : Config) (package : Text) (version : Option Text) :
    Settled c client (discoverRoot c package version) := by
  rw [discoverRoot_eq]
  exact .bind (homeRoot?_settled fixed c package) fun _ => .pure _

omit fixed in
/-- Where no configuration gives the root, it is discovered once for a package. -/
theorem docsRoot_eq {r : InventoryRequest} (outside : r.isStdlib = false)
    (free : c.libraryOf? r.package = none) : docsRoot c r = remember (·.roots)
      (fun pair m => { m with roots := pair :: m.roots }) r.package
      (discoverRoot c r.package r.version) := by
  rw [docsRoot, outside, free]
  rfl

/-- The root of documentation is that of some request which was made about it. -/
theorem ends_docsRoot {asked : InventoryRequest → Prop} {r : InventoryRequest} (mem : asked r) :
    Ends (Faithful c client asked)
      (fun root => ∃ r', asked r' ∧ r.SharesDocs r' ∧ root = fresh client (docsRoot c r'))
      (docsRoot c r) := by
  have own (h : Settled c client (docsRoot c r)) : Ends (Faithful c client asked)
      (fun root => ∃ r', asked r' ∧ r.SharesDocs r' ∧ root = fresh client (docsRoot c r'))
      (docsRoot c r) := (h asked).imp fun root eq => ⟨r, mem, .refl r, eq⟩
  cases outside : r.isStdlib with
  | true =>
    apply own
    rw [docsRoot, outside]
    exact .pure _
  | false =>
    cases given : c.libraryOf? r.package with
    | some lib =>
      apply own
      rw [docsRoot, outside, given]
      exact .bind (.lift (.withHttps lib.docsUrl)) fun _ => .pure _
    | none =>
      have first : fresh client (docsRoot c r) =
          fresh client (discoverRoot c r.package r.version) := by
        rw [docsRoot_eq outside given]
        exact fresh_remember rfl
      rw [docsRoot_eq outside given]
      refine .remember (fun m w root inv known => ?_) fun m _ => ?_
      · obtain ⟨r', mem', outside', package, right⟩ := inv.roots known
        exact ⟨r', mem', ⟨outside.trans outside'.symm, fun _ => package.symm⟩, right.symm⟩
      · have discovered := discoverRoot_settled fixed c r.package r.version asked m
        refine Web.Triple.weaken discovered ?_ fun w broken => ?_
        · rintro ⟨root, m'⟩ w ⟨inv, found⟩
          have right : fresh client (docsRoot c r) = some root := first.trans found.symm
          exact ⟨inv.addRoot mem outside right, r, mem, .refl r, right.symm⟩
        · exact ⟨r, mem, .refl r, broken.trans first.symm⟩

omit fixed in
theorem downloadInventory_eq (c : Config) (r : InventoryRequest) :
    downloadInventory c r = docsRoot c r >>= inventoryBelow c r := rfl

theorem inventoryBelow_settled (c : Config) (r : InventoryRequest) (root : Text) :
    Settled c client (inventoryBelow c r root) := by
  rw [inventoryBelow]
  cases givenInventoryUrl? c r with
  | none => exact .lift (.fetchInventory fixed root _)
  | some url =>
    exact .bind (.lift (.withHttps url)) fun _ => .lift (.fetchInventory fixed root _)

theorem ends_downloadInventory {asked : InventoryRequest → Prop} {r : InventoryRequest}
    (mem : asked r) :
    Ends (Faithful c client asked) (Found c client asked (r.storeKey c)) (downloadInventory c r) := by
  rw [downloadInventory_eq]
  refine (ends_docsRoot fixed mem).bind (fun root found => ?_) fun broken => ?_
  · obtain ⟨r', mem', shared, right⟩ := found
    refine (inventoryBelow_settled fixed c r root asked).imp fun found eq => ?_
    refine ⟨r, r', mem, mem', rfl, shared, ?_⟩
    rw [← right]
    exact eq
  · obtain ⟨r', mem', shared, broken⟩ := broken
    refine ⟨r, r', mem, mem', rfl, shared, ?_⟩
    rw [← broken]
    rfl

/-- An inventory comes to the memory and to the store under the same key. -/
theorem ends_inventory {asked : InventoryRequest → Prop} {r : InventoryRequest} (mem : asked r) :
    Ends (Faithful c client asked) (Found c client asked (r.storeKey c)) (inventory c r) := by
  refine .remember (fun m w map inv known => inv.inventories known) fun m new => ?_
  have miss : Web.Triple (Faithful c client asked m)
      ((liftM (Web.stored? c.inventoryMaxAgeSecs (Json.required? SymbolMap.ofJson?)
        (r.storeKey c)) : Lookup _) m)
      (fun result w => Faithful c client asked m w ∧ result.1 = none ∧ result.2 = m)
      (fun _ => Found c client asked (r.storeKey c) none) := by
    intro w inv
    have miss : w.store.read? w.now c.inventoryMaxAgeSecs (Json.required? SymbolMap.ofJson?)
        (r.storeKey c) = none := inv.read?_eq_none fun _ => Memory.Covers.not_map new
    exact ⟨inv.elsewhere rfl rfl, miss, rfl⟩
  refine triple_bind miss fun found m' => ?_
  rintro w ⟨inv, rfl, rfl⟩
  refine triple_bind (ends_downloadInventory fixed mem m') (fun map m' => ?_) w inv
  rintro w ⟨inv, right⟩
  refine ⟨(inv.addInventory right).keep (.inventory r right.isBuilt ?_), right⟩
  rw [List.lookup_cons_self]
  rfl

/-- What follows once the inventory has been searched. -/
def answerWith (c : Config) (key : SymbolKey) (hit : Option Record) : Lookup Record := do
  let info ← registryFor? c key
  match hit, info with
  | some record, some info => return (← withPage c record).withRegistry info
  | some record, none => withPage c record
  | none, some info => return Record.ofRegistry key info
  | none, none => return Record.searchOnly c key

theorem answerWith_settled (c : Config) (key : SymbolKey) (hit : Option Record) :
    Settled c client (answerWith c key hit) := by
  refine .bind (registryFor?_settled fixed c key) fun info => ?_
  rcases hit with _ | record <;> rcases info with _ | info
  · exact .pure _
  · exact .pure _
  · exact withPage_settled fixed c record
  · exact .bind (withPage_settled fixed c record) fun _ => .pure _

omit fixed in
theorem searchIndexes_eq (c : Config) (key : SymbolKey) : searchIndexes c key =
    inventory c (.ofKey key) >>= fun map => answerWith c key (map.lookup? key) := by
  rw [searchIndexes, find?, bind_assoc]
  rfl

end Lookup
end SymbolDocs
