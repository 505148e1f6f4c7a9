import SymbolDocs.Proofs.Lookup.Invariant
import SymbolDocs.Proofs.Web.Settled

namespace SymbolDocs

variable {α β : Type}

namespace InventoryRequest

/-- Both ask for the standard library, or both ask for one package. -/
def SharesDocs (r r' : InventoryRequest) : Prop :=
  r.isStdlib = r'.isStdlib ∧ (r.isStdlib = false → r.package = r'.package)

theorem SharesDocs.refl (r : InventoryRequest) : r.SharesDocs r := ⟨rfl, fun _ => rfl⟩

theorem SharesDocs.symm {r r' : InventoryRequest} (h : r.SharesDocs r') : r'.SharesDocs r :=
  ⟨h.1.symm, fun outside => (h.2 (h.1.trans outside)).symm⟩

theorem SharesDocs.trans {r r' r'' : InventoryRequest} (h : r.SharesDocs r')
    (h' : r'.SharesDocs r'') : r.SharesDocs r'' :=
  ⟨h.1.trans h'.1, fun outside => (h.2 outside).trans (h'.2 (h.1.symm.trans outside))⟩

end InventoryRequest

/-- Data that a store may hold under a key: their value is in the memory as well. -/
inductive Memory.Covers (c : Config) (m : Memory) : Text → Json → Prop
  | inventory {map : SymbolMap} (r : InventoryRequest) : map.IsBuilt →
      (m.inventories.lookup (r.storeKey c)).isSome → Covers c m (r.storeKey c) map.toJson
  | registry {package : Text} (info : Option RegistryInfo) : (m.registry.lookup package).isSome →
      Covers c m (registryKey package) (Json.optional RegistryInfo.toJson info)
  | page {url : Text} (html : Text) : (m.pages.lookup url).isSome → Covers c m url (.string html)

namespace Lookup

/-- The outcome of a lookup that nothing has gone before. -/
def fresh (client : Client) (x : Lookup α) : Option α := (x {} { client }).1.map (·.1)

/-- The source of a page, by what its download gave. -/
def pageOf? : Except Fault Bytes → Option Text
  | .ok bytes => some (Utf8.decodeLossy bytes)
  | .error _ => none

/-- The inventory of documentation with a given root. -/
def inventoryBelow (c : Config) (r : InventoryRequest) (root : Text) : Lookup SymbolMap := do
  match givenInventoryUrl? c r with
  | some url => fetchInventory root (← Web.withHttps url)
  | none => fetchInventory root (urlBelow root inventoryName)

/-- What may be found under a key of the store: the inventory that one of some requests asks for,
below the root that another one about the same documentation leads to. -/
def Found (c : Config) (client : Client) (asked : InventoryRequest → Prop) (key : Text)
    (found : Option SymbolMap) : Prop :=
  ∃ r r', asked r ∧ asked r' ∧ r.storeKey c = key ∧ r.SharesDocs r' ∧
    found = (fresh client (docsRoot c r')).bind fun root => fresh client (inventoryBelow c r root)

/-- What is remembered is what the client answers, as far as it was asked for, and the store holds
nothing else. -/
structure Faithful (c : Config) (client : Client) (asked : InventoryRequest → Prop) (m : Memory)
    (w : World) : Prop where
  client_eq : w.client = client
  pages {url : Text} {html : Option Text} : m.pages.lookup url = some html →
    ((Web.fetch url).outcome client).map pageOf? = some html
  registry {package : Text} {info : Option RegistryInfo} : m.registry.lookup package = some info →
    (downloadRegistry c package).outcome client = some info
  roots {package root : Text} : m.roots.lookup package = some root →
    ∃ r, asked r ∧ r.isStdlib = false ∧ r.package = package ∧
      fresh client (docsRoot c r) = some root
  inventories {key : Text} {map : SymbolMap} : m.inventories.lookup key = some map →
    Found c client asked key (some map)
  stored {key text : Text} : w.store.get? key = some text →
    ∃ data now, text = (Entry.toJson data now).write ∧ m.Covers c key data

variable {c : Config} {client : Client} {asked asked' : InventoryRequest → Prop}

theorem Found.imp {key : Text} {found : Option SymbolMap} (h : Found c client asked key found)
    (wider : ∀ r, asked r → asked' r) : Found c client asked' key found := by
  obtain ⟨r, r', mem, mem', rest⟩ := h
  exact ⟨r, r', wider r mem, wider r' mem', rest⟩

theorem Found.isBuilt {key : Text} {map : SymbolMap} (h : Found c client asked key (some map)) :
    map.IsBuilt := by
  obtain ⟨r, r', -, -, -, -, eq⟩ := h
  obtain ⟨root, -, found⟩ := Option.bind_eq_some_iff.mp eq.symm
  obtain ⟨⟨map', m⟩, ends, rfl⟩ := Option.map_eq_some_iff.mp found
  have built : Invariant.own.Keeps SymbolMap.IsBuilt (inventoryBelow c r root) := by
    rw [inventoryBelow]
    cases givenInventoryUrl? c r with
    | none => exact .lift fun _ => Invariant.own.fetchInventory root _
    | some url =>
      have upgraded : Invariant.own.Keeps (fun _ => True) (liftM (Web.withHttps url)) :=
        .lift fun _ => Invariant.own.withHttps url
      exact upgraded.bind fun _ _ => .lift fun _ => Invariant.own.fetchInventory root _
  have own : IsOwn {} { client } := ⟨List.forall_mem_nil _, List.forall_mem_nil _⟩
  exact (built.value own (Prod.ext ends rfl)).2

namespace Faithful

variable {m : Memory} {w : World}

/-- Before the first lookup there is nothing that could be wrong. -/
theorem start (asked : InventoryRequest → Prop) (same : w.client = client)
    (empty : w.store.values = []) : Faithful c client asked {} w where
  client_eq := same
  pages known := nomatch known
  registry known := nomatch known
  roots known := nomatch known
  inventories known := nomatch known
  stored got := by
    have mem := Store.mem_values_of_get? got
    rw [empty] at mem
    cases mem

theorem imp (h : Faithful c client asked m w) (wider : ∀ r, asked r → asked' r) :
    Faithful c client asked' m w where
  client_eq := h.client_eq
  pages := h.pages
  registry := h.registry
  roots known := by
    obtain ⟨r, mem, rest⟩ := h.roots known
    exact ⟨r, wider r mem, rest⟩
  inventories known := (h.inventories known).imp wider
  stored := h.stored

/-- The invariant says nothing of the world but what client and store it has. -/
theorem elsewhere {w' : World} (h : Faithful c client asked m w) (same : w'.client = w.client)
    (store : w'.store = w.store) : Faithful c client asked m w' where
  client_eq := same.trans h.client_eq
  pages := h.pages
  registry := h.registry
  roots := h.roots
  inventories := h.inventories
  stored := by rw [store]; exact h.stored

end Faithful

/-- A lookup keeps the invariant, and its outcome is as stated. -/
abbrev Ends (I : Memory → World → Prop) (post : Option α → Prop) (x : Lookup α) : Prop :=
  Yields I (fun _ => post none) (fun a => post (some a)) x

namespace Ends

variable {I : Memory → World → Prop} {post : Option α → Prop} {next : Option β → Prop}

theorem outcome {x : Lookup α} (h : Ends I post x) {m : Memory} {w : World} (inv : I m w) :
    post ((x m w).1.map (·.1)) := by
  have ends := h m w inv
  rcases run : x m w with ⟨_ | ⟨a, m'⟩, w'⟩
  · rw [run] at ends
    exact ends
  · rw [run] at ends
    exact ends.2

theorem imp {post' : Option α → Prop} {x : Lookup α} (h : Ends I post x)
    (weaker : ∀ o, post o → post' o) : Ends I post' x := fun m =>
  Web.Triple.weaken (h m) (fun (a, _) _ here => ⟨here.1, weaker (some a) here.2⟩)
    fun _ => weaker none

theorem bind {x : Lookup α} {f : α → Lookup β} (hx : Ends I post x)
    (hf : ∀ a, post (some a) → Ends I next (f a)) (broken : post none → next none) :
    Ends I next (x >>= f) := fun m =>
  Web.Triple.bind (Web.Triple.weaken (hx m) (fun _ _ here => here) fun _ => broken)
    fun (a, m') w here => hf a here.2 m' w here.1

/-- A new value may be in the store before it is in the memory, but not after. -/
theorem remember {table : Memory → List (Text × α)} {extend : (Text × α) → Memory → Memory}
    {key : Text} {load : Lookup α}
    (found : ∀ m w a, I m w → (table m).lookup key = some a → post (some a))
    (loaded : ∀ m, (table m).lookup key = none → Web.Triple (I m) (load m)
      (fun result w => I (extend (key, result.1) result.2) w ∧ post (some result.1))
      (fun _ => post none)) :
    Ends I post (remember table extend key load) := by
  intro m
  cases known : (table m).lookup key with
  | some a =>
    rw [remember_of_some known]
    exact Web.Triple.pure fun w inv => ⟨inv, found m w a inv known⟩
  | none =>
    rw [remember_of_none known]
    exact Web.Triple.bind (loaded m known) fun result => Web.Triple.pure fun _ here => here

end Ends

end Lookup
end SymbolDocs
