import SymbolDocs.Proofs.Lookup.Outcome

namespace SymbolDocs

namespace Lookup

variable {c : Config} {client : Client} {asked : InventoryRequest → Prop} {r k : InventoryRequest}

/-- Only the package and the version say where the documentation has its root: it is none that a
configuration knows, and no inventory is found below a home page. -/
def IsConventional (c : Config) (client : Client) (r : InventoryRequest) : Prop :=
  r.isStdlib = false ∧ c.libraryOf? r.package = none ∧
    fresh client (homeRoot? c r.package) = some none

/-- Nothing that is remembered from the first request is wrong for the second one. They have one
place in the store only if they are about the same documentation, and if its root depends on the
version they are about the same version. -/
structure Agrees (c : Config) (client : Client) (r k : InventoryRequest) : Prop where
  shared : r.storeKey c = k.storeKey c → r.SharesDocs k
  version : r.SharesDocs k → IsConventional c client k →
    r.version.getD "latest" = k.version.getD "latest"

theorem Agrees.refl (c : Config) (client : Client) (r : InventoryRequest) : Agrees c client r r :=
  ⟨fun _ => .refl r, fun _ _ => rfl⟩

theorem fresh_docsRoot (fixed : client.IsFixed) (outside : r.isStdlib = false)
    (free : c.libraryOf? r.package = none) :
    fresh client (docsRoot c r) = (fresh client (homeRoot? c r.package)).map fun found =>
      found.getD (conventionalUrl r.package r.version) := by
  rw [docsRoot_eq outside free, fresh_remember rfl, discoverRoot_eq,
    (homeRoot?_settled fixed c r.package).fresh_bind fun _ => .pure _]
  cases fresh client (homeRoot? c r.package) <;> rfl

theorem conventionalUrl_congr (package : Text) {version version' : Option Text}
    (h : version.getD "latest" = version'.getD "latest") :
    conventionalUrl package version = conventionalUrl package version' := by
  unfold conventionalUrl
  rw [h]

/-- Requests that agree have one root, whichever of them is made first. -/
theorem Agrees.docsRoot_eq (fixed : client.IsFixed) (agree : Agrees c client r k)
    (shared : r.SharesDocs k) : fresh client (docsRoot c r) = fresh client (docsRoot c k) := by
  have version := agree.version shared
  obtain ⟨sides, packages⟩ := shared
  cases outside : k.isStdlib with
  | true => rw [docsRoot, docsRoot, sides, outside, if_pos rfl, if_pos rfl]
  | false =>
    have outside' := sides.trans outside
    have package := packages outside'
    cases given : c.libraryOf? k.package with
    | some lib => rw [docsRoot, docsRoot, outside, outside', package, given]
    | none =>
      rw [fresh_docsRoot fixed outside given, fresh_docsRoot fixed outside' (package ▸ given),
        package]
      cases home : fresh client (homeRoot? c k.package) with
      | none => rw [Option.map_none, Option.map_none]
      | some found =>
        cases found with
        | some root => simp only [Option.map_some, Option.getD_some]
        | none =>
          have conventional : IsConventional c client k := ⟨outside, given, home⟩
          have url := conventionalUrl_congr k.package (version conventional)
          simp only [Option.map_some, Option.getD_none, url]

/-- What agreeing requests leave in the memory is what the last one would find by itself. -/
theorem Found.eq_fresh (fixed : client.IsFixed) (agree : ∀ r, asked r → Agrees c client r k)
    {found : Option SymbolMap} (h : Found c client asked (k.storeKey c) found) :
    found = (fresh client (docsRoot c k)).bind fun root => fresh client (inventoryBelow c k root) := by
  obtain ⟨r, r', mem, mem', place, same, rfl⟩ := h
  have shared : r.SharesDocs k := (agree r mem).shared place
  have shared' : r'.SharesDocs k := same.symm.trans shared
  have given : givenInventoryUrl? c r = givenInventoryUrl? c k := by
    rw [givenInventoryUrl?, givenInventoryUrl?, shared.1]
    cases outside : k.isStdlib with
    | true => rfl
    | false => rw [shared.2 (shared.1.trans outside)]
  rw [(agree r' mem').docsRoot_eq fixed shared']
  simp only [inventoryBelow, given]

theorem exists_found (mem : asked r) : ∃ found, Found c client asked (r.storeKey c) found :=
  ⟨_, r, r, mem, mem, rfl, .refl r, rfl⟩

end Lookup

namespace Resolver

open Lookup

variable {resolver : Resolver} {client : Client}

/-- The answer for a key depends on nothing but the inventory that is found for it. -/
theorem exists_answer (fixed : client.IsFixed) (resolver : Resolver) (key : SymbolKey) :
    ∃ answer : Option SymbolMap → Option Record, ∀ asked, asked (.ofKey key) →
      Ends (Faithful resolver.config client asked)
        (fun outcome => ∃ found, Found resolver.config client asked
          ((InventoryRequest.ofKey key).storeKey resolver.config) found ∧ outcome = answer found)
        (resolver.resolve key) := by
  have settled {record : Record} : ∃ answer : Option SymbolMap → Option Record, ∀ asked,
      asked (.ofKey key) → Ends (Faithful resolver.config client asked)
        (fun outcome => ∃ found, Found resolver.config client asked
          ((InventoryRequest.ofKey key).storeKey resolver.config) found ∧ outcome = answer found)
        (pure record) := by
    refine ⟨fun _ => some record, fun asked mem => Yields.pure ?_⟩
    obtain ⟨found, h⟩ := exists_found mem
    exact ⟨found, h, rfl⟩
  rw [resolve]
  split
  · exact settled
  · split
    · exact settled
    · cases referenceRecord? resolver.config key with
      | some record => exact settled
      | none =>
        let c := resolver.config
        refine ⟨fun found => (found.bind fun map =>
          fresh client (answerWith c key (map.lookup? key))).map (resolver.finish key),
          fun asked mem => ?_⟩
        have searched : Ends (Faithful c client asked)
            (fun outcome => ∃ found, Found c client asked ((InventoryRequest.ofKey key).storeKey c)
              found ∧ outcome = found.bind fun map =>
                fresh client (answerWith c key (map.lookup? key)))
            (searchIndexes c key) := by
          rw [searchIndexes_eq]
          refine (ends_inventory fixed mem).bind (fun map found => ?_) fun broken =>
            ⟨none, broken, rfl⟩
          exact (answerWith_settled fixed c key _ asked).imp fun outcome eq => ⟨some map, found, eq⟩
        refine searched.bind (fun record found => Yields.pure ?_) fun broken => ?_
        · obtain ⟨found, h, eq⟩ := found
          exact ⟨found, h, congrArg (Option.map (resolver.finish key)) eq⟩
        · obtain ⟨found, h, eq⟩ := broken
          exact ⟨found, h, congrArg (Option.map (resolver.finish key)) eq⟩

/-- A resolver that begins without memory and with an empty store, and has answered for some keys,
the last one first. Time may pass between two calls. -/
inductive HasAnswered (resolver : Resolver) (client : Client) :
    List SymbolKey → Memory → World → Prop
  | start {w : World} : w.client = client → w.store.values = [] →
      HasAnswered resolver client [] {} w
  | call {keys : List SymbolKey} {m m' : Memory} {w w' : World} {record : Record}
      (key : SymbolKey) : HasAnswered resolver client keys m w →
      resolver.resolve key m w = (some (record, m'), w') →
      HasAnswered resolver client (key :: keys) m' w'
  | wait {keys : List SymbolKey} {m : Memory} {w : World} (now : Nat) :
      HasAnswered resolver client keys m w → HasAnswered resolver client keys m { w with now }

/-- The requests that lookups of some keys make. -/
def Asked (keys : List SymbolKey) (r : InventoryRequest) : Prop := ∃ key ∈ keys, r = .ofKey key

theorem Asked.cons {keys : List SymbolKey} (key : SymbolKey) {r : InventoryRequest}
    (h : Asked keys r) : Asked (key :: keys) r := by
  obtain ⟨k, mem, eq⟩ := h
  exact ⟨k, List.mem_cons_of_mem key mem, eq⟩

theorem HasAnswered.faithful (fixed : client.IsFixed) {keys : List SymbolKey} {m : Memory}
    {w : World} (h : resolver.HasAnswered client keys m w) :
    Faithful resolver.config client (Asked keys) m w := by
  induction h with
  | start same empty => exact .start _ same empty
  | @call keys m m' w w' record key _ run ih =>
    obtain ⟨answer, ends⟩ := exists_answer fixed resolver key
    have begins : Faithful resolver.config client (Asked (key :: keys)) m w :=
      ih.imp fun _ => Asked.cons key
    exact ((ends (Asked (key :: keys)) ⟨key, List.mem_cons_self, rfl⟩).value begins run).1
  | wait now _ ih => exact ih.elsewhere rfl rfl

/-- A resolver answers as a fresh one does, with or without a record, whatever it has answered
before for keys that agree with the one at hand. -/
theorem resolve_eq_fresh (fixed : client.IsFixed) {key : SymbolKey} {keys : List SymbolKey}
    {m : Memory} {w w₀ : World} (answered : resolver.HasAnswered client keys m w)
    (agree : ∀ k ∈ keys, Agrees resolver.config client (.ofKey k) (.ofKey key))
    (same : w₀.client = client) (empty : w₀.store.values = []) :
    (resolver.resolve key m w).1.map (·.1) = (resolver.resolve key {} w₀).1.map (·.1) := by
  obtain ⟨answer, ends⟩ := exists_answer fixed resolver key
  have agreeing : ∀ r, Asked (key :: keys) r → Agrees resolver.config client r (.ofKey key) := by
    rintro r ⟨k, mem, rfl⟩
    rcases List.mem_cons.mp mem with rfl | earlier
    · exact .refl _ _ _
    · exact agree k earlier
  have here := ends (Asked (key :: keys)) ⟨key, List.mem_cons_self, rfl⟩
  have faithful := (answered.faithful fixed).imp fun _ => Asked.cons key
  obtain ⟨found, h, outcome⟩ := here.outcome faithful
  obtain ⟨found', h', outcome'⟩ := here.outcome (.start _ same empty)
  rw [outcome, outcome', h.eq_fresh fixed agreeing, h'.eq_fresh fixed agreeing]

/-- A site with the documentation of one version of a package, where the registry is silent. -/
def withOneVersion : Site :=
  { gets := [("https://foo.readthedocs.io/en/1/objects.inv",
      { status := 200
        body := Inventory.sentinel ++ [120, 1, 1, 31, 0, 224, 255] ++
          Utf8.encode "foo.bar py:function 1 a.html -\n".toList ++ [178, 126, 10, 93] })] }

/-- A symbol right below its package. -/
def topLevel (package name version : Text) : SymbolKey :=
  ⟨package, package, name, name, false, some version⟩

theorem agrees_topLevel (c : Config) (client : Client) (package name name' version : Text) :
    Agrees c client (.ofKey (topLevel package name version))
      (.ofKey (topLevel package name' version)) :=
  ⟨fun _ => ⟨rfl, fun _ => rfl⟩, fun _ _ => rfl⟩

theorem source_of_outcome_eq {x y : Option (Record × Memory)}
    (h : x.map (·.1) = y.map (·.1)) : x.map (·.1.source) = y.map (·.1.source) := by
  have sources := congrArg (Option.map Record.source) h
  rwa [Option.map_map, Option.map_map] at sources

/-- Another symbol of the same version has been looked up before. -/
theorem resolve_eq_fresh_sameVersion : ∃ m w,
    ({} : Resolver).HasAnswered withOneVersion.client [topLevel "foo" "baz" "1"] m w ∧
    (({} : Resolver).resolve (topLevel "foo" "bar" "1") m w).1.map (·.1.source) = some .sphinx := by
  have found : (({} : Resolver).resolve (topLevel "foo" "baz" "1") {}
      { client := withOneVersion.client }).1.isSome := by decide +kernel
  obtain ⟨record, m, w, run⟩ := exists_of_isSome found
  have answered : ({} : Resolver).HasAnswered withOneVersion.client [topLevel "foo" "baz" "1"] m w :=
    .call _ (.start rfl rfl) run
  have agree : ∀ k ∈ [topLevel "foo" "baz" "1"], Agrees ({} : Resolver).config
      withOneVersion.client (.ofKey k) (.ofKey (topLevel "foo" "bar" "1")) := by
    intro k mem
    rw [List.mem_singleton.mp mem]
    exact agrees_topLevel _ _ "foo" "baz" "bar" "1"
  have fresh : (({} : Resolver).resolve (topLevel "foo" "bar" "1") {}
      { client := withOneVersion.client }).1.map (·.1.source) = some .sphinx := by decide +kernel
  have same := resolve_eq_fresh withOneVersion.isFixed_client answered agree
    (rfl : ({ client := withOneVersion.client } : World).client = _) rfl
  exact ⟨m, w, answered, (source_of_outcome_eq same).trans fresh⟩

/-- A version without documentation is given that of another version if this was asked for first. -/
theorem resolve_ne_fresh_otherVersion : ¬ ∀ (resolver : Resolver) (client : Client)
    (keys : List SymbolKey) (key : SymbolKey) (m : Memory) (w w₀ : World), client.IsFixed →
    resolver.HasAnswered client keys m w → w₀.client = client → w₀.store.values = [] →
    (resolver.resolve key m w).1.map (·.1) = (resolver.resolve key {} w₀).1.map (·.1) := by
  intro independent
  have found : (({} : Resolver).resolve (topLevel "foo" "bar" "1") {}
      { client := withOneVersion.client }).1.isSome := by decide +kernel
  obtain ⟨record, m, w, run⟩ := exists_of_isSome found
  have both : ((({} : Resolver).resolve (topLevel "foo" "bar" "1") >>= fun _ =>
      ({} : Resolver).resolve (topLevel "foo" "bar" "2")) {}
        { client := withOneVersion.client }).1.map (·.1.source) = some .sphinx := by
    decide +kernel
  have second : (({} : Resolver).resolve (topLevel "foo" "bar" "2") m w).1.map (·.1.source) =
      some .sphinx := by
    have bound := Web.bind_of_some run fun result =>
      ({} : Resolver).resolve (topLevel "foo" "bar" "2") result.2
    rw [← both, ← bound]
    rfl
  have fresh : (({} : Resolver).resolve (topLevel "foo" "bar" "2") {}
      { client := withOneVersion.client }).1.map (·.1.source) = some .fallback := by
    decide +kernel
  have same := independent {} _ _ (topLevel "foo" "bar" "2") m w
    { client := withOneVersion.client } withOneVersion.isFixed_client
    (.call _ (.start rfl rfl) run) rfl rfl
  have sources := second.symm.trans ((source_of_outcome_eq same).trans fresh)
  exact absurd (Option.some.inj sources) (by decide)

end Resolver
end SymbolDocs
