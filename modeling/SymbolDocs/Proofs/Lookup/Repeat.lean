import SymbolDocs.Proofs.Lookup.Growth

namespace SymbolDocs

variable {α β : Type}

namespace Lookup

/-- The lookup forgets nothing, and it finds the same again in every memory that extends the one it
leaves. Then it takes texts for addresses, but it asks neither the web nor the store. -/
structure Repeats (x : Lookup α) : Prop where
  extends_memory : x.Moves Memory.Extends
  again {m m' later : Memory} {w w' : World} {a : α} : x m w = (some (a, m'), w') →
    m'.Extends later →
    ∀ w₂ : World, ∃ addresses, x later w₂ = (some (a, later), { w₂ with addresses })

namespace Repeats

theorem pure (a : α) : Repeats (pure a : Lookup α) where
  extends_memory := .pure .refl a
  again run _ w₂ := by
    obtain ⟨rfl, -, -⟩ := pure_eq_some_iff.mp run
    exact ⟨w₂.addresses, rfl⟩

theorem bind {x : Lookup α} {f : α → Lookup β} (hx : x.Repeats) (hf : ∀ a, (f a).Repeats) :
    Repeats (x >>= f) where
  extends_memory := .bind .trans hx.extends_memory fun a => (hf a).extends_memory
  again := by
    intro m m' later w w' b run extended w₂
    obtain ⟨a, m₁, w₁, first, second⟩ := bind_eq_some_iff.mp run
    have grown : m₁.Extends m' := (hf a).extends_memory second
    obtain ⟨taken, first'⟩ := hx.again first (grown.trans extended) w₂
    obtain ⟨taken', second'⟩ := (hf a).again second extended { w₂ with addresses := taken }
    exact ⟨taken', bind_eq_some_iff.mpr ⟨a, later, _, first', second'⟩⟩

theorem withHttps (url : Text) : Repeats (liftM (Web.withHttps url)) where
  extends_memory := .lift .refl _
  again := by
    intro m m' later w w' address run _ w₂
    obtain ⟨upgraded, -⟩ := lift_eq_some_iff.mp run
    have made : withHttps? url = some address := congrArg Prod.fst upgraded
    have upgraded' : Web.withHttps url w₂ =
        (some address, { w₂ with addresses := url :: w₂.addresses }) := by
      rw [Web.withHttps, made]
    exact ⟨url :: w₂.addresses, lift_eq_some_iff.mpr ⟨upgraded', rfl⟩⟩

/-- What has been loaded once is read from the memory from then on, whatever loading it did. -/
theorem remember {table : Memory → List (Text × α)} {extend : (Text × α) → Memory → Memory}
    {key : Text} {load : Lookup α} (added : ∀ m a, (table (extend (key, a) m)).lookup key = some a)
    (kept : ∀ {m later : Memory} {a : α}, m.Extends later → (table m).lookup key = some a →
      (table later).lookup key = some a)
    (moves : Moves Memory.Extends (remember table extend key load)) :
    Repeats (remember table extend key load) where
  extends_memory := moves
  again := by
    intro m m' later w w' a run extended w₂
    have known : (table m').lookup key = some a := by
      rcases remember_cases run with ⟨known, same, -⟩ | ⟨-, loaded, -, rfl⟩
      · rw [same]
        exact known
      · exact added loaded a
    rw [remember_of_some (kept extended known)]
    exact ⟨w₂.addresses, rfl⟩

end Repeats

theorem registryInfo?_repeats (c : Config) (package : Text) :
    Repeats (registryInfo? c package) := by
  have moves := (registryInfo?_moves c package).imp fun moved => moved.1.1
  rw [registryInfo?] at moves ⊢
  split
  · exact .pure none
  · next named =>
    rw [if_neg named] at moves
    exact .remember (fun _ _ => List.lookup_cons_self) (·.registry) moves

theorem inventory_repeats (c : Config) (r : InventoryRequest) : Repeats (inventory c r) := by
  have moves : Moves Memory.Extends (inventory c r) := by
    refine .remember .refl ?_ (loadInventory_moves c r)
    intro m m' map new moved
    have new' : m'.inventories.lookup (r.storeKey c) = none := by rw [moved.2]; exact new
    exact moved.1.trans ⟨Memory.lookup_cons_of_new new', id, id, id⟩
  exact .remember (fun _ _ => List.lookup_cons_self) (·.inventories) moves

theorem page?_repeats (c : Config) (url : Text) : Repeats (page? c url) := by
  refine .bind (.withHttps (withoutFragment url)) fun url => ?_
  split
  · exact .pure none
  · refine .remember (fun _ _ => List.lookup_cons_self) (·.pages) ?_
    refine .remember .refl ?_ (.lift (R := Eq) (fun _ => rfl) _)
    rintro m m' html new rfl
    exact ⟨id, id, id, Memory.lookup_cons_of_new new⟩

theorem content?_repeats (c : Config) (url : Text) : Repeats (content? c url) := by
  refine .bind (page?_repeats c url) fun html => ?_
  cases html with
  | none => exact .pure none
  | some html =>
    dsimp only
    cases fragmentOf? url with
    | none => exact .pure _
    | some anchor => exact .pure _

theorem withPage_repeats (c : Config) (r : Record) : Repeats (withPage c r) := by
  rw [withPage]
  split
  · exact .pure r
  · next url _ =>
    split
    · exact .bind (content?_repeats c url) fun _ => .pure _
    · exact .pure r

theorem registryFor?_repeats (c : Config) (key : SymbolKey) :
    Repeats (registryFor? c key) := by
  rw [registryFor?]
  split
  · exact .pure none
  · exact registryInfo?_repeats c key.package

theorem searchIndexes_repeats (c : Config) (key : SymbolKey) : Repeats (searchIndexes c key) := by
  have found : Repeats (find? c key) := .bind (inventory_repeats c _) fun _ => .pure _
  refine .bind found fun hit => .bind (registryFor?_repeats c key) fun info => ?_
  rcases hit with _ | record <;> rcases info with _ | info
  · exact .pure _
  · exact .pure _
  · exact withPage_repeats c record
  · exact .bind (withPage_repeats c record) fun _ => .pure _

end Lookup

namespace Resolver

theorem resolve_repeats (resolver : Resolver) (key : SymbolKey) :
    (resolver.resolve key).Repeats := by
  rw [resolve]
  split
  · exact .pure _
  · split
    · exact .pure _
    · cases referenceRecord? resolver.config key with
      | some record => exact .pure _
      | none => exact .bind (Lookup.searchIndexes_repeats _ key) fun _ => .pure _

/-- What becomes of the memory of a resolver. The web, the store and the clock are others at every
call. A call that breaks off leaves a memory that extends the one it found. -/
inductive Remains (resolver : Resolver) : Memory → Memory → Prop
  | refl (m : Memory) : Remains resolver m m
  | call {m m' later : Memory} {w w' : World} {record : Record} (key : SymbolKey) :
      Remains resolver m m' → resolver.resolve key m' w = (some (record, later), w') →
      Remains resolver m later
  | brokenOff {m m' later : Memory} : Remains resolver m m' → m'.Extends later →
      Remains resolver m later

theorem Remains.extends {resolver : Resolver} {m later : Memory} (h : resolver.Remains m later) :
    m.Extends later := by
  induction h with
  | refl => exact .refl m
  | call key _ run ih => exact ih.trans ((resolver.resolve_repeats key).extends_memory run)
  | brokenOff _ extended ih => exact ih.trans extended

/-- A key that has been resolved once has the same record ever after, whatever the web and the store
hold by then, and nothing is requested for it any more. -/
theorem resolve_again {resolver : Resolver} {key : SymbolKey} {record : Record}
    {m m' later : Memory} {w w' : World}
    (answered : resolver.resolve key m w = (some (record, m'), w'))
    (remains : resolver.Remains m' later) (w₂ : World) :
    ∃ w₃, resolver.resolve key later w₂ = (some (record, later), w₃) ∧
      w₃.requests = w₂.requests ∧ w₃.store = w₂.store := by
  obtain ⟨addresses, run⟩ := (resolver.resolve_repeats key).again answered remains.extends w₂
  exact ⟨_, run, rfl, rfl⟩

/-- A registry that knows one package. -/
def Site.withPackage : Site :=
  { gets := [("https://pypi.org/pypi/foo/json",
      { status := 200, body := Utf8.encode "\x7b\"info\":\x7b\"summary\":\"Foo.\"\x7d\x7d".toList })] }

/-- The registry has answered once; then nothing can be reached any more. -/
theorem resolve_again_offline : ∃ record m w w₃,
    ({} : Resolver).resolve ⟨"foo", "foo", "bar", "bar", false, none⟩ {}
      { client := Site.withPackage.client } = (some (record, m), w) ∧
    record.summary = some "Foo." ∧ w.requests.length = 2 ∧
    ({} : Resolver).resolve ⟨"foo", "foo", "bar", "bar", false, none⟩ m
      { client := ({} : Site).client } = (some (record, m), w₃) ∧ w₃.requests = [] := by
  have said : (({} : Resolver).resolve ⟨"foo", "foo", "bar", "bar", false, none⟩ {}
      { client := Site.withPackage.client }).1.map (·.1.summary) = some (some ("Foo." : Text)) := by
    decide +kernel
  have asked : (({} : Resolver).resolve ⟨"foo", "foo", "bar", "bar", false, none⟩ {}
      { client := Site.withPackage.client }).2.requests.length = 2 := by decide +kernel
  rcases run : ({} : Resolver).resolve ⟨"foo", "foo", "bar", "bar", false, none⟩ {}
      { client := Site.withPackage.client } with ⟨_ | ⟨record, m⟩, w⟩
  · rw [run] at said
    cases said
  · rw [run] at said asked
    obtain ⟨w₃, again, silent, -⟩ := resolve_again run (.refl m) { client := ({} : Site).client }
    exact ⟨record, m, w, w₃, rfl, Option.some.inj said, asked, again, silent⟩

end Resolver
end SymbolDocs
