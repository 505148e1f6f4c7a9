import SymbolDocs.Proofs.Lookup.Growth

namespace SymbolDocs

/-- The address at which the inventory of a place below a home page is looked for. -/
def inventoryUrl (home place : Text) : Text :=
  urlBelow (asFolder (urlBelow home place)) inventoryName

/-- Requests for the heads of the inventories of some places behind earlier requests, the latest
first. -/
def askedPlaces (home : Text) (places : List Text) (before : List Request) : List Request :=
  (places.map fun place => .head (inventoryUrl home place)).reverse ++ before

/-- After some places have been asked for, the client has the inventory of another one. -/
def HasInventory (client : Client) (before : List Request) (home : Text) (asked : List Text)
    (place : Text) : Prop :=
  ∃ status, client.head (askedPlaces home asked before) (inventoryUrl home place) = .ok status ∧
    meansPresent status

/-- The places have no inventories, each one asked for after those in front of it. -/
def AllMissing (client : Client) (before : List Request) (home : Text) (places : List Text) :
    Prop :=
  ∀ asked place more, places = asked ++ place :: more →
    ¬ HasInventory client before home asked place

/-- A search of places for an inventory ends at the first one, or else behind the last place. -/
inductive Finds (client : Client) (before : List Request) (home : Text) (places : List Text) :
    Option Text → List Text → Prop
  | hit {missed more : List Text} {place : Text} : places = missed ++ place :: more →
      AllMissing client before home missed → HasInventory client before home missed place →
      Finds client before home places (some (asFolder (urlBelow home place))) (missed ++ [place])
  | miss : AllMissing client before home places → Finds client before home places none places

variable {client : Client} {before : List Request} {home place : Text} {places asked : List Text}
  {found : Option Text}

theorem askedPlaces_cons (home place : Text) (asked : List Text) (before : List Request) :
    askedPlaces home (place :: asked) before =
      askedPlaces home asked (.head (inventoryUrl home place) :: before) := by
  rw [askedPlaces, askedPlaces, List.map_cons, List.reverse_cons, List.append_assoc]
  rfl

theorem hasInventory_cons {next : Text} : HasInventory client before home (place :: asked) next ↔
    HasInventory client (.head (inventoryUrl home place) :: before) home asked next := by
  rw [HasInventory, askedPlaces_cons]
  rfl

theorem AllMissing.cons (first : ¬ HasInventory client before home [] place)
    (later : AllMissing client (.head (inventoryUrl home place) :: before) home places) :
    AllMissing client before home (place :: places) := by
  intro asked next more eq
  cases asked with
  | nil =>
    obtain ⟨rfl, -⟩ := List.cons.inj eq
    exact first
  | cons one asked =>
    obtain ⟨rfl, rest⟩ := List.cons.inj eq
    rw [hasInventory_cons]
    exact later asked next more rest

theorem Finds.cons (first : ¬ HasInventory client before home [] place)
    (later : Finds client (.head (inventoryUrl home place) :: before) home places found asked) :
    Finds client before home (place :: places) found (place :: asked) := by
  cases later with
  | @hit missed more next split missing here =>
    exact .hit (congrArg (place :: ·) split) (.cons first missing) (hasInventory_cons.mpr here)
  | miss missing => exact .miss (.cons first missing)

theorem Finds.isPrefix (h : Finds client before home places found asked) : asked <+: places := by
  cases h with
  | @hit missed more place split =>
    refine ⟨more, ?_⟩
    rw [split, List.append_assoc]
    rfl
  | miss => exact List.prefix_rfl

theorem Finds.ne_nil (h : Finds client before home places found asked) (some : places ≠ []) :
    asked ≠ [] := by
  cases h with
  | hit => exact List.append_ne_nil_of_right_ne_nil _ (List.cons_ne_nil _ [])
  | miss => exact some

namespace Lookup

/-- The places are asked for one after the other, up to the first inventory. -/
theorem exists_firstInventory_eq (home : Text) (places : List Text) (w : World) :
    ∃ found asked, Finds w.client w.requests home places found asked ∧
      firstInventory home places w =
        (some found, { w with requests := askedPlaces home asked w.requests }) := by
  have nothing (w : World) : AllMissing w.client w.requests home [] := by
    intro asked place more eq
    simp at eq
  induction places generalizing w with
  | nil => exact ⟨none, [], .miss (nothing w), rfl⟩
  | cons place more ih =>
    let w' : World := { w with requests := .head (inventoryUrl home place) :: w.requests }
    have answered : Web.head (inventoryUrl home place) w =
        (some (w.client.head w.requests (inventoryUrl home place)), w') := rfl
    by_cases here : HasInventory w.client w.requests home [] place
    · have split : place :: more = [] ++ place :: more := rfl
      refine ⟨_, _, .hit split (nothing w) here, ?_⟩
      obtain ⟨status, said, isPresent⟩ := here
      have first : w.client.head w.requests (inventoryUrl home place) = .ok status := said
      rw [first] at answered
      rw [firstInventory, ← inventoryUrl, Web.bind_of_some answered]
      dsimp only
      rw [if_pos isPresent]
      rfl
    · obtain ⟨found, asked, finds, run⟩ := ih w'
      refine ⟨found, place :: asked, .cons here finds, ?_⟩
      rw [askedPlaces_cons, firstInventory, ← inventoryUrl, Web.bind_of_some answered]
      cases said : w.client.head w.requests (inventoryUrl home place) with
      | error fault => exact run
      | ok status =>
        have absent : ¬ meansPresent status := fun isPresent => here ⟨status, said, isPresent⟩
        dsimp only
        rw [if_neg absent]
        exact run

variable {c : Config} {package : Text} {version : Option Text} {m m₁ : Memory} {w w₁ : World}
  {info : Option RegistryInfo} {url home : Text}

theorem discoverRoot_of_home (answered : registryInfo? c package m w = (some (info, m₁), w₁))
    (known : info.bind RegistryInfo.bestUrl? = some url) (upgraded : withHttps? url = some home) :
    ∃ found asked, Finds w₁.client w₁.requests home usualPlaces found asked ∧
      discoverRoot c package version m w =
        (some (found.getD (conventionalUrl package version), m₁), { w₁ with
          requests := askedPlaces home asked w₁.requests
          addresses := url :: w₁.addresses }) := by
  let w₂ : World := { w₁ with addresses := url :: w₁.addresses }
  obtain ⟨found, asked, finds, searched⟩ := exists_firstInventory_eq home usualPlaces w₂
  refine ⟨found, asked, finds, ?_⟩
  have made : Web.withHttps url w₁ = (some home, w₂) := by rw [Web.withHttps, upgraded]
  rw [discoverRoot]
  refine bind_eq_some_iff.mpr ⟨info, m₁, w₁, answered, ?_⟩
  rw [known]
  refine bind_eq_some_iff.mpr ⟨home, m₁, w₂, lift_eq_some_iff.mpr ⟨made, rfl⟩, ?_⟩
  exact bind_eq_some_iff.mpr ⟨found, m₁, _, lift_eq_some_iff.mpr ⟨searched, rfl⟩, rfl⟩

theorem discoverRoot_of_homeless
    (answered : registryInfo? c package m w = (some (info, m₁), w₁))
    (unknown : info.bind RegistryInfo.bestUrl? = none) :
    discoverRoot c package version m w = (some (conventionalUrl package version, m₁), w₁) := by
  rw [discoverRoot]
  refine bind_eq_some_iff.mpr ⟨info, m₁, w₁, answered, ?_⟩
  rw [unknown]
  rfl

theorem discoverRoot_cases {root : Text} {m' : Memory} {w' : World}
    (run : discoverRoot c package version m w = (some (root, m'), w')) :
    ∃ info w₁, registryInfo? c package m w = (some (info, m'), w₁) ∧
      ((info.bind RegistryInfo.bestUrl? = none ∧ root = conventionalUrl package version ∧
          w'.requests = w₁.requests) ∨
        ∃ url home found asked, info.bind RegistryInfo.bestUrl? = some url ∧
          withHttps? url = some home ∧ Finds w₁.client w₁.requests home usualPlaces found asked ∧
          root = found.getD (conventionalUrl package version) ∧
          w'.requests = askedPlaces home asked w₁.requests) := by
  obtain ⟨info, m₁, w₁, answered, rest⟩ := bind_eq_some_iff.mp run
  cases known : info.bind RegistryInfo.bestUrl? with
  | none =>
    rw [discoverRoot_of_homeless answered known] at run
    cases run
    exact ⟨info, _, answered, .inl ⟨known, rfl, rfl⟩⟩
  | some url =>
    rw [known] at rest
    obtain ⟨home, m₂, w₂, taken, -⟩ := bind_eq_some_iff.mp rest
    have upgraded : withHttps? url = some home := congrArg Prod.fst (lift_eq_some_iff.mp taken).1
    obtain ⟨found, asked, finds, discovered⟩ := discoverRoot_of_home answered known upgraded
    rw [discovered] at run
    cases run
    exact ⟨info, w₁, answered, .inr ⟨url, home, found, asked, known, upgraded, finds, rfl, rfl⟩⟩

end Lookup
end SymbolDocs
