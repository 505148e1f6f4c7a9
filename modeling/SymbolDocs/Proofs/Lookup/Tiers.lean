import SymbolDocs.Proofs.Lookup.Invariant
import SymbolDocs.Proofs.Record.Origin

namespace SymbolDocs

namespace Lookup

/-- The inventory of the package has the symbol. -/
def hasRecord (c : Config) (key : SymbolKey) (m : Memory) (w : World) : Bool :=
  match find? c key m w with
  | (some (some _, _), _) => true
  | _ => false

/-- The registry knows the package when it is asked after the inventory. -/
def hasMetadata (c : Config) (key : SymbolKey) (m : Memory) (w : World) : Bool :=
  match find? c key m w with
  | (some (_, m), w) =>
    match registryInfo? c key.package m w with
    | (some (some _, _), _) => true
    | _ => false
  | _ => false

end Lookup

/-- The source of an answer of the indexes and its confidence in hundredths. -/
def Lookup.tier (c : Config) (key : SymbolKey) (m : Memory) (w : World) : Source × Nat :=
  if hasRecord c key m w then (.sphinx, 100)
  else if !key.isStdlib && key.package != builtinsModule && hasMetadata c key m w then (.pypi, 75)
  else (.fallback, 30)

/-- The source of an answer and its confidence in hundredths. -/
def Resolver.tier (resolver : Resolver) (key : SymbolKey) (m : Memory) (w : World) :
    Source × Nat :=
  if key.searchTerm.isEmpty || (key.qualifiedName ++ key.module).any fun c =>
      Text.isBlankChar c || Text.isControl c then (.unknown, 0)
  else if (referenceRecord? resolver.config key).isSome then (.static, 100)
  else Lookup.tier resolver.config key m w

/-- The source of a record and its confidence in hundredths. -/
def Record.IsOf (r : Record) (tier : Source × Nat) : Prop :=
  r.source = tier.1 ∧ Binary64.ofRatio? false tier.2 100 = some r.confidence

theorem Record.IsOf.of_sameOrigin {r r' : Record} {tier : Source × Nat} (h : r.IsOf tier)
    (same : r.SameOrigin r') : r'.IsOf tier := by
  rw [IsOf, same.1, same.2]
  exact h

/-- States that a resolver comes to. It begins without memory; between its lookups the world may
change, as long as only the library writes to the store. -/
inductive Resolver.Reaches (resolver : Resolver) : Memory → World → Prop
  | start {w : World} : w.IsOwn → Reaches resolver {} w
  | lookup {m m' : Memory} {w w' : World} {record : Record} (key : SymbolKey) :
      Reaches resolver m w → resolver.resolve key m w = (some (record, m'), w') →
      Reaches resolver m' w'
  | elsewhere {m : Memory} {w w' : World} : Reaches resolver m w → w'.IsOwn →
      Reaches resolver m w'

theorem Resolver.Reaches.isOwn {resolver : Resolver} {m : Memory} {w : World}
    (h : resolver.Reaches m w) : Lookup.IsOwn m w := by
  induction h with
  | start own => exact ⟨by simp, own⟩
  | lookup key _ run ih => exact ((Lookup.Invariant.own.resolve resolver key).value ih run).1
  | elsewhere _ own ih => exact ⟨ih.remembered, own⟩

namespace Lookup

theorem exists_item_of_lookup? {map : SymbolMap} (built : map.IsBuilt) {key : SymbolKey}
    {record : Record} (h : map.lookup? key = some record) :
    ∃ base item, record = InventoryItem.record base item := by
  obtain ⟨name, -, got⟩ := List.exists_of_findSome?_eq_some h
  obtain ⟨pair, found, rfl⟩ := Option.map_eq_some_iff.mp got
  obtain ⟨items, base, rfl⟩ := built
  obtain ⟨item, eq⟩ := SymbolMap.mem_ofItems (List.mem_of_find?_eq_some found)
  exact ⟨base, item, eq⟩

/-- What an inventory has was made from one of its items, also when the inventory was kept in memory
or in the store. -/
theorem exists_item_of_find? {c : Config} {key : SymbolKey} {m m' : Memory} {w w' : World}
    {record : Record} (own : IsOwn m w) (run : find? c key m w = (some (some record, m'), w')) :
    ∃ base item, record = InventoryItem.record base item := by
  rw [find?] at run
  obtain ⟨map, m₁, w₁, loaded, found⟩ := bind_eq_some_iff.mp run
  have built := ((Invariant.own.inventory c _).value own loaded).2
  exact exists_item_of_lookup? built (pure_eq_some_iff.mp found).1

theorem find?_source {c : Config} {key : SymbolKey} {m m' : Memory} {w w' : World}
    {record : Record} (own : IsOwn m w) (run : find? c key m w = (some (some record, m'), w')) :
    record.IsOf (.sphinx, 100) := by
  obtain ⟨base, item, rfl⟩ := exists_item_of_find? own run
  exact ⟨rfl, rfl⟩

/-- A page gives a summary and nothing else. -/
theorem exists_eq_of_withPage {c : Config} {r r' : Record} {m m' : Memory} {w w' : World}
    (run : withPage c r m w = (some (r', m'), w')) : ∃ summary, r' = { r with summary } := by
  rw [withPage] at run
  rcases Option.eq_none_or_eq_some r.url with address | ⟨url, address⟩
  · simp only [address] at run
    obtain ⟨rfl, -, -⟩ := pure_eq_some_iff.mp run
    exact ⟨r.summary, rfl⟩
  · simp only [address] at run
    by_cases standIn : r.summary.all isStandInSummary
    · rw [if_pos standIn] at run
      obtain ⟨text, m₁, w₁, -, made⟩ := bind_eq_some_iff.mp run
      obtain ⟨rfl, -, -⟩ := pure_eq_some_iff.mp made
      exact ⟨text.or r.summary, by rw [address]⟩
    · rw [if_neg standIn] at run
      obtain ⟨rfl, -, -⟩ := pure_eq_some_iff.mp run
      exact ⟨r.summary, rfl⟩

theorem withPage_source {c : Config} {r r' : Record} {m m' : Memory} {w w' : World}
    (run : withPage c r m w = (some (r', m'), w')) : r.SameOrigin r' := by
  obtain ⟨summary, rfl⟩ := exists_eq_of_withPage run
  exact ⟨rfl, rfl⟩

/-- The registry has an answer exactly if it may be asked and knows the package. -/
theorem registryFor?_isSome {c : Config} {key : SymbolKey} {m m₁ m₂ : Memory} {w w₁ w₂ : World}
    {hit : Option Record} {info : Option RegistryInfo}
    (searched : find? c key m w = (some (hit, m₁), w₁))
    (asked : registryFor? c key m₁ w₁ = (some (info, m₂), w₂)) :
    info.isSome = (!key.isStdlib && key.package != builtinsModule && hasMetadata c key m w) := by
  rw [registryFor?] at asked
  by_cases outside : key.isStdlib || key.package == builtinsModule
  · rw [if_pos outside] at asked
    obtain ⟨rfl, -, -⟩ := pure_eq_some_iff.mp asked
    rw [Bool.or_eq_true, beq_iff_eq] at outside
    rcases outside with stdlib | builtins
    · rw [stdlib]
      rfl
    · rw [bne_eq_false_iff_eq.mpr builtins, Bool.and_false]
      rfl
  · rw [if_neg outside] at asked
    have known : hasMetadata c key m w = info.isSome := by
      rw [hasMetadata, searched]
      dsimp only
      rw [asked]
      cases info <;> rfl
    rw [Bool.not_eq_true, Bool.or_eq_false_iff] at outside
    rw [outside.1, bne, outside.2, known]
    rfl

/-- The indexes are asked in order, and the first answer gives the record its source. -/
theorem searchIndexes_source {c : Config} {key : SymbolKey} {m m' : Memory} {w w' : World}
    {record : Record} (own : IsOwn m w)
    (run : searchIndexes c key m w = (some (record, m'), w')) : record.IsOf (tier c key m w) := by
  rw [searchIndexes] at run
  obtain ⟨hit, m₁, w₁, searched, run⟩ := bind_eq_some_iff.mp run
  obtain ⟨info, m₂, w₂, asked, run⟩ := bind_eq_some_iff.mp run
  have listed := registryFor?_isSome searched asked
  have found : hasRecord c key m w = hit.isSome := by
    rw [hasRecord, searched]
    cases hit <;> rfl
  rw [tier, found, ← listed]
  rcases hit with _ | hit <;> rcases info with _ | info <;>
    simp only [Option.isSome_none, Option.isSome_some, Bool.false_eq_true, if_false, if_true]
  · rw [← (pure_eq_some_iff.mp run).1]
    exact ⟨rfl, rfl⟩
  · rw [← (pure_eq_some_iff.mp run).1]
    have packaged : (Record.titled key.fullName .pypi).IsOf (.pypi, 75) := ⟨rfl, rfl⟩
    exact packaged.of_sameOrigin (Record.withRegistry_origin _ info)
  · exact (find?_source own searched).of_sameOrigin (withPage_source run)
  · obtain ⟨r, m₃, w₃, read, made⟩ := bind_eq_some_iff.mp run
    rw [← (pure_eq_some_iff.mp made).1]
    exact (find?_source own searched).of_sameOrigin
      ((withPage_source read).trans (r.withRegistry_origin info))

/-- The indexes give neither names of the language nor unknown symbols. -/
theorem tier_source (c : Config) (key : SymbolKey) (m : Memory) (w : World) :
    (tier c key m w).1 ≠ .static ∧ (tier c key m w).1 ≠ .unknown := by
  rw [tier]
  split
  · exact ⟨by decide, by decide⟩
  · split <;> exact ⟨by decide, by decide⟩

end Lookup

theorem SymbolKey.isName_eq (key : SymbolKey) : key.isName =
    !(key.qualifiedName ++ key.module).any fun c => Text.isBlankChar c || Text.isControl c := by
  rw [isName, List.any_append]

theorem referenceRecord?_source {c : Config} {key : SymbolKey} {record : Record}
    (h : referenceRecord? c key = some record) : record.IsOf (.static, 100) := by
  rw [referenceRecord?] at h
  split at h
  · obtain ⟨entry, -, rfl⟩ := Option.map_eq_some_iff.mp h
    exact ⟨rfl, rfl⟩
  · cases h

namespace Resolver

variable {resolver : Resolver} {key : SymbolKey} {m m' : Memory} {w w' : World} {record : Record}

/-- The source and the confidence of a record are those of the first tier that has an answer. A name
of the language is answered without memory, store or web, and every answer but the unknown ones
links to a search. -/
theorem resolve_tier (reached : resolver.Reaches m w)
    (run : resolver.resolve key m w = (some (record, m'), w')) :
    record.IsOf (resolver.tier key m w) ∧
    ((resolver.tier key m w).1 = .static → m' = m ∧ w' = w) ∧
    ((resolver.tier key m w).1 ≠ .unknown → record.links.get? aggregatorLabel =
      some (resolver.config.aggregatorSearchUrl key.searchTerm)) := by
  rw [resolve] at run
  rw [tier]
  by_cases nameless : key.searchTerm.isEmpty
  · rw [if_pos nameless] at run
    obtain ⟨rfl, -, -⟩ := Lookup.pure_eq_some_iff.mp run
    rw [nameless, Bool.true_or, if_pos rfl]
    exact ⟨⟨rfl, rfl⟩, fun h => absurd h (by decide), fun h => absurd rfl h⟩
  rw [if_neg nameless] at run
  rw [Bool.not_eq_true] at nameless
  rw [nameless, Bool.false_or]
  cases bad : (key.qualifiedName ++ key.module).any fun c =>
      Text.isBlankChar c || Text.isControl c with
  | true =>
    rw [key.isName_eq, bad, Bool.not_not, if_pos rfl] at run
    obtain ⟨rfl, -, -⟩ := Lookup.pure_eq_some_iff.mp run
    rw [if_pos rfl]
    exact ⟨⟨rfl, rfl⟩, fun h => absurd h (by decide), fun h => absurd rfl h⟩
  | false =>
    rw [key.isName_eq, bad, Bool.not_not, if_neg Bool.false_ne_true] at run
    rw [if_neg Bool.false_ne_true]
    cases referred : referenceRecord? resolver.config key with
    | some entry =>
      rw [referred] at run
      obtain ⟨rfl, rfl, rfl⟩ := Lookup.pure_eq_some_iff.mp run
      obtain ⟨origin, link⟩ := resolver.finish_origin key entry
      exact ⟨(referenceRecord?_source referred).of_sameOrigin origin, fun _ => ⟨rfl, rfl⟩,
        fun _ => link⟩
    | none =>
      rw [referred] at run
      obtain ⟨found, m₁, w₁, searched, made⟩ := Lookup.bind_eq_some_iff.mp run
      obtain ⟨rfl, -, -⟩ := Lookup.pure_eq_some_iff.mp made
      obtain ⟨origin, link⟩ := resolver.finish_origin key found
      have source := Lookup.searchIndexes_source reached.isOwn searched
      exact ⟨source.of_sameOrigin origin, fun h => absurd h (Lookup.tier_source _ _ _ _).1,
        fun _ => link⟩

/-- A registry that declares a link of the label kept for the search. -/
def Site.withDeclaredSearch : Site :=
  { gets := [("https://pypi.org/pypi/foo/json",
      { status := 200
        body := Utf8.encode
          "\x7b\"info\":\x7b\"project_urls\":\x7b\"DevDocs\":\"x\"\x7d\x7d\x7d".toList })] }

theorem resolve_tier_declared : ∃ record m w,
    ({} : Resolver).resolve ⟨"foo", "foo", "bar", "bar", false, none⟩ {}
      { client := Site.withDeclaredSearch.client } = (some (record, m), w) ∧
    record.source = .pypi ∧ Binary64.ofRatio? false 75 100 = some record.confidence ∧
    record.links.get? "DevDocs" = some "https://devdocs.io/#q=bar" := by
  have own : World.IsOwn { client := Site.withDeclaredSearch.client } := fun _ mem => nomatch mem
  have answered : (({} : Resolver).resolve ⟨"foo", "foo", "bar", "bar", false, none⟩ {}
      { client := Site.withDeclaredSearch.client }).1.isSome := by decide +kernel
  obtain ⟨record, m, w, run⟩ := Lookup.exists_of_isSome answered
  obtain ⟨origin, -, link⟩ := resolve_tier (.start own) run
  have tier : ({} : Resolver).tier ⟨"foo", "foo", "bar", "bar", false, none⟩ {}
      { client := Site.withDeclaredSearch.client } = (.pypi, 75) := by decide +kernel
  rw [tier] at origin link
  exact ⟨record, m, w, run, origin.1, origin.2, link (by decide)⟩

end Resolver
end SymbolDocs
