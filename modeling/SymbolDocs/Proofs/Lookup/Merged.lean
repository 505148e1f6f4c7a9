import SymbolDocs.Proofs.Lookup.Tiers
import SymbolDocs.Proofs.Record.Merged

namespace SymbolDocs

variable {key : SymbolKey} {m m₁ m₂ m' : Memory} {w w₁ w₂ w' : World} {hit record : Record}
  {info : RegistryInfo}

/-- A hit of a package in the registry gets a summary from its page and then the registry. -/
theorem Lookup.exists_eq_of_searchIndexes {c : Config}
    (found : find? c key m w = (some (some hit, m₁), w₁))
    (known : registryFor? c key m₁ w₁ = (some (some info, m₂), w₂))
    (run : searchIndexes c key m w = (some (record, m'), w')) :
    ∃ summary, record = { hit with summary }.withRegistry info := by
  rw [searchIndexes] at run
  obtain ⟨hit', m₁', w₁', found', run⟩ := bind_eq_some_iff.mp run
  cases found.symm.trans found'
  obtain ⟨info', m₂', w₂', known', run⟩ := bind_eq_some_iff.mp run
  cases known.symm.trans known'
  obtain ⟨r, m₃, w₃, read, made⟩ := bind_eq_some_iff.mp run
  obtain ⟨summary, rfl⟩ := exists_eq_of_withPage read
  obtain ⟨rfl, -, -⟩ := pure_eq_some_iff.mp made
  exact ⟨summary, rfl⟩

namespace Resolver

/-- The indexes are searched for the key. -/
structure LooksUp (resolver : Resolver) (key : SymbolKey) : Prop where
  named : key.searchTerm ≠ []
  isName : key.isName
  unlisted : referenceRecord? resolver.config key = none

variable {resolver : Resolver}

theorem LooksUp.resolve_eq (looked : resolver.LooksUp key) : resolver.resolve key =
    Lookup.searchIndexes resolver.config key >>= fun r => pure (resolver.finish key r) := by
  have named : ¬ key.searchTerm.isEmpty := fun empty => looked.named (List.isEmpty_iff.mp empty)
  have isName : ¬ (!key.isName) := by
    rw [looked.isName]
    exact Bool.false_ne_true
  rw [resolve, if_neg named, if_neg isName, looked.unlisted]

/-- The answer for a key that its inventory has and whose package the registry knows is the
inventory's, and the registry only adds to it. Its links and badges are distinct if the store is the
library's own. -/
theorem resolve_merged (looked : resolver.LooksUp key)
    (found : Lookup.find? resolver.config key m w = (some (some hit, m₁), w₁))
    (known : Lookup.registryFor? resolver.config key m₁ w₁ = (some (some info, m₂), w₂))
    (run : resolver.resolve key m w = (some (record, m'), w')) :
    record.IsMerged hit info key (resolver.config.aggregatorSearchUrl key.searchTerm) ∧
    (Lookup.IsOwn m w → record.links.IsSorted ∧ record.badgeLabels.Nodup) := by
  rw [looked.resolve_eq] at run
  obtain ⟨r, m₃, w₃, searched, made⟩ := Lookup.bind_eq_some_iff.mp run
  obtain ⟨rfl, -, -⟩ := Lookup.pure_eq_some_iff.mp made
  obtain ⟨summary, rfl⟩ := Lookup.exists_eq_of_searchIndexes found known searched
  have merged := resolver.isMerged_finish key hit summary info
  refine ⟨merged, fun own => ?_⟩
  obtain ⟨base, item, rfl⟩ := Lookup.exists_item_of_find? own found
  exact ⟨merged.sorted Links.isSorted_nil, merged.distinct List.nodup_nil⟩

/-- The function `bar` of a package `foo`. -/
def inventoriedItem : InventoryItem := ⟨"foo.bar", "py:function", 1, "api.html#$", "-"⟩

/-- What a registry says that gives labels twice, one of them that of the search. -/
def repeatingRegistry : RegistryInfo where
  version := some " 2.0 "
  homePage := some "https://foo.dev"
  projectUrls := some [("Homepage", "https://foo.org"), (" DevDocs ", "https://foo.org/docs")]

/-- Both have been asked for before. -/
def memoryOfBoth : Memory where
  inventories := [("inventory:foo:latest", SymbolMap.ofItems [inventoriedItem] "https://foo.dev/")]
  registry := [("foo", some repeatingRegistry)]

theorem resolve_merged_repeating : ∃ record m w,
    ({} : Resolver).resolve ⟨"foo", "foo", "bar", "bar", false, none⟩ memoryOfBoth
      { client := ({} : Site).client } = (some (record, m), w) ∧
    record.url = some "https://foo.dev/api.html#foo.bar" ∧
    record.links.get? "Homepage" = some "https://foo.dev" ∧
    record.links.get? "DevDocs" = some "https://devdocs.io/#q=bar" ∧
    "v2.0".toList ∈ record.badgeLabels ∧ record.badgeLabels.Nodup := by
  have answered : (({} : Resolver).resolve ⟨"foo", "foo", "bar", "bar", false, none⟩ memoryOfBoth
      { client := ({} : Site).client }).1.isSome := by decide +kernel
  obtain ⟨record, m, w, run⟩ := Lookup.exists_of_isSome answered
  have looked : ({} : Resolver).LooksUp ⟨"foo", "foo", "bar", "bar", false, none⟩ :=
    ⟨by decide, by decide, by decide⟩
  have built : SymbolMap.IsBuilt (SymbolMap.ofItems [inventoriedItem] "https://foo.dev/") :=
    ⟨_, _, rfl⟩
  have own : Lookup.IsOwn memoryOfBoth { client := ({} : Site).client } :=
    ⟨fun pair mem => List.mem_singleton.mp mem ▸ built, fun _ mem => nomatch mem⟩
  have found : Lookup.find? {} ⟨"foo", "foo", "bar", "bar", false, none⟩ memoryOfBoth
      { client := ({} : Site).client } = (some (some (inventoriedItem.record "https://foo.dev/"),
        memoryOfBoth), { client := ({} : Site).client }) := rfl
  have known : Lookup.registryFor? {} ⟨"foo", "foo", "bar", "bar", false, none⟩ memoryOfBoth
      { client := ({} : Site).client } = (some (some repeatingRegistry, memoryOfBoth),
        { client := ({} : Site).client }) := rfl
  obtain ⟨merged, distinct⟩ := resolve_merged looked found known run
  have address := merged.url
  have homepage := merged.links "Homepage"
  have search := merged.links "DevDocs"
  have released := merged.released rfl (by decide)
  exact ⟨record, m, w, run, address.trans (by decide), homepage.trans (by decide),
    search.trans (by decide), released, (distinct own).2⟩

end Resolver
end SymbolDocs
