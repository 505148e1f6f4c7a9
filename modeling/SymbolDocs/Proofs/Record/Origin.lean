import SymbolDocs.KeyBadges
import SymbolDocs.Lookup.Resolve
import SymbolDocs.Proofs.Record.Badges
import SymbolDocs.Proofs.Record.Links

namespace SymbolDocs

namespace Record

variable {key : SymbolKey} {r s : Record}

theorem exists_withKeyBadges_eq (key : SymbolKey) (r : Record) :
    ∃ badges related, withKeyBadges key r = { r with badges, related } := by
  obtain ⟨more, added⟩ := exists_addBadges_eq (keyBadges key r) r
  rw [withKeyBadges, added]
  split
  · exact ⟨_, _, rfl⟩
  · exact ⟨_, _, rfl⟩

theorem badges_withKeyBadges (key : SymbolKey) (r : Record) :
    (withKeyBadges key r).badges = ((keyBadges key r).foldl addBadge r).badges := by
  rw [withKeyBadges]
  split
  · rfl
  · rfl

theorem gainsBadges_withKeyBadges (key : SymbolKey) (r : Record) :
    r.GainsBadges (withKeyBadges key r) :=
  (gainsBadges_addBadges (keyBadges key r) r).trans (.of_badges_eq (badges_withKeyBadges key r))

/-- All that a key has to add is there. -/
structure IsDecorated (key : SymbolKey) (r : Record) : Prop where
  badges : ∀ badge ∈ keyBadges key r, badge.label ∈ r.badgeLabels
  related : r.related = [] → isDunder key.leafName → relatedMethods key.leafName = []

theorem keyBadges_of_kind_eq (same : s.kind = r.kind) : keyBadges key s = keyBadges key r := by
  simp only [keyBadges, same]

theorem isDecorated_withKeyBadges (key : SymbolKey) (r : Record) :
    (withKeyBadges key r).IsDecorated key where
  badges badge mem := by
    have kind : (withKeyBadges key r).kind = r.kind := by
      obtain ⟨badges, related, added⟩ := exists_withKeyBadges_eq key r
      rw [added]
    rw [keyBadges_of_kind_eq kind] at mem
    rw [badgeLabels, badges_withKeyBadges]
    exact label_mem_addBadges mem r
  related none dunder := by
    rw [withKeyBadges] at none
    split at none
    · exact none
    · next given =>
      rw [none, dunder] at given
      exact absurd rfl given

theorem withKeyBadges_of_isDecorated (h : r.IsDecorated key) : withKeyBadges key r = r := by
  rw [withKeyBadges, addBadges_of_forall_mem h.badges]
  split
  · next wanted =>
    obtain ⟨none, dunder⟩ := Bool.and_eq_true_iff.mp wanted
    have none : r.related = [] := List.isEmpty_iff.mp none
    rw [h.related none dunder, ← none]
  · rfl

/-- Badges that come later leave nothing to add. -/
theorem IsDecorated.of_gainsBadges (h : r.IsDecorated key) (kind : s.kind = r.kind)
    (related : s.related = r.related) (gained : r.GainsBadges s) : s.IsDecorated key where
  badges badge mem := by
    rw [keyBadges_of_kind_eq kind] at mem
    exact gained.mem_badgeLabels (h.badges badge mem)
  related none := h.related (related.symm.trans none)

/-- The record says the same about where it comes from. -/
def SameOrigin (r r' : Record) : Prop := r'.source = r.source ∧ r'.confidence = r.confidence

theorem SameOrigin.trans {r r' r'' : Record} (h : r.SameOrigin r') (h' : r'.SameOrigin r'') :
    r.SameOrigin r'' := ⟨h'.1.trans h.1, h'.2.trans h.2⟩

/-- The registry adds links and badges. -/
theorem exists_withRegistry_eq (r : Record) (info : RegistryInfo) :
    ∃ badges, r.withRegistry info =
      { r with links := r.links.setAllNew info.links, badges } := by
  rw [withRegistry]
  cases info.releaseBadge? with
  | none => exact ⟨r.badges, rfl⟩
  | some badge =>
    obtain ⟨more, added⟩ := exists_addBadge_eq { r with links := r.links.setAllNew info.links } badge
    exact ⟨r.badges ++ more, added⟩

theorem withRegistry_origin (r : Record) (info : RegistryInfo) :
    r.SameOrigin (r.withRegistry info) := by
  obtain ⟨badges, added⟩ := exists_withRegistry_eq r info
  rw [added]
  exact ⟨rfl, rfl⟩

end Record

namespace Resolver

theorem exists_signedFromStubs_eq (resolver : Resolver) (key : SymbolKey) (r : Record) :
    ∃ signature badges, resolver.signedFromStubs key r = { r with signature, badges } := by
  rw [signedFromStubs]
  split
  · exact ⟨r.signature, r.badges, rfl⟩
  · cases resolver.stubs.bind (·.symbol? key.module key.fullName) with
    | none => exact ⟨r.signature, r.badges, rfl⟩
    | some stub =>
      obtain ⟨more, added⟩ := Record.exists_withStub_eq r stub
      exact ⟨_, _, added⟩

/-- The last steps set the link to a search, and otherwise change badges, related methods and the
signature only. -/
theorem exists_finish_eq (resolver : Resolver) (key : SymbolKey) (r : Record) :
    ∃ signature badges related, resolver.finish key r =
      { r with
        signature
        badges
        related
        links := r.links.set aggregatorLabel
          (resolver.config.aggregatorSearchUrl key.searchTerm) } := by
  obtain ⟨badges, related, decorated⟩ := Record.exists_withKeyBadges_eq key r
  obtain ⟨signature, badges', signed⟩ := resolver.exists_signedFromStubs_eq key
    ((withKeyBadges key r).addLink aggregatorLabel
      (resolver.config.aggregatorSearchUrl key.searchTerm))
  refine ⟨signature, badges', related, ?_⟩
  rw [finish, signed, decorated, Record.addLink]

/-- The last steps keep the origin and end with the link to a search. -/
theorem finish_origin (resolver : Resolver) (key : SymbolKey) (r : Record) :
    r.SameOrigin (resolver.finish key r) ∧ (resolver.finish key r).links.get? aggregatorLabel =
      some (resolver.config.aggregatorSearchUrl key.searchTerm) := by
  obtain ⟨signature, badges, related, finished⟩ := resolver.exists_finish_eq key r
  rw [finished]
  refine ⟨⟨rfl, rfl⟩, ?_⟩
  rw [Links.get?_set, if_pos rfl]

end Resolver
end SymbolDocs
