import SymbolDocs.Proofs.Record.Origin
import SymbolDocs.Proofs.Text.Trim

namespace SymbolDocs

theorem RegistryInfo.releaseBadge?_of_version {info : RegistryInfo} {version : Text}
    (released : info.version = some version) (visible : ¬ Text.isBlank version) :
    info.releaseBadge? = some ⟨'v' :: Text.trim version, some "Latest release on PyPI"⟩ := by
  have shown : ¬ (Text.trim version).isEmpty := Text.not_isEmpty_trim visible
  have read : Text.nonBlank? version = some (Text.trim version) := if_neg shown
  rw [releaseBadge?, released, Option.bind_some, read, Option.map_some]

namespace Record

theorem gainsBadges_withRegistry (r : Record) (info : RegistryInfo) :
    r.GainsBadges (r.withRegistry info) := by
  rw [withRegistry]
  cases info.releaseBadge? with
  | none => exact .of_badges_eq rfl
  | some badge =>
    have linked : r.GainsBadges { r with links := r.links.setAllNew info.links } :=
      .of_badges_eq rfl
    exact linked.trans (gainsBadges_addBadge _ badge)

theorem label_mem_withRegistry {info : RegistryInfo} {badge : Badge}
    (released : info.releaseBadge? = some badge) (r : Record) :
    badge.label ∈ (r.withRegistry info).badgeLabels := by
  rw [withRegistry, released]
  exact label_mem_addBadge _ badge

end Record

namespace Resolver

variable (resolver : Resolver) (key : SymbolKey) (r : Record)

theorem gainsBadges_signedFromStubs : r.GainsBadges (resolver.signedFromStubs key r) := by
  rw [signedFromStubs]
  split
  · exact .of_badges_eq rfl
  · cases resolver.stubs.bind (·.symbol? key.module key.fullName) with
    | none => exact .of_badges_eq rfl
    | some stub => exact r.gainsBadges_withStub stub

theorem gainsBadges_withKeyBadges_finish :
    (withKeyBadges key r).GainsBadges (resolver.finish key r) := by
  have linked : (withKeyBadges key r).GainsBadges ((withKeyBadges key r).addLink aggregatorLabel
      (resolver.config.aggregatorSearchUrl key.searchTerm)) := .of_badges_eq rfl
  exact linked.trans (resolver.gainsBadges_signedFromStubs key _)

theorem gainsBadges_finish : r.GainsBadges (resolver.finish key r) :=
  (r.gainsBadges_withKeyBadges key).trans (resolver.gainsBadges_withKeyBadges_finish key r)

/-- The last steps leave nothing for the key to add. -/
theorem withKeyBadges_finish :
    withKeyBadges key (resolver.finish key r) = resolver.finish key r := by
  obtain ⟨signature, badges, signed⟩ := resolver.exists_signedFromStubs_eq key
    ((withKeyBadges key r).addLink aggregatorLabel
      (resolver.config.aggregatorSearchUrl key.searchTerm))
  have kind : (resolver.finish key r).kind = (withKeyBadges key r).kind := by
    rw [finish, signed, Record.addLink]
  have related : (resolver.finish key r).related = (withKeyBadges key r).related := by
    rw [finish, signed, Record.addLink]
  have gained := resolver.gainsBadges_withKeyBadges_finish key r
  have decorated := (r.isDecorated_withKeyBadges key).of_gainsBadges kind related gained
  exact Record.withKeyBadges_of_isDecorated decorated

end Resolver

/-- The record of a key whose inventory has a hit and whose package is in the registry. The hit
comes before the registry, and the link to a search before both. -/
structure Record.IsMerged (record hit : Record) (info : RegistryInfo) (key : SymbolKey)
    (search : Text) : Prop where
  title : record.title = hit.title
  kind : record.kind = hit.kind
  url : record.url = hit.url
  source : record.source = hit.source
  confidence : record.confidence = hit.confidence
  links (label : Text) : record.links.get? label =
    if label = aggregatorLabel then some search
    else (hit.links.get? label).or (Links.get? label info.links)
  sorted : hit.links.IsSorted → record.links.IsSorted
  distinct : hit.badgeLabels.Nodup → record.badgeLabels.Nodup
  released {version : Text} : info.version = some version → ¬ Text.isBlank version →
    'v' :: Text.trim version ∈ record.badgeLabels
  decorated : withKeyBadges key record = record

/-- A summary from the page, the registry and the last steps merge a hit with the registry. -/
theorem Resolver.isMerged_finish (resolver : Resolver) (key : SymbolKey) (hit : Record)
    (summary : Option Text) (info : RegistryInfo) :
    (resolver.finish key ({ hit with summary }.withRegistry info)).IsMerged hit info key
      (resolver.config.aggregatorSearchUrl key.searchTerm) := by
  have read : hit.GainsBadges { hit with summary } := .of_badges_eq rfl
  have listed := { hit with summary }.gainsBadges_withRegistry info
  have finished := resolver.gainsBadges_finish key ({ hit with summary }.withRegistry info)
  have decorated := resolver.withKeyBadges_finish key ({ hit with summary }.withRegistry info)
  have released {version : Text} (given : info.version = some version)
      (visible : ¬ Text.isBlank version) : 'v' :: Text.trim version ∈
        (resolver.finish key ({ hit with summary }.withRegistry info)).badgeLabels := by
    have badge := RegistryInfo.releaseBadge?_of_version given visible
    exact finished.mem_badgeLabels (Record.label_mem_withRegistry badge _)
  have distinct := ((read.trans listed).trans finished).distinct
  obtain ⟨badges, linked⟩ := { hit with summary }.exists_withRegistry_eq info
  obtain ⟨signature, badges', related, ended⟩ :=
    resolver.exists_finish_eq key ({ hit with summary }.withRegistry info)
  rw [ended, linked] at released decorated distinct ⊢
  exact
    { title := rfl, kind := rfl, url := rfl, source := rfl, confidence := rfl
      links := fun label => by rw [Links.get?_set, Links.get?_setAllNew]
      sorted := fun sorted => (sorted.setAllNew info.links).set _ _
      distinct, released, decorated }

end SymbolDocs
