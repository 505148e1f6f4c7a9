import SymbolDocs.Enrichment
import SymbolDocs.Proofs.Text.Names

namespace SymbolDocs

theorem foldl_eq_self {σ α : Type} {step : σ → α → σ} {s : σ} {as : List α}
    (idle : ∀ a ∈ as, step s a = s) :
    as.foldl step s = s := by
  induction as with
  | nil => rfl
  | cons a as ih =>
    rw [List.foldl_cons, idle a List.mem_cons_self]
    exact ih fun b mem => idle b (List.mem_cons_of_mem a mem)

namespace Record

variable {r s t : Record} {badge : Badge}

def badgeLabels (r : Record) : List Text := r.badges.map (·.label)

theorem any_label_iff : r.badges.any (·.label == badge.label) ↔ badge.label ∈ r.badgeLabels := by
  simp [badgeLabels]

theorem addBadge_of_mem (known : badge.label ∈ r.badgeLabels) : r.addBadge badge = r :=
  if_pos (any_label_iff.mpr known)

theorem addBadge_of_notMem (new : badge.label ∉ r.badgeLabels) :
    r.addBadge badge = { r with badges := r.badges ++ [badge] } :=
  if_neg fun known => new (any_label_iff.mp known)

theorem badgeLabels_addBadge (r : Record) (badge : Badge) :
    (r.addBadge badge).badgeLabels = Text.withName badge.label r.badgeLabels := by
  by_cases known : badge.label ∈ r.badgeLabels
  · rw [addBadge_of_mem known, Text.withName_of_mem known]
  · rw [addBadge_of_notMem known, Text.withName_of_notMem known, badgeLabels, badgeLabels,
      List.map_append, List.map_singleton]

theorem label_mem_addBadge (r : Record) (badge : Badge) :
    badge.label ∈ (r.addBadge badge).badgeLabels := by
  rw [badgeLabels_addBadge]
  exact Text.mem_withName.mpr (.inl rfl)

/-- Badges are added behind those there are. -/
theorem exists_addBadge_eq (r : Record) (badge : Badge) :
    ∃ more, r.addBadge badge = { r with badges := r.badges ++ more } := by
  by_cases known : badge.label ∈ r.badgeLabels
  · exact ⟨[], by rw [addBadge_of_mem known, List.append_nil]⟩
  · exact ⟨[badge], addBadge_of_notMem known⟩

theorem exists_addBadges_eq (badges : List Badge) (r : Record) :
    ∃ more, badges.foldl addBadge r = { r with badges := r.badges ++ more } := by
  induction badges generalizing r with
  | nil => exact ⟨[], by rw [List.append_nil]; rfl⟩
  | cons badge badges ih =>
    obtain ⟨more, added⟩ := exists_addBadge_eq r badge
    obtain ⟨more', added'⟩ := ih (r.addBadge badge)
    refine ⟨more ++ more', ?_⟩
    rw [List.foldl_cons, added', added, ← List.append_assoc]

/-- Badges are only added, and none of a label that is there. -/
structure GainsBadges (r s : Record) : Prop where
  kept : r.badges <+: s.badges
  distinct : r.badgeLabels.Nodup → s.badgeLabels.Nodup

theorem GainsBadges.of_badges_eq (same : s.badges = r.badges) : r.GainsBadges s where
  kept := same ▸ List.prefix_rfl
  distinct distinct := by
    rwa [badgeLabels, same]

theorem GainsBadges.trans (h : r.GainsBadges s) (h' : s.GainsBadges t) : r.GainsBadges t where
  kept := h.kept.trans h'.kept
  distinct distinct := h'.distinct (h.distinct distinct)

theorem GainsBadges.mem_badgeLabels (h : r.GainsBadges s) {label : Text}
    (mem : label ∈ r.badgeLabels) : label ∈ s.badgeLabels :=
  (h.kept.map (·.label)).subset mem

theorem gainsBadges_addBadge (r : Record) (badge : Badge) : r.GainsBadges (r.addBadge badge) where
  kept := by
    obtain ⟨more, added⟩ := exists_addBadge_eq r badge
    rw [added]
    exact List.prefix_append r.badges more
  distinct distinct := by
    rw [badgeLabels_addBadge]
    exact Text.nodup_withName distinct badge.label

theorem gainsBadges_addBadges (badges : List Badge) (r : Record) :
    r.GainsBadges (badges.foldl addBadge r) := by
  induction badges generalizing r with
  | nil => exact .of_badges_eq rfl
  | cons badge badges ih => exact (gainsBadges_addBadge r badge).trans (ih (r.addBadge badge))

theorem label_mem_addBadges {badges : List Badge} (mem : badge ∈ badges) (r : Record) :
    badge.label ∈ (badges.foldl addBadge r).badgeLabels := by
  induction badges generalizing r with
  | nil => cases mem
  | cons first badges ih =>
    rcases List.mem_cons.mp mem with rfl | mem
    · have gained := gainsBadges_addBadges badges (r.addBadge badge)
      exact gained.mem_badgeLabels (label_mem_addBadge r badge)
    · exact ih mem (r.addBadge first)

theorem addBadges_of_forall_mem {badges : List Badge}
    (known : ∀ badge ∈ badges, badge.label ∈ r.badgeLabels) : badges.foldl addBadge r = r :=
  foldl_eq_self fun badge mem => addBadge_of_mem (known badge mem)

theorem addBadges_addBadges (badges : List Badge) (r : Record) :
    badges.foldl addBadge (badges.foldl addBadge r) = badges.foldl addBadge r :=
  addBadges_of_forall_mem fun _ mem => label_mem_addBadges mem r

theorem exists_withStub_eq (r : Record) (stub : StubInfo) :
    ∃ more, r.withStub stub =
      { r with signature := r.signature.or stub.signature, badges := r.badges ++ more } := by
  obtain ⟨more, added⟩ := exists_addBadges_eq (stub.protocolHints.map hintBadge)
    { r with signature := r.signature.or stub.signature }
  exact ⟨more, added⟩

theorem gainsBadges_withStub (r : Record) (stub : StubInfo) : r.GainsBadges (r.withStub stub) := by
  have signed : r.GainsBadges { r with signature := r.signature.or stub.signature } :=
    .of_badges_eq rfl
  exact signed.trans (gainsBadges_addBadges (stub.protocolHints.map hintBadge) _)

end Record
end SymbolDocs
