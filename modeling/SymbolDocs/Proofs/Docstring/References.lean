import SymbolDocs.Proofs.Docstring.Mentions
import SymbolDocs.Proofs.Text.Visible

namespace SymbolDocs.Reference

open Text

theorem not_isBlank_proposalLink (digits : Text) : ¬ isBlank (proposalLink digits) := by
  rw [proposalLink]
  split
  · exact not_isBlank_cons (by decide) _
  · exact not_isBlank_cons (by decide) _

theorem keepsVisible_proposalRole : Substitution.KeepsVisible proposalRole := by
  intro prev s replacement count found
  obtain ⟨rest, lead, found⟩ := Option.bind_eq_some_iff.mp found
  refine ⟨?_, ':', _, after?_eq_some_iff.mp lead, by decide⟩
  dsimp only at found
  split at found
  · rw [← (Prod.mk.inj (Option.some.inj found)).1]
    exact not_isBlank_proposalLink _
  · cases found

theorem keepsVisible_externalLink : Substitution.KeepsVisible externalLink := by
  intro prev s replacement count found
  unfold externalLink at found
  split at found
  · next body =>
    obtain ⟨⟨label, target, rest⟩, _, found⟩ := Option.bind_eq_some_iff.mp found
    obtain ⟨rest, _, found⟩ := Option.bind_eq_some_iff.mp found
    refine ⟨?_, _, _, rfl, by decide⟩
    rw [← (Prod.mk.inj (Option.some.inj found)).1]
    exact not_isBlank_cons (by decide) _
  · cases found

theorem exists_of_afterRole? {domain : Text} {roles : List Text} {s body : Text}
    (role : afterRole? domain roles s = some body) : ∃ rest, s = ':' :: rest := by
  rw [afterRole?.eq_def] at role
  split at role
  · exact ⟨_, rfl⟩
  · cases role

theorem keepsVisible_placeRole : Substitution.KeepsVisible placeRole := by
  intro prev s replacement count found
  obtain ⟨body, role, found⟩ := Option.bind_eq_some_iff.mp found
  obtain ⟨⟨label, rest⟩, _, found⟩ := Option.bind_eq_some_iff.mp found
  obtain ⟨tail, colon⟩ := exists_of_afterRole? role
  refine ⟨?_, ':', tail, colon, by decide⟩
  rw [← (Prod.mk.inj (Option.some.inj found)).1]
  exact not_isBlank_cons (by decide) _

theorem keepsVisible_definitionRole : Substitution.KeepsVisible definitionRole := by
  intro prev s replacement count found
  obtain ⟨body, role, found⟩ := Option.bind_eq_some_iff.mp found
  obtain ⟨⟨target, rest⟩, _, found⟩ := Option.bind_eq_some_iff.mp found
  obtain ⟨tail, colon⟩ := exists_of_afterRole? role
  refine ⟨?_, ':', tail, colon, by decide⟩
  rw [← (Prod.mk.inj (Option.some.inj found)).1]
  exact not_isBlank_cons (by decide) _

theorem keepsVisible_proposalMention : Substitution.KeepsVisible proposalMention := by
  intro prev s replacement count found
  obtain ⟨m, after, rfl, _, _, rfl, _⟩ := proposalMention_eq_some_iff.mp found
  refine ⟨?_, 'P', _, rfl, by decide⟩
  rw [Mention.shown]
  split
  · exact not_isBlank_cons (by decide) _
  · exact not_isBlank_proposalLink _

/-- Links take the place of visible text only. -/
theorem isBlank_toMarkdown (s : Text) : isBlank (toMarkdown s) = isBlank s := by
  rw [toMarkdown, linkProposals, isBlank_substitute keepsVisible_proposalMention]
  simp only [List.foldl_cons, List.foldl_nil, flip,
    isBlank_substitute keepsVisible_proposalRole, isBlank_substitute keepsVisible_externalLink,
    isBlank_substitute keepsVisible_placeRole, isBlank_substitute keepsVisible_definitionRole]

section LinkFree

theorem tick_mem_of_proposalRole (prev : Option Char) (s : Text) (way : Text × Nat)
    (found : proposalRole prev s = some way) : '`' ∈ s := by
  obtain ⟨rest, lead, _⟩ := Option.bind_eq_some_iff.mp found
  rw [after?_eq_some_iff.mp lead]
  exact List.mem_append_left rest (by decide)

theorem tick_mem_of_externalLink (prev : Option Char) (s : Text) (way : Text × Nat)
    (found : externalLink prev s = some way) : '`' ∈ s := by
  unfold externalLink at found
  split at found
  · exact List.mem_cons_self
  · cases found

theorem tick_mem_of_afterRole? {domain : Text} {roles : List Text} {s body : Text}
    (role : afterRole? domain roles s = some body) : '`' ∈ s := by
  have plain : ∀ t : Text,
      (roles.findSome? fun role => after? (role ++ [':', '`']) t) = some body → '`' ∈ t := by
    intro t found
    obtain ⟨role, _, lead⟩ := List.exists_of_findSome?_eq_some found
    rw [after?_eq_some_iff.mp lead]
    simp
  rw [afterRole?.eq_def] at role
  split at role
  · next t =>
    refine List.mem_cons_of_mem ':' ?_
    rcases Option.or_eq_some_iff.mp role with within | ⟨_, bare⟩
    · obtain ⟨rest, lead, found⟩ := Option.bind_eq_some_iff.mp within
      rw [after?_eq_some_iff.mp lead]
      exact List.mem_append_right _ (plain rest found)
    · exact plain t bare
  · cases role

theorem tick_mem_of_placeRole (prev : Option Char) (s : Text) (way : Text × Nat)
    (found : placeRole prev s = some way) : '`' ∈ s := by
  obtain ⟨body, role, _⟩ := Option.bind_eq_some_iff.mp found
  exact tick_mem_of_afterRole? role

theorem tick_mem_of_definitionRole (prev : Option Char) (s : Text) (way : Text × Nat)
    (found : definitionRole prev s = some way) : '`' ∈ s := by
  obtain ⟨body, role, _⟩ := Option.bind_eq_some_iff.mp found
  exact tick_mem_of_afterRole? role

theorem linkProposals_of_not_infix {s : Text} (absent : ¬ ("PEP" : Text) <:+: s) :
    linkProposals s = s := by
  refine linkProposals_of_hasNoMention fun m before after stands => absent ?_
  have name : ("PEP" : Text) <+: m.text := ⟨m.gap ++ m.digits, rfl⟩
  rw [stands.eq]
  exact name.isInfix.trans ⟨before, after, List.append_assoc _ _ _⟩

/-- Nothing in the text is taken for a reference. -/
def IsLinkFree (s : Text) : Prop := '`' ∉ s ∧ ¬ ("PEP" : Text) <:+: s

instance (s : Text) : Decidable (IsLinkFree s) :=
  inferInstanceAs (Decidable ('`' ∉ s ∧ ¬ ("PEP" : Text) <:+: s))

theorem toMarkdown_of_isLinkFree {s : Text} (free : IsLinkFree s) : toMarkdown s = s := by
  rw [toMarkdown]
  simp only [List.foldl_cons, List.foldl_nil, flip,
    substitute_of_not_mem tick_mem_of_proposalRole free.1,
    substitute_of_not_mem tick_mem_of_externalLink free.1,
    substitute_of_not_mem tick_mem_of_placeRole free.1,
    substitute_of_not_mem tick_mem_of_definitionRole free.1]
  exact linkProposals_of_not_infix free.2

/-- References are told from the words alone. -/
theorem isLinkFree_iff_words {s : Text} : IsLinkFree s ↔ ∀ w ∈ words s, IsLinkFree w := by
  constructor
  · intro free w mem
    have inside := infix_of_mem_words mem
    exact ⟨fun tick => free.1 (inside.subset tick), fun name => free.2 (name.trans inside)⟩
  · intro free
    constructor
    · intro tick
      obtain ⟨w, mem, inside⟩ := exists_mem_words_infix (show IsWord ['`'] by decide)
        ((List.singleton_infix_iff _ _).mpr tick)
      exact (free w mem).1 ((List.singleton_infix_iff _ _).mp inside)
    · intro name
      obtain ⟨w, mem, inside⟩ := exists_mem_words_infix (show IsWord "PEP" by decide) name
      exact (free w mem).2 inside

theorem IsLinkFree.of_words {s t : Text} (free : IsLinkFree s) (inside : words t ⊆ words s) :
    IsLinkFree t :=
  isLinkFree_iff_words.mpr fun w mem => isLinkFree_iff_words.mp free w (inside mem)

theorem isLinkFree_joinWith {texts : List Text} (free : ∀ text ∈ texts, IsLinkFree text) :
    IsLinkFree (joinWith " " texts) := by
  rw [isLinkFree_iff_words, words_joinWith_eq_flatMap (by decide) (by decide)]
  intro w mem
  obtain ⟨text, inside, mem⟩ := List.mem_flatMap.mp mem
  exact isLinkFree_iff_words.mp (free text inside) w mem

end LinkFree

end SymbolDocs.Reference
