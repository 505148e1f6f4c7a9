import SymbolDocs.Proofs.Text.Trim
import SymbolDocs.Web.World

namespace SymbolDocs

/-- The first seven bytes of the trimmed text end inside a character. -/
def IsCut (url : Text) : Prop :=
  7 ≤ (Text.trim url).byteLength ∧
    ∀ lead rest, Text.trim url = lead ++ rest → Text.byteLength lead ≠ 7

theorem withHttps?_eq_none_iff (url : Text) : withHttps? url = none ↔ IsCut url := by
  rw [withHttps?, IsCut]
  by_cases short : (Text.trim url).byteLength < 7
  · simp [short, Nat.not_le_of_lt short]
  · have long : 7 ≤ (Text.trim url).byteLength := Nat.le_of_not_lt short
    rw [if_neg short, Option.map_eq_none_iff, Option.eq_none_iff_forall_ne_some]
    simp only [long, true_and, ne_eq, Text.dropBytes?_eq_some_iff, not_exists, not_and]
    exact forall_comm

end SymbolDocs

namespace SymbolDocs.Web

variable {α β : Type} {x : Web α} {f : α → Web β} {w w' : World}

theorem bind_of_some {a : α} (h : x w = (some a, w')) (f : α → Web β) : (x >>= f) w = f a w' := by
  simp only [bind, OptionT.bind, OptionT.mk, StateT.bind, h]

theorem bind_of_none (h : x w = (none, w')) (f : α → Web β) : (x >>= f) w = (none, w') := by
  simp only [bind, OptionT.bind, OptionT.mk, StateT.bind, h]
  rfl

theorem bind_eq_some_iff {b : β} {w'' : World} :
    (x >>= f) w = (some b, w'') ↔ ∃ a w', x w = (some a, w') ∧ f a w' = (some b, w'') := by
  constructor
  · intro h
    rcases run : x w with ⟨_ | a, w'⟩
    · rw [bind_of_none run] at h
      cases h
    · exact ⟨a, w', rfl, bind_of_some run f ▸ h⟩
  · rintro ⟨a, w', run, h⟩
    rw [bind_of_some run, h]

/-- A value and a world with a relation between them, or no value and a world of another kind. -/
def EndsIn (post : α → World → Prop) (failed : World → Prop) : Option α × World → Prop
  | (some a, w) => post a w
  | (none, w) => failed w

/-- Where work on the web that begins in a world of some kind ends. -/
def Triple (pre : World → Prop) (x : Web α) (post : α → World → Prop) (failed : World → Prop) :
    Prop :=
  ∀ w, pre w → EndsIn post failed (x w)

theorem Triple.pure {pre failed : World → Prop} {post : α → World → Prop} {a : α}
    (h : ∀ w, pre w → post a w) : Triple pre (pure a) post failed := h

theorem Triple.bind {pre failed : World → Prop} {mid : α → World → Prop} {post : β → World → Prop}
    (hx : Triple pre x mid failed) (hf : ∀ a, Triple (mid a) (f a) post failed) :
    Triple pre (x >>= f) post failed := by
  intro w begins
  have ends := hx w begins
  rcases run : x w with ⟨_ | a, w'⟩
  · rw [run] at ends
    rw [bind_of_none run]
    exact ends
  · rw [run] at ends
    rw [bind_of_some run]
    exact hf a w' ends

theorem Triple.weaken {pre failed failed' : World → Prop} {post post' : α → World → Prop}
    (h : Triple pre x post failed) (weaker : ∀ a w, post a w → post' a w)
    (broken : ∀ w, failed w → failed' w) : Triple pre x post' failed' := by
  intro w begins
  have ends := h w begins
  rcases run : x w with ⟨_ | a, w'⟩
  · rw [run] at ends
    exact broken w' ends
  · rw [run] at ends
    exact weaker a w' ends

theorem EndsIn.of_some {post : α → World → Prop} {failed : World → Prop} {a : α}
    (ends : EndsIn post failed (x w)) (run : x w = (some a, w')) : post a w' := by
  rw [run] at ends
  exact ends

end SymbolDocs.Web
