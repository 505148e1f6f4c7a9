import Mathlib.Data.List.Infix
import SymbolDocs.Text.Replace

namespace SymbolDocs.Text

variable {sub : Substitution}

theorem getLast?_cons_or (c : Char) (s : Text) (prev : Option Char) :
    (c :: s).getLast?.or prev = s.getLast?.or (some c) := by
  rw [List.getLast?_cons]
  cases s.getLast? <;> rfl

/-- What has made way is passed over. -/
theorem substituteFrom_length (lead rest : Text) (prev : Option Char) :
    substituteFrom sub lead.length prev (lead ++ rest) =
      substituteFrom sub 0 (lead.getLast?.or prev) rest := by
  induction lead generalizing prev with
  | nil => rfl
  | cons c lead ih =>
    rw [List.cons_append, List.length_cons, substituteFrom, ih, getLast?_cons_or]

theorem substituteFrom_of_some {prev : Option Char} {lead rest replacement : Text}
    (ne : lead ≠ []) (found : sub prev (lead ++ rest) = some (replacement, lead.length)) :
    substituteFrom sub 0 prev (lead ++ rest) =
      replacement ++ substituteFrom sub 0 lead.getLast? rest := by
  obtain ⟨c, lead, rfl⟩ := List.exists_cons_of_ne_nil ne
  have behind := @substituteFrom_length sub lead rest (some c)
  have last : (c :: lead).getLast? = lead.getLast?.or (some c) := by
    rw [← getLast?_cons_or c lead none, Option.or_none]
  rw [List.cons_append] at found ⊢
  simp only [substituteFrom, found, List.length_cons, Nat.add_sub_cancel]
  rw [behind, last]

/-- A part of a text stays as it is where nothing starts in it that is substituted. -/
theorem substituteFrom_of_none {prev : Option Char} {part : Text} (behind : Text)
    (none : ∀ lead rest, part = lead ++ rest → rest ≠ [] →
      sub (lead.getLast?.or prev) (rest ++ behind) = none) :
    substituteFrom sub 0 prev (part ++ behind) =
      part ++ substituteFrom sub 0 (part.getLast?.or prev) behind := by
  induction part generalizing prev with
  | nil => rfl
  | cons c part ih =>
    have here : sub prev (c :: (part ++ behind)) = .none :=
      none [] (c :: part) rfl (List.cons_ne_nil c part)
    have later := @ih (some c) fun lead rest eq ne => by
      have next := none (c :: lead) rest (by rw [eq, List.cons_append]) ne
      rwa [getLast?_cons_or] at next
    simp only [List.cons_append, substituteFrom, here]
    rw [later, getLast?_cons_or]

theorem substitute_eq_self {s : Text}
    (none : ∀ lead rest, s = lead ++ rest → sub lead.getLast? rest = none) :
    substitute sub s = s := by
  have whole := @substituteFrom_of_none sub .none s [] fun lead rest eq _ => by
    rw [Option.or_none, List.append_nil]
    exact none lead rest eq
  rw [List.append_nil] at whole
  exact whole.trans (List.append_nil s)

theorem substitute_of_not_mem {s : Text} {c : Char}
    (needs : ∀ prev rest way, sub prev rest = some way → c ∈ rest) (absent : c ∉ s) :
    substitute sub s = s := by
  refine substitute_eq_self fun lead rest eq => ?_
  by_contra found
  obtain ⟨way, found⟩ := Option.ne_none_iff_exists'.mp found
  exact absent (eq ▸ List.mem_append_right lead (needs _ rest way found))

/-- A text is done in two parts if nothing that starts in the first part depends on the second
one. -/
theorem substituteFrom_append {part behind : Text}
    (same : ∀ rest, rest <:+ part → rest ≠ [] → ∀ prev, sub prev (rest ++ behind) = sub prev rest)
    (fits : ∀ rest, rest <:+ part → ∀ prev replacement count,
      sub prev rest = some (replacement, count) → count ≤ rest.length)
    {skip : Nat} (room : skip ≤ part.length) (prev : Option Char) :
    substituteFrom sub skip prev (part ++ behind) =
      substituteFrom sub skip prev part ++
        substituteFrom sub 0 (part.getLast?.or prev) behind := by
  induction part generalizing skip prev with
  | nil =>
    obtain rfl : skip = 0 := Nat.le_zero.mp room
    rfl
  | cons c part ih =>
    have inside := List.suffix_cons c part
    have later := @ih (fun rest ends => same rest (ends.trans inside))
      (fun rest ends => fits rest (ends.trans inside))
    have here := same (c :: part) (List.suffix_refl _) (List.cons_ne_nil c part) prev
    rw [List.cons_append] at here ⊢
    rw [getLast?_cons_or]
    cases skip with
    | succ skip =>
      rw [substituteFrom, substituteFrom]
      exact later (Nat.le_of_succ_le_succ room) (some c)
    | zero =>
      rw [substituteFrom, substituteFrom, here]
      cases found : sub prev (c :: part) with
      | none =>
        simp only [later (Nat.zero_le _) (some c), List.cons_append]
      | some way =>
        obtain ⟨replacement, count⟩ := way
        have small := fits (c :: part) (List.suffix_refl _) prev replacement count found
        rw [List.length_cons] at small
        have room : count - 1 ≤ part.length := by omega
        simp only [later room (some c), List.append_assoc]

end SymbolDocs.Text
