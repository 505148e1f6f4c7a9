import Mathlib.Data.List.Induction
import SymbolDocs.Text.Basic

namespace SymbolDocs.Text

/-- Names with one more, which goes last if it is new. -/
def withName (name : Text) (names : List Text) : List Text :=
  if name ∈ names then names else names ++ [name]

variable {name first : Text} {names : List Text}

theorem mem_withName {other : Text} :
    other ∈ withName name names ↔ other = name ∨ other ∈ names := by
  rw [withName]
  split
  · next known => exact ⟨.inr, fun h => h.elim (fun same => same ▸ known) id⟩
  · rw [List.mem_append, List.mem_singleton, or_comm]

theorem withName_of_mem (known : name ∈ names) : withName name names = names := if_pos known

theorem withName_of_notMem (new : name ∉ names) : withName name names = names ++ [name] :=
  if_neg new

theorem withName_cons_self : withName name (name :: names) = name :: names :=
  withName_of_mem List.mem_cons_self

theorem withName_cons_of_ne (apart : first ≠ name) :
    withName name (first :: names) = first :: withName name names := by
  by_cases known : name ∈ names
  · rw [withName_of_mem known, withName_of_mem (List.mem_cons_of_mem first known)]
  · have new : name ∉ first :: names := by simp [Ne.symm apart, known]
    rw [withName_of_notMem known, withName_of_notMem new, List.cons_append]

theorem nodup_withName (distinct : names.Nodup) (name : Text) : (withName name names).Nodup := by
  by_cases known : name ∈ names
  · rwa [withName_of_mem known]
  · rw [withName_of_notMem known]
    refine List.nodup_append.mpr ⟨distinct, by simp, fun old mem last single same => ?_⟩
    rw [List.mem_singleton.mp single] at same
    exact known (same ▸ mem)

theorem eraseDups_concat (names : List Text) (name : Text) :
    (names ++ [name]).eraseDups = withName name names.eraseDups := by
  rw [List.eraseDups_append]
  by_cases known : name ∈ names
  · have none : [name].removeAll names = [] := by simp [List.removeAll, known]
    rw [none, withName_of_mem (List.mem_eraseDups.mpr known)]
    exact List.append_nil _
  · have all : [name].removeAll names = [name] := by simp [List.removeAll, known]
    rw [all, withName_of_notMem (mt List.mem_eraseDups.mp known)]
    rfl

/-- Names that are added one by one stand in the order of their first occurrence. -/
theorem foldl_withName_nil (names : List Text) :
    names.foldl (fun seen name => withName name seen) [] = names.eraseDups := by
  induction names using List.reverseRecOn with
  | nil => rfl
  | append_singleton names name ih =>
    rw [List.foldl_append, ih, eraseDups_concat]
    rfl

theorem nodup_eraseDups (names : List Text) : names.eraseDups.Nodup := by
  induction names using List.reverseRecOn with
  | nil => exact List.nodup_nil
  | append_singleton names name ih =>
    rw [eraseDups_concat]
    exact nodup_withName ih name

end SymbolDocs.Text
