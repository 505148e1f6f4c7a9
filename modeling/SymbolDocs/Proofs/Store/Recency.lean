import Mathlib.Data.List.Dedup
import Mathlib.Data.List.DropRight
import SymbolDocs.Store.Basic

namespace SymbolDocs

/-- What is asked of a store. -/
inductive StoreAct where
  | get (key : Text)
  | set (key value : Text)
  | clear
  deriving DecidableEq, Repr

namespace StoreAct

def entry? : StoreAct → Option (Text × Text)
  | set key value => some (key, value)
  | _ => none

/-- The entries set since the store was last cleared, in the order of time. -/
def written (acts : List StoreAct) : List (Text × Text) :=
  (acts.rtakeWhile (· != clear)).filterMap entry?

/-- The keys set since then, each once, in the order in which they were last set. -/
def recentKeys (acts : List StoreAct) : List Text := ((written acts).map (·.1)).dedup

/-- What a key was last set to since then. -/
def latest? (acts : List StoreAct) (key : Text) : Option Text := (written acts).reverse.lookup key

variable {acts : List StoreAct} {key value : Text}

theorem written_get : written (acts ++ [get key]) = written acts := by
  rw [written, List.rtakeWhile_concat_pos _ _ _ (by simp), List.filterMap_append]
  exact List.append_nil _

theorem written_set : written (acts ++ [set key value]) = written acts ++ [(key, value)] := by
  rw [written, List.rtakeWhile_concat_pos _ _ _ (by simp), List.filterMap_append]
  rfl

theorem written_clear : written (acts ++ [clear]) = [] := by
  rw [written, List.rtakeWhile_concat_neg _ _ _ (by simp)]
  rfl

theorem dedup_concat (keys : List Text) (key : Text) :
    (keys ++ [key]).dedup = keys.dedup.filter (· != key) ++ [key] := by
  induction keys with
  | nil => simp
  | cons first keys ih =>
    rw [List.cons_append]
    by_cases again : first ∈ keys
    · rw [List.dedup_cons_of_mem (List.mem_append_left _ again), List.dedup_cons_of_mem again, ih]
    · rw [List.dedup_cons_of_notMem again]
      by_cases same : first = key
      · rw [List.dedup_cons_of_mem (by simp [same]), ih, List.filter_cons_of_neg (by simp [same])]
      · rw [List.dedup_cons_of_notMem (by simp [again, same]), ih,
          List.filter_cons_of_pos (by simp [same]), List.cons_append]

theorem recentKeys_set :
    recentKeys (acts ++ [set key value]) = (recentKeys acts).filter (· != key) ++ [key] := by
  rw [recentKeys, written_set, List.map_append]
  exact dedup_concat _ key

theorem latest?_set (other : Text) : latest? (acts ++ [set key value]) other =
    if other = key then some value else latest? acts other := by
  rw [latest?, written_set, List.reverse_concat, List.lookup_cons]
  by_cases same : other = key
  · simp [same]
  · rw [beq_eq_false_iff_ne.mpr same, if_neg same]
    rfl

theorem isSome_latest? : (latest? acts key).isSome ↔ key ∈ recentKeys acts := by
  rw [latest?, List.lookup_isSome_iff, recentKeys, List.mem_dedup]
  simp

end StoreAct

open StoreAct

namespace Store

/-- The store that an act leaves. -/
def after (store : Store) : StoreAct → Store
  | .get _ => store
  | .set key value => store.set key value
  | .clear => store.clear

def run (store : Store) (acts : List StoreAct) : Store := acts.foldl after store

theorem run_concat (store : Store) (acts : List StoreAct) (act : StoreAct) :
    store.run (acts ++ [act]) = (store.run acts).after act :=
  List.foldl_concat after store act acts

end Store

/-- Removing one key from the first of some keys removes it from all of them as far as they are
looked at. -/
theorem take_filter_take {keys : List Text} (distinct : keys.Nodup) (key : Text) (n : Nat) :
    ((keys.take (n + 1)).filter (· != key)).take n = (keys.filter (· != key)).take n := by
  induction keys generalizing n with
  | nil => rfl
  | cons first keys ih =>
    obtain ⟨new, distinct⟩ := List.nodup_cons.mp distinct
    rw [List.take_succ_cons]
    by_cases same : first = key
    · have absent : ∀ other ∈ keys, (other != key) = true := by
        intro other mem
        have apart : other ≠ key := fun eq => new (by rw [same, ← eq]; exact mem)
        simpa using apart
      have shorter : ∀ other ∈ keys.take n, (other != key) = true := fun other mem =>
        absent other (List.mem_of_mem_take mem)
      rw [List.filter_cons_of_neg (by simp [same]), List.filter_cons_of_neg (by simp [same]),
        List.filter_eq_self.mpr absent, List.filter_eq_self.mpr shorter, List.take_take,
        Nat.min_self]
    · rw [List.filter_cons_of_pos (by simp [same]), List.filter_cons_of_pos (by simp [same])]
      cases n with
      | zero => rfl
      | succ n => rw [List.take_succ_cons, List.take_succ_cons, ih distinct n]

namespace RecentStore

/-- The entries in memory are those of the keys set last. -/
structure Reflects (s : RecentStore) (acts : List StoreAct) : Prop where
  keys : s.entries.map (·.1) = (recentKeys acts).reverse.take (max 1 s.capacity)
  values : ∀ entry ∈ s.entries, latest? acts entry.1 = some entry.2

variable {s : RecentStore} {acts : List StoreAct}

theorem Reflects.set (h : s.Reflects acts) (key value : Text) :
    (s.set key value).Reflects (acts ++ [.set key value]) where
  keys := by
    obtain ⟨n, room⟩ : ∃ n, max 1 s.capacity = n + 1 := ⟨max 1 s.capacity - 1, by omega⟩
    have older : (s.entries.filter (·.1 != key)).map (·.1) =
        ((recentKeys acts).reverse.take (n + 1)).filter (· != key) := by
      rw [← room, ← h.keys, List.filter_map]
      rfl
    have distinct : (recentKeys acts).reverse.Nodup := List.nodup_reverse.mpr (List.nodup_dedup _)
    rw [recentKeys_set, List.reverse_concat, ← List.filter_reverse]
    simp only [RecentStore.set, room, List.map_take, List.map_cons, older, List.take_succ_cons]
    rw [take_filter_take distinct]
  values := by
    intro entry mem
    rw [latest?_set]
    rcases List.mem_cons.mp (List.mem_of_mem_take mem) with rfl | old
    · exact if_pos rfl
    · obtain ⟨mem, apart⟩ := List.mem_filter.mp old
      rw [if_neg (by simpa using apart)]
      exact h.values entry mem

theorem Reflects.get (h : s.Reflects acts) (key : Text) : s.Reflects (acts ++ [.get key]) where
  keys := by rw [recentKeys, written_get]; exact h.keys
  values := by simpa only [latest?, written_get] using h.values

theorem Reflects.clear (acts : List StoreAct) : s.clear.Reflects (acts ++ [.clear]) where
  keys := by simp [recentKeys, written_clear, RecentStore.clear]
  values := fun _ mem => absurd mem List.not_mem_nil

theorem Reflects.after (h : s.Reflects acts) (act : StoreAct) :
    ∃ s', (Store.recent s).after act = .recent s' ∧ s'.capacity = s.capacity ∧
      s'.Reflects (acts ++ [act]) := by
  cases act with
  | get key => exact ⟨s, rfl, rfl, h.get key⟩
  | set key value => exact ⟨s.set key value, rfl, rfl, h.set key value⟩
  | clear => exact ⟨s.clear, rfl, rfl, .clear acts⟩

theorem exists_run_eq (capacity : Nat) (acts : List StoreAct) :
    ∃ s, (Store.recent { capacity }).run acts = .recent s ∧ s.capacity = capacity ∧
      s.Reflects acts := by
  induction acts using List.reverseRecOn with
  | nil => exact ⟨{ capacity }, rfl, rfl, ⟨by simp [recentKeys, written], by simp⟩⟩
  | append_singleton acts act ih =>
    obtain ⟨s, run, same, reflects⟩ := ih
    obtain ⟨s', after, same', reflects'⟩ := reflects.after act
    exact ⟨s', by rw [Store.run_concat, run, after], same'.trans same, reflects'⟩

theorem Reflects.get?_eq (h : s.Reflects acts) (key : Text) :
    s.get? key =
      if key ∈ (recentKeys acts).rtake (max 1 s.capacity) then latest? acts key else none := by
  have kept : key ∈ (recentKeys acts).rtake (max 1 s.capacity) ↔ key ∈ s.entries.map (·.1) := by
    rw [List.rtake_eq_reverse_take_reverse, List.mem_reverse, h.keys]
  rw [RecentStore.get?]
  split
  · next mem =>
    obtain ⟨value, shown⟩ : ∃ value, s.entries.lookup key = some value := by
      rw [← Option.isSome_iff_exists, List.lookup_isSome_iff]
      obtain ⟨entry, mem, same⟩ := List.mem_map.mp (kept.mp mem)
      exact ⟨entry, mem, by simp [same]⟩
    obtain ⟨before, after, split, -⟩ := List.lookup_eq_some_iff.mp shown
    rw [shown, h.values (key, value) (by rw [split]; simp)]
  · next new =>
    rw [List.lookup_eq_none_iff]
    intro entry mem
    have apart : key ≠ entry.1 := fun eq => new (kept.mpr (List.mem_map.mpr ⟨entry, mem, eq.symm⟩))
    simpa using apart

end RecentStore

/-- Whatever has been asked of a store in memory, it holds the keys that were set last, as many as it
has room for, in the order in which they were last set and with the values they were last set to.
Looking up a key shows its value, and changes nothing. -/
theorem Store.run_recent (capacity : Nat) (acts : List StoreAct) :
    ∃ s, (Store.recent { capacity }).run acts = .recent s ∧
      s.entries.reverse.map (·.1) = (recentKeys acts).rtake (max 1 capacity) ∧
      (∀ entry ∈ s.entries, latest? acts entry.1 = some entry.2) ∧
      ∀ key, s.get? key =
          (if key ∈ (recentKeys acts).rtake (max 1 capacity) then latest? acts key else none) ∧
        (Store.recent { capacity }).run (acts ++ [.get key]) = .recent s := by
  obtain ⟨s, run, rfl, reflects⟩ := RecentStore.exists_run_eq capacity acts
  refine ⟨s, run, ?_, reflects.values, fun key => ⟨reflects.get?_eq key, ?_⟩⟩
  · rw [List.map_reverse, reflects.keys, List.rtake_eq_reverse_take_reverse]
  · rw [run_concat, run]
    rfl

example : ((Store.recent { capacity := 2 }).run
    [.set "a" "1", .set "b" "2", .set "a" "3", .set "c" "4"]) =
      .recent { capacity := 2, entries := [("c", "4"), ("a", "3")] } := by
  decide

end SymbolDocs
