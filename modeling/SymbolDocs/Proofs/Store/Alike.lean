import Mathlib.Algebra.GroupWithZero.Nat
import Mathlib.Data.List.Infix
import SymbolDocs.Proofs.Store.Own
import SymbolDocs.Proofs.Store.Recency

namespace SymbolDocs

open StoreAct

namespace TableStore

theorem map_key_upsert (row : StoreRow) (rows : List StoreRow) :
    (upsert row rows).map (·.key) = Text.withName row.key (rows.map (·.key)) := by
  induction rows with
  | nil => rfl
  | cons old rows ih =>
    rw [upsert, List.map_cons]
    by_cases same : old.key = row.key
    · rw [if_pos same, List.map_cons, same, Text.withName_cons_self]
    · rw [if_neg same, List.map_cons, ih, Text.withName_cons_of_ne same]

/-- The rows of a table are those of the keys set since it was last cleared. -/
structure Reflects (t : TableStore) (acts : List StoreAct) : Prop where
  distinct : (t.rows.map (·.key)).Nodup
  shown (key : Text) : t.get? key = latest? acts key
  measured : ∀ row ∈ t.rows, row.bytes = row.value.byteLength

variable {t : TableStore} {acts : List StoreAct}

theorem Reflects.set (h : t.Reflects acts) (key value : Text) :
    (t.set key value).Reflects (acts ++ [.set key value]) where
  distinct := by
    rw [TableStore.set, map_key_upsert]
    exact Text.nodup_withName h.distinct key
  shown other := by rw [get?_set, latest?_set, h.shown]
  measured := by
    intro row mem
    rcases mem_upsert mem with rfl | old
    · rfl
    · exact h.measured row old

theorem Reflects.get (h : t.Reflects acts) (key : Text) : t.Reflects (acts ++ [.get key]) where
  distinct := h.distinct
  shown other := by rw [h.shown, latest?, latest?, written_get]
  measured := h.measured

theorem Reflects.clear (acts : List StoreAct) : t.clear.Reflects (acts ++ [.clear]) where
  distinct := List.nodup_nil
  shown other := by
    rw [latest?, written_clear]
    rfl
  measured := fun _ mem => absurd mem List.not_mem_nil

theorem Reflects.after (h : t.Reflects acts) (act : StoreAct) :
    ∃ t', (Store.table t).after act = .table t' ∧ t'.Reflects (acts ++ [act]) := by
  cases act with
  | get key => exact ⟨t, rfl, h.get key⟩
  | set key value => exact ⟨t.set key value, rfl, h.set key value⟩
  | clear => exact ⟨t.clear, rfl, .clear acts⟩

theorem exists_run_eq (acts : List StoreAct) :
    ∃ t, (Store.table {}).run acts = .table t ∧ t.Reflects acts := by
  induction acts using List.reverseRecOn with
  | nil => exact ⟨{}, rfl, List.nodup_nil, fun _ => rfl, by simp⟩
  | append_singleton acts act ih =>
    obtain ⟨t, run, reflects⟩ := ih
    obtain ⟨t', after, reflects'⟩ := reflects.after act
    exact ⟨t', by rw [Store.run_concat, run, after], reflects'⟩

theorem Reflects.get?_of_mem (h : t.Reflects acts) {row : StoreRow} (mem : row ∈ t.rows) :
    t.get? row.key = some row.value := by
  obtain ⟨found, first⟩ : ∃ found, t.rows.find? (·.key == row.key) = some found :=
    Option.isSome_iff_exists.mp (List.find?_isSome.mpr ⟨row, mem, beq_self_eq_true _⟩)
  have same : found.key = row.key := eq_of_beq (List.find?_some first :)
  have eq : found = row :=
    List.inj_on_of_nodup_map h.distinct (List.mem_of_find?_eq_some first) mem same
  rw [get?, first, eq]
  rfl

theorem Reflects.perm (h : t.Reflects acts) : (t.rows.map (·.key)).Perm (recentKeys acts) := by
  have held (key : Text) : key ∈ t.rows.map (·.key) ↔ key ∈ recentKeys acts := by
    rw [← isSome_latest?, ← h.shown, get?, Option.isSome_map, List.find?_isSome, List.mem_map]
    simp
  exact (List.perm_ext_iff_of_nodup h.distinct (List.nodup_dedup _)).mpr held

theorem Reflects.size_eq (h : t.Reflects acts) : t.size = (recentKeys acts).length := by
  rw [← h.perm.length_eq, List.length_map]
  rfl

theorem Reflects.bytes_eq (h : t.Reflects acts) : t.bytes =
    ((recentKeys acts).map fun key => ((t.get? key).getD []).byteLength).sum := by
  have rowwise : t.rows.map (·.bytes) =
      t.rows.map fun row => ((t.get? row.key).getD []).byteLength := by
    refine List.map_congr_left fun row mem => ?_
    rw [h.measured row mem, h.get?_of_mem mem, Option.getD_some]
  have total : t.bytes = (t.rows.map (·.bytes)).sum := by
    rw [bytes, List.sum_eq_foldr, List.foldr_map]
  rw [total, rowwise, ← (h.perm.map _).sum_nat, List.map_map]
  rfl

end TableStore

namespace Store

/-- What the acts that look up a key are answered. -/
def answers (store : Store) : List StoreAct → List (Option Text)
  | [] => []
  | .get key :: acts => store.get? key :: answers store acts
  | act :: acts => answers (store.after act) acts

/-- As long as no more keys are set than the memory has room for, it shows what the table shows. -/
theorem get?_run_alike {capacity : Nat} {acts : List StoreAct}
    (few : (recentKeys acts).length ≤ max 1 capacity) (key : Text) :
    ((Store.recent { capacity }).run acts).get? key = ((Store.table {}).run acts).get? key := by
  obtain ⟨s, run, same, reflects⟩ := RecentStore.exists_run_eq capacity acts
  obtain ⟨t, run', reflects'⟩ := TableStore.exists_run_eq acts
  have whole : (recentKeys acts).rtake (max 1 s.capacity) = recentKeys acts := by
    rw [List.rtake, same, Nat.sub_eq_zero_of_le few, List.drop_zero]
  have shown : s.get? key = t.get? key := by
    rw [reflects.get?_eq, reflects'.shown, whole]
    split
    · rfl
    · next new => exact (Option.not_isSome_iff_eq_none.mp (mt isSome_latest?.mp new)).symm
  rw [run, run']
  exact shown

theorem answers_run_alike {capacity : Nat} (acts : List StoreAct) (before : List StoreAct)
    (few : ∀ more ∈ acts.inits, (recentKeys (before ++ more)).length ≤ max 1 capacity) :
    ((Store.recent { capacity }).run before).answers acts =
      ((Store.table {}).run before).answers acts := by
  induction acts generalizing before with
  | nil => rfl
  | cons act acts ih =>
    have longer : ∀ more ∈ acts.inits,
        (recentKeys (before ++ [act] ++ more)).length ≤ max 1 capacity := by
      intro more mem
      have starts : act :: more <+: act :: acts :=
        List.cons_prefix_cons.mpr ⟨rfl, (List.mem_inits more acts).mp mem⟩
      have bounded := few (act :: more) ((List.mem_inits _ _).mpr starts)
      rwa [List.append_assoc]
    have next := ih (before ++ [act]) longer
    rw [run_concat, run_concat] at next
    cases act with
    | get key =>
      have now := get?_run_alike (few [] (by simp)) key
      rw [List.append_nil] at now
      rw [answers, answers, now]
      exact congrArg _ next
    | set key value => exact next
    | clear => exact next

/-- A store in memory and one in a table answer alike, as long as no more keys are set between two
times of clearing than the memory has room for; those that are only looked up do not count. The table
always counts the keys it holds and the bytes of their present values. -/
theorem answers_alike (capacity : Nat) (acts : List StoreAct) :
    ((∀ before ∈ acts.inits, (recentKeys before).length ≤ max 1 capacity) →
      (Store.recent { capacity }).answers acts = (Store.table {}).answers acts) ∧
    ∀ before ∈ acts.inits, ∃ t, (Store.table {}).run before = .table t ∧
      (∀ key, key ∈ recentKeys before ↔ (t.get? key).isSome) ∧
      (t.size, t.bytes) = ((recentKeys before).length,
        ((recentKeys before).map fun key => ((t.get? key).getD []).byteLength).sum) := by
  constructor
  · intro few
    exact answers_run_alike acts [] few
  · intro before _
    obtain ⟨t, run, reflects⟩ := TableStore.exists_run_eq before
    have held (key : Text) : key ∈ recentKeys before ↔ (t.get? key).isSome := by
      rw [reflects.shown, isSome_latest?]
    refine ⟨t, run, held, ?_⟩
    rw [← reflects.size_eq, ← reflects.bytes_eq]

/-- Values are replaced by shorter ones, and there is room for one key. -/
def replacing : List StoreAct :=
  [.get "a", .set "a" "é1", .get "a", .set "a" "2", .get "b", .get "a", .clear, .set "b" "3",
    .get "a", .get "b"]

theorem answers_alike_replacing :
    (∀ before ∈ replacing.inits, (recentKeys before).length ≤ max 1 0) ∧
    (Store.recent { capacity := 0 }).answers replacing = (Store.table {}).answers replacing ∧
    (Store.table {}).answers replacing =
      [none, some ("é1" : Text), none, some ("2" : Text), none, some ("3" : Text)] ∧
    ∃ t, (Store.table {}).run (replacing.take 2) = .table t ∧ (t.size, t.bytes) = (1, 3) := by
  have few : ∀ before ∈ replacing.inits, (recentKeys before).length ≤ max 1 0 := by
    decide +kernel
  obtain ⟨alike, stats⟩ := answers_alike 0 replacing
  obtain ⟨t, run, -, counted⟩ := stats (replacing.take 2) (by decide +kernel)
  refine ⟨few, alike few, by decide +kernel, t, run, counted.trans ?_⟩
  cases run
  decide +kernel

end Store
end SymbolDocs
