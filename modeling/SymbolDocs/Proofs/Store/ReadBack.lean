import SymbolDocs.Proofs.Store.Own
import SymbolDocs.Store.Entry

namespace SymbolDocs.Entry

/-- The limit fits 64 bits in milliseconds, or the age is within the low 64 bits that are left. -/
def KeepsLimit (maxAgeSecs age : Nat) : Prop :=
  1000 * maxAgeSecs ≤ Limits.word ∨ age ≤ 1000 * maxAgeSecs % (Limits.word + 1)

variable {now maxAgeSecs timestamp : Nat}

theorem ageLimit_eq_mod (maxAgeSecs : Nat) :
    ageLimit maxAgeSecs = 1000 * maxAgeSecs % (Limits.word + 1) := by
  rw [ageLimit, Nat.mul_comm]

theorem ageLimit_le (maxAgeSecs : Nat) : ageLimit maxAgeSecs ≤ 1000 * maxAgeSecs := by
  rw [ageLimit_eq_mod]
  exact Nat.mod_le _ _

theorem isCurrent_iff : isCurrent now maxAgeSecs timestamp ↔ now - timestamp ≤ ageLimit maxAgeSecs :=
  decide_eq_true_iff

/-- An entry within the limit is young enough unless the limit is cut. -/
theorem isCurrent_iff_keepsLimit (young : now - timestamp ≤ 1000 * maxAgeSecs) :
    isCurrent now maxAgeSecs timestamp ↔ KeepsLimit maxAgeSecs (now - timestamp) := by
  rw [isCurrent_iff, ageLimit_eq_mod, KeepsLimit]
  constructor
  · intro current
    exact .inr current
  · rintro (fits | current)
    · rwa [Nat.mod_eq_of_lt (Nat.lt_succ_of_le fits)]
    · exact current

/-- An entry is current exactly when its age is within the limit, where it counts as new if it is from
the future, unless the limit is cut to 64 bits; then an entry may be current under a limit and not
under a larger one. -/
theorem isCurrent_exact_iff (clock : now ≤ Limits.word) :
    ((isCurrent now maxAgeSecs timestamp ↔
        max 0 ((now : Int) - timestamp) ≤ 1000 * (maxAgeSecs : Int)) ↔
      KeepsLimit maxAgeSecs (now - timestamp)) ∧
    ∀ larger, maxAgeSecs ≤ larger → KeepsLimit larger (now - timestamp) →
      isCurrent now maxAgeSecs timestamp → isCurrent now larger timestamp := by
  have exact_iff : max 0 ((now : Int) - timestamp) ≤ 1000 * (maxAgeSecs : Int) ↔
      now - timestamp ≤ 1000 * maxAgeSecs := by omega
  have bounded : isCurrent now maxAgeSecs timestamp → now - timestamp ≤ 1000 * maxAgeSecs := by
    intro current
    exact Nat.le_trans (isCurrent_iff.mp current) (ageLimit_le maxAgeSecs)
  constructor
  · rw [exact_iff]
    constructor
    · intro agree
      by_cases fits : 1000 * maxAgeSecs ≤ Limits.word
      · exact .inl fits
      · have young : now - timestamp ≤ 1000 * maxAgeSecs := by omega
        exact (isCurrent_iff_keepsLimit young).mp (agree.mpr young)
    · intro kept
      exact ⟨bounded, fun young => (isCurrent_iff_keepsLimit young).mpr kept⟩
  · intro larger grows kept current
    have young : now - timestamp ≤ 1000 * larger := by
      have := bounded current
      omega
    exact (isCurrent_iff_keepsLimit young).mpr kept

/-- The greatest limit that fits, and an age that is beyond it. -/
theorem isCurrent_exact_iff_greatest :
    Limits.word ≤ Limits.word ∧
    (isCurrent Limits.word 18446744073709551 0 ↔
      max 0 ((Limits.word : Int) - (0 : Nat)) ≤ 1000 * ((18446744073709551 : Nat) : Int)) ∧
    isCurrent 18446744073709551000 18446744073709551 0 := by
  have kept : KeepsLimit 18446744073709551 (Limits.word - 0) := .inl (by decide)
  have earlier : KeepsLimit 18446744073709551 (18446744073709551000 - 0) := .inl (by decide)
  refine ⟨Nat.le_refl _, (isCurrent_exact_iff (Nat.le_refl _)).1.mpr kept, ?_⟩
  exact ((isCurrent_exact_iff (by decide)).1.mpr earlier).mpr (by decide)

/-- An entry of age one is current under a limit of one second, and not under one whose low 64 bits,
in milliseconds, are zero. -/
theorem not_isCurrent_cutLimit :
    isCurrent 1 1 0 ∧ ¬ isCurrent 1 0x2000000000000000 0 ∧ 0x2000000000000000 ≤ Limits.word ∧
      max 0 (((1 : Nat) : Int) - (0 : Nat)) ≤ 1000 * ((0x2000000000000000 : Nat) : Int) := by
  decide

end SymbolDocs.Entry

namespace SymbolDocs

variable {α : Type}

namespace Json

theorem optional?_optional {decode : Json → Option α} {encode : α → Json} {slot : Option α}
    (each : ∀ a ∈ slot, decode (encode a) = some a) (present : ∀ a, encode a ≠ .null) :
    optional? decode (some (optional encode slot)) = some slot := by
  cases slot with
  | none => rfl
  | some a =>
    have here := each a rfl
    cases shape : encode a with
    | null => exact absurd shape (present a)
    | _ =>
      rw [shape] at here
      simp [optional, optional?, shape, here]

theorem optional?_stringOrNull (text : Option Text) :
    optional? text? (some (stringOrNull text)) = some text :=
  optional?_optional (fun _ _ => rfl) fun _ => by simp

theorem exists_of_optional? {decode : Json → Option α} {slot : Option Json} {a : α}
    (read : optional? decode slot = some (some a)) : ∃ j, decode j = some a := by
  rw [optional?.eq_def] at read
  split at read
  · cases read
  · cases read
  · next j _ =>
    obtain ⟨_, given, same⟩ := Option.map_eq_some_iff.mp read
    exact ⟨j, same ▸ given⟩

end Json

namespace RegistryInfo

/-- The labels of a project are distinct. -/
def IsLabelled (info : RegistryInfo) : Prop := (info.projects.map (·.1)).Nodup

theorem ofJson?_toJson {info : RegistryInfo} (labelled : info.IsLabelled) :
    ofJson? info.toJson = some info := by
  have urls : Json.optional? (Json.map? Json.text?) (some (Json.optional
      (fun urls => .object (urls.map fun link => (link.1, .string link.2)))
      info.projectUrls)) = some info.projectUrls := by
    refine Json.optional?_optional (fun urls given => ?_) fun _ => by simp
    have distinct : (urls.map (·.1)).Nodup := by
      rw [IsLabelled, projects, Option.mem_def.mp given] at labelled
      exact labelled
    exact Json.map?_object (fun _ _ => rfl) distinct
  have slots : info.toJson.slots? fieldNames = some [some (Json.stringOrNull info.name),
      some (Json.stringOrNull info.summary), some (Json.stringOrNull info.version),
      some (Json.stringOrNull info.homePage), some (Json.stringOrNull info.docsUrl),
      some (Json.stringOrNull info.packageUrl), some (Json.optional
        (fun urls => .object (urls.map fun link => (link.1, .string link.2)))
        info.projectUrls)] := rfl
  simp only [ofJson?, slots, Option.bind_eq_bind, Option.bind_some, Json.optional?_stringOrNull, urls]
  rfl

/-- Whatever the registry answers, its labels are distinct. -/
theorem isLabelled_of_ofJson? {j : Json} {info : RegistryInfo} (read : ofJson? j = some info) :
    info.IsLabelled := by
  obtain ⟨slots, -, read⟩ := Option.bind_eq_some_iff.mp read
  split at read
  · simp only [Option.bind_eq_bind, Option.bind_eq_some_iff] at read
    obtain ⟨_, -, _, -, _, -, _, -, _, -, _, -, urls, last, made⟩ := read
    cases made
    rw [IsLabelled, projects]
    cases urls with
    | none => exact List.nodup_nil
    | some pairs =>
      obtain ⟨j, given⟩ := Json.exists_of_optional? last
      exact Json.nodup_of_map? given
  · cases read

theorem isLabelled_of_ofBytes {bytes : Bytes} {info : RegistryInfo} (read : ofBytes bytes = .ok info) :
    info.IsLabelled := by
  rw [ofBytes] at read
  split at read
  · next found =>
    cases read
    obtain ⟨document, -, found⟩ := Option.bind_eq_some_iff.mp found
    obtain ⟨slots, -, found⟩ := Option.bind_eq_some_iff.mp found
    split at found
    · obtain ⟨j, -, found⟩ := Option.bind_eq_some_iff.mp found
      exact isLabelled_of_ofJson? found
    · cases found
  · cases read

end RegistryInfo

namespace Entry

/-- A value is kept as a document that is read from its text again, and as that value. -/
structure Preserves (decode : Option Json → Option α) (value : α) (data : Json) : Prop where
  readable : Json.ReadsAs data.write data
  decoded : decode (some data) = some value

namespace Preserves

theorem inventory {map : SymbolMap} {items : List InventoryItem} {base : Text}
    (order : map.Perm (SymbolMap.ofItems items base)) :
    Preserves (Json.required? SymbolMap.ofJson?) map map.toJson where
  readable := SymbolMap.readsAs_of_perm order
  decoded := SymbolMap.ofJson?_of_perm order

theorem registry {info : Option RegistryInfo} (labelled : ∀ answer ∈ info, answer.IsLabelled) :
    Preserves (Json.optional? RegistryInfo.ofJson?) info (Json.optional RegistryInfo.toJson info) where
  readable := Json.readsAs_optional RegistryInfo.readsAs_toJson info
  decoded := Json.optional?_optional
    (fun answer given => RegistryInfo.ofJson?_toJson (labelled answer given)) fun _ => by
      simp [RegistryInfo.toJson]

theorem page (html : Text) : Preserves (Json.required? Json.text?) html (.string html) where
  readable := Json.readsAs_string html
  decoded := rfl

end Preserves

variable {decode : Option Json → Option α} {value : α} {data : Json} {written : Nat}

theorem ofJson?_toJson (decoded : decode (some data) = some value) (clock : written ≤ Limits.word) :
    ofJson? decode (toJson data written) = some ⟨value, written⟩ := by
  have slots : (toJson data written).slots? ["data", "timestamp"] =
      some [some data, some (.nat written)] := rfl
  have time : Json.required? (Json.natUpTo? Limits.word) (some (.nat written)) = some written :=
    if_pos clock
  simp only [ofJson?, slots, Option.bind_eq_bind, Option.bind_some, decoded, time]
  rfl

end Entry

namespace Store

theorem get?_set_self (store : Store) (key value : Text) :
    (store.set key value).get? key = some value := by
  cases store with
  | recent s =>
    obtain ⟨n, room⟩ : ∃ n, max 1 s.capacity = n + 1 := ⟨max 1 s.capacity - 1, by omega⟩
    simp [set, get?, RecentStore.set, RecentStore.get?, room]
  | table t => exact (t.get?_set key value key).trans (if_pos rfl)

/-- A store shows under a key what it showed there right after an entry was written at some time:
the key has neither been set since nor been forgotten. -/
def StillHolds (store : Store) (key : Text) (data : Json) (written : Nat) : Prop :=
  ∃ before : Store, store.get? key = (before.write written key data).get? key

theorem read?_of_stillHolds {store : Store} {key : Text} {data : Json} {written : Nat}
    {decode : Option Json → Option α} {value : α} (held : store.StillHolds key data written)
    (h : Entry.Preserves decode value data) (clock : written ≤ Limits.word) (now maxAgeSecs : Nat) :
    store.read? now maxAgeSecs decode key =
      if Entry.isCurrent now maxAgeSecs written then some value else none := by
  obtain ⟨before, shown⟩ := held
  rw [write, get?_set_self] at shown
  have read : Json.read (Entry.toJson data written).write = some (Entry.toJson data written) :=
    Entry.read_toJson h.readable (Json.readsAs_nat clock)
  simp only [read?, shown, read, Option.bind_eq_bind, Option.bind_some,
    Entry.ofJson?_toJson h.decoded clock]

theorem read?_eq_some_iff {store : Store} {key : Text} {data : Json} {written now maxAgeSecs : Nat}
    {decode : Option Json → Option α} {value : α} (held : store.StillHolds key data written)
    (h : Entry.Preserves decode value data) (clock : written ≤ Limits.word)
    (young : now - written ≤ 1000 * maxAgeSecs) :
    store.read? now maxAgeSecs decode key = some value ↔
      Entry.KeepsLimit maxAgeSecs (now - written) := by
  rw [read?_of_stillHolds held h clock, ← Entry.isCurrent_iff_keepsLimit young]
  split
  · next current => exact iff_of_true rfl current
  · next old => exact iff_of_false (by simp) old

end Store
end SymbolDocs
