import SymbolDocs.Proofs.Deflate.CodeWord
import SymbolDocs.Proofs.Deflate.Format

namespace SymbolDocs.Deflate

theorem ok_bind {ε α β : Type} (a : α) (f : α → Except ε β) : (Except.ok a >>= f) = f a := rfl

theorem error_bind {ε α β : Type} (e : ε) (f : α → Except ε β) :
    (Except.error e >>= f) = .error e := rfl

namespace Output

/-- The output that holds some content, if that fits. -/
def holding (capacity : Nat) (content : Bytes) : Except Stop Output :=
  if content.length ≤ capacity then .ok ⟨capacity, content.toArray⟩ else .error .corrupt

variable {capacity : Nat} {before after : Bytes}

theorem holding_of_le (fits : before.length ≤ capacity) :
    holding capacity before = .ok ⟨capacity, before.toArray⟩ := if_pos fits

/-- What goes on with more content does not matter when there is too much already. -/
theorem bind_holding {α : Type} {f : Output → Except Stop α} {g : Output → α}
    (grows : before.length ≤ after.length)
    (h : before.length ≤ capacity →
      f ⟨capacity, before.toArray⟩ = (holding capacity after).map g) :
    (holding capacity before).bind f = (holding capacity after).map g := by
  by_cases fits : before.length ≤ capacity
  · rw [holding_of_le fits, ← h fits]
    rfl
  · rw [holding, holding, if_neg fits, if_neg (by omega)]
    rfl

theorem push_eq (fits : before.length ≤ capacity) (b : UInt8) :
    (⟨capacity, before.toArray⟩ : Output).push b = holding capacity (before ++ [b]) := by
  have size : (before ++ [b]).length = before.length + 1 := by simp
  rw [push, holding, size]
  by_cases room : before.length < capacity
  · rw [if_pos (by simpa using room), if_pos (by omega)]
    simp
  · rw [if_neg (by simpa using room), if_neg (by omega)]

theorem append_eq (fits : before.length ≤ capacity) (bytes : Bytes) :
    (⟨capacity, before.toArray⟩ : Output).append bytes = holding capacity (before ++ bytes) := by
  induction bytes generalizing before with
  | nil => rw [append, List.append_nil, holding_of_le fits]
  | cons b bytes ih =>
    have next : (holding capacity (before ++ [b])).bind (append · bytes) =
        (holding capacity (before ++ b :: bytes)).map id :=
      bind_holding (by simp) fun fits' => by simp [ih fits', Except.map_id]
    rw [append, push_eq fits, next, Except.map_id, id]

end Output

/-- The first byte of a copy is there already, and the others are a copy behind it. -/
theorem IsCopy.next {distance length : Nat} {before after : Bytes}
    (copied : IsCopy distance (length + 1) before after) :
    ∃ b, before[before.length - distance]? = some b ∧
      IsCopy distance length (before ++ [b]) after := by
  obtain ⟨more, rfl⟩ := copied.grows
  have size := copied.size
  have positive := copied.positive
  have inside := copied.inside
  rw [List.length_append] at size
  cases more with
  | nil => simp at size
  | cons b more =>
    have first := copied.repeats before.length (Nat.le_refl _) (by simp)
    rw [List.getElem?_append_right (Nat.le_refl _), List.getElem?_append_left (by omega)] at first
    refine ⟨b, by simpa using first.symm, positive, by simp; omega, ?_, ?_, ?_⟩
    · exact ⟨more, by simp⟩
    · simp only [List.length_append, List.length_cons, List.length_nil] at size ⊢
      omega
    · intro i le lt
      exact copied.repeats i (by simp at le; omega) lt

theorem IsCopy.zero {distance : Nat} {before after : Bytes}
    (copied : IsCopy distance 0 before after) : after = before :=
  (copied.grows.eq_of_length copied.size.symm).symm

namespace Output

theorem copy_eq {capacity distance length : Nat} {before after : Bytes}
    (copied : IsCopy distance length before after) (fits : before.length ≤ capacity) :
    copy distance length ⟨capacity, before.toArray⟩ = holding capacity after := by
  induction length generalizing before with
  | zero => rw [copied.zero, copy, holding_of_le fits]
  | succ n ih =>
    obtain ⟨b, eq, rest⟩ := copied.next
    have next : (holding capacity (before ++ [b])).bind (copy distance n) =
        (holding capacity after).map id :=
      bind_holding rest.grows.length_le fun fits' => by rw [ih rest fits', Except.map_id, id]
    rw [copy, if_pos (by simpa using copied.inside)]
    simp only [List.size_toArray, List.getElem?_toArray, eq]
    rw [push_eq fits, next, Except.map_id, id]

end Output

theorem SymbolData.length_le {literals distances : List Nat} {before after : Bytes} {bits : Bits}
    (data : SymbolData literals distances before bits after) : before.length ≤ after.length := by
  induction data with
  | stop => exact Nat.le_refl _
  | literal b word more ih => simp at ih; omega
  | copy s d word extra word' extra' copied more ih => have := copied.grows.length_le; omega

theorem IsWord.read {lengths : List Nat} (code : IsCode lengths) {s : Nat} {w : Bits}
    (word : IsWord lengths s w) (rest : Bits) :
    (Code.assign lengths).read (w ++ rest) = .ok (s, rest) :=
  word.2 ▸ Code.read_codeWord code word.1 rest

theorem IsWord.pos {lengths : List Nat} {s : Nat} {w : Bits} (word : IsWord lengths s w) :
    0 < w.length := by
  rw [word.2, codeWord_length]
  exact word.1

theorem IsExtra.read {table : List Extra} {s value : Nat} {bits : Bits}
    (extra : IsExtra table s value bits) (rest : Bits) :
    readExtra table s (bits ++ rest) = .ok (value, rest) := by
  obtain ⟨least, n, v, at_s, small, rfl, rfl⟩ := extra
  simp [readExtra, at_s, number_numberBits_of_lt small, Except.map]

/-- The symbols of a block are read as they are meant, as far as the content fits. -/
theorem inflateSymbols_eq {literals distances : List Nat} (code : IsCode literals)
    (code' : IsCode distances) {capacity fuel : Nat} {before after : Bytes} {bits : Bits}
    (data : SymbolData literals distances before bits after) (enough : bits.length < fuel)
    (fits : before.length ≤ capacity) (rest : Bits) :
    inflateSymbols (Code.assign literals) (Code.assign distances) fuel
      ⟨capacity, before.toArray⟩ (bits ++ rest) =
      (Output.holding capacity after).map (·, rest) := by
  induction data generalizing fuel with
  | stop word =>
    obtain ⟨fuel, rfl⟩ := Nat.exists_eq_succ_of_ne_zero (by omega : fuel ≠ 0)
    rw [inflateSymbols, word.read code, Output.holding_of_le fits]
    rfl
  | @literal out after w bits b word more ih =>
    obtain ⟨fuel, rfl⟩ := Nat.exists_eq_succ_of_ne_zero (by omega : fuel ≠ 0)
    have pos := word.pos
    rw [List.length_append] at enough
    have byte : b.toNat < 256 := b.toNat_lt
    rw [inflateSymbols, List.append_assoc, word.read code]
    simp only [ok_bind, if_pos byte, UInt8.ofNat_toNat, Output.push_eq fits]
    exact Output.bind_holding more.length_le fun fits' => ih (by omega) fits'
  | @copy out mid after w e w' e' bits length distance s d word extra word' extra' copied more ih =>
    obtain ⟨fuel, rfl⟩ := Nat.exists_eq_succ_of_ne_zero (by omega : fuel ≠ 0)
    have pos := word.pos
    simp only [List.length_append] at enough
    simp only [List.append_assoc]
    have noLiteral : ¬ 257 + s < 256 := by omega
    have noStop : ¬ 257 + s = 256 := by omega
    rw [inflateSymbols, word.read code]
    simp only [ok_bind, if_neg noLiteral, if_neg noStop, Nat.add_sub_cancel_left, extra.read,
      word'.read code', extra'.read, Output.copy_eq copied fits]
    exact Output.bind_holding more.length_le fun fits' => ih (by omega) fits'

end SymbolDocs.Deflate
