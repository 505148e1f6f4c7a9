import SymbolDocs.Deflate.Inflate

namespace SymbolDocs.Deflate

variable {α β γ δ : Type}

abbrev Reader (α : Type) := Bits → Except Stop (α × Bits)

/-- Bits that can stand in place of others at the end of data: no fewer of them, and whole bytes
more. -/
def CanReplace (rest' rest : Bits) : Prop :=
  rest.length ≤ rest'.length ∧ rest'.length % 8 = rest.length % 8

/-- What the one reader makes of bits the other one makes of them too, up to `w`, whatever stands
behind the bits that were read. -/
def Follows (w : α → β) (read : Reader α) (read' : Reader β) : Prop :=
  ∀ ⦃bits v rest⦄, read bits = .ok (v, rest) → ∃ used, bits = used ++ rest ∧
    ∀ rest', CanReplace rest' rest → read' (used ++ rest') = .ok (w v, rest')

theorem exists_of_bind_ok {m : Except Stop α} {f : α → Except Stop β} {b : β}
    (h : (m >>= f) = .ok b) : ∃ a, m = .ok a ∧ f a = .ok b := by
  cases m with
  | error e => exact nomatch h
  | ok a => exact ⟨a, rfl, h⟩

theorem exists_of_map_ok {m : Except Stop α} {f : α → β} {b : β} (h : m.map f = .ok b) :
    ∃ a, m = .ok a ∧ f a = b := by
  cases m with
  | error e => exact nomatch h
  | ok a => exact ⟨a, rfl, Except.ok.inj h⟩

theorem map_bind (f : β → γ) (m : Except Stop α) (g : α → Except Stop β) :
    (m >>= g).map f = m >>= fun a => (g a).map f := by
  cases m <;> rfl

theorem ite_bind (c : Prop) [Decidable c] (m m' : Except Stop α) (f : α → Except Stop β) :
    (if c then m else m') >>= f = if c then m >>= f else m' >>= f := by
  split <;> rfl

theorem CanReplace.append_left {rest' rest : Bits} (h : CanReplace rest' rest) (used : Bits) :
    CanReplace (used ++ rest') (used ++ rest) := by
  obtain ⟨le, whole⟩ := h
  simp only [CanReplace, List.length_append]
  omega

namespace Follows

variable {w : α → β} {w' : γ → δ} {read : Reader α} {read' : Reader β}

theorem apply (h : Follows w read read') {used rest rest' : Bits} {v : α}
    (found : read (used ++ rest) = .ok (v, rest)) (more : CanReplace rest' rest) :
    read' (used ++ rest') = .ok (w v, rest') := by
  obtain ⟨used', same, next⟩ := h found
  rw [List.append_cancel_right same]
  exact next rest' more

theorem ok (w : α → β) (v : α) :
    Follows w (fun bits => .ok (v, bits)) fun bits => .ok (w v, bits) := by
  intro bits v' rest found
  obtain ⟨rfl, rfl⟩ := Prod.mk.inj (Except.ok.inj found)
  exact ⟨[], rfl, fun _ _ => rfl⟩

theorem error (e : Stop) (w : α → β) (read' : Reader β) : Follows w (fun _ => .error e) read' :=
  fun _ _ _ found => nomatch found

theorem bind {next : α × Bits → Except Stop (γ × Bits)} {next' : β × Bits → Except Stop (δ × Bits)}
    (h : Follows w read read')
    (h' : ∀ a, Follows w' (fun bits => next (a, bits)) fun bits => next' (w a, bits)) :
    Follows w' (fun bits => read bits >>= next) fun bits => read' bits >>= next' := by
  intro bits v rest found
  obtain ⟨⟨a, mid⟩, first, second⟩ := exists_of_bind_ok found
  obtain ⟨used, rfl, goesOn⟩ := h first
  obtain ⟨used', rfl, goesOn'⟩ := h' a second
  refine ⟨used ++ used', (List.append_assoc ..).symm, fun rest' more => ?_⟩
  show (read' (used ++ used' ++ rest') >>= next') = _
  rw [List.append_assoc, goesOn _ (more.append_left used')]
  exact goesOn' rest' more

/-- A step that reads nothing. -/
theorem step {m : Except Stop α} {m' : Except Stop β} {next : α → Reader γ} {next' : β → Reader δ}
    (h : ∀ a, m = .ok a → m' = .ok (w a)) (h' : ∀ a, Follows w' (next a) (next' (w a))) :
    Follows w' (fun bits => m >>= (next · bits)) fun bits => m' >>= (next' · bits) := by
  cases m with
  | error e => exact error e w' _
  | ok a =>
    rw [h a rfl]
    exact h' a

theorem ite {c : Prop} [Decidable c] {other : Reader α} {other' : Reader β}
    (h : Follows w read read') (h' : Follows w other other') :
    Follows w (fun bits => if c then read bits else other bits)
      fun bits => if c then read' bits else other' bits := by
  by_cases true : c
  · simpa only [if_pos true] using h
  · simpa only [if_neg true] using h'

theorem map (h : Follows id read read) (f : α → γ) :
    Follows id (fun bits => (read bits).map fun (v, bits) => (f v, bits))
      fun bits => (read bits).map fun (v, bits) => (f v, bits) := by
  intro bits v rest found
  obtain ⟨⟨a, rest⟩, first, same⟩ := exists_of_map_ok found
  obtain ⟨rfl, rfl⟩ := Prod.mk.inj same
  obtain ⟨used, rfl, goesOn⟩ := h first
  refine ⟨used, rfl, fun rest' more => ?_⟩
  show (read (used ++ rest')).map _ = _
  rw [goesOn rest' more]
  rfl

/-- The place where a byte begins does not depend on whole bytes behind it. -/
theorem alignToByte (h : Follows w read read') :
    Follows w (fun bits => read (Deflate.alignToByte bits))
      fun bits => read' (Deflate.alignToByte bits) := by
  intro bits v rest found
  obtain ⟨used, split, goesOn⟩ := h found
  refine ⟨bits.take (bits.length % 8) ++ used, ?_, fun rest' more => ?_⟩
  · rw [List.append_assoc, ← split, Deflate.alignToByte, List.take_append_drop]
  · have size := congrArg List.length split
    obtain ⟨le, whole⟩ := more
    simp only [Deflate.alignToByte, List.length_drop, List.length_append] at size
    have pad : (bits.take (bits.length % 8)).length = bits.length % 8 := by
      rw [List.length_take]
      have := Nat.mod_le bits.length 8
      omega
    have same : (bits.take (bits.length % 8) ++ (used ++ rest')).length % 8 =
        (bits.take (bits.length % 8)).length := by
      rw [List.length_append, List.length_append, pad]
      omega
    show read' ((_ ++ _ ++ rest').drop _) = _
    rw [List.append_assoc, same, List.drop_left]
    exact goesOn rest' ⟨le, whole⟩

end Follows

theorem follows_number (n : Nat) : Follows id (number n) (number n) := by
  intro bits v rest found
  induction n generalizing bits v with
  | zero => exact Follows.ok id 0 found
  | succ n ih =>
    cases bits with
    | nil => exact nomatch found
    | cons b bits =>
      obtain ⟨⟨a, rest⟩, first, same⟩ := exists_of_map_ok found
      obtain ⟨rfl, rfl⟩ := Prod.mk.inj same
      obtain ⟨used, rfl, goesOn⟩ := ih first
      refine ⟨b :: used, rfl, fun rest' more => ?_⟩
      rw [List.cons_append, number, goesOn rest' more]
      rfl

theorem follows_bytesOf (n : Nat) : Follows id (bytesOf n) (bytesOf n) := by
  induction n with
  | zero => exact .ok id []
  | succ n ih => exact (follows_number 8).bind fun b => ih.bind fun bs => .ok id _

theorem follows_readNumbers (width n : Nat) :
    Follows id (readNumbers width n) (readNumbers width n) := by
  induction n with
  | zero => exact .ok id []
  | succ n ih => exact (follows_number width).bind fun v => ih.bind fun vs => .ok id _

namespace Code

theorem follows_follow (code : Code) : Follows id code.follow code.follow := by
  intro bits v rest found
  induction code generalizing bits with
  | vacant => exact nomatch found
  | symbol s => exact Follows.ok id s found
  | branch zero one ihZero ihOne =>
    cases bits with
    | nil => exact nomatch found
    | cons b bits =>
      cases b with
      | false =>
        obtain ⟨used, rfl, goesOn⟩ := ihZero found
        exact ⟨false :: used, rfl, goesOn⟩
      | true =>
        obtain ⟨used, rfl, goesOn⟩ := ihOne found
        exact ⟨true :: used, rfl, goesOn⟩

theorem read_eq_ok_iff {code : Code} {bits rest : Bits} {s : Nat} :
    code.read bits = .ok (s, rest) ↔ code.follow bits = .ok (s, rest) := by
  rw [read]
  cases code.follow bits with
  | ok place => rfl
  | error e => cases e <;> simp

theorem follows_read (code : Code) : Follows id code.read code.read := by
  intro bits s rest found
  obtain ⟨used, rfl, goesOn⟩ := code.follows_follow (read_eq_ok_iff.mp found)
  exact ⟨used, rfl, fun rest' more => read_eq_ok_iff.mpr (goesOn rest' more)⟩

end Code

theorem follows_readExtra (table : List Extra) (s : Nat) :
    Follows id (readExtra table s) (readExtra table s) := by
  show Follows id (fun bits => readExtra table s bits) fun bits => readExtra table s bits
  simp only [readExtra]
  cases table[s]? with
  | none => exact .error .corrupt id _
  | some extra => exact (follows_number extra.2).map (extra.1 + ·)

theorem follows_readLengths (code : Code) (total fuel : Nat) (seen : List Nat) :
    Follows id (readLengths code total fuel seen) (readLengths code total fuel seen) := by
  induction fuel generalizing seen with
  | zero => exact .error .truncated id _
  | succ fuel ih =>
    show Follows id (fun bits => readLengths code total (fuel + 1) seen bits)
      fun bits => readLengths code total (fuel + 1) seen bits
    simp only [readLengths]
    refine .ite (.error .corrupt id _) (.ite (.ok id seen) (code.follows_read.bind fun s => ?_))
    by_cases single : s < 16
    · simp only [id, if_pos single]
      exact ih (s :: seen)
    by_cases again : s = 16
    · simp only [id, if_neg single, if_pos again]
      cases seen with
      | nil => exact .error .corrupt id _
      | cons last seen =>
        exact (follows_number 2).bind fun n => ih (List.replicate (n + 3) last ++ last :: seen)
    by_cases few : s = 17
    · simp only [id, if_neg single, if_neg again, if_pos few]
      exact (follows_number 3).bind fun n => ih (List.replicate (n + 3) 0 ++ seen)
    · simp only [id, if_neg single, if_neg again, if_neg few]
      exact (follows_number 7).bind fun n => ih (List.replicate (n + 11) 0 ++ seen)

/-- The codes of a block as one value. -/
def readBothCodes : Reader (Code × Code) := fun bits =>
  (readCodes bits).map fun (literals, distances, bits) => ((literals, distances), bits)

theorem follows_readBothCodes : Follows id readBothCodes readBothCodes := by
  show Follows id (fun bits => readBothCodes bits) fun bits => readBothCodes bits
  simp only [readBothCodes, readCodes, map_bind, apply_ite (Except.map _)]
  refine (follows_number 5).bind fun hlit => ?_
  simp only [id]
  refine (follows_number 5).bind fun hdist => ?_
  simp only [id]
  refine (follows_number 4).bind fun hclen => ?_
  by_cases tooMany : 286 < hlit + 257 ∨ 30 < hdist + 1
  · simp only [id, if_pos tooMany]
    exact .error .corrupt id _
  simp only [id, if_neg tooMany]
  refine (follows_readNumbers 3 (hclen + 4)).bind fun listed => ?_
  simp only [id]
  refine .step (fun _ same => same) fun code => ?_
  refine (follows_readLengths code _ _ []).bind fun seen => ?_
  simp only [id]
  exact .step (fun _ same => same) fun literals => .step (fun _ same => same) fun distances =>
    .ok id (literals, distances)

end SymbolDocs.Deflate
