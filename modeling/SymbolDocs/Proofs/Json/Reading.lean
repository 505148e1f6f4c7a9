import SymbolDocs.Json.Reader
import SymbolDocs.Json.Writer
import SymbolDocs.Proofs.Json.Numbers

namespace SymbolDocs.Json

theorem hexValue?_hexDigit : ∀ n < 16, hexValue? (hexDigit n) = some n := by decide

theorem unit?_hexDigit {n : Nat} (h : n < 0x100) :
    unit? '0' '0' (hexDigit (n / 16)) (hexDigit n) = some n := by
  have low : hexDigit n = hexDigit (n % 16) := by simp [hexDigit]
  rw [unit?, low, hexValue?_hexDigit (n / 16) (by omega), hexValue?_hexDigit (n % 16) (by omega)]
  simp [hexValue?]
  omega

/-- A character that stands for itself is read as its own unit. -/
theorem stringTail_plain {c : Char} (noQuote : c ≠ '"') (noSlash : c ≠ '\\')
    (printable : ¬ c.toNat < 0x20) (rest : Text) :
    stringTail (c :: rest) = (stringTail rest).map fun (us, rest) => (c.toNat :: us, rest) := by
  rw [stringTail]
  · simp [printable, noSlash]
  all_goals simp [noQuote, noSlash]

theorem stringTail_escaped {c e : Char} (h : escaped? c = some e) (rest : Text) :
    stringTail ('\\' :: c :: rest) =
      (stringTail rest).map fun (us, rest) => (e.toNat :: us, rest) := by
  have noUnit : c ≠ 'u' := by
    rintro rfl
    cases h
  rw [stringTail]
  · rw [h]
    cases stringTail rest <;> rfl
  · simp [noUnit]

theorem stringTail_escapeChar (c : Char) (rest : Text) :
    stringTail (escapeChar c ++ rest) =
      (stringTail rest).map fun (us, rest) => (c.toNat :: us, rest) := by
  unfold escapeChar
  split
  case h_8 noQuote noSlash _ _ _ _ _ =>
    by_cases control : c.toNat < 0x20
    · simp only [if_pos control, List.cons_append, List.nil_append, stringTail,
        unit?_hexDigit (Nat.lt_trans control (by decide))]
      cases stringTail rest <;> rfl
    · rw [if_neg control]
      exact stringTail_plain noQuote noSlash control rest
  all_goals exact stringTail_escaped rfl rest

theorem stringTail_flatMap (s rest : Text) :
    stringTail (s.flatMap escapeChar ++ '"' :: rest) = some (s.map Char.toNat, rest) := by
  induction s with
  | nil => rfl
  | cons c s ih =>
    rw [List.flatMap_cons, List.append_assoc, stringTail_escapeChar, ih]
    rfl

theorem joinUnits_cons (c : Char) (us : List Nat) :
    joinUnits (c.toNat :: us) = (joinUnits us).map (c :: ·) := by
  have scalar : ¬ (0xD800 ≤ c.toNat ∧ c.toNat < 0xE000) := by
    have := c.valid
    simp only [Char.toNat, UInt32.isValidChar, Nat.isValidChar] at this ⊢
    omega
  have half (v : Nat) :
      ¬ (0xD800 ≤ c.toNat ∧ c.toNat < 0xDC00 ∧ 0xDC00 ≤ v ∧ v < 0xE000) := by
    omega
  cases us with
  | nil => simp [joinUnits, scalar]
  | cons v us => simp [joinUnits, scalar, half]

theorem joinUnits_map_toNat (s : Text) : joinUnits (s.map Char.toNat) = some s := by
  induction s with
  | nil => rfl
  | cons c s ih => rw [List.map_cons, joinUnits_cons, ih, Option.map_some]

theorem skipSpace_cons {c : Char} (h : isSpaceChar c = false) (s : Text) :
    skipSpace (c :: s) = c :: s := by simp [skipSpace, h]

/-- A text that is read as a value, if a number may end behind it. -/
structure ReadsAs (text : Text) (value : Json) : Prop where
  starts : ∃ c s, text = c :: s ∧ isSpaceChar c = false ∧ c ≠ ']'
  reads {fuel : Nat} {rest : Text} (enough : text.length < fuel) (ends : endsNumber rest) :
    readValue fuel (text ++ rest) = some (value, rest)

theorem readsAs_null : ReadsAs (write .null) .null where
  starts := ⟨'n', "ull".toList, by decide, by decide, by decide⟩
  reads {fuel rest} enough _ := by
    obtain ⟨fuel, rfl⟩ := Nat.exists_eq_succ_of_ne_zero (by omega : fuel ≠ 0)
    simp [write, readValue, skipSpace, isSpaceChar]

theorem readsAs_string (s : Text) : ReadsAs (write (.string s)) (.string s) where
  starts := ⟨'"', s.flatMap escapeChar ++ ['"'], rfl, by decide, by decide⟩
  reads {fuel rest} enough _ := by
    obtain ⟨fuel, rfl⟩ := Nat.exists_eq_succ_of_ne_zero (by omega : fuel ≠ 0)
    have tail := stringTail_flatMap s rest
    simp [write, writeString, readValue, skipSpace, isSpaceChar, tail, joinUnits_map_toNat]

/-- What starts with a digit is read as a number. -/
theorem readsAs_literal {text : Text} {l : Literal} {c : Char} {s : Text} (start : text = c :: s)
    (digit : c.isDigit)
    (read : ∀ rest, endsNumber rest → readLiteral (text ++ rest) = some (l, rest)) :
    ReadsAs text ((l.value?.map Json.number).getD .void) := by
  have noSpace : isSpaceChar c = false := by
    by_contra space
    simp only [isSpaceChar, Bool.not_eq_false, Bool.or_eq_true, beq_iff_eq] at space
    rcases space with ((rfl | rfl) | rfl) | rfl <;> exact absurd digit (by decide)
  refine ⟨⟨c, s, start, noSpace, ?_⟩, ?_⟩
  · rintro rfl
    exact absurd digit (by decide)
  intro fuel rest enough ends
  obtain ⟨fuel, rfl⟩ := Nat.exists_eq_succ_of_ne_zero (by omega : fuel ≠ 0)
  have literal := read rest ends
  rw [start, List.cons_append] at literal ⊢
  rw [readValue, skipSpace_cons noSpace]
  split
  case h_1 eq => cases eq
  case h_8 => rw [literal, Option.map_some]
  all_goals
    rename_i eq
    obtain ⟨rfl, -⟩ := List.cons.inj eq
    exact absurd digit (by decide)

theorem readsAs_ofNat (n : Nat) : ReadsAs (write (.nat n))
    (((⟨false, Text.ofNat n, none, none⟩ : Literal).value?.map Json.number).getD .void) := by
  obtain ⟨c, s, eq⟩ : ∃ c s, Text.ofNat n = c :: s :=
    List.exists_cons_of_ne_nil Nat.toDigits_ne_nil
  have digit : c.isDigit := digits_ofNat n c (eq ▸ List.mem_cons_self)
  exact readsAs_literal eq digit fun _ => readLiteral_ofNat n

theorem readsAs_nat {n : Nat} (small : n ≤ Limits.word) : ReadsAs (write (.nat n)) (.nat n) := by
  have read := readsAs_ofNat n
  rwa [value?_ofNat small] at read

theorem readsAs_one : ReadsAs (write (.real Binary64.one)) (.real Binary64.one) := by
  have read := readsAs_literal (by decide : Binary64.one.toText = '1' :: ['.', '0']) (by decide)
    fun _ => readLiteral_one
  rwa [value?_one] at read

section Fields

variable {v v' : Json} {fuel : Nat} {k rest : Text}

theorem readFields_last (value : ReadsAs (write v) v') (enough : (write v).length < fuel) :
    readFields (fuel + 1) (writeString k ++ ':' :: (write v ++ '\x7d' :: rest)) =
      some (some [(k, v')], rest) := by
  have read : readValue fuel (write v ++ '\x7d' :: rest) = some (v', '\x7d' :: rest) :=
    value.reads enough rfl
  have name := stringTail_flatMap k (':' :: (write v ++ '\x7d' :: rest))
  simp [writeString, readFields, skipSpace, isSpaceChar, name, joinUnits_map_toNat, read]

theorem readFields_more {s : Text} {more : List (Text × Json)} (value : ReadsAs (write v) v')
    (enough : (write v).length < fuel) (next : readFields fuel s = some (some more, rest)) :
    readFields (fuel + 1) (writeString k ++ ':' :: (write v ++ ',' :: s)) =
      some (some ((k, v') :: more), rest) := by
  have read : readValue fuel (write v ++ ',' :: s) = some (v', ',' :: s) :=
    value.reads enough rfl
  have name := stringTail_flatMap k (':' :: (write v ++ ',' :: s))
  simp [writeString, readFields, skipSpace, isSpaceChar, name, joinUnits_map_toNat, read, next]

/-- Fields are read one by one. -/
theorem readFields_eq {fs gs : List (Text × Json)}
    (fields : List.Forall₂ (fun f g => f.1 = g.1 ∧ ReadsAs (write f.2) g.2) fs gs)
    (first : ReadsAs (write v) v') (enough : (write v).length + (writeFields fs).length < fuel) :
    readFields fuel (writeString k ++ ':' :: (write v ++ (writeFields fs ++ rest))) =
      some (some ((k, v') :: gs), rest) := by
  obtain ⟨fuel, rfl⟩ := Nat.exists_eq_succ_of_ne_zero (by omega : fuel ≠ 0)
  induction fields generalizing fuel k v v' with
  | nil =>
    simp only [writeFields, List.length_cons] at enough
    exact readFields_last first (by omega)
  | @cons f g fs gs field _ ih =>
    obtain ⟨k', u⟩ := f
    obtain ⟨_, u'⟩ := g
    obtain ⟨rfl, second⟩ := field
    simp only [writeFields, List.length_append, List.length_cons] at enough
    obtain ⟨fuel, rfl⟩ := Nat.exists_eq_succ_of_ne_zero (by omega : fuel ≠ 0)
    have room : (write u).length + (writeFields fs).length < fuel + 1 := by omega
    have next : readFields (fuel + 1)
        (writeString k' ++ ':' :: (write u ++ (writeFields fs ++ rest))) =
        some (some ((k', u') :: gs), rest) := ih second fuel room
    rw [writeFields, List.cons_append, List.append_assoc, List.cons_append, List.append_assoc]
    exact readFields_more first (by omega) next

end Fields

theorem ReadsAs.object {fs gs : List (Text × Json)}
    (fields : List.Forall₂ (fun f g => f.1 = g.1 ∧ ReadsAs (write f.2) g.2) fs gs) :
    ReadsAs (write (.object fs)) (.object gs) := by
  cases fields with
  | nil =>
    refine ⟨⟨'\x7b', ['\x7d'], rfl, by decide, by decide⟩, fun {fuel rest} enough _ => ?_⟩
    obtain ⟨fuel, rfl⟩ := Nat.exists_eq_succ_of_ne_zero (by omega : fuel ≠ 0)
    simp [write, readValue, skipSpace, isSpaceChar]
  | @cons f g fs gs field more =>
    obtain ⟨k, v⟩ := f
    obtain ⟨_, v'⟩ := g
    obtain ⟨rfl, first⟩ := field
    refine ⟨⟨'\x7b', _, rfl, by decide, by decide⟩, fun {fuel rest} enough _ => ?_⟩
    obtain ⟨fuel, rfl⟩ := Nat.exists_eq_succ_of_ne_zero (by omega : fuel ≠ 0)
    simp only [write, List.length_append, List.length_cons] at enough
    have read : readFields fuel (writeString k ++ ':' :: (write v ++ (writeFields fs ++ rest))) =
        some (some ((k, v') :: gs), rest) := readFields_eq more first (by omega)
    rw [writeString] at read
    simp only [List.append_assoc, List.cons_append, List.nil_append] at read
    simp [write, writeString, readValue, skipSpace, isSpaceChar, read]

/-- What is read as a value is a document of that value. -/
theorem ReadsAs.read {text : Text} {value : Json} (h : ReadsAs text value) :
    Json.read text = some value := by
  have whole : readValue (2 * text.length + 1) (text ++ []) = some (value, []) :=
    h.reads (by omega) rfl
  rw [List.append_nil] at whole
  rw [Json.read, whole]
  rfl

end SymbolDocs.Json
