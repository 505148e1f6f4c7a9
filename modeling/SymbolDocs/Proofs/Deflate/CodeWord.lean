import Mathlib.Algebra.Order.Ring.Nat
import SymbolDocs.Deflate.Code

namespace SymbolDocs.Deflate

/-- The lowest bits of a number, the lowest one first. -/
def numberBits (n v : Nat) : Bits := (List.range n).map v.testBit

@[simp] theorem numberBits_length (n v : Nat) : (numberBits n v).length = n := by
  simp [numberBits]

theorem numberBits_succ (n v : Nat) :
    numberBits (n + 1) v = v.testBit 0 :: numberBits n (v / 2) := by
  simp [numberBits, List.range_succ_eq_map, Function.comp_def, Nat.testBit_succ]

theorem numberBits_add (m n v : Nat) :
    numberBits (m + n) v = numberBits m v ++ numberBits n (v / 2 ^ m) := by
  induction m generalizing v with
  | zero => simp [numberBits]
  | succ m ih =>
    rw [show m + 1 + n = m + n + 1 by omega, numberBits_succ, numberBits_succ, ih, Nat.div_div_eq_div_mul,
      Nat.pow_succ']
    rfl

/-- A number is read back from its bits. -/
theorem number_numberBits (n v : Nat) (rest : Bits) :
    number n (numberBits n v ++ rest) = .ok (v % 2 ^ n, rest) := by
  induction n generalizing v with
  | zero => simp [number, numberBits, Nat.mod_one]
  | succ n ih =>
    have low : (v.testBit 0).toNat = v % 2 := Nat.toNat_testBit v 0 ▸ by simp
    rw [numberBits_succ, List.cons_append, number, ih, low]
    have : v % 2 + 2 * (v / 2 % 2 ^ n) = v % 2 ^ (n + 1) := by
      rw [Nat.pow_succ', Nat.mod_mul]
    simp [Except.map, this]

theorem number_numberBits_of_lt {n v : Nat} (h : v < 2 ^ n) (rest : Bits) :
    number n (numberBits n v ++ rest) = .ok (v, rest) := by
  rw [number_numberBits, Nat.mod_eq_of_lt h]

theorem numberBits_inj {n v w : Nat} (hv : v < 2 ^ n) (hw : w < 2 ^ n)
    (h : numberBits n v = numberBits n w) : v = w := by
  have read := number_numberBits_of_lt hv []
  rw [h, number_numberBits_of_lt hw] at read
  simpa using read.symm

theorem bitsOf_cons (b : UInt8) (bytes : Bytes) :
    bitsOf (b :: bytes) = numberBits 8 b.toNat ++ bitsOf bytes := rfl

theorem bitsOf_append (xs ys : Bytes) : bitsOf (xs ++ ys) = bitsOf xs ++ bitsOf ys :=
  List.flatMap_append

@[simp] theorem bitsOf_length (bytes : Bytes) : (bitsOf bytes).length = 8 * bytes.length := by
  induction bytes with
  | nil => rfl
  | cons b bytes ih => rw [bitsOf_cons, List.length_append, ih, numberBits_length,
      List.length_cons]; omega

/-- Bytes are read back from their bits. -/
theorem bytesOf_bitsOf (bytes : Bytes) (rest : Bits) :
    bytesOf bytes.length (bitsOf bytes ++ rest) = .ok (bytes, rest) := by
  induction bytes with
  | nil => rfl
  | cons b bytes ih =>
    have read := number_numberBits_of_lt (n := 8) b.toNat_lt (bitsOf bytes ++ rest)
    rw [bitsOf_cons, List.append_assoc, List.length_cons, bytesOf, read]
    simp [bind, Except.bind, ih, pure, Except.pure]

theorem alignToByte_append {pad rest : Bits} (short : pad.length < 8)
    (whole : rest.length % 8 = 0) : alignToByte (pad ++ rest) = rest := by
  have : (pad ++ rest).length % 8 = pad.length := by
    rw [List.length_append]; omega
  rw [alignToByte, this, List.drop_left]

/-- How many words of `l` bits start with a word that is shorter. -/
def firstWord (lengths : List Nat) (l : Nat) : Nat :=
  (lengths.map fun k => if 0 < k ∧ k < l then 2 ^ (l - k) else 0).sum

/-- The word of a symbol as a number. Words of shorter symbols come first, then those of earlier
symbols of the same length. -/
def wordValue (lengths : List Nat) (s : Nat) : Nat :=
  firstWord lengths (lengths.getD s 0) + (lengths.take s).count (lengths.getD s 0)

/-- The word of a symbol in the canonical code of some lengths, the highest bit first. -/
def codeWord (lengths : List Nat) (s : Nat) : Bits :=
  (numberBits (lengths.getD s 0) (wordValue lengths s)).reverse

/-- How many words of `l` bits start with the word of a symbol. -/
def usedWords (lengths : List Nat) (l : Nat) : Nat :=
  (lengths.map fun k => if 0 < k ∧ k ≤ l then 2 ^ (l - k) else 0).sum

/-- Lengths of a code for at most one symbol, or of one that uses up all words. -/
structure IsCode (lengths : List Nat) : Prop where
  short : ∀ l ∈ lengths, l ≤ Code.longest
  full : usedWords lengths Code.longest = 2 ^ Code.longest ∨ lengths.countP (0 < ·) ≤ 1

theorem firstWord_cons (k : Nat) (lengths : List Nat) (l : Nat) : firstWord (k :: lengths) l =
    (if 0 < k ∧ k < l then 2 ^ (l - k) else 0) + firstWord lengths l := rfl

theorem usedWords_cons (k : Nat) (lengths : List Nat) (l : Nat) : usedWords (k :: lengths) l =
    (if 0 < k ∧ k ≤ l then 2 ^ (l - k) else 0) + usedWords lengths l := rfl

theorem usedWords_eq (lengths : List Nat) {l : Nat} (pos : 0 < l) :
    usedWords lengths l = firstWord lengths l + lengths.count l := by
  induction lengths with
  | nil => rfl
  | cons k lengths ih =>
    rw [usedWords_cons, firstWord_cons, List.count_cons, ih]
    rcases Nat.lt_trichotomy k l with lt | rfl | gt
    · simp [Nat.ne_of_lt lt, lt, Nat.le_of_lt lt]; omega
    · simp [pos]; omega
    · simp [Nat.ne_of_gt gt, Nat.lt_asymm gt, Nat.not_le_of_lt gt]

theorem usedWords_zero (lengths : List Nat) : usedWords lengths 0 = 0 := by
  induction lengths with
  | nil => rfl
  | cons k lengths ih => rw [usedWords_cons, ih, if_neg (by omega)]

theorem firstWord_succ (lengths : List Nat) (l : Nat) :
    firstWord lengths (l + 1) = usedWords lengths l * 2 := by
  induction lengths with
  | nil => rfl
  | cons k lengths ih =>
    rw [firstWord_cons, usedWords_cons, ih, Nat.add_mul]
    by_cases h : 0 < k ∧ k ≤ l
    · rw [if_pos h, if_pos (by omega), ← Nat.pow_succ, show l + 1 - k = l - k + 1 by omega]
    · rw [if_neg h, if_neg (by omega)]

/-- The recursion over the lengths counts the words that are taken. -/
theorem firstWords_eq (lengths : List Nat) (l : Nat) :
    Code.firstWords (fun k => lengths.count k) l = firstWord lengths l := by
  induction l with
  | zero =>
    induction lengths with
    | nil => rfl
    | cons k lengths ih => rw [firstWord_cons, ← ih, if_neg (by omega)]; rfl
  | succ l ih =>
    rw [Code.firstWords, ih, firstWord_succ]
    by_cases h : l = 0
    · subst l
      rw [← ih]
      simp [Code.firstWords, usedWords_zero]
    · rw [if_neg h, usedWords_eq lengths (by omega)]

/-- Longer words that start with a used word are used up. -/
theorem usedWords_mul_le (lengths : List Nat) (l d : Nat) :
    usedWords lengths l * 2 ^ d ≤ usedWords lengths (l + d) := by
  induction d with
  | zero => simp
  | succ d ih =>
    have step := usedWords_eq lengths (l := l + d + 1) (by omega)
    rw [firstWord_succ] at step
    rw [Nat.pow_succ, ← Nat.mul_assoc, ← Nat.add_assoc, step]
    omega

theorem usedWords_le_of_countP {lengths : List Nat} (few : lengths.countP (0 < ·) ≤ 1) (l : Nat) :
    usedWords lengths l ≤ 2 ^ l := by
  have none (ks : List Nat) (h : ks.countP (0 < ·) = 0) : usedWords ks l = 0 := by
    induction ks with
    | nil => rfl
    | cons k ks ih =>
      rw [List.countP_cons] at h
      have zero : ¬ 0 < k := fun pos => by simp [pos] at h
      rw [usedWords_cons, ih (by omega), if_neg (by omega)]
  induction lengths with
  | nil => exact Nat.zero_le _
  | cons k lengths ih =>
    rw [List.countP_cons] at few
    rw [usedWords_cons]
    by_cases pos : 0 < k
    · rw [none lengths (by simp [pos] at few; simpa using few)]
      split
      · exact Nat.pow_le_pow_right (by omega) (by omega)
      · omega
    · rw [if_neg (by omega)]
      simpa using ih (by omega)

/-- A code has a word for each symbol. -/
theorem IsCode.usedWords_le {lengths : List Nat} (code : IsCode lengths) {l : Nat}
    (short : l ≤ Code.longest) : usedWords lengths l ≤ 2 ^ l := by
  rcases code.full with full | few
  · have le := usedWords_mul_le lengths l (Code.longest - l)
    rw [show l + (Code.longest - l) = Code.longest by omega, full,
      show Code.longest = l + (Code.longest - l) by omega, Nat.pow_add,
      show l + (Code.longest - l) - l = Code.longest - l by omega] at le
    exact Nat.le_of_mul_le_mul_right le (Nat.two_pow_pos _)
  · exact usedWords_le_of_countP few l

theorem getD_eq_of_lt {lengths : List Nat} {s : Nat} (h : 0 < lengths.getD s 0) :
    ∃ lt : s < lengths.length, lengths[s] = lengths.getD s 0 := by
  by_cases lt : s < lengths.length
  · exact ⟨lt, by simp [lt]⟩
  · simp [List.getD, List.getElem?_eq_none (Nat.le_of_not_lt lt)] at h

theorem count_take_lt {lengths : List Nat} {s t : Nat} (lt : s < t) (bound : s < lengths.length) :
    (lengths.take s).count lengths[s] < (lengths.take t).count lengths[s] := by
  have sub : (lengths.take (s + 1)).count lengths[s] ≤ (lengths.take t).count lengths[s] :=
    (List.take_sublist_take_left (by omega)).count_le _
  rw [List.take_succ_eq_append_getElem bound, List.count_append] at sub
  simp at sub
  omega

theorem wordValue_lt_usedWords {lengths : List Nat} {s : Nat} (pos : 0 < lengths.getD s 0) :
    wordValue lengths s < usedWords lengths (lengths.getD s 0) := by
  obtain ⟨lt, eq⟩ := getD_eq_of_lt pos
  have less := count_take_lt lt lt
  rw [List.take_length, eq] at less
  rw [wordValue, usedWords_eq lengths pos]
  omega

theorem IsCode.wordValue_lt {lengths : List Nat} (code : IsCode lengths) {s : Nat}
    (pos : 0 < lengths.getD s 0) : wordValue lengths s < 2 ^ lengths.getD s 0 := by
  obtain ⟨lt, eq⟩ := getD_eq_of_lt pos
  have short := code.short _ (List.getElem_mem lt)
  rw [eq] at short
  exact Nat.lt_of_lt_of_le (wordValue_lt_usedWords pos) (code.usedWords_le short)

theorem codeWord_length (lengths : List Nat) (s : Nat) :
    (codeWord lengths s).length = lengths.getD s 0 := by
  simp [codeWord]

/-- A word that starts another one is the other one without its last bits. -/
theorem wordValue_div_of_prefix {lengths : List Nat} (code : IsCode lengths) {s t : Nat}
    (hs : 0 < lengths.getD s 0) (ht : 0 < lengths.getD t 0)
    (start : codeWord lengths s <+: codeWord lengths t) :
    wordValue lengths t / 2 ^ (lengths.getD t 0 - lengths.getD s 0) = wordValue lengths s := by
  have le := start.length_le
  rw [codeWord_length, codeWord_length] at le
  obtain ⟨d, eq⟩ := Nat.exists_eq_add_of_le' le
  have fits := code.wordValue_lt ht
  rw [eq, Nat.pow_add] at fits
  have split : codeWord lengths t =
      (numberBits (lengths.getD s 0) (wordValue lengths t / 2 ^ d)).reverse ++
        (numberBits d (wordValue lengths t)).reverse := by
    rw [codeWord, eq, numberBits_add, List.reverse_append]
  have same : codeWord lengths s =
      (numberBits (lengths.getD s 0) (wordValue lengths t / 2 ^ d)).reverse := by
    apply (List.prefix_of_prefix_length_le start (split ▸ List.prefix_append _ _) ?_).eq_of_length
    · simp [codeWord_length]
    · simp [codeWord_length]
  rw [show lengths.getD t 0 - lengths.getD s 0 = d by omega]
  exact (numberBits_inj (code.wordValue_lt hs) (Nat.div_lt_of_lt_mul fits)
    (List.reverse_inj.mp same)).symm

theorem wordValue_ne {lengths : List Nat} {s t : Nat} (hs : 0 < lengths.getD s 0)
    (same : lengths.getD t 0 = lengths.getD s 0) (lt : s < t) :
    wordValue lengths s < wordValue lengths t := by
  obtain ⟨bound, eq⟩ := getD_eq_of_lt hs
  have less := count_take_lt lt bound
  rw [eq] at less
  rw [wordValue, wordValue, same]
  omega

/-- No word starts another one. -/
theorem not_prefix_codeWord {lengths : List Nat} (code : IsCode lengths) {s t : Nat}
    (hs : 0 < lengths.getD s 0) (ht : 0 < lengths.getD t 0) (ne : s ≠ t) :
    ¬ codeWord lengths s <+: codeWord lengths t := by
  intro start
  have div := wordValue_div_of_prefix code hs ht start
  have le := start.length_le
  rw [codeWord_length, codeWord_length] at le
  rcases Nat.lt_or_eq_of_le le with lt | same
  · -- the words that a shorter word starts come before those of longer symbols
    obtain ⟨d, eq⟩ := Nat.exists_eq_add_of_lt lt
    have above := usedWords_mul_le lengths (lengths.getD s 0) d
    have first : usedWords lengths (lengths.getD s 0) * 2 ^ (d + 1) ≤ wordValue lengths t := by
      rw [wordValue, eq, firstWord_succ, Nat.pow_succ, ← Nat.mul_assoc]
      omega
    rw [show lengths.getD t 0 - lengths.getD s 0 = d + 1 by omega] at div
    have := (Nat.le_div_iff_mul_le (Nat.two_pow_pos (d + 1))).mpr first
    have := wordValue_lt_usedWords hs
    omega
  · rw [same, Nat.sub_self, Nat.pow_zero, Nat.div_one] at div
    rcases Nat.lt_or_gt_of_ne ne with before | after
    · have := wordValue_ne hs same.symm before
      omega
    · have := wordValue_ne ht same after
      omega

end SymbolDocs.Deflate

namespace SymbolDocs.Deflate.Code

/-- Bits lead to a symbol, whatever follows them. -/
def Leads (code : Code) (bits : Bits) (s : Nat) : Prop :=
  ∀ rest, code.follow (bits ++ rest) = .ok (s, rest)

theorem leads_insert (s : Nat) (bits : Bits) (code : Code) : (code.insert s bits).Leads bits s := by
  intro rest
  induction bits generalizing code with
  | nil => rfl
  | cons b bits ih => cases b <;> cases code <;> exact ih _

/-- A new word leaves the others alone unless one of them starts the other. -/
theorem Leads.insert {code : Code} {bits : Bits} {s : Nat} (leads : code.Leads bits s) (t : Nat)
    {new : Bits} (h : ¬ new <+: bits) (h' : ¬ bits <+: new) : (code.insert t new).Leads bits s := by
  induction new generalizing code bits with
  | nil => exact absurd (List.nil_prefix) h
  | cons b new ih =>
    cases bits with
    | nil => exact absurd (List.nil_prefix) h'
    | cons c bits =>
      cases code with
      | vacant => exact absurd (leads []) (by simp [follow])
      | symbol x => exact absurd (leads []) (by simp [follow])
      | branch zero one =>
        by_cases same : b = c
        · subst c
          simp only [List.cons_prefix_cons, true_and] at h h'
          cases b with
          | false => exact ih (show zero.Leads bits s from leads) h h'
          | true => exact ih (show one.Leads bits s from leads) h h'
        · intro rest
          cases b <;> cases c <;> first | exact absurd rfl same | exact leads rest

/-- Assigns words to further lengths. -/
theorem leads_foldl {lengths : List Nat} (code : IsCode lengths) (todo done : List Nat)
    (tree : Code) (eq : lengths = done ++ todo)
    (leads : ∀ s < done.length, 0 < lengths.getD s 0 → tree.Leads (codeWord lengths s) s) :
    ∀ s < lengths.length, 0 < lengths.getD s 0 →
      (todo.foldl (assignNext (firstWords fun l => lengths.count l))
        (tree, done.length, done.reverse)).1.Leads (codeWord lengths s) s := by
  induction todo generalizing done tree with
  | nil => simpa [eq] using leads
  | cons l todo ih =>
    have next := ih (done ++ [l])
      (assignNext (firstWords fun l => lengths.count l) (tree, done.length, done.reverse) l).1
      (by simp [eq]) ?_
    · simpa [assignNext] using next
    · intro s lt pos
      have here : lengths.getD done.length 0 = l := by simp [eq]
      have word : path (firstWords (fun l => lengths.count l) l + done.reverse.count l) l =
          codeWord lengths done.length := by
        rw [codeWord, wordValue, here, firstWords_eq, List.count_reverse]
        simp [eq, path, numberBits]
      rw [assignNext, word]
      rcases Nat.lt_or_eq_of_le (Nat.le_of_lt_succ (by simpa using lt)) with before | rfl
      · split
        · exact leads s before pos
        · apply (leads s before pos).insert
          · exact not_prefix_codeWord code (by omega) pos (by omega)
          · exact not_prefix_codeWord code pos (by omega) (by omega)
      · rw [if_neg (by omega)]
        exact leads_insert _ _ _

/-- The canonical code leads every symbol's word to the symbol. -/
theorem leads_assign {lengths : List Nat} (code : IsCode lengths) {s : Nat}
    (pos : 0 < lengths.getD s 0) : (assign lengths).Leads (codeWord lengths s) s := by
  obtain ⟨lt, _⟩ := getD_eq_of_lt pos
  exact leads_foldl code lengths [] .vacant rfl (fun _ h => absurd h (Nat.not_lt_zero _)) s lt pos

theorem read_codeWord {lengths : List Nat} (code : IsCode lengths) {s : Nat}
    (pos : 0 < lengths.getD s 0) (rest : Bits) :
    (assign lengths).read (codeWord lengths s ++ rest) = .ok (s, rest) := by
  rw [read, leads_assign code pos rest]

theorem fits_iff {lengths : List Nat} (short : ∀ l ∈ lengths, l ≤ longest) :
    fits lengths ↔ usedWords lengths longest = 2 ^ longest ∨ lengths.countP (0 < ·) ≤ 1 := by
  have space : (lengths.filter (0 < ·)).foldr (fun l space => 2 ^ (longest - l) + space) 0 =
      usedWords lengths longest := by
    induction lengths with
    | nil => rfl
    | cons k lengths ih =>
      have ih := ih fun l mem => short l (List.mem_cons_of_mem _ mem)
      have le := short k (by simp)
      by_cases pos : 0 < k
      · simp [usedWords_cons, pos, le, ← ih]
      · simp [usedWords_cons, pos, ← ih]
  simp only [fits, Nat.one_shiftLeft, space, Bool.or_eq_true, beq_iff_eq, decide_eq_true_eq,
    List.countP_eq_length_filter]

theorem ofLengths_eq {lengths : List Nat} (code : IsCode lengths) :
    ofLengths lengths = .ok (assign lengths) := by
  rw [ofLengths, if_pos ((fits_iff code.short).mpr code.full)]

end SymbolDocs.Deflate.Code
