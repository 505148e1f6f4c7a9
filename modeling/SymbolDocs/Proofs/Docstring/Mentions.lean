import SymbolDocs.Docstring.Reference
import SymbolDocs.Proofs.Text.CharSets
import SymbolDocs.Proofs.Text.Cut
import SymbolDocs.Proofs.Text.Substitute

namespace SymbolDocs.Reference

open Text

/-- A mention of a proposal: its letters, perhaps white space, and one to four digits. -/
@[ext]
structure Mention where
  gap : Text
  digits : Text
  blank : isBlank gap
  decimal : digits.all isDecimalDigit
  ne_nil : digits ≠ []
  few : digits.length ≤ 4

namespace Mention

def text (m : Mention) : Text := ("PEP" : Text) ++ (m.gap ++ m.digits)

/-- The mention is in a text, between two parts of it that run into no word of it. -/
structure StandsIn (m : Mention) (s before after : Text) : Prop where
  eq : s = before ++ (m.text ++ after)
  starts : isEdge before.getLast?
  ends : isEdge after.head?

/-- What becomes of a mention between two characters: it stays when it touches a square bracket. -/
def shown (m : Mention) (prev next : Option Char) : Text :=
  if prev = some '[' ∨ next = some ']' then m.text else proposalLink m.digits

variable (m : Mention) {before after : Text}

theorem text_eq : m.text = 'P' :: 'E' :: 'P' :: (m.gap ++ m.digits) := rfl

theorem text_ne_nil : m.text ≠ [] := List.cons_ne_nil _ _

theorem trimStart_append (after : Text) :
    trimStart (m.gap ++ m.digits ++ after) = m.digits ++ after := by
  obtain ⟨d, digits, eq⟩ := List.exists_cons_of_ne_nil m.ne_nil
  have digit : isDecimalDigit d := by
    have all := m.decimal
    rw [eq, List.all_cons, Bool.and_eq_true] at all
    exact all.1
  rw [List.append_assoc, trimStart, List.dropWhile_append_of_pos (List.all_eq_true.mp m.blank), eq,
    List.cons_append, List.dropWhile_cons_of_neg (not_isBlankChar_of_isDecimalDigit digit)]

/-- Digits go on until the word ends. -/
theorem span_digits (ends : isEdge after.head?) :
    (m.digits ++ after).span isDecimalDigit = (m.digits, after) := by
  refine span_append (List.all_eq_true.mp m.decimal) after fun c head digit => ?_
  rw [head, isEdge, Option.any_some, isWordChar_of_isDecimalDigit digit] at ends
  exact absurd ends (by decide)

theorem proposalMention?_text {prev : Option Char} (starts : isEdge prev)
    (ends : isEdge after.head?) :
    proposalMention? prev (m.text ++ after) = some (m.digits, after) := by
  have letters : after? "PEP" (m.text ++ after) = some (m.gap ++ m.digits ++ after) :=
    after?_append _ _
  have word : (decide (0 < m.digits.length) && decide (m.digits.length ≤ 4) &&
      isEdge after.head?) = true := by
    simp [List.length_pos_of_ne_nil m.ne_nil, m.few, ends]
  rw [proposalMention?, if_pos starts, letters]
  dsimp only [Option.bind_eq_bind, Option.bind_some]
  rw [trimStart_append, span_digits m ends]
  exact if_pos word

theorem proposalMention_text {prev : Option Char} (starts : isEdge prev)
    (ends : isEdge after.head?) :
    proposalMention prev (m.text ++ after) =
      some (m.shown prev after.head?, m.text.length) := by
  have size : consumed (m.text ++ after) after = m.text.length := by
    rw [consumed, List.length_append, Nat.add_sub_cancel]
  simp only [proposalMention, proposalMention?_text m starts ends, size, shown,
    Option.bind_eq_bind, Option.bind_some, List.take_left, Bool.or_eq_true, beq_iff_eq]
  split <;> rfl

end Mention

theorem exists_of_proposalMention? {prev : Option Char} {s digits rest : Text}
    (mention : proposalMention? prev s = some (digits, rest)) :
    isEdge prev ∧ isEdge rest.head? ∧ ∃ m : Mention, m.digits = digits ∧ s = m.text ++ rest := by
  unfold proposalMention? at mention
  split at mention
  · next starts =>
    obtain ⟨behind, letters, mention⟩ := Option.bind_eq_some_iff.mp mention
    rw [List.span_eq_takeWhile_dropWhile] at mention
    dsimp only at mention
    split at mention
    · next word =>
      rw [Bool.and_eq_true, Bool.and_eq_true, decide_eq_true_eq, decide_eq_true_eq] at word
      obtain ⟨rfl, rfl⟩ := Prod.mk.inj (Option.some.inj mention)
      have number := List.takeWhile_append_dropWhile (p := isDecimalDigit) (l := trimStart behind)
      have whole : behind.takeWhile isBlankChar ++ trimStart behind = behind :=
        List.takeWhile_append_dropWhile
      refine ⟨starts, word.2, ⟨behind.takeWhile isBlankChar, _, List.all_takeWhile,
        List.all_takeWhile, List.ne_nil_of_length_pos word.1.1, word.1.2⟩, rfl, ?_⟩
      rw [after?_eq_some_iff.mp letters, Mention.text, List.append_assoc, List.append_assoc, number,
        whole]
    · cases mention
  · cases mention

/-- What is substituted is a mention that is a word of its own. -/
theorem proposalMention_eq_some_iff {prev : Option Char} {s replacement : Text} {count : Nat} :
    proposalMention prev s = some (replacement, count) ↔
      ∃ (m : Mention) (after : Text), s = m.text ++ after ∧ isEdge prev ∧ isEdge after.head? ∧
        replacement = m.shown prev after.head? ∧ count = m.text.length := by
  constructor
  · intro found
    obtain ⟨⟨digits, rest⟩, mention, _⟩ := Option.bind_eq_some_iff.mp found
    obtain ⟨starts, ends, m, _, rfl⟩ := exists_of_proposalMention? mention
    rw [m.proposalMention_text starts ends] at found
    obtain ⟨rfl, rfl⟩ := Prod.mk.inj (Option.some.inj found)
    exact ⟨m, rest, rfl, starts, ends, rfl, rfl⟩
  · rintro ⟨m, after, rfl, starts, ends, rfl, rfl⟩
    exact m.proposalMention_text starts ends

theorem not_isEdge_letter : ¬ isEdge (some 'P') ∧ ¬ isEdge (some 'E') := by decide

namespace Mention

variable (m : Mention) {before after lead rest : Text}

/-- A mention ends in a digit, so no word can start right behind it. -/
theorem not_isEdge_getLast?_text : ¬ isEdge m.text.getLast? := by
  obtain ⟨lead, d, eq⟩ : ∃ lead d, m.digits = lead ++ [d] :=
    ⟨m.digits.dropLast, m.digits.getLast m.ne_nil, (List.dropLast_concat_getLast m.ne_nil).symm⟩
  have digit : isDecimalDigit d := by
    have all := m.decimal
    rw [eq, List.all_append, List.all_cons, Bool.and_eq_true, Bool.and_eq_true] at all
    exact all.2.1
  rw [text, eq, ← List.append_assoc, ← List.append_assoc, List.getLast?_concat, isEdge,
    Option.any_some, isWordChar_of_isDecimalDigit digit]
  decide

/-- Where a mention goes on behind something that ends no word, it is with white space or a
digit. -/
theorem blank_or_digit_of_text_eq {c : Char} (eq : m.text = lead ++ c :: rest) (ne : lead ≠ [])
    (edge : isEdge lead.getLast?) : isBlankChar c ∨ isDecimalDigit c := by
  rw [text_eq] at eq
  rcases lead with _ | ⟨p, _ | ⟨e, _ | ⟨p', lead⟩⟩⟩
  · exact absurd rfl ne
  · obtain ⟨rfl, _⟩ := List.cons.inj eq
    exact absurd edge not_isEdge_letter.1
  · obtain ⟨rfl, _⟩ := List.cons.inj (List.cons.inj eq).2
    exact absurd edge not_isEdge_letter.2
  · have tail := (List.cons.inj (List.cons.inj (List.cons.inj eq).2).2).2
    have mem : c ∈ m.gap ++ m.digits := by
      rw [tail]
      simp
    rcases List.mem_append.mp mem with gap | number
    · exact .inl (List.all_eq_true.mp m.blank c gap)
    · exact .inr (List.all_eq_true.mp m.decimal c number)

end Mention

/-- What is found in a part that ends no word does not depend on what is behind the part, unless
that starts with white space or a digit. -/
theorem proposalMention_append {part behind : Text} (edge : isEdge part.getLast?)
    (visible : ∀ c, behind.head? = some c → ¬ (isBlankChar c ∨ isDecimalDigit c)) (ne : part ≠ [])
    (prev : Option Char) :
    proposalMention prev (part ++ behind) = proposalMention prev part := by
  refine Option.ext fun ⟨replacement, count⟩ => ?_
  rw [proposalMention_eq_some_iff, proposalMention_eq_some_iff]
  constructor
  · rintro ⟨m, after, eq, starts, ends, rfl, rfl⟩
    rcases List.append_eq_append_iff.mp eq with ⟨rest, whole, rfl⟩ | ⟨rest, rfl, rfl⟩
    · cases rest with
      | nil =>
        rw [List.append_nil] at whole
        exact absurd (whole ▸ edge) m.not_isEdge_getLast?_text
      | cons c rest =>
        exact absurd (m.blank_or_digit_of_text_eq whole ne edge) (visible c rfl)
    · cases rest with
      | nil =>
        rw [List.append_nil] at edge
        exact absurd edge m.not_isEdge_getLast?_text
      | cons c rest => exact ⟨m, c :: rest, rfl, starts, ends, rfl, rfl⟩
  · rintro ⟨m, after, rfl, starts, ends, rfl, rfl⟩
    cases after with
    | nil =>
      rw [List.append_nil] at edge
      exact absurd edge m.not_isEdge_getLast?_text
    | cons c after =>
      exact ⟨m, c :: after ++ behind, List.append_assoc _ _ _, starts, ends, rfl, rfl⟩

theorem proposalMention_eq_none {s : Text} (other : s.head? ≠ some 'P') (prev : Option Char) :
    proposalMention prev s = none := by
  rw [Option.eq_none_iff_forall_ne_some]
  rintro ⟨replacement, count⟩ found
  obtain ⟨m, after, rfl, _⟩ := proposalMention_eq_some_iff.mp found
  exact other rfl

theorem head?_ne_of_isEdge {s : Text} (edge : isEdge s.head?) : s.head? ≠ some 'P' :=
  fun letter => not_isEdge_letter.1 (letter ▸ edge)

/-- What ends a word before it depends on no character before it. -/
theorem substituteFrom_of_isEdge {s : Text} (edge : isEdge s.head?) (prev : Option Char) :
    substituteFrom proposalMention 0 prev s = linkProposals s := by
  have missing := proposalMention_eq_none (head?_ne_of_isEdge edge)
  cases s with
  | nil => rfl
  | cons c s => simp only [linkProposals, substitute, substituteFrom, missing]

theorem head?_linkProposals {s : Text} (edge : isEdge s.head?) :
    (linkProposals s).head? = s.head? := by
  have missing := proposalMention_eq_none (head?_ne_of_isEdge edge) none
  cases s with
  | nil => rfl
  | cons c s => simp only [linkProposals, substitute, substituteFrom, missing, List.head?_cons]

theorem getLast?_of_suffix {s t : Text} (ends : t <:+ s) (ne : t ≠ []) :
    t.getLast? = s.getLast? := by
  obtain ⟨lead, rfl⟩ := ends
  rw [List.getLast?_append_of_ne_nil lead ne]

theorem linkProposals_append {part behind : Text} (edge : isEdge part.getLast?)
    (visible : ∀ c, behind.head? = some c → ¬ (isBlankChar c ∨ isDecimalDigit c)) :
    linkProposals (part ++ behind) =
      linkProposals part ++ substituteFrom proposalMention 0 part.getLast? behind := by
  have apart := @substituteFrom_append proposalMention part behind
    (fun rest ends ne => proposalMention_append (getLast?_of_suffix ends ne ▸ edge) visible ne)
    (fun rest _ prev replacement count found => by
      obtain ⟨m, after, rfl, _, _, _, rfl⟩ := proposalMention_eq_some_iff.mp found
      rw [List.length_append]
      exact Nat.le_add_right _ _)
    0 (Nat.zero_le _) none
  rwa [Option.or_none] at apart

namespace Mention

variable {m m' : Mention} {s before before' after after' : Text}

/-- A mention is dealt with on its own, and so are the parts around it. -/
theorem StandsIn.linkProposals_eq (stands : m.StandsIn s before after) :
    linkProposals s =
      linkProposals before ++ (m.shown before.getLast? after.head? ++ linkProposals after) := by
  have letter : ∀ c, (m.text ++ after).head? = some c → ¬ (isBlankChar c ∨ isDecimalDigit c) := by
    rintro c ⟨⟩
    decide
  rw [stands.eq, linkProposals_append stands.starts letter,
    substituteFrom_of_some m.text_ne_nil (m.proposalMention_text stands.starts stands.ends),
    substituteFrom_of_isEdge stands.ends]

/-- Two mentions are the same one, or the later one stands in what is behind the other. -/
theorem StandsIn.eq_or_standsIn (one : m.StandsIn s before after)
    (other : m'.StandsIn s before' after') (le : before.length ≤ before'.length) :
    (before' = before ∧ m' = m ∧ after' = after) ∨
      ∃ between, between ≠ [] ∧ before' = before ++ (m.text ++ between) ∧
        m'.StandsIn after between after' := by
  have eq := one.eq.symm.trans other.eq
  obtain ⟨gap, rfl⟩ : before <+: before' :=
    List.prefix_of_prefix_length_le ⟨_, eq⟩ ⟨_, rfl⟩ le
  rw [List.append_assoc, List.append_cancel_left_eq] at eq
  by_cases same : gap = []
  · rw [same, List.nil_append] at eq
    have read := m.proposalMention?_text (show isEdge none by decide) one.ends
    rw [eq, m'.proposalMention?_text (by decide) other.ends] at read
    obtain ⟨number, rfl⟩ := Prod.mk.inj (Option.some.inj read)
    have text := List.append_cancel_right eq
    rw [text_eq, text_eq, number] at text
    have gap : m'.gap = m.gap := by simpa using text.symm
    exact .inl ⟨by rw [same, List.append_nil], Mention.ext gap number, rfl⟩
  · have edge : isEdge gap.getLast? := by
      rw [getLast?_of_suffix ⟨before, rfl⟩ same]
      exact other.starts
    rcases List.append_eq_append_iff.mp eq with ⟨between, rfl, behind⟩ | ⟨rest, text, behind⟩
    · have ne : between ≠ [] := by
        rintro rfl
        rw [List.append_nil] at edge
        exact m.not_isEdge_getLast?_text edge
      refine .inr ⟨between, ne, rfl, behind, ?_, other.ends⟩
      rw [getLast?_of_suffix ⟨m.text, rfl⟩ ne]
      exact edge
    · cases rest with
      | nil =>
        rw [List.append_nil] at text
        exact absurd (text ▸ edge) m.not_isEdge_getLast?_text
      | cons c rest =>
        -- the later one would begin with a letter in the middle of the first one
        obtain ⟨rfl, _⟩ := List.cons.inj behind
        exact absurd (m.blank_or_digit_of_text_eq text same edge) (by decide)

end Mention

/-- No mention stands in the text. -/
def HasNoMention (s : Text) : Prop :=
  ∀ (m : Mention) (before after : Text), ¬ m.StandsIn s before after

theorem linkProposals_of_hasNoMention {s : Text} (none : HasNoMention s) : linkProposals s = s := by
  refine substitute_eq_self fun lead rest eq => ?_
  rw [Option.eq_none_iff_forall_ne_some]
  rintro ⟨replacement, count⟩ found
  obtain ⟨m, after, text, starts, ends, _⟩ := proposalMention_eq_some_iff.mp found
  exact none m lead after ⟨by rw [eq, text], starts, ends⟩

namespace Mention

variable {m m' : Mention} {s before before' after after' : Text}

/-- A mention in front of another one is not the end of what stands there. -/
theorem StandsIn.of_before (stands : m.StandsIn s before after)
    (early : m'.StandsIn before before' after') :
    m'.StandsIn s before' (after' ++ (m.text ++ after)) := by
  refine ⟨by rw [stands.eq, early.eq, List.append_assoc, List.append_assoc], early.starts, ?_⟩
  cases after' with
  | nil =>
    have edge := stands.starts
    rw [early.eq, List.append_nil, ← getLast?_of_suffix ⟨before', rfl⟩ m'.text_ne_nil] at edge
    exact absurd edge m'.not_isEdge_getLast?_text
  | cons c after' => exact early.ends

theorem StandsIn.of_behind (stands : m.StandsIn s before after)
    (later : m'.StandsIn after before' after') :
    m'.StandsIn s (before ++ (m.text ++ before')) after' := by
  refine ⟨by rw [stands.eq, later.eq, List.append_assoc, List.append_assoc], ?_, later.ends⟩
  cases before' with
  | nil =>
    have edge := stands.ends
    rw [later.eq] at edge
    exact absurd edge not_isEdge_letter.1
  | cons c before' =>
    rw [← List.append_assoc, ← getLast?_of_suffix ⟨_, rfl⟩ (List.cons_ne_nil c before')]
    exact later.starts

/-- Of the mentions in a text one is the first. -/
theorem StandsIn.exists_first {m : Mention} {s before after : Text}
    (stands : m.StandsIn s before after) :
    ∃ (m : Mention) (before after : Text), m.StandsIn s before after ∧ HasNoMention before := by
  by_cases none : HasNoMention before
  · exact ⟨m, before, after, stands, none⟩
  · obtain ⟨m', before', after', early⟩ :
        ∃ (m' : Mention) (before' after' : Text), m'.StandsIn before before' after' := by
      simpa [HasNoMention] using none
    exact StandsIn.exists_first (stands.of_before early)
termination_by before.length
decreasing_by
  have size := congrArg List.length early.eq
  have some := List.length_pos_of_ne_nil m'.text_ne_nil
  rw [List.length_append, List.length_append] at size
  omega

end Mention

/-- A text has no mention, or it goes on behind its first one. -/
@[elab_as_elim]
theorem mention_induction {motive : Text → Prop} (plain : ∀ s, HasNoMention s → motive s)
    (mention : ∀ (m : Mention) (s before after : Text), m.StandsIn s before after →
      HasNoMention before → motive after → motive s) (s : Text) : motive s := by
  by_cases none : HasNoMention s
  · exact plain s none
  · obtain ⟨m, before, after, stands⟩ :
        ∃ (m : Mention) (before after : Text), m.StandsIn s before after := by
      simpa [HasNoMention] using none
    obtain ⟨m, before, after, stands, first⟩ := stands.exists_first
    exact mention m s before after stands first (mention_induction plain mention after)
termination_by s.length
decreasing_by
  have size := congrArg List.length stands.eq
  have some := List.length_pos_of_ne_nil m.text_ne_nil
  rw [List.length_append, List.length_append] at size
  omega

/-- A text that is made of parts with a mention behind each, and of a last part. -/
def joined : List (Text × Mention) → Text → Text
  | [], last => last
  | (part, m) :: parts, last => part ++ (m.text ++ joined parts last)

/-- The same parts with what becomes of each mention between its neighbours. -/
def linked : List (Text × Mention) → Text → Text
  | [], last => last
  | (part, m) :: parts, last =>
    part ++ (m.shown part.getLast? (joined parts last).head? ++ linked parts last)

section Parts

variable {m : Mention} {s before after last : Text} {parts : List (Text × Mention)}

theorem mention_iff_cons (stands : m.StandsIn s before after) (first : HasNoMention before)
    (eq : after = joined parts last)
    (known : ∀ (m' : Mention) (before' after' : Text), m'.StandsIn after before' after' ↔
      ∃ lead part rest, parts = lead ++ (part, m') :: rest ∧ before' = joined lead part ∧
        after' = joined rest last) (m' : Mention) (before' after' : Text) :
    m'.StandsIn s before' after' ↔
      ∃ lead part rest, (before, m) :: parts = lead ++ (part, m') :: rest ∧
        before' = joined lead part ∧ after' = joined rest last := by
  constructor
  · intro other
    rcases Nat.le_total before.length before'.length with le | le
    · rcases stands.eq_or_standsIn other le with ⟨rfl, rfl, rfl⟩ | ⟨between, _, rfl, later⟩
      · exact ⟨[], before', parts, rfl, rfl, eq⟩
      · obtain ⟨lead, part, rest, rfl, rfl, rfl⟩ := (known m' between after').mp later
        exact ⟨(before, m) :: lead, part, rest, rfl, rfl, rfl⟩
    · rcases other.eq_or_standsIn stands le with ⟨rfl, rfl, rfl⟩ | ⟨between, ne, rfl, later⟩
      · exact ⟨[], before, parts, rfl, rfl, eq⟩
      · -- no mention comes before the first one
        obtain ⟨c, tail, rfl⟩ := List.exists_cons_of_ne_nil ne
        have ends := other.ends
        rw [later.eq] at ends
        exact absurd ⟨rfl, other.starts, ends⟩ (first m' before' (c :: tail))
  · rintro ⟨lead, part, rest, whole, rfl, rfl⟩
    rcases List.cons_eq_append_iff.mp whole with ⟨rfl, here⟩ | ⟨lead, rfl, later⟩
    · obtain ⟨same, rfl⟩ := List.cons.inj here
      obtain ⟨rfl, rfl⟩ := Prod.mk.inj same
      rw [← eq]
      exact stands
    · exact stands.of_behind ((known m' _ _).mpr ⟨lead, part, rest, later, rfl, rfl⟩)

end Parts

/-- Every text is parts with all its mentions between them, and only the mentions change. -/
theorem exists_parts (s : Text) : ∃ parts last, s = joined parts last ∧
    linkProposals s = linked parts last ∧
    ∀ (m : Mention) (before after : Text), m.StandsIn s before after ↔
      ∃ lead part rest, parts = lead ++ (part, m) :: rest ∧ before = joined lead part ∧
        after = joined rest last := by
  induction s using mention_induction with
  | plain s none =>
    refine ⟨[], s, rfl, linkProposals_of_hasNoMention none, fun m before after => ?_⟩
    simp [none m before after]
  | mention m s before after stands first ih =>
    obtain ⟨parts, last, eq, same, known⟩ := ih
    refine ⟨(before, m) :: parts, last, by rw [stands.eq, eq, joined], ?_,
      mention_iff_cons stands first eq known⟩
    rw [stands.linkProposals_eq, linkProposals_of_hasNoMention first, same, linked, ← eq]

theorem not_mem_ofNat {c : Char} (other : ¬ c.isDigit) (n : Nat) : c ∉ ofNat n := fun mem =>
  other (Nat.isDigit_of_mem_toDigits (by decide) (by decide) mem)

/-- An address has no letter of a mention in it. -/
theorem not_mem_proposalUrl (n : Nat) : 'P' ∉ proposalUrl n := by
  have digits := not_mem_ofNat (c := 'P') (by decide) n
  have lead : 'P' ∉ ("https://peps.python.org/pep-" : Text) := by decide
  have zeros : 'P' ∉ List.replicate (4 - (ofNat n).length) '0' := fun mem =>
    absurd (List.eq_of_mem_replicate mem) (by decide)
  have slash : 'P' ∉ ['/'] := by decide
  unfold proposalUrl
  simp only [List.mem_append, lead, zeros, digits, slash, or_self, not_false_eq_true]

/-- A number is not written longer than it was read. -/
theorem length_ofNat_le {digits : Text} {n : Nat} (number : number? digits = some n) :
    (ofNat n).length ≤ digits.length := by
  have bound : ∀ (digits : Text) (start : Nat), digits.all Char.isDigit →
      digits.foldl (fun n c => n * 10 + (c.toNat - '0'.toNat)) start <
        (start + 1) * 10 ^ digits.length := by
    intro digits
    induction digits with
    | nil => simp
    | cons d digits ih =>
      intro start all
      rw [List.all_cons, Bool.and_eq_true] at all
      have value : d.toNat - '0'.toNat ≤ 9 := by
        have digit := all.1
        simp only [Char.isDigit, Bool.and_eq_true, decide_eq_true_eq, UInt32.le_iff_toNat_le]
          at digit
        have upper : d.toNat ≤ 57 := digit.2
        have zero : '0'.toNat = 48 := rfl
        omega
      have rest := ih (start * 10 + (d.toNat - '0'.toNat)) all.2
      refine Nat.lt_of_lt_of_le rest ?_
      rw [List.length_cons, Nat.pow_succ', ← Nat.mul_assoc]
      exact Nat.mul_le_mul_right _ (by omega)
  rw [number?] at number
  split at number
  · next filled =>
    rw [Bool.and_eq_true, Bool.not_eq_true', List.isEmpty_eq_false_iff] at filled
    dsimp only at number
    split at number
    · have all := bound _ 0 filled.2
      rw [Nat.zero_add, Nat.one_mul] at all
      rwa [← Option.some.inj number, ofNat,
        Nat.length_toDigits_le_iff (by decide) (List.length_pos_of_ne_nil filled.1)]
    · cases number
  · cases number

/-- What becomes of a mention is one that stays as it is, or the text of a link. -/
theorem Mention.shown_cases (m : Mention) (prev next : Option Char) :
    (∃ m' : Mention, m.shown prev next = m'.text ∧ m'.shown prev next = m'.text) ∨
      ∃ (m' : Mention) (n : Nat),
        m.shown prev next = '[' :: (m'.text ++ (("](" : Text) ++ proposalUrl n ++ [')'])) := by
  by_cases touches : prev = some '[' ∨ next = some ']'
  · exact .inl ⟨m, if_pos touches, if_pos touches⟩
  · have link : m.shown prev next = proposalLink m.digits := if_neg touches
    rw [link, proposalLink]
    cases number : number? m.digits with
    | none =>
      let tidied : Mention := { m with gap := [' '], blank := rfl }
      have same : tidied.shown prev next = proposalLink m.digits := if_neg touches
      rw [proposalLink, number] at same
      exact .inl ⟨tidied, rfl, same⟩
    | some n =>
      have small := (length_ofNat_le number).trans m.few
      have decimal : (ofNat n).all isDecimalDigit := List.all_eq_true.mpr fun c mem =>
        isDecimalDigit_of_isDigit (Nat.isDigit_of_mem_toDigits (by decide) (by decide) mem)
      refine .inr ⟨⟨[' '], ofNat n, rfl, decimal, Nat.toDigits_ne_nil, small⟩, n, ?_⟩
      simp [Mention.text]

/-- Behind a link goes on what was behind the mention. -/
theorem linkProposals_target (n : Nat) {after : Text} (edge : isEdge after.head?) :
    linkProposals (("](" : Text) ++ proposalUrl n ++ [')'] ++ after) =
      ("](" : Text) ++ proposalUrl n ++ [')'] ++ linkProposals after := by
  let target := ("](" : Text) ++ proposalUrl n ++ [')']
  have absent : 'P' ∉ target := by
    have ends : 'P' ∉ ("](" : Text) ∧ 'P' ∉ [')'] := by decide
    simp only [target, List.mem_append, ends.1, ends.2, not_mem_proposalUrl, or_self,
      not_false_eq_true]
  have passed := @substituteFrom_of_none proposalMention none target after
    fun lead rest eq ne => by
      obtain ⟨c, rest, rfl⟩ := List.exists_cons_of_ne_nil ne
      refine proposalMention_eq_none (fun letter => absent ?_) _
      obtain rfl : c = 'P' := Option.some.inj letter
      rw [eq]
      exact List.mem_append_right lead List.mem_cons_self
  rw [substituteFrom_of_isEdge edge] at passed
  exact passed

/-- A second time nothing is left to be linked. -/
theorem linkProposals_linkProposals (s : Text) :
    linkProposals (linkProposals s) = linkProposals s := by
  induction s using mention_induction with
  | plain s none => rw [linkProposals_of_hasNoMention none, linkProposals_of_hasNoMention none]
  | mention m s before after stands first ih =>
    have head := head?_linkProposals stands.ends
    have ends : isEdge (linkProposals after).head? := head ▸ stands.ends
    have same := linkProposals_of_hasNoMention first
    rw [stands.linkProposals_eq, same]
    rcases m.shown_cases before.getLast? after.head? with ⟨m', eq, stays⟩ | ⟨m', n, eq⟩
    · have again : m'.StandsIn (before ++ (m'.text ++ linkProposals after)) before
          (linkProposals after) := ⟨rfl, stands.starts, ends⟩
      rw [eq, again.linkProposals_eq, same, head, stays, ih]
    · have bracket : linkProposals (before ++ ['[']) = before ++ ['['] := by
        rw [linkProposals_append stands.starts (by rintro c ⟨⟩; decide), same]
        rw [substituteFrom_of_isEdge (by decide)]
        rfl
      have again : m'.StandsIn
          (before ++ ['['] ++ (m'.text ++ (("](" : Text) ++ proposalUrl n ++ [')'] ++
            linkProposals after))) (before ++ ['['])
          (("](" : Text) ++ proposalUrl n ++ [')'] ++ linkProposals after) := by
        refine ⟨rfl, ?_, (by decide : isEdge (some ']'))⟩
        rw [List.getLast?_concat]
        decide
      have kept : m'.shown (before ++ ['[']).getLast?
          ((("](" : Text) ++ proposalUrl n ++ [')'] ++ linkProposals after).head?) = m'.text :=
        if_pos (.inl (List.getLast?_concat ..))
      have linked := again.linkProposals_eq
      rw [bracket, kept, linkProposals_target n ends, ih] at linked
      rw [eq]
      simpa only [List.append_assoc, List.cons_append, List.nil_append, List.singleton_append]
        using linked

/-- Linking is done once and for all, and only the mentions change: each one stays when it touches
a square bracket, becomes a link when its number can be read, and is tidied up else. -/
theorem linkProposals_parts (s : Text) :
    linkProposals (linkProposals s) = linkProposals s ∧
      ∃ parts last, s = joined parts last ∧ linkProposals s = linked parts last ∧
        ∀ (m : Mention) (before after : Text), m.StandsIn s before after ↔
          ∃ lead part rest, parts = lead ++ (part, m) :: rest ∧ before = joined lead part ∧
            after = joined rest last :=
  ⟨linkProposals_linkProposals s, exists_parts s⟩

/-- A mention stays as it is when it touches a square bracket, and when its number cannot be read
but it is tidy already. -/
theorem Mention.shown_eq_text_iff (m : Mention) (prev next : Option Char) :
    m.shown prev next = m.text ↔
      (prev = some '[' ∨ next = some ']') ∨ (number? m.digits = none ∧ m.gap = [' ']) := by
  by_cases touches : prev = some '[' ∨ next = some ']'
  · exact iff_of_true (if_pos touches) (.inl touches)
  · rw [or_iff_right touches, shown, if_neg touches, proposalLink]
    cases number? m.digits with
    | some n => simp [text_eq]
    | none =>
      have parts : ("PEP " : Text) ++ m.digits = ("PEP" : Text) ++ ([' '] ++ m.digits) := rfl
      rw [text, parts, List.append_cancel_left_eq, List.append_cancel_right_eq, eq_comm]
      exact (and_iff_right rfl).symm

theorem getLast?_append_cons_eq_iff {lead left : Text} {c : Char} :
    (lead ++ c :: left).getLast? = some c ↔ left = [] ∨ left.getLast? = some c := by
  rcases List.eq_nil_or_concat left with rfl | ⟨left, d, rfl⟩
  · simp
  · simp [List.getLast?_append, List.getLast?_cons]

theorem head?_append_cons_eq_iff {right rest : Text} {c : Char} :
    (right ++ c :: rest).head? = some c ↔ right = [] ∨ right.head? = some c := by
  cases right with
  | nil => simp
  | cons d right => simp

/-- A mention in the text of a link is left alone at both ends of this text and beside square
brackets in it, and where it would not become a link anyway, but nowhere else. -/
theorem linkProposals_label_iff {m : Mention} {s lead left right target rest : Text}
    (stands : m.StandsIn s (lead ++ '[' :: left) (right ++ ']' :: '(' :: target ++ ')' :: rest)) :
    linkProposals s =
        linkProposals (lead ++ '[' :: left) ++
          (m.text ++ linkProposals (right ++ ']' :: '(' :: target ++ ')' :: rest)) ↔
      left = [] ∨ left.getLast? = some '[' ∨ right = [] ∨ right.head? = some ']' ∨
        (number? m.digits = none ∧ m.gap = [' ']) := by
  rw [stands.linkProposals_eq, List.append_cancel_left_eq, List.append_cancel_right_eq,
    m.shown_eq_text_iff, getLast?_append_cons_eq_iff, List.append_assoc, List.cons_append,
    head?_append_cons_eq_iff]
  simp only [or_assoc]

def proposal8 : Mention := ⟨[' '], ['8'], rfl, rfl, by decide, by decide⟩

theorem linkProposals_label_iff_atStart :
    proposal8.StandsIn "[PEP 8 rules](https://a.dev)" "[" " rules](https://a.dev)" ∧
      linkProposals "[PEP 8 rules](https://a.dev)" =
        linkProposals "[" ++ (proposal8.text ++ linkProposals " rules](https://a.dev)") := by
  have stands : proposal8.StandsIn "[PEP 8 rules](https://a.dev)" "[" " rules](https://a.dev)" :=
    ⟨rfl, by decide, by decide⟩
  exact ⟨stands, (@linkProposals_label_iff _ _ [] [] " rules" "https://a.dev" [] stands).mpr
    (.inl rfl)⟩

/-- A mention amid the text of a link becomes a link within the link. -/
theorem not_linkProposals_label :
    (¬ ∀ (m : Mention) (s lead left right target rest : Text),
      m.StandsIn s (lead ++ '[' :: left) (right ++ ']' :: '(' :: target ++ ')' :: rest) →
        linkProposals s =
          linkProposals (lead ++ '[' :: left) ++
            (m.text ++ linkProposals (right ++ ']' :: '(' :: target ++ ')' :: rest))) ∧
      linkProposals "[see PEP 8 here](https://a.dev)" =
        "[see [PEP 8](https://peps.python.org/pep-0008/) here](https://a.dev)".toList := by
  refine ⟨fun all => ?_, by decide +kernel⟩
  have kept := all proposal8 "[see PEP 8 here](https://a.dev)" [] "see " " here" "https://a.dev" []
    ⟨rfl, by decide, by decide⟩
  exact absurd kept (by decide +kernel)

end SymbolDocs.Reference
