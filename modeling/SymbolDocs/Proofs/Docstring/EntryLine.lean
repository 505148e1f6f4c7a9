import SymbolDocs.Docstring.Entry
import SymbolDocs.Proofs.Text.CharSets
import SymbolDocs.Proofs.Text.Words

namespace SymbolDocs

open Text

namespace Entry

/-- An ASCII letter or an underscore, with characters of a class behind it. -/
def IsNameOf (inName : Char → Bool) (s : Text) : Prop :=
  ∃ c more, s = c :: more ∧ startsName c ∧ ∀ d ∈ more, inName d

instance (inName : Char → Bool) : (s : Text) → Decidable (IsNameOf inName s)
  | [] => isFalse nofun
  | c :: more => decidable_of_iff (startsName c ∧ more.all inName)
    ⟨fun ⟨starts, all⟩ => ⟨c, more, rfl, starts, List.all_eq_true.mp all⟩, by
      rintro ⟨_, _, ⟨⟩, starts, all⟩
      exact ⟨starts, List.all_eq_true.mpr all⟩⟩

/-- A name with up to two stars in front. -/
def IsStarredName (s : Text) : Prop :=
  ∃ stars word, stars ≤ 2 ∧ s = List.replicate stars '*' ++ word ∧ IsNameOf isWordChar word

theorem isWordChar_of_startsName {c : Char} (starts : startsName c) : isWordChar c := by
  have kind : c.isAlpha ∨ c = '_' := by simpa [startsName] using starts
  rcases kind with letter | rfl
  · have ascii : isAsciiChar c := by
      rw [isAsciiChar, decide_eq_true_eq]
      rcases (Bool.or_eq_true _ _).mp letter with upper | lower
      · exact Nat.lt_of_le_of_lt (of_decide_eq_true upper).2 (by decide)
      · have bound := ((Bool.and_eq_true _ _).mp lower).2
        exact Nat.lt_of_le_of_lt (of_decide_eq_true bound) (by decide)
    rw [isWordChar, if_pos ascii, Char.isAlphanum, letter]
    rfl
  · decide

namespace IsStarredName

variable {s : Text}

theorem mem (name : IsStarredName s) {c : Char} (inside : c ∈ s) : c = '*' ∨ isWordChar c := by
  obtain ⟨stars, word, _, rfl, first, more, rfl, starts, all⟩ := name
  rcases List.mem_append.mp inside with star | inside
  · exact .inl (List.eq_of_mem_replicate star)
  · rcases List.mem_cons.mp inside with rfl | later
    · exact .inr (isWordChar_of_startsName starts)
    · exact .inr (all c later)

theorem isWord (name : IsStarredName s) : IsWord s := by
  constructor
  · obtain ⟨stars, word, _, rfl, first, more, rfl, _⟩ := name
    simp
  · intro c inside
    rcases name.mem inside with rfl | part
    · decide
    · exact fun blank => not_isWordChar_of_isBlankChar blank part

theorem exists_mem_ne_dash (name : IsStarredName s) : ∃ c ∈ s, c ≠ '-' := by
  obtain ⟨stars, word, _, rfl, c, more, rfl, starts, _⟩ := name
  refine ⟨c, by simp, ?_⟩
  rintro rfl
  exact absurd starts (by decide)

theorem not_mem_colon (name : IsStarredName s) : ':' ∉ s := by
  intro inside
  rcases name.mem inside with star | part
  · exact absurd star (by decide)
  · exact absurd part (by decide)

theorem leadingStars_append (name : IsStarredName s) (rest : Text) :
    ∃ stars c more, s = stars ++ c :: more ∧ startsName c ∧ (∀ d ∈ more, isWordChar d) ∧
      leadingStars (s ++ rest) = (stars, c :: more ++ rest) := by
  obtain ⟨stars, word, few, rfl, c, more, rfl, starts, all⟩ := name
  have ne : c ≠ '*' := by
    rintro rfl
    exact absurd starts (by decide)
  refine ⟨List.replicate stars '*', c, more, rfl, starts, all, ?_⟩
  obtain rfl | rfl | rfl : stars = 0 ∨ stars = 1 ∨ stars = 2 := by omega
  · simp [leadingStars, ne]
  · simp [leadingStars, ne, List.replicate_succ]
  · simp [leadingStars, List.replicate_succ]

/-- A name is read up to the first character that is not of its class. -/
theorem name?_append (name : IsStarredName s) (inName : Char → Bool)
    (within : ∀ c, isWordChar c → inName c) (rest : Text)
    (ends : ∀ c, rest.head? = some c → ¬ inName c) : name? inName (s ++ rest) = some (s, rest) := by
  obtain ⟨stars, c, more, eq, starts, all, lead⟩ := name.leadingStars_append rest
  have read := span_append (fun d inside => within d (all d inside)) rest ends
  rw [name?, lead]
  simp only [List.cons_append, if_pos starts, read, eq]

theorem name?_self (name : IsStarredName s) (inName : Char → Bool)
    (within : ∀ c, isWordChar c → inName c) : name? inName s = some (s, []) := by
  have read := name.name?_append inName within [] nofun
  rwa [List.append_nil] at read

theorem isBareName (name : IsStarredName s) : isBareName s := by
  rw [Entry.isBareName, name.name?_self _ fun _ part => part]

theorem namesAndType?_eq_none (name : IsStarredName s) : namesAndType? s = none := by
  rw [namesAndType?, cut?_eq_none_iff.mpr name.not_mem_colon]
  rfl

/-- A name and a type: `x : int`. -/
theorem namesAndType?_typed (name : IsStarredName s) (type : Text) :
    namesAndType? (s ++ ' ' :: ':' :: ' ' :: type) = some (s, trim type) := by
  have absent : ':' ∉ s ++ [' '] := by simp [name.not_mem_colon]
  have cut := cut?_append absent (' ' :: type)
  rw [List.append_assoc, List.singleton_append] at cut
  have ends : trimEnd (s ++ [' ']) = s := by
    rw [trimEnd_append_of_isBlank s (by decide), (trim_of_isWord name.isWord).2]
  have read := name.name?_self (fun c => isWordChar c || c == ',' || c == ' ' || c == '*')
    fun c part => by simp [part]
  have type : trim (' ' :: type) = trim type := rfl
  rw [namesAndType?, cut]
  simp only [Option.bind_eq_bind, Option.bind_some, ends, read, type]
  rfl

/-- A name and a text: `x: first line`. -/
theorem nameTypeText?_plain (name : IsStarredName s) (tail : Text) :
    nameTypeText? (s ++ ':' :: tail) = some (s, none, trimStart tail) := by
  have read := name.name?_append isWordChar (fun _ part => part) (':' :: tail)
    (by rintro c ⟨⟩; decide)
  have colon : trimStart (':' :: tail) = ':' :: tail := rfl
  rw [nameTypeText?, read]
  simp only [Option.bind_eq_bind, Option.bind_some, colon]
  rfl

/-- A name, a type and a text: `x (int): first line`. -/
theorem nameTypeText?_typed (name : IsStarredName s) {type : Text} (plain : ')' ∉ type)
    (tail : Text) : nameTypeText? (s ++ ' ' :: '(' :: (type ++ ')' :: ':' :: tail)) =
      some (s, some type, trimStart tail) := by
  have read := name.name?_append isWordChar (fun _ part => part)
    (' ' :: '(' :: (type ++ ')' :: ':' :: tail)) (by rintro c ⟨⟩; decide)
  have opening : trimStart (' ' :: '(' :: (type ++ ')' :: ':' :: tail)) =
      '(' :: (type ++ ')' :: ':' :: tail) := rfl
  have colon : trimStart (':' :: tail) = ':' :: tail := rfl
  rw [nameTypeText?, read]
  simp only [Option.bind_eq_bind, Option.bind_some, opening, cut?_append plain, colon]
  rfl

end IsStarredName

/-- A dotted name and a text: `pkg.Error: when`. -/
theorem dottedNameText?_append {s : Text}
    (name : IsNameOf (fun c => isWordChar c || c == '.') s) (tail : Text) :
    dottedNameText? (s ++ ':' :: tail) = some (s, trimStart tail) := by
  obtain ⟨c, more, rfl, starts, all⟩ := name
  have read := span_append all (':' :: tail) (by rintro c ⟨⟩; decide)
  have colon : trimStart (':' :: tail) = ':' :: tail := rfl
  simp only [List.cons_append, dottedNameText?, if_pos starts, read, colon]
  rfl

end Entry
end SymbolDocs
