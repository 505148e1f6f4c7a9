import SymbolDocs.Docstring.HelpPage
import SymbolDocs.Proofs.Docstring.References
import SymbolDocs.Proofs.Text.WholeWords

namespace SymbolDocs.HelpPage

open Text Reference

/-- The name of a help topic: a capital and one or more capitals, digits and underscores. -/
def isTopicName : Text → Bool
  | c :: more => isCapital c && !more.isEmpty && more.all isTopicChar
  | [] => false

/-- A text without the whole words that name help topics. -/
def withoutTopics (s : Text) : Text := ((wordRuns s).filter (!isTopicName ·)).flatten

section Chars

variable {c : Char}

theorem isTopicChar_of_isCapital (capital : isCapital c) : isTopicChar c := by
  rw [isCapital] at capital
  simp [isTopicChar, capital]

theorem isWordChar_of_isTopicChar (topic : isTopicChar c) : isWordChar c := by
  rw [isTopicChar, Bool.or_eq_true, Bool.or_eq_true] at topic
  have small : c.toNat < 0x80 := by
    rcases topic with (upper | digit) | underscore
    · have bounds : 'A' ≤ c ∧ c ≤ 'Z' := of_decide_eq_true upper
      exact Nat.lt_of_le_of_lt (UInt32.le_iff_toNat_le.mp bounds.2) (by decide)
    · have bounds : ('0' ≤ c && c ≤ '9') = true := digit
      have last : c ≤ '9' := of_decide_eq_true (Bool.and_eq_true_iff.mp bounds).2
      exact Nat.lt_of_le_of_lt (UInt32.le_iff_toNat_le.mp last) (by decide)
    · rw [eq_of_beq underscore]
      decide
  have ascii : isAsciiChar c := decide_eq_true small
  rw [isWordChar, if_pos ascii]
  show (c.isUpper || c.isLower || c.isDigit || c == '_') = true
  rcases topic with (upper | digit) | underscore
  · simp [upper]
  · simp [digit]
  · simp [underscore]

/-- What is dropped when separators are tidied up makes up no words. -/
theorem not_isWordChar_of_isLooseChar (loose : isLooseChar c) : ¬ isWordChar c := by
  rw [isLooseChar, Bool.or_eq_true, Bool.or_eq_true, beq_iff_eq, beq_iff_eq] at loose
  rcases loose with (rfl | rfl) | blank
  · decide
  · decide
  · exact not_isWordChar_of_isBlankChar blank

end Chars

theorem all_isTopicChar {name : Text} (topic : isTopicName name) : ∀ c ∈ name, isTopicChar c := by
  cases name with
  | nil => exact absurd topic (by decide)
  | cons c more =>
    rw [isTopicName, Bool.and_eq_true, Bool.and_eq_true] at topic
    intro d mem
    rcases List.mem_cons.mp mem with rfl | mem
    · exact isTopicChar_of_isCapital topic.1.1
    · exact List.all_eq_true.mp topic.2 d mem

/-- A name of a topic is read where it is a word of its own. -/
theorem topicName?_eq_some_iff {prev : Option Char} {s name : Text} :
    topicName? prev s = some name ↔
      ∃ rest, s = name ++ rest ∧ isTopicName name ∧ isEdge prev ∧ isEdge rest.head? := by
  constructor
  · intro read
    cases s with
    | nil => cases read
    | cons c s =>
      rw [topicName?, List.span_eq_takeWhile_dropWhile] at read
      dsimp only at read
      split at read
      · next word =>
        simp only [Bool.and_eq_true] at word
        obtain ⟨⟨⟨capital, starts⟩, ne⟩, ends⟩ := word
        obtain rfl := Option.some.inj read
        refine ⟨s.dropWhile isTopicChar, ?_, ?_, starts, ends⟩
        · rw [List.cons_append, List.takeWhile_append_dropWhile]
        · rw [isTopicName, capital, ne, Bool.true_and, Bool.true_and]
          exact List.all_takeWhile
      · cases read
  · rintro ⟨rest, rfl, topic, starts, ends⟩
    cases name with
    | nil => exact absurd topic (by decide)
    | cons c more =>
      rw [isTopicName, Bool.and_eq_true, Bool.and_eq_true] at topic
      obtain ⟨⟨capital, ne⟩, all⟩ := topic
      have whole : (more ++ rest).span isTopicChar = (more, rest) := by
        refine span_append (List.all_eq_true.mp all) rest fun d head topic => ?_
        rw [head] at ends
        exact isEdge_some.mp ends (isWordChar_of_isTopicChar topic)
      rw [List.cons_append, topicName?, whole]
      simp [capital, starts, ne, ends]

theorem dropTopic_eq_some_iff {prev : Option Char} {s replacement : Text} {count : Nat} :
    dropTopic prev s = some (replacement, count) ↔
      ∃ name, topicName? prev s = some name ∧
        replacement = (if name = "PEP" then name else []) ∧ count = name.length := by
  rw [dropTopic, Option.bind_eq_bind, Option.bind_eq_some_iff]
  simp [eq_comm]

/-- Runs that are left in the text. -/
def isKept (run : Text) : Bool := run = "PEP" || !isTopicName run

/-- No name of a topic is read in a run that is kept, but for a `PEP`. -/
theorem dropTopic_eq_none {isWord : Bool} {run rest : Text} (first : IsFirstRun isWord run rest)
    (other : ¬ isTopicName run) {lead part : Text} (split : run = lead ++ part) (ne : part ≠ [])
    (prev : Option Char) : dropTopic (lead.getLast?.or prev) (part ++ rest) = none := by
  rw [Option.eq_none_iff_forall_ne_some]
  rintro ⟨replacement, count⟩ found
  obtain ⟨name, read, -⟩ := dropTopic_eq_some_iff.mp found
  obtain ⟨behind, eq, topic, starts, ends⟩ := topicName?_eq_some_iff.mp read
  have filled : name ≠ [] := by
    rintro rfl
    exact absurd topic (by decide)
  have all : ∀ c ∈ name, isWordChar c := fun c mem =>
    isWordChar_of_isTopicChar (all_isTopicChar topic c mem)
  exact other (first.eq_of_word split ne eq filled all starts ends ▸ topic)

/-- A run that names a topic vanishes, unless it is a `PEP`. -/
theorem dropTopic_run {isWord : Bool} {run rest : Text} (first : IsFirstRun isWord run rest)
    (topic : isTopicName run) {prev : Option Char} (starts : isEdge prev) :
    dropTopic prev (run ++ rest) = some (if isKept run then run else [], run.length) := by
  obtain ⟨c, more, rfl⟩ := List.exists_cons_of_ne_nil first.ne_nil
  have letter := all_isTopicChar topic c List.mem_cons_self
  have same := first.alike c List.mem_cons_self
  obtain rfl : isWord = true := same.symm.trans (isWordChar_of_isTopicChar letter)
  have read : topicName? prev (c :: more ++ rest) = some (c :: more) :=
    topicName?_eq_some_iff.mpr ⟨rest, rfl, topic, starts, first.isEdge_head?⟩
  exact dropTopic_eq_some_iff.mpr ⟨_, read, by simp [isKept, topic], rfl⟩

/-- Exactly the runs that name topics vanish. -/
theorem substitute_dropTopic (s : Text) :
    substitute dropTopic s = ((wordRuns s).filter isKept).flatten := by
  -- in front of a word stands no word character
  have anywhere : ∀ prev : Option Char, (∀ c, s.head? = some c → isWordChar c → isEdge prev) →
      substituteFrom dropTopic 0 prev s = ((wordRuns s).filter isKept).flatten := by
    induction s using run_induction with
    | nil => exact fun prev _ => rfl
    | run isWord run rest first ih =>
      intro prev starts
      have later : substituteFrom dropTopic 0 run.getLast? rest =
          ((wordRuns rest).filter isKept).flatten :=
        ih run.getLast? fun c head word => first.isEdge_getLast? head word
      rw [first.wordRuns_append]
      by_cases topic : isTopicName run
      · have edge : isEdge prev := by
          obtain ⟨c, more, rfl⟩ := List.exists_cons_of_ne_nil first.ne_nil
          have letter := all_isTopicChar topic c List.mem_cons_self
          exact starts c rfl (isWordChar_of_isTopicChar letter)
        rw [substituteFrom_of_some first.ne_nil (dropTopic_run first topic edge), later,
          List.filter_cons]
        split <;> rfl
      · have kept : isKept run := by simp [isKept, topic]
        have stays := @substituteFrom_of_none dropTopic prev run rest
          fun lead part split ne => dropTopic_eq_none first topic split ne prev
        obtain ⟨last, ends, -⟩ := first.exists_getLast?
        rw [stays, ends, Option.some_or, ← ends, later, List.filter_cons_of_pos kept,
          List.flatten_cons]
  exact anywhere none fun c head word => by decide

/-- No new words come about where a topic was. -/
theorem wholeWords_substitute_dropTopic (s : Text) :
    wholeWords (substitute dropTopic s) = (wholeWords s).filter isKept := by
  rw [substitute_dropTopic]
  -- what is no word stays at the start of a text
  have both : wholeWords ((wordRuns s).filter isKept).flatten = (wholeWords s).filter isKept ∧
      (isEdge s.head? → ((wordRuns s).filter isKept).flatten.head? = s.head?) := by
    induction s using run_induction with
    | nil => exact ⟨rfl, fun _ => rfl⟩
    | run isWord run rest first ih =>
      obtain ⟨c, more, eq⟩ := List.exists_cons_of_ne_nil first.ne_nil
      have same := first.alike c (by simp [eq])
      cases isWord with
      | true =>
        have behind : IsFirstRun true run ((wordRuns rest).filter isKept).flatten :=
          ⟨first.ne_nil, first.alike, by rw [ih.2 first.isEdge_head?]; exact first.ends⟩
        rw [first.wordRuns_append, first.wholeWords_append, List.filter_cons, List.filter_cons]
        constructor
        · split
          · rw [List.flatten_cons, behind.wholeWords_append, ih.1]
          · exact ih.1
        · intro edge
          rw [eq, List.cons_append, List.head?_cons, isEdge_some] at edge
          exact absurd same edge
      | false =>
        have kept : isKept run := by
          by_contra other
          have topic : isTopicName run := by
            simp only [isKept, Bool.or_eq_true, not_or, Bool.not_eq_true', Bool.not_eq_false]
              at other
            exact other.2
          have word := isWordChar_of_isTopicChar (all_isTopicChar topic c (by simp [eq]))
          rw [same] at word
          cases word
        rw [first.wordRuns_append, first.wholeWords_append_other, List.filter_cons_of_pos kept,
          List.flatten_cons]
        refine ⟨?_, fun _ => by rw [eq]; rfl⟩
        have gap : ∀ d ∈ run, (!isWordChar d) = true := by
          intro d mem
          simp [first.alike d mem]
        exact (fields_append_of_all gap _).trans ih.1
  exact both.1

theorem exists_of_tidySeparator {prev : Option Char} {s replacement : Text} {count : Nat}
    (found : tidySeparator prev s = some (replacement, count)) :
    ∃ run rest, s = run ++ rest ∧ run ≠ [] ∧ (∀ c ∈ run, isLooseChar c) ∧ replacement = ", " ∧
      count = run.length := by
  rw [tidySeparator] at found
  split at found
  · next comma =>
    obtain ⟨rfl, rfl⟩ := Prod.mk.inj (Option.some.inj found)
    refine ⟨_, _, List.takeWhile_append_dropWhile.symm, ?_, fun c mem => ?_, rfl, rfl⟩
    · intro empty
      rw [empty] at comma
      cases comma
    · have part := List.mem_takeWhile_imp mem
      rw [Bool.or_eq_true] at part
      rcases part with blank | separator
      · simp [isLooseChar, blank]
      · simp [isLooseChar, separator]
  · cases found

/-- Separators are tidied up between the other characters. -/
theorem fields_substitute_tidySeparator (s : Text) :
    fields isLooseChar (substitute tidySeparator s) = fields isLooseChar s := by
  have behind : ∀ (lead : Text) (prev : Option Char),
      fields isLooseChar (lead ++ substituteFrom tidySeparator 0 prev s) =
        fields isLooseChar (lead ++ s) := by
    induction size : s.length using Nat.strong_induction_on generalizing s with
    | _ n ih =>
      intro lead prev
      cases s with
      | nil => rfl
      | cons c s =>
        cases found : tidySeparator prev (c :: s) with
        | none =>
          have later := ih s.length (by rw [← size, List.length_cons]; omega) s rfl (lead ++ [c])
            (some c)
          simp only [substituteFrom, found]
          rwa [List.append_assoc, List.append_assoc] at later
        | some way =>
          obtain ⟨run, rest, whole, ne, loose, tidy, count⟩ := exists_of_tidySeparator found
          have shorter : rest.length < n := by
            have parts := congrArg List.length whole
            have positive := List.length_pos_of_ne_nil ne
            rw [List.length_append, size] at parts
            omega
          have later := ih rest.length shorter rest rfl [] run.getLast?
          have replaced : tidySeparator prev (run ++ rest) = some (way.1, run.length) := by
            rw [← whole, ← count]
            exact found
          rw [whole, substituteFrom_of_some ne replaced, tidy, ← List.append_assoc,
            ← List.append_assoc, fields_append_gap (by decide) (List.all_eq_true.mp rfl),
            fields_append_gap ne loose]
          exact congrArg _ later
  exact behind [] none

/-- References before proposals are linked. -/
def tidied (s : Text) : Text :=
  dropEndWhile isLooseChar
    ((substitute tidySeparator (joinWith " " (words (substitute dropTopic s)))).dropWhile isLooseChar)

theorem tidyTopics_eq (s : Text) : tidyTopics s = (nonEmpty? (tidied s)).map linkProposals := rfl

/-- All but white space, commas and periods stays, and stays together. -/
theorem fields_tidied (s : Text) :
    fields isLooseChar (tidied s) = fields isLooseChar (substitute dropTopic s) := by
  have blanks : ∀ c, isBlankChar c → isLooseChar c := by
    intro c blank
    simp [isLooseChar, blank]
  rw [tidied, fields_dropEndWhile, fields_dropWhile, fields_substitute_tidySeparator,
    fields_joinWith (by decide) (List.all_eq_true.mp rfl), words_eq_fields, flatMap_fields blanks]

theorem wholeWords_tidied (s : Text) : wholeWords (tidied s) = (wholeWords s).filter isKept := by
  have fewer : ∀ c, isLooseChar c → (!isWordChar c) = true := by
    intro c loose
    simpa using not_isWordChar_of_isLooseChar loose
  rw [← wholeWords_substitute_dropTopic, wholeWords, wholeWords, ← flatMap_fields fewer,
    fields_tidied, flatMap_fields fewer]

/-- Where no `PEP` stands, exactly the whole words that name topics are removed, and no such word
comes about. -/
theorem tidyTopics_of_not_infix {s : Text} (plain : ¬ ("PEP" : Text) <:+: s) :
    ((tidyTopics s).getD []).filter (!isLooseChar ·) = (withoutTopics s).filter (!isLooseChar ·) ∧
      ∀ run ∈ wordRuns ((tidyTopics s).getD []), ¬ isTopicName run := by
  have known : ∀ w ∈ wholeWords (tidied s), w ∈ wholeWords s ∧ isKept w := by
    intro w mem
    rw [wholeWords_tidied] at mem
    exact List.mem_filter.mp mem
  have linkFree : ¬ ("PEP" : Text) <:+: tidied s := by
    intro occurs
    have letters : ∀ c ∈ ("PEP" : Text), isWordChar c := List.all_eq_true.mp rfl
    obtain ⟨w, mem, inside⟩ := exists_mem_fields_infix (p := (!isWordChar ·)) (by decide)
      (fun c inside => by simpa using letters c inside) occurs
    exact plain (inside.trans (infix_of_mem_fields (known w mem).1))
  have text : (tidyTopics s).getD [] = tidied s := by
    rw [tidyTopics_eq, nonEmpty?]
    split
    · next empty => exact (List.isEmpty_iff.mp empty).symm
    · exact linkProposals_of_not_infix linkFree
  have kept : ∀ run ∈ wordRuns s, isKept run = !isTopicName run := by
    intro run mem
    have other : run ≠ "PEP" := by
      rintro rfl
      exact plain (infix_of_mem_wordRuns mem)
    rw [isKept, decide_eq_false other, Bool.false_or]
  rw [text]
  constructor
  · rw [← flatten_fields, ← flatten_fields, fields_tidied, substitute_dropTopic, withoutTopics,
      List.filter_congr kept]
  · intro run mem topic
    have word : run ∈ wholeWords (tidied s) := by
      rw [wholeWords_eq_filter]
      refine List.mem_filter.mpr ⟨mem, List.all_eq_true.mpr fun c inside => ?_⟩
      exact isWordChar_of_isTopicChar (all_isTopicChar topic c inside)
    obtain ⟨old, stays⟩ := known run word
    rw [wholeWords_eq_filter] at old
    rw [kept run (List.mem_filter.mp old).1, topic] at stays
    cases stays

def statementTopics : Text := "The FOR , WHILE_2, and (TRY) statements; A1B.\n\tMAX x_Y, Z."

theorem tidyTopics_statementTopics :
    ¬ ("PEP" : Text) <:+: statementTopics ∧
      tidyTopics statementTopics = some "The, and () statements; . x_Y, Z".toList ∧
      ((tidyTopics statementTopics).getD []).filter (!isLooseChar ·) =
        (withoutTopics statementTopics).filter (!isLooseChar ·) ∧
      ∀ run ∈ wordRuns ((tidyTopics statementTopics).getD []), ¬ isTopicName run := by
  have plain : ¬ ("PEP" : Text) <:+: statementTopics := by decide +kernel
  exact ⟨plain, by decide +kernel, tidyTopics_of_not_infix plain⟩

end SymbolDocs.HelpPage
