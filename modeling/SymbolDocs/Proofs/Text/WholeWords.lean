import Mathlib.Data.List.SplitBy
import SymbolDocs.Proofs.Text.CharSets
import SymbolDocs.Proofs.Text.Fields
import SymbolDocs.Text.Replace

namespace SymbolDocs.Text

/-- A text as runs of word characters and runs of others, each as long as possible. -/
def wordRuns (s : Text) : List Text := s.splitBy fun c d => isWordChar c == isWordChar d

/-- The runs of word characters alone. -/
def wholeWords (s : Text) : List Text := fields (!isWordChar ·) s

/-- The first run of a text, and whether it is a word. -/
structure IsFirstRun (isWord : Bool) (run rest : Text) : Prop where
  ne_nil : run ≠ []
  alike : ∀ c ∈ run, isWordChar c = isWord
  ends : ∀ c, rest.head? = some c → isWordChar c ≠ isWord

theorem isEdge_some {c : Char} : isEdge (some c) ↔ ¬ isWordChar c := by
  simp [isEdge]

theorem IsFirstRun.wordRuns_append {isWord : Bool} {run rest : Text}
    (first : IsFirstRun isWord run rest) : wordRuns (run ++ rest) = run :: wordRuns rest := by
  have apart : ∀ c ∈ run.getLast?, ∀ d ∈ rest.head?,
      (isWordChar c == isWordChar d) = false := by
    intro c last d head
    rw [first.alike c (List.mem_of_getLast? last), beq_eq_false_iff_ne]
    exact (first.ends d head).symm
  have chain : run.IsChain fun c d => (isWordChar c == isWordChar d) = true := by
    apply List.Pairwise.isChain
    refine List.pairwise_of_forall_mem_list fun c mem d mem' => ?_
    rw [first.alike c mem, first.alike d mem', beq_self_eq_true]
  rw [wordRuns, List.splitBy_append apart, List.splitBy_of_isChain first.ne_nil chain]
  rfl

theorem exists_isFirstRun (c : Char) (s : Text) :
    ∃ run rest, c :: s = run ++ rest ∧ IsFirstRun (isWordChar c) run rest := by
  have whole := List.takeWhile_append_dropWhile (p := (isWordChar · == isWordChar c)) (l := c :: s)
  refine ⟨_, _, whole.symm, ?_, fun d mem => ?_, fun d head => ?_⟩
  · simp
  · have alike := List.mem_takeWhile_imp (p := (isWordChar · == isWordChar c)) mem
    exact beq_iff_eq.mp alike
  · have stops := List.head?_dropWhile_not (isWordChar · == isWordChar c) (c :: s)
    rw [head] at stops
    simpa using stops

/-- A text is read run by run. -/
theorem run_induction {motive : Text → Prop} (nil : motive [])
    (run : ∀ (isWord : Bool) (run rest : Text), IsFirstRun isWord run rest → motive rest →
      motive (run ++ rest)) (s : Text) : motive s := by
  induction size : s.length using Nat.strong_induction_on generalizing s with
  | _ n ih =>
    cases s with
    | nil => exact nil
    | cons c s =>
      obtain ⟨first, rest, whole, isFirst⟩ := exists_isFirstRun c s
      have parts := congrArg List.length whole
      have positive := List.length_pos_of_ne_nil isFirst.ne_nil
      rw [List.length_append] at parts
      rw [whole]
      exact run _ first rest isFirst (ih rest.length (by omega) rest rfl)

namespace IsFirstRun

variable {isWord : Bool} {run rest : Text}

theorem exists_getLast? (first : IsFirstRun isWord run rest) :
    ∃ c, run.getLast? = some c ∧ isWordChar c = isWord := by
  have last := List.getLast?_eq_some_getLast first.ne_nil
  exact ⟨_, last, first.alike _ (List.getLast_mem first.ne_nil)⟩

/-- Next to the end of a word stands no word character. -/
theorem isEdge_head? (first : IsFirstRun true run rest) : isEdge rest.head? := by
  cases rest with
  | nil => rfl
  | cons c rest => exact isEdge_some.mpr (first.ends c rfl)

/-- In front of a word no word ends. -/
theorem isEdge_getLast? (first : IsFirstRun isWord run rest) {c : Char}
    (head : rest.head? = some c) (word : isWordChar c) : isEdge run.getLast? := by
  obtain ⟨last, eq, alike⟩ := first.exists_getLast?
  have apart := first.ends c head
  rw [word] at apart
  rw [eq, isEdge_some, alike]
  exact fun other => apart other.symm

theorem wholeWords_append (first : IsFirstRun true run rest) :
    wholeWords (run ++ rest) = run :: wholeWords rest := by
  have none : ∀ c ∈ run, ¬ (!isWordChar c) := by
    intro c mem
    simp [first.alike c mem]
  have alone : wholeWords run = [run] := fields_of_none first.ne_nil none
  cases rest with
  | nil =>
    rw [List.append_nil, alone]
    rfl
  | cons c rest =>
    have cut : !isWordChar c := by simpa using first.ends c rfl
    have behind : wholeWords (c :: rest) = wholeWords rest := fields_append_cons cut [] rest
    rw [behind, wholeWords, fields_append_cons cut, ← wholeWords, alone]
    rfl

theorem wholeWords_append_other (first : IsFirstRun false run rest) :
    wholeWords (run ++ rest) = wholeWords rest :=
  fields_append_of_all (fun c mem => by simp [first.alike c mem]) rest

/-- A word of its own that begins in a run is the whole run. -/
theorem eq_of_word (first : IsFirstRun isWord run rest) {lead part word behind : Text}
    {prev : Option Char} (split : run = lead ++ part) (ne : part ≠ [])
    (eq : part ++ rest = word ++ behind) (filled : word ≠ []) (all : ∀ c ∈ word, isWordChar c)
    (starts : isEdge (lead.getLast?.or prev)) (ends : isEdge behind.head?) : word = run := by
  have isTrue : isWord = true := by
    obtain ⟨c, part, rfl⟩ := List.exists_cons_of_ne_nil ne
    obtain ⟨d, word, rfl⟩ := List.exists_cons_of_ne_nil filled
    obtain ⟨rfl, -⟩ := List.cons.inj eq
    rw [← first.alike c (by simp [split])]
    exact all c List.mem_cons_self
  subst isTrue
  rcases List.eq_nil_or_concat lead with rfl | ⟨lead, e, rfl⟩
  · obtain rfl : run = part := split
    have left : (run ++ rest).span isWordChar = (run, rest) :=
      span_append (fun c mem => first.alike c mem) rest first.ends
    have right : (word ++ behind).span isWordChar = (word, behind) := by
      refine span_append all behind fun c head => ?_
      rw [head] at ends
      exact isEdge_some.mp ends
    rw [eq, right] at left
    exact (Prod.mk.inj left).1
  · -- a word cannot start behind a character of the run
    rw [List.concat_eq_append, List.getLast?_concat] at starts
    exact absurd (first.alike e (by simp [split])) (isEdge_some.mp starts)

end IsFirstRun

theorem wholeWords_eq_filter (s : Text) :
    wholeWords s = (wordRuns s).filter (·.all isWordChar) := by
  induction s using run_induction with
  | nil => rfl
  | run isWord run rest first ih =>
    cases isWord with
    | true =>
      have whole : run.all isWordChar := List.all_eq_true.mpr first.alike
      rw [first.wordRuns_append, first.wholeWords_append, List.filter_cons, if_pos whole, ih]
    | false =>
      obtain ⟨c, tail, rfl⟩ := List.exists_cons_of_ne_nil first.ne_nil
      have other := first.alike c List.mem_cons_self
      rw [first.wordRuns_append, first.wholeWords_append_other,
        List.filter_cons_of_neg (by simp [other]), ih]

theorem infix_of_mem_wordRuns {s run : Text} (mem : run ∈ wordRuns s) : run <:+: s := by
  have inside := List.infix_of_mem_flatten mem
  rwa [wordRuns, List.flatten_splitBy] at inside

/-- A word stands in a text as a run of word characters that is as long as possible. -/
def IsWholeWord (word s : Text) : Prop :=
  word ≠ [] ∧ (∀ c ∈ word, isWordChar c) ∧ ∃ before behind,
    s = before ++ (word ++ behind) ∧ isEdge before.getLast? ∧ isEdge behind.head?

theorem IsFirstRun.isEdge_append {isWord : Bool} {run rest before word behind : Text}
    (first : IsFirstRun isWord run rest) (split : rest = before ++ (word ++ behind))
    (filled : word ≠ []) (all : ∀ c ∈ word, isWordChar c) (starts : isEdge before.getLast?) :
    isEdge (run ++ before).getLast? := by
  by_cases next : before = []
  · obtain ⟨c, word, rfl⟩ := List.exists_cons_of_ne_nil filled
    have head : rest.head? = some c := by rw [split, next]; rfl
    rw [next, List.append_nil]
    exact first.isEdge_getLast? head (all c List.mem_cons_self)
  · rw [List.getLast?_append_of_ne_nil _ next]
    exact starts

theorem mem_wholeWords_iff {word s : Text} : word ∈ wholeWords s ↔ IsWholeWord word s := by
  constructor
  · intro mem
    obtain ⟨filled, plain⟩ := mem_fields mem
    have all : ∀ c ∈ word, isWordChar c := by simpa using plain
    refine ⟨filled, all, ?_⟩
    induction s using run_induction with
    | nil => exact absurd mem List.not_mem_nil
    | run isWord run rest first ih =>
      have later : word ∈ wholeWords rest → ∃ before behind,
          run ++ rest = before ++ (word ++ behind) ∧ isEdge before.getLast? ∧
            isEdge behind.head? := by
        intro mem
        obtain ⟨before, behind, split, starts, ends⟩ := ih mem
        exact ⟨run ++ before, behind, by rw [split, List.append_assoc],
          first.isEdge_append split filled all starts, ends⟩
      cases isWord with
      | true =>
        rw [first.wholeWords_append] at mem
        rcases List.mem_cons.mp mem with rfl | mem
        · exact ⟨[], rest, rfl, rfl, first.isEdge_head?⟩
        · exact later mem
      | false =>
        rw [first.wholeWords_append_other] at mem
        exact later mem
  · rintro ⟨filled, all, before, behind, split, starts, ends⟩
    induction s using run_induction generalizing before with
    | nil =>
      obtain ⟨-, none⟩ := List.append_eq_nil_iff.mp split.symm
      exact absurd (List.append_eq_nil_iff.mp none).1 filled
    | run isWord run rest first ih =>
      have behindRun : ∀ before', rest = before' ++ (word ++ behind) → isEdge before'.getLast? →
          word ∈ wholeWords (run ++ rest) := by
        intro before' split' starts'
        have mem := ih before' split' starts'
        cases isWord with
        | true => exact first.wholeWords_append ▸ List.mem_cons_of_mem run mem
        | false => exact first.wholeWords_append_other ▸ mem
      rcases List.append_eq_append_iff.mp split with ⟨more, rfl, later⟩ | ⟨part, whole, here⟩
      · refine behindRun more later ?_
        by_cases next : more = []
        · rw [next]
          rfl
        · rwa [List.getLast?_append_of_ne_nil _ next] at starts
      · by_cases next : part = []
        · rw [next, List.nil_append] at here
          exact behindRun [] here.symm rfl
        · rw [← Option.or_none (o := before.getLast?)] at starts
          obtain rfl := first.eq_of_word whole next here.symm filled all starts ends
          obtain ⟨c, word, rfl⟩ := List.exists_cons_of_ne_nil filled
          obtain rfl : isWord = true := by
            rw [← first.alike c List.mem_cons_self]
            exact all c List.mem_cons_self
          exact first.wholeWords_append ▸ List.mem_cons_self

instance (word s : Text) : Decidable (IsWholeWord word s) :=
  decidable_of_iff ((wholeWords s).contains word) (List.contains_iff_mem.trans mem_wholeWords_iff)

end SymbolDocs.Text
