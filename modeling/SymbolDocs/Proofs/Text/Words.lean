import SymbolDocs.Proofs.Text.Fields

namespace SymbolDocs.Text

/-- A word: some characters, none of them white space. -/
def IsWord (s : Text) : Prop := s ≠ [] ∧ ∀ c ∈ s, ¬ isBlankChar c

instance (s : Text) : Decidable (IsWord s) :=
  decidable_of_iff (s ≠ [] ∧ s.all fun c => !isBlankChar c) (by simp [IsWord])

theorem words_eq_fields (s : Text) : words s = fields isBlankChar s := rfl

theorem words_of_isWord {s : Text} (word : IsWord s) : words s = [s] :=
  fields_of_none word.1 word.2

/-- White space goes between words, wherever it stands. -/
theorem words_append_cons {c : Char} (blank : isBlankChar c) (s t : Text) :
    words (s ++ c :: t) = words s ++ words t := fields_append_cons blank s t

theorem words_append_space {s : Text} (word : IsWord s) (t : Text) :
    words (s ++ ' ' :: t) = s :: words t := by
  rw [words_append_cons (by decide), words_of_isWord word, List.singleton_append]

theorem words_append_of_isBlank (s : Text) {t : Text} (blank : isBlank t) :
    words (s ++ t) = words s := fields_append_all s (List.all_eq_true.mp blank)

theorem words_of_isBlank {s : Text} (blank : isBlank s) : words s = [] :=
  words_append_of_isBlank [] blank

theorem words_of_isBlank_append {blank : Text} (all : isBlank blank) (s : Text) :
    words (blank ++ s) = words s := fields_append_of_all (List.all_eq_true.mp all) s

theorem words_append_gap {gap : Text} (ne : gap ≠ []) (blank : isBlank gap) (s t : Text) :
    words (s ++ gap ++ t) = words s ++ words t :=
  fields_append_gap ne (List.all_eq_true.mp blank) s t

theorem words_trimStart (s : Text) : words (trimStart s) = words s := fields_dropWhile s

theorem words_trimEnd (s : Text) : words (trimEnd s) = words s := fields_dropEndWhile s

theorem words_trim (s : Text) : words (trim s) = words s := by
  rw [trim, words_trimEnd, words_trimStart]

theorem words_dropIndent (width : Nat) (s : Text) : words (dropIndent width s) = words s := by
  obtain ⟨blank, all, whole⟩ := exists_eq_append_dropIndent width s
  have cut := words_of_isBlank_append all (dropIndent width s)
  rw [← whole] at cut
  exact cut.symm

theorem isWord_of_mem_words {s w : Text} (mem : w ∈ words s) : IsWord w := mem_fields mem

theorem infix_of_mem_words {s w : Text} (mem : w ∈ words s) : w <:+: s := infix_of_mem_fields mem

/-- What has no white space in it stands within a word. -/
theorem exists_mem_words_infix {needle s : Text} (word : IsWord needle) (inside : needle <:+: s) :
    ∃ w ∈ words s, needle <:+: w := exists_mem_fields_infix word.1 word.2 inside

theorem exists_words_cons {c : Char} (visible : ¬ isBlankChar c) (s : Text) :
    ∃ w ws, words (c :: s) = (c :: w) :: ws := by
  obtain ⟨piece, more, split⟩ := exists_splitWhen_eq_cons isBlankChar s
  refine ⟨piece, more.filter (!·.isEmpty), ?_⟩
  rw [words, splitWhen_cons_of_neg visible split]
  rfl

theorem joinWith_append (sep : Text) {pieces more : List Text} (ne : pieces ≠ [])
    (ne' : more ≠ []) :
    joinWith sep (pieces ++ more) = joinWith sep pieces ++ sep ++ joinWith sep more := by
  induction pieces with
  | nil => exact absurd rfl ne
  | cons piece pieces ih =>
    by_cases last : pieces = []
    · rw [last, List.singleton_append, joinWith_cons sep piece ne', joinWith_singleton]
    · rw [List.cons_append, joinWith_cons sep piece last, joinWith_cons sep piece (by simp [last]),
        ih last]
      simp only [List.append_assoc]

theorem words_joinWith_eq_flatMap {sep : Text} (ne : sep ≠ []) (blank : isBlank sep)
    (pieces : List Text) : words (joinWith sep pieces) = pieces.flatMap words :=
  fields_joinWith ne (List.all_eq_true.mp blank) pieces

theorem words_joinWith {ws : List Text} (all : ∀ w ∈ ws, IsWord w) : words (joinWith " " ws) = ws := by
  rw [words_joinWith_eq_flatMap (by decide) (by decide)]
  induction ws with
  | nil => rfl
  | cons w ws ih =>
    rw [List.flatMap_cons, words_of_isWord (all w List.mem_cons_self),
      ih fun v mem => all v (List.mem_cons_of_mem w mem), List.singleton_append]

theorem not_isBlank_of_isWord {s : Text} (word : IsWord s) : ¬ isBlank s := by
  obtain ⟨c, t, rfl⟩ := List.exists_cons_of_ne_nil word.1
  have visible := word.2 c List.mem_cons_self
  simp [isBlank, visible]

theorem trim_of_isWord {s : Text} (word : IsWord s) : trimStart s = s ∧ trimEnd s = s := by
  constructor
  · obtain ⟨c, t, rfl⟩ := List.exists_cons_of_ne_nil word.1
    exact List.dropWhile_cons_of_neg (word.2 c List.mem_cons_self)
  · obtain ⟨lead, c, rfl⟩ : ∃ lead c, s = lead ++ [c] :=
      ⟨s.dropLast, s.getLast word.1, (List.dropLast_concat_getLast word.1).symm⟩
    exact trimEnd_concat lead (word.2 c (by simp))

theorem trim_eq_self_of_isWord {s : Text} (word : IsWord s) : trim s = s := by
  rw [trim, (trim_of_isWord word).1, (trim_of_isWord word).2]

theorem nonBlank?_of_isWord {s : Text} (word : IsWord s) : nonBlank? s = some s := by
  rw [nonBlank?, trim_eq_self_of_isWord word, if_neg (by simpa using word.1)]

/-- Texts that are trimmed and not blank stay so when they are joined. -/
theorem trim_joinWith_of_trimmed (sep : Text) {pieces : List Text}
    (trimmed : ∀ p ∈ pieces, ¬ isBlank p ∧ trimStart p = p ∧ trimEnd p = p) :
    trim (joinWith sep pieces) = joinWith sep pieces := by
  rcases List.eq_nil_or_concat pieces with rfl | ⟨lead, last, rfl⟩
  · rfl
  · have ends : trimEnd (joinWith sep (lead.concat last)) = joinWith sep (lead.concat last) := by
      obtain ⟨visible, -, trimmedEnd⟩ := trimmed last (by simp)
      rw [List.concat_eq_append, joinWith_concat, trimEnd_append _ visible, trimmedEnd]
    have starts : trimStart (joinWith sep (lead.concat last)) = joinWith sep (lead.concat last) := by
      obtain ⟨first, more, eq⟩ := List.exists_cons_of_ne_nil
        (show lead.concat last ≠ [] by simp)
      obtain ⟨visible, trimmedStart, -⟩ := trimmed first (by rw [eq]; exact List.mem_cons_self)
      rw [eq]
      by_cases alone : more = []
      · rw [alone, joinWith_singleton]
        exact trimmedStart
      · rw [joinWith_cons _ first alone, List.append_assoc, trimStart_append visible, trimmedStart]
    rw [trim, starts, ends]

theorem trim_joinWith {ws : List Text} (all : ∀ w ∈ ws, IsWord w) :
    trim (joinWith " " ws) = joinWith " " ws :=
  trim_joinWith_of_trimmed " " fun w mem =>
    ⟨not_isBlank_of_isWord (all w mem), trim_of_isWord (all w mem)⟩

theorem not_mem_joinWith_of_not_mem {sep : Text} {c : Char} (absent : c ∉ sep) {pieces : List Text}
    (all : ∀ p ∈ pieces, c ∉ p) : c ∉ joinWith sep pieces := by
  induction pieces with
  | nil => exact List.not_mem_nil
  | cons p pieces ih =>
    have here := all p List.mem_cons_self
    by_cases last : pieces = []
    · rw [last, joinWith_singleton]
      exact here
    · rw [joinWith_cons _ p last, List.mem_append, List.mem_append]
      rintro ((mem | mem) | mem)
      · exact here mem
      · exact absent mem
      · exact ih (fun q mem => all q (List.mem_cons_of_mem p mem)) mem

/-- No line break or other blank than the space stands between the words. -/
theorem not_mem_joinWith {ws : List Text} (all : ∀ w ∈ ws, IsWord w) {c : Char}
    (blank : isBlankChar c) (ne : c ≠ ' ') : c ∉ joinWith " " ws :=
  not_mem_joinWith_of_not_mem (fun mem => ne (List.mem_singleton.mp mem))
    fun w mem here => (all w mem).2 c here blank

theorem splitOn_append_sep {sep : Char} {s : Text} (absent : sep ∉ s) (t : Text) :
    splitOn sep (s ++ sep :: t) = s :: splitOn sep t := by
  have tail : splitWhen (· == sep) (sep :: t) = [] :: splitOn sep t := splitOn_cons_self sep t
  have split := splitWhen_append (p := (· == sep)) (s := s) (fun c mem => ?_) tail
  · rwa [List.append_nil] at split
  · rintro same
    exact absent (beq_iff_eq.mp same ▸ mem)

theorem splitOn_of_not_mem {sep : Char} {s : Text} (absent : sep ∉ s) : splitOn sep s = [s] := by
  have split := splitWhen_append (p := (· == sep)) (s := s) (t := []) (fun c mem => ?_) rfl
  · rwa [List.append_nil] at split
  · rintro same
    exact absent (beq_iff_eq.mp same ▸ mem)

theorem splitOn_flatMap {sep : Char} {pieces : List Text} {last : Text}
    (absent : ∀ s ∈ pieces, sep ∉ s) (absentLast : sep ∉ last) :
    splitOn sep (pieces.flatMap (· ++ [sep]) ++ last) = pieces ++ [last] := by
  induction pieces with
  | nil => exact splitOn_of_not_mem absentLast
  | cons s pieces ih =>
    rw [List.flatMap_cons, List.append_assoc, List.append_assoc, List.singleton_append,
      splitOn_append_sep (absent s List.mem_cons_self),
      ih fun t mem => absent t (List.mem_cons_of_mem s mem), List.cons_append]

theorem splitOn_joinWith {sep : Char} {pieces : List Text} (ne : pieces ≠ [])
    (whole : ∀ s ∈ pieces, sep ∉ s) : splitOn sep (joinWith [sep] pieces) = pieces := by
  rcases List.eq_nil_or_concat pieces with rfl | ⟨lead, last, rfl⟩
  · exact absurd rfl ne
  · rw [List.concat_eq_append] at whole ⊢
    rw [joinWith_concat,
      splitOn_flatMap (fun s mem => whole s (by simp [mem])) (whole last (by simp))]

theorem not_mem_flatMap_newline {ls : List Text} (plain : ∀ l ∈ ls, '\n' ∉ l ∧ '\r' ∉ l) :
    '\r' ∉ ls.flatMap (· ++ ['\n']) := by
  intro mem
  obtain ⟨l, mem, here⟩ := List.mem_flatMap.mp mem
  rcases List.mem_append.mp here with here | here
  · exact (plain l mem).2 here
  · exact absurd here (by decide)

/-- Lines that are written each with a line feed behind it are read back. -/
theorem lines_flatMap {ls : List Text} (plain : ∀ l ∈ ls, '\n' ∉ l ∧ '\r' ∉ l) :
    lines (ls.flatMap (· ++ ['\n'])) = ls := by
  have split := splitOn_flatMap (fun l mem => (plain l mem).1) (List.not_mem_nil (a := '\n'))
  rw [List.append_nil] at split
  rw [lines, unixLines_eq_self (not_mem_flatMap_newline plain), split]
  simp

/-- Lines of which none is empty are read back too when line feeds stand only between them. -/
theorem lines_joinWith {ls : List Text} (plain : ∀ l ∈ ls, '\n' ∉ l ∧ '\r' ∉ l)
    (ne : ∀ l ∈ ls, l ≠ []) : lines (joinWith "\n" ls) = ls := by
  rcases List.eq_nil_or_concat ls with rfl | ⟨lead, last, rfl⟩
  · rfl
  · rw [List.concat_eq_append] at plain ne ⊢
    have early : ∀ l ∈ lead, '\n' ∉ l ∧ '\r' ∉ l := fun l mem => plain l (by simp [mem])
    have final := plain last (by simp)
    have noReturn : '\r' ∉ lead.flatMap (· ++ ['\n']) ++ last := by
      rw [List.mem_append]
      exact not_or.mpr ⟨not_mem_flatMap_newline early, final.2⟩
    have join : joinWith "\n" (lead ++ [last]) = lead.flatMap (· ++ ['\n']) ++ last :=
      joinWith_concat _ lead last
    rw [join, lines, unixLines_eq_self noReturn,
      splitOn_flatMap (fun l mem => (early l mem).1) final.1]
    simp [ne last (by simp)]

end SymbolDocs.Text
