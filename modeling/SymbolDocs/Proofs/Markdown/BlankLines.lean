import Mathlib.Data.List.Chain
import SymbolDocs.Proofs.Markdown.Finish
import SymbolDocs.Proofs.Text.Margin

namespace SymbolDocs.Markdown

open Text

/-- Whether a line is empty and another empty one comes next, though not as the last one. -/
def isDoubled (line : Text) : List Text → Bool
  | [] :: _ :: _ => line.isEmpty
  | _ => false

/-- The lines without those that are doubled. -/
def squeezed : List Text → List Text
  | [] => []
  | line :: more => if isDoubled line more then squeezed more else line :: squeezed more

theorem isDoubled_iff {line : Text} {more : List Text} :
    isDoubled line more ↔ line = [] ∧ ∃ next rest, more = [] :: next :: rest := by
  rcases more with _ | ⟨_ | ⟨c, l⟩, _ | ⟨next, rest⟩⟩ <;> simp [isDoubled]

theorem squeezed_of_not_isDoubled {line : Text} {more : List Text}
    (alone : ¬ isDoubled line more) : squeezed (line :: more) = line :: squeezed more := by
  rw [squeezed, if_neg alone]

theorem squeezed_cons_of_ne_nil {line : Text} (ne : line ≠ []) (more : List Text) :
    squeezed (line :: more) = line :: squeezed more :=
  squeezed_of_not_isDoubled fun doubled => ne (isDoubled_iff.mp doubled).1

theorem sublist_squeezed (lines : List Text) : (squeezed lines).Sublist lines := by
  induction lines with
  | nil => exact .slnil
  | cons line more ih =>
    rw [squeezed]
    split
    · exact ih.cons line
    · exact ih.cons_cons line

/-- A line that is not empty keeps the empty ones before and behind it apart. -/
theorem squeezed_append_cons {line : Text} (ne : line ≠ []) (front behind : List Text) :
    squeezed (front ++ line :: behind) = squeezed (front ++ [line]) ++ squeezed behind := by
  induction front with
  | nil =>
    rw [List.nil_append, List.nil_append, squeezed_cons_of_ne_nil ne, squeezed_cons_of_ne_nil ne]
    rfl
  | cons first front ih =>
    have same : isDoubled first (front ++ line :: behind) = isDoubled first (front ++ [line]) := by
      rcases front with _ | ⟨_ | ⟨c, l⟩, _ | ⟨next, rest⟩⟩
      · rcases line with _ | ⟨c, l⟩
        · exact absurd rfl ne
        · rfl
      all_goals rfl
    rw [List.cons_append, List.cons_append, squeezed, squeezed, same, ih]
    split <;> rfl

/-- The pieces of a text lose those that are doubled, apart from the first one. -/
theorem splitOn_collapseBlankLines {s first : Text} {more : List Text}
    (split : splitOn '\n' s = first :: more) :
    splitOn '\n' (collapseBlankLines s) = first :: squeezed more := by
  induction s generalizing first more with
  | nil =>
    obtain ⟨rfl, rfl⟩ := List.cons.inj split
    rfl
  | cons c s ih =>
    obtain ⟨piece, rest, tail⟩ := exists_splitOn_eq_cons '\n' s
    by_cases feed : c = '\n'
    · rw [feed, splitOn_cons_self, tail] at split
      obtain ⟨rfl, rfl⟩ := List.cons.inj split
      rw [collapseBlankLines]
      by_cases twice : startsWith s "\n\n"
      · obtain ⟨s', eq⟩ := startsWith_iff_prefix.mp twice
        obtain ⟨next, others, split'⟩ := exists_splitOn_eq_cons '\n' s'
        have parts : piece :: rest = [] :: [] :: next :: others := by
          rw [← tail, ← eq, ← split', ← splitOn_cons_self, ← splitOn_cons_self]
          rfl
        obtain ⟨rfl, rfl⟩ := List.cons.inj parts
        rw [if_pos ⟨feed, twice⟩, ih tail]
        rfl
      · have alone : ¬ isDoubled piece rest := by
          intro doubled
          obtain ⟨rfl, next, others, rfl⟩ := isDoubled_iff.mp doubled
          have whole := joinWith_splitOn '\n' s
          rw [tail, joinWith_cons _ _ (by simp), joinWith_cons _ _ (by simp)] at whole
          exact twice <| startsWith_iff_prefix.mpr ⟨joinWith ['\n'] (next :: others), whole⟩
        rw [if_neg fun h => twice h.2, feed, splitOn_cons_self, ih tail,
          squeezed_of_not_isDoubled alone]
    · rw [splitOn_cons_of_ne feed tail] at split
      obtain ⟨rfl, rfl⟩ := List.cons.inj split
      rw [collapseBlankLines, if_neg fun h => feed h.1]
      exact splitOn_cons_of_ne feed (ih tail)

theorem dropWhile_squeezed (lines : List Text) :
    (squeezed lines).dropWhile isBlank = squeezed (lines.dropWhile isBlank) := by
  induction lines with
  | nil => rfl
  | cons line more ih =>
    by_cases blank : isBlank line
    · rw [List.dropWhile_cons_of_pos blank, squeezed]
      split
      · exact ih
      · rw [List.dropWhile_cons_of_pos blank, ih]
    · have ne : line ≠ [] := by
        rintro rfl
        exact blank rfl
      rw [List.dropWhile_cons_of_neg blank, squeezed_cons_of_ne_nil ne,
        List.dropWhile_cons_of_neg blank]

theorem ne_nil_of_not_isBlank {line : Text} (visible : ¬ isBlank line) : line ≠ [] := by
  rintro rfl
  exact visible rfl

/-- Lines that begin and end with one that is not blank. -/
def IsFramed (lines : List Text) : Prop :=
  (∀ line, lines.head? = some line → ¬ isBlank line) ∧
    ∀ line, lines.getLast? = some line → ¬ isBlank line

theorem dropBlankEnds_of_isFramed {lines : List Text} (framed : IsFramed lines) :
    dropBlankEnds lines = lines :=
  dropBlankEnds_of_ends fun line outer => outer.elim (framed.1 line) (framed.2 line)

theorem isFramed_dropBlankEnds (lines : List Text) : IsFramed (dropBlankEnds lines) :=
  ⟨fun _ first => not_isBlank_of_end (.inl first), fun _ last => not_isBlank_of_end (.inr last)⟩

theorem head?_squeezed (line : Text) (more : List Text) :
    (squeezed (line :: more)).head? = some line := by
  induction more generalizing line with
  | nil => rfl
  | cons next more ih =>
    rw [squeezed]
    split
    · next doubled =>
      obtain ⟨rfl, _, _, eq⟩ := isDoubled_iff.mp doubled
      rw [ih, (List.cons.inj eq).1]
    · rfl

theorem IsFramed.map_trimEnd {lines : List Text} (framed : IsFramed lines) :
    IsFramed (lines.map trimEnd) := by
  constructor
  · intro line first
    rw [List.head?_map, Option.map_eq_some_iff] at first
    obtain ⟨old, first, rfl⟩ := first
    rw [isBlank_trimEnd]
    exact framed.1 old first
  · intro line last
    rw [List.getLast?_map, Option.map_eq_some_iff] at last
    obtain ⟨old, last, rfl⟩ := last
    rw [isBlank_trimEnd]
    exact framed.2 old last

theorem getLast?_squeezed (lines : List Text) : (squeezed lines).getLast? = lines.getLast? := by
  induction lines with
  | nil => rfl
  | cons line more ih =>
    rw [squeezed]
    split
    · next doubled =>
      obtain ⟨-, next, rest, eq⟩ := isDoubled_iff.mp doubled
      rw [ih, eq]
      exact List.getLast?_cons_cons.symm
    · rw [List.getLast?_cons, List.getLast?_cons, ih]

theorem IsFramed.squeezed {lines : List Text} (framed : IsFramed lines) :
    IsFramed (squeezed lines) := by
  cases lines with
  | nil => exact framed
  | cons first more =>
    refine ⟨fun line head => ?_, fun line last => ?_⟩
    · rw [head?_squeezed] at head
      exact framed.1 line head
    · rw [getLast?_squeezed] at last
      exact framed.2 line last

theorem dropBlankEnds_dropWhile (lines : List Text) :
    dropBlankEnds (lines.dropWhile isBlank) = dropBlankEnds lines := by
  rw [dropBlankEnds, List.dropWhile_idempotent, dropBlankEnds]

/-- Doubled lines are found in the same places between the visible ones. -/
theorem dropBlankEnds_squeezed (lines : List Text) :
    dropBlankEnds (squeezed lines) = squeezed (dropBlankEnds lines) := by
  rw [← dropBlankEnds_dropWhile, dropWhile_squeezed]
  obtain ⟨ending, blank, eq⟩ := exists_eq_dropEnd_append isBlank (lines.dropWhile isBlank)
  have framed := isFramed_dropBlankEnds lines
  change lines.dropWhile isBlank = dropBlankEnds lines ++ ending at eq
  have left : ∀ line ∈ squeezed ending, isBlank line := fun line mem =>
    blank line ((sublist_squeezed ending).subset mem)
  rcases List.eq_nil_or_concat (dropBlankEnds lines) with none | ⟨init, last, whole⟩
  · rw [eq, none, List.nil_append, ← List.nil_append (squeezed ending),
      dropBlankEnds_append_of_isBlank [] left]
    rfl
  · rw [List.concat_eq_append] at whole
    have ne := ne_nil_of_not_isBlank (framed.2 last (by rw [whole, List.getLast?_concat]))
    rw [eq, whole, List.append_assoc, List.singleton_append, squeezed_append_cons ne,
      dropBlankEnds_append_of_isBlank _ left, ← whole, dropBlankEnds_of_isFramed framed.squeezed]

theorem dropBlankEnds_cons_squeezed (first : Text) (more : List Text) :
    dropBlankEnds (first :: squeezed more) = squeezed (dropBlankEnds (first :: more)) := by
  rw [← dropBlankEnds_squeezed, squeezed]
  split
  · next doubled =>
    rw [(isDoubled_iff.mp doubled).1, ← dropBlankEnds_dropWhile,
      List.dropWhile_cons_of_pos (by rfl), dropBlankEnds_dropWhile]
  · rfl

/-- The visible lines of a text, with what is between them, lose the doubled lines. -/
theorem dropBlankEnds_collapseBlankLines (s : Text) :
    dropBlankEnds (splitOn '\n' (collapseBlankLines s)) =
      squeezed (dropBlankEnds (splitOn '\n' s)) := by
  obtain ⟨first, more, split⟩ := exists_splitOn_eq_cons '\n' s
  rw [splitOn_collapseBlankLines split, split, dropBlankEnds_cons_squeezed]

/-- Of two lines that stand together at most one is blank. -/
def IsApart (line next : Text) : Prop := isBlank line → ¬ isBlank next

instance : DecidableRel IsApart := fun line next =>
  inferInstanceAs (Decidable (isBlank line → ¬ isBlank next))

/-- Two lines that stand together are blank only if both are empty. -/
def IsEven (line next : Text) : Prop := isBlank line → isBlank next → line = [] ∧ next = []

/-- When the doubled lines are gone, blank lines that stood together are apart exactly if all of
them were empty. -/
theorem isChain_squeezed_iff {lines : List Text}
    (ends : ∀ line, lines.getLast? = some line → ¬ isBlank line) :
    (squeezed lines).IsChain IsApart ↔ lines.IsChain IsEven := by
  induction lines with
  | nil => exact iff_of_true .nil .nil
  | cons line more ih =>
    cases more with
    | nil => exact iff_of_true (.singleton line) (.singleton line)
    | cons next rest =>
      have tail := ih fun l last => ends l (by rw [List.getLast?_cons_cons, last])
      rw [List.isChain_cons_cons, squeezed]
      split
      · next doubled =>
        obtain ⟨rfl, _, _, eq⟩ := isDoubled_iff.mp doubled
        obtain ⟨rfl, -⟩ := List.cons.inj eq
        rw [tail, and_iff_right]
        exact fun _ _ => ⟨rfl, rfl⟩
      · next alone =>
        obtain ⟨others, kept⟩ := List.head?_eq_some_iff.mp (head?_squeezed next rest)
        rw [kept] at tail ⊢
        rw [List.isChain_cons_cons, tail, and_congr_left_iff]
        refine fun _ => ⟨fun apart blank blank' => absurd blank' (apart blank), ?_⟩
        intro even blank blank'
        obtain ⟨rfl, rfl⟩ := even blank blank'
        cases rest with
        | nil => exact ends [] rfl rfl
        | cons last rest => exact alone (isDoubled_iff.mpr ⟨rfl, last, rest, rfl⟩)

def trimFirst : List Text → List Text
  | [] => []
  | first :: more => trimStart first :: more

theorem trimStart_joinWith {first : Text} (visible : ¬ isBlank first) (more : List Text) :
    trimStart (joinWith "\n" (first :: more)) = joinWith "\n" (trimStart first :: more) := by
  by_cases alone : more = []
  · rw [alone, joinWith_singleton, joinWith_singleton]
  · rw [joinWith_cons _ first alone, joinWith_cons _ _ alone, List.append_assoc,
      trimStart_append visible, List.append_assoc]

/-- Lines that are joined and trimmed are found again, the first one trimmed. -/
theorem splitOn_trim_joinWith {ls : List Text} (ne : ls ≠ []) (framed : IsFramed ls)
    (ends : ∀ line ∈ ls, trimEnd line = line) (whole : ∀ line ∈ ls, '\n' ∉ line) :
    splitOn '\n' (trim (joinWith "\n" ls)) = trimFirst ls := by
  obtain ⟨first, more, rfl⟩ := List.exists_cons_of_ne_nil ne
  have tail : trimStart first <:+ first := List.dropWhile_suffix isBlankChar
  have whole' : ∀ line ∈ trimStart first :: more, '\n' ∉ line := by
    intro line mem
    rcases List.mem_cons.mp mem with rfl | mem
    · exact fun here => whole first List.mem_cons_self (tail.subset here)
    · exact whole line (List.mem_cons_of_mem first mem)
  obtain ⟨init, last, eq⟩ : ∃ init last, trimStart first :: more = init ++ [last] :=
    ⟨_, _, (List.dropLast_concat_getLast (List.cons_ne_nil _ _)).symm⟩
  obtain ⟨visible, trimmed⟩ : ¬ isBlank last ∧ trimEnd last = last := by
    cases more with
    | nil =>
      have single : [] ++ [trimStart first] = init ++ [last] := eq
      obtain ⟨-, same⟩ := List.append_inj' single rfl
      rw [← List.singleton_inj.mp same, isBlank_trimStart]
      exact ⟨framed.1 first rfl, trimEnd_eq_self_of_suffix (ends first List.mem_cons_self) tail⟩
    | cons next more =>
      have final := congrArg List.getLast? eq
      rw [List.getLast?_cons_cons, List.getLast?_concat] at final
      exact ⟨framed.2 last final, ends last (List.mem_cons_of_mem _ (List.mem_of_getLast? final))⟩
  have joined : trim (joinWith "\n" (first :: more)) =
      init.flatMap (· ++ ['\n']) ++ last := by
    rw [trim, trimStart_joinWith (framed.1 first rfl), eq, joinWith_concat,
      trimEnd_append _ visible, trimmed]
    rfl
  rw [eq] at whole'
  rw [joined, splitOn_flatMap (fun l inside => whole' l (List.mem_append_left _ inside))
    (whole' last (by simp)), trimFirst, eq]

theorem map_trimEnd_of_isBlank {ls : List Text} (all : ∀ line ∈ ls, isBlank line) :
    ∀ line ∈ ls.map trimEnd, isBlank line := by
  intro line mem
  obtain ⟨old, inside, rfl⟩ := List.mem_map.mp mem
  rw [isBlank_trimEnd]
  exact all old inside

theorem dropBlankEnds_splitOn_eq_nil_iff {s : Text} :
    dropBlankEnds (splitOn '\n' s) = [] ↔ isBlank s := by
  constructor
  · intro none
    obtain ⟨lead, ending, parts, blank, blankEnd⟩ := exists_eq_dropBlankEnds (splitOn '\n' s)
    rw [none, List.append_nil] at parts
    have all : ∀ line ∈ splitOn '\n' s, isBlank line := by
      intro line mem
      rw [parts, List.mem_append] at mem
      exact mem.elim (blank line) (blankEnd line)
    have joined := @isBlank_joinWith ['\n'] (by decide) _ all
    rwa [joinWith_splitOn] at joined
  · intro blank
    refine dropBlankEnds_append_of_isBlank [] fun line mem => ?_
    refine List.all_eq_true.mpr fun c here => ?_
    exact List.all_eq_true.mp blank c ((infix_of_mem_splitWhen mem).subset here)

/-- The lines of a finished text: those from the first visible one to the last, trimmed, with the
doubled ones gone. -/
theorem splitOn_finished {s : Text} (visible : ¬ isBlank s) : splitOn '\n' (finished s) =
    trimFirst ((squeezed (dropBlankEnds (splitOn '\n' s))).map trimEnd) := by
  have ne : dropBlankEnds (splitOn '\n' (collapseBlankLines s)) ≠ [] := by
    rw [Ne, dropBlankEnds_splitOn_eq_nil_iff, isBlank_iff_words, words_collapseBlankLines,
      ← isBlank_iff_words]
    exact visible
  rw [← dropBlankEnds_collapseBlankLines, finished_eq]
  generalize split : splitOn '\n' (collapseBlankLines s) = pieces at ne
  have whole : ∀ line ∈ pieces, '\n' ∉ line := fun line mem here =>
    not_of_mem_splitWhen (split ▸ mem : line ∈ splitOn '\n' _) '\n' here rfl
  obtain ⟨lead, ending, parts, blank, blankEnd⟩ := exists_eq_dropBlankEnds pieces
  have framed := isFramed_dropBlankEnds pieces
  generalize dropBlankEnds pieces = shown at parts framed ne
  have wholeShown : ∀ line ∈ shown.map trimEnd, '\n' ∉ line := by
    intro line mem here
    obtain ⟨old, inside, rfl⟩ := List.mem_map.mp mem
    exact whole old (by rw [parts]; simp [inside]) ((prefix_trimEnd old).subset here)
  have ne' : shown.map trimEnd ≠ [] := by simpa using ne
  rw [parts, List.map_append, List.map_append, trim_joinWith_blankEnds (by decide) ne'
    (map_trimEnd_of_isBlank blank) (map_trimEnd_of_isBlank blankEnd)]
  refine splitOn_trim_joinWith ne' framed.map_trimEnd (fun line mem => ?_) wholeShown
  obtain ⟨old, -, rfl⟩ := List.mem_map.mp mem
  exact trimEnd_trimEnd old

theorem trimEnd_of_mem_splitOn_finished {s line : Text} (mem : line ∈ splitOn '\n' (finished s)) :
    trimEnd line = line := by
  by_cases blank : isBlank s
  · rw [finished_eq_nil_iff.mpr blank] at mem
    rw [List.mem_singleton.mp mem]
    rfl
  · rw [splitOn_finished blank] at mem
    generalize squeezed (dropBlankEnds (splitOn '\n' s)) = shown at mem
    cases shown with
    | nil => exact absurd mem List.not_mem_nil
    | cons first more =>
      rw [List.map_cons, trimFirst] at mem
      rcases List.mem_cons.mp mem with rfl | mem
      · exact trimEnd_eq_self_of_suffix (trimEnd_trimEnd first) (List.dropWhile_suffix isBlankChar)
      · obtain ⟨old, -, rfl⟩ := List.mem_map.mp mem
        exact trimEnd_trimEnd old

theorem map_isBlank_trimFirst (ls : List Text) :
    (trimFirst (ls.map trimEnd)).map isBlank = ls.map isBlank := by
  cases ls with
  | nil => rfl
  | cons first more =>
    rw [List.map_cons, trimFirst, List.map_cons, isBlank_trimStart, isBlank_trimEnd, List.map_map,
      List.map_cons]
    exact congrArg (isBlank first :: ·) (List.map_congr_left fun line _ => isBlank_trimEnd line)

theorem isChain_isApart_iff (ls : List Text) : ls.IsChain IsApart ↔
    (ls.map isBlank).IsChain (fun b b' : Bool => b → ¬ b') := by
  rw [List.isChain_map]
  rfl

/-- No two blank lines of a finished text come in a row exactly if, between the visible lines that
were written, blank lines that came in a row were all empty. -/
theorem isChain_splitOn_finished_iff (s : Text) :
    (splitOn '\n' (finished s)).IsChain IsApart ↔
      (dropBlankEnds (splitOn '\n' s)).IsChain IsEven := by
  by_cases blank : isBlank s
  · rw [finished_eq_nil_iff.mpr blank, dropBlankEnds_splitOn_eq_nil_iff.mpr blank]
    exact iff_of_true (.singleton []) .nil
  · rw [splitOn_finished blank, isChain_isApart_iff, map_isBlank_trimFirst, ← isChain_isApart_iff]
    exact isChain_squeezed_iff (isFramed_dropBlankEnds _).2

end SymbolDocs.Markdown
