import Mathlib.Data.List.DropRight
import SymbolDocs.Proofs.Text.Words

namespace SymbolDocs.Text

/-- A line without the carriage return at its end. -/
def dropReturn : Text → Text
  | [] => []
  | ['\r'] => []
  | c :: s => c :: dropReturn s

theorem dropReturn_cons_cons (c d : Char) (s : Text) :
    dropReturn (c :: d :: s) = c :: dropReturn (d :: s) := by
  rw [dropReturn]
  simp

theorem dropReturn_singleton {c : Char} (ne : c ≠ '\r') : dropReturn [c] = [c] := by
  rw [dropReturn, dropReturn]
  simp [ne]

theorem eq_dropReturn_or (s : Text) : s = dropReturn s ∨ s = dropReturn s ++ ['\r'] := by
  induction s using dropReturn.induct with
  | case1 => exact .inl rfl
  | case2 => exact .inr rfl
  | case3 c s other ih =>
    rw [dropReturn.eq_3 c s other, List.cons_append, List.cons.injEq, List.cons.injEq]
    exact ih.imp (⟨rfl, ·⟩) (⟨rfl, ·⟩)

theorem prefix_dropReturn (s : Text) : dropReturn s <+: s := by
  rcases eq_dropReturn_or s with eq | eq
  · exact ⟨[], by rw [List.append_nil, ← eq]⟩
  · exact ⟨['\r'], eq.symm⟩

theorem unixLines_cons_cons {c d : Char} (ne : d ≠ '\n') (s : Text) :
    unixLines (c :: d :: s) = c :: unixLines (d :: s) := by
  rw [unixLines]
  intro rest _ newline
  exact ne (List.cons.inj newline).1

/-- Lines that are joined lose at most a carriage return each. -/
theorem unixLines_append_newline {line : Text} (whole : '\n' ∉ line) (rest : Text) :
    unixLines (line ++ '\n' :: rest) = dropReturn line ++ '\n' :: unixLines rest := by
  induction line with
  | nil => exact unixLines_cons_of_ne (by decide) rest
  | cons c line ih =>
    have tail := List.not_mem_of_not_mem_cons whole
    cases line with
    | nil =>
      by_cases ret : c = '\r'
      · rw [ret]
        exact unixLines.eq_1 rest
      · have next : unixLines ('\n' :: rest) = '\n' :: unixLines rest :=
          unixLines_cons_of_ne (by decide) rest
        rw [dropReturn_singleton ret, List.singleton_append, unixLines_cons_of_ne ret, next,
          List.singleton_append]
    | cons d line =>
      have ne : d ≠ '\n' := (List.ne_of_not_mem_cons tail).symm
      rw [List.cons_append, List.cons_append, unixLines_cons_cons ne, ← List.cons_append, ih tail,
        dropReturn_cons_cons, List.cons_append]

theorem unixLines_of_not_mem {line : Text} (whole : '\n' ∉ line) : unixLines line = line := by
  induction line with
  | nil => rfl
  | cons c line ih =>
    have tail := List.not_mem_of_not_mem_cons whole
    cases line with
    | nil => rw [unixLines, unixLines]; simp
    | cons d line =>
      rw [unixLines_cons_cons (List.ne_of_not_mem_cons tail).symm, ih tail]

theorem unixLines_flatMap {lead : List Text} {last : Text} (whole : ∀ l ∈ lead, '\n' ∉ l)
    (wholeLast : '\n' ∉ last) :
    unixLines (lead.flatMap (· ++ ['\n']) ++ last) =
      (lead.map dropReturn).flatMap (· ++ ['\n']) ++ last := by
  induction lead with
  | nil => exact unixLines_of_not_mem wholeLast
  | cons line lead ih =>
    have rest := ih fun l mem => whole l (List.mem_cons_of_mem line mem)
    rw [List.map_cons, List.flatMap_cons, List.flatMap_cons, List.append_assoc, List.append_assoc,
      List.append_assoc, List.append_assoc, List.singleton_append,
      unixLines_append_newline (whole line List.mem_cons_self), rest, List.singleton_append]

theorem not_mem_map_dropReturn {lead : List Text} (whole : ∀ l ∈ lead, '\n' ∉ l) :
    ∀ l ∈ lead.map dropReturn, '\n' ∉ l := by
  intro l mem
  obtain ⟨line, inside, rfl⟩ := List.mem_map.mp mem
  exact fun here => whole line inside ((prefix_dropReturn line).subset here)

/-- A line as it is read: tabs expanded, nothing blank at its end. -/
def plainLine (line : Text) : Text := trimEnd (expandTabs line)

theorem plainLine_dropReturn (line : Text) : plainLine (dropReturn line) = plainLine line := by
  rcases eq_dropReturn_or line with eq | eq
  · rw [← eq]
  · have ends : plainLine (dropReturn line ++ ['\r']) = plainLine (dropReturn line) := by
      rw [plainLine, expandTabs, List.flatMap_append]
      exact trimEnd_append_of_isBlank _ (by decide)
    rw [← eq] at ends
    exact ends.symm

theorem expandTabs_cons (c : Char) (line : Text) :
    expandTabs (c :: line) =
      (if c = '\t' then [' ', ' ', ' ', ' '] else [c]) ++ expandTabs line := List.flatMap_cons

theorem isBlank_expandTabs (line : Text) : isBlank (expandTabs line) = isBlank line := by
  induction line with
  | nil => rfl
  | cons c line ih =>
    rw [isBlank, isBlank] at ih
    rw [expandTabs_cons, isBlank, isBlank, List.all_append, List.all_cons, ih]
    by_cases tab : c = '\t'
    · rw [if_pos tab, tab]
      rfl
    · rw [if_neg tab, List.all_cons, List.all_nil, Bool.and_true]

theorem isBlank_trimEnd (s : Text) : isBlank (trimEnd s) = isBlank s := by
  obtain ⟨blank, all, eq⟩ := exists_eq_trimEnd_append s
  have whole := congrArg isBlank eq
  rw [isBlank] at all
  rw [isBlank, isBlank, List.all_append, all, Bool.and_true] at whole
  exact whole.symm

theorem isBlank_plainLine (line : Text) : isBlank (plainLine line) = isBlank line := by
  rw [plainLine, isBlank_trimEnd, isBlank_expandTabs]

theorem plainLine_of_isBlank {line : Text} (blank : isBlank line) : plainLine line = [] := by
  have all : isBlank (expandTabs line) := by rwa [isBlank_expandTabs]
  exact trimEnd_append_of_isBlank [] all

theorem expandTabs_eq_self {line : Text} (noTab : '\t' ∉ line) : expandTabs line = line := by
  induction line with
  | nil => rfl
  | cons c line ih =>
    have ne : c ≠ '\t' := (List.ne_of_not_mem_cons noTab).symm
    rw [expandTabs_cons, if_neg ne, ih (List.not_mem_of_not_mem_cons noTab), List.singleton_append]

theorem plainLine_eq_self {line : Text} (noTab : '\t' ∉ line) (ends : trimEnd line = line) :
    plainLine line = line := by
  rw [plainLine, expandTabs_eq_self noTab, ends]

theorem plainLines_joinWith {lead : List Text} {last : Text} (whole : ∀ l ∈ lead, '\n' ∉ l)
    (wholeLast : '\n' ∉ last) :
    plainLines (joinWith "\n" (lead ++ [last])) =
      lead.map plainLine ++ if last = [] then [] else [plainLine last] := by
  have join : joinWith "\n" (lead ++ [last]) = lead.flatMap (· ++ ['\n']) ++ last :=
    joinWith_concat _ lead last
  have once := not_mem_map_dropReturn whole
  have split := splitOn_flatMap (not_mem_map_dropReturn once) wholeLast
  have read : plainLines (joinWith "\n" (lead ++ [last])) =
      (lines (unixLines (joinWith "\n" (lead ++ [last])))).map plainLine := rfl
  rw [read, lines, join, unixLines_flatMap whole wholeLast, unixLines_flatMap once wholeLast, split]
  by_cases empty : last = []
  · simp [empty, plainLine_dropReturn]
  · simp [empty, plainLine_dropReturn]

theorem dropBlankEnds_append_of_isBlank (lines : List Text) {gap : List Text}
    (blank : ∀ l ∈ gap, isBlank l) : dropBlankEnds (lines ++ gap) = dropBlankEnds lines := by
  have reversed : ∀ l ∈ gap.reverse, isBlank l := fun l mem => blank l (List.mem_reverse.mp mem)
  by_cases empty : lines.dropWhile isBlank = []
  · have all : ∀ l ∈ lines ++ gap, isBlank l := by
      intro l mem
      rcases List.mem_append.mp mem with mem | mem
      · exact List.dropWhile_eq_nil_iff.mp empty l mem
      · exact blank l mem
    rw [dropBlankEnds, dropBlankEnds, List.dropWhile_eq_nil_iff.mpr all, empty]
  · have left : ¬ (lines.dropWhile isBlank).isEmpty := by rwa [List.isEmpty_iff]
    rw [dropBlankEnds, dropBlankEnds, List.dropWhile_append, if_neg left, List.reverse_append,
      List.dropWhile_append_of_pos reversed]

/-- Only blank lines are dropped. -/
theorem exists_eq_dropBlankEnds (lines : List Text) :
    ∃ lead ending, lines = lead ++ dropBlankEnds lines ++ ending ∧ (∀ l ∈ lead, isBlank l) ∧
      ∀ l ∈ ending, isBlank l := by
  obtain ⟨ending, blank, eq⟩ := exists_eq_dropEnd_append isBlank (lines.dropWhile isBlank)
  refine ⟨lines.takeWhile isBlank, ending, ?_, fun l mem => List.mem_takeWhile_imp mem, blank⟩
  rw [dropBlankEnds, List.append_assoc, ← eq, List.takeWhile_append_dropWhile]

theorem dropBlankEnds_eq_self {first last : Text} {lines : List Text} (visible : ¬ isBlank first)
    (ends : (first :: lines).getLast? = some last) (visibleLast : ¬ isBlank last) :
    dropBlankEnds (first :: lines) = first :: lines := by
  obtain ⟨init, eq⟩ := List.getLast?_eq_some_iff.mp ends
  rw [dropBlankEnds, List.dropWhile_cons_of_neg visible, eq, List.reverse_append,
    List.reverse_singleton, List.singleton_append, List.dropWhile_cons_of_neg visibleLast,
    List.reverse_cons, List.reverse_reverse]

theorem margin_append_of_isBlank (lines : List Text) {gap : List Text}
    (blank : ∀ l ∈ gap, isBlank l) : margin (lines ++ gap) = margin lines := by
  have none : gap.filter (!isBlank ·) = [] := by simpa using blank
  rw [margin, margin, List.filter_append, none, List.append_nil]

/-- The margin is where some line stands and no other one stands before. -/
theorem margin_eq {lines : List Text} {width : Nat}
    (some : ∃ l ∈ lines, ¬ isBlank l ∧ indentWidth l = width)
    (least : ∀ l ∈ lines, ¬ isBlank l → width ≤ indentWidth l) : margin lines = width := by
  have min : ((lines.filter (!isBlank ·)).map indentWidth).min? = .some width := by
    rw [List.min?_eq_some_iff]
    constructor
    · obtain ⟨l, mem, visible, width⟩ := some
      exact List.mem_map.mpr ⟨l, List.mem_filter.mpr ⟨mem, by simpa using visible⟩, width⟩
    · intro w mem
      obtain ⟨l, inside, rfl⟩ := List.mem_map.mp mem
      obtain ⟨mem, visible⟩ := List.mem_filter.mp inside
      exact least l mem (by simpa using visible)
  rw [margin, min, Option.getD_some]

/-- A line that starts so many spaces behind the margin. -/
def indented (width : Nat) (s : Text) : Text := List.replicate width ' ' ++ s

theorem isBlank_replicate_space (width : Nat) : isBlank (List.replicate width ' ') := by
  rw [isBlank, List.all_eq_true]
  intro c mem
  rw [List.eq_of_mem_replicate mem]
  rfl

theorem isBlank_indented (width : Nat) (s : Text) : isBlank (indented width s) = isBlank s := by
  have spaces := isBlank_replicate_space width
  rw [isBlank] at spaces
  rw [indented, isBlank, isBlank, List.all_append, spaces, Bool.true_and]

theorem trimStart_indented (width : Nat) (s : Text) :
    trimStart (indented width s) = trimStart s :=
  List.dropWhile_append_of_pos (List.all_eq_true.mp (isBlank_replicate_space width))

theorem trim_indented (width : Nat) (s : Text) : trim (indented width s) = trim s := by
  rw [trim, trim, trimStart_indented]

theorem trimEnd_indented (width : Nat) {s : Text} (visible : ¬ isBlank s) :
    trimEnd (indented width s) = indented width (trimEnd s) := trimEnd_append _ visible

theorem byteLength_replicate {c : Char} (single : c.utf8Size = 1) (width : Nat) :
    byteLength (List.replicate width c) = width := by
  induction width with
  | zero => rfl
  | succ width ih =>
    rw [byteLength] at ih
    rw [List.replicate_succ, byteLength, List.foldr_cons, ih, single, Nat.add_comm]

theorem indentWidth_indented (width : Nat) {s : Text} (visible : ¬ isBlank s)
    (starts : trimStart s = s) : indentWidth (indented width s) = width := by
  obtain ⟨c, rest, eq, seen⟩ := exists_trimStart_eq_cons visible
  have spaces := List.all_eq_true.mp (isBlank_replicate_space width)
  rw [indentWidth, indented, List.takeWhile_append_of_pos spaces, ← starts, eq,
    List.takeWhile_cons_of_neg seen, List.append_nil, byteLength_replicate rfl]

theorem trimEnd_of_trim {s : Text} (trimmed : trim s = s) : trimEnd s = s := by
  have twice : trimEnd (trim s) = trim s := trimEnd_trimEnd (trimStart s)
  rwa [trimmed] at twice

theorem trimStart_of_trim {s : Text} (trimmed : trim s = s) : trimStart s = s := by
  have lead : s <+: trimStart s := by
    have lead := prefix_trimEnd (trimStart s)
    rwa [← trim, trimmed] at lead
  have tail : trimStart s <:+ s := List.dropWhile_suffix isBlankChar
  exact (lead.eq_of_length_le tail.length_le).symm

theorem joinWith_splitOn (sep : Char) (s : Text) : joinWith [sep] (splitOn sep s) = s := by
  induction s with
  | nil => rfl
  | cons c s ih =>
    obtain ⟨piece, more, split⟩ := exists_splitOn_eq_cons sep s
    by_cases here : c = sep
    · rw [here, splitOn_cons_self, joinWith_cons _ _ (by simp [split]), ih]
      rfl
    · rw [split] at ih
      rw [splitOn_cons_of_ne here split]
      by_cases last : more = []
      · rw [last, joinWith_singleton] at ih ⊢
        rw [ih]
      · rw [joinWith_cons _ _ last] at ih ⊢
        rw [List.cons_append, List.cons_append, ih]

/-- The lines that are read are the pieces between the line feeds, but for an empty last one. -/
theorem map_plainLine_splitOn (s : Text) : ∃ ending, (∀ line ∈ ending, line = []) ∧
    (splitOn '\n' s).map plainLine = plainLines s ++ ending := by
  obtain ⟨first, more, split⟩ := exists_splitOn_eq_cons '\n' s
  obtain ⟨lead, last, eq⟩ : ∃ lead last, splitOn '\n' s = lead ++ [last] :=
    ⟨_, _, (List.dropLast_concat_getLast (by simp [split])).symm⟩
  have whole : ∀ l ∈ lead ++ [last], '\n' ∉ l := fun l mem here =>
    not_of_mem_splitWhen (eq ▸ mem : l ∈ splitOn '\n' s) '\n' here rfl
  have joined := joinWith_splitOn '\n' s
  rw [eq] at joined
  have read := @plainLines_joinWith lead last (fun l mem => whole l (by simp [mem]))
    (whole last (by simp))
  rw [show joinWith "\n" (lead ++ [last]) = s from joined] at read
  rw [eq, read, List.map_append, List.map_singleton]
  by_cases empty : last = []
  · exact ⟨[[]], by simp, by simp [empty, show plainLine [] = [] from rfl]⟩
  · exact ⟨[], nofun, by simp [empty]⟩

/-- A line without the bytes of a margin, or without its indentation where the margin ends within a
character. -/
def movedLine (width : Nat) (line : Text) : Text := (dropBytes? width line).getD (trimStart line)

theorem movedLine_zero (line : Text) : movedLine 0 line = line := by
  rw [movedLine, dropBytes?, Option.getD_some]

theorem movedLine_nil (width : Nat) : movedLine width [] = [] := by
  cases width <;> rfl

/-- The lines of a text are moved, with those that are blank at its end among them. -/
theorem tidyLines_eq {s first : Text} {more : List Text} (split : splitOn '\n' s = first :: more) :
    tidyLines s = dropBlankEnds (trimStart (plainLine first) ::
      (more.map plainLine).map (movedLine (margin (more.map plainLine)))) := by
  obtain ⟨ending, empty, read⟩ := map_plainLine_splitOn s
  have blank : ∀ line ∈ ending, isBlank line := by
    intro line mem
    rw [empty line mem]
    rfl
  rw [split, List.map_cons] at read
  cases known : plainLines s with
  | nil =>
    rw [known, List.nil_append] at read
    have nothing : ∀ line ∈ trimStart (plainLine first) ::
        (more.map plainLine).map (movedLine (margin (more.map plainLine))), isBlank line := by
      have here : plainLine first = [] := empty _ (by rw [← read]; exact List.mem_cons_self)
      intro line mem
      rcases List.mem_cons.mp mem with rfl | mem
      · rw [here]
        rfl
      · obtain ⟨old, inside, rfl⟩ := List.mem_map.mp mem
        have known : old ∈ ending := by
          rw [← read]
          exact List.mem_cons_of_mem _ inside
        rw [empty old known, movedLine_nil]
        rfl
    rw [tidyLines, known, ← List.nil_append (trimStart _ :: _),
      dropBlankEnds_append_of_isBlank [] nothing]
    rfl
  | cons p ps =>
    rw [known, List.cons_append] at read
    obtain ⟨rfl, rest⟩ := List.cons.inj read
    have moved : ∀ line ∈ ending.map (movedLine (margin ps)), isBlank line := by
      intro line mem
      obtain ⟨old, inside, rfl⟩ := List.mem_map.mp mem
      rw [empty old inside, movedLine_nil]
      rfl
    rw [tidyLines, known, rest, margin_append_of_isBlank ps blank, List.map_append,
      ← List.cons_append, dropBlankEnds_append_of_isBlank _ moved]
    rfl

/-- A text of whole lines, some of them at the margin, is read as these lines. -/
theorem tidyLines_joinWith {first : Text} {more : List Text} (whole : ∀ l ∈ first :: more, '\n' ∉ l)
    (atMargin : margin (more.map plainLine) = 0) :
    tidyLines (joinWith "\n" (first :: more)) =
      dropBlankEnds (trimStart (plainLine first) :: more.map plainLine) := by
  have kept : movedLine 0 = id := funext movedLine_zero
  have split : splitOn '\n' (joinWith "\n" (first :: more)) = first :: more :=
    splitOn_joinWith (List.cons_ne_nil first more) whole
  rw [tidyLines_eq split, atMargin, kept, List.map_id]

/-- Tabs become white space, so that the words stay apart. -/
theorem words_expandTabs (line : Text) : words (expandTabs line) = words line := by
  have behind : ∀ lead, words (lead ++ expandTabs line) = words (lead ++ line) := by
    induction line with
    | nil => exact fun lead => rfl
    | cons c line ih =>
      intro lead
      rw [expandTabs_cons]
      by_cases tab : c = '\t'
      · rw [if_pos tab, ← List.append_assoc, words_append_gap (by decide) (by decide), tab,
          words_append_cons (by decide)]
        exact congrArg _ (ih [])
      · have later := ih (lead ++ [c])
        rw [List.append_assoc, List.append_assoc] at later
        rw [if_neg tab]
        exact later
  exact behind []

theorem words_plainLine (line : Text) : words (plainLine line) = words line := by
  rw [plainLine, words_trimEnd, words_expandTabs]

/-- All words of a text stand on its lines, in the same order. -/
theorem words_eq_flatMap_plainLines (s : Text) : words s = (plainLines s).flatMap words := by
  obtain ⟨ending, empty, read⟩ := map_plainLine_splitOn s
  have none : ending.flatMap words = [] := by
    rw [List.flatMap_eq_nil_iff]
    intro line mem
    rw [empty line mem]
    rfl
  calc
    words s = words (joinWith "\n" (splitOn '\n' s)) := congrArg words (joinWith_splitOn '\n' s).symm
    _ = (splitOn '\n' s).flatMap words := words_joinWith_eq_flatMap (by decide) (by decide) _
    _ = ((splitOn '\n' s).map plainLine).flatMap words := by
      rw [List.flatMap_map]
      exact congrArg (fun f => List.flatMap f _) (funext fun line => (words_plainLine line).symm)
    _ = (plainLines s).flatMap words := by rw [read, List.flatMap_append, none, List.append_nil]

theorem trimStart_trimStart (s : Text) : trimStart (trimStart s) = trimStart s :=
  List.dropWhile_idempotent ..

theorem trim_trimStart (s : Text) : trim (trimStart s) = trim s := by
  rw [trim, trimStart_trimStart]
  rfl

theorem trim_append_of_isBlank {blank : Text} (all : isBlank blank) (s : Text) :
    trim (blank ++ s) = trim s := by
  rw [trim, trimStart, List.dropWhile_append_of_pos (List.all_eq_true.mp all)]
  rfl

/-- A visible line stays the same between its ends. -/
theorem trim_plainLine_append {gap s gap' : Text} (blank : isBlank gap) (blank' : isBlank gap')
    (noTab : '\t' ∉ s) (trimmed : trim s = s) (visible : ¬ isBlank s) :
    trim (plainLine (gap ++ (s ++ gap'))) = s := by
  have lead : isBlank (expandTabs gap) := by rwa [isBlank_expandTabs]
  have tail : isBlank (expandTabs gap') := by rwa [isBlank_expandTabs]
  have parts : expandTabs (gap ++ (s ++ gap')) = expandTabs gap ++ s ++ expandTabs gap' := by
    have same := expandTabs_eq_self noTab
    rw [expandTabs] at same ⊢
    rw [List.flatMap_append, List.flatMap_append, same, List.append_assoc]
    rfl
  rw [plainLine, parts, trimEnd_append_of_isBlank _ tail, trimEnd_append _ visible,
    trimEnd_of_trim trimmed, trim_append_of_isBlank lead, trimmed]

theorem margin_le {lines : List Text} {line : Text} (mem : line ∈ lines)
    (visible : ¬ isBlank line) : margin lines ≤ indentWidth line := by
  have inside : indentWidth line ∈ (lines.filter (!isBlank ·)).map indentWidth :=
    List.mem_map_of_mem (List.mem_filter.mpr ⟨mem, by simpa using visible⟩)
  rw [margin]
  cases min : ((lines.filter (!isBlank ·)).map indentWidth).min? with
  | none => exact Nat.zero_le _
  | some width => exact (List.min?_eq_some_iff.mp min).2 _ inside

/-- Up to its indentation, a line only loses white space when bytes are cut off. -/
theorem isBlank_of_byteLength_le {lead rest : Text}
    (le : byteLength lead ≤ indentWidth (lead ++ rest)) : isBlank lead := by
  induction lead with
  | nil => rfl
  | cons c lead ih =>
    have positive := c.utf8Size_pos
    rw [List.cons_append, byteLength_cons, indentWidth] at le
    by_cases blank : isBlankChar c
    · rw [List.takeWhile_cons_of_pos blank, byteLength_cons] at le
      have tail := ih (by rw [indentWidth]; omega)
      rw [isBlank] at tail
      rw [isBlank, List.all_cons, blank, tail]
      rfl
    · rw [List.takeWhile_cons_of_neg blank] at le
      have size : byteLength [] = 0 := rfl
      omega

theorem trim_moved {lines : List Text} {line : Text} (mem : line ∈ lines) :
    trim (movedLine (margin lines) line) = trim line := by
  rw [movedLine]
  cases cut : dropBytes? (margin lines) line with
  | none => rw [Option.getD_none, trim_trimStart]
  | some rest =>
    obtain ⟨lead, rfl, size⟩ := dropBytes?_eq_some_iff.mp cut
    rw [Option.getD_some]
    by_cases blank : isBlank (lead ++ rest)
    · have both := blank
      rw [isBlank, List.all_append, Bool.and_eq_true] at both
      rw [trim_eq_nil_iff.mpr blank, trim_eq_nil_iff.mpr both.2]
    · rw [trim_append_of_isBlank (isBlank_of_byteLength_le (size ▸ margin_le mem blank))]

/-- Tidying moves the lines and drops blank ones at both ends. -/
theorem exists_tidyLines_eq (s : Text) :
    ∃ moved, tidyLines s = dropBlankEnds moved ∧ moved.map trim = (plainLines s).map trim := by
  rw [tidyLines]
  cases plainLines s with
  | nil => exact ⟨[], rfl, rfl⟩
  | cons first more =>
    refine ⟨_, rfl, ?_⟩
    rw [List.map_cons, List.map_cons, List.map_map, trim_trimStart]
    exact congrArg _ (List.map_congr_left fun line mem => trim_moved mem)

theorem dropWhile_append_of_neg {α : Type} {p : α → Bool} {x : α} (stops : ¬ p x) (xs ys : List α) :
    (xs ++ x :: ys).dropWhile p = xs.dropWhile p ++ x :: ys := by
  rw [List.dropWhile_append, List.dropWhile_cons_of_neg stops]
  split
  · next empty => rw [List.isEmpty_iff.mp empty, List.nil_append]
  · rfl

/-- Lines of which none is blank are left together. -/
theorem infix_dropBlankEnds {lines part : List Text} (inside : part <:+: lines)
    (visible : ∀ line ∈ part, ¬ isBlank line) : part <:+: dropBlankEnds lines := by
  rcases List.eq_nil_or_concat part with rfl | ⟨init, last, rfl⟩
  · exact List.nil_infix
  · obtain ⟨lead, rest, rfl⟩ := inside
    obtain ⟨first, more, eq⟩ := List.exists_cons_of_ne_nil
      (show init.concat last ≠ [] by simp)
    have seen := visible first (by rw [eq]; exact List.mem_cons_self)
    have ends := visible last (by simp)
    refine ⟨lead.dropWhile isBlank, (rest.reverse.dropWhile isBlank).reverse, ?_⟩
    have front : (lead ++ init.concat last ++ rest).dropWhile isBlank =
        lead.dropWhile isBlank ++ init.concat last ++ rest := by
      rw [eq, List.append_assoc, List.append_assoc]
      exact dropWhile_append_of_neg seen _ _
    have back := dropWhile_append_of_neg ends rest.reverse
      (lead.dropWhile isBlank ++ init).reverse
    have whole : (lead.dropWhile isBlank ++ init.concat last ++ rest).reverse =
        rest.reverse ++ last :: (lead.dropWhile isBlank ++ init).reverse := by simp
    rw [dropBlankEnds, front, whole, back]
    simp

/-- Visible lines of a text stay together, each the same between its ends. -/
theorem infix_map_trim_tidyLines {s last : Text} {init : List Text}
    (inside : init ++ [last] <:+: (splitOn '\n' s).map fun line => trim (plainLine line))
    (visible : ∀ line ∈ init ++ [last], line ≠ []) :
    init ++ [last] <:+: (tidyLines s).map trim := by
  obtain ⟨ending, empty, read⟩ := map_plainLine_splitOn s
  obtain ⟨moved, tidied, same⟩ := exists_tidyLines_eq s
  have parts : (splitOn '\n' s).map (fun line => trim (plainLine line)) =
      moved.map trim ++ ending.map trim := by
    rw [same, ← List.map_append, ← read, List.map_map]
    rfl
  have avoids : last ∉ ending.map trim := by
    intro mem
    obtain ⟨line, known, eq⟩ := List.mem_map.mp mem
    rw [empty line known] at eq
    exact visible last (by simp) eq.symm
  obtain ⟨lead, rest, whole⟩ := infix_of_infix_append avoids (parts ▸ inside)
  obtain ⟨early, after, rfl, front, _⟩ := List.map_eq_append_iff.mp whole.symm
  obtain ⟨before, part, rfl, _, eq⟩ := List.map_eq_append_iff.mp front
  have seen : ∀ line ∈ part, ¬ isBlank line := by
    intro line mem blank
    have known : trim line ∈ init ++ [last] := eq ▸ List.mem_map_of_mem mem
    exact visible _ known (trim_eq_nil_iff.mpr blank)
  rw [tidied, ← eq]
  exact (infix_dropBlankEnds ⟨before, after, rfl⟩ seen).map trim

end SymbolDocs.Text
