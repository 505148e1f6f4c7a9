import SymbolDocs.Proofs.Text.Cut
import SymbolDocs.Text.Layout

namespace SymbolDocs.Text

theorem splitWhen_cons_of_pos {p : Char → Bool} {c : Char} (h : p c) (s : Text) :
    splitWhen p (c :: s) = [] :: splitWhen p s := by
  simp [splitWhen, h]

theorem splitWhen_cons_of_neg {p : Char → Bool} {c : Char} {s piece : Text} {more : List Text}
    (h : ¬ p c) (rest : splitWhen p s = piece :: more) :
    splitWhen p (c :: s) = (c :: piece) :: more := by
  simp only [splitWhen, List.foldr_cons] at rest ⊢
  rw [rest, if_neg h]

theorem splitOn_cons_self (sep : Char) (s : Text) :
    splitOn sep (sep :: s) = [] :: splitOn sep s :=
  splitWhen_cons_of_pos (p := (· == sep)) (beq_self_eq_true sep) s

theorem splitOn_cons_of_ne {sep c : Char} {s piece : Text} {more : List Text} (ne : c ≠ sep)
    (rest : splitOn sep s = piece :: more) : splitOn sep (c :: s) = (c :: piece) :: more :=
  splitWhen_cons_of_neg (by simpa using ne) rest

theorem exists_splitWhen_eq_cons (p : Char → Bool) (s : Text) :
    ∃ piece more, splitWhen p s = piece :: more := by
  induction s with
  | nil => exact ⟨[], [], rfl⟩
  | cons c s ih =>
    by_cases here : p c
    · exact ⟨[], splitWhen p s, splitWhen_cons_of_pos here s⟩
    · obtain ⟨piece, more, rest⟩ := ih
      exact ⟨c :: piece, more, splitWhen_cons_of_neg here rest⟩

theorem exists_splitOn_eq_cons (sep : Char) (s : Text) :
    ∃ piece more, splitOn sep s = piece :: more := exists_splitWhen_eq_cons (· == sep) s

theorem not_mem_of_mem_splitOn {sep c : Char} {s line : Text} (absent : c ∉ s)
    (mem : line ∈ splitOn sep s) : c ∉ line := by
  induction s generalizing line with
  | nil =>
    rw [show splitOn sep [] = [[]] from rfl, List.mem_singleton] at mem
    rw [mem]
    exact List.not_mem_nil
  | cons d s ih =>
    have head : c ≠ d := List.ne_of_not_mem_cons absent
    have tail : c ∉ s := List.not_mem_of_not_mem_cons absent
    by_cases eq : d = sep
    · rw [eq, splitOn_cons_self, List.mem_cons] at mem
      rcases mem with rfl | mem
      · exact List.not_mem_nil
      · exact ih tail mem
    · obtain ⟨piece, more, rest⟩ := exists_splitOn_eq_cons sep s
      rw [splitOn_cons_of_ne eq rest, List.mem_cons] at mem
      rcases mem with rfl | mem
      · have first : c ∉ piece := ih tail (by rw [rest]; exact List.mem_cons_self)
        exact List.not_mem_cons_of_ne_of_not_mem head first
      · exact ih tail (by rw [rest]; exact List.mem_cons_of_mem piece mem)

theorem joinWith_singleton (sep piece : Text) : joinWith sep [piece] = piece :=
  List.intercalate_singleton

theorem joinWith_cons (sep : Text) (piece : Text) {pieces : List Text} (ne : pieces ≠ []) :
    joinWith sep (piece :: pieces) = piece ++ sep ++ joinWith sep pieces := by
  obtain ⟨next, more, rfl⟩ := List.exists_cons_of_ne_nil ne
  exact List.intercalate_cons_cons

theorem joinWith_concat (sep : Text) (pieces : List Text) (last : Text) :
    joinWith sep (pieces ++ [last]) = pieces.flatMap (· ++ sep) ++ last := by
  induction pieces with
  | nil => exact joinWith_singleton sep last
  | cons piece pieces ih =>
    rw [List.cons_append, joinWith_cons sep piece (by simp), ih, List.flatMap_cons]
    simp only [List.append_assoc]

theorem not_infix_joined {needle last : Text} {sep : Char} {pieces : List Text}
    (avoids : sep ∉ needle) (none : ∀ piece ∈ pieces, ¬ needle <:+: piece)
    (noneLast : ¬ needle <:+: last) : ¬ needle <:+: pieces.flatMap (· ++ [sep]) ++ last := by
  induction pieces with
  | nil => exact noneLast
  | cons piece pieces ih =>
    intro occurs
    rw [List.flatMap_cons, List.append_assoc, List.append_assoc, List.singleton_append] at occurs
    rcases infix_append_cons avoids occurs with here | later
    · exact none piece List.mem_cons_self here
    · exact ih (fun p mem => none p (List.mem_cons_of_mem piece mem)) later

/-- The text with a carriage return before every line feed. -/
def withReturns (s : Text) : Text := s.flatMap fun c => if c = '\n' then ['\r', '\n'] else [c]

theorem withReturns_cons_newline (s : Text) :
    withReturns ('\n' :: s) = '\r' :: '\n' :: withReturns s := by
  simp [withReturns]

theorem withReturns_cons_of_ne {c : Char} (ne : c ≠ '\n') (s : Text) :
    withReturns (c :: s) = c :: withReturns s := by
  simp [withReturns, ne]

theorem unixLines_cons_of_ne {c : Char} (ne : c ≠ '\r') (s : Text) :
    unixLines (c :: s) = c :: unixLines s := by
  rw [unixLines]
  intro tail start
  exact absurd start ne

theorem unixLines_eq_self {s : Text} (plain : '\r' ∉ s) : unixLines s = s := by
  induction s with
  | nil => rfl
  | cons c s ih =>
    have ne : c ≠ '\r' := (List.ne_of_not_mem_cons plain).symm
    rw [unixLines_cons_of_ne ne, ih (List.not_mem_of_not_mem_cons plain)]

theorem unixLines_withReturns {s : Text} (plain : '\r' ∉ s) : unixLines (withReturns s) = s := by
  induction s with
  | nil => rfl
  | cons c s ih =>
    have tail := ih (List.not_mem_of_not_mem_cons plain)
    by_cases newline : c = '\n'
    · rw [newline, withReturns_cons_newline, unixLines, tail]
    · have ne : c ≠ '\r' := (List.ne_of_not_mem_cons plain).symm
      rw [withReturns_cons_of_ne newline, unixLines_cons_of_ne ne, tail]

/-- What is read line by line does not depend on the kind of line ending. -/
theorem tidyLines_withReturns {s : Text} (plain : '\r' ∉ s) :
    tidyLines (withReturns s) = tidyLines s := by
  simp only [tidyLines, plainLines, lines, unixLines_withReturns plain, unixLines_eq_self plain]

/-- The lines with a carriage return at the end of each but the last one. -/
def endReturns : List Text → List Text
  | line :: next :: more => (line ++ ['\r']) :: endReturns (next :: more)
  | [line] => [line]
  | [] => []

theorem exists_endReturns_eq_cons (line : Text) (more : List Text) :
    ∃ tail rest, ∀ lead, endReturns ((lead ++ line) :: more) = (lead ++ tail) :: rest := by
  cases more with
  | nil => exact ⟨line, [], fun _ => rfl⟩
  | cons next more =>
    refine ⟨line ++ ['\r'], endReturns (next :: more), fun lead => ?_⟩
    rw [endReturns, List.append_assoc]

theorem splitOn_withReturns (s : Text) :
    splitOn '\n' (withReturns s) = endReturns (splitOn '\n' s) := by
  induction s with
  | nil => rfl
  | cons c s ih =>
    obtain ⟨line, more, split⟩ := exists_splitOn_eq_cons '\n' s
    by_cases newline : c = '\n'
    · have ended : splitOn '\n' ('\r' :: '\n' :: withReturns s) =
          ['\r'] :: splitOn '\n' (withReturns s) :=
        splitOn_cons_of_ne (by decide) (splitOn_cons_self '\n' _)
      rw [newline, withReturns_cons_newline, ended, splitOn_cons_self, ih, split]
      rfl
    · obtain ⟨tail, rest, ends⟩ := exists_endReturns_eq_cons line more
      rw [split, ← List.nil_append line, ends []] at ih
      rw [withReturns_cons_of_ne newline, splitOn_cons_of_ne newline ih,
        splitOn_cons_of_ne newline split]
      exact (ends [c]).symm

end SymbolDocs.Text
