import SymbolDocs.Proofs.Markdown.Finish
import SymbolDocs.Proofs.Url.Written

namespace SymbolDocs.Markdown

open Text Html Node

/-- What has been written, the last character first, when what comes is set off from it. -/
def gapped : Text → Text
  | [] => []
  | c :: written => if isBlankChar c || c == '[' then c :: written else ' ' :: c :: written

def linkEnd (target : Text) : Text := "](" ++ target ++ ")"

/-- What has been written when a link with a target ends. -/
def closed (target : Text) : Text → Text
  | '[' :: written => written
  | written => (linkEnd target).reverse ++ written.dropWhile isBlankOrTab

/-- What has been written with one more character of a text. -/
def withChar (written : Text) (c : Char) : Text :=
  if isBlankChar c then gapped written else c :: written

/-- What has been written with words behind it, each of them set off from what comes. -/
def withWords (written : Text) (ws : List Text) : Text :=
  ws.foldl (fun written word => gapped (word.reverse ++ written)) written

/-- A text without the signs that permalinks show. -/
def withoutPilcrows (s : Text) : Text := s.filter (· != '\u00b6')

/-- What has been written when a text follows: white space in front of the text sets it off. -/
def begun (s written : Text) : Text :=
  if s.head?.any isBlankChar then gapped written else written

/-- What has been written with words behind it, set off from each other. -/
def spaced (written : Text) : List Text → Text
  | [] => written
  | word :: more =>
    more.foldl (fun written next => next.reverse ++ gapped written) (word.reverse ++ written)

section Gaps

variable {written word : Text} {c : Char}

theorem gapped_gapped (written : Text) : gapped (gapped written) = gapped written := by
  cases written with
  | nil => rfl
  | cons c written =>
    rw [gapped]
    split
    · next off => rw [gapped, if_pos off]
    · rfl

theorem gapped_bracket (written : Text) : gapped ('[' :: written) = '[' :: written := rfl

theorem gapped_of_visible (visible : ¬ isBlankChar c) (other : c ≠ '[') (written : Text) :
    gapped (c :: written) = ' ' :: c :: written := by
  rw [gapped, if_neg]
  simp [visible, other]

theorem dropWhile_gapped (written : Text) :
    (gapped written).dropWhile isBlankChar = written.dropWhile isBlankChar := by
  cases written with
  | nil => rfl
  | cons c written =>
    rw [gapped]
    split
    · rfl
    · rw [List.dropWhile_cons_of_pos (by decide)]

theorem length_gapped_le (written : Text) : (gapped written).length ≤ written.length + 1 := by
  cases written with
  | nil => exact Nat.zero_le 1
  | cons c written =>
    rw [gapped]
    split
    · exact Nat.le_succ _
    · exact Nat.le_refl _

theorem foldl_withChar_of_none (none : ∀ c ∈ word, ¬ isBlankChar c) (written : Text) :
    word.foldl withChar written = word.reverse ++ written := by
  induction word generalizing written with
  | nil => rfl
  | cons c word ih =>
    rw [List.foldl_cons, withChar, if_neg (none c List.mem_cons_self),
      ih fun d mem => none d (List.mem_cons_of_mem c mem), List.reverse_cons, List.append_assoc]
    rfl

/-- Text that is read behind a gap is as good as its words. -/
theorem gapped_foldl_withChar (s written : Text) :
    gapped (s.foldl withChar (gapped written)) = withWords (gapped written) (words s) := by
  induction s using cut_induction isBlankChar generalizing written with
  | last s none =>
    rw [foldl_withChar_of_none none]
    by_cases empty : s = []
    · rw [empty]
      exact gapped_gapped written
    · rw [words_of_isWord ⟨empty, none⟩]
      rfl
  | cut lead c rest none blank ih =>
    rw [List.foldl_append, List.foldl_cons, foldl_withChar_of_none none, withChar, if_pos blank, ih,
      words_append_cons blank]
    by_cases empty : lead = []
    · rw [empty, List.reverse_nil, List.nil_append, gapped_gapped]
      rfl
    · rw [words_of_isWord ⟨empty, none⟩]
      rfl

theorem spaced_cons_of_ne_nil {more : List Text} (ne : more ≠ []) (word written : Text) :
    spaced written (word :: more) = spaced (gapped (word.reverse ++ written)) more := by
  obtain ⟨next, more, rfl⟩ := List.exists_cons_of_ne_nil ne
  rfl

theorem gapped_begun (s written : Text) : gapped (begun s written) = gapped written := by
  rw [begun]
  split
  · exact gapped_gapped written
  · rfl

/-- The text in front of the first white space is a word, if there is any. -/
theorem begun_append_cons {lead : Text} (none : ∀ d ∈ lead, ¬ isBlankChar d)
    (blank : isBlankChar c) (rest written : Text) : begun (lead ++ c :: rest) written =
      if lead = [] then gapped written else written := by
  cases lead with
  | nil => exact if_pos blank
  | cons d lead => exact if_neg (none d List.mem_cons_self)

theorem gapped_spaced_words {lead : Text} (none : ∀ d ∈ lead, ¬ isBlankChar d)
    (blank : isBlankChar c) (rest written : Text) :
    gapped (spaced (begun (lead ++ c :: rest) written) (words lead)) =
      gapped (lead.reverse ++ written) := by
  by_cases empty : lead = []
  · rw [empty]
    exact gapped_begun _ written
  · rw [begun_append_cons none blank, if_neg empty, words_of_isWord ⟨empty, none⟩]
    rfl

theorem spaced_words_append {lead : Text} (none : ∀ d ∈ lead, ¬ isBlankChar d)
    (blank : isBlankChar c) (rest written : Text) {more : List Text} (ne : more ≠ []) :
    spaced (begun (lead ++ c :: rest) written) (words lead ++ more) =
      spaced (gapped (lead.reverse ++ written)) more := by
  rw [begun_append_cons none blank]
  by_cases empty : lead = []
  · rw [if_pos empty, empty]
    rfl
  · rw [if_neg empty, words_of_isWord ⟨empty, none⟩]
    exact spaced_cons_of_ne_nil ne lead written

/-- Reading a text character by character writes its words, and sets off what white space is
next to. -/
theorem foldl_withChar (s written : Text) : s.foldl withChar written =
    if s.getLast?.any isBlankChar then gapped (spaced (begun s written) (words s))
    else spaced (begun s written) (words s) := by
  induction s using cut_induction isBlankChar generalizing written with
  | last s none =>
    by_cases empty : s = []
    · rw [empty]
      rfl
    · have first : ¬ s.head?.any isBlankChar := by
        rw [List.head?_eq_some_head empty]
        exact none _ (List.head_mem empty)
      have last : ¬ s.getLast?.any isBlankChar := by
        rw [List.getLast?_eq_some_getLast empty]
        exact none _ (List.getLast_mem empty)
      rw [foldl_withChar_of_none none, begun, if_neg first, if_neg last,
        words_of_isWord ⟨empty, none⟩]
      rfl
  | cut lead c rest none blank ih =>
    have start : begun rest (gapped (lead.reverse ++ written)) =
        gapped (lead.reverse ++ written) := by
      rw [begun, gapped_gapped, ite_self]
    rw [List.foldl_append, List.foldl_cons, foldl_withChar_of_none none, withChar, if_pos blank, ih,
      start, words_append_cons blank]
    by_cases empty : words rest = []
    · have blankEnd : (lead ++ c :: rest).getLast?.any isBlankChar := by
        have left : isBlank (c :: rest) := by
          rw [isBlank_cons, blank, isBlank_iff_words.mpr empty]
          rfl
        rw [List.getLast?_append_cons, List.getLast?_eq_some_getLast (by simp)]
        exact List.all_eq_true.mp left _ (List.getLast_mem _)
      rw [empty, List.append_nil, if_pos blankEnd, gapped_spaced_words none blank, spaced,
        gapped_gapped, ite_self]
    · have ne : rest ≠ [] := by
        rintro rfl
        exact empty rfl
      rw [spaced_words_append none blank rest written empty, List.getLast?_append_cons,
        List.getLast?_cons_of_ne_nil ne]

end Gaps

namespace Writer

variable {w : Writer}

/-- In a page whose URL has been read no link leads to a target with a line feed. -/
theorem not_mem_of_target?_eq_some {base : Option Url} (page : ∃ u ∈ base, u.IsParsed)
    {href target : Text} (leads : ({ base } : Writer).target? href = some target) :
    '\n' ∉ target := by
  obtain ⟨u, rfl, parsed⟩ := page
  rw [target?] at leads
  split at leads
  · exact absurd leads (by simp)
  · obtain ⟨joined, read, rfl⟩ := Option.map_eq_some_iff.mp leads
    exact fun mem => absurd ((parsed.join read).isControlFree.toText '\n' mem) (by decide)

theorem gap_eq (w : Writer) : w.gap = { w with written := gapped w.written } := by
  rw [gap]
  split
  · next none => rw [none, gapped, ← none]
  · next c written eq =>
    rw [eq, gapped]
    split
    · rw [← eq]
    · rw [← eq]
      rfl

theorem gapIf_eq (w : Writer) (b : Bool) : (if b then w.gap else w) =
    { w with written := if b then gapped w.written else w.written } := by
  cases b with
  | false => rfl
  | true => exact w.gap_eq

theorem pushWords_eq (w : Writer) (ws : List Text) :
    w.pushWords ws = { w with written := spaced w.written ws } := by
  induction ws generalizing w with
  | nil => rfl
  | cons word more ih =>
    cases more with
    | nil => rfl
    | cons next more =>
      have step : w.pushWords (word :: next :: more) =
          (w.push word).gap.pushWords (next :: more) := rfl
      rw [step, ih, gap_eq]
      rfl

/-- Outside of preformatted text each character of a text is written, or sets off what comes. -/
theorem addText_eq (read : w.skipDepth = 0) (prose : w.preDepth = 0) (s : Text) : w.addText s =
    { w with written := (withoutPilcrows s).foldl withChar w.written } := by
  rw [addText, if_neg (by simp [read]), if_neg (by simp [prose]), foldl_withChar]
  dsimp only
  rw [gapIf_eq, gapIf_eq, pushWords_eq]
  rfl

end Writer
end SymbolDocs.Markdown
