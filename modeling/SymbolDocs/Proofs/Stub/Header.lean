import SymbolDocs.Proofs.Stub.Scan
import SymbolDocs.Proofs.Text.Lines

namespace SymbolDocs

open Text

/-- The header of a definition, with comments at the ends of its lines. The last line is the first
one that ends it, and no line after the first begins another definition. -/
structure CommentedHeader where
  init : List CodeLine
  last : CodeLine
  staysOpen : CodeLine.stayOpen 0 init
  balanced : CodeLine.nesting (init ++ [last]) = 0
  ends : last.code.endsWith ":" || last.code.endsWith "..."
  inside : ∀ line ∈ (init ++ [last]).tail,
    indentWidth line.text ≤ indentWidth (init.headD last).text →
      ¬ Signature.isDefinitionLine (trim line.text)

namespace CommentedHeader

variable (h : CommentedHeader)

def lines : List CodeLine := h.init ++ [h.last]

def first : CodeLine := h.init.headD h.last

def indent : Nat := indentWidth h.first.text

/-- A line as it is shown. -/
def shown (line : Text) : Text := trimEnd (dropIndent h.indent line)

/-- The header as it is shown: all lines but the last with their comments, and the code of the last
one up to the ending. -/
def overload : Text :=
  Signature.dropEnding ":" (Signature.dropEnding "..." (joinWith "\n"
    ((CodeLine.visible h.init).map h.shown ++ [dropIndent h.indent h.last.code])))

variable {h} in
theorem first_of_nil (lines : h.init = []) : h.first = h.last := by
  rw [first, lines]
  rfl

variable {h} in
theorem first_of_cons {line : CodeLine} {more : List CodeLine} (lines : h.init = line :: more) :
    h.first = line := by
  rw [first, lines]
  rfl

theorem lines_eq : h.lines = h.first :: h.lines.tail := by
  rw [lines, first]
  cases h.init <;> rfl

theorem exists_last_code_eq : ∃ lead c, h.last.code = lead ++ [c] ∧ ¬ isBlankChar c := by
  rcases Bool.or_eq_true _ _ ▸ h.ends with colon | dots
  · obtain ⟨lead, eq⟩ := endsWith_iff_suffix.mp colon
    exact ⟨lead, ':', eq.symm, by decide⟩
  · obtain ⟨lead, eq⟩ := endsWith_iff_suffix.mp dots
    exact ⟨lead ++ ['.', '.'], '.', by rw [← eq, List.append_assoc]; rfl, by decide⟩

theorem not_isBlank_last_code : ¬ isBlank h.last.code := by
  obtain ⟨lead, c, eq, seen⟩ := h.exists_last_code_eq
  rw [eq, isBlank, List.all_append]
  simp [seen]

theorem not_isBlank_last_text : ¬ isBlank h.last.text :=
  h.last.not_isBlank_text h.not_isBlank_last_code

theorem trimEnd_last_code : trimEnd h.last.code = h.last.code := by
  obtain ⟨lead, c, eq, seen⟩ := h.exists_last_code_eq
  rw [eq]
  exact trimEnd_concat lead seen

theorem closesHeader_last (absent : ¬ ("  #" : Text) <:+: h.last.code)
    (setOff : IsSetOff h.last.trailer) : Signature.closesHeader (trim h.last.text) := by
  have ends : trimStart h.last.code <:+ h.last.code := List.dropWhile_suffix _
  have code : Signature.withoutComment (trim h.last.text) = trimStart h.last.code := by
    rw [trim, CodeLine.text, trimStart_append h.not_isBlank_last_code]
    exact Signature.withoutComment_trimEnd (trimEnd_eq_self_of_suffix h.trimEnd_last_code ends)
      (fun early => absent (early.trans ends.isInfix)) setOff
  rw [Signature.closesHeader, code]
  rcases Bool.or_eq_true _ _ ▸ h.ends with colon | dots
  · have same := suffix_trimStart rfl (endsWith_iff_suffix.mp colon)
    exact Bool.or_eq_true _ _ ▸ .inl (endsWith_iff_suffix.mpr same)
  · have same := suffix_trimStart rfl (endsWith_iff_suffix.mp dots)
    exact Bool.or_eq_true _ _ ▸ .inr (endsWith_iff_suffix.mpr same)

/-- What is collected of the header. -/
def pending : PendingHeader :=
  { indent := h.indent, lines := CodeLine.visible h.init ++ [h.last.text] }

theorem overload_pending (early : ∀ line ∈ h.init, ¬ ("  #" : Text) <:+: h.shown line.text)
    (absent : ¬ ("  #" : Text) <:+: h.last.code) (setOff : IsSetOff h.last.trailer) :
    h.pending.overload = h.overload := by
  have kept : ∀ piece ∈ (CodeLine.visible h.init).map h.shown, ¬ ("  #" : Text) <:+: piece := by
    intro piece mem
    obtain ⟨text, visible, rfl⟩ := List.mem_map.mp mem
    obtain ⟨line, inInit, rfl⟩ := List.mem_map.mp (List.mem_filter.mp visible).1
    exact early line inInit
  let lead : Text := ((CodeLine.visible h.init).map h.shown).flatMap (· ++ ['\n'])
  let code : Text := dropIndent h.indent h.last.code
  have inside : code <:+ h.last.code := dropIndent_suffix h.indent h.last.code
  have visible : ¬ isBlank code := not_isBlank_dropIndent h.not_isBlank_last_code h.indent
  have whole : trimEnd (lead ++ code) = lead ++ code := by
    rw [trimEnd_append lead visible, trimEnd_eq_self_of_suffix h.trimEnd_last_code inside]
  have none : ¬ ("  #" : Text) <:+: lead ++ code := not_infix_joined (by decide) kept
    fun occurs => absent (occurs.trans inside.isInfix)
  have tail : ¬ isBlank (code ++ h.last.trailer) := by
    rw [isBlank] at visible
    simp [isBlank, visible]
  -- joined first and trimmed then, the comment of the last line is one of the whole text
  have joined : joinWith "\n" (h.pending.lines.map fun l => trimEnd (dropIndent h.indent l)) =
      trimEnd (lead ++ code ++ h.last.trailer) := by
    rw [pending, List.map_append, List.map_singleton, joinWith_concat, CodeLine.text,
      dropIndent_append h.not_isBlank_last_code, ← trimEnd_append _ tail, List.append_assoc]
    rfl
  rw [PendingHeader.overload, show h.pending.indent = h.indent from rfl, joined, Signature.clean,
    trimEnd_trimEnd, Signature.withoutComment_trimEnd whole none setOff, overload, joinWith_concat]
  rfl

variable {h}

/-- The first line that is shown is the one at which the definition begins. -/
theorem exists_joined_eq_cons {c : Char} {rest : Text} (begins : trim h.first.text = c :: rest) :
    ∃ tail, joinWith "\n" ((CodeLine.visible h.init).map h.shown ++
      [dropIndent h.indent h.last.code]) = c :: tail := by
  rw [joinWith_concat]
  cases lines : h.init with
  | nil =>
    have only := first_of_nil lines
    have code : dropIndent h.indent h.last.code = trimStart h.last.code := by
      have text := dropIndent_indentWidth h.last.text
      rw [CodeLine.text, dropIndent_append h.not_isBlank_last_code,
        trimStart_append h.not_isBlank_last_code] at text
      rw [indent, only]
      exact List.append_cancel_right text
    -- the only line is shown without its comment, so its start is looked for in its code
    obtain ⟨d, tail, eq, visible⟩ := exists_trimStart_eq_cons h.not_isBlank_last_code
    have same : c = d := by
      rw [only, trim, CodeLine.text, trimStart_append h.not_isBlank_last_code, eq, List.cons_append,
        trimEnd_cons visible] at begins
      exact (List.cons.inj begins).1.symm
    exact ⟨tail, by rw [code, eq, same]; rfl⟩
  | cons line more =>
    have isFirst := first_of_cons lines
    have seen : ¬ isBlank line.text := not_isBlank_of_trim (isFirst ▸ begins)
    have shows : h.shown line.text = c :: rest := by
      rw [shown, indent, isFirst, dropIndent_indentWidth, ← begins, isFirst]
      rfl
    rw [CodeLine.visible_cons_of_not_isBlank seen, List.map_cons, List.flatMap_cons, shows]
    exact ⟨_, rfl⟩

/-- The name of what is defined stays, so something is shown. -/
theorem overload_ne_nil {h : CommentedHeader} {st : StubScan} (opens : st.Opens h.first.text) :
    h.overload ≠ [] := by
  obtain ⟨c, rest, begins, mem⟩ := opens.begins.2
  have letter : ¬ isBlankChar c ∧ c ∉ ("..." : Text) ∧ c ∉ (":" : Text) := by
    rw [List.mem_cons, List.mem_cons, List.mem_singleton] at mem
    rcases mem with rfl | rfl | rfl <;> exact ⟨by decide, by decide, by decide⟩
  obtain ⟨seen, noDot, noColon⟩ := letter
  obtain ⟨tail, joined⟩ := exists_joined_eq_cons begins
  obtain ⟨tail, body⟩ := Signature.exists_dropEnding_eq_cons seen noDot tail
  obtain ⟨tail, colon⟩ := Signature.exists_dropEnding_eq_cons seen noColon tail
  rw [overload, joined, body, colon]
  simp

end CommentedHeader

namespace StubScan

/-- The scan behind a header that has been collected. -/
def collected (st : StubScan) (h : CommentedHeader) : StubScan :=
  { st with
    collecting := none
    classes := st.classesBehind h.first.text
    overloads := st.closeHeader.overloads ++ (nonEmpty? h.pending.overload).toList }

theorem feed_oneLine {st : StubScan} {h : CommentedHeader} (opens : st.Opens h.first.text)
    (closes : Signature.closesHeader (trim h.last.text)) (lines : h.init = []) :
    st.feed h.last.text = st.collected h := by
  have opened := feed_of_opens opens
  have only := CommentedHeader.first_of_nil lines
  have done : (0 : Int) + Signature.netBrackets (trim h.last.text) ≤ 0 := by
    have balanced := h.balanced
    rw [lines, List.nil_append, CodeLine.nesting_singleton] at balanced
    omega
  have shown : (PendingHeader.push { indent := indentWidth h.last.text } h.last.text).overload =
      h.pending.overload := by
    refine PendingHeader.overload_congr ?_ ?_
    · rw [CommentedHeader.pending, CommentedHeader.indent, only]
      rfl
    · rw [CommentedHeader.pending, lines]
      rfl
  rw [only, collect_of_end (c := { indent := indentWidth h.last.text }) done closes, shown,
    closeHeader_eq] at opened
  rw [opened, collected, only]
  rfl

theorem feed_firstLine {st : StubScan} {h : CommentedHeader} {line : CodeLine}
    {more : List CodeLine} (opens : st.Opens h.first.text) (lines : h.init = line :: more) :
    st.feed line.text = { st.closeHeader with
        collecting := some (PendingHeader.push { indent := indentWidth line.text } line.text)
        classes := st.classesBehind h.first.text } ∧
      CodeLine.stayOpen (Signature.netBrackets (trim line.text)) more := by
  have opened := feed_of_opens opens
  have isFirst := CommentedHeader.first_of_cons lines
  have stays := h.staysOpen
  rw [lines, CodeLine.stayOpen, Bool.and_eq_true, Bool.or_eq_true, decide_eq_true_eq,
    Bool.not_eq_true', Int.zero_add, ← line.netBrackets_trim_text] at stays
  rw [isFirst, collect_of_open (c := { indent := indentWidth line.text })
    (by rw [Int.zero_add]; exact stays.1)] at opened
  rw [opened, isFirst]
  exact ⟨rfl, stays.2⟩

theorem feed_moreLines {st : StubScan} {h : CommentedHeader} {line : CodeLine}
    {more : List CodeLine} (opens : st.Opens h.first.text)
    (closes : Signature.closesHeader (trim h.last.text)) (lines : h.init = line :: more) :
    ((more ++ [h.last]).map CodeLine.text).foldl feed (st.feed line.text) = st.collected h := by
  obtain ⟨opened, stays⟩ := feed_firstLine opens lines
  have isFirst := CommentedHeader.first_of_cons lines
  have inside := h.inside
  rw [lines] at inside
  have done : (0 : Int) + Signature.netBrackets (trim line.text) +
      CodeLine.nesting (more ++ [h.last]) ≤ 0 := by
    have balanced := h.balanced
    rw [lines, List.cons_append, ← List.singleton_append, CodeLine.nesting_append,
      CodeLine.nesting_singleton] at balanced
    omega
  have visible : CodeLine.visible h.init = line.text :: CodeLine.visible more := by
    obtain ⟨_, _, begins, _⟩ := opens.begins.2
    have seen : ¬ isBlank line.text := not_isBlank_of_trim (isFirst ▸ begins)
    rw [lines, CodeLine.visible_cons_of_not_isBlank seen]
  have shown : PendingHeader.overload
      { PendingHeader.push { indent := indentWidth line.text } line.text with
        lines := [line.text] ++ (CodeLine.visible more ++ [h.last.text]) } =
      h.pending.overload := by
    refine PendingHeader.overload_congr ?_ ?_
    · rw [CommentedHeader.pending, CommentedHeader.indent, isFirst]
      rfl
    · rw [CommentedHeader.pending, visible]
      rfl
  have collecting : (st.feed line.text).collecting =
      some (PendingHeader.push { indent := indentWidth line.text } line.text) := by rw [opened]
  rw [feed_rest collecting inside (by rw [PendingHeader.push, Int.zero_add]; exact stays) done
    h.not_isBlank_last_text closes, collected, ← shown, opened, closeHeader_eq]
  rfl

/-- The sought header is collected up to its last line, whatever its comments. -/
theorem foldl_feed_header {st : StubScan} (h : CommentedHeader) (opens : st.Opens h.first.text)
    (closes : Signature.closesHeader (trim h.last.text)) :
    (h.lines.map CodeLine.text).foldl feed st = st.collected h := by
  rw [CommentedHeader.lines]
  cases lines : h.init with
  | nil => exact feed_oneLine opens closes lines
  | cons line more => exact feed_moreLines opens closes lines

theorem feed_header {st : StubScan} (h : CommentedHeader) (opens : st.Opens h.first.text)
    (closes : Signature.closesHeader (trim h.last.text)) :
    ((h.lines.map CodeLine.text).foldl feed st).collecting = none ∧
      ((h.lines.map CodeLine.text).foldl feed st).overloads =
        st.closeHeader.overloads ++ (nonEmpty? h.pending.overload).toList := by
  rw [foldl_feed_header h opens closes]
  exact ⟨rfl, rfl⟩

end StubScan

namespace StubInfo

open StubScan

/-- An overload is found with the code of all its lines, and without any later line, if two spaces
before a hash sign stand in it at most in front of the comment of its last line, and do stand there
if there is one. -/
theorem exists_overloads_eq_of_header {source qualified : Text} {before after : List Text}
    (h : CommentedHeader) (split : lines source = before ++ (h.lines.map CodeLine.text ++ after))
    (opens : (behind qualified before).Opens h.first.text)
    (early : ∀ line ∈ h.init, occursIn "  #" (h.shown line.text) = false)
    (absent : occursIn "  #" h.last.code = false) (setOff : IsSetOff h.last.trailer) :
    ∃ info later, ofSource? source qualified = some info ∧
      info.overloads = (behind qualified before).closeHeader.overloads ++ h.overload :: later := by
  have early : ∀ line ∈ h.init, ¬ ("  #" : Text) <:+: h.shown line.text := fun line mem =>
    Text.occursIn_iff_isInfix.not.mp (Bool.not_eq_true _ ▸ early line mem)
  have absent : ¬ ("  #" : Text) <:+: h.last.code :=
    Text.occursIn_iff_isInfix.not.mp (Bool.not_eq_true _ ▸ absent)
  have stored : (behind qualified (before ++ h.lines.map CodeLine.text)).overloads =
      (behind qualified before).closeHeader.overloads ++ [h.overload] := by
    have collected := (feed_header h opens (h.closesHeader_last absent setOff)).2
    have nonempty : ¬ h.overload.isEmpty := by
      rw [List.isEmpty_iff]
      exact CommentedHeader.overload_ne_nil opens
    rw [h.overload_pending early absent setOff, nonEmpty?, if_neg nonempty] at collected
    rw [behind, List.foldl_append]
    exact collected
  rw [← List.append_assoc] at split
  obtain ⟨info, later, found, overloads⟩ := exists_ofSource?_eq split stored (by simp)
  rw [List.append_assoc, List.singleton_append] at overloads
  exact ⟨info, later, found, overloads⟩

end StubInfo

/-- A header on three lines, with a comment behind some spaces on the first one. -/
def CommentedHeader.onThreeLines (spaces : Nat) : CommentedHeader where
  init := [⟨"def f(", List.replicate spaces ' ' ++ '#' :: " first".toList, by decide,
      .inr ⟨_, _, by simp [isBlank, isBlankChar], rfl⟩⟩,
    ⟨"    a: int,", [], by decide, .inl rfl⟩]
  last := ⟨") -> int: ...", "  # last", by decide, .inr ⟨"  ", " last", by decide, rfl⟩⟩
  staysOpen := rfl
  balanced := rfl
  ends := rfl
  inside := by
    intro line mem _
    rcases List.mem_cons.mp mem with rfl | mem
    · decide
    · rw [List.mem_singleton.mp mem]
      decide

namespace StubInfo

open StubScan

theorem exists_overloads_eq_of_header_oneSpace : ∃ info later,
    ofSource? "def f( # first\n    a: int,\n) -> int: ...  # last\nx: int" "m.f" = some info ∧
      info.overloads = ("def f( # first\n    a: int,\n) -> int" : Text) :: later := by
  have split : lines "def f( # first\n    a: int,\n) -> int: ...  # last\nx: int" =
      [] ++ ((CommentedHeader.onThreeLines 1).lines.map CodeLine.text ++ [("x: int" : Text)]) := by
    decide +kernel
  have opens : (behind "m.f" []).Opens (CommentedHeader.onThreeLines 1).first.text :=
    ⟨nofun, by decide +kernel⟩
  have shown : (CommentedHeader.onThreeLines 1).overload =
      ("def f( # first\n    a: int,\n) -> int" : Text) := by decide +kernel
  obtain ⟨info, later, found, overloads⟩ := exists_overloads_eq_of_header _ split opens
    (by decide +kernel) (by decide +kernel) (.inr ⟨[], " last", rfl, rfl⟩)
  rw [shown] at overloads
  exact ⟨info, later, found, overloads⟩

/-- A comment behind two spaces on the first line hides the lines after it. -/
theorem not_exists_overload_of_header : ¬ ∀ (h : CommentedHeader) (source qualified : Text)
    (before after : List Text), lines source = before ++ (h.lines.map CodeLine.text ++ after) →
    (behind qualified before).Opens h.first.text →
    ∃ info overload later, ofSource? source qualified = some info ∧
      info.overloads = (behind qualified before).closeHeader.overloads ++ overload :: later ∧
      ∀ line ∈ h.init, occursIn (trim line.code) overload := by
  intro transparent
  obtain ⟨info, overload, later, found, overloads, codes⟩ := transparent (.onThreeLines 2)
    "def f(  # first\n    a: int,\n) -> int: ...  # last" "m.f" [] []
    (by decide +kernel) ⟨nofun, by decide +kernel⟩
  have stored : (ofSource? "def f(  # first\n    a: int,\n) -> int: ...  # last" "m.f").map
      StubInfo.overloads = some [("def f(" : Text)] := by decide +kernel
  rw [found, Option.map_some, overloads] at stored
  have only : overload = ("def f(" : Text) := (List.cons.inj (Option.some.inj stored)).1
  have second := codes ⟨"    a: int,", [], by decide, .inl rfl⟩
    (List.mem_cons_of_mem _ List.mem_cons_self)
  rw [only] at second
  exact absurd second (by decide)

end StubInfo
end SymbolDocs
