import SymbolDocs.Proofs.Stub.CodeLine

namespace SymbolDocs

open Text

namespace PendingHeader

theorem overload_congr {c c' : PendingHeader} (indent : c.indent = c'.indent)
    (lines : c.lines = c'.lines) : c.overload = c'.overload := by
  rw [overload, overload, indent, lines]

/-- The header with one more line, unless that is blank. -/
def take (c : PendingHeader) (line : Text) : PendingHeader :=
  if isBlank line then c else c.push line

theorem take_text (c : PendingHeader) (line : CodeLine) : c.take line.text =
    { c with
      depth := c.depth + Signature.netBrackets line.code
      lines := c.lines ++ CodeLine.visible [line] } := by
  by_cases blank : isBlank line.text
  · have code : isBlank line.code := by
      rw [CodeLine.text, isBlank, List.all_append, Bool.and_eq_true] at blank
      exact blank.1
    have flat : Signature.netBrackets line.code = 0 := Signature.netBracketsFrom_of_isBlank code 0 _
    rw [take, if_pos blank, flat, Int.add_zero]
    simp [CodeLine.visible, blank]
  · rw [take, if_neg blank, push, line.netBrackets_trim_text]
    simp [CodeLine.visible, blank]

end PendingHeader

namespace StubScan

variable {st : StubScan} {c : PendingHeader}

theorem collect_of_open {line : Text} (stays : 0 < c.depth + Signature.netBrackets (trim line) ∨
    Signature.closesHeader (trim line) = false) :
    st.collect c line = { st with collecting := some (c.push line) } := by
  have incomplete : ¬ (c.push line).isCompletedBy line := by
    rw [PendingHeader.isCompletedBy, PendingHeader.push]
    rcases stays with deep | goes
    · simp [Int.not_le.mpr deep]
    · simp [goes]
  simp only [collect, if_neg incomplete]

theorem feed_of_open {line : Text} (collecting : st.collecting = some c)
    (inside : indentWidth line ≤ c.indent → ¬ Signature.isDefinitionLine (trim line))
    (stays : 0 < c.depth + Signature.netBrackets (trim line) ∨
      Signature.closesHeader (trim line) = false) :
    st.feed line = { st with collecting := some (c.take line) } := by
  rw [feed, collecting]
  by_cases blank : isBlank line
  · have empty := trim_eq_nil_iff.mpr blank
    rw [PendingHeader.take, if_pos blank]
    simp only [empty, List.isEmpty_nil, if_true, ← collecting]
  · have nonempty := not_isEmpty_trim blank
    have goesOn : ¬ (indentWidth line ≤ c.indent && Signature.isDefinitionLine (trim line)) := by
      simpa using inside
    simp only [if_neg nonempty, if_neg goesOn, collect_of_open stays, PendingHeader.take,
      if_neg blank]

/-- Lines that do not end the header are all kept. -/
theorem feed_lines (lines : List CodeLine) (collecting : st.collecting = some c)
    (inside : ∀ line ∈ lines, indentWidth line.text ≤ c.indent →
      ¬ Signature.isDefinitionLine (trim line.text))
    (stays : CodeLine.stayOpen c.depth lines) :
    (lines.map CodeLine.text).foldl feed st =
      { st with collecting := some { c with
          depth := c.depth + CodeLine.nesting lines
          lines := c.lines ++ CodeLine.visible lines } } := by
  induction lines generalizing st c with
  | nil =>
    have same : c.depth + CodeLine.nesting [] = c.depth := Int.add_zero c.depth
    rw [same, show CodeLine.visible [] = [] from rfl, List.append_nil, ← collecting]
    rfl
  | cons line lines ih =>
    rw [CodeLine.stayOpen, Bool.and_eq_true] at stays
    obtain ⟨here, rest⟩ := stays
    have step := feed_of_open collecting (inside line List.mem_cons_self) (by
      rw [line.netBrackets_trim_text]
      simpa using here)
    rw [List.map_cons, List.foldl_cons, step, PendingHeader.take_text]
    rw [ih (c := { c with
        depth := c.depth + Signature.netBrackets line.code
        lines := c.lines ++ CodeLine.visible [line] }) rfl
      (fun l mem => inside l (List.mem_cons_of_mem line mem)) rest]
    have total : c.depth + CodeLine.nesting (line :: lines) =
        c.depth + Signature.netBrackets line.code + CodeLine.nesting lines := by
      rw [← List.singleton_append, CodeLine.nesting_append, CodeLine.nesting_singleton,
        line.netBrackets_trim_text, Int.add_assoc]
    rw [total, CodeLine.visible_cons line lines, ← List.append_assoc]

theorem collect_of_end {line : Text} (done : c.depth + Signature.netBrackets (trim line) ≤ 0)
    (closes : Signature.closesHeader (trim line)) :
    st.collect c line = { st with
      collecting := none
      overloads := st.overloads ++ (nonEmpty? (c.push line).overload).toList } := by
  have complete : (c.push line).isCompletedBy line := by
    rw [PendingHeader.isCompletedBy, PendingHeader.push, closes]
    simpa using done
  simp only [collect, if_pos complete, closeHeader]

theorem feed_of_end {line : Text} (collecting : st.collecting = some c) (visible : ¬ isBlank line)
    (inside : indentWidth line ≤ c.indent → ¬ Signature.isDefinitionLine (trim line))
    (done : c.depth + Signature.netBrackets (trim line) ≤ 0)
    (closes : Signature.closesHeader (trim line)) :
    st.feed line = { st with
      collecting := none
      overloads := st.overloads ++ (nonEmpty? (c.push line).overload).toList } := by
  have nonempty := not_isEmpty_trim visible
  have goesOn : ¬ (indentWidth line ≤ c.indent && Signature.isDefinitionLine (trim line)) := by
    simpa using inside
  rw [feed, collecting, ← collect_of_end done closes]
  simp only [if_neg nonempty, if_neg goesOn]

/-- The lines after the first one are collected, and the last one ends the header. -/
theorem feed_rest {more : List CodeLine} {last : CodeLine} (collecting : st.collecting = some c)
    (inside : ∀ line ∈ more ++ [last], indentWidth line.text ≤ c.indent →
      ¬ Signature.isDefinitionLine (trim line.text))
    (stays : CodeLine.stayOpen c.depth more)
    (done : c.depth + CodeLine.nesting (more ++ [last]) ≤ 0) (visible : ¬ isBlank last.text)
    (closes : Signature.closesHeader (trim last.text)) :
    ((more ++ [last]).map CodeLine.text).foldl feed st = { st with
      collecting := none
      overloads := st.overloads ++ (nonEmpty? (PendingHeader.overload
        { c with lines := c.lines ++ (CodeLine.visible more ++ [last.text]) })).toList } := by
  have run := feed_lines more collecting (fun l mem => inside l (List.mem_append_left _ mem)) stays
  rw [CodeLine.nesting_append, CodeLine.nesting_singleton, ← Int.add_assoc] at done
  have goesOn : ((more.map CodeLine.text).foldl feed st).collecting = some { c with
      depth := c.depth + CodeLine.nesting more
      lines := c.lines ++ CodeLine.visible more } := by rw [run]
  have ended := feed_of_end goesOn visible (inside last (by simp)) done closes
  have shown : (PendingHeader.push { c with
      depth := c.depth + CodeLine.nesting more
      lines := c.lines ++ CodeLine.visible more } last.text).overload = PendingHeader.overload
        { c with lines := c.lines ++ (CodeLine.visible more ++ [last.text]) } :=
    PendingHeader.overload_congr rfl (List.append_assoc _ _ _)
  rw [List.map_append, List.foldl_append, List.map_singleton, List.foldl_cons, List.foldl_nil,
    ended, shown, run]

/-- The classes that enclose a line are indented less. -/
def enclosing (st : StubScan) (line : Text) : StubScan :=
  { st with classes := st.classes.dropWhile fun (_, level) => indentWidth line ≤ level }

/-- The sought definition begins at the line, which is not inside the header before it. -/
def Opens (st : StubScan) (line : Text) : Prop :=
  (∀ c, st.collecting = some c → indentWidth line ≤ c.indent) ∧
    (st.enclosing line).isSought (trim line)

variable {line : Text}

theorem Opens.begins (opens : st.Opens line) : Signature.isDefinitionLine (trim line) ∧
    ∃ c rest, trim line = c :: rest ∧ c ∈ ['a', 'c', 'd'] := by
  have sought := opens.2
  rw [isSought, Bool.and_eq_true, beq_iff_eq] at sought
  exact Signature.begins_of_openedName? sought.1

/-- The classes around what follows a line, which may itself open one. -/
def classesBehind (st : StubScan) (line : Text) : List (Text × Nat) :=
  match Signature.openedClass? (trim line) with
  | some name => (name, indentWidth line) :: (st.enclosing line).classes
  | none => (st.enclosing line).classes

/-- A line of code is collected if it names the definition looked for. -/
theorem feedFresh_of_visible (visible : ¬ isBlank line) (code : ¬ startsWith (trim line) "#") :
    st.feedFresh line =
      { (if (st.enclosing line).isSought (trim line) then
          (st.enclosing line).collect { indent := indentWidth line } line
        else st.enclosing line) with classes := st.classesBehind line } := by
  have shown : ¬ ((trim line).isEmpty || startsWith (trim line) "#") := by
    simpa [not_isEmpty_trim visible] using code
  have kept : ((st.enclosing line).collect { indent := indentWidth line } line).classes =
      (st.enclosing line).classes := by
    rw [collect]
    split <;> rfl
  rw [feedFresh]
  simp only [if_neg shown]
  rw [classesBehind]
  by_cases sought : (st.enclosing line).isSought (trim line)
  · rw [if_pos sought, ← kept]
    rw [enclosing] at sought ⊢
    simp only [if_pos sought]
    cases Signature.openedClass? (trim line) <;> rfl
  · rw [if_neg sought]
    rw [enclosing] at sought ⊢
    simp only [if_neg sought]
    cases Signature.openedClass? (trim line) <;> rfl

theorem closeHeader_eq (st : StubScan) :
    st.closeHeader = { st with collecting := none, overloads := st.closeHeader.overloads } := by
  obtain ⟨target, classes, collecting, overloads⟩ := st
  cases collecting <;> rfl

/-- The line at which the sought definition begins ends the header before it. -/
theorem feed_of_opens (opens : st.Opens line) : st.feed line =
    { (st.closeHeader.enclosing line).collect { indent := indentWidth line } line with
      classes := st.classesBehind line } := by
  have fresh : st.feed line = st.closeHeader.feedFresh line := by
    rw [feed, closeHeader]
    cases collecting : st.collecting with
    | none => rfl
    | some c =>
      obtain ⟨_, _, eq, _⟩ := opens.begins.2
      have nonempty : ¬ (trim line).isEmpty := by rw [eq]; simp
      have ends : indentWidth line ≤ c.indent && Signature.isDefinitionLine (trim line) := by
        simpa [opens.begins.1] using opens.1 c collecting
      simp only [if_neg nonempty, if_pos ends]
  have sought : (st.closeHeader.enclosing line).isSought (trim line) := by
    have here := opens.2
    rw [closeHeader]
    cases st.collecting <;> exact here
  have visible : ¬ isBlank line ∧ ¬ startsWith (trim line) "#" := by
    obtain ⟨c, rest, eq, mem⟩ := opens.begins.2
    have ne : '#' ≠ c := by
      rintro rfl
      exact absurd mem (by decide)
    exact ⟨not_isBlank_of_trim eq, by rw [eq]; simp [startsWith, after?, ne]⟩
  have behind : st.closeHeader.classesBehind line = st.classesBehind line := by
    rw [closeHeader_eq]
    rfl
  rw [fresh, feedFresh_of_visible visible.1 visible.2, if_pos sought, behind]

theorem overloads_prefix_closeHeader (st : StubScan) :
    st.overloads <+: st.closeHeader.overloads := by
  rw [closeHeader]
  cases st.collecting with
  | none => exact List.prefix_rfl
  | some c => exact List.prefix_append _ _

theorem overloads_prefix_collect (st : StubScan) (c : PendingHeader) (line : Text) :
    st.overloads <+: (st.collect c line).overloads := by
  rw [collect]
  split
  · exact overloads_prefix_closeHeader { st with collecting := some (c.push line) }
  · exact List.prefix_rfl

theorem overloads_prefix_feedFresh (st : StubScan) (line : Text) :
    st.overloads <+: (st.feedFresh line).overloads := by
  rw [feedFresh]
  split
  · exact List.prefix_rfl
  · -- a class that the line opens is noted after the collection and changes no overload
    have found : st.overloads <+:
        (if (st.enclosing line).isSought (trim line) then
          (st.enclosing line).collect { indent := indentWidth line } line
        else st.enclosing line).overloads := by
      split
      · exact overloads_prefix_collect (st.enclosing line) _ line
      · exact List.prefix_rfl
    cases opened : Signature.openedClass? (trim line) <;> exact found

theorem overloads_prefix_feed (st : StubScan) (line : Text) :
    st.overloads <+: (st.feed line).overloads := by
  rw [feed]
  split
  · exact overloads_prefix_feedFresh st line
  · dsimp only
    split
    · exact List.prefix_rfl
    · split
      · exact (overloads_prefix_closeHeader st).trans (overloads_prefix_feedFresh _ line)
      · exact overloads_prefix_collect st _ line

theorem overloads_prefix_foldl (lines : List Text) (st : StubScan) :
    st.overloads <+: (lines.foldl feed st).overloads := by
  induction lines generalizing st with
  | nil => exact List.prefix_rfl
  | cons line lines ih => exact (overloads_prefix_feed st line).trans (ih (st.feed line))

theorem exists_finish_eq {st : StubScan} (found : st.closeHeader.overloads ≠ []) :
    ∃ info, st.finish = some info ∧ info.overloads = st.closeHeader.overloads := by
  have nonempty : ¬ st.closeHeader.overloads.isEmpty := by rwa [List.isEmpty_iff]
  exact ⟨_, by rw [finish, if_neg nonempty], rfl⟩

theorem overloads_of_finish {st : StubScan} {info : StubInfo} (finished : st.finish = some info) :
    info.overloads = st.closeHeader.overloads := by
  rw [finish] at finished
  dsimp only at finished
  split at finished
  · exact nomatch finished
  · rw [← Option.some.inj finished]

/-- The scan behind some lines of a source. -/
def behind (qualified : Text) (lines : List Text) : StubScan :=
  lines.foldl feed { target := .ofQualified qualified }

end StubScan

namespace StubInfo

open StubScan

/-- What has been found behind some lines stays in the result. -/
theorem exists_ofSource?_eq {source qualified : Text} {seen after found : List Text}
    (split : lines source = seen ++ after) (overloads : (behind qualified seen).overloads = found)
    (ne : found ≠ []) :
    ∃ info later, ofSource? source qualified = some info ∧ info.overloads = found ++ later := by
  have scan : ofSource? source qualified = (after.foldl feed (behind qualified seen)).finish := by
    rw [ofSource?, split, List.foldl_append, behind]
  obtain ⟨later, grown⟩ := (overloads_prefix_foldl after (behind qualified seen)).trans
    (overloads_prefix_closeHeader (after.foldl feed (behind qualified seen)))
  rw [overloads] at grown
  have any : (after.foldl feed (behind qualified seen)).closeHeader.overloads ≠ [] := by
    rw [← grown]
    simp [ne]
  obtain ⟨info, finished, eq⟩ := exists_finish_eq any
  exact ⟨info, later, scan.trans finished, eq.trans grown.symm⟩

end StubInfo
end SymbolDocs
