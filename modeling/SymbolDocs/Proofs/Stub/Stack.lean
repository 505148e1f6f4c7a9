import SymbolDocs.Proofs.Stub.Definition

namespace SymbolDocs

open Text

/-- The classes of a stack that are indented less than a width. -/
def outside (width : Nat) (classes : List (Text × Nat)) : List (Text × Nat) :=
  classes.dropWhile fun (_, level) => width ≤ level

section Stack

variable {width deeper : Nat}

theorem outside_cons_of_lt {level : Nat} (lt : level < width) (name : Text)
    (classes : List (Text × Nat)) :
    outside width ((name, level) :: classes) = (name, level) :: classes :=
  List.dropWhile_cons_of_neg (by simpa using lt)

theorem outside_cons_of_le {level : Nat} (le : width ≤ level) (name : Text)
    (classes : List (Text × Nat)) :
    outside width ((name, level) :: classes) = outside width classes :=
  List.dropWhile_cons_of_pos (by simpa using le)

theorem outside_outside (le : width ≤ deeper) (classes : List (Text × Nat)) :
    outside width (outside deeper classes) = outside width classes := by
  induction classes with
  | nil => rfl
  | cons c classes ih =>
    obtain ⟨name, level⟩ := c
    by_cases inside : deeper ≤ level
    · rw [outside_cons_of_le inside, outside_cons_of_le (Nat.le_trans le inside), ih]
    · rw [outside_cons_of_lt (Nat.lt_of_not_le inside)]

theorem outside_deeper (le : width ≤ deeper) (classes : List (Text × Nat)) :
    outside deeper (outside width classes) = outside width classes := by
  induction classes with
  | nil => rfl
  | cons c classes ih =>
    obtain ⟨name, level⟩ := c
    by_cases inside : width ≤ level
    · rw [outside_cons_of_le inside, ih]
    · have lt := Nat.lt_of_not_le inside
      rw [outside_cons_of_lt lt, outside_cons_of_lt (Nat.lt_of_lt_of_le lt le)]

end Stack

/-- Whether a name with a class around it is what is looked for. -/
def StubQuery.seeks (q : StubQuery) (name owner : Option Text) : Bool :=
  name == some q.name && q.owner == owner

namespace StubScan

variable {st : StubScan} {line : Text}

theorem feed_of_idle (idle : st.collecting = none) (line : Text) :
    st.feed line = st.feedFresh line := by
  rw [feed, idle]

theorem feedFresh_of_unsought (visible : ¬ isBlank line) (code : ¬ startsWith (trim line) "#")
    (unsought : ¬ (st.enclosing line).isSought (trim line)) :
    st.feedFresh line = { st with classes := st.classesBehind line } := by
  rw [feedFresh_of_visible visible code, if_neg unsought]
  rfl

theorem feed_of_unnamed (idle : st.collecting = none) (visible : ¬ isBlank line)
    (code : ¬ startsWith (trim line) "#") (unnamed : Signature.openedName? (trim line) = none) :
    st.feed line = { st with classes := outside (indentWidth line) st.classes } := by
  have unsought : ¬ (st.enclosing line).isSought (trim line) := by
    simp [isSought, unnamed]
  rw [feed_of_idle idle, feedFresh_of_unsought visible code unsought, classesBehind,
    Signature.openedClass?_eq_none unnamed]
  rfl

theorem feedFresh_of_passed (passed : isBlank line ∨ startsWith (trim line) "#") :
    st.feedFresh line = st := by
  have skipped : (trim line).isEmpty || startsWith (trim line) "#" := by
    rcases passed with blank | comment
    · rw [trim_eq_nil_iff.mpr blank]
      rfl
    · rw [comment, Bool.or_true]
  rw [feedFresh]
  simp only [if_pos skipped]

theorem feed_of_passed (idle : st.collecting = none)
    (passed : isBlank line ∨ startsWith (trim line) "#") : st.feed line = st := by
  rw [feed_of_idle idle, feedFresh_of_passed passed]

end StubScan

namespace StubHeader

variable (h : StubHeader)

/-- Whether the class is still noted behind the header if that is not collected. -/
def keepsScope : Bool := h.lines.tail.all fun line => h.indent < indentWidth line.text

/-- The name under which the class is noted behind its header. -/
def noted? (sought : Bool) : Option Text := if sought || h.keepsScope then h.read? else none

def classesBehind (sought : Bool) (classes : List (Text × Nat)) : List (Text × Nat) :=
  if h.kind = .type then (h.noted? sought).elim classes fun name => (name, h.indent) :: classes
  else classes

variable {h}

theorem classesBehind_of_type (type : h.kind = .type) (sought : Bool)
    (classes : List (Text × Nat)) : h.classesBehind sought classes =
      (h.noted? sought).elim classes fun name => (name, h.indent) :: classes :=
  if_pos type

theorem classesBehind_of_ne (function : h.kind ≠ .type) (sought : Bool)
    (classes : List (Text × Nat)) : h.classesBehind sought classes = classes :=
  if_neg function

theorem outside_classesBehind (sought : Bool) (classes : List (Text × Nat)) :
    outside h.indent (h.classesBehind sought (outside h.indent classes)) =
      outside h.indent classes := by
  have same := outside_deeper (Nat.le_refl h.indent) classes
  by_cases type : h.kind = .type
  · rw [classesBehind_of_type type]
    cases h.noted? sought with
    | none => exact same
    | some name => exact (outside_cons_of_le (Nat.le_refl h.indent) name _).trans same
  · rw [classesBehind_of_ne type, same]

end StubHeader

namespace StubScan

variable {st : StubScan}

/-- Further lines of a header that is not collected end no class around it. -/
theorem foldl_feed_further (lines : List CodeLine) (idle : st.collecting = none) {width : Nat}
    (further : ∀ line ∈ lines, ¬ isBlank line.code ∧ width ≤ indentWidth line.text ∧
      ¬ Signature.isDefinitionLine (trim line.text)) (around : List (Text × Nat)) :
    (lines.map CodeLine.text).foldl feed { st with classes := outside width around } =
      { st with classes := outside width around } := by
  induction lines with
  | nil => rfl
  | cons line lines ih =>
    obtain ⟨visible, le, other⟩ := further line List.mem_cons_self
    have step : StubScan.feed { st with classes := outside width around } line.text = _ :=
      feed_of_unnamed idle (line.not_isBlank_text visible)
        (CodeLine.not_startsWith_hash visible) (Signature.openedName?_eq_none other)
    rw [List.map_cons, List.foldl_cons, step, outside_deeper le]
    exact ih fun l mem => further l (List.mem_cons_of_mem line mem)

theorem foldl_feed_furtherOfClass (lines : List CodeLine) (idle : st.collecting = none)
    {width : Nat} (further : ∀ line ∈ lines, ¬ isBlank line.code ∧ width ≤ indentWidth line.text ∧
      ¬ Signature.isDefinitionLine (trim line.text)) (name : Text) (around : List (Text × Nat)) :
    (lines.map CodeLine.text).foldl feed
        { st with classes := (name, width) :: outside width around } =
      { st with classes :=
          if lines.all fun line => width < indentWidth line.text
          then (name, width) :: outside width around else outside width around } := by
  induction lines with
  | nil => rfl
  | cons line lines ih =>
    obtain ⟨visible, le, other⟩ := further line List.mem_cons_self
    have later := fun l mem => further l (List.mem_cons_of_mem line mem)
    have step : StubScan.feed { st with classes := (name, width) :: outside width around }
        line.text = _ :=
      feed_of_unnamed idle (line.not_isBlank_text visible)
        (CodeLine.not_startsWith_hash visible) (Signature.openedName?_eq_none other)
    rw [List.map_cons, List.foldl_cons, step]
    by_cases lt : width < indentWidth line.text
    · rw [outside_cons_of_lt lt, ih later, List.all_cons, decide_eq_true lt, Bool.true_and]
    · -- the first such line ends the class, and the lines after it find it gone
      have eq : indentWidth line.text = width := by omega
      rw [eq, outside_cons_of_le (Nat.le_refl width), outside_deeper (Nat.le_refl width),
        foldl_feed_further lines idle later, List.all_cons, decide_eq_false lt, Bool.false_and]
      rfl

variable {h : StubHeader}

theorem classesBehind_first (st : StubScan) : st.classesBehind h.first.text =
    h.classesBehind true (outside h.indent st.classes) := by
  rw [classesBehind, h.openedClass?_first, StubHeader.classesBehind, StubHeader.noted?,
    Bool.true_or, if_pos rfl]
  by_cases type : h.kind = .type
  · rw [if_pos type, if_pos type]
    cases h.read? <;> rfl
  · rw [if_neg type, if_neg type]
    rfl

theorem isSought_first (st : StubScan) : (st.enclosing h.first.text).isSought (trim h.first.text) =
    st.target.seeks h.read? ((outside h.indent st.classes).head?.map (·.1)) := by
  rw [isSought, h.openedName?_first]
  rfl

theorem foldl_feed_sought (idle : st.collecting = none)
    (sought : st.target.seeks h.read? ((outside h.indent st.classes).head?.map (·.1))) :
    (h.lines.map CodeLine.text).foldl feed st =
      { st with
        classes := h.classesBehind true (outside h.indent st.classes)
        overloads := st.overloads ++ [h.signature] } := by
  have opens : st.Opens h.first.text := by
    refine ⟨fun c collecting => ?_, (isSought_first st).trans sought⟩
    rw [idle] at collecting
    exact nomatch collecting
  have closed : st.closeHeader = st := by
    rw [closeHeader, idle]
  rw [foldl_feed_header h.toCommentedHeader opens h.closesHeader_last, collected, closed,
    h.nonEmpty?_overload_pending opens, classesBehind_first, ← idle]
  rfl

theorem feed_first (idle : st.collecting = none)
    (unsought : ¬ st.target.seeks h.read? ((outside h.indent st.classes).head?.map (·.1))) :
    st.feed h.first.text =
      { st with classes := h.classesBehind true (outside h.indent st.classes) } := by
  rw [← isSought_first] at unsought
  rw [feed_of_idle idle, feedFresh_of_unsought h.not_isBlank_first h.not_startsWith_hash_first
    unsought, classesBehind_first]

theorem foldl_feed_unsought (idle : st.collecting = none)
    (unsought : ¬ st.target.seeks h.read? ((outside h.indent st.classes).head?.map (·.1))) :
    (h.lines.map CodeLine.text).foldl feed st =
      { st with classes := h.classesBehind false (outside h.indent st.classes) } := by
  rw [h.lines_eq, List.map_cons, List.foldl_cons, feed_first idle unsought]
  by_cases type : h.kind = .type
  · rw [StubHeader.classesBehind_of_type type, StubHeader.classesBehind_of_type type,
      StubHeader.noted?, StubHeader.noted?, Bool.true_or, if_pos rfl, Bool.false_or]
    cases h.read? with
    | none =>
      rw [ite_self]
      exact foldl_feed_further _ idle h.deeper st.classes
    | some name =>
      refine (foldl_feed_furtherOfClass _ idle h.deeper name st.classes).trans ?_
      rw [StubHeader.keepsScope]
      split <;> rfl
  · rw [StubHeader.classesBehind_of_ne type, StubHeader.classesBehind_of_ne type]
    exact foldl_feed_further _ idle h.deeper st.classes

/-- What the lines of a header do to a scan that collects nothing. -/
theorem foldl_feed_definition {owner : Option Text} (idle : st.collecting = none)
    (around : (outside h.indent st.classes).head?.map (·.1) = owner) :
    (h.lines.map CodeLine.text).foldl feed st =
      { st with
        classes := h.classesBehind (st.target.seeks h.read? owner) (outside h.indent st.classes)
        overloads := st.overloads ++
          if st.target.seeks h.read? owner then [h.signature] else [] } := by
  by_cases sought : st.target.seeks h.read? owner
  · rw [foldl_feed_sought idle (around ▸ sought), if_pos sought, sought]
  · rw [foldl_feed_unsought idle (around ▸ sought), if_neg sought, eq_false_of_ne_true sought,
      List.append_nil]

end StubScan
end SymbolDocs
