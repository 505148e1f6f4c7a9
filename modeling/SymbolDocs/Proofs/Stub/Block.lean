import SymbolDocs.Proofs.Stub.Stack

namespace SymbolDocs

open Text

/-- Lines of a stub file, or of the body of a class in it: definitions with headers from `η`, other
lines between them, and lines such as conditions with a block of their own. -/
inductive StubBlock (η : Type) where
  | nil
  | line (text : Text) (rest : StubBlock η)
  | suite (opener : Text) (body rest : StubBlock η)
  | function (header : η) (rest : StubBlock η)
  | type (header : η) (body rest : StubBlock η)

namespace StubBlock

variable {η θ : Type}

def map (f : η → θ) : StubBlock η → StubBlock θ
  | nil => nil
  | line text rest => line text (rest.map f)
  | suite opener body rest => suite opener (body.map f) (rest.map f)
  | function header rest => function (f header) (rest.map f)
  | type header body rest => type (f header) (body.map f) (rest.map f)

/-- The headers in their order, each with those of the classes around it, innermost first. -/
def placed (outer : List η) : StubBlock η → List (η × List η)
  | nil => []
  | line _ rest => rest.placed outer
  | suite _ body rest => body.placed outer ++ rest.placed outer
  | function header rest => (header, outer) :: rest.placed outer
  | type header body rest =>
    (header, outer) :: (body.placed (header :: outer) ++ rest.placed outer)

theorem placed_map (f : η → θ) (block : StubBlock η) (outer : List η) :
    (block.map f).placed (outer.map f) =
      (block.placed outer).map fun d => (f d.1, d.2.map f) := by
  induction block generalizing outer with
  | nil => rfl
  | line text rest ih => exact ih outer
  | suite opener body rest bodyIh restIh =>
    rw [map, placed, placed, List.map_append, bodyIh, restIh]
  | function header rest ih => rw [map, placed, placed, List.map_cons, ih]
  | type header body rest bodyIh restIh =>
    rw [map, placed, placed, List.map_cons, List.map_append, restIh, ← List.map_cons, bodyIh]

def lines : StubBlock StubHeader → List Text
  | nil => []
  | line text rest => text :: rest.lines
  | suite opener body rest => opener :: (body.lines ++ rest.lines)
  | function header rest => header.lines.map CodeLine.text ++ rest.lines
  | type header body rest => header.lines.map CodeLine.text ++ (body.lines ++ rest.lines)

/-- Whether the block can stand at an indentation: its definitions and conditions are indented so,
their bodies deeper, and its other lines, blank ones apart, no less. -/
def Fits (width : Nat) : StubBlock StubHeader → Prop
  | nil => True
  | line text rest =>
    (isBlank text ∨ width ≤ indentWidth text ∧ definesNothing text) ∧ rest.Fits width
  | suite opener body rest =>
    (¬ isBlank opener ∧ ¬ startsWith (trim opener) "#" ∧ indentWidth opener = width ∧
      definesNothing opener) ∧ (∃ deeper, width < deeper ∧ body.Fits deeper) ∧ rest.Fits width
  | function header rest => header.kind ≠ .type ∧ header.indent = width ∧ rest.Fits width
  | type header body rest =>
    header.kind = .type ∧ header.indent = width ∧ (∃ deeper, width < deeper ∧ body.Fits deeper) ∧
      rest.Fits width

end StubBlock

namespace StubQuery

/-- The class that the scan takes for the innermost one in a body: a class around it that is still
noted behind its header, as one that is sought always is. -/
def scope (q : StubQuery) : List StubHeader → Option Text
  | [] => none
  | header :: outer => (header.noted? (q.seeks header.read? (q.scope outer))).or (q.scope outer)

/-- Whether the scan takes a definition with some classes around it for the one looked for. -/
def attributes (q : StubQuery) (definition : StubHeader × List StubHeader) : Bool :=
  q.seeks definition.1.read? (q.scope definition.2)

/-- Those of some definitions that are taken for the one looked for, as they are shown. -/
def found (q : StubQuery) (definitions : List (StubHeader × List StubHeader)) : List Text :=
  (definitions.filter q.attributes).map (·.1.signature)

theorem found_nil (q : StubQuery) : q.found [] = [] := rfl

theorem found_singleton (q : StubQuery) (h : StubHeader) (outer : List StubHeader) :
    q.found [(h, outer)] = if q.seeks h.read? (q.scope outer) then [h.signature] else [] := by
  rw [found, List.filter_cons, attributes]
  split <;> rfl

theorem found_append (q : StubQuery) (definitions more : List (StubHeader × List StubHeader)) :
    q.found (definitions ++ more) = q.found definitions ++ q.found more := by
  rw [found, found, found, List.filter_append, List.map_append]

theorem found_cons (q : StubQuery) (definition : StubHeader × List StubHeader)
    (more : List (StubHeader × List StubHeader)) :
    q.found (definition :: more) = q.found [definition] ++ q.found more :=
  q.found_append [definition] more

end StubQuery

/-- What a stub says about a symbol with some definitions, if there are any. -/
def StubInfo.ofOverloads? (found : List Text) : Option StubInfo :=
  if found.isEmpty then none
  else some ⟨some (joinWith "\n" found), found, ProtocolHint.hints (joinWith "\n" found)⟩

namespace StubScan

variable {st : StubScan}

theorem head?_classesBehind {h : StubHeader} (type : h.kind = .type) (sought : Bool)
    (classes : List (Text × Nat)) :
    (h.classesBehind sought classes).head?.map (·.1) =
      (h.noted? sought).or (classes.head?.map (·.1)) := by
  rw [StubHeader.classesBehind_of_type type]
  cases h.noted? sought <;> rfl

theorem outside_classesBehind_of_lt {h : StubHeader} {width deeper : Nat} (indent : h.indent = width)
    (lt : width < deeper) (sought : Bool) (classes : List (Text × Nat)) :
    outside deeper (h.classesBehind sought (outside width classes)) =
      h.classesBehind sought (outside width classes) := by
  have same := outside_deeper (Nat.le_of_lt lt) classes
  rw [StubHeader.classesBehind]
  split
  · cases h.noted? sought with
    | none => exact same
    | some name => exact outside_cons_of_lt (indent ▸ lt) name _
  · exact same

/-- From one scan to another some overloads have been found, and the same classes are noted that are
indented less than a width. -/
def Adds (width : Nat) (found : List Text) (st st' : StubScan) : Prop :=
  ∃ classes, st' = { st with classes := classes, overloads := st.overloads ++ found } ∧
    outside width classes = outside width st.classes

variable {width deeper : Nat} {found more : List Text} {st' st'' : StubScan}

theorem Adds.trans (first : Adds width found st st') (second : Adds width more st' st'') :
    Adds width (found ++ more) st st'' := by
  obtain ⟨classes, rfl, same⟩ := first
  obtain ⟨classes', rfl, same'⟩ := second
  exact ⟨classes', by rw [List.append_assoc], same'.trans same⟩

theorem Adds.of_deeper (le : width ≤ deeper) (adds : Adds deeper found st st') :
    Adds width found st st' := by
  obtain ⟨classes, eq, same⟩ := adds
  refine ⟨classes, eq, ?_⟩
  rw [← outside_outside le classes, same, outside_outside le]

/-- A scan between the lines of a block with some classes around it. -/
structure StandsIn (st : StubScan) (q : StubQuery) (width : Nat) (outer : List StubHeader) :
    Prop where
  target : st.target = q
  idle : st.collecting = none
  around : (outside width st.classes).head?.map (·.1) = q.scope outer

variable {q : StubQuery} {outer : List StubHeader}

theorem Adds.standsIn (adds : Adds width found st st') (stands : st.StandsIn q width outer) :
    st'.StandsIn q width outer := by
  obtain ⟨classes, rfl, same⟩ := adds
  exact ⟨stands.target, stands.idle, same ▸ stands.around⟩

theorem adds_otherLine {text : Text} (idle : st.collecting = none)
    (other : isBlank text ∨ width ≤ indentWidth text ∧ definesNothing text) :
    Adds width [] st (st.feed text) := by
  by_cases passed : isBlank text ∨ startsWith (trim text) "#"
  · rw [feed_of_passed idle passed]
    exact ⟨st.classes, by rw [List.append_nil], rfl⟩
  · obtain ⟨visible, code⟩ := not_or.mp passed
    obtain ⟨le, nothing⟩ := other.resolve_left visible
    rw [feed_of_unnamed idle visible code
      (Signature.openedName?_eq_none_of_definesNothing nothing)]
    exact ⟨_, by rw [List.append_nil], outside_outside le st.classes⟩

theorem adds_opener {text : Text} (stands : st.StandsIn q width outer) (visible : ¬ isBlank text)
    (code : ¬ startsWith (trim text) "#") (indent : indentWidth text = width)
    (nothing : definesNothing text) (lt : width < deeper) :
    Adds width [] st (st.feed text) ∧ (st.feed text).StandsIn q deeper outer := by
  obtain ⟨target, idle, around⟩ := stands
  have unnamed := Signature.openedName?_eq_none_of_definesNothing nothing
  rw [feed_of_unnamed idle visible code unnamed, indent]
  refine ⟨⟨_, by rw [List.append_nil], outside_outside (Nat.le_refl width) st.classes⟩,
    target, idle, ?_⟩
  exact (outside_deeper (Nat.le_of_lt lt) st.classes).symm ▸ around

variable {h : StubHeader}

theorem adds_header (stands : st.StandsIn q h.indent outer) :
    Adds h.indent (q.found [(h, outer)]) st ((h.lines.map CodeLine.text).foldl feed st) := by
  obtain ⟨rfl, idle, around⟩ := stands
  rw [foldl_feed_definition idle around]
  refine ⟨h.classesBehind (st.target.seeks h.read? (st.target.scope outer))
    (outside h.indent st.classes), ?_, StubHeader.outside_classesBehind _ st.classes⟩
  rw [StubQuery.found_singleton]

theorem standsIn_body (stands : st.StandsIn q h.indent outer) (type : h.kind = .type)
    (lt : h.indent < deeper) :
    ((h.lines.map CodeLine.text).foldl feed st).StandsIn q deeper (h :: outer) := by
  obtain ⟨rfl, idle, around⟩ := stands
  rw [foldl_feed_definition idle around]
  refine ⟨rfl, idle, ?_⟩
  rw [outside_classesBehind_of_lt rfl lt, head?_classesBehind type, around]
  rfl

/-- The scan of a block finds the definitions in it that are taken for the one looked for. -/
theorem adds_block (block : StubBlock StubHeader) (fits : block.Fits width)
    (stands : st.StandsIn q width outer) :
    Adds width (q.found (block.placed outer)) st (block.lines.foldl feed st) := by
  -- at the indentation of the block the same classes are noted between any two of its items
  induction block generalizing st width outer with
  | nil => exact ⟨st.classes, by rw [StubBlock.placed, q.found_nil, List.append_nil]; rfl, rfl⟩
  | line text rest ih =>
    obtain ⟨other, later⟩ := fits
    have here := adds_otherLine stands.idle other
    exact here.trans (ih later (here.standsIn stands))
  | suite opener body rest bodyIh restIh =>
    obtain ⟨⟨visible, code, indent, nothing⟩, ⟨deeper, lt, inner⟩, later⟩ := fits
    -- what is noted deeper ends here, so the block inside has the same classes around it
    obtain ⟨here, within⟩ := adds_opener stands visible code indent nothing lt
    have inside := (bodyIh inner within).of_deeper (Nat.le_of_lt lt)
    have upTo := here.trans inside
    have further := restIh later (upTo.standsIn stands)
    rw [StubBlock.placed, q.found_append, StubBlock.lines, List.foldl_cons, List.foldl_append]
    exact upTo.trans further
  | function h rest ih =>
    obtain ⟨_, rfl, later⟩ := fits
    have here := adds_header stands
    have further := ih later (here.standsIn stands)
    rw [StubBlock.placed, q.found_cons, StubBlock.lines, List.foldl_append]
    exact here.trans further
  | type h body rest bodyIh restIh =>
    obtain ⟨type, rfl, ⟨deeper, lt, inner⟩, later⟩ := fits
    have here := adds_header stands
    -- the body is scanned at its own indentation, and what it does to deeper classes is forgotten
    have inside := (bodyIh inner (standsIn_body stands type lt)).of_deeper (Nat.le_of_lt lt)
    have upTo := here.trans inside
    have further := restIh later (upTo.standsIn stands)
    rw [StubBlock.placed, q.found_cons, q.found_append, ← List.append_assoc, StubBlock.lines,
      List.foldl_append, List.foldl_append]
    exact upTo.trans further

end StubScan

namespace StubInfo

open StubScan

/-- The definitions of a file that the scan takes for the one looked for are its result. -/
theorem ofSource?_file {file : StubBlock StubHeader} {width : Nat} (fits : file.Fits width)
    {source : Text} (split : lines source = file.lines) (qualified : Text) :
    ofSource? source qualified =
      ofOverloads? ((StubQuery.ofQualified qualified).found (file.placed [])) := by
  have stands : StandsIn { target := .ofQualified qualified } (.ofQualified qualified) width [] :=
    ⟨rfl, rfl, rfl⟩
  obtain ⟨classes, run, _⟩ := adds_block file fits stands
  rw [ofSource?, split, run, List.nil_append]
  rfl

end StubInfo
end SymbolDocs
