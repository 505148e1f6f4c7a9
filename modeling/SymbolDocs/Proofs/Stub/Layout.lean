import SymbolDocs.Proofs.Stub.Scope

namespace SymbolDocs

open Text

/-- A header in two layouts, which may break its lines differently. -/
structure RelaidHeader where
  before : StubHeader
  after : StubHeader
  sameKind : after.kind = before.kind
  sameName : after.name = before.name
  sameIndent : after.indent = before.indent

namespace RelaidHeader

theorem read?_after (h : RelaidHeader) : h.after.read? = h.before.read? := by
  rw [StubHeader.read?, StubHeader.read?, h.sameKind, h.sameName]

end RelaidHeader

namespace StubBlock

theorem Fits.relaid {file : StubBlock RelaidHeader} {width : Nat}
    (fits : (file.map RelaidHeader.before).Fits width) :
    (file.map RelaidHeader.after).Fits width := by
  induction file generalizing width with
  | nil => trivial
  | line text rest ih => exact ⟨fits.1, ih fits.2⟩
  | suite opener body rest bodyIh restIh =>
    obtain ⟨opens, ⟨deeper, lt, inner⟩, later⟩ := fits
    exact ⟨opens, ⟨deeper, lt, bodyIh inner⟩, restIh later⟩
  | function h rest ih =>
    obtain ⟨kind, indent, later⟩ := fits
    exact ⟨h.sameKind ▸ kind, h.sameIndent.trans indent, ih later⟩
  | type h body rest bodyIh restIh =>
    obtain ⟨kind, indent, ⟨deeper, lt, inner⟩, later⟩ := fits
    exact ⟨h.sameKind.trans kind, h.sameIndent.trans indent, ⟨deeper, lt, bodyIh inner⟩,
      restIh later⟩

end StubBlock

namespace StubQuery

variable {q : StubQuery}

/-- If no class has a further line at its own indentation in one layout only, the same classes are
noted. -/
theorem scope_relaid {outer : List RelaidHeader}
    (kept : ∀ c ∈ outer, c.after.keepsScope = c.before.keepsScope) :
    q.scope (outer.map RelaidHeader.after) = q.scope (outer.map RelaidHeader.before) := by
  induction outer with
  | nil => rfl
  | cons c outer ih =>
    have around := ih fun d mem => kept d (List.mem_cons_of_mem c mem)
    rw [List.map_cons, List.map_cons, scope, scope, around, StubHeader.noted?, StubHeader.noted?,
      c.read?_after, kept c List.mem_cons_self]

/-- The definitions of a file that are taken for the one looked for in a layout. -/
def attributed (q : StubQuery) (layout : RelaidHeader → StubHeader)
    (file : StubBlock RelaidHeader) : List (RelaidHeader × List RelaidHeader) :=
  (file.placed []).filter fun d => q.attributes (layout d.1, d.2.map layout)

theorem found_map (layout : RelaidHeader → StubHeader) (file : StubBlock RelaidHeader) :
    q.found ((file.map layout).placed []) =
      (q.attributed layout file).map fun d => (layout d.1).signature := by
  rw [found, ← List.map_nil (f := layout), StubBlock.placed_map, List.filter_map, List.map_map]
  rfl

/-- Each definition of the name looked for is in the class looked for in both layouts or in
neither, as far as classes are noted. -/
def IsSteady (q : StubQuery) (file : StubBlock RelaidHeader) : Prop :=
  ∀ d ∈ file.placed [], d.1.before.read? = some q.name →
    (q.owner = q.scope (d.2.map RelaidHeader.before) ↔
      q.owner = q.scope (d.2.map RelaidHeader.after))

theorem isSteady_of_keepsScope {file : StubBlock RelaidHeader}
    (kept : ∀ d ∈ file.placed [], ∀ c ∈ d.2, c.after.keepsScope = c.before.keepsScope) :
    q.IsSteady file := by
  intro d mem _
  rw [scope_relaid (kept d mem)]

theorem attributed_relaid {file : StubBlock RelaidHeader} (steady : q.IsSteady file) :
    q.attributed RelaidHeader.after file = q.attributed RelaidHeader.before file := by
  refine List.filter_congr fun d mem => ?_
  rw [Bool.eq_iff_iff, attributes, attributes, seeks, seeks, d.1.read?_after, Bool.and_eq_true,
    Bool.and_eq_true, beq_iff_eq, beq_iff_eq, beq_iff_eq]
  exact and_congr_right fun named => (steady d mem named).symm

end StubQuery

namespace StubInfo

/-- What a layout of a file gives: the definitions that are attributed to the target in it. -/
theorem ofSource?_map (layout : RelaidHeader → StubHeader) {file : StubBlock RelaidHeader}
    {width : Nat} (fits : (file.map layout).Fits width) {source : Text}
    (split : lines source = (file.map layout).lines) (qualified : Text) :
    ofSource? source qualified = ofOverloads?
      (((StubQuery.ofQualified qualified).attributed layout file).map
        fun d => (layout d.1).signature) := by
  rw [ofSource?_file fits split, StubQuery.found_map]

/-- Headers of functions may be broken at will, and those of classes so that a further line stands at
the class's own indentation in both layouts or in neither. -/
theorem ofSource?_of_keepsScope {file : StubBlock RelaidHeader} {width : Nat}
    (fits : (file.map RelaidHeader.before).Fits width)
    (kept : ∀ d ∈ file.placed [], ∀ c ∈ d.2, c.after.keepsScope = c.before.keepsScope)
    {source relaid : Text} (split : lines source = (file.map RelaidHeader.before).lines)
    (splitRelaid : lines relaid = (file.map RelaidHeader.after).lines) (qualified : Text) :
    ofSource? source qualified = ofOverloads? (((StubQuery.ofQualified qualified).attributed
        RelaidHeader.before file).map fun d => d.1.before.signature) ∧
      ofSource? relaid qualified = ofOverloads? (((StubQuery.ofQualified qualified).attributed
        RelaidHeader.before file).map fun d => d.1.after.signature) := by
  have steady := StubQuery.isSteady_of_keepsScope (q := .ofQualified qualified) kept
  refine ⟨ofSource?_map RelaidHeader.before fits split qualified, ?_⟩
  rw [ofSource?_map RelaidHeader.after fits.relaid splitRelaid, StubQuery.attributed_relaid steady]

/-- Both layouts of a file give the same definitions, in the same order, each in its layout. -/
theorem ofSource?_relaid {file : StubBlock RelaidHeader} {width : Nat}
    (fits : (file.map RelaidHeader.before).Fits width) {qualified : Text}
    (steady : (StubQuery.ofQualified qualified).IsSteady file) {source relaid : Text}
    (split : lines source = (file.map RelaidHeader.before).lines)
    (splitRelaid : lines relaid = (file.map RelaidHeader.after).lines) :
    ofSource? source qualified = ofOverloads? (((StubQuery.ofQualified qualified).attributed
        RelaidHeader.before file).map fun d => d.1.before.signature) ∧
      ofSource? relaid qualified = ofOverloads? (((StubQuery.ofQualified qualified).attributed
        RelaidHeader.before file).map fun d => d.1.after.signature) := by
  refine ⟨ofSource?_map RelaidHeader.before fits split qualified, ?_⟩
  rw [ofSource?_map RelaidHeader.after fits.relaid splitRelaid, StubQuery.attributed_relaid steady]

def relaidMethod : StubBlock RelaidHeader :=
  .type ⟨.derivedClass, .derivedClass, rfl, rfl, rfl⟩
    (.function ⟨.method, .methodOverLines, by decide, by decide, by decide⟩ .nil) .nil

theorem ofSource?_relaid_method :
    ofSource? "class C(Base):\n    def f(self) -> int: ...\n" "m.C.f" =
      ofOverloads? ["def f(self) -> int"] ∧
    ofSource? "class C(Base):\n    def f(\n        self,\n    ) -> int: ...\n" "m.C.f" =
      ofOverloads? ["def f(\n    self,\n) -> int"] := by
  have fits : (relaidMethod.map RelaidHeader.before).Fits 0 :=
    ⟨by decide, by decide, ⟨4, by decide, by decide, by decide, trivial⟩, trivial⟩
  have steady : (StubQuery.ofQualified "m.C.f").IsSteady relaidMethod :=
    StubQuery.isSteady_of_keepsScope (by decide +kernel)
  have split : lines "class C(Base):\n    def f(self) -> int: ...\n" =
      (relaidMethod.map RelaidHeader.before).lines := by decide +kernel
  have splitRelaid : lines "class C(Base):\n    def f(\n        self,\n    ) -> int: ...\n" =
      (relaidMethod.map RelaidHeader.after).lines := by decide +kernel
  obtain ⟨before, after⟩ := ofSource?_relaid fits steady split splitRelaid
  rw [before, after]
  exact ⟨by decide +kernel, by decide +kernel⟩

def relaidClass : StubBlock RelaidHeader :=
  .type ⟨.derivedClass, .derivedClassOverLines, by decide, by decide, by decide⟩
    (.function ⟨.method, .method, rfl, rfl, rfl⟩ .nil) .nil

/-- The closing line of a header that is not sought ends the class that it begins. -/
theorem not_ofSource?_relaid : ¬ ∀ (file : StubBlock RelaidHeader) (width : Nat)
    (source relaid qualified : Text), (file.map RelaidHeader.before).Fits width →
    lines source = (file.map RelaidHeader.before).lines →
    lines relaid = (file.map RelaidHeader.after).lines →
    ∃ found : List (RelaidHeader × List RelaidHeader), found.Sublist (file.placed []) ∧
      ofSource? source qualified = ofOverloads? (found.map fun d => d.1.before.signature) ∧
      ofSource? relaid qualified = ofOverloads? (found.map fun d => d.1.after.signature) := by
  intro invariant
  have fits : (relaidClass.map RelaidHeader.before).Fits 0 :=
    ⟨by decide, by decide, ⟨4, by decide, by decide, by decide, trivial⟩, trivial⟩
  obtain ⟨found, _, before, after⟩ := invariant relaidClass 0
    "class C(Base):\n    def f(self) -> int: ...\n"
    "class C(\n    Base,\n):\n    def f(self) -> int: ...\n" "m.C.f" fits
    (by decide +kernel) (by decide +kernel)
  have nothing : ofSource? "class C(\n    Base,\n):\n    def f(self) -> int: ...\n" "m.C.f" =
      none := by decide +kernel
  have something : ofSource? "class C(Base):\n    def f(self) -> int: ...\n" "m.C.f" ≠ none := by
    decide +kernel
  cases found with
  | nil => exact something before
  | cons d found =>
    rw [nothing] at after
    exact nomatch after

end StubInfo
end SymbolDocs
