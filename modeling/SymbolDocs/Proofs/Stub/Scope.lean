import SymbolDocs.Proofs.Stub.Block

namespace SymbolDocs

open Text

namespace StubBlock

def Known (outer : List StubHeader) (definitions : List (StubHeader × List StubHeader))
    (c : StubHeader) : Prop :=
  c ∈ outer ∨ c.kind = .type ∧ c ∈ definitions.map (·.1)

theorem Known.mono {outer : List StubHeader} {c : StubHeader}
    {definitions more : List (StubHeader × List StubHeader)} (known : Known outer definitions c)
    (sub : definitions ⊆ more) : Known outer more c :=
  known.imp_right fun ⟨isType, listed⟩ => ⟨isType, List.map_subset _ sub listed⟩

theorem known_of_enclosing {block : StubBlock StubHeader} {width : Nat} (fits : block.Fits width)
    {outer : List StubHeader} {d : StubHeader × List StubHeader} (mem : d ∈ block.placed outer)
    {c : StubHeader} (inside : c ∈ d.2) : Known outer (block.placed outer) c := by
  induction block generalizing width outer with
  | nil => exact absurd mem List.not_mem_nil
  | line text rest ih => exact ih fits.2 mem
  | suite opener body rest bodyIh restIh =>
    obtain ⟨_, ⟨deeper, _, inner⟩, later⟩ := fits
    rcases List.mem_append.mp mem with inBody | inRest
    · exact (bodyIh inner inBody).mono (List.subset_append_left _ _)
    · exact (restIh later inRest).mono (List.subset_append_right _ _)
  | function header rest ih =>
    obtain ⟨_, _, later⟩ := fits
    rcases List.mem_cons.mp mem with rfl | inRest
    · exact .inl inside
    · exact (ih later inRest).mono (List.subset_cons_self _ _)
  | type header body rest bodyIh restIh =>
    obtain ⟨isType, _, ⟨deeper, _, inner⟩, later⟩ := fits
    rcases List.mem_cons.mp mem with rfl | within
    · exact .inl inside
    have sub := List.subset_cons_self (header, outer)
      (body.placed (header :: outer) ++ rest.placed outer)
    rcases List.mem_append.mp within with inBody | inRest
    · rcases bodyIh inner inBody with around | known
      · -- the class itself is one of the definitions
        rcases List.mem_cons.mp around with rfl | around
        · exact .inr ⟨isType, List.mem_cons_self⟩
        · exact .inl around
      · exact Known.mono (.inr known) (List.Subset.trans (List.subset_append_left _ _) sub)
    · exact (restIh later inRest).mono (List.Subset.trans (List.subset_append_right _ _) sub)

end StubBlock

namespace StubQuery

/-- Whether a definition has the name looked for and stands right in the class looked for, or in
no class if none is. -/
def names (q : StubQuery) (definition : StubHeader × List StubHeader) : Bool :=
  definition.1.name == q.name && q.owner == definition.2.head?.map (·.name)

variable {q : StubQuery}

theorem scope_eq_head? {outer : List StubHeader}
    (kept : ∀ c ∈ outer, c.keepsScope ∧ c.read? = some c.name) :
    q.scope outer = outer.head?.map (·.name) := by
  cases outer with
  | nil => rfl
  | cons c outer =>
    obtain ⟨keeps, read⟩ := kept c List.mem_cons_self
    rw [scope, StubHeader.noted?, keeps, Bool.or_true, if_pos rfl, read]
    rfl

theorem attributes_eq_names {d : StubHeader × List StubHeader} (read : d.1.read? = some d.1.name)
    (kept : ∀ c ∈ d.2, c.keepsScope ∧ c.read? = some c.name) : q.attributes d = q.names d := by
  rw [attributes, seeks, scope_eq_head? kept, read, names]
  rfl

theorem found_eq_named {file : StubBlock StubHeader} {width : Nat} (fits : file.Fits width)
    (classes : ∀ d ∈ file.placed [], d.1.kind = .type →
      d.1.keepsScope ∧ d.1.name.all isClassNameChar) (q : StubQuery) :
    q.found (file.placed []) = ((file.placed []).filter q.names).map (·.1.signature) := by
  have read : ∀ d ∈ file.placed [], d.1.read? = some d.1.name := fun d mem =>
    d.1.read?_of_all fun type => (classes d mem type).2
  have kept : ∀ d ∈ file.placed [], ∀ c ∈ d.2, c.keepsScope ∧ c.read? = some c.name := by
    intro d mem c inside
    rcases StubBlock.known_of_enclosing fits mem inside with none | ⟨type, listed⟩
    · exact absurd none List.not_mem_nil
    · obtain ⟨e, mem, rfl⟩ := List.mem_map.mp listed
      exact ⟨(classes e mem type).1, read e mem⟩
  have same : (file.placed []).filter q.attributes = (file.placed []).filter q.names :=
    List.filter_congr fun d mem => attributes_eq_names (read d mem) (kept d mem)
  rw [found, same]

end StubQuery

namespace StubInfo

/-- The result for a file is each definition of the name looked for that stands right in the class
looked for, in their order and as it is to be shown, if the scan reads the names of classes whole
and no header of a class has a further line that is indented no deeper. -/
theorem ofSource?_eq_named {file : StubBlock StubHeader} {width : Nat} (fits : file.Fits width)
    (classes : ∀ d ∈ file.placed [], d.1.kind = .type →
      d.1.keepsScope ∧ d.1.name.all isClassNameChar)
    {source : Text} (split : lines source = file.lines) (qualified : Text) :
    ofSource? source qualified = ofOverloads?
        (((file.placed []).filter (StubQuery.ofQualified qualified).names).map (·.1.signature)) ∧
      ∀ d ∈ file.placed [], d.1.IsShownAs d.1.signature := by
  refine ⟨?_, fun d _ => d.1.isShownAs_signature⟩
  rw [ofSource?_file fits split, StubQuery.found_eq_named fits classes]

end StubInfo

namespace StubHeader

def derivedClass : StubHeader where
  init := []
  last := .bare "class C(Base):" (by decide +kernel)
  staysOpen := rfl
  balanced := rfl
  ends := rfl
  inside := nofun
  kind := .type
  name := "C"
  behindName := "(Base):"
  code := "class C(Base)"
  ending := ":"
  begins := by decide +kernel
  isName := by decide +kernel
  delimited := ⟨'(', "Base):", by decide, by decide⟩
  last_eq := by decide +kernel
  isEnding := .inl (by decide +kernel)
  whole := by decide +kernel
  plain := by decide +kernel
  deeper := nofun

/-- A class whose name has a character in it that is no letter. -/
def dottedClass : StubHeader where
  init := []
  last := .bare "class Col·lecció:" (by decide +kernel)
  staysOpen := rfl
  balanced := rfl
  ends := rfl
  inside := nofun
  kind := .type
  name := "Col·lecció"
  behindName := ":"
  code := "class Col·lecció"
  ending := ":"
  begins := by decide +kernel
  isName := by decide +kernel
  delimited := ⟨':', [], by decide, by decide⟩
  last_eq := by decide +kernel
  isEnding := .inl (by decide +kernel)
  whole := by decide +kernel
  plain := by decide +kernel
  deeper := nofun

def method : StubHeader where
  init := []
  last := .bare "    def f(self) -> int: ..." (by decide +kernel)
  staysOpen := rfl
  balanced := rfl
  ends := rfl
  inside := nofun
  kind := .function
  name := "f"
  behindName := "(self) -> int: ..."
  code := "    def f(self) -> int"
  ending := ": ..."
  begins := by decide +kernel
  isName := by decide +kernel
  delimited := ⟨'(', "self) -> int: ...", by decide, by decide⟩
  last_eq := by decide +kernel
  isEnding := .inr ⟨" ", by decide, by decide⟩
  whole := by decide +kernel
  plain := by decide +kernel
  deeper := nofun

def freeFunction : StubHeader where
  init := []
  last := .bare "def f() -> int: ..." (by decide +kernel)
  staysOpen := rfl
  balanced := rfl
  ends := rfl
  inside := nofun
  kind := .function
  name := "f"
  behindName := "() -> int: ..."
  code := "def f() -> int"
  ending := ": ..."
  begins := by decide +kernel
  isName := by decide +kernel
  delimited := ⟨'(', ") -> int: ...", by decide, by decide⟩
  last_eq := by decide +kernel
  isEnding := .inr ⟨" ", by decide, by decide⟩
  whole := by decide +kernel
  plain := by decide +kernel
  deeper := nofun

def methodOverLines : StubHeader where
  init := [.bare "    def f(" (by decide +kernel), .bare "        self," (by decide +kernel)]
  last := .bare "    ) -> int: ..." (by decide +kernel)
  staysOpen := rfl
  balanced := rfl
  ends := rfl
  inside := by decide +kernel
  kind := .function
  name := "f"
  behindName := "("
  code := "    ) -> int"
  ending := ": ..."
  begins := by decide +kernel
  isName := by decide +kernel
  delimited := ⟨'(', [], by decide, by decide⟩
  last_eq := by decide +kernel
  isEnding := .inr ⟨" ", by decide, by decide⟩
  whole := by decide +kernel
  plain := by decide +kernel
  deeper := by decide +kernel

def derivedClassOverLines : StubHeader where
  init := [.bare "class C(" (by decide +kernel), .bare "    Base," (by decide +kernel)]
  last := .bare "):" (by decide +kernel)
  staysOpen := rfl
  balanced := rfl
  ends := rfl
  inside := by decide +kernel
  kind := .type
  name := "C"
  behindName := "("
  code := ")"
  ending := ":"
  begins := by decide +kernel
  isName := by decide +kernel
  delimited := ⟨'(', [], by decide, by decide⟩
  last_eq := by decide +kernel
  isEnding := .inl (by decide +kernel)
  whole := by decide +kernel
  plain := by decide +kernel
  deeper := by decide +kernel

end StubHeader

namespace StubInfo

/-- Two overloads in a class, and a function of the same name that is defined on a condition. -/
def overloadedFile : StubBlock StubHeader :=
  .type .derivedClass
    (.line "    @overload" (.function .method
      (.line "    @overload" (.function .methodOverLines .nil))))
    (.suite "if True:" (.function .method .nil) .nil)

theorem ofSource?_eq_named_overloads :
    ofSource? (joinWith "\n" ["class C(Base):", "    @overload", "    def f(self) -> int: ...",
      "    @overload", "    def f(", "        self,", "    ) -> int: ...", "if True:",
      "    def f(self) -> int: ..."]) "m.C.f" =
      ofOverloads? ["def f(self) -> int", "def f(\n    self,\n) -> int"] := by
  have body : (StubBlock.line "    @overload" (.function .method
      (.line "    @overload" (.function .methodOverLines .nil)))).Fits 4 :=
    ⟨.inr (by decide), by decide, by decide, .inr (by decide), by decide, by decide, trivial⟩
  have free : (StubBlock.function StubHeader.method .nil).Fits 4 :=
    ⟨by decide, by decide, trivial⟩
  have fits : overloadedFile.Fits 0 :=
    ⟨by decide, by decide, ⟨4, by decide, body⟩,
      by decide, ⟨4, by decide, free⟩, trivial⟩
  have classes : ∀ d ∈ overloadedFile.placed [], d.1.kind = .type →
      d.1.keepsScope ∧ d.1.name.all isClassNameChar := by
    decide +kernel
  rw [(ofSource?_eq_named fits classes (by decide +kernel) _).1]
  decide +kernel

/-- The name of a class is read up to its first character that is no letter, digit or underscore. -/
theorem not_ofSource?_eq_named : ¬ ∀ (file : StubBlock StubHeader) (width : Nat)
    (source qualified : Text), file.Fits width →
    (∀ d ∈ file.placed [], d.1.kind = .type → d.1.init = []) → lines source = file.lines →
    ofSource? source qualified = ofOverloads?
      (((file.placed []).filter (StubQuery.ofQualified qualified).names).map (·.1.signature)) := by
  intro named
  have fits : (StubBlock.type StubHeader.dottedClass (.function .method .nil) .nil).Fits 0 :=
    ⟨by decide, by decide, ⟨4, by decide, by decide, by decide, trivial⟩, trivial⟩
  have oneLine : ∀ d ∈ (StubBlock.type StubHeader.dottedClass
      (.function .method .nil) .nil).placed [], d.1.kind = .type → d.1.init = [] := by
    intro d mem _
    rcases List.mem_cons.mp mem with rfl | mem
    · rfl
    · rw [List.mem_singleton.mp mem]
      rfl
  have found := named _ 0 "class Col·lecció:\n    def f(self) -> int: ...\n" "m.Col·lecció.f" fits
    oneLine (by decide +kernel)
  have nothing : ofSource? "class Col·lecció:\n    def f(self) -> int: ...\n" "m.Col·lecció.f" =
      none := by decide +kernel
  rw [nothing] at found
  exact absurd found (by decide +kernel)

end StubInfo
end SymbolDocs
