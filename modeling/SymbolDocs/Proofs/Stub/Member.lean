import SymbolDocs.Proofs.Stub.Nearest
import SymbolDocs.Proofs.Stub.Scope
import SymbolDocs.Proofs.Text.Utf8

namespace SymbolDocs

open Text

/-- The last part of a dotted name. -/
def lastSegment? (module : Text) : Option Text := (fields (· == '.') module).getLast?

namespace StubQuery

/-- What is looked for in a module is inside a class of the module's own name if that name looks
like one of a type. -/
theorem ofQualified_append {name : Text} (ne : name ≠ []) (undotted : '.' ∉ name) (module : Text) :
    ofQualified (module ++ '.' :: name) =
      ⟨(lastSegment? module).filter looksLikeType, name⟩ := by
  have alone : fields (· == '.') name = [name] :=
    fields_of_none ne fun c mem dot => undotted (beq_iff_eq.mp dot ▸ mem)
  have parts : (splitOn '.' (module ++ '.' :: name)).filter (!·.isEmpty) =
      fields (· == '.') module ++ [name] :=
    (fields_append_cons (p := (· == '.')) rfl module name).trans (by rw [alone])
  rw [ofQualified, parts, lastSegment?, List.reverse_append, List.reverse_singleton,
    List.singleton_append]
  rcases List.eq_nil_or_concat (fields (· == '.') module) with none | ⟨before, last, eq⟩
  · rw [none]
    rfl
  · rw [eq, List.concat_eq_append, List.reverse_append, List.getLast?_concat]
    rfl

end StubQuery

/-- Outside all classes, a file has this definition and no other of its name. -/
def StubBlock.DefinesOnce (file : StubBlock StubHeader) (h : StubHeader) : Prop :=
  ∃ before after, file.placed [] = before ++ (h, []) :: after ∧
    ∀ d ∈ before ++ after, d.2 = [] → d.1.name ≠ h.name

theorem StubBlock.DefinesOnce.filter_names {file : StubBlock StubHeader} {h : StubHeader}
    (once : file.DefinesOnce h) :
    (file.placed []).filter (StubQuery.names ⟨none, h.name⟩) = [(h, [])] := by
  obtain ⟨before, after, placed, only⟩ := once
  have other : ∀ d ∈ before ++ after, ¬ StubQuery.names ⟨none, h.name⟩ d := by
    intro d mem named
    rw [StubQuery.names, Bool.and_eq_true, beq_iff_eq, beq_iff_eq, eq_comm (a := none),
      Option.map_eq_none_iff, List.head?_eq_none_iff] at named
    exact only d mem named.2 named.1
  have here : StubQuery.names ⟨none, h.name⟩ (h, []) := by simp [StubQuery.names]
  rw [placed, List.filter_append, List.filter_cons_of_pos here,
    List.filter_eq_nil_iff.mpr fun d mem => other d (List.mem_append_left after mem),
    List.filter_eq_nil_iff.mpr fun d mem => other d (List.mem_append_right before mem),
    List.nil_append]

theorem StubHeader.keepsScope_of_oneLine {h : StubHeader} (oneLine : h.init = []) :
    h.keepsScope := by
  rw [keepsScope, CommentedHeader.lines, oneLine]
  rfl

namespace StubIndex

open StubInfo

variable {index : StubIndex} {module source : Text} {stub : StubFile}

theorem symbol?_of_get? (indexed : index.get? module = some stub)
    (decoded : Utf8.decode stub.bytes = .ok source) (qualified : Text) :
    index.symbol? module qualified = ofSource? source qualified := by
  rw [symbol?, find?_eq_or, indexed, Option.some_or]
  simp only [ofBytes?, decoded, Option.bind_eq_bind, Option.bind_some]

/-- What a file of definitions on one line each has at its top level is found as a member of its
module unless the module's own name looks like one of a type: what is found then is right inside
the class of that name. -/
theorem symbol?_member (indexed : index.get? module = some stub)
    (decoded : Utf8.decode stub.bytes = .ok source) {file : StubBlock StubHeader} {width : Nat}
    (fits : file.Fits width) (split : lines source = file.lines)
    (oneLine : ∀ d ∈ file.placed [], d.1.init = [])
    (letters : ∀ d ∈ file.placed [], d.1.kind = .type → d.1.name.all isClassNameChar)
    {h : StubHeader} (undotted : '.' ∉ h.name) (once : file.DefinesOnce h) :
    h.IsShownAs h.signature ∧
    ((∀ last, lastSegment? module = some last → ¬ looksLikeType last) →
      index.symbol? module (module ++ '.' :: h.name) = ofOverloads? [h.signature]) ∧
    ∀ last, lastSegment? module = some last → looksLikeType last →
      index.symbol? module (module ++ '.' :: h.name) = ofOverloads?
        (((file.placed []).filter fun d =>
          d.1.name == h.name && some last == d.2.head?.map (·.name)).map (·.1.signature)) := by
  have classes : ∀ d ∈ file.placed [], d.1.kind = .type →
      d.1.keepsScope ∧ d.1.name.all isClassNameChar := fun d mem type =>
    ⟨StubHeader.keepsScope_of_oneLine (oneLine d mem), letters d mem type⟩
  have found : index.symbol? module (module ++ '.' :: h.name) = ofOverloads?
      (((file.placed []).filter (StubQuery.names
        ⟨(lastSegment? module).filter looksLikeType, h.name⟩)).map (·.1.signature)) := by
    rw [symbol?_of_get? indexed decoded, ofSource?_file fits split,
      StubQuery.found_eq_named fits classes, StubQuery.ofQualified_append h.isName.1.1 undotted]
  refine ⟨h.isShownAs_signature, fun plain => ?_, fun last ends type => ?_⟩
  · have noOwner : (lastSegment? module).filter looksLikeType = none :=
      Option.filter_eq_none_iff.mpr plain
    rw [found, noOwner, once.filter_names]
    rfl
  · rw [found, ends, Option.filter_some, if_pos type]
    rfl

/-- A class with a method, and a function of the same name behind it. -/
def methodAndFunction : StubBlock StubHeader :=
  .type .derivedClass (.function .method .nil) (.function .freeFunction .nil)

def methodAndFunctionSource : Text :=
  "class C(Base):\n    def f(self) -> int: ...\ndef f() -> int: ...\n"

/-- The same file as two modules, one of which is named like the class in it. -/
def twoModules : StubIndex :=
  ⟨[⟨"m", ["m.pyi"], Utf8.encode methodAndFunctionSource⟩,
    ⟨"C", ["C.pyi"], Utf8.encode methodAndFunctionSource⟩]⟩

theorem symbol?_member_twoModules :
    twoModules.symbol? "m" "m.f" = ofOverloads? ["def f() -> int"] ∧
    twoModules.symbol? "C" "C.f" = ofOverloads? ["def f(self) -> int"] := by
  have fits : methodAndFunction.Fits 0 :=
    ⟨by decide, by decide, ⟨4, by decide, by decide, by decide, trivial⟩,
      by decide, by decide, trivial⟩
  have split : lines methodAndFunctionSource = methodAndFunction.lines := by decide +kernel
  have oneLine : ∀ d ∈ methodAndFunction.placed [], d.1.init = [] := by
    intro d mem
    rcases List.mem_cons.mp mem with rfl | mem
    · rfl
    rcases List.mem_cons.mp mem with rfl | mem
    · rfl
    · rw [List.mem_singleton.mp mem]
      rfl
  have letters : ∀ d ∈ methodAndFunction.placed [], d.1.kind = .type →
      d.1.name.all isClassNameChar := by decide +kernel
  have once : methodAndFunction.DefinesOnce .freeFunction :=
    ⟨[(.derivedClass, []), (.method, [.derivedClass])], [], rfl, by decide +kernel⟩
  have undotted : '.' ∉ StubHeader.freeFunction.name := by decide
  have plain : twoModules.get? "m" =
      some ⟨"m", ["m.pyi"], Utf8.encode methodAndFunctionSource⟩ := rfl
  have capital : twoModules.get? "C" =
      some ⟨"C", ["C.pyi"], Utf8.encode methodAndFunctionSource⟩ := rfl
  have decoded := Utf8.decode_encode methodAndFunctionSource
  obtain ⟨-, free, -⟩ := symbol?_member plain decoded fits split oneLine letters undotted once
  obtain ⟨-, -, inside⟩ := symbol?_member capital decoded fits split oneLine letters undotted once
  constructor
  · refine (free ?_).trans (by decide +kernel)
    intro last ends
    cases ends
    decide +kernel
  · exact (inside "C" (by decide) (by decide +kernel)).trans (by decide +kernel)

/-- A module's capitalised name is taken for the class that its functions are in. -/
theorem not_symbol?_member : ¬ ∀ (index : StubIndex) (module source : Text) (stub : StubFile)
    (file : StubBlock StubHeader) (width : Nat) (h : StubHeader),
    index.get? module = some stub → Utf8.decode stub.bytes = .ok source → file.Fits width →
    lines source = file.lines → (∀ d ∈ file.placed [], d.1.init = []) → h.kind ≠ .type →
    '.' ∉ h.name → file.DefinesOnce h →
    index.symbol? module (module ++ '.' :: h.name) = ofOverloads? [h.signature] := by
  intro always
  have oneLine : ∀ d ∈ (StubBlock.function StubHeader.freeFunction .nil).placed [],
      d.1.init = [] := by
    intro d mem
    rw [List.mem_singleton.mp mem]
    rfl
  have found := always ⟨[⟨"Foo", ["a", "Foo.pyi"], Utf8.encode "def f() -> int: ...\n"⟩]⟩ "Foo"
    "def f() -> int: ...\n" _ (.function .freeFunction .nil) 0 .freeFunction rfl
    (Utf8.decode_encode _) ⟨by decide, by decide, trivial⟩ (by decide +kernel) oneLine (by decide)
    (by decide) ⟨[], [], rfl, by simp⟩
  exact absurd found (by decide +kernel)

end StubIndex
end SymbolDocs
