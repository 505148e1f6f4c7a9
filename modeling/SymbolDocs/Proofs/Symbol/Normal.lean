import SymbolDocs.Proofs.Text.Words
import SymbolDocs.Symbol.Basic

namespace SymbolDocs

open Text

theorem documentedName_of_flat {name : Text} (flat : '.' ∉ name) :
    documentedName name = if isDunder name then methodsOwner ++ '.' :: name else name := by
  rw [documentedName, cutLast?_eq_none_iff.mpr flat]
  rfl

theorem not_isDunder_of_openDot {path leaf : Text} (isOpen : path = [] ∨ leaf = []) :
    ¬ isDunder (path ++ '.' :: leaf) := by
  intro dunder
  obtain ⟨⟨-, starts⟩, ends⟩ : (4 < (path ++ '.' :: leaf).byteLength ∧
      (path ++ '.' :: leaf).startsWith "__") ∧ (path ++ '.' :: leaf).endsWith "__" := by
    simpa [isDunder] using dunder
  rcases isOpen with rfl | rfl
  · obtain ⟨rest, eq⟩ := startsWith_iff_prefix.mp starts
    exact absurd (List.cons.inj eq).1 (by decide)
  · obtain ⟨lead, eq⟩ := endsWith_iff_suffix.mp ends
    have last := congrArg List.getLast? eq
    simp at last

namespace RawSymbol

/-- The qualified name, or else the name. -/
def statedName (raw : RawSymbol) : Text :=
  (raw.qualifiedName.bind nonBlank?).getD (trim raw.name)

variable {raw : RawSymbol}

theorem toKey_of_namesBuiltins {module : Text} (given : raw.module.bind nonBlank? = some module)
    (builtin : namesBuiltins module) :
    raw.toKey = ⟨builtinsModule, builtinsModule, trim raw.name, documentedName raw.statedName,
      true, raw.version.bind nonBlank?⟩ := by
  simp [toKey, given, builtin, statedName]

theorem toKey_of_module {module : Text} (given : raw.module.bind nonBlank? = some module)
    (other : ¬ namesBuiltins module) :
    raw.toKey = ⟨firstPart '.' module, module, trim raw.name, raw.statedName,
      raw.isStdlib || firstPart '.' module == builtinsModule, raw.version.bind nonBlank?⟩ := by
  simp [toKey, given, other, statedName]

theorem toKey_of_path {path leaf : Text} (given : raw.module.bind nonBlank? = none)
    (dotted : trim raw.name = path ++ '.' :: leaf) (flat : '.' ∉ leaf) (ne : path ≠ [])
    (ne' : leaf ≠ []) :
    raw.toKey = ⟨firstPart '.' path, path, leaf,
      if raw.statedName == trim raw.name then leaf else raw.statedName,
      raw.isStdlib || firstPart '.' path == builtinsModule, raw.version.bind nonBlank?⟩ := by
  obtain ⟨c, cs, rfl⟩ := List.exists_cons_of_ne_nil ne
  obtain ⟨d, ds, rfl⟩ := List.exists_cons_of_ne_nil ne'
  have cut : cutLast? '.' (trim raw.name) = some (c :: cs, d :: ds) :=
    dotted ▸ cutLast?_append flat (c :: cs)
  simp [toKey, given, cut, statedName]

/-- A symbol without a module whose name has nothing on one side of its last dot, as `foo.` or
`.foo`. -/
def HasOpenDot (raw : RawSymbol) : Prop :=
  raw.module.bind nonBlank? = none ∧ ∃ path leaf, trim raw.name = path ++ '.' :: leaf ∧
    '.' ∉ leaf ∧ (path = [] ∨ leaf = [])

theorem HasOpenDot.not_isDunder (h : raw.HasOpenDot) : ¬ isDunder (trim raw.name) := by
  obtain ⟨-, path, leaf, dotted, -, isOpen⟩ := h
  exact dotted ▸ not_isDunder_of_openDot isOpen

theorem HasOpenDot.mem (h : raw.HasOpenDot) : '.' ∈ trim raw.name := by
  obtain ⟨-, path, leaf, dotted, -⟩ := h
  rw [dotted]
  simp

theorem HasOpenDot.of_cutLast? (h : raw.HasOpenDot) {path leaf : Text}
    (cut : cutLast? '.' (trim raw.name) = some (path, leaf)) : path = [] ∨ leaf = [] := by
  obtain ⟨-, path', leaf', dotted, flat, isOpen⟩ := h
  rw [dotted, cutLast?_append flat] at cut
  cases cut
  exact isOpen

theorem toKey_of_bare (given : raw.module.bind nonBlank? = none)
    (bare : '.' ∉ trim raw.name ∨ raw.HasOpenDot) :
    raw.toKey = if isDunder (trim raw.name) then
        ⟨builtinsModule, builtinsModule, trim raw.name, methodsOwner ++ '.' :: trim raw.name, true,
          raw.version.bind nonBlank?⟩
      else ⟨trim raw.name, trim raw.name, trim raw.name, raw.statedName,
        raw.isStdlib || trim raw.name == builtinsModule, raw.version.bind nonBlank?⟩ := by
  rw [toKey, given]
  dsimp only
  split
  · next c path d leaf cut =>
    rcases bare with flat | isOpen
    · cases (cutLast?_eq_none_iff.mpr flat).symm.trans cut
    · rcases isOpen.of_cutLast? cut with empty | empty <;> cases empty
  · by_cases dunder : isDunder (trim raw.name)
    · simp [dunder]
    · simp [dunder, statedName]

theorem firstPart_builtinsModule : firstPart '.' builtinsModule = builtinsModule := by decide

/-- The package of a key is the first part of its module, unless the name of the symbol is left open
at a dot. -/
theorem package_toKey_iff (raw : RawSymbol) :
    raw.toKey.package = firstPart '.' raw.toKey.module ↔ ¬ raw.HasOpenDot := by
  cases given : raw.module.bind nonBlank? with
  | some module =>
    have closed : ¬ raw.HasOpenDot := fun here => by cases given.symm.trans here.1
    refine iff_of_true ?_ closed
    by_cases builtin : namesBuiltins module
    · rw [toKey_of_namesBuiltins given builtin, firstPart_builtinsModule]
    · rw [toKey_of_module given builtin]
  | none =>
    by_cases isOpen : raw.HasOpenDot
    · refine iff_of_false ?_ (not_not.mpr isOpen)
      rw [toKey_of_bare given (.inr isOpen), if_neg isOpen.not_isDunder, eq_comm,
        firstPart_eq_self_iff, not_not]
      exact isOpen.mem
    · refine iff_of_true ?_ isOpen
      cases cut : cutLast? '.' (trim raw.name) with
      | none =>
        have flat : '.' ∉ trim raw.name := cutLast?_eq_none_iff.mp cut
        rw [toKey_of_bare given (.inl flat)]
        split
        · exact firstPart_builtinsModule.symm
        · exact (firstPart_eq_self_iff.mpr flat).symm
      | some parts =>
        obtain ⟨path, leaf⟩ := parts
        obtain ⟨dotted, flat⟩ := cutLast?_eq_some_iff.mp cut
        have filled : ¬ (path = [] ∨ leaf = []) := fun empty =>
          isOpen ⟨given, path, leaf, dotted, flat, empty⟩
        rw [not_or] at filled
        rw [toKey_of_path given dotted flat filled.1 filled.2]

/-- A name that is still being written. -/
theorem not_package_toKey_unfinished :
    ¬ ∀ raw : RawSymbol, raw.toKey.package = firstPart '.' raw.toKey.module := by
  intro all
  exact absurd (all { name := "foo." }) (by decide)

theorem isWord_append_dot {module leaf : Text} (word : IsWord module) (word' : IsWord leaf) :
    IsWord (module ++ '.' :: leaf) := by
  refine ⟨by simp, fun c mem => ?_⟩
  rcases List.mem_append.mp mem with first | mem
  · exact word.2 c first
  · rcases List.mem_cons.mp mem with rfl | last
    · decide
    · exact word'.2 c last

section Spellings

variable {module leaf : Text} (word : IsWord module) (word' : IsWord leaf) (flat : '.' ∉ leaf)
  (isStdlib : Bool) (version : Option Text)
include word word'

include flat in
theorem toKey_dotted : toKey { name := module ++ '.' :: leaf, isStdlib, version } =
    ⟨firstPart '.' module, module, leaf, leaf,
      isStdlib || firstPart '.' module == builtinsModule, version.bind nonBlank?⟩ := by
  have dotted := trim_eq_self_of_isWord (isWord_append_dot word word')
  rw [toKey_of_path rfl dotted flat word.1 word'.1]
  simp [statedName]

theorem toKey_below (other : ¬ namesBuiltins module) :
    toKey { name := leaf, module := some module, isStdlib, version } =
      ⟨firstPart '.' module, module, leaf, leaf,
        isStdlib || firstPart '.' module == builtinsModule, version.bind nonBlank?⟩ := by
  have given : (some module).bind nonBlank? = some module := nonBlank?_of_isWord word
  rw [toKey_of_module given other]
  simp [statedName, trim_eq_self_of_isWord word']

theorem toKey_belowBuiltins (builtin : namesBuiltins module) :
    toKey { name := leaf, module := some module, isStdlib, version } =
      ⟨builtinsModule, builtinsModule, leaf, documentedName leaf, true,
        version.bind nonBlank?⟩ := by
  have given : (some module).bind nonBlank? = some module := nonBlank?_of_isWord word
  rw [toKey_of_namesBuiltins given builtin]
  simp [statedName, trim_eq_self_of_isWord word']

include flat in
/-- A symbol that is named by its path and one that is named below its module have the same key,
except in the built-in namespace: there the module must go by its usual name, and the symbol be no
special method. -/
theorem toKey_dotted_eq_iff :
    toKey { name := module ++ '.' :: leaf, isStdlib, version } =
        toKey { name := leaf, module := some module, isStdlib, version } ↔
      (namesBuiltins module → module = builtinsModule ∧ ¬ isDunder leaf) := by
  rw [toKey_dotted word word' flat]
  by_cases builtin : namesBuiltins module
  · rw [toKey_belowBuiltins word word' isStdlib version builtin, documentedName_of_flat flat]
    constructor
    · intro same _
      have module_eq : module = builtinsModule := congrArg SymbolKey.module same
      refine ⟨module_eq, fun dunder => ?_⟩
      have name : leaf = if isDunder leaf then methodsOwner ++ '.' :: leaf else leaf :=
        congrArg SymbolKey.qualifiedName same
      rw [if_pos dunder] at name
      have size := congrArg List.length name
      rw [List.length_append, List.length_cons] at size
      omega
    · intro usual
      obtain ⟨rfl, plain⟩ := usual builtin
      rw [if_neg plain, firstPart_builtinsModule, beq_self_eq_true, Bool.or_true]
  · rw [toKey_below word word' isStdlib version builtin]
    exact iff_of_true rfl fun here => absurd here builtin

end Spellings

/-- A special method of a class, outside of the built-in namespace. -/
theorem toKey_dotted_eq_method :
    IsWord "os.PathLike" ∧ IsWord "__fspath__" ∧ '.' ∉ "__fspath__".toList ∧
    toKey { name := "os.PathLike" ++ '.' :: "__fspath__", isStdlib := true } =
      toKey { name := "__fspath__", module := some "os.PathLike", isStdlib := true } := by
  have word : IsWord "os.PathLike" := by decide
  have word' : IsWord "__fspath__" := by decide
  have flat : '.' ∉ "__fspath__".toList := by decide
  exact ⟨word, word', flat, (toKey_dotted_eq_iff word word' flat true none).mpr (by decide)⟩

/-- The older name of the built-in namespace. -/
theorem not_toKey_dotted_eq_olderBuiltins : ¬ ∀ (module leaf : Text) (isStdlib : Bool)
    (version : Option Text), (∀ part ∈ splitOn '.' module, IsWord part) → IsWord leaf → '.' ∉ leaf →
    toKey { name := module ++ '.' :: leaf, isStdlib, version } =
      toKey { name := leaf, module := some module, isStdlib, version } := by
  intro all
  exact absurd (all "__builtin__" "len" false none (by decide) (by decide) (by decide)) (by decide)

example : (toKey { name := "builtins.__eq__" }).qualifiedName = "__eq__" ∧
    (toKey { name := "__eq__", module := some "builtins" }).qualifiedName = "object.__eq__" := by
  decide

end RawSymbol
end SymbolDocs
