import SymbolDocs.Proofs.Stub.Tree

namespace SymbolDocs

open Text

namespace FileTree

/-- A tree has a stub for a module. -/
def Provides (tree : FileTree) (module : Text) : Prop :=
  ∃ path bytes, tree.Reaches path bytes ∧ (IsPackageStub path module ∨ IsModuleStub path module)

/-- The stub of a tree for a module: that of the package, and where the tree has none, that of the
plain module. -/
def IsChosen (tree : FileTree) (stub : StubFile) : Prop :=
  tree.Reaches stub.path stub.bytes ∧ (IsPackageStub stub.path stub.module ∨
    IsModuleStub stub.path stub.module ∧
      ∀ path bytes, IsPackageStub path stub.module → ¬ tree.Reaches path bytes)

theorem mem_stubFiles_nil {tree : FileTree} (sorted : tree.IsSorted) {stub : StubFile} :
    stub ∈ stubFiles [] tree ↔ tree.Reaches stub.path stub.bytes ∧
      (IsPackageStub stub.path stub.module ∨ IsModuleStub stub.path stub.module) := by
  rw [mem_stubFiles sorted, moduleOfPath?_eq_some_iff]
  constructor
  · rintro ⟨below, eq, reached, known⟩
    rw [List.nil_append] at eq
    exact ⟨eq ▸ reached, known⟩
  · rintro ⟨reached, known⟩
    exact ⟨stub.path, rfl, reached, known⟩

theorem find?_stubFiles_eq_none_iff {tree : FileTree} (sorted : tree.IsSorted) {module : Text} :
    (stubFiles [] tree).find? (·.module == module) = none ↔ ¬ tree.Provides module := by
  rw [List.find?_eq_none]
  constructor
  · rintro none ⟨path, bytes, reached, known⟩
    exact none ⟨module, path, bytes⟩ ((mem_stubFiles_nil sorted).mpr ⟨reached, known⟩) (by simp)
  · intro missing stub mem same
    obtain ⟨reached, known⟩ := (mem_stubFiles_nil sorted).mp mem
    rw [beq_iff_eq.mp same] at known
    exact missing ⟨stub.path, stub.bytes, reached, known⟩

/-- The chosen stub comes before every other one of its module. -/
theorem IsChosen.eq_or_lt {tree : FileTree} {stub : StubFile} (chosen : tree.IsChosen stub)
    {path : Path} {bytes : Bytes} (reached : tree.Reaches path bytes)
    (known : IsPackageStub path stub.module ∨ IsModuleStub path stub.module) :
    path = stub.path ∨ stub.path < path := by
  obtain ⟨-, package | ⟨plain, only⟩⟩ := chosen
  · exact known.imp (fun package' => package'.unique package) package.lt
  · rcases known with package | plain'
    · exact absurd reached (only path bytes package)
    · exact .inl (plain'.unique plain)

/-- Of the stubs of one module, the walk comes first to that of the package. -/
theorem find?_stubFiles_eq_some_iff {tree : FileTree} (sorted : tree.IsSorted) {module : Text}
    {stub : StubFile} : (stubFiles [] tree).find? (·.module == module) = some stub ↔
      stub.module = module ∧ tree.IsChosen stub := by
  rw [find?_eq_some_iff_of_pairwise (fun _ _ => List.lt_asymm) (pairwise_stubFiles sorted []),
    mem_stubFiles_nil sorted, beq_iff_eq]
  constructor
  · rintro ⟨⟨reached, known⟩, rfl, least⟩
    refine ⟨rfl, reached, known.imp_right fun plain => ⟨plain, fun path bytes package there => ?_⟩⟩
    have mem : ⟨stub.module, path, bytes⟩ ∈ stubFiles [] tree :=
      (mem_stubFiles_nil sorted).mpr ⟨there, .inl package⟩
    exact least _ mem (by simp) (package.lt plain)
  · rintro ⟨rfl, chosen⟩
    refine ⟨⟨chosen.1, chosen.2.imp_right And.left⟩, rfl, fun other mem same less => ?_⟩
    obtain ⟨reached, known⟩ := (mem_stubFiles_nil sorted).mp mem
    rw [beq_iff_eq.mp same] at known
    rcases chosen.eq_or_lt reached known with eq | later
    · exact List.lt_irrefl _ (eq ▸ less)
    · exact List.lt_asymm less later

/-- The tree at a path has a stub for a module. -/
def ProvidesAt (whole : FileTree) (root : Path) (module : Text) : Prop :=
  ∃ tree, whole.at? root = some tree ∧ tree.Provides module

/-- The tree at a path has this stub for its module, with the path from the top. -/
def IsChosenAt (whole : FileTree) (root : Path) (stub : StubFile) : Prop :=
  ∃ tree below, whole.at? root = some tree ∧ stub.path = root ++ below ∧
    tree.IsChosen ⟨stub.module, below, stub.bytes⟩

end FileTree

open FileTree

theorem find?_treeStubs (whole : FileTree) (root : Path) (module : Text) :
    (treeStubs whole root).find? (·.module == module) =
      (((whole.at? root).elim [] (stubFiles [])).find? (·.module == module)).map
        fun stub => { stub with path := root ++ stub.path } := by
  rw [treeStubs, List.find?_map]
  rfl

theorem find?_treeStubs_eq_none_iff {whole : FileTree} (sorted : whole.IsSorted) {root : Path}
    {module : Text} : (treeStubs whole root).find? (·.module == module) = none ↔
      ¬ whole.ProvidesAt root module := by
  rw [find?_treeStubs, Option.map_eq_none_iff, ProvidesAt]
  cases found : whole.at? root with
  | none => simp
  | some tree => simpa using find?_stubFiles_eq_none_iff (sorted.at? found)

theorem find?_treeStubs_eq_some_iff {whole : FileTree} (sorted : whole.IsSorted) {root : Path}
    {module : Text} {stub : StubFile} :
    (treeStubs whole root).find? (·.module == module) = some stub ↔
      stub.module = module ∧ whole.IsChosenAt root stub := by
  rw [find?_treeStubs, Option.map_eq_some_iff, IsChosenAt]
  cases found : whole.at? root with
  | none => simp
  | some tree =>
    constructor
    · rintro ⟨below, first, rfl⟩
      obtain ⟨same, chosen⟩ := (find?_stubFiles_eq_some_iff (sorted.at? found)).mp first
      exact ⟨same, tree, below.path, rfl, rfl, chosen⟩
    · rintro ⟨same, tree', below, here, eq, chosen⟩
      cases here
      refine ⟨⟨stub.module, below, stub.bytes⟩, ?_, by rw [← eq]⟩
      exact (find?_stubFiles_eq_some_iff (sorted.at? found)).mpr ⟨same, chosen⟩

/-- Some tree of the list has a stub for the module. -/
def IsProvided (whole : FileTree) (trees : List Path) (module : Text) : Prop :=
  ∃ root ∈ trees, whole.ProvidesAt root module

/-- The stub that the first tree of the list with one for its module has. -/
def IsFirstChosen (whole : FileTree) (trees : List Path) (stub : StubFile) : Prop :=
  ∃ before root after, trees = before ++ root :: after ∧
    ¬ IsProvided whole before stub.module ∧ whole.IsChosenAt root stub

namespace StubIndex

theorem get?_add (index : StubIndex) (file : StubFile) (module : Text) :
    (index.add file).get? module =
      (index.get? module).or (if file.module = module then some file else none) := by
  by_cases known : (index.get? file.module).isSome
  · rw [add, if_pos known]
    split
    next same =>
      rw [same] at known
      rw [Option.or_of_isSome known]
    next => rw [Option.or_none]
  · rw [add, if_neg known, get?, get?, List.find?_append, List.find?_singleton]
    simp only [beq_iff_eq]

/-- The first file of a module stays. -/
theorem get?_foldl_add (files : List StubFile) (index : StubIndex) (module : Text) :
    (files.foldl add index).get? module =
      (index.get? module).or (files.find? (·.module == module)) := by
  induction files generalizing index with
  | nil => exact (Option.or_none).symm
  | cons file files ih =>
    rw [List.foldl_cons, ih, get?_add, Option.or_assoc, List.find?_cons]
    by_cases same : file.module = module
    · rw [if_pos same, beq_iff_eq.mpr same]
      rfl
    · rw [if_neg same, beq_eq_false_iff_ne.mpr same, Option.none_or]

theorem get?_ofRoots (whole : FileTree) (roots : List Path) (module : Text) :
    (ofRoots whole roots).get? module = (roots.flatMap (rootTrees whole)).findSome? fun root =>
      (treeStubs whole root).find? (·.module == module) := by
  rw [ofRoots, get?_foldl_add, List.find?_flatMap]
  exact Option.none_or

theorem get?_ofRoots_eq_none_iff {whole : FileTree} (sorted : whole.IsSorted) {roots : List Path}
    {module : Text} : (ofRoots whole roots).get? module = none ↔
      ¬ IsProvided whole (roots.flatMap (rootTrees whole)) module := by
  rw [get?_ofRoots, List.findSome?_eq_none_iff]
  simp only [find?_treeStubs_eq_none_iff sorted, IsProvided, not_exists, not_and]

theorem get?_ofRoots_eq_some_iff {whole : FileTree} (sorted : whole.IsSorted) {roots : List Path}
    {module : Text} {stub : StubFile} : (ofRoots whole roots).get? module = some stub ↔
      stub.module = module ∧ IsFirstChosen whole (roots.flatMap (rootTrees whole)) stub := by
  rw [get?_ofRoots, List.findSome?_eq_some_iff]
  simp only [find?_treeStubs_eq_none_iff sorted, find?_treeStubs_eq_some_iff sorted]
  constructor
  · rintro ⟨before, root, after, split, ⟨rfl, chosen⟩, earlier⟩
    exact ⟨rfl, before, root, after, split, fun ⟨other, mem, has⟩ => earlier other mem has, chosen⟩
  · rintro ⟨rfl, before, root, after, split, earlier, chosen⟩
    exact ⟨before, root, after, split, ⟨rfl, chosen⟩,
      fun other mem has => earlier ⟨other, mem, has⟩⟩

/-- A dotted lead of a name: the name itself, or what stands before one of its dots. -/
def IsLead (lead name : Text) : Prop := lead = name ∨ ∃ rest, name = lead ++ '.' :: rest

theorem IsLead.length_le {lead name : Text} (is : IsLead lead name) :
    lead.length ≤ name.length := by
  rcases is with rfl | ⟨rest, rfl⟩
  · exact le_rfl
  · simp

theorem isLead_iff_of_cutLast? {lead name parent last : Text}
    (cut : cutLast? '.' name = some (parent, last)) :
    IsLead lead name ↔ lead = name ∨ IsLead lead parent := by
  obtain ⟨rfl, absent⟩ := cutLast?_eq_some_iff.mp cut
  refine or_congr_right ⟨?_, ?_⟩
  · rintro ⟨rest, eq⟩
    rcases List.append_eq_append_iff.mp eq with ⟨more, rfl, tail⟩ | ⟨more, rfl, tail⟩
    · cases more with
      | nil => exact .inl (List.append_nil parent)
      | cons c more =>
        obtain ⟨-, rfl⟩ := List.cons.inj tail
        exact absurd (List.mem_append_right more List.mem_cons_self) absent
    · cases more with
      | nil => exact .inl (List.append_nil lead).symm
      | cons c more =>
        obtain ⟨rfl, -⟩ := List.cons.inj tail
        exact .inr ⟨more, rfl⟩
  · rintro (rfl | ⟨rest, rfl⟩)
    · exact ⟨last, rfl⟩
    · exact ⟨rest ++ '.' :: last, by rw [List.append_assoc, List.cons_append]⟩

theorem length_lt_of_cutLast? {name parent last : Text}
    (cut : cutLast? '.' name = some (parent, last)) : parent.length < name.length := by
  obtain ⟨rfl, -⟩ := cutLast?_eq_some_iff.mp cut
  simp

theorem isLead_iff_of_cutLast?_eq_none {lead name : Text} (whole : cutLast? '.' name = none) :
    IsLead lead name ↔ lead = name := by
  refine or_iff_left ?_
  rintro ⟨rest, rfl⟩
  exact cutLast?_eq_none_iff.mp whole (by simp)

theorem parentsOfReversed_append {s : Text} (absent : '.' ∉ s) (t : Text) :
    parentsOfReversed (s ++ t) = parentsOfReversed t := by
  induction s with
  | nil => rfl
  | cons c s ih =>
    rw [List.cons_append, parentsOfReversed, if_neg (List.ne_of_not_mem_cons absent).symm,
      ih (List.not_mem_of_not_mem_cons absent)]

theorem enclosing_of_cutLast? {name parent last : Text}
    (cut : cutLast? '.' name = some (parent, last)) :
    enclosing name = name :: enclosing parent := by
  obtain ⟨rfl, absent⟩ := cutLast?_eq_some_iff.mp cut
  rw [enclosing, List.reverse_append, List.reverse_cons, List.append_assoc,
    parentsOfReversed_append (by simpa using absent), List.singleton_append, parentsOfReversed,
    if_pos rfl, List.reverse_reverse, enclosing]

/-- What has no stub is looked for before its last dot, until there is none. -/
theorem find?_eq_or (index : StubIndex) (name : Text) :
    index.find? name =
      (index.get? name).or ((cutLast? '.' name).bind fun (parent, _) => index.find? parent) := by
  cases cut : cutLast? '.' name with
  | none =>
    have absent : '.' ∉ name.reverse := by simpa using cutLast?_eq_none_iff.mp cut
    have alone := parentsOfReversed_append absent []
    rw [List.append_nil] at alone
    rw [find?, enclosing, alone, parentsOfReversed, List.findSome?_cons]
    cases index.get? name <;> rfl
  | some pair =>
    rw [find?, enclosing_of_cutLast? cut, List.findSome?_cons]
    cases index.get? name <;> rfl

theorem find?_eq_none_iff {index : StubIndex} {name : Text} :
    index.find? name = none ↔ ∀ lead, IsLead lead name → index.get? lead = none := by
  induction size : name.length using Nat.strong_induction_on generalizing name with
  | _ n ih =>
    rw [find?_eq_or, Option.or_eq_none_iff]
    cases cut : cutLast? '.' name with
    | none => simp [isLead_iff_of_cutLast?_eq_none cut]
    | some pair =>
      obtain ⟨parent, last⟩ := pair
      have shorter := length_lt_of_cutLast? cut
      simp only [isLead_iff_of_cutLast? cut, Option.bind_some, forall_eq_or_imp,
        ih _ (size ▸ shorter) rfl]

/-- The nearest file to a name is that of its longest lead with one. -/
theorem find?_eq_some_iff {index : StubIndex} {name : Text} {stub : StubFile} :
    index.find? name = some stub ↔ ∃ lead, IsLead lead name ∧ index.get? lead = some stub ∧
      ∀ longer, IsLead longer name → lead.length < longer.length → index.get? longer = none := by
  induction size : name.length using Nat.strong_induction_on generalizing name with
  | _ n ih =>
    rw [find?_eq_or]
    cases own : index.get? name with
    | some found =>
      rw [Option.some_or]
      constructor
      · intro eq
        refine ⟨name, .inl rfl, own.trans eq, fun longer is more => ?_⟩
        exact absurd is.length_le (Nat.not_le_of_lt more)
      · rintro ⟨lead, rfl | ⟨rest, rfl⟩, known, longest⟩
        · exact own.symm.trans known
        · exact absurd (own.symm.trans (longest _ (.inl rfl) (by simp))) (by simp)
    | none =>
      rw [Option.none_or]
      cases cut : cutLast? '.' name with
      | none => simp [isLead_iff_of_cutLast?_eq_none cut, own]
      | some pair =>
        obtain ⟨parent, last⟩ := pair
        have shorter := length_lt_of_cutLast? cut
        rw [Option.bind_some, ih _ (size ▸ shorter) rfl]
        simp only [isLead_iff_of_cutLast? cut]
        constructor
        · rintro ⟨lead, is, known, longest⟩
          refine ⟨lead, .inr is, known, ?_⟩
          rintro longer (rfl | is') more
          · exact own
          · exact longest longer is' more
        · rintro ⟨lead, rfl | is, known, longest⟩
          · simp [own] at known
          · exact ⟨lead, is, known, fun longer is' more => longest longer (.inr is') more⟩

/-- The nearest stub to a name is that of the longest lead for which a tree has one, the first such
tree of the roots in their order, and in it that of a package before that of a plain module. -/
theorem find?_ofRoots_iff {whole : FileTree} (sorted : whole.IsSorted) (roots : List Path)
    (name : Text) :
    (∀ stub, (ofRoots whole roots).find? name = some stub ↔
      IsLead stub.module name ∧
      IsFirstChosen whole (roots.flatMap (rootTrees whole)) stub ∧
      ∀ longer, IsLead longer name → stub.module.length < longer.length →
        ¬ IsProvided whole (roots.flatMap (rootTrees whole)) longer) ∧
    ((ofRoots whole roots).find? name = none ↔
      ∀ lead, IsLead lead name → ¬ IsProvided whole (roots.flatMap (rootTrees whole)) lead) := by
  constructor
  · intro stub
    rw [find?_eq_some_iff]
    simp only [get?_ofRoots_eq_some_iff sorted, get?_ofRoots_eq_none_iff sorted]
    constructor
    · rintro ⟨lead, is, ⟨rfl, chosen⟩, longest⟩
      exact ⟨is, chosen, longest⟩
    · rintro ⟨is, chosen, longest⟩
      exact ⟨stub.module, is, ⟨rfl, chosen⟩, longest⟩
  · rw [find?_eq_none_iff]
    simp only [get?_ofRoots_eq_none_iff sorted]

deriving instance DecidableEq for StubFile

/-- Two trees: the first has both stubs of `x`, the second has one of `x.y`. -/
def twoTrees : FileTree :=
  ofFiles [("a/x.pyi", [1]), ("a/x/__init__.pyi", [2]), ("b/x.pyi", [3]), ("b/x/y.pyi", [4])]

def twoRoots : List Path := [["a"], ["b"]]

theorem find?_ofRoots_twoRoots :
    twoTrees.IsSorted ∧
    IsFirstChosen twoTrees (twoRoots.flatMap (rootTrees twoTrees))
      ⟨"x", ["a", "x", "__init__.pyi"], [2]⟩ ∧
    ¬ IsProvided twoTrees (twoRoots.flatMap (rootTrees twoTrees)) "x.z" := by
  have sorted : twoTrees.IsSorted := isSorted_ofFiles _
  have found : (ofRoots twoTrees twoRoots).find? "x.z" =
      some ⟨"x", ["a", "x", "__init__.pyi"], [2]⟩ := by decide +kernel
  obtain ⟨-, chosen, longest⟩ := ((find?_ofRoots_iff sorted twoRoots "x.z").1 _).mp found
  exact ⟨sorted, chosen, longest "x.z" (.inl rfl) (by decide)⟩

end StubIndex
end SymbolDocs
