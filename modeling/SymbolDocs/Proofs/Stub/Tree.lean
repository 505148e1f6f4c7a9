import SymbolDocs.Stub.Index
import SymbolDocs.Proofs.Text.Cut
import SymbolDocs.Proofs.Text.Words

namespace SymbolDocs

open Text

/-- In a list that is in order, the first element of a kind is the least one. -/
theorem find?_eq_some_iff_of_pairwise {α : Type} {r : α → α → Prop}
    (asymm : ∀ a b, r a b → ¬ r b a) {xs : List α} (order : xs.Pairwise r) {p : α → Bool} {a : α} :
    xs.find? p = some a ↔ a ∈ xs ∧ p a ∧ ∀ b ∈ xs, p b → ¬ r b a := by
  constructor
  · intro found
    obtain ⟨here, before, after, rfl, earlier⟩ := List.find?_eq_some_iff_append.mp found
    refine ⟨List.mem_of_find?_eq_some found, here, fun b mem also less => ?_⟩
    rcases List.mem_append.mp mem with mem | mem
    · exact absurd also (by simpa using earlier b mem)
    rcases List.mem_cons.mp mem with rfl | mem
    · exact asymm b b less less
    · exact asymm b a less (List.rel_of_pairwise_cons (List.pairwise_append.mp order).2.1 mem)
  · rintro ⟨mem, here, least⟩
    obtain ⟨before, after, rfl⟩ := List.append_of_mem mem
    refine List.find?_eq_some_iff_append.mpr ⟨here, before, after, rfl, fun b early => ?_⟩
    have less := (List.pairwise_append.mp order).2.2 b early a List.mem_cons_self
    simpa using fun also => least b (List.mem_append_left _ early) also less

namespace FileTree

/-- The entries of each directory are in the order of their names, and no name is there twice. -/
inductive IsSorted : FileTree → Prop where
  | file (bytes : Bytes) : IsSorted (.file bytes)
  | directory {entries : List (Text × FileTree)} (order : entries.Pairwise (·.1 < ·.1))
      (below : ∀ entry ∈ entries, IsSorted entry.2) : IsSorted (.directory entries)

theorem find?_fst_eq_some_iff {entries : List (Text × FileTree)}
    (order : entries.Pairwise (·.1 < ·.1)) {name : Text} {entry : Text × FileTree} :
    entries.find? (·.1 == name) = some entry ↔ entry ∈ entries ∧ entry.1 = name := by
  rw [find?_eq_some_iff_of_pairwise (fun _ _ => List.lt_asymm) order, beq_iff_eq]
  refine and_congr_right fun _ => and_iff_left_of_imp ?_
  rintro rfl other _ same
  rw [beq_iff_eq.mp same]
  exact List.lt_irrefl _

theorem child?_directory_eq_some_iff {entries : List (Text × FileTree)}
    (order : entries.Pairwise (·.1 < ·.1)) {name : Text} {child : FileTree} :
    (directory entries).child? name = some child ↔ (name, child) ∈ entries := by
  rw [child?, Option.map_eq_some_iff]
  constructor
  · rintro ⟨⟨n, t⟩, found, rfl⟩
    obtain ⟨mem, rfl⟩ := (find?_fst_eq_some_iff order).mp found
    exact mem
  · exact fun mem => ⟨(name, child), (find?_fst_eq_some_iff order).mpr ⟨mem, rfl⟩, rfl⟩

theorem isSorted_empty : empty.IsSorted := .directory .nil fun _ mem => absurd mem List.not_mem_nil

theorem IsSorted.entries {tree : FileTree} (sorted : tree.IsSorted) :
    tree.entries.Pairwise (·.1 < ·.1) ∧ ∀ entry ∈ tree.entries, entry.2.IsSorted := by
  cases sorted with
  | file bytes => exact ⟨.nil, fun _ mem => absurd mem List.not_mem_nil⟩
  | directory order below => exact ⟨order, below⟩

theorem IsSorted.child? {tree child : FileTree} (sorted : tree.IsSorted) {name : Text}
    (found : tree.child? name = some child) : child.IsSorted := by
  cases sorted with
  | file bytes => cases found
  | directory order below => exact below _ ((child?_directory_eq_some_iff order).mp found)

theorem IsSorted.at? {tree below : FileTree} (sorted : tree.IsSorted) {path : Path}
    (found : tree.at? path = some below) : below.IsSorted := by
  induction path generalizing tree with
  | nil =>
    cases found
    exact sorted
  | cons name path ih =>
    obtain ⟨child, here, there⟩ := Option.bind_eq_some_iff.mp found
    exact ih (sorted.child? here) there

theorem mem_setEntry {name : Text} {tree : FileTree} {entries : List (Text × FileTree)}
    {entry : Text × FileTree} (mem : entry ∈ setEntry name tree entries) :
    entry = (name, tree) ∨ entry ∈ entries := by
  induction entries with
  | nil => exact .inl (List.mem_singleton.mp mem)
  | cons first rest ih =>
    rw [setEntry] at mem
    split at mem
    · exact (List.mem_cons.mp mem).imp_right (List.mem_cons_of_mem _)
    · split at mem
      · exact List.mem_cons.mp mem
      · rcases List.mem_cons.mp mem with rfl | mem
        · exact .inr List.mem_cons_self
        · exact (ih mem).imp_right (List.mem_cons_of_mem _)

theorem pairwise_setEntry {entries : List (Text × FileTree)}
    (order : entries.Pairwise (·.1 < ·.1)) (name : Text) (tree : FileTree) :
    (setEntry name tree entries).Pairwise (·.1 < ·.1) := by
  induction entries with
  | nil => exact List.pairwise_singleton _ _
  | cons first rest ih =>
    obtain ⟨least, order'⟩ := List.pairwise_cons.mp order
    rw [setEntry]
    split
    next same => exact List.pairwise_cons.mpr ⟨same ▸ least, order'⟩
    next other =>
      split
      next less =>
        refine List.pairwise_cons.mpr ⟨fun entry mem => ?_, order⟩
        rcases List.mem_cons.mp mem with rfl | mem
        · exact less
        · exact List.lt_trans less (least entry mem)
      next notLess =>
        refine List.pairwise_cons.mpr ⟨fun entry mem => ?_, ih order'⟩
        rcases mem_setEntry mem with rfl | mem
        · exact (List.le_iff_lt_or_eq.mp (List.not_lt.mp notLess)).resolve_right other
        · exact least entry mem

theorem IsSorted.write {tree : FileTree} (sorted : tree.IsSorted) (bytes : Bytes) (path : Path) :
    (tree.write bytes path).IsSorted := by
  induction path generalizing tree with
  | nil => exact .file bytes
  | cons name path ih =>
    have start : ((tree.child? name).getD FileTree.empty).IsSorted := by
      cases found : tree.child? name with
      | none => exact isSorted_empty
      | some child => exact sorted.child? found
    refine .directory (pairwise_setEntry sorted.entries.1 _ _) fun entry mem => ?_
    rcases mem_setEntry mem with rfl | mem
    · exact ih start
    · exact sorted.entries.2 entry mem

/-- However files are written, directories stay in order. -/
theorem isSorted_ofFiles (files : List (Text × Bytes)) : (ofFiles files).IsSorted := by
  have kept : ∀ tree : FileTree, tree.IsSorted →
      (files.foldl (fun tree file => tree.write file.2 (Path.ofText file.1)) tree).IsSorted := by
    induction files with
    | nil => exact fun _ sorted => sorted
    | cons file files ih => exact fun tree sorted => ih _ (sorted.write file.2 (Path.ofText file.1))
  exact kept empty isSorted_empty

/-- A file that a walk down the tree comes to: none of the names on its way is skipped. -/
def Reaches (tree : FileTree) (path : Path) (bytes : Bytes) : Prop :=
  tree.at? path = some (.file bytes) ∧ ∀ name ∈ path, ¬ isSkippedEntry name

theorem reaches_nil_iff {tree : FileTree} {bytes : Bytes} :
    tree.Reaches [] bytes ↔ tree = .file bytes := by
  simp [Reaches, FileTree.at?]

theorem reaches_cons_iff {tree : FileTree} {name : Text} {path : Path} {bytes : Bytes} :
    tree.Reaches (name :: path) bytes ↔
      ¬ isSkippedEntry name ∧ ∃ child, tree.child? name = some child ∧
        child.Reaches path bytes := by
  rw [Reaches, FileTree.at?, Option.bind_eq_some_iff, List.forall_mem_cons]
  constructor
  · rintro ⟨⟨child, here, there⟩, seen, below⟩
    exact ⟨seen, child, here, there, below⟩
  · rintro ⟨seen, child, here, there, below⟩
    exact ⟨⟨child, here, there⟩, seen, below⟩

end FileTree

/-- A name that can stand between the dots of a module. -/
def IsModulePart (name : Text) : Prop := '.' ∉ name ∧ '-' ∉ name

/-- The stub of a package is a file in its folder: `a/b/__init__.pyi` is that of `a.b`. -/
def IsPackageStub (path : FileTree.Path) (module : Text) : Prop :=
  ∃ parts, parts ≠ [] ∧ (∀ part ∈ parts, IsModulePart part) ∧ module = joinWith "." parts ∧
    path = parts ++ [("__init__.pyi" : Text)]

/-- The stub of a plain module bears its name: `a/b.pyi` is that of `a.b`. -/
def IsModuleStub (path : FileTree.Path) (module : Text) : Prop :=
  ∃ folders name, (∀ part ∈ folders ++ [name], IsModulePart part) ∧ name ≠ "__init__" ∧
    module = joinWith "." (folders ++ [name]) ∧ path = folders ++ [name ++ ".pyi"]

/-- The module that some names stand for, if each of them can stand between dots. -/
def moduleOfParts? (parts : List Text) : Option Text :=
  if parts.isEmpty || parts.any fun part => part.contains '.' || part.contains '-' then none
  else some (joinWith "." parts)

theorem moduleOfParts?_eq_some_iff {parts : List Text} {module : Text} :
    moduleOfParts? parts = some module ↔
      parts ≠ [] ∧ (∀ part ∈ parts, IsModulePart part) ∧ module = joinWith "." parts := by
  rw [moduleOfParts?, Option.ite_none_left_eq_some, Option.some_inj, eq_comm (a := module),
    ← and_assoc]
  simp [IsModulePart]

theorem moduleOfPath?_concat (folders : FileTree.Path) (file : Text) :
    moduleOfPath? (folders ++ [file]) = (before? (".pyi" : Text) file).bind fun stem =>
      moduleOfParts? (folders ++ if stem = "__init__" then [] else [stem]) := by
  simp only [moduleOfPath?, List.reverse_append, List.reverse_cons, List.reverse_nil,
    List.nil_append, List.singleton_append, List.reverse_reverse]
  rfl

/-- A path that is the stub of a module is that of a package or of a plain module. -/
theorem moduleOfPath?_eq_some_iff {path : FileTree.Path} {module : Text} :
    moduleOfPath? path = some module ↔ IsPackageStub path module ∨ IsModuleStub path module := by
  constructor
  · intro known
    rcases List.eq_nil_or_concat path with rfl | ⟨folders, file, rfl⟩
    · cases known
    · rw [List.concat_eq_append] at known ⊢
      rw [moduleOfPath?_concat] at known
      obtain ⟨stem, cut, joined⟩ := Option.bind_eq_some_iff.mp known
      obtain ⟨ne, plain, eq⟩ := moduleOfParts?_eq_some_iff.mp joined
      rw [before?_eq_some_iff.mp cut]
      by_cases package : stem = "__init__"
      · rw [if_pos package, List.append_nil] at ne plain eq
        exact .inl ⟨folders, ne, plain, eq, by rw [package]; rfl⟩
      · rw [if_neg package] at plain eq
        exact .inr ⟨folders, stem, plain, package, eq, rfl⟩
  · rintro (⟨parts, ne, plain, eq, rfl⟩ | ⟨folders, name, plain, other, eq, rfl⟩)
    · rw [moduleOfPath?_concat, Option.bind_eq_some_iff]
      refine ⟨"__init__", rfl, ?_⟩
      rw [if_pos rfl, List.append_nil]
      exact moduleOfParts?_eq_some_iff.mpr ⟨ne, plain, eq⟩
    · rw [moduleOfPath?_concat, Option.bind_eq_some_iff]
      refine ⟨name, before?_eq_some_iff.mpr rfl, ?_⟩
      rw [if_neg other]
      exact moduleOfParts?_eq_some_iff.mpr ⟨by simp, plain, eq⟩

theorem IsPackageStub.parts_eq {path : FileTree.Path} {module : Text}
    (package : IsPackageStub path module) :
    path = splitOn '.' module ++ [("__init__.pyi" : Text)] := by
  obtain ⟨parts, ne, plain, rfl, rfl⟩ := package
  have split : splitOn '.' (joinWith "." parts) = parts :=
    splitOn_joinWith ne fun part mem => (plain part mem).1
  rw [split]

theorem IsModuleStub.parts_eq {path : FileTree.Path} {module : Text}
    (plain : IsModuleStub path module) :
    ∃ (folders : List Text) (name : Text), splitOn '.' module = folders ++ [name] ∧
      path = folders ++ [name ++ ".pyi"] := by
  obtain ⟨folders, name, parts, -, rfl, rfl⟩ := plain
  exact ⟨folders, name, splitOn_joinWith (by simp) fun part mem => (parts part mem).1, rfl⟩

theorem IsPackageStub.unique {path other : FileTree.Path} {module : Text}
    (package : IsPackageStub path module) (package' : IsPackageStub other module) :
    path = other := package.parts_eq.trans package'.parts_eq.symm

theorem IsModuleStub.unique {path other : FileTree.Path} {module : Text}
    (plain : IsModuleStub path module) (plain' : IsModuleStub other module) : path = other := by
  obtain ⟨folders, name, split, rfl⟩ := plain.parts_eq
  obtain ⟨folders', name', split', rfl⟩ := plain'.parts_eq
  obtain ⟨rfl, same⟩ := List.append_inj' (split.symm.trans split') rfl
  rw [List.singleton_inj.mp same]

/-- A package's folder is walked before the file of a module of its name. -/
theorem IsPackageStub.lt {path other : FileTree.Path} {module : Text}
    (package : IsPackageStub path module) (plain : IsModuleStub other module) : path < other := by
  obtain ⟨folders, name, split, rfl⟩ := plain.parts_eq
  rw [package.parts_eq, split, List.append_assoc]
  refine List.append_left_lt (.rel ?_)
  have longer : name ++ [] < name ++ (".pyi" : Text) := List.append_left_lt .nil
  rwa [List.append_nil] at longer

theorem stubFilesIn_eq_flatMap (lead : FileTree.Path) (entries : List (Text × FileTree)) :
    stubFilesIn lead entries = entries.flatMap fun entry =>
      if isSkippedEntry entry.1 then [] else stubFiles (lead ++ [entry.1]) entry.2 := by
  induction entries with
  | nil => rfl
  | cons entry entries ih => rw [stubFilesIn, List.flatMap_cons, ih]

/-- The walk comes to the stubs of the tree and to nothing else. -/
theorem mem_stubFiles {tree : FileTree} (sorted : tree.IsSorted) {lead : FileTree.Path}
    {stub : StubFile} : stub ∈ stubFiles lead tree ↔
      ∃ below, stub.path = lead ++ below ∧ tree.Reaches below stub.bytes ∧
        moduleOfPath? stub.path = some stub.module := by
  induction sorted generalizing lead with
  | file bytes =>
    rw [stubFiles, Option.mem_toList, Option.map_eq_some_iff]
    constructor
    · rintro ⟨module, known, rfl⟩
      exact ⟨[], (List.append_nil lead).symm, FileTree.reaches_nil_iff.mpr rfl, known⟩
    · rintro ⟨below, eq, reached, known⟩
      obtain ⟨module, path, bytes'⟩ := stub
      cases below with
      | nil =>
        obtain rfl : path = lead := eq.trans (List.append_nil lead)
        cases FileTree.reaches_nil_iff.mp reached
        exact ⟨module, known, rfl⟩
      | cons name below =>
        obtain ⟨-, child, found, -⟩ := FileTree.reaches_cons_iff.mp reached
        cases found
  | @directory entries order below ih =>
    rw [stubFiles, stubFilesIn_eq_flatMap, List.mem_flatMap]
    constructor
    · rintro ⟨⟨name, child⟩, entry, mem⟩
      split at mem
      · cases mem
      next seen =>
        obtain ⟨rest, eq, reached, known⟩ := (ih _ entry).mp mem
        have found := (FileTree.child?_directory_eq_some_iff order).mpr entry
        exact ⟨name :: rest, by rw [eq, List.append_assoc]; rfl,
          FileTree.reaches_cons_iff.mpr ⟨seen, child, found, reached⟩, known⟩
    · rintro ⟨path, eq, reached, known⟩
      cases path with
      | nil => cases FileTree.reaches_nil_iff.mp reached
      | cons name rest =>
        obtain ⟨seen, child, found, reached⟩ := FileTree.reaches_cons_iff.mp reached
        have entry := (FileTree.child?_directory_eq_some_iff order).mp found
        refine ⟨(name, child), entry, ?_⟩
        rw [if_neg seen]
        exact (ih _ entry).mpr ⟨rest, by rw [eq, List.append_assoc]; rfl, reached, known⟩

/-- The walk keeps the order of the paths. -/
theorem pairwise_stubFiles {tree : FileTree} (sorted : tree.IsSorted) (lead : FileTree.Path) :
    (stubFiles lead tree).Pairwise (·.path < ·.path) := by
  induction sorted generalizing lead with
  | file bytes =>
    rw [stubFiles]
    cases moduleOfPath? lead with
    | none => exact .nil
    | some module => exact List.pairwise_singleton _ _
  | @directory entries order below ih =>
    rw [stubFiles, stubFilesIn_eq_flatMap, List.pairwise_flatMap]
    constructor
    · intro entry mem
      split
      · exact .nil
      · exact ih entry mem _
    · refine order.imp_of_mem fun {first second} mem mem' less stub here other there => ?_
      split at here
      · cases here
      split at there
      · cases there
      obtain ⟨rest, eq, -⟩ := (mem_stubFiles (below first mem)).mp here
      obtain ⟨rest', eq', -⟩ := (mem_stubFiles (below second mem')).mp there
      rw [eq, eq', List.append_assoc, List.append_assoc]
      exact List.append_left_lt (.rel less)

end SymbolDocs
