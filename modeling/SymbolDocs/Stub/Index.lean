import SymbolDocs.Stub.Scanner
import SymbolDocs.Text.Utf8

namespace SymbolDocs

/-- Files by name. The entries of a directory are in the order of their names. -/
inductive FileTree where
  | file (bytes : Bytes)
  | directory (entries : List (Text × FileTree))
  deriving Inhabited

namespace FileTree

def empty : FileTree := .directory []

def isDirectory : FileTree → Bool
  | file _ => false
  | directory _ => true

def entries : FileTree → List (Text × FileTree)
  | file _ => []
  | directory es => es

/-- Puts an entry in the place of one of its name, or between the names around it. -/
def setEntry (name : Text) (tree : FileTree) : List (Text × FileTree) → List (Text × FileTree)
  | [] => [(name, tree)]
  | (n, t) :: rest =>
    if n = name then (name, tree) :: rest
    else if name < n then (name, tree) :: (n, t) :: rest
    else (n, t) :: setEntry name tree rest

def child? (name : Text) (tree : FileTree) : Option FileTree :=
  (tree.entries.find? (·.1 == name)).map (·.2)

/-- Names on the way of a path, from the top. -/
abbrev Path := List Text

/-- A path as it is written, where empty names and single dots lead nowhere. -/
def Path.ofText (s : Text) : Path :=
  (Text.splitOn '/' s).filter fun name => !name.isEmpty && name != ['.']

def Path.toText (path : Path) : Text := Text.joinWith "/" path

def at? : Path → FileTree → Option FileTree
  | [], tree => some tree
  | name :: path, tree => (tree.child? name).bind (at? path)

/-- The tree with a file at a path, whose directories are made where they are missing. -/
def write (bytes : Bytes) : Path → FileTree → FileTree
  | [], _ => .file bytes
  | name :: path, tree =>
    .directory (setEntry name (write bytes path ((tree.child? name).getD empty)) tree.entries)

def ofFiles (files : List (Text × Bytes)) : FileTree :=
  files.foldl (fun tree (path, bytes) => tree.write bytes (Path.ofText path)) empty

end FileTree
end SymbolDocs

namespace SymbolDocs

open Text

/-- The dotted name of the module that a stub's path stands for: `pkg/sub/__init__.pyi` is
`pkg.sub` and `pkg/mod.pyi` is `pkg.mod`. -/
def moduleOfPath? (path : FileTree.Path) : Option Text := do
  let file :: folders := path.reverse | none
  let stem ← before? ".pyi" file
  let parts := folders.reverse ++ if stem = "__init__" then [] else [stem]
  if parts.isEmpty || parts.any fun part => part.contains '.' || part.contains '-' then none
  else some (joinWith "." parts)

/-- The same for a path as it is written, which has to lead down from where it starts. -/
def moduleName? (path : Text) : Option Text :=
  let names := splitOn '/' path
  let leaves := names.head? == some ['.'] || names.contains ['.', '.'] || path.startsWith "/"
  if leaves then none else moduleOfPath? (FileTree.Path.ofText path)

/-- A stub file of a module. -/
structure StubFile where
  module : Text
  path : FileTree.Path
  bytes : Bytes
  deriving Inhabited

/-- Hidden entries, and those that a version mark sets apart. -/
def isSkippedEntry (name : Text) : Bool := name.startsWith "." || name.startsWith "@"

mutual

/-- The stub files at or below a place, in the order of their names. The path leads from the top of
the tree that is indexed. -/
def stubFiles (path : FileTree.Path) : FileTree → List StubFile
  | .file bytes => ((moduleOfPath? path).map fun module => ⟨module, path, bytes⟩).toList
  | .directory entries => stubFilesIn path entries

def stubFilesIn (path : FileTree.Path) : List (Text × FileTree) → List StubFile
  | [] => []
  | (name, tree) :: rest =>
    (if isSkippedEntry name then [] else stubFiles (path ++ [name]) tree) ++ stubFilesIn path rest

end

/-- The stub files of the tree at a path, with their paths from the top of the whole. -/
def treeStubs (whole : FileTree) (root : FileTree.Path) : List StubFile :=
  ((whole.at? root).elim [] (stubFiles [])).map fun f => { f with path := root ++ f.path }

/-- The trees that a root stands for: the standard library and each distribution below `stubs`
where there is a directory `stdlib`, the root itself elsewhere. -/
def rootTrees (whole : FileTree) (root : FileTree.Path) : List FileTree.Path :=
  if (whole.at? (root ++ [("stdlib" : Text)])).any (·.isDirectory) then
    let stubs := root ++ [("stubs" : Text)]
    let distributions := ((whole.at? stubs).elim [] (·.entries)).filter (·.2.isDirectory)
    (root ++ [("stdlib" : Text)]) :: distributions.map fun (name, _) => stubs ++ [name]
  else [root]

/-- Stub files by module; no module is there twice. -/
structure StubIndex where
  files : List StubFile := []
  deriving Inhabited

namespace StubIndex

def get? (index : StubIndex) (module : Text) : Option StubFile :=
  index.files.find? (·.module == module)

def add (index : StubIndex) (file : StubFile) : StubIndex :=
  if (index.get? file.module).isSome then index else ⟨index.files ++ [file]⟩

/-- The index of some roots, in which the first root to provide a module wins. -/
def ofRoots (whole : FileTree) (roots : List FileTree.Path) : StubIndex :=
  ((roots.flatMap (rootTrees whole)).flatMap (treeStubs whole)).foldl add {}

/-- What stands before each dot of a text that is given backwards, the last dot first. -/
def parentsOfReversed : Text → List Text
  | [] => []
  | c :: s => if c = '.' then s.reverse :: parentsOfReversed s else parentsOfReversed s

/-- A module and the packages it is in, innermost first. -/
def enclosing (module : Text) : List Text := module :: parentsOfReversed module.reverse

/-- The stub of a module, or of the nearest package around it that has one. -/
def find? (index : StubIndex) (module : Text) : Option StubFile :=
  (enclosing module).findSome? index.get?

/-- What the stub of a module says about a symbol; a stub that cannot be read says nothing. -/
def symbol? (index : StubIndex) (module qualified : Text) : Option StubInfo := do
  match StubInfo.ofBytes? (← index.find? module).bytes qualified with
  | .ok info => info
  | .error _ => none

end StubIndex
end SymbolDocs
