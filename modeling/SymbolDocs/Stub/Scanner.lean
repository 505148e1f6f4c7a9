import SymbolDocs.Stub.Basic
import SymbolDocs.Stub.ProtocolHint
import SymbolDocs.Stub.Signature
import SymbolDocs.Text.Layout
import SymbolDocs.Text.Utf8

namespace SymbolDocs

open Text

/-- A definition whose header is being collected. -/
structure PendingHeader where
  indent : Nat
  depth : Int := 0
  lines : List Text := []
  deriving DecidableEq, Repr, Inhabited

namespace PendingHeader

def push (c : PendingHeader) (line : Text) : PendingHeader :=
  { c with
    lines := c.lines ++ [line]
    depth := c.depth + Signature.netBrackets (trim line) }

/-- The header is complete when its brackets are balanced and its last line ends it. -/
def isCompletedBy (c : PendingHeader) (line : Text) : Bool :=
  c.depth ≤ 0 && Signature.closesHeader (trim line)

/-- The header as it is shown. -/
def overload (c : PendingHeader) : Text :=
  Signature.clean (joinWith "\n" (c.lines.map fun l => trimEnd (dropIndent c.indent l)))

end PendingHeader

/-- A stub file read line by line: the enclosing classes with their indentation, innermost first,
the header being collected, and what was found. -/
structure StubScan where
  target : StubQuery
  classes : List (Text × Nat) := []
  collecting : Option PendingHeader := none
  overloads : List Text := []
  deriving DecidableEq, Repr, Inhabited

namespace StubScan

/-- Ends the collection. -/
def closeHeader (st : StubScan) : StubScan :=
  match st.collecting with
  | none => st
  | some c => { st with
      collecting := none
      overloads := st.overloads ++ (nonEmpty? c.overload).toList }

/-- Whether a trimmed line defines the target, here in the classes that enclose it. -/
def isSought (st : StubScan) (line : Text) : Bool :=
  Signature.openedName? line == some st.target.name &&
    st.target.owner == st.classes.head?.map (·.1)

def collect (st : StubScan) (c : PendingHeader) (line : Text) : StubScan :=
  let c := c.push line
  let st := { st with collecting := some c }
  if c.isCompletedBy line then st.closeHeader else st

/-- A line that continues no header. -/
def feedFresh (st : StubScan) (line : Text) : StubScan :=
  let text := trim line
  if text.isEmpty || text.startsWith "#" then st
  else
    let indent := indentWidth line
    let st := { st with classes := st.classes.dropWhile fun (_, level) => indent ≤ level }
    let st := if st.isSought text then st.collect { indent } line else st
    match Signature.openedClass? text with
    | some name => { st with classes := (name, indent) :: st.classes }
    | none => st

/-- A header ends early where a definition starts that is indented no deeper; blank lines are left
out of it. -/
def feed (st : StubScan) (line : Text) : StubScan :=
  match st.collecting with
  | none => st.feedFresh line
  | some c =>
    let text := trim line
    if text.isEmpty then st
    else if indentWidth line ≤ c.indent && Signature.isDefinitionLine text then
      st.closeHeader.feedFresh line
    else st.collect c line

def finish (st : StubScan) : Option StubInfo :=
  let found := st.closeHeader.overloads
  if found.isEmpty then none
  else
    let signature := joinWith "\n" found
    some ⟨some signature, found, ProtocolHint.hints signature⟩

end StubScan

namespace StubInfo

/-- What a stub says about a symbol. -/
def ofSource? (source qualified : Text) : Option StubInfo :=
  ((lines source).foldl StubScan.feed { target := .ofQualified qualified }).finish

/-- The same for the bytes of a stub, which have to be UTF-8. -/
def ofBytes? (bytes : Bytes) (qualified : Text) : Except Fault (Option StubInfo) :=
  match Utf8.decode bytes with
  | .ok source => .ok (ofSource? source qualified)
  | .error _ => .error .invalidStubText

end StubInfo
end SymbolDocs
