import SymbolDocs.Inventory.Item
import SymbolDocs.Runtime
import SymbolDocs.Stub.Basic

namespace SymbolDocs

namespace Record

/-- Nothing is said, or only what stands in for a summary. -/
def needsSummary (r : Record) : Bool :=
  match r.summary with
  | some s => Text.isBlank s || isStandInSummary s
  | none => true

end Record

namespace Parameter

/-- Fills the type and the description where they are missing. -/
def fill (p other : Parameter) : Parameter :=
  { p with type := p.type.or other.type, description := p.description.or other.description }

end Parameter

/-- Fills the first parameter of the same name, or adds one. -/
def addParameter (other : Parameter) : List Parameter → List Parameter
  | [] => [other]
  | p :: rest => if p.name = other.name then p.fill other :: rest else p :: addParameter other rest

namespace Record

/-- Adds what a docstring says where the record says nothing. -/
def withDocstring (r : Record) (doc : Docstring) : Record :=
  { r with
    summary := if r.needsSummary then doc.markdown?.or r.summary else r.summary
    parameters := doc.parameters.foldl (fun ps p => addParameter p ps) r.parameters
    returns := r.returns.or doc.returns
    raises := if r.raises.isEmpty then doc.raises else r.raises
    examples := if r.examples.isEmpty then doc.examples else r.examples }

end Record

/-- A hint names a protocol and explains it behind a colon. -/
def hintBadge (hint : Text) : Badge :=
  match Text.cutAt? ": ".toList hint with
  | some (label, tooltip) => ⟨label, some tooltip⟩
  | none => ⟨hint, none⟩

namespace Record

/-- Adds the signature of a stub, unless there is one, and badges for its protocols. -/
def withStub (r : Record) (stub : StubInfo) : Record :=
  (stub.protocolHints.map hintBadge).foldl addBadge
    { r with signature := r.signature.or stub.signature }

/-- Adds what a running interpreter says where the record says nothing. -/
def withRuntime (r : Record) (info : RuntimeInfo) : Record :=
  let filled := { r with
    signature := r.signature.or (info.signature.filter (!Text.isBlank ·))
    kind := r.kind.or info.kind
    url := r.url.or info.url }
  match info.docs? with
  | some doc => filled.withDocstring doc
  | none => filled

end Record

/-- A record that holds only what a running interpreter says. -/
def RuntimeInfo.record (info : RuntimeInfo) (name : Text) : Record :=
  (Record.titled (info.qualname.getD name) .runtime).withRuntime info

end SymbolDocs
