import SymbolDocs.Docstring.Entry
import SymbolDocs.Docstring.Prose

namespace SymbolDocs.FieldList

open Text Docstring

/-- What an indented line continues. -/
inductive Continued where
  | nothing
  | parameter (name : Text)
  | returns
  | raise
  | note
  deriving DecidableEq, Repr

def opensEntry (lines : List Text) : Bool :=
  lines.head?.any fun line =>
    let text := trimStart line
    (Entry.field? text).isSome || text.startsWith ">>>" || text.startsWith ".. "

/-- Changes the parameter of a name, which is added if it is new. -/
def updateParameter (name : Text) (f : Parameter → Parameter) : List Parameter → List Parameter
  | [] => [f { name }]
  | p :: ps => if p.name = name then f p :: ps else p :: updateParameter name f ps

def onParameter (doc : Docstring) (name : Text) (f : Parameter → Parameter) : Docstring :=
  { doc with parameters := updateParameter name f doc.parameters }

inductive Field where
  | parameter
  | parameterType
  | returns
  | returnsType
  | raise
  deriving DecidableEq, Repr

/-- Field names in lower case. -/
def fieldNames : List (String × Field) :=
  [("param", .parameter), ("parameter", .parameter), ("arg", .parameter),
   ("argument", .parameter), ("key", .parameter), ("keyword", .parameter),
   ("type", .parameterType), ("returns", .returns), ("return", .returns), ("yields", .returns),
   ("yield", .returns), ("rtype", .returnsType), ("ytype", .returnsType), ("raises", .raise),
   ("raise", .raise), ("except", .raise), ("exception", .raise)]

def fieldOf? (name : Text) : Option Field :=
  (fieldNames.find? fun (n, _) => (n : Text) == asciiLower name).map (·.2)

/-- An argument of several words starts with a type. -/
def splitArgument (arg : Text) : Option Text × Text :=
  match cutLast? ' ' arg with
  | some (type, name) => (some (trim type), trim name)
  | none => (none, arg)

def addField (doc : Docstring) (field : Option Field) (arg : Option Text) (body : Text) :
    Docstring × Continued :=
  match field, arg with
  | some .parameter, some arg =>
    let (type, name) := splitArgument arg
    (onParameter doc name fun p => { p with type := p.type.or type }.describe body,
      .parameter name)
  | some .parameterType, some name =>
    (onParameter doc name fun p => { p with type := (nonEmpty? body).or p.type }, .nothing)
  | some .returns, _ =>
    ({ doc with returns := some ((doc.returns.getD {}).describe body) }, .returns)
  | some .returnsType, _ =>
    if body.isEmpty then (doc, .nothing)
    else ({ doc with returns := some { doc.returns.getD {} with type := some body } }, .nothing)
  | some .raise, arg =>
    let r : Raise := { type := arg.getD "Exception" }
    ({ doc with raises := doc.raises ++ [r.describe body] }, .raise)
  | _, _ => (doc, .nothing)

/-- A note and a line that continues it, one space between. -/
def extendNote (note text : Text) : Text :=
  if note.isEmpty || note.endsWith " " then note ++ text else note ++ ' ' :: text

def addContinuation (doc : Docstring) (target : Continued) (text : Text) : Docstring :=
  match target with
  | .nothing => doc
  | .parameter name => onParameter doc name (·.describe text)
  | .returns => { doc with returns := doc.returns.map (·.describe text) }
  | .raise => doc.describeLastRaise text
  | .note => { doc with notes := doc.notes.modify (doc.notes.length - 1) (extendNote · text) }

/-- Words that a directive's note starts with, by the kind of the directive. -/
def noteLabel? (kind : Text) : Option Text :=
  if kind = "note" then some []
  else if kind = "warning" then some "Warning: "
  else if kind = "seealso" then some "See also: "
  else none

def addDirective (doc : Docstring) (directive : Text) : Docstring × Continued :=
  let note := (cutAt? "::" directive).bind fun (kind, rest) =>
    (noteLabel? (trim kind)).map (· ++ trim rest)
  match note with
  | some note => (doc.addNote note, .note)
  | none => (doc, .nothing)

/-- A line that is no part of an example. Prose at the margin is put behind the description. -/
def addLine (doc : Docstring) (target : Continued) (line : Text) : Docstring × Continued :=
  let text := trim line
  match after? ".. " text, Entry.field? text with
  | some directive, _ => addDirective doc directive
  | none, some (name, arg, body) => addField doc (fieldOf? name) arg (trim body)
  | none, none =>
    if text.isEmpty then (doc, target)
    else if 0 < indentWidth line then (addContinuation doc target text, target)
    else
      let description := match doc.description with
        | some (c :: cs) => c :: cs ++ '\n' :: text
        | _ => text
      ({ doc with description := some description }, .nothing)

/-- An example starts with a prompt and ends before the next blank line. -/
def addLines (doc : Docstring) (target : Continued) (lines : List Text) : Docstring :=
  match lines with
  | [] => doc
  | line :: rest =>
    if (trim line).startsWith ">>>" then
      let split := spanUntil (·.head?.any isBlank) rest
      let block := dedent (line :: split.1)
      addLines { doc with examples := doc.examples ++ [block] } .nothing split.2
    else
      let (doc, target) := addLine doc target line
      addLines doc target rest
termination_by lines.length
decreasing_by
  · have := length_spanUntil_le (·.head?.any isBlank) rest
    simp only [List.length_cons]
    omega
  · simp

/-- A docstring whose fields stand between colons. -/
def parse (lines : List Text) : Docstring :=
  let (doc, rest) := withProse opensEntry lines
  addLines doc .nothing rest

end SymbolDocs.FieldList
