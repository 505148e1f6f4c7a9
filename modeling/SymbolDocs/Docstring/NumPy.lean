import SymbolDocs.Docstring.Entry
import SymbolDocs.Docstring.Prose

namespace SymbolDocs.NumPy

open Text Docstring

inductive Section where
  | parameters
  | returns
  | raises
  | examples
  | notes
  | seeAlso
  | ignored
  deriving DecidableEq, Repr

/-- Titles in lower case. -/
def titles : List (String × Section) :=
  [("parameters", .parameters), ("other parameters", .parameters),
   ("keyword arguments", .parameters), ("returns", .returns), ("yields", .returns),
   ("raises", .raises), ("warns", .raises), ("examples", .examples), ("example", .examples),
   ("notes", .notes), ("note", .notes), ("see also", .seeAlso), ("attributes", .ignored),
   ("methods", .ignored), ("references", .ignored), ("warnings", .ignored),
   ("receives", .ignored)]

def sectionOf? (line : Text) : Option Section :=
  let title := asciiLower (trim line)
  (titles.find? fun (t, _) => (t : Text) == title).map (·.2)

def isDashes (line : Text) : Bool :=
  let t := trim line
  3 ≤ t.byteLength && t.all (· == '-')

/-- A known title with a line of dashes below it. -/
def sectionAt? : List Text → Option Section
  | title :: under :: _ => if isDashes under then sectionOf? title else none
  | _ => none

def opensSection (lines : List Text) : Bool := (sectionAt? lines).isSome

/-- The sections with the lines below their underlines. -/
def sections (lines : List Text) : List (Section × List Text) :=
  match lines with
  | [] => []
  | _ :: rest =>
    match sectionAt? lines with
    | some s =>
      let split := spanUntil opensSection (rest.drop 1)
      (s, split.1) :: sections split.2
    | none => sections rest
termination_by lines.length
decreasing_by
  · have := length_spanUntil_le opensSection (rest.drop 1)
    simp only [List.length_drop, List.length_cons] at *
    omega
  · simp

/-- Entries stand at the least indentation; a deeper line continues the last one, and so does a
line that is no entry. -/
def addParameterLine (base : Nat) (doc : Docstring) (line : Text) : Docstring :=
  let text := trim line
  let entry : Option Parameter :=
    if indentWidth line ≤ base then
      match Entry.namesAndType? text with
      | some (names, type) => some { name := names, type := nonEmpty? type }
      | none => if Entry.isBareName text then some { name := text } else none
    else none
  match entry with
  | some p => { doc with parameters := doc.parameters ++ [p] }
  | none => doc.describeLastParameter text

/-- The first line is the type, or holds it behind a name; the others describe the value. -/
def addReturnsLine (returns : Returns) (line : Text) : Returns :=
  let text := trim line
  match returns.type with
  | some _ => returns.describe text
  | none =>
    match Entry.namesAndType? text with
    | some (_, c :: type) => { returns with type := some (c :: type) }
    | _ => { returns with type := some text }

def addRaisesLine (base : Nat) (doc : Docstring) (line : Text) : Docstring :=
  let text := trim line
  if indentWidth line ≤ base then { doc with raises := doc.raises ++ [{ type := text }] }
  else doc.describeLastRaise text

def addSection (doc : Docstring) : Section × List Text → Docstring
  | (s, body) =>
    let lines := body.filter (!isBlank ·)
    match s with
    | .parameters => lines.foldl (addParameterLine (margin body)) doc
    | .returns =>
      let returns := lines.foldl addReturnsLine (doc.returns.getD {})
      { doc with returns := if returns == {} then none else some returns }
    | .raises => lines.foldl (addRaisesLine (margin body)) doc
    | .examples => doc.addExample body
    | .notes => (paragraphText? body).elim doc doc.addNote
    | .seeAlso =>
      if lines.isEmpty then doc
      else doc.addNote (("See also: " : Text) ++ joinWith " " (lines.map trim))
    | .ignored => doc

/-- A docstring whose sections are headed by underlined titles. -/
def parse (lines : List Text) : Docstring :=
  let (doc, rest) := withProse opensSection lines
  (sections rest).foldl addSection doc

end SymbolDocs.NumPy
