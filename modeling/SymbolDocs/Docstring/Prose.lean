import SymbolDocs.Record.Encoding
import SymbolDocs.Text.Layout

namespace SymbolDocs

/-- What a docstring says, by its sections. -/
structure Docstring where
  summary : Option Text := none
  description : Option Text := none
  parameters : List Parameter := []
  returns : Option Returns := none
  raises : List Raise := []
  examples : List Text := []
  notes : List Text := []
  deriving DecidableEq, Repr, Inhabited

namespace Docstring

def isEmpty (doc : Docstring) : Bool := doc == {}

/-- Continues the description of the last parameter; without one the text is lost. -/
def describeLastParameter (doc : Docstring) (text : Text) : Docstring :=
  { doc with parameters := doc.parameters.modify (doc.parameters.length - 1) (·.describe text) }

def describeLastRaise (doc : Docstring) (text : Text) : Docstring :=
  { doc with raises := doc.raises.modify (doc.raises.length - 1) (·.describe text) }

/-- Summary, description and notes as one block of Markdown. -/
def markdown? (doc : Docstring) : Option Text :=
  let blocks := doc.summary.toList ++ doc.description.toList ++
    doc.notes.map fun note => '>' :: ' ' :: note
  Text.nonEmpty? (Text.joinWith "\n\n" blocks)

def toJson (doc : Docstring) : Json :=
  .object <| Json.field? "summary" .string doc.summary ++
    Json.field? "description" .string doc.description ++
    Json.items? "parameters" Parameter.toJson doc.parameters ++
    Json.field? "returns" Returns.toJson doc.returns ++
    Json.items? "raises" Raise.toJson doc.raises ++
    Json.items? "examples" .string doc.examples ++
    Json.items? "notes" .string doc.notes

end Docstring
end SymbolDocs

namespace SymbolDocs.Docstring

open Text

/-- The lines before the first place where `stop` holds of what is left, and the lines from there
on. -/
def spanUntil (stop : List Text → Bool) : List Text → List Text × List Text
  | [] => ([], [])
  | line :: rest =>
    if stop (line :: rest) then ([], line :: rest)
    else
      let (before, after) := spanUntil stop rest
      (line :: before, after)

theorem length_spanUntil_le (stop : List Text → Bool) (lines : List Text) :
    (spanUntil stop lines).2.length ≤ lines.length := by
  induction lines with
  | nil => simp [spanUntil]
  | cons line rest ih =>
    unfold spanUntil
    split
    · simp
    · simp only [List.length_cons]
      omega

/-- Summary and description in front of the first header, and the lines from the header on. The
summary is the first run of lines, underlines left out. -/
def splitProse (isHeader : List Text → Bool) (lines : List Text) :
    Option Text × Option Text × List Text :=
  let stopsSummary (rest : List Text) := rest.head?.any isBlank || isHeader rest
  let (first, rest) := spanUntil stopsSummary (lines.dropWhile isBlank)
  let (body, rest) := spanUntil isHeader rest
  let summary := joinWith " " ((first.filter (!isTitleRule ·)).map trim)
  (nonEmpty? summary, paragraphText? body, rest)

/-- The docstring so far and the lines from the first header on. -/
def withProse (isHeader : List Text → Bool) (lines : List Text) : Docstring × List Text :=
  let (summary, description, rest) := splitProse isHeader lines
  ({ summary, description }, rest)

/-- A block of examples, unless it is blank. -/
def addExample (doc : Docstring) (body : List Text) : Docstring :=
  { doc with examples := doc.examples ++ (nonEmpty? (dedent body)).toList }

def addNote (doc : Docstring) (note : Text) : Docstring := { doc with notes := doc.notes ++ [note] }

end SymbolDocs.Docstring
