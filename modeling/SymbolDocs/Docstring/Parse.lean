import SymbolDocs.Docstring.FieldList
import SymbolDocs.Docstring.Google
import SymbolDocs.Docstring.NumPy
import SymbolDocs.Docstring.Reference

namespace SymbolDocs

inductive DocstringStyle where
  | numpy
  | google
  | fieldList
  deriving DecidableEq, Repr

namespace DocstringStyle

open Text

def label : DocstringStyle → Text
  | numpy => "numpy"
  | google => "google"
  | fieldList => "rest"

def isTabOrSpace (c : Char) : Bool := c == ' ' || c == '\t'

def dropTabsAndSpaces (s : Text) : Text := s.dropWhile isTabOrSpace

/-- A title that tells the NumPy style apart, on a line that may end in a carriage return. -/
def isNumPyTitle (line : Text) : Bool :=
  let title := dropEndWhile isTabOrSpace ((before? "\r" line).getD line)
  [("Parameters" : Text), "Other Parameters", "Returns", "Yields", "Raises"].contains
    (dropTabsAndSpaces title)

/-- Three or more dashes, and no carriage return. -/
def isDashLine (line : Text) : Bool :=
  let dashes := dropEndWhile isTabOrSpace (dropTabsAndSpaces line)
  3 ≤ dashes.length && dashes.all (· == '-')

def isGoogleTitle (line : Text) : Bool :=
  let title := dropEndWhile isTabOrSpace (dropTabsAndSpaces line)
  [("Args:" : Text), "Arguments:", "Keyword Args:", "Returns:", "Yields:", "Raises:"].contains
    title

/-- Some line is a title and the next one underlines it. -/
def hasUnderlinedTitle : List Text → Bool
  | title :: under :: rest =>
    (isNumPyTitle title && isDashLine under) || hasUnderlinedTitle (under :: rest)
  | _ => false

/-- The style of a raw text, told by the first kind of header it has. Lines end at line feeds. -/
def detect (text : Text) : DocstringStyle :=
  let lines := splitOn '\n' text
  if hasUnderlinedTitle lines then numpy
  else if lines.any isGoogleTitle then google
  else fieldList

def parser : DocstringStyle → List Text → Docstring
  | numpy => NumPy.parse
  | google => Google.parse
  | fieldList => FieldList.parse

end DocstringStyle

namespace Docstring

/-- The docstring with every reference in its prose in Markdown; types, names and examples stay. -/
def withMarkdown (doc : Docstring) : Docstring :=
  let linked (slot : Option Text) := slot.map Reference.toMarkdown
  { doc with
    summary := linked doc.summary
    description := linked doc.description
    parameters := doc.parameters.map fun p => { p with description := linked p.description }
    returns := doc.returns.map fun r => { r with description := linked r.description }
    raises := doc.raises.map fun r => { r with description := linked r.description }
    notes := doc.notes.map Reference.toMarkdown }

/-- A docstring of any style. -/
def parse (text : Text) : Docstring :=
  match Text.tidyLines text with
  | [] => {}
  | lines => ((DocstringStyle.detect text).parser lines).withMarkdown

end Docstring
end SymbolDocs
