import SymbolDocs.Text.Basic
import SymbolDocs.Number.Binary64

namespace SymbolDocs

/-- Where a record comes from. -/
inductive Source where
  | static
  | sphinx
  | pypi
  | devdocs
  | runtime
  | local
  | fallback
  | unknown
  deriving DecidableEq, Repr, Inhabited

namespace Source

def all : List Source := [static, sphinx, pypi, devdocs, runtime, .local, fallback, unknown]

def label : Source → Text
  | static => "static"
  | sphinx => "sphinx"
  | pypi => "pypi"
  | devdocs => "devdocs"
  | runtime => "runtime"
  | .local => "local"
  | fallback => "fallback"
  | unknown => "unknown"

end Source

/-- Adds the trimmed text to a description, a space between; blank text adds nothing. -/
def extendedBy (slot : Option Text) (text : Text) : Option Text :=
  let t := Text.trim text
  if t.isEmpty then slot
  else match slot with
    | some (c :: cs) => some (c :: cs ++ ' ' :: t)
    | _ => some t

structure Parameter where
  name : Text
  type : Option Text := none
  description : Option Text := none
  default : Option Text := none
  deriving DecidableEq, Repr, Inhabited

structure Returns where
  type : Option Text := none
  description : Option Text := none
  deriving DecidableEq, Repr, Inhabited

structure Raise where
  type : Text
  description : Option Text := none
  deriving DecidableEq, Repr, Inhabited

structure Badge where
  label : Text
  tooltip : Option Text := none
  deriving DecidableEq, Repr, Inhabited

namespace Parameter

def describe (p : Parameter) (text : Text) : Parameter :=
  { p with description := extendedBy p.description text }

end Parameter

namespace Returns

def describe (r : Returns) (text : Text) : Returns :=
  { r with description := extendedBy r.description text }

end Returns

namespace Raise

def describe (r : Raise) (text : Text) : Raise :=
  { r with description := extendedBy r.description text }

end Raise

/-- Links by label, in the order of the labels. -/
abbrev Links := List (Text × Text)

namespace Links

def get? (label : Text) (links : Links) : Option Text :=
  (links.find? (·.1 == label)).map (·.2)

/-- Sets the link of a label. -/
def set (label url : Text) : Links → Links
  | [] => [(label, url)]
  | (l, u) :: rest =>
    if l = label then (label, url) :: rest
    else if label < l then (label, url) :: (l, u) :: rest
    else (l, u) :: set label url rest

/-- Sets the link of a label that has none. -/
def setNew (label url : Text) (links : Links) : Links :=
  if (links.get? label).isSome then links else links.set label url

end Links

/-- The documentation of one symbol. -/
structure Record where
  title : Text
  kind : Option Text := none
  signature : Option Text := none
  summary : Option Text := none
  parameters : List Parameter := []
  returns : Option Returns := none
  raises : List Raise := []
  examples : List Text := []
  url : Option Text := none
  links : Links := []
  badges : List Badge := []
  related : List Text := []
  source : Source
  confidence : Binary64
  deriving DecidableEq, Repr, Inhabited

namespace Record

def addLink (r : Record) (label url : Text) : Record := { r with links := r.links.set label url }

/-- Adds a badge unless one of its label is there. -/
def addBadge (r : Record) (badge : Badge) : Record :=
  if r.badges.any (·.label == badge.label) then r else { r with badges := r.badges ++ [badge] }

end Record

/-- What stands behind the first `#` of a URL, unless it is empty. -/
def fragmentOf? (url : Text) : Option Text :=
  (Text.cut? '#' url).bind fun (_, fragment) => Text.nonEmpty? fragment

def Record.anchor? (r : Record) : Option Text := r.url.bind fragmentOf?

/-- How far a source is trusted. -/
def Source.confidence : Source → Binary64
  | static | sphinx | .local => Binary64.one
  | runtime => ⟨false, 0x1ccccccccccccd, -53⟩
  | pypi => ⟨false, 0x18000000000000, -53⟩
  | devdocs | fallback => ⟨false, 0x13333333333333, -54⟩
  | unknown => Binary64.zero

/-- A record of a source without any content. -/
def Record.titled (title : Text) (source : Source) : Record :=
  { title, source, confidence := source.confidence }

end SymbolDocs
