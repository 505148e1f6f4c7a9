import SymbolDocs.Text.Basic
import SymbolDocs.Number.Binary64

namespace SymbolDocs

/-- Integers are kept apart from numbers written with a point or an exponent. -/
inductive Json.Number where
  | int (value : Int)
  | real (value : Binary64)
  deriving DecidableEq, Repr, Inhabited

/-- A JSON document. Objects keep their fields in order, a repeated field included. -/
inductive Json where
  | null
  | bool (value : Bool)
  | number (value : Json.Number)
  | string (value : Text)
  | array (items : List Json)
  | object (fields : List (Text × Json))
  /-- A well-formed value that denotes nothing (a lone surrogate, a number out of range). It may
  stand only where it is not looked at. -/
  | void
  deriving Repr, Inhabited

namespace Json

def int (i : Int) : Json := .number (.int i)

def nat (n : Nat) : Json := .number (.int n)

def real (x : Binary64) : Json := .number (.real x)

def optional (encode : α → Json) : Option α → Json
  | none => .null
  | some a => encode a

def stringOrNull : Option Text → Json := optional .string

def strings (xs : List Text) : Json := .array (xs.map .string)

def field (name : Text) (value : Json) : List (Text × Json) := [(name, value)]

/-- A field that is written only when there is a value. -/
def field? (name : Text) (encode : α → Json) : Option α → List (Text × Json)
  | none => []
  | some a => [(name, encode a)]

/-- A list field that is written only when the list has items. -/
def items? (name : Text) (encode : α → Json) : List α → List (Text × Json)
  | [] => []
  | xs => [(name, .array (xs.map encode))]

end Json
end SymbolDocs
