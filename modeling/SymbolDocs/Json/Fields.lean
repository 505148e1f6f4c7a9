import SymbolDocs.Json.Reader

namespace SymbolDocs.Json

def text? : Json → Option Text
  | .string s => some s
  | _ => none

def bool? : Json → Option Bool
  | .bool b => some b
  | _ => none

/-- A whole number of at most `greatest`, written without point or exponent. -/
def natUpTo? (greatest : Nat) : Json → Option Nat
  | .number (.int (.ofNat n)) => if n ≤ greatest then some n else none
  | _ => none

def intWithin? (least greatest : Int) : Json → Option Int
  | .number (.int i) => if least ≤ i ∧ i ≤ greatest then some i else none
  | _ => none

def real? : Json → Option Binary64
  | .number (.int i) => some (Binary64.ofInt i)
  | .number (.real x) => some x
  | _ => none

def list? (decode : Json → Option α) : Json → Option (List α)
  | .array xs => xs.mapM decode
  | _ => none

/-- Sets a value in a list of pairs: a name that is there keeps its place, a new one goes last. -/
def setPair (name : Text) (value : α) : List (Text × α) → List (Text × α)
  | [] => [(name, value)]
  | (n, v) :: rest => if n = name then (n, value) :: rest else (n, v) :: setPair name value rest

/-- An object read as a map: of a repeated name the last value counts, at the first one's place. -/
def map? (decode : Json → Option α) : Json → Option (List (Text × α))
  | .object fs => fs.foldlM (fun map (name, v) => (decode v).map (setPair name · map)) []
  | _ => none

def lookup? (name : Text) (fields : List (Text × Json)) : Option Json :=
  (fields.find? (·.1 == name)).map (·.2)

/-- The values given for the fields of a structure: an object names them, each at most once, and an
array lists them in order. -/
def slots? (names : List Text) : Json → Option (List (Option Json))
  | .object fs =>
    if names.all fun name => fs.countP (·.1 == name) ≤ 1 then
      some (names.map (lookup? · fs))
    else none
  | .array xs =>
    if xs.length ≤ names.length then
      some ((xs.map some) ++ List.replicate (names.length - xs.length) none)
    else none
  | _ => none

def required? (decode : Json → Option α) (slot : Option Json) : Option α := slot.bind decode

/-- A slot that may be missing or null. -/
def optional? (decode : Json → Option α) : Option Json → Option (Option α)
  | none | some .null => some none
  | some v => (decode v).map some

/-- A slot that may be missing but not null. -/
def orElse? (default : α) (decode : Json → Option α) : Option Json → Option α
  | none => some default
  | some v => decode v

mutual

/-- Whether the value and all its parts denote something. -/
def isSound : Json → Bool
  | .void => false
  | .array xs => areSound xs
  | .object fs => fieldsSound fs
  | _ => true

def areSound : List Json → Bool
  | [] => true
  | x :: xs => isSound x && areSound xs

def fieldsSound : List (Text × Json) → Bool
  | [] => true
  | (_, v) :: fs => isSound v && fieldsSound fs

end

mutual

/-- Arrays and objects around the innermost value. -/
def depth : Json → Nat
  | .array xs => depthOf xs + 1
  | .object fs => fieldsDepth fs + 1
  | _ => 0

def depthOf : List Json → Nat
  | [] => 0
  | x :: xs => max (depth x) (depthOf xs)

def fieldsDepth : List (Text × Json) → Nat
  | [] => 0
  | (_, v) :: fs => max (depth v) (fieldsDepth fs)

end

end SymbolDocs.Json
