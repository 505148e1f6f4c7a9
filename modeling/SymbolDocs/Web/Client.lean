import SymbolDocs.Fault
import SymbolDocs.Text.Utf8

namespace SymbolDocs

/-- What a server answers. -/
structure Reply where
  status : Nat
  location : Option Text := none
  body : Bytes := []
  deriving DecidableEq, Repr, Inhabited

def isSuccess (status : Nat) : Bool := 200 ≤ status && status < 300

def isRedirection (status : Nat) : Bool := 300 ≤ status && status < 400

/-- Whether a file is there, by the answer to a request for its head only. -/
def meansPresent (status : Nat) : Bool := status == 200 || isRedirection status

inductive Request where
  | head (url : Text)
  | get (url : Text)
  deriving DecidableEq, Repr

namespace Request

def url : Request → Text
  | head url => url
  | get url => url

def toText : Request → Text
  | head url => "HEAD " ++ url
  | get url => "GET " ++ url

end Request

/-- What the web answers, given the requests made before, the latest first. Only a closed connection
is a fault. -/
structure Client where
  head : List Request → Text → Except Fault Nat
  get : List Request → Text → Except Fault Reply

/-- A client with one answer for each address, whatever has been asked before. -/
structure Site where
  gets : List (Text × Reply) := []
  /-- The status of an address, or none where the connection is refused. -/
  heads : List (Text × Option Nat) := []
  deriving Repr, Inhabited

/-- Addresses without an answer refuse pages, and have no heads. -/
def Site.client (site : Site) : Client where
  head _ url :=
    match site.heads.lookup url with
    | some (some status) => .ok status
    | some none => .error (.refused url)
    | none => .ok 404
  get _ url :=
    match site.gets.lookup url with
    | some reply => .ok reply
    | none => .error (.refused url)

end SymbolDocs
