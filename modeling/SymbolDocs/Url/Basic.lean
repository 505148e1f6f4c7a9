import SymbolDocs.Text.Utf8

namespace SymbolDocs

/-- A parsed URL, each part in its written form. A path with a slash in front is hierarchical. -/
structure Url where
  scheme : Text
  username : Text := []
  password : Text := []
  host : Option Text := none
  portNumber : Option Nat := none
  path : Text := []
  query : Option Text := none
  fragment : Option Text := none
  deriving DecidableEq, Repr, Inhabited

namespace Url

/-- Schemes with hosts, and where each host listens unless a number is given. -/
def specialSchemes : List (String × Option Nat) :=
  [("ftp", some 21), ("file", none), ("http", some 80), ("https", some 443), ("ws", some 80),
   ("wss", some 443)]

def isSpecialScheme (scheme : Text) : Bool := specialSchemes.any fun (s, _) => (s : Text) == scheme

def defaultPortNumber? (scheme : Text) : Option Nat :=
  (specialSchemes.find? fun (s, _) => (s : Text) == scheme).bind (·.2)

def isSpecial (u : Url) : Bool := isSpecialScheme u.scheme

/-- Whether the path is one text, without a hierarchy that a reference could be relative to. -/
def isOpaque (u : Url) : Bool := u.host.isNone && u.path.head? != some '/'

def credentialsText (u : Url) : Text :=
  if u.username.isEmpty && u.password.isEmpty then []
  else u.username ++ (if u.password.isEmpty then [] else ':' :: u.password) ++ ['@']

/-- The path, set off where its first two slashes would be read as the start of a host. -/
def pathText (u : Url) : Text :=
  if u.host.isNone && Text.startsWith u.path "//" then '/' :: '.' :: u.path else u.path

def toText (u : Url) : Text :=
  u.scheme ++ ':' ::
    (match u.host with
      | some host =>
        '/' :: '/' :: u.credentialsText ++ host ++
          (match u.portNumber with
            | some n => ':' :: Text.ofNat n
            | none => [])
      | none => []) ++
    u.pathText ++
    (match u.query with
      | some query => '?' :: query
      | none => []) ++
    (match u.fragment with
      | some fragment => '#' :: fragment
      | none => [])

end Url
end SymbolDocs

namespace SymbolDocs.Url

def upperHexDigit (n : Nat) : Char := (Nat.digitChar (n % 16)).toUpper

def percentByte (b : UInt8) : Text := ['%', upperHexDigit (b.toNat / 16), upperHexDigit b.toNat]

/-- Controls, and everything that is not ASCII. -/
def inControlSet (c : Char) : Bool := c.toNat < 0x20 || 0x7E < c.toNat

def inFragmentSet (c : Char) : Bool := inControlSet c || " \"<>`".toList.contains c

def inQuerySet (c : Char) : Bool := inControlSet c || " \"#<>".toList.contains c

def inSpecialQuerySet (c : Char) : Bool := inQuerySet c || c == '\''

def inPathSet (c : Char) : Bool := inQuerySet c || "?`\x7b\x7d".toList.contains c

def inUserinfoSet (c : Char) : Bool := inPathSet c || "/:;=@[\\]^|".toList.contains c

/-- The text with the UTF-8 bytes of each character of a set percent-encoded. -/
def percentEncode (inSet : Char → Bool) (s : Text) : Text :=
  s.flatMap fun c => if inSet c then (String.utf8EncodeChar c).flatMap percentByte else [c]

/-- The bytes of a text, where `%` and two hexadecimal digits are one byte. -/
def percentDecode : Text → Bytes
  | '%' :: a :: b :: s =>
    match Text.hexValue? a, Text.hexValue? b with
    | some x, some y => UInt8.ofNat (x * 16 + y) :: percentDecode s
    | _, _ => 0x25 :: percentDecode (a :: b :: s)
  | c :: s => String.utf8EncodeChar c ++ percentDecode s
  | [] => []

end SymbolDocs.Url
