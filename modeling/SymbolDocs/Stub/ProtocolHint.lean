import SymbolDocs.Text.Replace

namespace SymbolDocs.ProtocolHint

open Text

/-- Structural protocols and what it means to have one. -/
def table : List (String × String) :=
  [("SupportsIndex", "supports indexing (__index__)"),
   ("SupportsInt", "convertible with int()"),
   ("SupportsFloat", "convertible with float()"),
   ("SupportsAbs", "supports abs()"),
   ("SupportsRichComparison", "supports ordering comparisons"),
   ("SupportsKeysAndGetItem", "has keys() and item access"),
   ("SupportsLenAndGetItem", "has len() and item access"),
   ("SupportsRead", "has a read() method"),
   ("SupportsWrite", "has a write() method"),
   ("Iterable", "supports iteration"),
   ("Iterator", "is an iterator"),
   ("Sized", "has a length (len())"),
   ("Container", "supports membership tests (in)"),
   ("Collection", "sized, iterable container"),
   ("Sequence", "supports indexing and slicing"),
   ("Mapping", "read-only mapping"),
   ("Hashable", "is hashable"),
   ("Callable", "is callable"),
   ("Awaitable", "can be awaited")]

/-- The first protocol of the table whose name is the word at the start of a text. -/
def nameAt? (prev : Option Char) (s : Text) : Option Text :=
  if isEdge prev then
    table.findSome? fun (name, _) =>
      (after? name s).bind fun rest => if isEdge rest.head? then some (name : Text) else none
  else none

/-- Protocols from left to right. The first `skip` characters belong to one found already. -/
def namesFrom (skip : Nat) (prev : Option Char) : Text → List Text
  | [] => []
  | c :: s =>
    match skip with
    | skip + 1 => namesFrom skip (some c) s
    | 0 =>
      match nameAt? prev (c :: s) with
      | some name => name :: namesFrom (name.length - 1) (some c) s
      | none => namesFrom 0 (some c) s

/-- The protocols that a signature mentions. -/
def names (signature : Text) : List Text := namesFrom 0 none signature

/-- A hint for each protocol that a signature mentions, in the order of the table. -/
def hints (signature : Text) : List Text :=
  let found := names signature
  (table.filter fun (name, _) => found.contains (name : Text)).map fun (name, hint) =>
    (name : Text) ++ ':' :: ' ' :: (hint : Text)

end SymbolDocs.ProtocolHint
