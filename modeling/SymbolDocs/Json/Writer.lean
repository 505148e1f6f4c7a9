import SymbolDocs.Json.Basic
import SymbolDocs.Number.Shortest

namespace SymbolDocs.Json

def hexDigit (n : Nat) : Char := Nat.digitChar (n % 16)

/-- Quotes, backslashes and the C0 controls are escaped; all else stands for itself. -/
def escapeChar (c : Char) : Text :=
  match c with
  | '"' => ['\\', '"']
  | '\\' => ['\\', '\\']
  | '\n' => ['\\', 'n']
  | '\r' => ['\\', 'r']
  | '\t' => ['\\', 't']
  | '\x08' => ['\\', 'b']
  | '\x0c' => ['\\', 'f']
  | c =>
    if c.toNat < 0x20 then ['\\', 'u', '0', '0', hexDigit (c.toNat / 16), hexDigit c.toNat]
    else [c]

def writeString (s : Text) : Text := ['"'] ++ s.flatMap escapeChar ++ ['"']

def writeInt (i : Int) : Text :=
  if i < 0 then '-' :: Text.ofNat i.natAbs else Text.ofNat i.natAbs

def Number.write : Number → Text
  | .int i => writeInt i
  | .real x => x.toText

mutual

/-- The text without spaces or line breaks; what denotes nothing is written as null. -/
def write : Json → Text
  | .null => "null"
  | .void => "null"
  | .bool b => if b then "true" else "false"
  | .number n => n.write
  | .string s => writeString s
  | .array [] => ['[', ']']
  | .array (x :: xs) => '[' :: (write x ++ writeItems xs)
  | .object [] => ['\x7b', '\x7d']
  | .object ((k, v) :: fs) => '\x7b' :: (writeString k ++ ':' :: (write v ++ writeFields fs))

/-- The items after the first one and the closing bracket. -/
def writeItems : List Json → Text
  | [] => [']']
  | x :: xs => ',' :: (write x ++ writeItems xs)

/-- The fields after the first one and the closing brace. -/
def writeFields : List (Text × Json) → Text
  | [] => ['\x7d']
  | (k, v) :: fs => ',' :: (writeString k ++ ':' :: (write v ++ writeFields fs))

end

def newLine (depth : Nat) : Text := '\n' :: List.replicate (2 * depth) ' '

mutual

/-- The text with one item or field on a line, each level indented by two. -/
def pretty (depth : Nat) : Json → Text
  | .array (x :: xs) =>
    '[' :: newLine (depth + 1) ++ pretty (depth + 1) x ++ prettyItems depth xs
  | .object ((k, v) :: fs) =>
    '\x7b' :: newLine (depth + 1) ++ writeString k ++ [':', ' '] ++ pretty (depth + 1) v ++
      prettyFields depth fs
  | j => write j

def prettyItems (depth : Nat) : List Json → Text
  | [] => newLine depth ++ [']']
  | x :: xs => ',' :: newLine (depth + 1) ++ pretty (depth + 1) x ++ prettyItems depth xs

def prettyFields (depth : Nat) : List (Text × Json) → Text
  | [] => newLine depth ++ ['\x7d']
  | (k, v) :: fs =>
    ',' :: newLine (depth + 1) ++ writeString k ++ [':', ' '] ++ pretty (depth + 1) v ++
      prettyFields depth fs

end

end SymbolDocs.Json
