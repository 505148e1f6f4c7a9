import SymbolDocs.Text.CharClass
import SymbolDocs.Text.UnprintableTable

namespace SymbolDocs.Text

/-- Characters that a quoted text spells by their code point. -/
def isUnprintable (c : Char) : Bool :=
  if isAsciiChar c then isControl c else inBounds unprintableBounds c

def hexDigits (n : Nat) : Text := Nat.toDigits 16 n

/-- One character inside double quotes. -/
def quoteChar (c : Char) : Text :=
  match c with
  | '"' => ['\\', '"']
  | '\\' => ['\\', '\\']
  | '\n' => ['\\', 'n']
  | '\r' => ['\\', 'r']
  | '\t' => ['\\', 't']
  | '\x00' => ['\\', '0']
  | c => if isUnprintable c then ['\\', 'u', '{'] ++ hexDigits c.toNat ++ ['}'] else [c]

/-- The text in double quotes, as messages show a text that is at fault. -/
def quoted (s : Text) : Text := ['"'] ++ s.flatMap quoteChar ++ ['"']

end SymbolDocs.Text
