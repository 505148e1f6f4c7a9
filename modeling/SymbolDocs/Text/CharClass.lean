import SymbolDocs.Text.WordTable
import SymbolDocs.Text.AlphanumericTable
import SymbolDocs.Text.UppercaseTable
import SymbolDocs.Text.Basic

namespace SymbolDocs.Text

/-- A set of code points is given by its ascending bounds: a member has an odd number of bounds at
or below it. -/
def inBounds (bounds : List Nat) (c : Char) : Bool := bounds.countP (· ≤ c.toNat) % 2 == 1

def isAsciiChar (c : Char) : Bool := c.toNat < 0x80

/-- Letters, marks, decimal digits, connector punctuation and the joiners make up words. -/
def isWordChar (c : Char) : Bool :=
  if isAsciiChar c then c.isAlphanum || c == '_' else inBounds wordBounds c

def isDecimalDigit (c : Char) : Bool :=
  if isAsciiChar c then c.isDigit else inBounds digitBounds c

def isUppercase (c : Char) : Bool :=
  if isAsciiChar c then c.isUpper else inBounds uppercaseBounds c

/-- Unlike a word character, it may be any number sign but no lone mark. -/
def isAlphanumericChar (c : Char) : Bool :=
  if isAsciiChar c then c.isAlphanum else inBounds alphanumericBounds c

/-- The C0 and C1 controls and DEL. -/
def isControl (c : Char) : Bool := c.toNat < 0x20 || (0x7F ≤ c.toNat && c.toNat < 0xA0)

end SymbolDocs.Text
