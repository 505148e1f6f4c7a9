import SymbolDocs.Text.CharClass

namespace SymbolDocs.Text

/-- What takes the place of the start of a text, given the character before it. The number tells how
many characters make way. -/
abbrev Substitution := Option Char → Text → Option (Text × Nat)

/-- Goes from left to right. The first `skip` characters have made way already. -/
def substituteFrom (sub : Substitution) (skip : Nat) (prev : Option Char) : Text → Text
  | [] => []
  | c :: s =>
    match skip with
    | skip + 1 => substituteFrom sub skip (some c) s
    | 0 =>
      match sub prev (c :: s) with
      | some (replacement, count) => replacement ++ substituteFrom sub (count - 1) (some c) s
      | none => c :: substituteFrom sub 0 (some c) s

/-- Substitutes wherever it is possible, leftmost first, in parts that do not overlap. -/
def substitute (sub : Substitution) (s : Text) : Text := substituteFrom sub 0 none s

/-- Whether a word can start after the character. -/
def isEdge (c : Option Char) : Bool := !c.any isWordChar

end SymbolDocs.Text
