import SymbolDocs.Text.Composition
import SymbolDocs.Text.PropertyTables
import SymbolDocs.Url.DomainTable
import SymbolDocs.Url.Punycode

namespace SymbolDocs.Url

open Text

def isMark (c : Char) : Bool := !isAsciiChar c && inBounds markBounds c

/-- How a character behaves in text of mixed direction. -/
inductive Direction where
  | leftToRight
  | rightToLeft
  | europeanNumber
  | arabicNumber
  | mark
  | neutral
  deriving DecidableEq, Repr

def directionRuns : List Run := Run.ofTable directionTable

def direction (c : Char) : Direction :=
  if c.isAlpha then .leftToRight
  else if c.isDigit then .europeanNumber
  else if isAsciiChar c then .neutral
  else match (runAt? directionRuns c).map (·.value) with
    | some ['R'] => .rightToLeft
    | some ['E', 'N'] => .europeanNumber
    | some ['A', 'N'] => .arabicNumber
    | some ['N', 'S', 'M'] => .mark
    | some _ => .neutral
    | none => .leftToRight

/-- Whether a label makes its domain one of mixed direction. -/
def hasRightToLeft (label : Text) : Bool :=
  label.any fun c => direction c == .rightToLeft || direction c == .arabicNumber

/-- A label begins with a letter of some direction and keeps to it: letters of the other direction
do not occur, no neutral stands at the end, marks aside, and from right to left the two
kinds of numbers do not meet. -/
def keepsDirection (label : Text) : Bool :=
  let ways := label.map direction
  let last? := (ways.reverse.dropWhile (· == .mark)).head?
  match ways with
  | [] => true
  | .leftToRight :: _ =>
    !ways.contains .rightToLeft && !ways.contains .arabicNumber && last? != some .neutral
  | .rightToLeft :: _ =>
    !ways.contains .leftToRight && last? != some .neutral &&
      !(ways.contains .europeanNumber && ways.contains .arabicNumber)
  | _ => false

def joiningRuns : List Run := Run.ofTable joiningTable

def joiningType? (c : Char) : Option Char :=
  if isAsciiChar c then none else (runAt? joiningRuns c).bind (·.value.head?)

/-- Whether the next character that is not transparent joins on a side. -/
def meetsJoining (side : Char) (s : Text) : Bool :=
  match s.dropWhile (joiningType? · == some 'T') with
  | [] => false
  | c :: _ => joiningType? c == some side || joiningType? c == some 'D'

/-- Joiners stand behind a virama only, the one that keeps apart also within a cursive word.
`before` is what has been read, last character first. -/
def joinersFit (before : Text) : Text → Bool
  | [] => true
  | c :: s =>
    let isBehindVirama := before.head?.any (combiningClass · == 9)
    (if c == '\u200d' then isBehindVirama
      else if c == '\u200c' then
        isBehindVirama || (meetsJoining 'L' before && meetsJoining 'R' s)
      else true) && joinersFit (c :: before) s

/-- A label does not begin with a mark, and its joiners have something to join. -/
def isSoundLabel (label : Text) : Bool := !label.head?.any isMark && joinersFit [] label

end SymbolDocs.Url

namespace SymbolDocs.Url.Domain

open Text

def mapRuns : List Run := Run.ofTable domainMapTable

/-- What a character becomes in a domain; none where it may not be used. -/
def mapChar? (c : Char) : Option Text :=
  if isAsciiChar c then some [c.toLower]
  else match runAt? mapRuns c with
    | some run => some (run.characters c)
    | none =>
      if inBounds unseenBounds c then some []
      else if inBounds domainBounds c then some [c]
      else none

/-- The one spelling of what is the same in a domain. -/
def normal? (s : Text) : Option Text :=
  if s.all isAsciiChar then some (asciiLower s)
  else (s.mapM mapChar?).map fun pieces => compose pieces.flatten

/-- The characters of a label, which may itself spell them in ASCII. Only what has to be spelt so,
and is normal, may be. -/
def labelCharacters? (label : Text) : Option Text :=
  match after? ['x', 'n', '-', '-'] label with
  | none => some label
  | some spelling => do
    let characters ← Punycode.decode? spelling
    if characters.all isAsciiChar || normal? characters != some characters then none
    else some characters

def labelToAscii? (label : Text) : Option Text :=
  if label.all isAsciiChar then some label
  else if 1000 < label.length then none
  else some ('x' :: 'n' :: '-' :: '-' :: Punycode.encode label)

/-- The ASCII form of a domain. -/
def toAscii? (domain : Text) : Option Text := do
  let labels := splitOn '.' (← normal? domain)
  let readings ← labels.mapM labelCharacters?
  if !readings.all isSoundLabel then none
  else if readings.any hasRightToLeft && !readings.all keepsDirection then none
  else return joinWith "." (← labels.mapM labelToAscii?)

end SymbolDocs.Url.Domain
