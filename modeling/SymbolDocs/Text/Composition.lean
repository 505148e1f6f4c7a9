import SymbolDocs.Text.Basic
import SymbolDocs.Text.CharClass
import SymbolDocs.Text.DecompositionTable

namespace SymbolDocs.Text

/-- Code points from `first` to `last`, each `step` behind the one before, with something that
holds for all of them. -/
structure Run where
  first : Nat
  last : Nat
  step : Nat
  value : Text
  deriving DecidableEq, Repr, Inhabited

namespace Run

/-- A run as `first-last/step=value`, where the last code point may be left out, and a step of 1. -/
def ofWord (word : Text) : Run :=
  let (points, value) := (cut? '=' word).getD (word, [])
  let (bounds, step) := (cut? '/' points).getD (points, ['1'])
  let (first, last) := (cut? '-' bounds).getD (bounds, bounds)
  { first := hexNumber first, last := hexNumber last, step := hexNumber step, value }

/-- The runs of a table, which has a word for each. -/
def ofTable (table : String) : List Run := (words table).map ofWord

def covers (r : Run) (c : Char) : Bool :=
  r.first ≤ c.toNat && c.toNat ≤ r.last && (c.toNat - r.first) % r.step == 0

/-- The characters that a run of code points gives for one of its members: `41+300` for the first
member, and for any other one the first character as far ahead as the member is. -/
def characters (r : Run) (c : Char) : Text :=
  match (splitOn '+' r.value).map hexNumber with
  | [] => []
  | point :: points => ((point + (c.toNat - r.first)) :: points).map Char.ofNat

end Run

def runAt? (runs : List Run) (c : Char) : Option Run := runs.find? (·.covers c)

def combiningRuns : List Run := Run.ofTable combiningTable

/-- The canonical combining class: 0 for a character that marks do not pass on their way. -/
def combiningClass (c : Char) : Nat :=
  if isAsciiChar c then 0
  else match runAt? combiningRuns c with
    | some run => run.value.foldl (fun n d => n * 10 + (d.toNat - '0'.toNat)) 0
    | none => 0

def compositeRuns : List Run := Run.ofTable compositeTable

def breakupRuns : List Run := Run.ofTable breakupTable

/-- A Hangul syllable is counted out from its leading consonant, vowel and trailing consonant. -/
def syllableParts? (c : Char) : Option Text :=
  let n := c.toNat
  if n < 0xAC00 || 0xD7A3 < n then none
  else
    let i := n - 0xAC00
    let front := [Char.ofNat (0x1100 + i / 588), Char.ofNat (0x1161 + i % 588 / 28)]
    some (if i % 28 = 0 then front else front ++ [Char.ofNat (0x11A7 + i % 28)])

/-- The one or two characters that a character comes apart into, or itself. -/
def parts (c : Char) : Text :=
  if isAsciiChar c then [c]
  else match syllableParts? c with
    | some jamo => jamo
    | none =>
      match (runAt? compositeRuns c).or (runAt? breakupRuns c) with
      | some run => run.characters c
      | none => [c]

/-- No character comes apart more than three times over. -/
def takeApart (s : Text) : Text := ((s.flatMap parts).flatMap parts).flatMap parts

/-- Puts a mark in front of the marks of higher classes that it stands before. -/
def insertMark (c : Char) (s : Text) : Text :=
  match s with
  | [] => [c]
  | d :: s =>
    if combiningClass d ≠ 0 && combiningClass d < combiningClass c then d :: insertMark c s
    else c :: d :: s

/-- Marks in the order of their classes, up to the next character of class 0. -/
def orderMarks (s : Text) : Text := s.foldr insertMark []

/-- Pairs of characters with what they are put together to. -/
def composites : List (Text × Char) :=
  compositeRuns.map fun run =>
    let c := Char.ofNat run.first
    (run.characters c, c)

def syllable? (a b : Char) : Option Char :=
  let m := a.toNat
  let n := b.toNat
  if 0x1100 ≤ m && m ≤ 0x1112 && 0x1161 ≤ n && n ≤ 0x1175 then
    some (Char.ofNat (0xAC00 + (m - 0x1100) * 588 + (n - 0x1161) * 28))
  else if 0xAC00 ≤ m && m ≤ 0xD7A3 && (m - 0xAC00) % 28 == 0 && 0x11A8 ≤ n && n ≤ 0x11C2 then
    some (Char.ofNat (m + (n - 0x11A7)))
  else none

def composite? (a b : Char) : Option Char :=
  (syllable? a b).or ((composites.find? fun (pair, _) => pair == [a, b]).map (·.2))

/-- Puts a character together with those behind it that it takes up, and so on. `passed` holds what
it has not taken up yet, last first: only a mark of a higher class than the last of those reaches
the character. -/
def putTogether (c : Char) (passed : Text) : Text → Text
  | [] => c :: passed.reverse
  | d :: s =>
    let isReached := passed.head?.all fun p => combiningClass p < combiningClass d
    match if isReached then composite? c d else none with
    | some whole => putTogether whole passed s
    | none =>
      if combiningClass d = 0 then c :: passed.reverse ++ putTogether d [] s
      else putTogether c (d :: passed) s

/-- Normalization form C. -/
def compose (s : Text) : Text :=
  match orderMarks (takeApart s) with
  | [] => []
  | c :: s => putTogether c [] s

end SymbolDocs.Text
