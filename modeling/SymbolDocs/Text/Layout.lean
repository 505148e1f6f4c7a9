import SymbolDocs.Text.Basic

namespace SymbolDocs.Text

/-- Bytes of white space before the first other character. -/
def indentWidth (line : Text) : Nat := byteLength (line.takeWhile isBlankChar)

/-- Removes leading white space of at most `width` bytes, whole characters only. -/
def dropIndent (width : Nat) : Text → Text
  | [] => []
  | c :: s =>
    if isBlankChar c && c.utf8Size ≤ width then dropIndent (width - c.utf8Size) s else c :: s

/-- What is left behind the first `width` bytes, if they end between characters. -/
def dropBytes? : Nat → Text → Option Text
  | 0, s => some s
  | _ + 1, [] => none
  | width + 1, c :: s =>
    if c.utf8Size ≤ width + 1 then dropBytes? (width + 1 - c.utf8Size) s else none

/-- Three or more of the characters that underline a title. -/
def isTitleRule (line : Text) : Bool :=
  let t := trim line
  3 ≤ t.byteLength && t.all fun c => "-=~^*#+`".toList.contains c

/-- The least indentation of the lines that are not blank. -/
def margin (lines : List Text) : Nat :=
  (((lines.filter (!isBlank ·)).map indentWidth).min?).getD 0

/-- Without the blank lines at either end. -/
def dropBlankEnds (lines : List Text) : List Text :=
  (((lines.dropWhile isBlank).reverse).dropWhile isBlank).reverse

/-- The lines moved to the margin, blank ones at either end dropped. -/
def dedent (lines : List Text) : Text :=
  joinWith "\n" (dropBlankEnds (lines.map (dropIndent (margin lines))))

/-- Runs of lines that are not blank. -/
def paragraphs (lines : List Text) : List (List Text) :=
  (lines.foldr (fun line runs =>
    if isBlank line then [] :: runs
    else match runs with
      | [] => [[line]]
      | run :: more => (line :: run) :: more) [[]]).filter (!·.isEmpty)

/-- The paragraphs with one blank line between them, if there are any. -/
def paragraphText? (lines : List Text) : Option Text :=
  nonEmpty? (joinWith "\n\n" ((paragraphs lines).map fun run => joinWith "\n" (run.map trimEnd)))

/-- Unix lines with tabs expanded and trailing white space removed. -/
def plainLines (s : Text) : List Text :=
  (lines (unixLines s)).map fun line => trimEnd (expandTabs line)

/-- Lines of a text whose first line may start anywhere: the first one is trimmed, the others are
moved to their common margin, and blank lines at either end are dropped. -/
def tidyLines (s : Text) : List Text :=
  match plainLines s with
  | [] => []
  | first :: more =>
    let m := margin more
    let moved := more.map fun line => (dropBytes? m line).getD (trimStart line)
    dropBlankEnds (trimStart first :: moved)

/-- At most `count` characters of the text. -/
def truncate (count : Nat) (s : Text) : Text := s.take count

end SymbolDocs.Text
