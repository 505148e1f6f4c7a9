import SymbolDocs.Text.Basic
import SymbolDocs.Url.Basic

namespace SymbolDocs.Url

open Text

/-- Tabs and line breaks count for nothing in a URL. -/
def isBreak (c : Char) : Bool := c == '\t' || c == '\n' || c == '\r'

def plain (s : Text) : Text := s.filter (!isBreak ·)

/-- The next character that counts, and what follows it. -/
def next? : Text → Option (Char × Text)
  | [] => none
  | c :: s => if isBreak c then next? s else some (c, s)

def isSlash (isSpecial : Bool) (c : Char) : Bool := c == '/' || (isSpecial && c == '\\')

def endsPath (c : Char) : Bool := c == '?' || c == '#'

def isDot (segment : Text) : Bool := [("." : Text), "%2e"].contains (asciiLower segment)

def isDoubleDot (segment : Text) : Bool :=
  [(".." : Text), ".%2e", "%2e.", "%2e%2e"].contains (asciiLower segment)

/-- A letter and a colon, or the bar that may stand for it. -/
def isDriveLetter (s : Text) : Bool :=
  match s with
  | [letter, mark] => letter.isAlpha && (mark == ':' || mark == '|')
  | _ => false

def isNormalDriveLetter (s : Text) : Bool := isDriveLetter s && s.getLast? == some ':'

def startsWithDriveLetter (s : Text) : Bool :=
  isDriveLetter (s.take 2) && (s.drop 2).head?.all fun c => isSlash true c || endsPath c

/-- The path without its last segment, though not without a drive. -/
def parentPath (isFile : Bool) (path : Text) : Text :=
  let segment := lastPart '/' path
  if isFile && isNormalDriveLetter segment then path
  else path.take (path.length - segment.length)

/-- Where a double dot leads behind a path that ends in a slash. What looks like a drive is never
left, with any scheme. -/
def upPath (isFile : Bool) (path : Text) : Text :=
  match before? ['/'] path with
  | some front =>
    if front.contains '/' && !startsWithDriveLetter (lastPart '/' front ++ ['/']) then
      parentPath isFile front
    else path
  | none => parentPath isFile path

def closedPath (path : Text) : Text := if path.getLast? == some '/' then path else path ++ ['/']

/-- A path while it is being read, and whether a drive has been named as its first segment. -/
structure PathDraft where
  text : Text
  hasDrive : Bool := false
  deriving DecidableEq, Repr

/-- A drive that a segment begins with, where a break sets it off from what follows. -/
def brokenDrive? (segment : Text) : Option (Text × Text) := do
  let (letter, s) ← next? segment
  let (mark, s) ← next? s
  let name := plain s
  if isNormalDriveLetter [letter, mark] && s.head?.any isBreak && !name.isEmpty then
    some ([letter, mark], name)
  else none

/-- The path with one more segment, which is the last one or has a slash behind it. -/
def addSegment (isFile : Bool) (draft : PathDraft) (segment : Text) (isLast : Bool) : PathDraft :=
  let slash := if isLast then [] else ['/']
  let name := plain segment
  let path :=
    if isFile && !name.isEmpty && isNormalDriveLetter (draft.text.drop 1) then draft.text ++ ['/']
    else draft.text
  let isFirst := isFile && path.length == 1
  match if isFirst then brokenDrive? segment else none with
  | some (drive, name) =>
    { draft with text := path ++ drive ++ '/' :: percentEncode inPathSet name ++ slash }
  | none =>
    if isDoubleDot name then
      let path := upPath isFile path
      { draft with text := if isLast then path else closedPath path }
    else if isDot name then { draft with text := closedPath path }
    else if isFirst && isDriveLetter name then
      { text := path ++ name.take 1 ++ ':' :: slash, hasDrive := true }
    else { draft with text := path ++ percentEncode inPathSet name ++ slash }

def addSegments (isFile : Bool) (draft : PathDraft) : List Text → PathDraft
  | [] => draft
  | [last] => addSegment isFile draft last true
  | segment :: more => addSegments isFile (addSegment isFile draft segment false) more

/-- The path that segments lead to from another path. In a `file` URL it begins with one slash. -/
def pathFrom (isFile : Bool) (path : Text) (segments : List Text) : PathDraft :=
  let draft := addSegments isFile { text := path } segments
  if isFile then { draft with text := '/' :: draft.text.dropWhile (· == '/') } else draft

end SymbolDocs.Url
