import SymbolDocs.Html.CharRef
import SymbolDocs.Html.Token

namespace SymbolDocs.Html

open Text

/-- Without a byte order mark, and with line feeds for all line endings. -/
def normalizeInput (s : Text) : Text :=
  lineFeeds ((after? ['\ufeff'] s).getD s)
where
  lineFeeds : Text → Text
    | '\r' :: '\n' :: s => '\n' :: lineFeeds s
    | '\r' :: s => '\n' :: lineFeeds s
    | c :: s => c :: lineFeeds s
    | [] => []

def showNul (s : Text) : Text := s.map fun c => if c = '\x00' then '\ufffd' else c

def nameOf (s : Text) : String := String.ofList (showNul (asciiLower s))

def endsName (c : Char) : Bool := isSpaceChar c || c == '/' || c == '>'

/-- The value behind an equals sign, and the rest; none when the text ends in it. -/
def attributeValue? (s : Text) : Option (Text × Text) :=
  match s.dropWhile isSpaceChar with
  | '"' :: rest => cut? '"' rest
  | '\'' :: rest => cut? '\'' rest
  | '>' :: rest => some ([], '>' :: rest)
  | rest =>
    let (value, rest) := rest.span fun c => !(isSpaceChar c || c == '>')
    if rest.isEmpty then none else some (value, rest)

def addAttribute (name : String) (value : Text) (attributes : Attributes) : Attributes :=
  if attributes.any (·.1 == name) then attributes else attributes ++ [(name, value)]

/-- The rest of a tag behind its name: attributes, whether it closes itself, and what follows it.
None when the text ends in the tag. -/
def tagRest? : Nat → Attributes → Text → Option (Attributes × Bool × Text)
  | 0, _, _ => none
  | fuel + 1, attributes, s =>
    match s.dropWhile isSpaceChar with
    | [] => none
    | '>' :: rest => some (attributes, false, rest)
    | '/' :: '>' :: rest => some (attributes, true, rest)
    | '/' :: rest => tagRest? fuel attributes rest
    | c :: rest =>
      let (more, rest) := rest.span fun c => !(endsName c || c == '=')
      let name := nameOf (c :: more)
      match rest.dropWhile isSpaceChar with
      | '=' :: rest => do
        let (value, rest) ← attributeValue? rest
        let value := showNul (expandReferences true value)
        tagRest? fuel (addAttribute name value attributes) rest
      | rest => tagRest? fuel (addAttribute name [] attributes) rest

/-- A tag whose name starts the text; nothing at all when the text ends in it. -/
def tagToken (isEnd : Bool) (s : Text) : List Token × Text :=
  let (name, rest) := s.span (!endsName ·)
  match tagRest? (rest.length + 1) [] rest with
  | none => ([], [])
  | some (attributes, selfClosing, rest) =>
    let name := nameOf name
    ([if isEnd then .endTag name else .startTag { name, attributes, selfClosing }], rest)

/-- The content of a comment up to its end, and the rest. -/
def commentBody : Text → Text × Text
  | '-' :: '-' :: '>' :: rest => ([], rest)
  | '-' :: '-' :: '!' :: '>' :: rest => ([], rest)
  | c :: rest =>
    let (body, rest) := commentBody rest
    (c :: body, rest)
  | [] => ([], [])

def commentToken (s : Text) : List Token × Text :=
  let (body, rest) := match s with
    | '>' :: rest => ([], rest)
    | '-' :: '>' :: rest => ([], rest)
    | s => commentBody s
  ([.comment body], rest)

/-- A malformed declaration is a comment up to the next `>`. -/
def bogusComment (s : Text) : List Token × Text :=
  let (body, rest) := s.span (· != '>')
  ([.comment body], rest.drop 1)

def doctypeToken (s : Text) : List Token × Text :=
  match cut? '>' s with
  | some (body, rest) => ([.doctype (Doctype.asksOldLayout body)], rest)
  | none => ([.doctype true], [])

/-- What follows `<!`. -/
def declaration (cdataAllowed : Bool) (s : Text) : List Token × Text :=
  match after? ['-', '-'] s, after? "[CDATA[" s with
  | some rest, _ => commentToken rest
  | none, some rest =>
    if cdataAllowed then
      let (body, rest) := (cutAt? "]]>" rest).getD (rest, [])
      (characterTokens body, rest)
    else bogusComment s
  | none, none =>
    if eqIgnoreCase (s.take 7) "doctype" then doctypeToken (s.drop 7) else bogusComment s

/-- The tokens at the start of text that has tags in it, and the rest. -/
def dataTokens (cdataAllowed : Bool) (s : Text) : List Token × Text :=
  match s with
  | [] => ([.eof], [])
  | '&' :: rest =>
    let (chars, rest) := characterReference false rest
    (characterTokens chars, rest)
  | '<' :: '!' :: rest => declaration cdataAllowed rest
  | '<' :: '?' :: rest => bogusComment ('?' :: rest)
  | '<' :: '/' :: '>' :: rest => ([], rest)
  | '<' :: '/' :: c :: rest =>
    if c.isAlpha then tagToken true (c :: rest) else bogusComment (c :: rest)
  | '<' :: '/' :: [] => (characterTokens ['<', '/'], [])
  | '<' :: c :: rest =>
    if c.isAlpha then tagToken false (c :: rest) else (characterTokens ['<'], c :: rest)
  | c :: rest =>
    let (more, rest) := rest.span fun c => !(c == '<' || c == '&')
    (characterTokens (c :: more), rest)

/-- What follows the name of an end tag at the start of the text. -/
def afterEndTag? (name : Text) (s : Text) : Option Text :=
  match s with
  | '<' :: '/' :: rest =>
    let tail := rest.drop name.length
    if eqIgnoreCase (rest.take name.length) name && tail.head?.any endsName then some tail else none
  | _ => none

/-- The text before an end tag, and what follows the tag's name if there is one. -/
def untilEndTag (name : Text) : Text → Text × Option Text
  | [] => ([], none)
  | c :: s =>
    match afterEndTag? name (c :: s) with
    | some rest => ([], some rest)
    | none =>
      let (before, rest) := untilEndTag name s
      (c :: before, rest)

/-- Where a script stands: outside of a comment, in one, or in a script in one. -/
inductive ScriptState where
  | plain
  | escaped
  | doubleEscaped
  deriving DecidableEq, Repr

/-- Whether a script starts here in a comment. -/
def startsScript (s : Text) : Bool :=
  eqIgnoreCase (s.take 7) "<script" && (s.drop 7).head?.any endsName

/-- The state behind the character at the start of the text. -/
def ScriptState.next (state : ScriptState) (s : Text) : ScriptState :=
  match state with
  | .plain => if (after? "<!--" s).isSome then .escaped else .plain
  | .escaped =>
    if (after? "-->" s).isSome then .plain
    else if startsScript s then .doubleEscaped
    else .escaped
  | .doubleEscaped =>
    if (after? "-->" s).isSome then .plain
    else if (afterEndTag? "script" s).isSome then .escaped
    else .doubleEscaped

/-- The text of a script, whose end tag does not count in a script in a comment. -/
def untilScriptEnd (state : ScriptState) : Text → Text × Option Text
  | [] => ([], none)
  | c :: s =>
    let ending := if state = .doubleEscaped then none else afterEndTag? "script" (c :: s)
    match ending with
    | some rest => ([], some rest)
    | none =>
      let (before, rest) := untilScriptEnd (state.next (c :: s)) s
      (c :: before, rest)

/-- Text up to the end tag of an element, and the end tag itself. -/
def elementText (name : String) (content : Text × Option Text) : List Token × Text :=
  let text := characterTokens (showNul content.1)
  match content.2 with
  | none => (text ++ [.eof], [])
  | some rest =>
    match tagRest? (rest.length + 1) [] rest with
    | none => (text ++ [.eof], [])
    | some (_, _, rest) => (text ++ [.endTag name], rest)

/-- The tokens at the start of a text, and the rest. The name is that of the last start tag. -/
def nextTokens (mode : TextMode) (name : String) (cdataAllowed : Bool) (s : Text) :
    List Token × Text :=
  match mode with
  | .data => dataTokens cdataAllowed s
  | .rcdata =>
    let (before, rest) := untilEndTag name s
    elementText name (expandReferences false before, rest)
  | .rawtext => elementText name (untilEndTag name s)
  | .script => elementText name (untilScriptEnd .plain s)
  | .plaintext => (characterTokens (showNul s) ++ [.eof], [])

end SymbolDocs.Html
