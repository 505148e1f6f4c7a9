import SymbolDocs.Url.Basic
import SymbolDocs.Url.Host
import SymbolDocs.Url.Path

namespace SymbolDocs.Url

open Text

/-- Without controls and spaces at either end. -/
def trimInput (s : Text) : Text :=
  let isEdge (c : Char) : Bool := c.toNat ≤ 0x20
  dropEndWhile isEdge (s.dropWhile isEdge)

/-- A scheme in lower case and what follows its colon. -/
def scheme? (s : Text) : Option (Text × Text) := do
  let (scheme, rest) ← cut? ':' s
  let scheme := plain scheme
  let isSchemeChar (c : Char) : Bool := c.isAlphanum || c == '+' || c == '-' || c == '.'
  if scheme.head?.any Char.isAlpha && scheme.all isSchemeChar then some (asciiLower scheme, rest)
  else none

def isFile (u : Url) : Bool := u.scheme == "file"

/-- Query and fragment, each behind its mark. -/
def withTail (u : Url) (s : Text) : Url :=
  let (query, fragment) := match cut? '#' (plain s) with
    | some (before, fragment) => (before, some (percentEncode inFragmentSet fragment))
    | none => (plain s, none)
  let querySet := if u.isSpecial then inSpecialQuerySet else inQuerySet
  { u with
    query := match query with
      | '?' :: query => some (percentEncode querySet query)
      | _ => none
    fragment }

/-- The rest of a URL from its path on, whose segments lead on from a path. A drive may take the
place of the host. -/
def withPath (u : Url) (path s : Text) (dropsHost : Bool := false) : Url :=
  let (segments, tail) := s.span (!endsPath ·)
  let draft := pathFrom u.isFile path (splitWhen (isSlash u.isSpecial) segments)
  let host := if dropsHost && draft.hasDrive then some [] else u.host
  ({ u with path := draft.text, host }).withTail tail

/-- The rest of a URL behind its host. -/
def withPathStart (u : Url) (s : Text) : Url :=
  match next? s with
  | none => u.withPath (if u.isSpecial then ['/'] else []) []
  | some (c, rest) =>
    if isSlash u.isSpecial c then u.withPath ['/'] rest true
    else if endsPath c && !u.isSpecial then u.withTail s
    else u.withPath ['/'] s true

/-- Name and password in front of a host. -/
def withCredentials (u : Url) (s : Text) : Url :=
  let (name, password) := (cut? ':' s).getD (s, [])
  { u with
    username := percentEncode inUserinfoSet name
    password := percentEncode inUserinfoSet password }

/-- What stands around the first colon outside of brackets. -/
def splitPortNumber (s : Text) : Text × Option Text :=
  let bracketed := match s with
    | '[' :: _ => (s.span (· != ']')).1.length
    | _ => 0
  match (s.drop bracketed).span (· != ':') with
  | (host, ':' :: digits) => (s.take bracketed ++ host, some digits)
  | _ => (s, none)

/-- Where the host listens, if it differs from the scheme's usual number. -/
def portNumber? (scheme digits : Text) : Option (Option Nat) :=
  if digits.isEmpty then some none
  else if !digits.all Char.isDigit then none
  else do
    let n ← digitsIn? 10 digits
    if 65535 < n then none
    else some (if defaultPortNumber? scheme == some n then none else some n)

/-- The rest of a URL from its host on. Behind the digits of where the host listens, a path may
begin with a backslash. -/
def withAuthority (u : Url) (s : Text) : Option Url := do
  let (authority, rest) := s.span fun c => !(isSlash u.isSpecial c || endsPath c)
  let (credentials, place) := match cutLast? '@' (plain authority) with
    | some (credentials, place) => (some credentials, place)
    | none => (none, plain authority)
  let u := u.withCredentials (credentials.getD [])
  let (name, digits) := splitPortNumber place
  let isBare := u.username.isEmpty && u.password.isEmpty && digits.isNone &&
    (credentials != some [] || rest.isEmpty)
  if name.isEmpty && (u.isSpecial || !isBare) then none
  let host ← if name.isEmpty then some [] else host? u.isSpecial name
  let (digits, path) := (digits.getD []).span (· != '\\')
  let portNumber ← portNumber? u.scheme digits
  return { u with host := some host, portNumber }.withPathStart (path ++ rest)

/-- The rest of a `file` URL behind two slashes. -/
def withFileHost (u : Url) (s : Text) : Option Url :=
  let (name, rest) := s.span fun c => !(isSlash true c || endsPath c)
  let name := plain name
  if isDriveLetter name then some (u.withPath ['/'] s)
  else if name.isEmpty then some (u.withPath ['/'] rest)
  else do
    let host ← host? true name
    if host = "localhost" then return u.withPath ['/'] rest
    else return { u with host := some host }.withPathStart rest

/-- The rest of a `file` URL, relative to another one if there is one. -/
def withFile (base : Option Url) (s : Text) : Option Url :=
  let u : Url := { scheme := "file", host := some [] }
  match next? s with
  | some (a, s') =>
    if isSlash true a then
      match next? s' with
      | some (b, s'') => if isSlash true b then u.withFileHost s'' else some (fromRoot u s')
      | none => some (fromRoot u s')
    else match base with
      | none => some (u.withPath ['/'] s)
      | some base =>
        if a = '?' then some (base.withTail s)
        else if a = '#' then some { base.withTail s with query := base.query }
        else if startsWithDriveLetter (plain s) then some (u.withPath ['/'] s)
        else some (base.withPath (parentPath true base.path) s)
  | none =>
    match base with
    | none => some (u.withPath ['/'] [])
    | some base => some { base with fragment := none }
where
  /-- A path from the root, on host and drive of the other URL unless it names a drive. -/
  fromRoot (u : Url) (s : Text) : Url :=
    match base with
    | none => u.withPath ['/'] s
    | some base =>
      let drive := firstPart '/' (base.path.drop 1)
      if startsWithDriveLetter (plain s) then u.withPath ['/'] s
      else if isNormalDriveLetter drive then u.withPath ('/' :: drive ++ ['/']) s
      else { u with host := base.host }.withPath ['/'] s

/-- The rest of a URL that has the scheme of another one. Slashes of both kinds count here, also
with schemes that tell them apart elsewhere. -/
def withRelative (base : Url) (s : Text) : Option Url :=
  match next? s with
  | none => some { base with fragment := none }
  | some (a, s') =>
    if isSlash true a then
      match next? s' with
      | some (b, s'') =>
        if isSlash true b then
          ({ scheme := base.scheme } : Url).withAuthority
            (if a = '/' && b = '/' then s'' else s''.dropWhile fun c => isSlash true c || isBreak c)
        else some (base.withPath ['/'] s')
      | none => some (base.withPath ['/'] s')
    else if a = '?' then some (base.withTail s)
    else if a = '#' then some { base.withTail s with query := base.query }
    else
      let path := parentPath false base.path
      some (base.withPath (if path.isEmpty then ['/'] else path) s)

/-- The rest of a URL behind its scheme. -/
def withScheme (base : Option Url) (scheme s : Text) : Option Url :=
  let u : Url := { scheme }
  if u.isFile then withFile (base.filter isFile) s
  else if u.isSpecial then
    let slashes := ((plain s).takeWhile (isSlash true)).length
    match base.filter (·.scheme == scheme), decide (slashes < 2) with
    | some base, true => withRelative base s
    | _, _ => u.withAuthority (s.dropWhile fun c => isSlash true c || isBreak c)
  else match next? s with
    | some ('/', s') =>
      match next? s' with
      | some ('/', s'') => u.withAuthority s''
      | _ => some (u.withPath ['/'] s')
    | _ =>
      let (path, tail) := s.span (!endsPath ·)
      some ({ u with path := percentEncode inControlSet (plain path) }.withTail tail)

/-- The URL that a text spells, perhaps relative to another one. -/
def parse? (base : Option Url) (input : Text) : Option Url :=
  let s := trimInput input
  match scheme? s, base with
  | some (scheme, rest), _ => withScheme base scheme rest
  | none, none => none
  | none, some base =>
    if base.isOpaque then
      match next? s with
      | some ('#', _) => some { base.withTail s with query := base.query }
      | _ => none
    else if base.isFile then withFile (some base) s
    else withRelative base s

def ofText? (s : Text) : Option Url := parse? none s

def join? (base : Url) (reference : Text) : Option Url := parse? (some base) reference

end SymbolDocs.Url
