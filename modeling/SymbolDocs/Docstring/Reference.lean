import SymbolDocs.Text.Replace

namespace SymbolDocs.Reference

open Text

/-- Page of a Python enhancement proposal. -/
def proposalUrl (number : Nat) : Text :=
  let digits := ofNat number
  ("https://peps.python.org/pep-" : Text) ++ List.replicate (4 - digits.length) '0' ++ digits ++
    ['/']

/-- Value of ASCII digits, when it fits 32 bits. -/
def number? (digits : Text) : Option Nat :=
  if !digits.isEmpty && digits.all Char.isDigit then
    let n := digits.foldl (fun n c => n * 10 + (c.toNat - '0'.toNat)) 0
    if n < 0x100000000 then some n else none
  else none

def proposalLink (digits : Text) : Text :=
  match number? digits with
  | some n => ("[PEP " : Text) ++ ofNat n ++ ("](" : Text) ++ proposalUrl n ++ [')']
  | none => ("PEP " : Text) ++ digits

/-- A label, a target in angle brackets and what follows, where the label has no backtick and ends
before the white space in front of the target. -/
def titledTarget? (s : Text) : Option (Text × Text × Text) :=
  match s.span fun c => c != '`' && c != '<' with
  | (body, '<' :: s) =>
    match s.span fun c => c != '>' && c != '`' with
    | (target, '>' :: s) =>
      if body.isEmpty || target.isEmpty then none
      else
        let label := trimEnd body
        some (if label.isEmpty then body.take 1 else label, target, s)
    | _ => none
  | _ => none

/-- The text of a role in backticks and what follows the closing one. -/
def quotedText? (s : Text) : Option (Text × Text) :=
  match s.span (· != '`') with
  | (c :: body, '`' :: s) => some (c :: body, s)
  | _ => none

/-- What follows `:role:` and an opening backtick for one of the roles, with or without the
domain. -/
def afterRole? (domain : Text) (roles : List Text) (s : Text) : Option Text :=
  match s with
  | ':' :: s =>
    let plain (s : Text) := roles.findSome? fun role => after? (role ++ [':', '`']) s
    ((after? (domain ++ [':']) s).bind plain).or (plain s)
  | _ => none

/-- The length of the part of `s` in front of `rest`. -/
def consumed (s rest : Text) : Nat := s.length - rest.length

/-- A numbered proposal role becomes a link. -/
def proposalRole : Substitution := fun _ s => do
  let (digits, rest) := (← after? ":pep:`" s).span isDecimalDigit
  match digits, rest with
  | _ :: _, '`' :: rest => return (proposalLink digits, consumed s rest)
  | _, _ => none

/-- A titled target with one or two underscores behind it becomes a link. -/
def externalLink : Substitution := fun _ s =>
  match s with
  | '`' :: body => do
    let (label, target, rest) ← titledTarget? body
    let rest ← after? ['`', '_'] rest
    let rest := (after? ['_'] rest).getD rest
    return ('[' :: label ++ ']' :: '(' :: target ++ [')'], consumed s rest)
  | _ => none

/-- A reference to a place in the text becomes its title in italics. -/
def placeRole : Substitution := fun _ s => do
  let body ← afterRole? "std" ["ref", "doc", "term"] s
  let titled := (titledTarget? body).bind fun (label, _, rest) =>
    (after? ['`'] rest).map fun rest => (label, rest)
  let (label, rest) ← titled.or (quotedText? body)
  return ('*' :: trim label ++ ['*'], consumed s rest)

/-- The text shown for a target: `~a.b.c` shows `c`, a leading `!` only suppresses the link, and a
title stands before its target. -/
def shownName (target : Text) : Text :=
  let target := (trim target).dropWhile (· == '!')
  match target with
  | '~' :: path => lastPart '.' path
  | _ =>
    match cutAt? " <" target with
    | some (label, _) => trim label
    | none => target

/-- A reference to a definition becomes its label in backticks. -/
def definitionRole : Substitution := fun _ s => do
  let body ← afterRole? "py"
    ["func", "class", "meth", "mod", "attr", "exc", "data", "const", "obj"] s
  let (target, rest) ← quotedText? body
  return ('`' :: shownName target ++ ['`'], consumed s rest)

/-- The digits of a proposal mentioned at the start of a text, and what follows: one to four digits
that end a word. -/
def proposalMention? (prev : Option Char) (s : Text) : Option (Text × Text) :=
  if isEdge prev then do
    let (digits, rest) := (trimStart (← after? "PEP" s)).span isDecimalDigit
    if 0 < digits.length && digits.length ≤ 4 && isEdge rest.head? then some (digits, rest)
    else none
  else none

/-- A mention becomes a link unless it touches a square bracket of link text. -/
def proposalMention : Substitution := fun prev s => do
  let (digits, rest) ← proposalMention? prev s
  let count := consumed s rest
  if prev == some '[' || rest.head? == some ']' then return (s.take count, count)
  else return (proposalLink digits, count)

def linkProposals (s : Text) : Text := substitute proposalMention s

/-- The text with every known form of reference in Markdown. -/
def toMarkdown (s : Text) : Text :=
  let marked := [proposalRole, externalLink, placeRole, definitionRole].foldl (flip substitute) s
  linkProposals marked

end SymbolDocs.Reference
