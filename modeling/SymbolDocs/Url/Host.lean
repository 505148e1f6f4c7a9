import SymbolDocs.Url.Domain
import SymbolDocs.Url.Basic

namespace SymbolDocs.Url

open Text

/-- Characters that no host has. -/
def isForbiddenInHost (c : Char) : Bool :=
  c == '\x00' || "\t\n\r #/:<>?@[\\]^|".toList.contains c

def isForbiddenInDomain (c : Char) : Bool :=
  isForbiddenInHost c || c.toNat < 0x20 || c == '%' || c == '\x7f'

def digitsIn? (base : Nat) (digits : Text) : Option Nat :=
  digits.foldlM (fun n c => do
    let d ← hexValue? c
    if d < base then some (n * base + d) else none) 0

/-- A part of an IPv4 address: decimal, octal behind a zero, hexadecimal behind `0x`. -/
def ipv4Number? (part : Text) : Option Nat :=
  match part with
  | [] => none
  | '0' :: 'x' :: digits | '0' :: 'X' :: digits => digitsIn? 16 digits
  | '0' :: digit :: digits => digitsIn? 8 (digit :: digits)
  | digits => digitsIn? 10 digits

/-- The parts of a host, an empty last one left out. -/
def ipv4Parts (host : Text) : List Text :=
  let parts := splitOn '.' host
  if 1 < parts.length && parts.getLast? == some [] then parts.dropLast else parts

def endsInNumber (host : Text) : Bool :=
  match (ipv4Parts host).getLast? with
  | some last => (!last.isEmpty && last.all Char.isDigit) || (ipv4Number? last).isSome
  | none => false

def ipv4Text (address : Nat) : Text :=
  joinWith "." ([24, 16, 8, 0].map fun shift => Text.ofNat ((address >>> shift) % 256))

/-- An IPv4 address of up to four parts, of which the last one fills what is left. -/
def ipv4? (host : Text) : Option Text := do
  let numbers ← (ipv4Parts host).mapM ipv4Number?
  let last ← numbers.getLast?
  let front := numbers.dropLast
  if 4 < numbers.length || front.any (255 < ·) || 1 <<< (8 * (5 - numbers.length)) ≤ last then none
  else
    let address := front.zipIdx.foldl (fun sum (n, i) => sum + (n <<< (8 * (3 - i)))) last
    some (ipv4Text address)

/-- Hexadecimal groups between colons, where the last part may be an IPv4 address. -/
def ipv6Groups? (parts : List Text) : Option (List Nat) :=
  match parts with
  | [] => some []
  | [part] =>
    if part.contains '.' then do
      let numbers ← (splitOn '.' part).mapM fun n =>
        if n.isEmpty || (1 < n.length && n.head? == some '0') then none else digitsIn? 10 n
      match numbers with
      | [a, b, c, d] =>
        if numbers.all (· ≤ 255) then some [a * 256 + b, c * 256 + d] else none
      | _ => none
    else group? part |>.map ([·])
  | part :: more => do
    let g ← group? part
    return g :: (← ipv6Groups? more)
where
  group? (part : Text) : Option Nat :=
    if part.isEmpty || 4 < part.length then none else digitsIn? 16 part

/-- Eight groups, where `::` stands for as many zeros as are missing. -/
def ipv6? (s : Text) : Option (List Nat) := do
  let groups (s : Text) : Option (List Nat) :=
    if s.isEmpty then some [] else ipv6Groups? (splitOn ':' s)
  match cutAt? "::" s with
  | some (front, back) =>
    if front.contains '.' then none
    else
      let front ← groups front
      let back ← groups back
      if 8 ≤ front.length + back.length then none
      else some (front ++ List.replicate (8 - front.length - back.length) 0 ++ back)
  | none =>
    let all ← groups s
    if all.length = 8 then some all else none

/-- Start and length of the first longest run of zeros. -/
def longestZeros (groups : List Nat) : Nat × Nat :=
  (List.range groups.length).foldl (fun (start, length) i =>
    let run := ((groups.drop i).takeWhile (· == 0)).length
    if length < run then (i, run) else (start, length)) (0, 0)

def ipv6Text (groups : List Nat) : Text :=
  let hex (gs : List Nat) := joinWith ":" (gs.map fun g => Nat.toDigits 16 g)
  let (start, length) := longestZeros groups
  if length < 2 then hex groups
  else hex (groups.take start) ++ [':', ':'] ++ hex (groups.drop (start + length))

/-- The written form of a host; none when it is malformed. -/
def host? (isSpecial : Bool) (s : Text) : Option Text :=
  match s with
  | '[' :: rest => do
    let inner ← before? "]" rest
    return '[' :: ipv6Text (← ipv6? inner) ++ [']']
  | _ =>
    if isSpecial then do
      let domain ← Domain.toAscii? (Utf8.decodeLossy (percentDecode s))
      if domain.isEmpty || domain.any isForbiddenInDomain then none
      else if endsInNumber domain then ipv4? domain
      else some domain
    else if s.any isForbiddenInHost then none
    else some (percentEncode inControlSet s)

end SymbolDocs.Url
