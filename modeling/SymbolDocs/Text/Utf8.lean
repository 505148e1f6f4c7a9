import SymbolDocs.Fault

namespace SymbolDocs

abbrev Bytes := List UInt8

namespace Utf8

def encode (s : Text) : Bytes := s.flatMap String.utf8EncodeChar

/-- What stands at the start of bytes: a character, bytes that no character starts with, or the
beginning of a character whose end is missing. -/
inductive Head where
  | char (c : Char) (length : Nat)
  | bad (length : Nat)
  | cut
  deriving DecidableEq, Repr

def isContinuation (b : UInt8) : Bool := 0x80 ≤ b && b ≤ 0xBF

/-- The second bytes that may follow the first byte of three or four. -/
def mayFollow (b next : UInt8) : Bool :=
  if b = 0xE0 then 0xA0 ≤ next && next ≤ 0xBF
  else if b = 0xED then 0x80 ≤ next && next ≤ 0x9F
  else if b = 0xF0 then 0x90 ≤ next && next ≤ 0xBF
  else if b = 0xF4 then 0x80 ≤ next && next ≤ 0x8F
  else isContinuation next

/-- Bytes of a character by its first byte; 0 when none starts so. -/
def width (b : UInt8) : Nat :=
  if b < 0x80 then 1
  else if b < 0xC2 then 0
  else if b < 0xE0 then 2
  else if b < 0xF0 then 3
  else if b < 0xF5 then 4
  else 0

/-- The payload of a continuation byte. -/
def payload (b : UInt8) : Nat := b.toNat % 64

def head (b : UInt8) (rest : Bytes) : Head :=
  match width b, rest with
  | 1, _ => .char (Char.ofNat b.toNat) 1
  | 2, [] => .cut
  | 2, b₁ :: _ =>
    if isContinuation b₁ then .char (Char.ofNat (b.toNat % 32 * 64 + payload b₁)) 2 else .bad 1
  | 3, [] => .cut
  | 3, b₁ :: rest =>
    if !mayFollow b b₁ then .bad 1
    else match rest with
      | [] => .cut
      | b₂ :: _ =>
        if isContinuation b₂ then
          .char (Char.ofNat ((b.toNat % 16 * 64 + payload b₁) * 64 + payload b₂)) 3
        else .bad 2
  | 4, [] => .cut
  | 4, b₁ :: rest =>
    if !mayFollow b b₁ then .bad 1
    else match rest with
      | [] => .cut
      | b₂ :: rest =>
        if !isContinuation b₂ then .bad 2
        else match rest with
          | [] => .cut
          | b₃ :: _ =>
            if isContinuation b₃ then
              .char (Char.ofNat
                (((b.toNat % 8 * 64 + payload b₁) * 64 + payload b₂) * 64 + payload b₃)) 4
            else .bad 3
  | _, _ => .bad 1

/-- Decodes from byte `pos` on, where the first `skip` bytes belong to a character read already. -/
def decodeFrom (skip pos : Nat) : Bytes → Except Utf8Fault Text
  | [] => .ok []
  | b :: rest =>
    match skip with
    | skip + 1 => decodeFrom skip (pos + 1) rest
    | 0 =>
      match head b rest with
      | .char c n => (decodeFrom (n - 1) (pos + 1) rest).map (c :: ·)
      | .bad n => .error ⟨pos, some n⟩
      | .cut => .error ⟨pos, none⟩

/-- The text that the bytes encode. -/
def decode (bytes : Bytes) : Except Utf8Fault Text := decodeFrom 0 0 bytes

/-- Decodes with a mark in the place of each maximal part that no character starts with. -/
def decodeMarking (mark : Text) (skip : Nat) : Bytes → Text
  | [] => []
  | b :: rest =>
    match skip with
    | skip + 1 => decodeMarking mark skip rest
    | 0 =>
      match head b rest with
      | .char c n => c :: decodeMarking mark (n - 1) rest
      | .bad n => mark ++ decodeMarking mark (n - 1) rest
      | .cut => mark

/-- The text of the bytes, with replacement characters for what is no text. -/
def decodeLossy (bytes : Bytes) : Text := decodeMarking ['\ufffd'] 0 bytes

end Utf8
end SymbolDocs
