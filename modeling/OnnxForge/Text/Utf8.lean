import OnnxForge.Bytes
import OnnxForge.Text.Numeral

/-!
# UTF-8

Characters written as one to four octets, and the reader that accepts exactly the
shortest forms of characters. A refusal says where the accepted text ends and how
many octets after it belong to no character; when the octets stop inside a
character there is no such count.
-/

namespace OnnxForge.Text.Utf8

/-- The octets of a character. -/
def encodeChar (c : Char) : Bytes :=
  let n := c.toNat
  if n < 0x80 then [UInt8.ofNat n]
  else if n < 0x800 then
    [UInt8.ofNat (0xC0 + n / 0x40), UInt8.ofNat (0x80 + n % 0x40)]
  else if n < 0x10000 then
    [UInt8.ofNat (0xE0 + n / 0x1000), UInt8.ofNat (0x80 + n / 0x40 % 0x40),
      UInt8.ofNat (0x80 + n % 0x40)]
  else
    [UInt8.ofNat (0xF0 + n / 0x40000), UInt8.ofNat (0x80 + n / 0x1000 % 0x40),
      UInt8.ofNat (0x80 + n / 0x40 % 0x40), UInt8.ofNat (0x80 + n % 0x40)]

/-- The octets of a text. -/
def encode (text : String) : Bytes :=
  text.toList.flatMap encodeChar

/-- Why octets are no text. -/
structure Fault where
  /-- How many octets of well-formed text come first. -/
  index : Nat
  /-- How many octets then form no character; none when the octets end inside one. -/
  length : Option Nat
deriving DecidableEq

def Fault.message (fault : Fault) : String :=
  match fault.length with
  | some count =>
    "invalid utf-8 sequence of " ++ natural count ++ " bytes from index " ++ natural fault.index
  | none => "incomplete utf-8 byte sequence from index " ++ natural fault.index

/-- Octets that continue a character. -/
def isContinuation (octet : UInt8) : Bool :=
  decide (0x80 ≤ octet.toNat) && decide (octet.toNat < 0xC0)

/-- The second octets that may follow `lead`, which narrow the range of continuations so
that no character has two forms, none is a surrogate and none lies above the last one. -/
def mayFollow (lead second : UInt8) : Bool :=
  let low := if lead.toNat = 0xE0 then 0xA0 else if lead.toNat = 0xF0 then 0x90 else 0x80
  let high := if lead.toNat = 0xED then 0xA0 else if lead.toNat = 0xF4 then 0x90 else 0xC0
  decide (low ≤ second.toNat) && decide (second.toNat < high)

/-- The number of octets of a character led by `lead`; none when no character begins so. -/
def width? (lead : UInt8) : Option Nat :=
  let n := lead.toNat
  if n < 0x80 then some 1
  else if 0xC2 ≤ n ∧ n < 0xE0 then some 2
  else if 0xE0 ≤ n ∧ n < 0xF0 then some 3
  else if 0xF0 ≤ n ∧ n < 0xF5 then some 4
  else none

/-- The six low bits of a continuation. -/
def payload (octet : UInt8) : Nat :=
  octet.toNat % 0x40

/-- Reads characters from position `index` on, or says why the octets are no text. -/
def decodeFrom (index : Nat) (octets : Bytes) : Except Fault (List Char) :=
  match octets with
  | [] => .ok []
  | lead :: rest =>
    match width? lead, rest with
    | none, _ => .error ⟨index, some 1⟩
    | some 1, rest => (Char.ofNat lead.toNat :: ·) <$> decodeFrom (index + 1) rest
    | some _, [] => .error ⟨index, none⟩
    | some width, second :: rest =>
      if !mayFollow lead second then .error ⟨index, some 1⟩
      else if width = 2 then
        (Char.ofNat (lead.toNat % 0x20 * 0x40 + payload second) :: ·) <$>
          decodeFrom (index + 2) rest
      else
        match rest with
        | [] => .error ⟨index, none⟩
        | third :: rest =>
          if !isContinuation third then .error ⟨index, some 2⟩
          else if width = 3 then
            (Char.ofNat (lead.toNat % 0x10 * 0x1000 + payload second * 0x40 + payload third)
              :: ·) <$> decodeFrom (index + 3) rest
          else
            match rest with
            | [] => .error ⟨index, none⟩
            | fourth :: rest =>
              if !isContinuation fourth then .error ⟨index, some 3⟩
              else
                (Char.ofNat (lead.toNat % 0x08 * 0x40000 + payload second * 0x1000
                  + payload third * 0x40 + payload fourth) :: ·) <$>
                  decodeFrom (index + 4) rest

/-- The text whose octets are given, or why they are no text. -/
def decode (octets : Bytes) : Except Fault String :=
  String.ofList <$> decodeFrom 0 octets

/-- The text whose octets are given, if they are text. -/
def decode? (octets : Bytes) : Option String :=
  (decode octets).toOption

end OnnxForge.Text.Utf8
