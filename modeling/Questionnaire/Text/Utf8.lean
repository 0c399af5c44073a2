/-!
# Bytes as text

A text in UTF-8 gives each character one to four bytes.  The first byte tells how many follow, and the
range of the second; the others lie between `0x80` and `0xbf`.  `decode` reads bytes as text, or tells
which of them spoil it.

`withLineFeeds` makes every line end with one and the same character.
-/

namespace Questionnaire.Text

namespace Utf8

/-- What spoils a sequence of bytes. -/
inductive Defect where
  | start
  | continuation
  | cutOff
  deriving DecidableEq

/-- The words for a defect. -/
def Defect.message : Defect → String
  | .start => "invalid start byte"
  | .continuation => "invalid continuation byte"
  | .cutOff => "unexpected end of data"

/-- A defect and the bytes that it concerns: the first one, and the place of the first one and of the
one behind the last. -/
structure Problem where
  byte : UInt8
  first : Nat
  beyond : Nat
  defect : Defect
  deriving DecidableEq

/-- The words for a problem. -/
def Problem.message (p : Problem) : String :=
  let which := if p.first + 1 = p.beyond then
      s!"byte 0x{String.ofList (Nat.toDigits 16 p.byte.toNat)} in position {p.first}"
    else s!"bytes in position {p.first}-{p.beyond - 1}"
  s!"'utf-8' codec can't decode {which}: {p.defect.message}"

/-- A character of which some bytes are still to come. -/
structure Pending where
  /-- The first byte and its place. -/
  byte : UInt8
  first : Nat
  /-- The number that the bytes so far stand for. -/
  code : Nat
  /-- How many bytes are to come, less one. -/
  owed : Nat
  /-- The least and the greatest next byte. -/
  least : UInt8
  greatest : UInt8

/-- What the first byte of a character of several bytes promises. -/
def pending? (b : UInt8) (place : Nat) : Option Pending :=
  let more := fun (base owed : Nat) (least greatest : UInt8) =>
    some ⟨b, place, b.toNat - base, owed, least, greatest⟩
  if 0xc2 ≤ b ∧ b ≤ 0xdf then more 0xc0 0 0x80 0xbf
  else if b = 0xe0 then more 0xe0 1 0xa0 0xbf
  else if b = 0xed then more 0xe0 1 0x80 0x9f
  else if 0xe1 ≤ b ∧ b ≤ 0xef then more 0xe0 1 0x80 0xbf
  else if b = 0xf0 then more 0xf0 2 0x90 0xbf
  else if 0xf1 ≤ b ∧ b ≤ 0xf3 then more 0xf0 2 0x80 0xbf
  else if b = 0xf4 then more 0xf0 2 0x80 0x8f
  else none

/-- Reads the bytes from a place on; `done` are the characters so far, the latest first. -/
def decodeFrom (done : List Char) : Nat → Option Pending → List UInt8 → Except Problem (List Char)
  | _, none, [] => .ok done.reverse
  | place, some p, [] => .error ⟨p.byte, p.first, place, .cutOff⟩
  | place, none, b :: bs =>
    if b < 0x80 then decodeFrom (Char.ofNat b.toNat :: done) (place + 1) none bs
    else
      match pending? b place with
      | some p => decodeFrom done (place + 1) (some p) bs
      | none => .error ⟨b, place, place + 1, .start⟩
  | place, some p, b :: bs =>
    if p.least ≤ b ∧ b ≤ p.greatest then
      let code := p.code * 64 + (b.toNat - 0x80)
      match p.owed with
      | 0 => decodeFrom (Char.ofNat code :: done) (place + 1) none bs
      | owed + 1 =>
        decodeFrom done (place + 1) (some ⟨p.byte, p.first, code, owed, 0x80, 0xbf⟩) bs
    else .error ⟨p.byte, p.first, place, .continuation⟩

/-- Reads bytes as text. -/
def decode (bytes : List UInt8) : Except Problem String :=
  (decodeFrom [] 0 none bytes).map String.ofList

end Utf8

/-- A text in which every line ends with a line feed, and with nothing else. -/
def withLineFeeds : List Char → List Char
  | '\r' :: '\n' :: cs => '\n' :: withLineFeeds cs
  | '\r' :: cs => '\n' :: withLineFeeds cs
  | c :: cs => c :: withLineFeeds cs
  | [] => []

end Questionnaire.Text
