/-
This file decodes byte strings that claim to be UTF-8. A decoder reads the bytes once, from left
to right, and divides them into segments: well-formed sequences, and maximal parts that begin a
well-formed sequence and are then broken off. The byte that breaks a sequence off is read again as
the start of the next segment. A text shows one replacement character for each broken part.
-/

import ShellSmoke.Bytes

namespace ShellSmoke.Text

/-! ### What may follow what -/

/-- An interval of octets, both ends included. -/
structure OctetRange where
  low : UInt8
  high : UInt8
deriving DecidableEq, Repr, Inhabited

/-- Whether an octet lies in an interval. -/
def OctetRange.holds (range : OctetRange) (byte : UInt8) : Bool :=
  range.low ≤ byte && byte ≤ range.high

/-- The octets that continue a sequence wherever the lead byte asks for nothing narrower. -/
def continuation : OctetRange := ⟨0x80, 0xBF⟩

/-- What has to follow a lead byte: nothing for ASCII, `none` for an octet that leads no
sequence. The second octet is narrowed where it would make an overlong form (after `E0`, `F0`),
a surrogate (after `ED`) or a value past U+10FFFF (after `F4`). -/
def followers (lead : UInt8) : Option (List OctetRange) :=
  if lead < 0x80 then some []
  else if lead < 0xC2 then none
  else if lead < 0xE0 then some [continuation]
  else if lead = 0xE0 then some [⟨0xA0, 0xBF⟩, continuation]
  else if lead = 0xED then some [⟨0x80, 0x9F⟩, continuation]
  else if lead < 0xF0 then some [continuation, continuation]
  else if lead = 0xF0 then some [⟨0x90, 0xBF⟩, continuation, continuation]
  else if lead < 0xF4 then some [continuation, continuation, continuation]
  else if lead = 0xF4 then some [⟨0x80, 0x8F⟩, continuation, continuation]
  else none

/-- The payload bits of a lead byte. -/
def leadValue (lead : UInt8) : Nat :=
  if lead < 0x80 then lead.toNat
  else if lead < 0xE0 then lead.toNat - 0xC0
  else if lead < 0xF0 then lead.toNat - 0xE0
  else lead.toNat - 0xF0

/-! ### Segments -/

/-- A part of a byte string. -/
inductive Segment where
  /-- A well-formed sequence, by its character. -/
  | sequence (char : Char)
  /-- A part that begins a well-formed sequence, or cannot begin one, and goes no further. -/
  | broken (bytes : Bytes)
deriving DecidableEq, Repr, Inhabited

/-- The character that stands for a broken part, U+FFFD. -/
def replacement : Char := '\uFFFD'

namespace Segment

/-- The character that shows a segment. -/
def shown : Segment → Char
  | sequence char => char
  | broken _ => replacement

/-- The bytes of a segment. -/
def bytes : Segment → Bytes
  | sequence char => String.utf8EncodeChar char
  | broken bytes => bytes

end Segment

/-! ### The decoder -/

/-- A decoder between two bytes: the segments decided so far, latest first; the bytes of the
sequence that was begun, latest first, and the value of their payload; and what that sequence still
waits for. Nothing is begun when nothing is waited for. -/
structure Decoder where
  decided : List Segment
  held : Bytes
  value : Nat
  awaited : List OctetRange
deriving DecidableEq, Repr, Inhabited

namespace Decoder

/-- The decoder before the first byte. -/
def start : Decoder := ⟨[], [], 0, []⟩

/-- Decides a segment, after which nothing is begun. -/
def decide (decoder : Decoder) (segment : Segment) : Decoder :=
  ⟨segment :: decoder.decided, [], 0, []⟩

/-- Reads a byte as the first of a sequence. -/
def begin (decoder : Decoder) (byte : UInt8) : Decoder :=
  match followers byte with
  | none => decoder.decide (.broken [byte])
  | some [] => decoder.decide (.sequence (Char.ofNat (leadValue byte)))
  | some awaited => { decoder with held := [byte], value := leadValue byte, awaited }

/-- Reads one byte. -/
def feed (decoder : Decoder) (byte : UInt8) : Decoder :=
  match decoder.awaited with
  | [] => decoder.begin byte
  | range :: more =>
    if range.holds byte then
      let value := decoder.value * 64 + (byte.toNat - 0x80)
      if more.isEmpty then decoder.decide (.sequence (Char.ofNat value))
      else { decoder with held := byte :: decoder.held, value, awaited := more }
    else (decoder.decide (.broken decoder.held.reverse)).begin byte

/-- The segments once the bytes have ended: a sequence that is still open was broken off. -/
def finish (decoder : Decoder) : List Segment :=
  if decoder.awaited.isEmpty then decoder.decided.reverse
  else (decoder.decide (.broken decoder.held.reverse)).decided.reverse

end Decoder

/-- The division of a byte string into segments. -/
def segments (bytes : Bytes) : List Segment :=
  (bytes.foldl Decoder.feed Decoder.start).finish

/-! ### Decoding -/

/-- The characters that show a byte string. -/
def decodeChars (bytes : Bytes) : List Char :=
  (segments bytes).map Segment.shown

/-- The text that shows a byte string. -/
def decode (bytes : Bytes) : String :=
  String.ofList (decodeChars bytes)

/-- The text of a byte string that is UTF-8 throughout. -/
def decodeStrict? (bytes : Bytes) : Option String :=
  let text := decode bytes
  if Bytes.ofString text = bytes then some text else none

/-- The first character of a byte string, if it begins with a well-formed sequence. -/
def leading? : Bytes → Option Char
  | [] => none
  | lead :: rest =>
    (followers lead).bind fun awaited =>
      match segments (lead :: rest.take awaited.length) with
      | [.sequence char] => some char
      | _ => none

end ShellSmoke.Text
