/-
This file says how a byte string divides into well-formed UTF-8 sequences and broken parts, without
a decoder: a well-formed sequence is the encoding of a character, and a broken part is as long as
some encoding goes along with it.
-/

import ShellSmoke.Text.Lossy

namespace ShellSmoke.Text

/-- Whether a byte string is the encoding of a text. -/
def WellFormed (bytes : Bytes) : Prop :=
  ∃ chars : List Char, bytes = chars.flatMap String.utf8EncodeChar

/-- Whether a part is the beginning of the encoding of some character, or all of it. -/
def Leads (part : Bytes) : Prop :=
  ∃ (char : Char) (rest : Bytes), part ++ rest = String.utf8EncodeChar char

/-- Whether a part in front of other bytes is broken off: it leads to some character but is not the
whole of one, and no longer part of the bytes does; or it is a single octet that leads to none. -/
inductive BreaksOff : (part rest : Bytes) → Prop where
  | alone (byte : UInt8) (rest : Bytes) (stray : ¬ Leads [byte]) : BreaksOff [byte] rest
  | short (part rest : Bytes) (begun : part ≠ []) (leads : Leads part)
      (unfinished : ∀ char, part ≠ String.utf8EncodeChar char)
      (longest : ∀ byte more, rest = byte :: more → ¬ Leads (part ++ [byte])) :
      BreaksOff part rest

/-- The division of a byte string into segments, from left to right. -/
inductive Divides : Bytes → List Segment → Prop where
  | done : Divides [] []
  | sequence (char : Char) {rest : Bytes} {segments : List Segment}
      (later : Divides rest segments) :
      Divides (String.utf8EncodeChar char ++ rest) (.sequence char :: segments)
  | broken {part rest : Bytes} {segments : List Segment} (breaks : BreaksOff part rest)
      (later : Divides rest segments) :
      Divides (part ++ rest) (.broken part :: segments)

end ShellSmoke.Text
