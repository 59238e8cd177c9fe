/-
This file fixes how the library speaks about bytes: a byte string is a list of octets, and a
text enters it by its UTF-8 encoding.
-/

namespace ShellSmoke

/-- A byte string. -/
abbrev Bytes := List UInt8

namespace Bytes

/-- The UTF-8 encoding of a text. -/
def ofString (text : String) : Bytes :=
  text.toList.flatMap String.utf8EncodeChar

/-- The pieces of a byte string between the separators; there is always one piece more than
there are separators. -/
def splitOn (separator : UInt8) (bytes : Bytes) : List Bytes :=
  go [] [] bytes
where
  go (pieces : List Bytes) (piece : Bytes) : Bytes → List Bytes
    | [] => (piece.reverse :: pieces).reverse
    | byte :: rest =>
      if byte = separator then go (piece.reverse :: pieces) [] rest
      else go pieces (byte :: piece) rest

end Bytes

end ShellSmoke
