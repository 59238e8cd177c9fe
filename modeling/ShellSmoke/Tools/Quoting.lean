/-
This file says how tools write words of their users in messages: in quotation marks, so that the
word could be given to a shell again, or with escapes.
-/

import ShellSmoke.Bytes

namespace ShellSmoke.Tools

/-! ### Characters -/

/-- Whether a byte can be printed. -/
def isPrintable (byte : UInt8) : Bool := 32 ≤ byte && byte ≤ 126

/-- The three octal digits of a byte. -/
def octalDigits (byte : UInt8) : Bytes := [48 + byte / 64, 48 + byte / 8 % 8, 48 + byte % 8]

/-- The letter that stands for a control character after a backslash. -/
def escapeLetter? (byte : UInt8) : Option UInt8 :=
  ([(7, 'a'), (8, 'b'), (12, 'f'), (10, 'n'), (13, 'r'), (9, 't'), (11, 'v')].lookup
    byte.toNat).map Char.toUInt8

/-- A byte that cannot be printed, after a backslash. -/
def escapeText (byte : UInt8) : Bytes :=
  '\\'.toUInt8 :: match escapeLetter? byte with
    | some letter => [letter]
    | none => octalDigits byte

/-- The single quote. -/
def singleQuote : UInt8 := 0x27

/-- A word in single quotes, with backslashes before what would be misunderstood. -/
def escaped (word : Bytes) : Bytes :=
  singleQuote :: (word.flatMap fun byte =>
    if byte = singleQuote ∨ byte = '\\'.toUInt8 then ['\\'.toUInt8, byte]
    else if isPrintable byte then [byte]
    else escapeText byte) ++ [singleQuote]

/-! ### Words for a shell -/

/-- Whether a byte means something to a shell, at a place in a word of some length. -/
def isSpecial (length place : Nat) (byte : UInt8) : Bool :=
  let char := Char.ofNat byte.toNat
  if char = '\x7b' ∨ char = '\x7d' then length = 1
  else if char = '#' ∨ char = '~' then place = 0
  else
    [' ', '!', '\x22', '$', '&', '(', ')', '*', ';', '<', '=', '>', '?', '[', '^', '\x60', '|',
      '\x27', '\\'].contains char

/-- Whether a byte stands for itself between double quotes too, at a place in a word of some
length. -/
def staysInDouble (length place : Nat) (byte : UInt8) : Bool :=
  let char := Char.ofNat byte.toNat
  if char = '\x7b' ∨ char = '\x7d' then length = 1 && place = 0
  else if char = '#' ∨ char = '~' then place = 0
  else char = ' ' || char = '\x27' || (isPrintable byte && ! isSpecial length place byte)

/-- A word in single quotes. A quote in it, and what cannot be printed, is put between the quotes;
whether such a place is open is kept. -/
def singleQuoted (word : Bytes) : Bytes :=
  let (body, _) := word.foldl
    (fun (body, escaping) byte =>
      if isPrintable byte then
        let body := if escaping then body ++ [singleQuote, singleQuote] else body
        if byte = singleQuote then
          (body ++ [singleQuote, '\\'.toUInt8, singleQuote, singleQuote], false)
        else (body ++ [byte], false)
      else
        let body := if escaping then body else
          body ++ [singleQuote, '$'.toUInt8, singleQuote]
        (body ++ escapeText byte, true))
    ((([] : Bytes)), false)
  singleQuote :: body ++ [singleQuote]

/-- A word in quotation marks: double ones if it holds a single quote and nothing that means more to
a shell, else single ones. -/
def quoted (word : Bytes) : Bytes :=
  let indexed := word.zipIdx
  if word.contains singleQuote ∧
      indexed.all fun (byte, place) => staysInDouble word.length place byte then
    0x22 :: word ++ [0x22]
  else singleQuoted word

/-- A word as it is if a shell would take it so, else in quotation marks. -/
def quotedIfNeeded (word : Bytes) : Bytes :=
  let indexed := word.zipIdx
  let plain := indexed.all fun (byte, place) =>
    isPrintable byte && ! isSpecial word.length place byte && byte ≠ ':'.toUInt8
  if word.isEmpty ∨ ¬ plain then quoted word else word

end ShellSmoke.Tools
