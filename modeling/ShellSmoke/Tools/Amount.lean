/-
This file reads amounts out of the words of tools: digits, and after them a letter for a power of a
thousand or of 1024.
-/

import ShellSmoke.Decimal
import ShellSmoke.Tools.Quoting

namespace ShellSmoke.Tools

/-- Why a word is no amount. -/
inductive AmountFault where
  | invalid
  | tooLarge
deriving DecidableEq, Repr, Inhabited

namespace Amount

/-- The largest amount. -/
def most : Nat := 18446744073709551615

/-- The power that a letter stands for. -/
def power? (letter : Char) : Option Nat :=
  [('k', 1), ('K', 1), ('m', 2), ('M', 2), ('G', 3), ('T', 4), ('P', 5), ('E', 6), ('Z', 7),
    ('Y', 8), ('R', 9), ('Q', 10)].lookup letter

/-- What the letters after the digits multiply by: `b` stands for 512, and the other letters for a
power of 1024, or of a thousand if a `B` follows. -/
def scale? : List Char → Option Nat
  | [] => some 1
  | ['b'] => some 512
  | letter :: rest =>
    (power? letter).bind fun power =>
      if rest = [] ∨ rest = ['i', 'B'] then some (Nat.pow 1024 power)
      else if rest = ['B'] ∨ rest = ['D'] then some (Nat.pow 1000 power)
      else none

/-- Whether a character sets words apart. -/
def isBlank (char : Char) : Bool := char = ' ' || ('\t' ≤ char && char ≤ '\x0d')

/-- The characters of a word, each of which stands for a byte. -/
def chars (word : Bytes) : List Char := word.map fun byte => Char.ofNat byte.toNat

/-- An amount within bounds. -/
def bounded (amount : Nat) : Except AmountFault Nat :=
  if amount ≤ most then .ok amount else .error .tooLarge

/-- The amount that a word stands for. A letter can stand alone. -/
def read (word : Bytes) : Except AmountFault Nat :=
  let text := chars word
  let signed := text.dropWhile isBlank
  let digits := if signed.head? = some '+' then signed.tail else signed
  let (number, count, rest) := Decimal.leadingDigits 10 digits
  let (number, rest) := if count = 0 ∧ ¬ text.isEmpty then (1, text) else (number, rest)
  match scale? rest with
  | some scale =>
    if count = 0 ∧ rest.isEmpty then .error .invalid else bounded (number * scale)
  | none => .error .invalid

/-- The number in front of a text, which can be octal after `0` and hexadecimal after `0x`, with
blanks and a sign before it. The value holds the count of its digits, the number, and what follows,
which is the whole text if there is none. -/
def leadingNumber (text : List Char) : Nat × Nat × List Char :=
  let signed := text.dropWhile isBlank
  let digits := if signed.head? = some '+' then signed.tail else signed
  let octal (text : List Char) : Nat × Nat × List Char := Decimal.leadingDigits 8 text
  let (number, count, rest) := match digits with
    | '0' :: letter :: more =>
      let found := Decimal.leadingDigits 16 more
      if letter.toLower = 'x' ∧ 0 < found.2.1 then found else octal digits
    | '0' :: _ => octal digits
    | _ => Decimal.leadingDigits 10 digits
  if count = 0 then (0, 0, text) else (count, number, rest)

/-- The amount that a word of digits stands for. -/
def readPlain (word : Bytes) : Except AmountFault Nat :=
  let (count, number, rest) := leadingNumber (chars word)
  if count = 0 ∨ ¬ rest.isEmpty then .error .invalid else bounded number

end Amount

/-- What a tool says about a word that is no amount. -/
def AmountFault.message (about : String) (word : Bytes) (fault : AmountFault) : Bytes :=
  let reason := match fault with
    | invalid => ""
    | tooLarge => ": Value too large for defined data type"
  Bytes.ofString (about ++ ": ") ++ escaped word ++ Bytes.ofString reason

end ShellSmoke.Tools
