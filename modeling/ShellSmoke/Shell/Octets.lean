/-
This file fixes how the shell speaks about bytes: as characters, each of which stands for the byte
of its number. What the shell reads and writes need not be UTF-8.
-/

import ShellSmoke.Bytes

namespace ShellSmoke.Shell

/-- A text of the shell; every character stands for one byte. -/
abbrev Octets := List Char

namespace Octets

/-- The text of a byte string. -/
def ofBytes (bytes : Bytes) : Octets := bytes.map fun byte => Char.ofNat byte.toNat

/-- The byte string of a text. -/
def toBytes (text : Octets) : Bytes := text.map Char.toUInt8

/-- The bytes of a word that the program itself knows. -/
def ofString (text : String) : Octets := ofBytes (Bytes.ofString text)

/-- The decimal digits of a number. -/
def ofNat (number : Nat) : Octets := (toString number).toList

/-- The decimal digits of a number, with its sign if it is negative. -/
def ofInt (number : Int) : Octets := (toString number).toList

/-- The number that a text of digits denotes. -/
def toNat? (text : Octets) : Option Nat :=
  if text.isEmpty ∨ ¬ text.all Char.isDigit then none
  else some (text.foldl (fun number digit => number * 10 + (digit.toNat - 48)) 0)

/-- The number that a text of digits denotes, which may have a sign in front. -/
def toInt? : Octets → Option Int
  | '-' :: digits => (toNat? digits).map fun number => -(number : Int)
  | '+' :: digits => (toNat? digits).map fun number => (number : Int)
  | digits => (toNat? digits).map fun number => (number : Int)

/-- Whether a character can begin the name of a variable. -/
def beginsName (char : Char) : Bool := char.isAlpha || char = '_'

/-- Whether a character can stand in the name of a variable. -/
def inName (char : Char) : Bool := char.isAlphanum || char = '_'

/-- Whether a text is the name of a variable. -/
def isName : Octets → Bool
  | [] => false
  | char :: rest => beginsName char && rest.all inName

/-- Whether a character is a blank, as numbers may have them around. -/
def isBlank (char : Char) : Bool := char = ' ' || ('\t' ≤ char && char ≤ '\r')

/-- A text without the blanks around it. -/
def trimmed (text : Octets) : Octets :=
  ((text.dropWhile isBlank).reverse.dropWhile isBlank).reverse

/-- The count that a text denotes, which may have blanks around it, if it is not too large for one.
-/
def toCount? (text : Octets) : Option Nat :=
  ((toInt? (trimmed text)).filter fun value => 0 ≤ value ∧ value ≤ 2147483647).map Int.toNat

/-- A text without the newlines at its end. -/
def withoutLastNewlines (text : Octets) : Octets :=
  (text.reverse.dropWhile (· = '\n')).reverse

end Octets

end ShellSmoke.Shell
