/-
This file holds the numbers that have 53 binary places: how they are read from text, as the nearest
such number, and how they are written with so many decimal places.
-/

import ShellSmoke.Fraction

namespace ShellSmoke.Decimal

/-! ### Numbers -/

/-- A number with its sign. -/
structure Number where
  negative : Bool
  /-- The size, if it is finite. -/
  size : Option Fraction
  /-- Whether it is no number at all. -/
  undefined : Bool
deriving DecidableEq, Repr, Inhabited

/-- The binary exponent of the last of 53 places of a fraction, but no lower than the lowest. -/
def lastPlace (fraction : Fraction) : Int :=
  let length : Int := Nat.log2 fraction.numerator - Nat.log2 fraction.denominator
  let guess := max (-1074) (length - 53)
  if (fraction.scaled 2 (-guess)).whole < Nat.pow 2 53 then guess else guess + 1

/-- The number of 53 binary places that is nearest to a fraction, if there is one, and whether the
fraction is out of the range of such numbers. -/
def nearest (fraction : Fraction) : Option Fraction × Bool :=
  if fraction.numerator = 0 then (some ⟨0, 1⟩, false)
  else
    let exponent := lastPlace fraction
    let part := fraction.scaled 2 (-exponent)
    let places := part.rounded
    let found := (⟨places, 1⟩ : Fraction).scaled 2 exponent
    if Nat.pow 2 1024 * found.denominator ≤ found.numerator then (none, true)
    else
      let small := decide (places < Nat.pow 2 52)
      (some found, small && decide (part.remainder ≠ 0))

/-! ### Reading -/

/-- What was read of a text. -/
structure Reading where
  number : Number
  /-- Whether the number in the text is out of range. -/
  outOfRange : Bool
  rest : List Char
deriving DecidableEq, Repr, Inhabited

/-- The number of a digit, if it is one of a base. -/
def digit? (base : Nat) (char : Char) : Option Nat :=
  let value :=
    if char.isDigit then char.toNat - 48
    else if 'a' ≤ char ∧ char ≤ 'f' then char.toNat - 87
    else if 'A' ≤ char ∧ char ≤ 'F' then char.toNat - 55
    else base
  if value < base then some value else none

/-- Digits in front of a text: their number, how many they are, and what follows. -/
def leadingDigits (base : Nat) (text : List Char) : Nat × Nat × List Char :=
  let digits := text.takeWhile fun char => (digit? base char).isSome
  (digits.foldl (fun number char => number * base + (digit? base char).getD 0) 0, digits.length,
    text.drop digits.length)

/-- An exponent in front of a text, after its mark, and what follows. -/
def leadingExponent (mark : Char) (text : List Char) : Int × List Char :=
  match text with
  | char :: rest =>
    if char.toLower = mark then
      let (negative, digits) := match rest with
        | '-' :: digits => (true, digits)
        | '+' :: digits => (false, digits)
        | digits => (false, digits)
      let (value, count, more) := leadingDigits 10 digits
      if count = 0 then (0, text)
      else
        let value : Nat := min value 5000
        (if negative then -(value : Int) else value, more)
    else (0, text)
  | [] => (0, [])

/-- The size in front of a text, with its digits in a base and an exponent after a mark. -/
def leadingSize? (base : Nat) (mark : Char) (text : List Char) :
    Option (Option Fraction × Bool × List Char) :=
  let (whole, wholeCount, rest) := leadingDigits base text
  let (fraction, count, rest) := match rest with
    | '.' :: more => leadingDigits base more
    | _ => (0, 0, rest)
  if wholeCount + count = 0 then none
  else
    let (exponent, rest) := leadingExponent mark rest
    let power := Nat.pow base count
    let size := (⟨whole * power + fraction, power⟩ : Fraction).scaled
      (if base = 16 then 2 else base) exponent
    let (size?, outOfRange) := nearest size
    some (size?, outOfRange, rest)

/-- What follows letters, digits and underscores in parentheses, if a text begins with that. -/
def afterRemark? : List Char → Option (List Char)
  | '(' :: rest =>
    match rest.dropWhile fun char => char.isAlphanum || char = '_' with
    | ')' :: rest => some rest
    | _ => none
  | _ => none

/-- The number in front of a text, if there is one. It may have a sign, and it may be a word, which
a remark can follow if it stands for no number. -/
def read? (text : List Char) : Option Reading :=
  let (negative, text) := match text with
    | '-' :: rest => (true, rest)
    | '+' :: rest => (false, rest)
    | rest => (false, rest)
  let lower := text.map Char.toLower
  let begins (word : String) : Bool := word.toList.isPrefixOf lower
  if begins "infinity" then some ⟨⟨negative, none, false⟩, false, text.drop 8⟩
  else if begins "inf" then some ⟨⟨negative, none, false⟩, false, text.drop 3⟩
  else if begins "nan" then
    let rest := text.drop 3
    some ⟨⟨negative, none, true⟩, false, (afterRemark? rest).getD rest⟩
  else
    let found := if begins "0x" then
        (leadingSize? 16 'p' (text.drop 2)).or (leadingSize? 10 'e' text)
      else leadingSize? 10 'e' text
    found.map fun (size, outOfRange, rest) => ⟨⟨negative, size, false⟩, outOfRange, rest⟩

/-! ### Writing -/

/-- A number of digits with so many places after the point; the point may be kept without any. -/
def pointed (number places : Nat) (keepsPoint : Bool) : List Char :=
  let digits := Nat.toDigits 10 number
  let digits := List.replicate (places + 1 - digits.length) '0' ++ digits
  let whole := digits.take (digits.length - places)
  let point := if 0 < places ∨ keepsPoint then ['.'] else []
  whole ++ point ++ digits.drop (digits.length - places)

/-- A size with so many places after the point. -/
def fixed (size : Fraction) (places : Nat) (keepsPoint : Bool) : List Char :=
  pointed (size.scaled 10 places).rounded places keepsPoint

/-- The digits of a size, one and so many more, and the exponent of the first. -/
def significant (size : Fraction) (more : Nat) : Nat × Int :=
  let first := size.firstPlace
  let digits := (size.scaled 10 (more - first)).rounded
  if Nat.pow 10 (more + 1) ≤ digits then (digits / 10, first + 1) else (digits, first)

/-- A size with one digit in front of the point, so many places after it, and an exponent. -/
def scientific (size : Fraction) (places : Nat) (keepsPoint : Bool) : List Char :=
  let (digits, exponent) := significant size places
  let sign := if exponent < 0 then '-' else '+'
  let shown := Nat.toDigits 10 exponent.natAbs
  pointed digits places keepsPoint ++
    'e' :: sign :: List.replicate (2 - shown.length) '0' ++ shown

/-- The binary exponent of the first place of a size, but no lower than the lowest. -/
def binaryExponent (size : Fraction) : Int :=
  if size.numerator = 0 then 0
  else
    let guess : Int := (Nat.log2 size.numerator : Int) - Nat.log2 size.denominator
    max (-1022) (if 0 < (size.scaled 2 (-guess)).whole then guess else guess - 1)

/-- How many hexadecimal places a size can have after the point. -/
def hexadecimalPlaces : Nat := 13

/-- A size with one hexadecimal digit in front of the point, so many places after it or as many as
it has, and a binary exponent. -/
def hexadecimal (size : Fraction) (places : Option Nat) (keepsPoint : Bool) : List Char :=
  let exponent := binaryExponent size
  let shown := min hexadecimalPlaces (places.getD hexadecimalPlaces)
  let digits := Nat.toDigits 16 ((size.scaled 2 (-exponent)).scaled 16 shown).rounded
  let digits := List.replicate (shown + 1 - digits.length) '0' ++ digits
  let rest := digits.tail
  let rest := match places with
    | none => (rest.reverse.dropWhile (· = '0')).reverse
    | some places => rest ++ List.replicate (places - rest.length) '0'
  let point := if rest.isEmpty ∧ ¬ keepsPoint then [] else ['.']
  let sign := if exponent < 0 then '-' else '+'
  digits.take 1 ++ point ++ rest ++ 'p' :: sign :: Nat.toDigits 10 exponent.natAbs

/-- A text without the zeros at the end of its places, and without a point that is last. -/
def withoutZeros (text : List Char) : List Char :=
  let digits := text.takeWhile (· ≠ 'e')
  let kept := if digits.contains '.' then
      (digits.reverse.dropWhile (· = '0')).reverse
    else digits
  let kept := if kept.getLast? = some '.' then kept.dropLast else kept
  kept ++ text.drop digits.length

/-- A size with so many digits that count: in the shorter of the two ways. Zeros at the end are left
out, unless the point is kept. -/
def general (size : Fraction) (digits : Nat) (keepsPoint : Bool) : List Char :=
  let digits := max 1 digits
  let (_, exponent) := significant size (digits - 1)
  let text := if -4 ≤ exponent ∧ exponent < digits then
      fixed size ((digits : Int) - 1 - exponent).toNat keepsPoint
    else scientific size (digits - 1) keepsPoint
  if keepsPoint then text else withoutZeros text

end ShellSmoke.Decimal
