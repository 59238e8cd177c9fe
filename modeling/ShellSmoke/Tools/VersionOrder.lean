/-
This file orders names as versions: numbers in them are compared as numbers, and endings are looked
at only where the names agree without them.
-/

import ShellSmoke.Bytes

namespace ShellSmoke.Tools

namespace VersionOrder

/-- A byte as a character. -/
def charOf (byte : UInt8) : Char := Char.ofNat byte.toNat

/-- The place of a byte in the order. The end of a name comes before all but a tilde, a digit ends a
part as the end of a name does, and letters come before other bytes. -/
def rank : Option UInt8 → Int
  | none => -1
  | some byte =>
    let char := charOf byte
    if char.isDigit then 0
    else if char.isAlpha then byte.toNat
    else if char = '~' then -2
    else byte.toNat + 256

/-- The part of a name in front that is no number, and the rest. -/
def splitText (name : Bytes) : Bytes × Bytes :=
  let text := name.takeWhile fun byte => ! (charOf byte).isDigit
  (text, name.drop text.length)

/-- The digits in front of a name without zeros in front of them, and the rest. -/
def splitNumber (name : Bytes) : Bytes × Bytes :=
  let name := name.dropWhile (· = '0'.toUInt8)
  let digits := name.takeWhile fun byte => (charOf byte).isDigit
  (digits, name.drop digits.length)

/-- The order of two parts that are no numbers, with what follows them. -/
def compareTexts : (first second : Bytes) → (afterFirst afterSecond : Option UInt8) → Ordering
  | [], [], _, _ => .eq
  | byte :: first, [], afterFirst, afterSecond =>
    (compare (rank (some byte)) (rank afterSecond)).then
      (compareTexts first [] afterFirst afterSecond)
  | [], byte :: second, afterFirst, afterSecond =>
    (compare (rank afterFirst) (rank (some byte))).then
      (compareTexts [] second afterFirst afterSecond)
  | byte :: first, other :: second, afterFirst, afterSecond =>
    (compare (rank (some byte)) (rank (some other))).then
      (compareTexts first second afterFirst afterSecond)

/-- The order of two names. The count bounds how many parts they have. -/
def compareParts : (count : Nat) → Bytes → Bytes → Ordering
  | 0, _, _ => .eq
  | count + 1, first, second =>
    if first.isEmpty ∧ second.isEmpty then .eq
    else
      let (text, first) := splitText first
      let (other, second) := splitText second
      let (digits, first') := splitNumber first
      let (otherDigits, second') := splitNumber second
      (compareTexts text other first.head? second.head?).then
        ((compare digits.length otherDigits.length).then
          ((compareOfLessAndEq digits otherDigits).then (compareParts count first' second')))

/-- The order of two names as a whole. -/
def compareWhole (first second : Bytes) : Ordering :=
  compareParts (first.length + second.length + 1) first second

/-- Whether a text is made of endings: each a dot, a letter or tilde, and letters, digits and
tildes. The first argument tells whether a letter has to follow. -/
def isEndings (fresh : Bool) : Bytes → Bool
  | [] => ! fresh
  | byte :: rest =>
    let char := charOf byte
    if fresh then (char.isAlpha || char = '~') && isEndings false rest
    else if char = '.' then isEndings true rest
    else (char.isAlphanum || char = '~') && isEndings false rest

/-- A name without its endings; the first byte is no part of an ending. -/
def withoutEndings (name : Bytes) : Bytes :=
  let lengths := (List.range (name.length + 1)).tail
  let ends (length : Nat) : Bool := match name.drop length with
    | [] => true
    | byte :: rest => charOf byte = '.' && isEndings true rest
  name.take ((lengths.find? ends).getD name.length)

/-- The place of a name among those that begin with a dot or not. -/
def dotRank (name : Bytes) : Nat :=
  if name.isEmpty then 0
  else if name = Bytes.ofString "." then 1
  else if name = Bytes.ofString ".." then 2
  else if name.head? = some '.'.toUInt8 then 3
  else 4

/-- The order of two names as versions. -/
def compareNames (first second : Bytes) : Ordering :=
  (compare (dotRank first) (dotRank second)).then
    ((compareWhole (withoutEndings first) (withoutEndings second)).then
      (compareWhole first second))

end VersionOrder

end ShellSmoke.Tools
