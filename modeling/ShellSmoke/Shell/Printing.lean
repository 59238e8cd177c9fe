/-
This file says what `echo` and `printf` print: escapes, directives, and numbers.
-/

import ShellSmoke.Decimal
import ShellSmoke.Shell.Arithmetic

namespace ShellSmoke.Shell.Printing

/-! ### Escapes -/

/-- The character of an escape that has one letter. -/
def letterEscape? : Char → Option Char
  | 'a' => some '\x07'
  | 'b' => some '\x08'
  | 'e' => some '\x1b'
  | 'f' => some '\x0c'
  | 'n' => some '\n'
  | 'r' => some '\r'
  | 't' => some '\t'
  | 'v' => some '\x0b'
  | '\\' => some '\\'
  | _ => none

/-- Whether a character is an octal digit. -/
def isOctal (char : Char) : Bool := '0' ≤ char && char ≤ '7'

/-- The octal digits in front of a text, three at most. -/
def octalDigits (text : Octets) : Octets := (text.take 3).takeWhile isOctal

/-- The byte that octal digits denote. -/
def octalByte (digits : Octets) : Char :=
  Char.ofNat (digits.foldl (fun number digit => number * 8 + (digit.toNat - 48)) 0 % 256)

/-- A text with its escapes resolved, and whether `\c` stopped all output. The first digit of an
octal escape may be a 0 that does not count. -/
def unescape (printed : Octets) : Octets → Octets × Bool
  | [] => (printed.reverse, false)
  | '\\' :: 'c' :: _ => (printed.reverse, true)
  | '\\' :: '0' :: rest =>
    let digits := octalDigits rest
    unescape (octalByte digits :: printed) (rest.drop digits.length)
  | '\\' :: char :: rest =>
    if isOctal char then
      let digits := octalDigits (char :: rest)
      unescape (octalByte digits :: printed) (rest.drop (digits.length - 1))
    else
      match letterEscape? char with
      | some escaped => unescape (escaped :: printed) rest
      | none => unescape (char :: '\\' :: printed) rest
  | char :: rest => unescape (char :: printed) rest
termination_by text => text.length
decreasing_by all_goals simp_wf; try omega

/-- What `echo` prints for its arguments: with escapes resolved, and without the newline after a
first argument `-n`. -/
def echo (arguments : List Octets) : Octets :=
  let (words, newline) := match arguments with
    | ['-', 'n'] :: rest => (rest, false)
    | _ => (arguments, true)
  let (text, stopped) := unescape [] (List.intercalate [' '] words)
  text ++ if newline ∧ ¬ stopped then ['\n'] else []

/-- What `echo` prints where it leaves escapes alone. -/
def plainEcho (arguments : List Octets) : Octets :=
  match arguments with
  | ['-', 'n'] :: rest => List.intercalate [' '] rest
  | _ => List.intercalate [' '] arguments ++ ['\n']

/-! ### Directives -/

/-- A directive of a format. -/
structure Directive where
  /-- The characters of the directive. -/
  written : Octets
  flags : Octets
  width : Nat
  /-- Whether the width is an argument. -/
  widthGiven : Bool
  precision : Option Nat
  /-- Whether the precision is an argument. -/
  precisionGiven : Bool
  kind : Char
deriving DecidableEq, Repr, Inhabited

/-- A part of a format. -/
inductive Part where
  | text (text : Octets)
  | directive (directive : Directive)
  /-- A directive that the format breaks off. -/
  | unfinished
deriving DecidableEq, Repr, Inhabited

/-- A number in front of a text, and what follows; `*` stands for an argument. -/
def leadingNumber (text : Octets) : Option Nat × Bool × Octets :=
  match text with
  | '*' :: rest => (none, true, rest)
  | _ => (Octets.toNat? (text.takeWhile Char.isDigit), false, text.dropWhile Char.isDigit)

/-- The directive after a percent sign, and what follows it. -/
def directive? (text : Octets) : Option (Directive × Octets) :=
  let isFlag (char : Char) : Bool := ['-', '+', ' ', '#', '0'].contains char
  let flags := text.takeWhile isFlag
  let (width, widthGiven, rest) := leadingNumber (text.dropWhile isFlag)
  let (precision, precisionGiven, rest) := match rest with
    | '.' :: rest =>
      let (precision, given, rest) := leadingNumber rest
      (some (precision.getD 0), given, rest)
    | _ => (none, false, rest)
  match rest with
  | [] => none
  | kind :: rest =>
    let written := '%' :: text.take (text.length - rest.length)
    some (⟨written, flags, width.getD 0, widthGiven, precision, precisionGiven, kind⟩, rest)

/-- The parts of a format, of which the length bounds the number. -/
def parts (format : Octets) : List Part := go format.length [] format
where
  /-- Ends a run of text. -/
  flush (run : Octets) (more : List Part) : List Part :=
    if run.isEmpty then more else .text run.reverse :: more
  go : Nat → Octets → Octets → List Part
    | 0, run, _ => flush run []
    | _ + 1, run, [] => flush run []
    | count + 1, run, '%' :: '%' :: rest => go count ('%' :: run) rest
    | count + 1, run, '%' :: rest =>
      match directive? rest with
      | some (directive, rest) => flush run (.directive directive :: go count [] rest)
      | none => flush run [.unfinished]
    | count + 1, run, '\\' :: char :: rest =>
      if isOctal char then
        let digits := octalDigits (char :: rest)
        go count (octalByte digits :: run) (rest.drop (digits.length - 1))
      else
        match letterEscape? char with
        | some escaped => go count (escaped :: run) rest
        | none => go count ('\\' :: run) (char :: rest)
    | count + 1, run, char :: rest => go count (char :: run) rest

/-! ### Arguments -/

/-- Fills a text with blanks up to a width, in front or, with the flag `-`, after it. -/
def pad (directive : Directive) (text : Octets) : Octets :=
  let filling := List.replicate (directive.width - text.length) ' '
  if directive.flags.contains '-' then text ++ filling else filling ++ text

/-- What is wrong with an argument in front of which there is a number. -/
def conversionFault (rest : Octets) (outOfRange : Bool) : Option String :=
  if ¬ rest.isEmpty then some "not completely converted"
  else if outOfRange then some "Numerical result out of range"
  else none

/-- The character after the quote in front of an argument; the last one if there is none. -/
def quotedChar? : Octets → Option Char
  | '\x27' :: rest | '\x22' :: rest => some (rest.headD '\x00')
  | _ => none

/-- The number that an argument denotes, and what is wrong with it, if anything. A number that is
too large becomes the largest. A quote in front asks for the number of the character after it. -/
def argumentNumber (signed : Bool) (argument : Octets) : Int × Option String :=
  match quotedChar? argument with
  | some char => (char.toNat, none)
  | none =>
    let (sign, digits) : Int × Octets := match argument.dropWhile Octets.isBlank with
      | '-' :: rest => (-1, rest)
      | '+' :: rest => (1, rest)
      | rest => (1, rest)
    match Arithmetic.leadingNumber? digits with
    | some (value, rest) =>
      let least : Int := if signed then -(Arithmetic.wordBound / 2 : Int) else -Arithmetic.wordBound
      let most : Int := if signed then Arithmetic.wordBound / 2 - 1 else Arithmetic.wordBound - 1
      let value := sign * value
      let outOfRange := decide (value < least) || decide (most < value)
      let kept := if ¬ outOfRange then value else if signed ∧ value < 0 then least else most
      (kept, conversionFault rest outOfRange)
    | none => (0, if argument.isEmpty then none else some "expected numeric value")

/-- The number with places after the point that an argument denotes, and what is wrong with it, if
anything. -/
def argumentDecimal (argument : Octets) : Decimal.Number × Option String :=
  let zero : Decimal.Number := ⟨false, some ⟨0, 1⟩, false⟩
  match quotedChar? argument with
  | some char => (⟨false, some ⟨char.toNat, 1⟩, false⟩, none)
  | none =>
    match Decimal.read? (argument.dropWhile Octets.isBlank) with
    | some reading => (reading.number, conversionFault reading.rest reading.outOfRange)
    | none => (zero, if argument.isEmpty then none else some "expected numeric value")

/-- The digits of a number in a base. -/
def digitsOf (kind : Char) (value : Nat) : Octets :=
  match kind with
  | 'o' => Nat.toDigits 8 value
  | 'x' => Nat.toDigits 16 value
  | 'X' => (Nat.toDigits 16 value).map Char.toUpper
  | _ => Nat.toDigits 10 value

/-- Fills a number up to its width: with zeros after its sign, if the flag `0` asks for them. -/
def padNumber (directive : Directive) (zeros : Bool) (front digits : Octets) : Octets :=
  if zeros ∧ directive.flags.contains '0' ∧ ¬ directive.flags.contains '-' then
    front ++ List.replicate (directive.width - (front.length + digits.length)) '0' ++ digits
  else pad directive (front ++ digits)

/-- The sign of a number. -/
def signOf (directive : Directive) (negative : Bool) : Octets :=
  if negative then ['-']
  else if directive.flags.contains '+' then ['+']
  else if directive.flags.contains ' ' then [' ']
  else []

/-- The text of a number with places after the point. -/
def decimalText (directive : Directive) (number : Decimal.Number) : Octets :=
  let precision := directive.precision.getD 6
  let keepsPoint := directive.flags.contains '#'
  let inCase (text : Octets) : Octets :=
    if directive.kind.isUpper then text.map Char.toUpper else text
  let kind := directive.kind.toLower
  let text := match number.size with
    | none => if number.undefined then "nan".toList else "inf".toList
    | some size =>
      match kind with
      | 'a' => Decimal.hexadecimal size directive.precision keepsPoint
      | 'f' => Decimal.fixed size precision keepsPoint
      | 'e' => Decimal.scientific size precision keepsPoint
      | _ => Decimal.general size precision keepsPoint
  let mark := if kind = 'a' ∧ number.size.isSome then ['0', 'x'] else []
  padNumber directive number.size.isSome (signOf directive number.negative ++ inCase mark)
    (inCase text)

/-- The text of a number. -/
def numberText (directive : Directive) (value : Int) : Octets :=
  let signed := directive.kind = 'd' ∨ directive.kind = 'i'
  let magnitude := if signed then value.natAbs else (value % Arithmetic.wordBound).toNat
  let digits := if magnitude = 0 then [] else digitsOf directive.kind magnitude
  let digits := List.replicate (directive.precision.getD 1 - digits.length) '0' ++ digits
  let alternate := directive.flags.contains '#'
  let digits := if alternate ∧ directive.kind = 'o' ∧ digits.head? ≠ some '0' then '0' :: digits
    else digits
  let sign := if signed then signOf directive (decide (value < 0)) else []
  let mark := if alternate ∧ magnitude ≠ 0 then
    match directive.kind with
    | 'x' => ['0', 'x']
    | 'X' => ['0', 'X']
    | _ => []
    else []
  padNumber directive directive.precision.isNone (sign ++ mark) digits

/-! ### Formats -/

/-- What was printed so far, what is left of the arguments, and what went wrong. -/
structure Printed where
  text : Octets
  arguments : List Octets
  /-- Whether an argument was used. -/
  used : Bool
  /-- Whether all output was stopped. -/
  stopped : Bool
  /-- Whether the format makes no sense. -/
  broken : Bool
  faults : List Octets
deriving Inhabited

/-- Takes an argument; a missing one is empty. -/
def Printed.take (printed : Printed) : Octets × Printed :=
  match printed.arguments with
  | [] => ([], printed)
  | argument :: rest => (argument, { printed with arguments := rest, used := true })

/-- Adds a text. -/
def Printed.add (printed : Printed) (text : Octets) : Printed :=
  { printed with text := printed.text ++ text }

/-- Takes an argument and reads it. -/
def Printed.takeRead {α : Type} (printed : Printed) (read : Octets → α × Option String) :
    α × Printed :=
  let (argument, printed) := printed.take
  let (value, fault) := read argument
  let faults := fault.toList.map fun fault => argument ++ ": ".toList ++ fault.toList
  (value, { printed with faults := printed.faults ++ faults })

/-- Stops all output because the format makes no sense. -/
def Printed.spoil (printed : Printed) (fault : Octets) : Printed :=
  { printed with stopped := true, broken := true, faults := printed.faults ++ [fault] }

/-- The largest width and precision. -/
def largestSize : Nat := 2147483647

/-- Adds the text of a directive, if its width and its precision are not too large. -/
def Printed.put (printed : Printed) (directive : Directive) (text : Directive → Octets) : Printed :=
  if largestSize < directive.width ∨ directive.precision.any (largestSize < ·) then
    printed.spoil "xvsnprintf failed".toList
  else printed.add (text directive)

/-- The size that an argument denotes, as a number of 32 bits with a sign. -/
def argumentSize (argument : Octets) : Int × Option String :=
  let (value, fault) := argumentNumber true argument
  (Int.bmod value (2 * (largestSize + 1)), fault)

/-- Puts arguments in the place of the width and the precision, if they are given so. -/
def Printed.settle (printed : Printed) (directive : Directive) : Directive × Printed :=
  let (directive, printed) := if directive.widthGiven then
      let (value, printed) := printed.takeRead argumentSize
      let flags := if value < 0 then '-' :: directive.flags else directive.flags
      ({ directive with width := value.natAbs, flags }, printed)
    else (directive, printed)
  if directive.precisionGiven then
    let (value, printed) := printed.takeRead argumentSize
    ({ directive with precision := if value < 0 then none else some value.toNat }, printed)
  else (directive, printed)

/-- Prints a directive. -/
def Printed.convert (printed : Printed) (directive : Directive) : Printed :=
  let (directive, printed) := printed.settle directive
  let cut (text : Octets) : Octets := match directive.precision with
    | some length => text.take length
    | none => text
  match directive.kind with
  | 's' =>
    let (argument, printed) := printed.take
    printed.put directive (pad · (cut argument))
  | 'b' =>
    let (argument, printed) := printed.take
    let (text, stopped) := unescape [] argument
    let printed := printed.put directive (pad · (cut text))
    { printed with stopped := printed.stopped || stopped }
  | 'c' =>
    let (argument, printed) := printed.take
    printed.put directive (pad · [argument.headD '\x00'])
  | kind =>
    if ['d', 'i', 'u', 'o', 'x', 'X'].contains kind then
      let signed := kind = 'd' ∨ kind = 'i'
      let (value, printed) := printed.takeRead (argumentNumber signed)
      printed.put directive (numberText · value)
    else if ['a', 'A', 'f', 'F', 'e', 'E', 'g', 'G'].contains kind then
      let (number, printed) := printed.takeRead argumentDecimal
      printed.put directive (decimalText · number)
    else printed.spoil (directive.written ++ ": invalid directive".toList)

/-- Prints a part of a format, unless output was stopped. -/
def Printed.step (printed : Printed) (part : Part) : Printed :=
  if printed.stopped then printed
  else
    match part with
    | .text text => printed.add text
    | .directive directive => printed.convert directive
    | .unfinished => printed.spoil "missing format character".toList

/-- Prints a format again and again while there are arguments that it uses. -/
def printRounds (parts : List Part) : (count : Nat) → Printed → Printed
  | 0, printed => printed
  | count + 1, printed =>
    let next := parts.foldl Printed.step { printed with used := false }
    if next.arguments.isEmpty ∨ ¬ next.used ∨ next.stopped then next
    else printRounds parts count next

/-- What `printf` prints for a format and arguments, and what went wrong. -/
def printf (format : Octets) (arguments : List Octets) : Printed :=
  printRounds (parts format) (arguments.length + 1) ⟨[], arguments, false, false, false, []⟩

end ShellSmoke.Shell.Printing
