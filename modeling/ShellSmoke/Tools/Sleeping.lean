/-
This file holds the tool that waits.
-/

import ShellSmoke.Tools.Amount
import ShellSmoke.Tools.Basic

namespace ShellSmoke.Tools

open Machine

/-- How many seconds the letter at the end of a time stands for. -/
def secondsOf? : List Char → Option Nat
  | [] => some 1
  | [letter] => [('s', 1), ('m', 60), ('h', 3600), ('d', 86400)].lookup letter
  | _ => none

/-- A time that is as long as no other. -/
def endlessTime : Nat := Nat.pow 10 18

/-- The microseconds in a word, rounded up: a number, which may be negative only if it is zero, and
what tells how many seconds it counts. -/
def timeOf? (unit? : List Char → Option Nat) (word : Bytes) : Option Nat := do
  let reading ← Decimal.read? ((Amount.chars word).dropWhile Amount.isBlank)
  let unit ← unit? reading.rest
  if reading.number.undefined then none
  else
    match reading.number.size with
    | none => if reading.number.negative then none else some endlessTime
    | some size =>
      if reading.number.negative ∧ size.numerator ≠ 0 then none
      else
        let time : Fraction := ⟨size.numerator * unit * 1000000, size.denominator⟩
        some (min endlessTime (if time.remainder = 0 then time.whole else time.whole + 1))

/-- The microseconds in a word: a number, and a letter for a unit. -/
def microseconds? (word : Bytes) : Option Nat := timeOf? secondsOf? word

/-- The microseconds in a word that is a number of seconds. -/
def plainMicroseconds? (word : Bytes) : Option Nat :=
  timeOf? (fun rest => if rest.isEmpty then some 1 else none) word

/-- The tool has no options of its own. -/
def noOptions : OptionReader Unit where
  table := ⟨[], commonNames⟩
  initial := ()
  apply := fun _ _ _ => .ok ()

/-- Waits as long as its arguments say together. -/
def sleep : Tool := toolWithOptions "sleep" 1 noOptions fun launch () words => do
  if launch.arguments.tail.isEmpty then
    misuse launch (Bytes.ofString "missing operand")
    return 1
  match words.filter fun word => (microseconds? word).isNone with
  | [] =>
    Routine.sleep ((words.filterMap microseconds?).foldl (· + ·) 0)
    return 0
  | faults =>
    let lines := faults.map fun word => Bytes.ofString "invalid time interval " ++ escaped word
    misuse launch (List.intercalate (10 :: nameOf launch ++ Bytes.ofString ": ") lines)
    return 1

end ShellSmoke.Tools
