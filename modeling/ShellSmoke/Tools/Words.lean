/-
This file holds the tools that do what builtins of the shell do, for those who start them as
programs.
-/

import ShellSmoke.Shell.Builtins
import ShellSmoke.Tools.Basic

namespace ShellSmoke.Tools

open Machine Shell

/-- The words after the name of a tool. -/
def wordsOf (launch : Launch) : List Octets := launch.arguments.tail.map Octets.ofBytes

/-- Prints a text; the value is the exit code. -/
def printText (launch : Launch) (text : Octets) : Routine UInt8 := do
  match ← Routine.writeAll 1 launch.lifetime text.toBytes with
  | .ok () => return 0
  | .error _ => return 1

/-- Splits words of letters among `n`, `e` and `E` off the front. -/
def echoOptions : List Octets → Octets × List Octets
  | [] => ([], [])
  | word :: rest =>
    match word with
    | '-' :: letter :: letters =>
      if (letter :: letters).all ['n', 'e', 'E'].contains then
        let (more, words) := echoOptions rest
        (letter :: letters ++ more, words)
      else ([], word :: rest)
    | _ => ([], word :: rest)

/-- The value of a hexadecimal digit. -/
def hexadecimalDigit? (char : Char) : Option Nat :=
  if char.isDigit then some (char.toNat - 48)
  else ("abcdef".toList.idxOf? char.toLower).map (· + 10)

/-- A text in which hexadecimal escapes, of one digit or two, are octal ones. -/
def withOctalEscapes : Octets → Octets
  | '\\' :: 'x' :: rest =>
    let digits := (rest.take 2).takeWhile fun char => (hexadecimalDigit? char).isSome
    let value := (digits.filterMap hexadecimalDigit?).foldl (fun sum digit => sum * 16 + digit) 0
    let octal := [value / 64, value / 8 % 8, value % 8].map fun digit => Char.ofNat (48 + digit)
    let shown := if digits.isEmpty then ['\\', 'x'] else '\\' :: '0' :: octal
    shown ++ withOctalEscapes (rest.drop digits.length)
  | '\\' :: char :: rest => '\\' :: char :: withOctalEscapes rest
  | char :: rest => char :: withOctalEscapes rest
  | [] => []
termination_by text => text.length
decreasing_by all_goals simp_wf; try omega

/-- Prints its arguments on a line, with the option `n` without the end of the line. Escapes are
resolved only after the option `e`. -/
def echo : Tool := toolOf "echo" fun launch =>
  let (letters, words) := echoOptions (wordsOf launch)
  let words := if letters.contains 'n' then ['-', 'n'] :: words else words
  let escapes := (letters.filter (· ≠ 'n')).getLast? = some 'e'
  printText launch
    (if escapes then Printing.echo (words.map withOctalEscapes) else Printing.plainEcho words)

/-- Prints its arguments as a format says. -/
def printf : Tool := toolOf "printf" fun launch => do
  match wordsOf launch with
  | [] =>
    misuse launch (Bytes.ofString "missing operand")
    return 1
  | format :: rest =>
    let result := Printing.printf format rest
    let code ← printText launch result.text
    result.faults.forM fun fault =>
      complain launch (Octets.toBytes fault)
    return if result.faults.isEmpty then code else 1

/-- Evaluates a condition; the value is the exit code. -/
def evaluateCondition (launch : Launch) (words : List Octets) : Routine UInt8 := do
  match ← Condition.evaluate words with
  | .ok value => return if value then 0 else 1
  | .error fault =>
    complain launch (Octets.toBytes fault)
    return 2

/-- Evaluates its arguments as a condition. -/
def test : Tool := toolOf "test" fun launch => evaluateCondition launch (wordsOf launch)

/-- Evaluates its arguments as a condition; the last of them is a bracket. -/
def bracket : Tool := toolOf "[" fun launch => do
  let words := wordsOf launch
  if words.getLast? = some [']'] then evaluateCondition launch words.dropLast
  else
    complain launch (Bytes.ofString "missing ']'")
    return 2

/-- The signal that a word names, by its number or by its name. -/
def namedSignal (word : Octets) : Except Octets Signal :=
  let text := String.ofList word
  let name := if text.startsWith "SIG" then String.ofList (word.drop 3) else text
  match (signalOfNumber? word).or (Signal.ofName? name) with
  | some signal => .ok signal
  | none => .error ("invalid argument ".toList ++ word.take 1)

/-- The signal that words in front name, and the words after them. -/
def signalInFront : List Octets → Except Octets (Signal × List Octets)
  | ['-', 's'] :: name :: rest => (namedSignal name).map (·, rest)
  | ['-', '-'] :: rest => .ok (.terminate, rest)
  | ('-' :: name) :: rest => (namedSignal name).map (·, rest)
  | rest => .ok (.terminate, rest)

/-- Sends a signal to processes. -/
def kill : Tool := toolOf "kill" fun launch => do
  match signalInFront (wordsOf launch) with
  | .error fault =>
    complain launch (Octets.toBytes fault)
    return 1
  | .ok (signal, words) =>
    let sent ← words.mapM fun word => do
      match Octets.toNat? word with
      | none =>
        complain launch (Bytes.ofString "failed to parse argument: '" ++ Octets.toBytes word ++
          Bytes.ofString "'")
        return false
      | some process =>
        match ← Routine.send process (if signal.number = 0 then none else some signal) with
        | .ok () => return true
        | .error errno =>
          complain launch (Bytes.ofString "sending signal to " ++ Octets.toBytes word ++
            Bytes.ofString (" failed: " ++ errno.text))
          return false
    return if sent.all id ∧ ¬ sent.isEmpty then 0 else 1

end ShellSmoke.Tools
