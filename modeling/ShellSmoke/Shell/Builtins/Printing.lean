/-
This file holds the builtins that print, and those that answer questions.
-/

import ShellSmoke.Shell.Builtin
import ShellSmoke.Shell.Condition
import ShellSmoke.Shell.Printing

namespace ShellSmoke.Shell

open Machine

/-! ### Printing -/

/-- Prints its arguments. -/
def echoBuiltin : Builtin := fun _ arguments => printed (Printing.echo arguments)

/-- Prints its arguments as a format says. -/
def printfBuiltin : Builtin := fun _ arguments => do
  match (← readLetters "" "" arguments).operands with
  | [] => abandon "usage: printf format [arg ...]".toList
  | format :: rest =>
    let result := Printing.printf format rest
    result.faults.forM fun fault => report fault
    let flow ← printed result.text
    if result.broken then setStatus 2
    else unless result.faults.isEmpty do setStatus 1
    return flow

/-! ### Conditions -/

/-- Evaluates a condition. -/
def testCondition (words : List Octets) : Work Flow := do
  match ← Condition.evaluate words with
  | .ok value => done (if value then 0 else 1)
  | .error fault => refuse fault 2

/-- Evaluates its arguments as a condition. -/
def testBuiltin : Builtin := fun _ arguments => testCondition arguments

/-- Evaluates its arguments as a condition; the last of them begins with a bracket. -/
def bracketBuiltin : Builtin := fun _ arguments =>
  if (arguments.getLast?.bind (·.head?)) = some ']' then testCondition arguments.dropLast
  else refuse "missing ]".toList 2

end ShellSmoke.Shell
