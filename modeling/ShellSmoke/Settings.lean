/-
This file reads the settings that the environment of the program carries: the deadline of a run,
the filter of the log, and whether messages are colored. A variable whose value is not UTF-8 counts
as not set.
-/

import ShellSmoke.Duration
import ShellSmoke.Text.Lossy

namespace ShellSmoke

/-- The variables of a process and their values; no name occurs twice. -/
structure Environment where
  bindings : List (String × Bytes)
deriving DecidableEq, Repr, Inhabited

namespace Environment

/-- No variable is set. -/
def empty : Environment := ⟨[]⟩

/-- Takes a variable away. -/
def unset (environment : Environment) (name : String) : Environment :=
  ⟨environment.bindings.filter fun (other, _) => other ≠ name⟩

/-- Gives a variable a value. -/
def set (environment : Environment) (name : String) (value : Bytes) : Environment :=
  ⟨(name, value) :: (environment.unset name).bindings⟩

/-- The value of a variable, byte for byte. -/
def find? (environment : Environment) (name : String) : Option Bytes :=
  environment.bindings.lookup name

/-- The value of a variable as a text. -/
def text? (environment : Environment) (name : String) : Option String :=
  (environment.find? name).bind Text.decodeStrict?

end Environment

namespace Settings

/-! ### The deadline -/

/-- One more than the largest number of milliseconds that a deadline can have. -/
def millisecondBound : Nat := 18446744073709551616

/-- Adds a decimal digit to a number, unless the character is none or the number grows too
large. -/
def addDigit (number : Nat) (char : Char) : Option Nat :=
  if char.isDigit then
    let next := number * 10 + (char.toNat - '0'.toNat)
    if next < millisecondBound then some next else none
  else none

/-- The number that a text denotes: one sign `+` at most, then one decimal digit or more. -/
def number? (text : List Char) : Option Nat :=
  let digits := match text with
    | '+' :: rest => rest
    | _ => text
  if digits.isEmpty then none else digits.foldlM addDigit 0

/-- The deadline of a run for which nothing is set. -/
def defaultTimeout : Duration := .seconds 30

/-- The deadline of a run. -/
def timeout (environment : Environment) : Duration :=
  match (environment.text? "MICRO_CHECK_TIMEOUT_MS").bind fun text => number? text.toList with
  | some milliseconds => ⟨milliseconds⟩
  | none => defaultTimeout

/-! ### The log -/

/-- The filter of the log where nothing is set. -/
def defaultLogFilter : String := "warn"

/-- The filter of the log: the first variable that is set and not empty decides. -/
def logFilter (environment : Environment) : String :=
  (["MICRO_CHECK_LOG", "RUST_LOG"].findSome? fun name =>
    (environment.text? name).filter (· ≠ "")).getD defaultLogFilter

/-! ### Colors -/

/-- Whether messages are colored: one variable forbids it, another demands it, and otherwise only
a terminal gets colors. -/
def colorize (environment : Environment) (onTerminal : Bool) : Bool :=
  if environment.text? "NO_COLOR" = some "1" then false
  else if environment.text? "COLOR" = some "1" then true
  else onTerminal

/-- Whether terminal sequences in a message stay on its way to a stream. Variables that are not
empty decide first, and whether the stream is a terminal last. -/
def keepsSequences (environment : Environment) (onTerminal : Bool) : Bool :=
  let demands (name : String) : Bool := decide ((environment.find? name).getD [] ≠ [])
  if demands "NO_COLOR" then false
  else if demands "CLICOLOR_FORCE" then true
  else onTerminal

end Settings

end ShellSmoke
