/-
This file holds signals, and the status with which a process ends.
-/

namespace ShellSmoke

/-- A signal, by its number. -/
structure Signal where
  number : Nat
deriving DecidableEq, Repr, Inhabited

namespace Signal

/-- The names of the signals from 1 on, without the letters `SIG`. -/
def names : Array String := #[
  "HUP", "INT", "QUIT", "ILL", "TRAP", "ABRT", "BUS", "FPE", "KILL", "USR1", "SEGV", "USR2",
  "PIPE", "ALRM", "TERM", "STKFLT", "CHLD", "CONT", "STOP", "TSTP", "TTIN", "TTOU", "URG",
  "XCPU", "XFSZ", "VTALRM", "PROF", "WINCH", "IO", "PWR", "SYS"]

/-- The name of a signal, if it has one. -/
def name? (signal : Signal) : Option String :=
  if signal.number = 0 then none else names[signal.number - 1]?

/-- The signal of a name. -/
def ofName? (name : String) : Option Signal :=
  (names.findIdx? (· = name)).map fun index => ⟨index + 1⟩

/-- Interrupt from the keyboard. -/
def interrupt : Signal := ⟨2⟩

/-- Quit from the keyboard. -/
def quit : Signal := ⟨3⟩

/-- An operation on numbers has no result. -/
def arithmetic : Signal := ⟨8⟩

/-- Ends a process whatever it has arranged. -/
def kill : Signal := ⟨9⟩

/-- A pipe without a reader was written to. -/
def pipe : Signal := ⟨13⟩

/-- Asks a process to end. -/
def terminate : Signal := ⟨15⟩

/-- Tells of a child that has ended. -/
def child : Signal := ⟨17⟩

/-- Tells that a process has used as much time as it may. -/
def timeUsed : Signal := ⟨24⟩

/-- Tells that a file would be larger than a process may make it. -/
def sizeExceeded : Signal := ⟨25⟩

/-- Lets a stopped process go on. -/
def proceed : Signal := ⟨18⟩

/-- Stops a process whatever it has arranged. -/
def stop : Signal := ⟨19⟩

end Signal

/-- How a process ended. -/
inductive ExitStatus where
  /-- The process gave an exit code. -/
  | exited (code : UInt8)
  /-- A signal ended the process. -/
  | signalled (signal : Signal)
deriving DecidableEq, Repr, Inhabited

namespace ExitStatus

/-- The exit code of a status; a process that a signal ended has -1. -/
def code : ExitStatus → Int
  | exited code => code.toNat
  | signalled _ => -1

/-- The text of a status. -/
def text : ExitStatus → String
  | exited code => "exit status: " ++ toString code.toNat
  | signalled signal =>
    "signal: " ++ toString signal.number ++
      match signal.name? with
      | some name => " (SIG" ++ name ++ ")"
      | none => ""

end ExitStatus

end ShellSmoke
