/-
This file holds what can go wrong: failures of single input and output calls, failures that end
a run before it has a verdict, and the error that carries the exit status of the program. Each
is a cause; the wording of each is in one function.
-/

import ShellSmoke.Errno
import ShellSmoke.Text.Lossy

namespace ShellSmoke

/-! ### Failures of a call -/

/-- What sort of failure a call met. -/
inductive IoKind where
  | notFound
  | permissionDenied
  | brokenPipe
  | interrupted
  | wouldBlock
  | invalidInput
  | invalidData
  | timedOut
  | writeZero
  | unexpectedEnd
  | other
deriving DecidableEq, Repr, Inhabited

/-- The text of a failure of which nothing but its sort is known. -/
def IoKind.text : IoKind → String
  | .notFound => "entity not found"
  | .permissionDenied => "permission denied"
  | .brokenPipe => "broken pipe"
  | .interrupted => "operation interrupted"
  | .wouldBlock => "operation would block"
  | .invalidInput => "invalid input parameter"
  | .invalidData => "invalid data"
  | .timedOut => "timed out"
  | .writeZero => "write zero"
  | .unexpectedEnd => "unexpected end of file"
  | .other => "other error"

/-- The sort of an error number. -/
def Errno.kind (errno : Errno) : IoKind :=
  match errno.number with
  | 1 | 13 => .permissionDenied
  | 2 => .notFound
  | 4 => .interrupted
  | 11 => .wouldBlock
  | 22 => .invalidInput
  | 32 => .brokenPipe
  | 110 => .timedOut
  | _ => .other

/-- A failure of one input or output call. -/
inductive IoError where
  /-- The system refused with an error number. -/
  | system (errno : Errno)
  /-- The failure has a sort and no words of its own. -/
  | plain (kind : IoKind)
  /-- The failure has a sort and words of its own. -/
  | worded (kind : IoKind) (words : String)
deriving DecidableEq, Repr, Inhabited

namespace IoError

/-- The sort of a failure. -/
def kind : IoError → IoKind
  | system errno => errno.kind
  | plain kind => kind
  | worded kind _ => kind

/-- The text of a failure. -/
def text : IoError → String
  | system errno => errno.text ++ " (os error " ++ toString errno.number ++ ")"
  | plain kind => kind.text
  | worded _ words => words

/-- A stream accepted none of the bytes it was offered. -/
def nothingAccepted : IoError := worded .writeZero "failed to write whole buffer"

/-- A path holds a byte 0, which no name can. -/
def zeroByteInPath : IoError := worded .invalidInput "nul byte found in provided data"

end IoError

/-! ### Failures of a run -/

/-- Why a run ended without an outcome. -/
inductive RunError where
  /-- The executable could not be started. -/
  | spawn (executable : Bytes) (cause : IoError)
  /-- The pipe for the output could not be set up. -/
  | outputPipe (cause : IoError)
  /-- The script could not be written. -/
  | input (cause : IoError)
  /-- The output could not be read. -/
  | output (cause : IoError)
  /-- The exit of the child could not be awaited. -/
  | wait (executable : Bytes) (cause : IoError)
deriving DecidableEq, Repr, Inhabited

namespace RunError

/-- The call that failed. -/
def cause : RunError → IoError
  | spawn _ cause => cause
  | outputPipe cause => cause
  | input cause => cause
  | output cause => cause
  | wait _ cause => cause

/-- The text of a failure: what was attempted and how it failed. Broken parts of a path are
shown by replacement characters. -/
def message : RunError → String
  | spawn executable cause =>
    "failed to spawn `" ++ Text.decode executable ++ "`: " ++ cause.text
  | outputPipe cause => "failed to set up output pipe: " ++ cause.text
  | input cause => "failed to write script to stdin: " ++ cause.text
  | output cause => "failed to read output: " ++ cause.text
  | wait executable cause =>
    "failed to wait for `" ++ Text.decode executable ++ "`: " ++ cause.text

end RunError

/-! ### The error that ends the program -/

/-- An exit status with the text that explains it. -/
structure ExitError where
  code : Int
  message : String
deriving DecidableEq, Repr, Inhabited

namespace ExitError

/-- The exit status of a program that reached no verdict. -/
def brokenCode : Int := 1

/-- The exit status of a failed check. -/
def failedCheckCode : Int := -1

/-- No verdict was reached, for the reason given. -/
def broken (reason : String) : ExitError := ⟨brokenCode, "error: " ++ reason⟩

/-- A failed run reaches no verdict. -/
def ofRunError (failure : RunError) : ExitError := broken failure.message

/-- A stream that fails keeps the transcript from being seen. -/
def ofIoError (failure : IoError) : ExitError := broken failure.text

end ExitError

end ShellSmoke
