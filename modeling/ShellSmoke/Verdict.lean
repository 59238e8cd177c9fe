/-
This file judges the outcome of a run. The verdict depends on the exit code and on whether the
deadline passed, and on nothing else.
-/

import ShellSmoke.Failure

namespace ShellSmoke

/-- How a run of the target ended. -/
inductive Outcome where
  /-- The child exited, and its output came to an end, before the deadline. The exit code is -1 if
  a signal ended the child. -/
  | completed (output : String) (exitCode : Int)
  /-- The deadline came first. -/
  | timedOut
deriving DecidableEq, Repr, Inhabited

/-- Why a check failed. -/
inductive Fault where
  | timeout
  | nonZeroExit (exitCode : Int) (output : String)
deriving DecidableEq, Repr, Inhabited

/-- The diagnostic of a fault. -/
def Fault.message : Fault → String
  | timeout => "Too long no output. Probably you forgot to process EOF"
  | nonZeroExit _ _ => "Expected zero exit code"

/-- The judgement on a run. -/
inductive Verdict where
  | pass (output : String)
  | fail (fault : Fault)
deriving DecidableEq, Repr, Inhabited

namespace Verdict

/-- A run passes if it completed with exit code 0. -/
def ofOutcome : Outcome → Verdict
  | .timedOut => fail .timeout
  | .completed output exitCode =>
    if exitCode = 0 then pass output else fail (.nonZeroExit exitCode output)

/-- Whether the check passed. -/
def passed : Verdict → Bool
  | pass _ => true
  | fail _ => false

/-- What is printed for a verdict: the output of a pass, the diagnostic of a failure, and a
newline. -/
def transcript : Verdict → String
  | pass output => output ++ "\n"
  | fail fault => fault.message ++ "\n"

/-- The result of the program for a verdict. -/
def result : Verdict → Except ExitError Unit
  | pass _ => .ok ()
  | fail fault => .error ⟨ExitError.failedCheckCode, fault.message⟩

end Verdict

end ShellSmoke
