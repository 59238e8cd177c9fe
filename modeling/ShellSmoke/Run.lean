/-
This file says what it is to run a script: what is asked for, what comes of it, and who carries it
out. The harness only knows a runner; the system that starts processes is one of them.
-/

import ShellSmoke.Log.Event
import ShellSmoke.Verdict

namespace ShellSmoke

/-- A script to be sent to an executable, with the time it has. -/
structure Job where
  executable : Bytes
  script : Bytes
  timeout : Duration
deriving DecidableEq, Repr, Inhabited

/-- What keeps a child from being started. -/
inductive Hindrance where
  /-- There is no pipe for the output. -/
  | pipe (cause : IoError)
  /-- The end of the pipe for writing cannot be had twice. -/
  | secondEnd (cause : IoError)
  /-- The executable does not start. -/
  | executable (cause : IoError)
deriving DecidableEq, Repr, Inhabited

/-- What a job fails with that is kept from starting. -/
def Hindrance.failure (job : Job) : Hindrance → RunError
  | pipe cause | secondEnd cause => .outputPipe cause
  | executable cause => .spawn job.executable cause

/-- What came of a job: its result, and the events reported on the way. -/
structure Run where
  result : Except RunError Outcome
  events : List Log.Event

/-- The run of a job that was kept from starting; it reports nothing. -/
def Run.unstarted (job : Job) (hindrance : Hindrance) : Run := ⟨.error (hindrance.failure job), []⟩

instance : Inhabited Run := ⟨.unstarted default default⟩

/-- Whatever carries out jobs, one after another, in a world that each of them may change. -/
def Runner (World : Type) : Type := Job → World → Run × World

end ShellSmoke
