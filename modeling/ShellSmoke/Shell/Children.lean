/-
This file says how the shell starts copies of itself and learns of their ends. Whenever it waits for
one child it takes note of all that have ended.
-/

import ShellSmoke.Shell.Session

namespace ShellSmoke.Shell

open Machine

/-! ### Starting -/

/-- Ends the process with the status of the last command, after the commands that were arranged for
that. They see the status that the process is to have, and can give it another by a breach. -/
def depart {α : Type} (means : Means) : Work α := do
  let session ← get
  set { session with
    interrupted := some session.status
    tested := false
    loops := 0
    speaker := []
    traps := session.traps.filter fun (signal, _) => signal.number ≠ 0 }
  if let some action := session.traps.lookup ⟨0⟩ then
    if let .error _ ← outcome (means.evaluate action) then
      Routine.exit (← get).status.toUInt8
  Routine.exit session.status.toUInt8

/-- A process of the shell: it does something, and ends with the status of its last command. -/
def process (means : Means) (action : Work Unit) : StateT Session Routine Unit := do
  let _ ← (do
    let _ ← outcome action
    depart means : Work Unit).run

/-- Starts a copy of the shell, which has no jobs, does something, and ends. -/
def forkShell (means : Means) (child : Work Unit) : Work Nat := do
  let session : Session := { ← get with jobs := [] }
  Routine.fork (process means child session fun (_, session) => .exit session.status.toUInt8)

/-- What a copy of the shell forgets: commands for signals, unless signals are ignored. -/
def enterSubshell : Work Unit := do
  let (ignored, caught) := (← get).traps.partition fun (_, action) => action.isEmpty
  caught.forM fun (signal, _) => do
    unless signal.number = 0 do Routine.arrange signal .standard
  modify fun session => { session with traps := ignored }

/-! ### Learning of ends -/

/-- Waits for a child to end, and takes note of it. -/
def reap (patience : Patience) : Work (Except Errno (Nat × ExitStatus)) := do
  let found ← Routine.wait patience
  if let .ok (process, ending) := found then
    modify fun session => { session with jobs := session.jobs.note process ending }
  return found

/-- Takes note of children that have ended; the count bounds how many they are. -/
def reapSome : (count : Nat) → Work Unit
  | 0 => return ()
  | count + 1 => do
    if let .ok _ ← reap .never then reapSome count

/-- Takes note of all children that have ended. -/
def reapAll : Work Unit := do reapSome (← get).lifetime

/-- Takes note of the jobs that have ended, if there may be any. -/
def noticeEnds : Work Unit := do
  if (← get).jobs.anyRunning then reapAll

/-- Waits for a child to end. A signal that the shell answers interrupts this. -/
def reapUntilSignal : Work (Except Errno (Nat × ExitStatus)) := do
  let patience := if (← get).arrived.isEmpty then .untilSignal else .never
  match ← reap patience with
  | .ok found => return .ok found
  | .error errno =>
    let signals ← Routine.takeSignals
    modify fun session => { session with arrived := session.arrived ++ signals }
    return .error errno

/-! ### The foreground -/

/-- Tells of a child that a signal ended, unless the signal is one that users send themselves. -/
def tellOfSignal : ExitStatus → Work Unit
  | .exited _ => pure ()
  | .signalled signal => do
    unless signal = .interrupt ∨ signal = .pipe do
      let _ ← write 2 (signalText signal ++ ['\n'])

/-- Waits until no process of a job runs, and tells of signals that ended them; the count bounds how
many children end until then. -/
def awaitEnds : (count : Nat) → Job → Work Job
  | 0, job => return job
  | count + 1, job => do
    unless job.isRunning do return job
    match ← reap .forever with
    | .ok (process, ending) =>
      if job.holds process then tellOfSignal ending
      awaitEnds count (job.note process ending)
    | .error _ => return job

/-- Starts processes that the shell waits for as one job. The job takes the number that a job may
have whose end is known; the value is the status of the last process. -/
def inForeground (start : Work (List Nat)) : Work Nat := do
  modify fun session => { session with jobs := session.jobs.makeRoom }
  let processes ← start
  let job ← awaitEnds (← get).lifetime ⟨0, processes.map (·, none), false⟩
  reapAll
  return (job.ending?.map statusOf).getD 127

/-- Starts processes that the shell does not wait for. -/
def inBackground (start : Work (List Nat)) : Work Unit := do
  let processes ← start
  modify fun session => { session with
    jobs := session.jobs.add processes
    background := processes.getLast? }

end ShellSmoke.Shell
