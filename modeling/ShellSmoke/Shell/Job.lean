/-
This file holds the jobs of a shell: what it started in the background, and what it knows about the
ends of the processes. A job has a number; the last one is the first in the list.
-/

import ShellSmoke.Shell.Octets
import ShellSmoke.Status

namespace ShellSmoke.Shell

/-! ### Ends of processes -/

/-- The status of a command from how its process ended. -/
def statusOf : ExitStatus → Nat
  | .exited code => code.toNat
  | .signalled signal => 128 + signal.number

/-- The texts of the signals from 1 on. -/
def signalTexts : Array String := #[
  "Hangup", "Interrupt", "Quit", "Illegal instruction", "Trace/breakpoint trap", "Aborted",
  "Bus error", "Floating point exception", "Killed", "User defined signal 1",
  "Segmentation fault", "User defined signal 2", "Broken pipe", "Alarm clock", "Terminated",
  "Stack fault", "Child exited", "Continued", "Stopped (signal)", "Stopped", "Stopped (tty input)",
  "Stopped (tty output)", "Urgent I/O condition", "CPU time limit exceeded",
  "File size limit exceeded", "Virtual timer expired", "Profiling timer expired",
  "Window changed", "I/O possible", "Power failure", "Bad system call"]

/-- The text of a signal. -/
def signalText (signal : Signal) : Octets :=
  let other := if 34 ≤ signal.number then "Real-time signal " ++ toString (signal.number - 34)
    else "Unknown signal " ++ toString signal.number
  ((signalTexts[signal.number - 1]?).getD other).toList

/-! ### Jobs -/

/-- What the shell started in the background: one process, or the processes of a pipeline. -/
structure Job where
  number : Nat
  /-- The processes in order, and how each ended if it is known to have. -/
  processes : List (Nat × Option ExitStatus)
  /-- Whether the shell has waited for the job after its end. -/
  awaited : Bool
deriving DecidableEq, Repr, Inhabited

namespace Job

/-- Whether a process of the job may still run. -/
def isRunning (job : Job) : Bool := job.processes.any fun (_, ending) => ending.isNone

/-- How the last process of the job ended. -/
def ending? (job : Job) : Option ExitStatus := job.processes.getLast?.bind (·.2)

/-- The number of the last process of the job. -/
def lastProcess? (job : Job) : Option Nat := job.processes.getLast?.map (·.1)

/-- Whether a process belongs to the job. -/
def holds (job : Job) (process : Nat) : Bool := job.processes.any fun (other, _) => other = process

/-- Takes note of how a process of the job ended. -/
def note (job : Job) (process : Nat) (ending : ExitStatus) : Job :=
  { job with
    processes := job.processes.map fun (other, old) =>
      (other, if other = process then some ending else old) }

/-- What the job is doing. -/
def state (job : Job) : Octets :=
  if job.isRunning then "Running".toList
  else
    match job.ending? with
    | some (.signalled signal) => signalText signal
    | some (.exited code) => if code = 0 then "Done".toList
      else "Done(".toList ++ Octets.ofNat code.toNat ++ [')']
    | none => []

/-- The width of the columns in front of the commands of a job. -/
def columnWidth : Nat := 33

/-- A text filled with blanks up to the width of the columns, with one blank at least. -/
def column (text : Octets) : Octets :=
  text ++ List.replicate (max 1 (columnWidth - text.length)) ' '

/-- The line that tells about a job with a mark; the commands themselves are not known. -/
def line (job : Job) (mark : Char) : Octets :=
  let front := ('[' :: Octets.ofNat job.number) ++ "] ".toList ++ [mark, ' ']
  column (front ++ job.state) ++
    (job.processes.drop 1).flatMap (fun _ => " | ".toList) ++ ['\n']

/-- The lines that tell about a job with a mark, one for each process with its number. -/
def lines (job : Job) (mark : Char) : Octets :=
  let front := ('[' :: Octets.ofNat job.number) ++ "] ".toList ++ [mark, ' ']
  let first := job.processes.head?.toList.flatMap fun (process, _) =>
    column (front ++ Octets.ofNat process ++ ' ' :: job.state)
  let others := (job.processes.drop 1).flatMap fun (process, _) =>
    " |\n".toList ++ column (List.replicate front.length ' ' ++ Octets.ofNat process ++ [' '])
  first ++ others ++ ['\n']

end Job

/-! ### Lists of jobs -/

/-- The jobs of a shell, the last one first. -/
abbrev Jobs := List Job

namespace Jobs

/-- Takes note of how a process ended. -/
def note (jobs : Jobs) (process : Nat) (ending : ExitStatus) : Jobs :=
  jobs.map fun job => if job.isRunning ∧ job.holds process then job.note process ending else job

/-- Whether a job may still run. -/
def anyRunning (jobs : Jobs) : Bool := jobs.any (·.isRunning)

/-- Takes note that the shell has waited for the job of a number. -/
def await (jobs : Jobs) (number : Nat) : Jobs :=
  jobs.map fun job => if job.number = number then { job with awaited := true } else job

/-- Takes a job away. -/
def remove (jobs : Jobs) (number : Nat) : Jobs := jobs.filter (·.number ≠ number)

/-- Whether a new job can have a number: no job has it, or one for whose end the shell has
waited. -/
def isFree (jobs : Jobs) (number : Nat) : Bool :=
  (jobs.filter (·.number = number)).all fun job => job.awaited && ! job.isRunning

/-- The lowest number that a new job can have. -/
def freeNumber (jobs : Jobs) : Nat :=
  ((List.range' 1 (jobs.length + 1)).find? jobs.isFree).getD (jobs.length + 1)

/-- The jobs without the one that gives its number to a new job. -/
def makeRoom (jobs : Jobs) : Jobs := jobs.remove jobs.freeNumber

/-- The jobs with a new one. -/
def add (jobs : Jobs) (processes : List Nat) : Jobs :=
  ⟨jobs.freeNumber, processes.map (·, none), false⟩ :: jobs.makeRoom

/-- The mark of a job: the last one and the one before it are told apart from the others. -/
def mark (jobs : Jobs) (job : Job) : Char :=
  match jobs with
  | first :: second :: _ =>
    if job.number = first.number then '+' else if job.number = second.number then '-' else ' '
  | [first] => if job.number = first.number then '+' else ' '
  | [] => ' '

/-- The job that a word names after its percent sign, or why there is none. The word is a number or
stands for one of the last two; no command is known to look for. -/
def named (jobs : Jobs) (word : Octets) : Except Octets Job :=
  let missing : Octets := "No such job: ".toList ++ word
  match word with
  | ['%'] | ['%', '%'] | ['%', '+'] =>
    (jobs.head?.map .ok).getD (.error "No current job".toList)
  | ['%', '-'] => ((jobs[1]?).map .ok).getD (.error "No previous job".toList)
  | '%' :: name =>
    if name = ['?'] then
      match jobs with
      | [job] => .ok job
      | [] => .error missing
      | _ => .error (word ++ ": ambiguous".toList)
    else
      match (Octets.toNat? name).bind fun number => jobs.find? (·.number = number) with
      | some job => .ok job
      | none => .error missing
  | _ => .error missing

end Jobs

end ShellSmoke.Shell
