/-
This file holds the builtins that send signals, arrange for signals, and wait for children.
-/

import ShellSmoke.Shell.Builtin

namespace ShellSmoke.Shell

open Machine

/-! ### The names of signals -/

/-- How many signals there are, with the one that stands for the exit. -/
def signalCount : Nat := 65

/-- The name of a signal for the shell; a few have only their number. -/
def signalName (signal : Signal) : String :=
  let number := signal.number
  if number = 0 then "EXIT"
  else if number = 16 then "16"
  else if number = 34 then "RTMIN"
  else if number = 64 then "RTMAX"
  else if 34 < number ∧ number < 50 then "RTMIN+" ++ toString (number - 34)
  else if 49 < number ∧ number < 64 then "RTMAX-" ++ toString (64 - number)
  else signal.name?.getD (toString number)

/-- The signal of a number. -/
def signalOfNumber? (word : Octets) : Option Signal :=
  ((Octets.toNat? word).filter (· < signalCount)).map (⟨·⟩)

/-- The signal that a word names, by its number or by its name; some names do not count. -/
def signalOf? (least : Nat) (word : Octets) : Option Signal :=
  let name := (String.ofList word).toUpper
  let signals : List Signal := ((List.range signalCount).drop least).map (⟨·⟩)
  (signalOfNumber? word).or (signals.find? fun signal => signalName signal = name)

/-! ### Sending -/

/-- The job that a word names. -/
def readJob (word : Octets) : Work Job := do
  match (← get).jobs.named word with
  | .ok job => return job
  | .error fault => abandon fault

/-- Sends a signal to processes; the value tells whether all of them are there. A dash in front
stands for a group of processes, and so does a job, and there are no groups. -/
def sendAll (signal : Signal) : List Octets → Work Bool
  | [] => return true
  | word :: rest => do
    let sent ← match word with
      | '%' :: _ =>
        let _ ← readJob word
        pure (.error Errno.noProcess)
      | '-' :: digits =>
        let _ ← readNumber digits
        pure (.error Errno.noProcess)
      | digits =>
        let process ← readNumber digits
        Routine.send process (if signal.number = 0 then none else some signal)
    match sent with
    | .ok () => sendAll signal rest
    | .error errno =>
      report (errno.text.toList ++ ['\n'])
      let _ ← sendAll signal rest
      return false

/-- How `kill` is used. -/
def killUsage : Octets :=
  "Usage: kill [-s sigspec | -signum | -sigspec] [pid | job]... or\nkill -l [exitstatus]".toList

/-- The names of all signals, or that of the signal of a status. -/
def listSignals (arguments : List Octets) : Work Flow := do
  match arguments with
  | [] =>
    let names := ((List.range signalCount).drop 1).map fun number => signalName ⟨number⟩
    printed (("0" :: names).flatMap fun name => name.toList ++ ['\n'])
  | argument :: _ =>
    let status ← readNumber argument
    let number := if 128 < status then status - 128 else status
    if number = 0 ∨ signalCount ≤ number then
      abandon ("invalid signal number or exit status: ".toList ++ argument)
    printed ((signalName ⟨number⟩).toList ++ ['\n'])

/-- Sends a signal, or lists the names of signals. -/
def killBuiltin : Builtin := fun _ arguments => do
  let named := match arguments with
    | ('-' :: name) :: rest => (signalOf? 1 name).map (·, rest)
    | _ => none
  let (signal, processes) ← match named with
    | some found => pure found
    | none =>
      let letters ← readLetters "l" "s" arguments
      if letters.has 'l' then return ← listSignals letters.operands
      match letters.letters.getLast? with
      | none => pure (Signal.terminate, letters.operands)
      | some (_, name) =>
        match signalOf? 1 name with
        | some signal => pure (signal, letters.operands)
        | none => abandon ("invalid signal number or name: ".toList ++ name)
  if processes.isEmpty then abandon killUsage
  let well ← sendAll signal processes
  done (if well then 0 else 1)

/-! ### Arranging -/

/-- Arranges what happens on signals; the value tells whether all of them are known. -/
def arrangeTraps (action : Option Octets) (words : List Octets) : Work Bool := do
  match words with
  | [] => return true
  | word :: rest =>
    match signalOf? 0 word with
    | none =>
      let _ ← write 2 ("trap: ".toList ++ word ++ ": bad trap\n".toList)
      return false
    | some signal =>
      modify fun session => { session with
        traps := (action.map fun action => (signal, action)).toList ++
          session.traps.filter fun (other, _) => other ≠ signal }
      unless signal.number = 0 do
        Routine.arrange signal (match action with
          | none => .standard
          | some [] => .ignored
          | some _ => .caught)
      arrangeTraps action rest

/-- What is arranged for signals, as commands that would arrange it so. -/
def trapListing (traps : List (Signal × Octets)) : Octets :=
  let ordered := traps.mergeSort fun left right => decide (left.1.number ≤ right.1.number)
  ordered.flatMap fun (signal, action) =>
    "trap -- ".toList ++ quotedText action ++ ' ' :: (signalName signal).toList ++ ['\n']

/-- Arranges for signals and for the exit. Without an action, or with a dash for it, a signal does
again what it does by itself. -/
def trapBuiltin : Builtin := fun _ arguments => do
  match (← readLetters "" "" arguments).operands with
  | [] => printed (trapListing (← get).traps)
  | action :: words =>
    let well ← if words.isEmpty ∨ (signalOfNumber? action).isSome then
        arrangeTraps none (action :: words)
      else arrangeTraps (if action = ['-'] then none else some action) words
    done (if well then 0 else 1)

/-! ### Waiting -/

/-- The status of a wait that a signal interrupted: it tells of the last signal that came. -/
def interruptionStatus : Work Nat := do
  return 128 + (((← get).arrived.getLast?).map (·.number)).getD 0

/-- Waits until no job runs; the value is nothing if a signal interrupted this. The count bounds how
many children end until then. -/
def awaitJobs : (count : Nat) → Work (Option Nat)
  | 0 => return some 0
  | count + 1 => do
    modify fun session =>
      let (ended, others) := session.jobs.span (! ·.isRunning)
      { session with jobs := ended.map (fun job => { job with awaited := true }) ++ others }
    unless (← get).jobs.anyRunning do return some 0
    match ← reapUntilSignal with
    | .ok _ =>
      reapAll
      awaitJobs count
    | .error errno => return if errno = .noChild then some 0 else none

/-- Waits until a job does not run; the value is its status, or nothing if a signal interrupted
this. The count bounds how many children end until then. -/
def awaitJob (number : Nat) : (count : Nat) → Work (Option Nat)
  | 0 => return none
  | count + 1 => do
    match (← get).jobs.find? (·.number = number) with
    | none => return some 127
    | some job =>
      if job.isRunning then
        match ← reapUntilSignal with
        | .ok (process, ending) =>
          if job.holds process then tellOfSignal ending
          awaitJob number count
        | .error errno => return if errno = .noChild then some 127 else none
      else
        reapAll
        modify fun session => { session with jobs := session.jobs.await number }
        return job.ending?.map statusOf

/-- Waits for jobs one after another, named as such or by their last processes; the status is that
of the last that there is. -/
def awaitEach (status : Nat) : List Octets → Work Nat
  | [] => return status
  | word :: rest => do
    let job? ← if word.head? = some '%' then some <$> readJob word
      else
        let process ← readNumber word
        pure ((← get).jobs.find? (·.lastProcess? = some process))
    match job? with
    | none => awaitEach status rest
    | some job =>
      match ← awaitJob job.number (← get).lifetime with
      | some status => awaitEach status rest
      | none => interruptionStatus

/-- Waits for jobs, or for all. -/
def waitBuiltin : Builtin := fun _ arguments => do
  let operands := (← readLetters "" "" arguments).operands
  if operands.isEmpty then
    match ← awaitJobs (← get).lifetime with
    | some status => done status
    | none => done (← interruptionStatus)
  else done (← awaitEach 127 operands)

/-! ### Jobs -/

/-- Tells about a job, in a line, by its processes, or by the number of its first process. A job
that has ended is told about once. -/
def showJob (letter : Option Char) (job : Job) : Work Unit := do
  let jobs := (← get).jobs
  let first := job.processes.head?.toList.flatMap fun (process, _) => Octets.ofNat process ++ ['\n']
  print (match letter with
    | none => job.line (jobs.mark job)
    | some 'l' => job.lines (jobs.mark job)
    | some _ => first)
  unless job.isRunning ∨ letter = some 'p' do
    modify fun session => { session with jobs := session.jobs.remove job.number }

/-- Tells about jobs, or about all. -/
def jobsBuiltin : Builtin := fun _ arguments => do
  let letters ← readLetters "lp" "" arguments
  let letter := letters.letters.getLast?.map (·.1)
  if letters.operands.isEmpty then
    reapAll
    (← get).jobs.forM (showJob letter)
  else
    letters.operands.forM fun word => do showJob letter (← readJob word)
  done 0

/-- Refuses to move a job between the background and the foreground, as the shell has no terminal to
do that for. -/
def moveBuiltin : Builtin := fun _ arguments => do
  let word? := (← readLetters "" "" arguments).operands.head?
  let _ ← readJob (word?.getD ['%'])
  let name := word?.getD "(null)".toList
  abandon ("job ".toList ++ name ++ " not created under job control".toList)

end ShellSmoke.Shell
