/-
This file carries out jobs in the modelled system: it finds the executable, starts it with its two
pipes, lets the harness and the processes take their turns until the harness has a result or the
deadline has passed, and stops the child.
-/

import ShellSmoke.Exchange.Poll
import ShellSmoke.Run
import ShellSmoke.Machine.Boot

namespace ShellSmoke.Machine.World

/-! ### Finding the executable -/

/-- The directories in which an executable is looked for whose name has no `/`. -/
def searchDirectories : List Bytes :=
  ((usualVariables.lookup (Bytes.ofString "PATH")).map (Bytes.splitOn ':'.toUInt8)).getD []

/-- Looks for a program in directories. A directory without the program is passed over; a refusal
counts only if no later directory has the program. -/
def search (world : World) (process : Process) (name : Bytes) (refusal : Errno) :
    List Bytes → Except Errno Image
  | [] => .error refusal
  | directory :: rest =>
    match world.load process usualVariables (directory ++ '/'.toUInt8 :: name) [name] with
    | .ok image => .ok image
    | .error errno =>
      if errno = .accessDenied then world.search process name errno rest
      else if errno = .noEntry ∨ errno = .notDirectory then world.search process name refusal rest
      else .error errno

/-- What a process becomes with an executable. -/
def find (world : World) (process : Process) (executable : Bytes) : Except IoError Image :=
  if executable.contains 0 then .error .zeroByteInPath
  else
    let found :=
      if executable.isEmpty then .error .noEntry
      else if executable.contains '/'.toUInt8 then
        world.load process usualVariables executable [executable]
      else if Places.nameLimit < executable.length then .error .nameTooLong
      else world.search process executable .noEntry searchDirectories
    match found with
    | .ok image => .ok image
    | .error errno => .error (.system errno)

/-! ### Starting the child -/

/-- So many microseconds of a span of time. -/
def microseconds (duration : Duration) : Nat := duration.milliseconds * 1000

/-- How long somebody may look at the world after a run, in microseconds. -/
def afterglow : Nat := 1000000

/-- Makes the pipes of an exchange that is over into pipes between the processes that still hold
them. -/
def retireExchange (world : World) : World :=
  let input := world.nextNumber
  let output := world.nextNumber + 1
  let carried := (world.exchange.input.push world.inlet.held)
  let carried := { carried with writers := carried.writers + world.inlet.writers }
  { world with
    channels := (input, carried) :: (output, world.exchange.output) :: world.channels
    inlet := .fresh Channel.usualCapacity 0 0
    nextNumber := world.nextNumber + 2
    openFiles := world.openFiles.map fun (number, file) =>
      (number, match file.endpoint with
        | .script => { file with endpoint := .pipe input }
        | .output => { file with endpoint := .pipe output }
        | _ => file) }

/-- A process that the harness starts, which has no program and no descriptors yet. -/
def newChild (world : World) : Process where
  number := world.nextProcess
  parent := harnessProcess
  program := .exit 0
  name := []
  image := []
  arguments := []
  bindings := usualVariables
  descriptors := []
  directory := workplace
  mask := usualMask
  limits := usualLimits
  arrangements := []
  signals := []
  ready := world.clock
  worked := 0
  stopped := false
  fate := none
  ended := none

/-- Makes sure that the harness can have so many more descriptors. -/
def require (world : World) (count : Nat) : Except IoError Unit :=
  if world.room.all (count ≤ ·) then .ok () else .error (.system .tooManyFiles)

/-- The world in which the child of a job has just been started. The harness needs the two ends of
the pipe for the output, one of them a second time, and the two ends of the pipe for the script. -/
def spawn (world : World) (job : Job) : Except Hindrance World := do
  (world.require 2).mapError .pipe
  (world.require 3).mapError .secondEnd
  (world.require 5).mapError .executable
  let world := { world with horizon := world.clock + microseconds job.timeout + afterglow }
  let child := world.newChild
  let image ← (world.find child job.executable).mapError .executable
  let world := world.retireExchange
  let world := { world with
    exchange := .start job.executable job.script job.timeout Channel.usualCapacity
      Channel.usualCapacity }
  let (script, world) := world.addFile ⟨.script, true, false, false, 0, 1⟩
  let (output, world) := world.addFile ⟨.output, false, true, false, 0, 2⟩
  let child := { child with
    program := image.program
    name := image.name
    image := image.place
    arguments := image.arguments
    descriptors := [⟨0, script, true⟩, ⟨1, output, true⟩, ⟨2, output, true⟩] }
  return { world with
    target := child.number
    processes := world.processes ++ [child]
    nextProcess := child.number + 1 }

/-! ### Going on until there is a result -/

/-- Lets time pass up to a limit. -/
def idle (world : World) (limit : Nat) : World :=
  if limit ≤ world.clock then world else (world.pass limit).idle limit
termination_by limit - world.clock
decreasing_by
  have passed := clock_lt_clock_pass world limit
  omega

/-- Lets the harness take a step if it is possible. -/
def attempt (world : World) (move : Exchange.Move) : World :=
  { world with exchange := world.exchange.attempt move }

/-- Lets the harness look at the exchange. -/
def look (world : World) : World := { world with exchange := world.exchange.poll }

theorem clock_look (world : World) : world.look.clock = world.clock := rfl

/-- Lets the harness look at the exchange, and time pass, by turns, until the harness has a result;
it looks once more when the time is up, and then makes the last move. The result is `late` if there
was none in time. -/
def follow {Result : Type} (world : World) (limit : Nat) (last : Exchange.Move) (late : Result)
    (found : Except RunError Outcome → Result) : Result × World :=
  let looked := world.look
  match looked.exchange.result? with
  | some result => (found result, looked)
  | none =>
    if limit ≤ world.clock then (late, looked.attempt last)
    else (looked.pass limit).follow limit last late found
termination_by limit - world.clock
decreasing_by
  have passed := clock_lt_clock_pass world.look limit
  rw [clock_look] at passed
  omega

/-- How long it takes until the harness looks at the exchange for the first time, in
microseconds. -/
def openingTime : Nat := 700

/-- The steps of the harness that come before it looks at the exchange for the first time, which the
child does not wait for. Time that is limited can be up before. -/
def openExchange (world : World) (limit : Nat) : World :=
  ((world.attempt (.announce world.target)).attempt .openOutput).idle
    (min limit (world.clock + openingTime))

/-- Lets the signal that the harness has sent end the child, which another may have done for
already. -/
def deliverKill (world : World) : World :=
  if world.exchange.kills = 0 then world
  else
    let fate := (world.process? world.target).bind (·.fate)
    world.terminate world.target (fate.getD (.signalled .kill))

/-- Stops the child, and reports its end. -/
def stopChild (world : World) : World :=
  ((world.attempt .kill).deliverKill).attempt .bury

/-- Carries out a job. -/
def run : Runner World := fun job world =>
  match world.spawn job with
  | .error hindrance => (.unstarted job hindrance, world)
  | .ok world =>
    let limit := world.clock + microseconds job.timeout
    let (result, world) := (world.openExchange limit).follow limit .expire (.ok .timedOut) id
    let world := world.stopChild
    (⟨result, world.exchange.log⟩, world)

/-- Carries out a job that is dropped after a while unless it has a result by then; what was
reported until then is kept. -/
def runUntil (patience : Duration) (job : Job) (world : World) :
    Option (Except RunError Outcome) × List Log.Event × World :=
  if job.timeout.milliseconds ≤ patience.milliseconds then
    let (run, world) := run job world
    (some run.result, run.events, world)
  else
    match world.spawn job with
    | .error hindrance => (some (Run.unstarted job hindrance).result, [], world)
    | .ok world =>
      let limit := world.clock + microseconds patience
      let (result, world) := (world.openExchange limit).follow limit .drop none some
      let world := if result.isSome then world.stopChild else world.deliverKill
      (result, world.exchange.log, world)

end ShellSmoke.Machine.World
