/-
This file holds the state of the modelled system: its files, its processes with their descriptors,
the pipes between them, a clock, and the exchange with the harness, whose two pipes some of the
descriptors stand for.
-/

import ShellSmoke.Exchange
import ShellSmoke.Machine.Files

namespace ShellSmoke.Machine

/-! ### Descriptors -/

/-- What an open file stands for. -/
inductive Endpoint where
  /-- The pipe that carries the script. -/
  | script
  /-- The pipe that carries the output. -/
  | output
  /-- A pipe between processes, by its number. -/
  | pipe (number : Nat)
  | device (device : Device)
  | directory
  /-- A node, by its number. -/
  | node (number : Nat)
deriving DecidableEq, Repr, Inhabited

/-- An open file, which several descriptors can share. -/
structure OpenFile where
  endpoint : Endpoint
  reading : Bool
  writing : Bool
  /-- Whether every write goes to the end. -/
  appending : Bool
  /-- Where in the file the next byte is read or written. -/
  position : Nat
  /-- The number of descriptors that stand for it. -/
  references : Nat
deriving DecidableEq, Repr, Inhabited

/-- A descriptor of a process. -/
structure Descriptor where
  number : Nat
  /-- The number of the open file. -/
  file : Nat
  /-- Whether the descriptor outlives the program of the process. -/
  inherited : Bool
deriving DecidableEq, Repr, Inhabited

/-! ### Processes -/

/-- A process. -/
structure Process where
  number : Nat
  parent : Nat
  program : Program
  /-- The name of the program, and where it is. -/
  name : Bytes
  image : Path
  /-- The words and the variables that the program was started with. -/
  arguments : List Bytes
  bindings : Variables
  descriptors : List Descriptor
  directory : Path
  /-- The permissions that new files do not get. -/
  mask : Nat
  limits : List (Resource × Limit)
  arrangements : List (Signal × Disposition)
  /-- The signals that were kept for the process. -/
  signals : List Signal
  /-- The process has no turn before this time. -/
  ready : Nat
  /-- How long the process has worked, in microseconds. -/
  worked : Nat
  stopped : Bool
  /-- How the process will end at its next turn, if a signal ends it. -/
  fate : Option ExitStatus
  /-- How the process ended; it stays in the table until its parent asks. -/
  ended : Option ExitStatus
deriving Inhabited

namespace Process

/-- What a process has arranged for a signal. -/
def arrangement (process : Process) (signal : Signal) : Disposition :=
  (process.arrangements.lookup signal).getD .standard

/-- The open file that a descriptor stands for. -/
def file? (process : Process) (number : Nat) : Option Nat :=
  (process.descriptors.find? (·.number = number)).map (·.file)

/-- Whether the process may have a descriptor of a number. -/
def mayHave (process : Process) (number : Nat) : Bool :=
  ((process.limits.lookup .descriptors).bind (·.current)).all fun bound => decide (number < bound)

/-- The lowest number from a bound on that no descriptor has. -/
def freeDescriptor (process : Process) (low : Nat) : Nat :=
  let taken := process.descriptors.map (·.number)
  ((List.range' low (taken.length + 1)).find? fun number => ! taken.contains number).getD low

/-- Makes a descriptor stand for an open file. -/
def attach (process : Process) (descriptor : Descriptor) : Process :=
  { process with
    descriptors := descriptor ::
      process.descriptors.filter fun other => other.number ≠ descriptor.number }

/-- Takes a descriptor away. -/
def detach (process : Process) (number : Nat) : Process :=
  { process with descriptors := process.descriptors.filter (·.number ≠ number) }

/-- Whether a process still runs. -/
def isAlive (process : Process) : Bool := process.ended.isNone

/-- The limit of a resource. -/
def limit (process : Process) (resource : Resource) : Limit :=
  (process.limits.lookup resource).getD ⟨none, none⟩

/-- The process with another limit of a resource. -/
def withLimit (process : Process) (resource : Resource) (limit : Limit) : Process :=
  { process with
    limits := (resource, limit) :: process.limits.filter fun (other, _) => other ≠ resource }

end Process

/-! ### Processes of which nothing else is modelled -/

/-- The process that adopts orphans. -/
def originProcess : Nat := 1

/-- The process of the harness. -/
def harnessProcess : Nat := 4710

/-! ### The world -/

/-- The state of the system. -/
structure World where
  /-- The time in microseconds. -/
  clock : Nat
  /-- A time after which nobody looks at the system any more. -/
  horizon : Nat
  files : Files
  /-- The exchange with the harness. -/
  exchange : Exchange
  /-- What processes have written themselves into the pipe that carries the script. -/
  inlet : Channel
  /-- How many more descriptors the harness can have, if that is bounded. -/
  room : Option Nat
  /-- The process that runs the target. -/
  target : Nat
  processes : List Process
  openFiles : List (Nat × OpenFile)
  channels : List (Nat × Channel)
  /-- The number for the next open file or pipe. -/
  nextNumber : Nat
  nextProcess : Nat
  /-- The process that had the last turn. -/
  turn : Nat
deriving Inhabited

namespace World

/-- How long files that are changed one after another seem to be changed at once, in
microseconds. -/
def tickTime : Nat := 4000

/-- The time as files keep it. What was there before is older. -/
def fileTime (world : World) : Nat := world.clock / tickTime + 1

/-- Lets something happen on the far side of the exchange. -/
def does (world : World) (deed : Exchange.Deed) : World :=
  { world with exchange := (world.exchange.deed? deed).getD world.exchange }

/-- The process of a number. -/
def process? (world : World) (number : Nat) : Option Process :=
  world.processes.find? (·.number = number)

/-- Changes the process of a number. -/
def change (world : World) (number : Nat) (how : Process → Process) : World :=
  { world with
    processes := world.processes.map fun process =>
      if process.number = number then how process else process }

/-- Lets a process go on with a program. -/
def resume (world : World) (number : Nat) (program : Program) : World :=
  world.change number fun process => { process with program }

/-- Changes an open file. -/
def changeFile (world : World) (number : Nat) (how : OpenFile → OpenFile) : World :=
  { world with
    openFiles := world.openFiles.map fun (other, file) =>
      if other = number then (other, how file) else (other, file) }

/-- Changes a pipe between processes. -/
def changeChannel (world : World) (number : Nat) (how : Channel → Channel) : World :=
  { world with
    channels := world.channels.map fun (other, channel) =>
      if other = number then (other, how channel) else (other, channel) }

/-! ### What the system tells about processes -/

/-- The directory in which the system tells about processes. -/
def reportsName : Bytes := Bytes.ofString "proc"

/-- The entry that stands for the process that looks at it. -/
def selfName : Bytes := Bytes.ofString "self"

/-- The entry in which the descriptors of a process are. -/
def descriptorsName : Bytes := Bytes.ofString "fd"

/-- A number as a name. -/
def numberName (number : Nat) : Bytes := Bytes.ofString (toString number)

/-- The number that a name is. -/
def nameNumber? (name : Bytes) : Option Nat :=
  let number := name.foldl (fun number byte => number * 10 + (byte.toNat - 48)) 0
  if numberName number = name then some number else none

/-- Texts, each with a zero byte after it. -/
def zeroEnded (texts : List Bytes) : Bytes := texts.flatMap (· ++ [0])

/-- The longest name that the system keeps for a program. -/
def shownNameLimit : Nat := 15

/-- What the system tells about a process, by the names of the entries. -/
def reportsOn (process : Process) : List (Bytes × Node) :=
  let assignments := process.bindings.map fun (name, value) => name ++ '='.toUInt8 :: value
  [("cmdline", .report (zeroEnded process.arguments) 0o444),
    ("comm", .report (process.name.take shownNameLimit ++ [10]) 0o644),
    ("cwd", .link (Files.pathText process.directory)),
    ("environ", .report (zeroEnded assignments) 0o400),
    ("exe", .link (Files.pathText process.image)),
    ("fd", .directory 0o500),
    ("root", .link (Files.pathText []))].map
    fun ((name, node) : String × Node) => (Bytes.ofString name, node)

/-- Whether there is a process of a number, modelled or not. -/
def hasProcess (world : World) (number : Nat) : Bool :=
  (world.process? number).isSome || number == originProcess || number == harnessProcess

/-- What is at a place in the directory of processes, as a process sees it. -/
def reported? (world : World) (viewer : Process) : Path → Option Node
  | [] => some (.directory 0o555)
  | [name] =>
    if name = selfName then some (.link (numberName viewer.number))
    else ((nameNumber? name).filter world.hasProcess).map fun _ => .directory 0o555
  | [name, entry] => do
    let process ← (nameNumber? name).bind world.process?
    (reportsOn process).lookup entry
  | [name, entry, digits] => do
    let process ← (nameNumber? name).bind world.process?
    let descriptor ← nameNumber? digits
    let _ ← process.file? descriptor
    if entry = descriptorsName then some (.held process.number descriptor) else none
  | _ => none

/-- Where paths lead for a process. -/
def places (world : World) (viewer : Process) : Places
  | [] => world.files.find? []
  | first :: rest =>
    if first = reportsName then world.reported? viewer rest else world.files.find? (first :: rest)

/-- The numbers of the descriptors of a process, as a process sees them: that it looks takes a
descriptor of its own. -/
def descriptorsSeen (viewer process : Process) : List Nat :=
  let numbers := process.descriptors.map (·.number)
  if process.number = viewer.number then viewer.freeDescriptor 0 :: numbers else numbers

/-- The names in the directory of processes or below, as a process sees them. -/
def reportedNames (world : World) (viewer : Process) : Path → List Bytes
  | [] =>
    let others := (world.processes.map (·.number)).filter fun number => number ≠ viewer.number
    selfName :: (originProcess :: harnessProcess :: viewer.number :: others).map numberName
  | name :: rest =>
    match (nameNumber? name).bind world.process? with
    | none => []
    | some process =>
      if rest.isEmpty then (reportsOn process).map Prod.fst
      else (descriptorsSeen viewer process).map numberName

/-- The names in a directory, in order, as a process sees them. -/
def namesIn (world : World) (viewer : Process) (place : Path) : List Bytes :=
  match place with
  | first :: rest =>
    if first = reportsName then (world.reportedNames viewer rest).mergeSort Files.before
    else world.files.names place
  | [] => world.files.names place

/-! ### Sharing open files -/

/-- Counts one more descriptor for an open file. -/
def hold (world : World) (number : Nat) : World :=
  match world.openFiles.lookup number with
  | none => world
  | some file =>
    let world := world.changeFile number fun file =>
      { file with references := file.references + 1 }
    let counted (channel : Channel) : Channel :=
      let channel := if file.reading then channel.addReader else channel
      if file.writing then channel.addWriter else channel
    match file.endpoint with
    | .script =>
      let world := if file.reading then world.does .shareInput else world
      if file.writing then { world with inlet := world.inlet.addWriter } else world
    | .output => if file.writing then world.does .shareOutput else world
    | .pipe channel => world.changeChannel channel counted
    | _ => world

/-- Counts one descriptor less for an open file, and closes it after the last. -/
def release (world : World) (number : Nat) : World :=
  match world.openFiles.lookup number with
  | none => world
  | some file =>
    let world :=
      if file.references ≤ 1 then
        { world with openFiles := world.openFiles.filter fun (other, _) => other ≠ number }
      else
        world.changeFile number fun file => { file with references := file.references - 1 }
    let counted (channel : Channel) : Channel :=
      let channel := if file.reading then channel.removeReader else channel
      if file.writing then channel.removeWriters 1 else channel
    match file.endpoint with
    | .script =>
      let world := if file.reading then world.does .closeInput else world
      if file.writing then { world with inlet := world.inlet.removeWriters 1 } else world
    | .output => if file.writing then world.does .closeOutput else world
    | .pipe channel =>
      let world := world.changeChannel channel counted
      { world with
        channels := world.channels.filter fun (_, channel) =>
          0 < channel.readers || 0 < channel.writers }
    | _ => world

/-- Opens a file for which the world has counted its descriptors already. -/
def addFile (world : World) (file : OpenFile) : Nat × World :=
  (world.nextNumber,
    { world with
      openFiles := (world.nextNumber, file) :: world.openFiles
      nextNumber := world.nextNumber + 1 })

end World

end ShellSmoke.Machine
