/-
This file holds what a running shell knows, and the small things it does: keeping variables,
printing messages and moving descriptors.
-/

import ShellSmoke.Shell.Command
import ShellSmoke.Shell.Job
import ShellSmoke.Shell.Options

namespace ShellSmoke.Shell

open Machine

/-! ### Sessions -/

/-- A variable. -/
structure Variable where
  name : Octets
  /-- The value, if the variable is set. -/
  value : Option Octets
  /-- Whether programs get the variable. -/
  exported : Bool
  /-- Whether the variable stays as it is for good. -/
  fixed : Bool
deriving DecidableEq, Repr, Inhabited

/-- A program that the shell has found. -/
structure Found where
  name : Octets
  /-- The number of the directory where it was, in the list of those that are searched. -/
  index : Nat
  /-- Whether the working directory has changed since then. -/
  stale : Bool
deriving DecidableEq, Repr, Inhabited

/-- What a command takes for itself, as it was before. -/
inductive Kept where
  | binding (name : Octets) (before : Option Variable)
  | options (before : Options)
deriving DecidableEq, Repr, Inhabited

/-- What a running shell knows. -/
structure Session where
  /-- The name of the shell or of its script. -/
  name : Octets
  arguments : List Octets
  bindings : List Variable
  functions : List (Octets × Command)
  /-- The status of the last command. -/
  status : Nat
  /-- The status of the last command whose output was substituted in the command at hand. -/
  substituted : Option Nat
  /-- The number of the process that was started as a shell. -/
  process : Nat
  /-- The number of the last process in the background. -/
  background : Option Nat
  /-- What the shell started in the background and has not done with. -/
  jobs : Jobs
  /-- The signals that have come and are not answered yet. -/
  arrived : List Signal
  options : Options
  /-- How many loops are around the commands at hand. -/
  loops : Nat
  /-- Whether somebody looks at the status of the commands at hand. -/
  tested : Bool
  /-- The commands for signals; signal 0 stands for the exit of the shell. -/
  traps : List (Signal × Octets)
  /-- The status before the commands for a signal or for the exit, while they run. -/
  interrupted : Option Nat
  /-- How many calls of functions are around the commands at hand. -/
  calls : Nat
  /-- What the commands at hand take for themselves and give back when they end: a list for each of
  them, innermost first. -/
  frames : List (List Kept)
  /-- Where the search for the letters of arguments goes on: the number of a word, and how much of
  the word before it is read already. -/
  letterPlace : Nat × Option Nat
  /-- The builtin at hand, as messages name it. -/
  speaker : Octets
  /-- The line of the command at hand. -/
  line : Nat
  /-- The line that the script was read up to. -/
  reached : Nat
  /-- The aliases, with their texts, in the order in which they are listed. -/
  aliases : List (Octets × Octets)
  /-- The programs that were found, in the order in which they are listed. -/
  found : List Found
  /-- The working directory, by the path on which the shell came there. -/
  place : Octets
  /-- Whether a text of the builtin at hand could not be written. -/
  unwritten : Bool
  /-- A number of requests after which nobody looks at the shell any more. -/
  lifetime : Nat
deriving Inhabited

/-- Why something comes to an end before its time. -/
inductive Breach where
  /-- It is given up, after a message. -/
  | failure
  /-- A user interrupts it. -/
  | interruption
  /-- The shell exits. -/
  | departure
deriving DecidableEq, Repr, Inhabited

/-- A part of what a shell does. -/
abbrev Work := ExceptT Breach (StateT Session Routine)

/-- How commands came to their end. -/
inductive Flow where
  | normal
  /-- So many loops are to be left. -/
  | leaveLoops (count : Nat)
  /-- So many loops are to be left but for the last, which goes on. -/
  | continueLoop (count : Nat)
  /-- The function is to be left. -/
  | leaveFunction
deriving DecidableEq, Repr, Inhabited

/-- Whatever runs commands. It is told whether anything follows them in the process. -/
abbrev Evaluator := (last : Bool) → List Statement → Work Flow

/-- How the shell runs commands, and commands that are given as text. -/
structure Means where
  run : Evaluator
  evaluate : Octets → Work Flow

/-! ### Variables -/

namespace Session

/-- The variable of a name. -/
def find? (session : Session) (name : Octets) : Option Variable :=
  session.bindings.find? (·.name = name)

/-- The variable of a name as it is now; one that nobody mentioned has no value. -/
def held (session : Session) (name : Octets) : Variable :=
  (session.find? name).getD ⟨name, none, false, false⟩

/-- The value of the variable of a name. -/
def valueOf? (session : Session) (name : String) : Option Octets :=
  (session.find? name.toList).bind (·.value)

/-- The variable that holds the directories in which programs are looked for. -/
def searchName : Octets := "PATH".toList

/-- Forgets the programs that were found, if a variable changes where they are looked for. -/
def forgetFound (session : Session) (name : Octets) : Session :=
  if name = searchName then { session with found := [] } else session

/-- Puts a variable in the place of another of its name. -/
def put (session : Session) (held : Variable) : Session :=
  let session := session.forgetFound held.name
  { session with bindings := held :: session.bindings.filter (·.name ≠ held.name) }

/-- Takes a variable away. -/
def unset (session : Session) (name : Octets) : Session :=
  let session := session.forgetFound name
  { session with bindings := session.bindings.filter (·.name ≠ name) }

/-- Whether the shell exits when a command fails. -/
def stopsOnError (session : Session) : Bool := session.options.contains 'e'

/-- Whether a parameter that is not set is an error. -/
def requiresSet (session : Session) : Bool := session.options.contains 'u'

/-- Whether commands are shown before they run. -/
def showsCommands (session : Session) : Bool := session.options.contains 'x'

/-- Whether the lines of scripts are shown as they are read. -/
def showsLines (session : Session) : Bool := session.options.contains 'v'

/-- Whether commands are read, but not run. -/
def onlyReads (session : Session) : Bool := session.options.contains 'n'

/-- Whether patterns stand for themselves, and not for names of files. -/
def keepsPatterns (session : Session) : Bool := session.options.contains 'f'

/-- Whether files that are there are not written anew. -/
def protectsFiles (session : Session) : Bool := session.options.contains 'C'

/-- Whether programs get every variable that is given a value. -/
def exportsAll (session : Session) : Bool := session.options.contains 'a'

/-- Gives a variable a value. The search for the letters of arguments starts again if its variable
gets one. -/
def assign (session : Session) (name value : Octets) : Session :=
  let before := session.held name
  let exported := before.exported || session.exportsAll
  let session := session.put { before with value := some value, exported }
  if name = "OPTIND".toList then
    { session with letterPlace := (max 1 ((Octets.toCount? value).getD 1), none) }
  else session

/-- Gives a variable back what it was before. -/
def restore (session : Session) (name : Octets) (before : Option Variable) : Session :=
  match before with
  | some held => session.put held
  | none => session.unset name

/-- Takes note of something that the innermost command takes for itself. -/
def keep (session : Session) (kept : Kept) : Session :=
  match session.frames with
  | [] => session
  | frame :: frames => { session with frames := (kept :: frame) :: frames }

/-- The characters that set fields apart. -/
def separators (session : Session) : Octets :=
  (session.valueOf? "IFS").getD [' ', '\t', '\n']

/-- The variables that programs get. -/
def exportedVariables (session : Session) : Variables :=
  ((session.bindings.filter (·.exported)).filterMap fun held =>
    held.value.map fun value => (held.name.toBytes, value.toBytes)).reverse

/-- The value of a parameter, if it is set. -/
def value? (session : Session) (name : Octets) : Option Octets :=
  match name with
  | ['?'] => some (.ofNat session.status)
  | ['$'] => some (.ofNat session.process)
  | ['!'] => session.background.map .ofNat
  | ['#'] => some (.ofNat session.arguments.length)
  | ['-'] => some session.options.shown
  | ['@'] | ['*'] => some (List.intercalate (session.separators.take 1) session.arguments)
  | _ =>
    match Octets.toNat? name with
    | some 0 => some session.name
    | some position => session.arguments[position - 1]?
    | none => (session.find? name).bind (·.value)

end Session

/-! ### Requests -/

/-- Sets the status of the last command. -/
def setStatus (status : Nat) : Work Unit := modify fun session => { session with status }

/-- Writes bytes to a descriptor. -/
def write (descriptor : Nat) (text : Octets) : Work (Except Errno Unit) := do
  Routine.writeAll descriptor (← get).lifetime text.toBytes

/-- Prints a message about what the shell is doing. -/
def report (message : Octets) : Work Unit := do
  let session ← get
  let place := session.name ++ ": ".toList ++ .ofNat session.line ++ ": ".toList
  let _ ← write 2 (place ++ session.speaker ++ message ++ ['\n'])

/-! ### Ends before time -/

/-- How something comes to its end; what follows goes on in any case. -/
def outcome {α : Type} (action : Work α) : Work (Except Breach α) := ExceptT.lift action.run

/-- Does something, and something else after it however it comes to its end. -/
def ensuring {α : Type} (action : Work α) (last : Work Unit) : Work α := do
  let result ← outcome action
  last
  match result with
  | .ok value => return value
  | .error breach => throw breach

/-- Gives up with a message. -/
def abandon {α : Type} (message : Octets) : Work α := do
  report message
  setStatus 2
  throw .failure

/-- Exits with a status. -/
def leave {α : Type} (status : Nat) : Work α := do
  setStatus status
  throw .departure

/-! ### Descriptors -/

/-- Closes a descriptor. -/
def closeDescriptor (descriptor : Nat) : Work Unit := do
  let _ ← Routine.close descriptor

/-- Makes a pipe: a descriptor for reading and one for writing. -/
def makePipe : Work (Nat × Nat) := do
  match ← Routine.makePipe with
  | .ok ends => return ends
  | .error _ => abandon "Pipe call failed".toList

/-- Makes a descriptor stand for what another stands for, and closes the other. -/
def moveDescriptor (source target : Nat) : Work Unit := do
  if source ≠ target then
    let _ ← Routine.duplicate source target
    closeDescriptor source

end ShellSmoke.Shell
