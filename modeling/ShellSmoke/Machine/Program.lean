/-
This file says what a program is to the system it runs on: a tree of requests. A program asks the
system for something and goes on with the answer; or it makes a copy of itself, gives way to another
program, or exits. The system decides when a request is answered.
-/

import ShellSmoke.Errno
import ShellSmoke.Exchange.Channel
import ShellSmoke.Status

namespace ShellSmoke.Machine

/-! ### Requests -/

/-- How a file is opened. -/
inductive OpenMode where
  | reading
  /-- For writing, after all it held was taken away; the file is made if it is missing. -/
  | writing
  /-- For writing at the end; the file is made if it is missing. -/
  | appending
  /-- For reading and writing; the file is made if it is missing. -/
  | updating
deriving DecidableEq, Repr, Inhabited

/-- What a process has arranged for a signal. -/
inductive Disposition where
  | standard
  | ignored
  /-- The signal is kept until the process asks for it. -/
  | caught
deriving DecidableEq, Repr, Inhabited

/-- How long a process waits for a child that has not ended yet. -/
inductive Patience where
  | never
  /-- Until a signal is kept for the process. -/
  | untilSignal
  | forever
deriving DecidableEq, Repr, Inhabited

/-- What kind of thing a file is. -/
inductive FileKind where
  | regular
  | directory
  | device
  | pipe
  /-- A path that stands for another. -/
  | link
deriving DecidableEq, Repr, Inhabited

/-- What the system tells about a file. -/
structure FileState where
  kind : FileKind
  /-- The permissions, as the number whose octal digits are those of owner, group and others. -/
  mode : Nat
  size : Nat
  /-- When the content was changed last; a larger number is later. -/
  modified : Nat
  /-- What the file has in common with no other. -/
  identity : Bytes
  /-- Where the next byte is read or written, if the file was opened. -/
  position : Nat
  /-- Whether it is a pipe from which nobody can read any more. -/
  broken : Bool := false
  /-- The path for which a link stands. -/
  target : Bytes := []
  /-- The numbers of a device: that of its kind, and its own. -/
  device : Option (Nat × Nat) := none
deriving DecidableEq, Repr, Inhabited

namespace FileState

/-- Whether somebody may start the file. -/
def isExecutable (state : FileState) : Bool := (state.mode &&& 0o111) ≠ 0

/-- Whether the file is a regular one that can be started. -/
def isProgram (state : FileState) : Bool := state.kind = .regular && state.isExecutable

end FileState

/-- What a process may use up to a limit. -/
inductive Resource where
  | time
  | fileSize
  | dataSize
  | stackSize
  | dumpSize
  | memory
  | lockedMemory
  | processes
  | descriptors
  | addressSpace
  | locks
  | priority
deriving DecidableEq, Repr, Inhabited

/-- The limit of a resource, and the largest that it can be given; nothing stands for no limit. -/
structure Limit where
  current : Option Nat
  most : Option Nat
deriving DecidableEq, Repr, Inhabited

/-- What a program can ask of the system. -/
inductive Request where
  /-- Time to compute. -/
  | work
  /-- Up to so many bytes from a descriptor; no bytes are the end. -/
  | read (descriptor limit : Nat)
  /-- To have bytes written to a descriptor; the answer is how many were. -/
  | write (descriptor : Nat) (bytes : Bytes)
  /-- A descriptor for a file. -/
  | openFile (path : Bytes) (mode : OpenMode)
  | close (descriptor : Nat)
  /-- To make one descriptor stand for what another stands for. -/
  | duplicate (source target : Nat)
  /-- A high descriptor for what another stands for, which other programs do not get. -/
  | stash (source : Nat)
  /-- A pipe: a descriptor for reading and one for writing. -/
  | makePipe
  /-- To learn which child ended, and how. -/
  | wait (patience : Patience)
  /-- To have a signal sent; without a signal, to learn whether the process is there. -/
  | send (process : Nat) (signal : Option Signal)
  /-- To arrange for a signal. -/
  | arrange (signal : Signal) (disposition : Disposition)
  /-- The signals that were kept. -/
  | takeSignals
  /-- To sleep for so many microseconds. -/
  | sleep (microseconds : Nat)
  /-- The number of the process. -/
  | identity
  /-- The number of the process that started this one, or that has adopted it. -/
  | parent
  /-- The working directory. -/
  | directory
  | changeDirectory (path : Bytes)
  /-- The names in a directory, in order. -/
  | list (path : Bytes)
  /-- What a path leads to; the last part of the path may stand for itself. -/
  | inspect (path : Bytes) (following : Bool)
  /-- What a descriptor stands for. -/
  | describe (descriptor : Nat)
  | remove (path : Bytes)
  /-- To have the permissions that new files do not get changed; the answer is what they were. -/
  | mask (permissions : Option Nat)
  /-- The limit of a resource. -/
  | limit (resource : Resource)
  | changeLimit (resource : Resource) (limit : Limit)
deriving DecidableEq, Repr, Inhabited

/-- What the system answers. -/
def Request.Answer : Request → Type
  | work => Unit
  | read _ _ => Except Errno Bytes
  | write _ _ => Except Errno Nat
  | openFile _ _ => Except Errno Nat
  | close _ => Except Errno Unit
  | duplicate _ _ => Except Errno Unit
  | stash _ => Except Errno Nat
  | makePipe => Except Errno (Nat × Nat)
  | wait _ => Except Errno (Nat × ExitStatus)
  | send _ _ => Except Errno Unit
  | arrange _ _ => Unit
  | takeSignals => List Signal
  | sleep _ => Unit
  | identity => Nat
  | parent => Nat
  | directory => Bytes
  | changeDirectory _ => Except Errno Unit
  | list _ => Except Errno (List Bytes)
  | inspect _ _ => Except Errno FileState
  | describe _ => Except Errno FileState
  | remove _ => Except Errno Unit
  | mask _ => Nat
  | limit _ => Limit
  | changeLimit _ _ => Except Errno Unit

/-! ### Programs -/

/-- The variables that a program hands on. -/
abbrev Variables := List (Bytes × Bytes)

/-- A running program. -/
inductive Program where
  | exit (code : UInt8)
  | call (request : Request) (resume : request.Answer → Program)
  /-- Starts a process that runs the child, and goes on with its number. -/
  | fork (child : Program) (resume : Nat → Program)
  /-- Gives way to the program of a file; goes on only if that is refused. -/
  | execute (path : Bytes) (arguments : List Bytes) (bindings : Variables)
      (refused : Errno → Program)

instance : Inhabited Program := ⟨.exit 0⟩

/-- What a program is started with. -/
structure Launch where
  /-- The words of the command, the name of the program first. -/
  arguments : List Bytes
  bindings : Variables
  /-- A number of requests after which nobody looks at the program any more; a program may end
  there. -/
  lifetime : Nat
deriving Inhabited

/-! ### Routines -/

/-- A part of a program that has a value: it takes what comes after it. -/
def Routine (α : Type) : Type := (α → Program) → Program

namespace Routine

/-- The routine that has a value at once. -/
def done {α : Type} (value : α) : Routine α := fun next => next value

/-- One routine after another. -/
def andThen {α β : Type} (routine : Routine α) (more : α → Routine β) : Routine β :=
  fun next => routine fun value => more value next

instance : Monad Routine where
  pure := done
  bind := andThen

instance {α : Type} : Inhabited (Routine α) := ⟨fun _ => .exit 0⟩

/-- Asks the system. -/
def request (wanted : Request) : Routine wanted.Answer := fun next => .call wanted next

/-- Ends the program. -/
def exit {α : Type} (code : UInt8) : Routine α := fun _ => .exit code

/-- Takes time to compute. -/
def work : Routine Unit := request .work

/-- Reads up to so many bytes; no bytes are the end. -/
def read (descriptor limit : Nat) : Routine (Except Errno Bytes) :=
  request (.read descriptor limit)

/-- Writes bytes, or some of them. -/
def write (descriptor : Nat) (bytes : Bytes) : Routine (Except Errno Nat) :=
  request (.write descriptor bytes)

/-- Opens a file. -/
def openFile (path : Bytes) (mode : OpenMode) : Routine (Except Errno Nat) :=
  request (.openFile path mode)

/-- Closes a descriptor. -/
def close (descriptor : Nat) : Routine (Except Errno Unit) := request (.close descriptor)

/-- Makes a descriptor stand for what another stands for. -/
def duplicate (source target : Nat) : Routine (Except Errno Unit) :=
  request (.duplicate source target)

/-- Keeps what a descriptor stands for under a high number. -/
def stash (source : Nat) : Routine (Except Errno Nat) := request (.stash source)

/-- Makes a pipe. -/
def makePipe : Routine (Except Errno (Nat × Nat)) := request .makePipe

/-- Waits for a child to end. -/
def wait (patience : Patience) : Routine (Except Errno (Nat × ExitStatus)) :=
  request (.wait patience)

/-- Sends a signal. -/
def send (process : Nat) (signal : Option Signal) : Routine (Except Errno Unit) :=
  request (.send process signal)

/-- Arranges for a signal. -/
def arrange (signal : Signal) (disposition : Disposition) : Routine Unit :=
  request (.arrange signal disposition)

/-- The signals that were kept. -/
def takeSignals : Routine (List Signal) := request .takeSignals

/-- Sleeps for so many microseconds. -/
def sleep (microseconds : Nat) : Routine Unit := request (.sleep microseconds)

/-- The number of the process. -/
def identity : Routine Nat := request .identity

/-- The number of the process that started this one, or that has adopted it. -/
def parent : Routine Nat := request .parent

/-- The working directory. -/
def directory : Routine Bytes := request .directory

/-- Changes the working directory. -/
def changeDirectory (path : Bytes) : Routine (Except Errno Unit) :=
  request (.changeDirectory path)

/-- The names in a directory. -/
def list (path : Bytes) : Routine (Except Errno (List Bytes)) := request (.list path)

/-- What a path leads to. -/
def inspect (path : Bytes) : Routine (Except Errno FileState) := request (.inspect path true)

/-- What is at a path, which may stand for another. -/
def inspectItself (path : Bytes) : Routine (Except Errno FileState) :=
  request (.inspect path false)

/-- What a descriptor stands for. -/
def describe (descriptor : Nat) : Routine (Except Errno FileState) := request (.describe descriptor)

/-- Removes a file. -/
def remove (path : Bytes) : Routine (Except Errno Unit) := request (.remove path)

/-- The permissions that new files do not get. -/
def mask : Routine Nat := request (.mask none)

/-- Changes the permissions that new files do not get. -/
def changeMask (permissions : Nat) : Routine Nat := request (.mask (some permissions))

/-- The limit of a resource. -/
def limit (resource : Resource) : Routine Limit := request (.limit resource)

/-- Changes the limit of a resource. -/
def changeLimit (resource : Resource) (limit : Limit) : Routine (Except Errno Unit) :=
  request (.changeLimit resource limit)

/-- Starts a process that runs the child; the value is its number. -/
def fork (child : Program) : Routine Nat := fun resume => .fork child resume

/-- Gives way to the program of a file; the value tells why that was refused. -/
def execute (path : Bytes) (arguments : List Bytes) (bindings : Variables) : Routine Errno :=
  fun refused => .execute path arguments bindings refused

/-- Writes all bytes to a descriptor; the lifetime bounds the number of calls. -/
def writeAll (descriptor : Nat) : (lifetime : Nat) → Bytes → Routine (Except Errno Unit)
  | 0, _ => pure (.ok ())
  | lifetime + 1, bytes =>
    if bytes.isEmpty then pure (.ok ())
    else do
      match ← write descriptor bytes with
      | .error errno => pure (.error errno)
      | .ok count => writeAll descriptor lifetime (bytes.drop count)

/-- Reads from a descriptor to its end; the lifetime bounds the number of calls. -/
def readAll (descriptor : Nat) (lifetime : Nat) : Routine Bytes :=
  go [] lifetime
where
  go (chunks : List Bytes) : Nat → Routine Bytes
    | 0 => pure chunks.reverse.flatten
    | lifetime + 1 => do
      match ← read descriptor 4096 with
      | .error _ => pure chunks.reverse.flatten
      | .ok [] => pure chunks.reverse.flatten
      | .ok chunk => go (chunk :: chunks) lifetime

end Routine

end ShellSmoke.Machine
