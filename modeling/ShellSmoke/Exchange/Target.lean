/-
This file describes targets that are a single process. Such a target asks for one operation after
another, and what it asks for next depends on what it has read so far. Together with the exchange it
makes an encounter, in which the harness and the target take turns in any order: the harness takes a
step that is no failure, and the target goes on with its operation as far as the pipes let it. The
target alone holds the far ends of the pipes, and lets go of them when it closes them or exits.
-/

import ShellSmoke.Exchange

namespace ShellSmoke

open Exchange (Move Stream)

/-! ### Targets -/

/-- What a process asks of the system. -/
inductive Operation where
  /-- To read at most so many bytes of its input. -/
  | read (limit : Nat)
  /-- To write bytes, all of them. -/
  | write (stream : Stream) (bytes : Bytes)
  | closeInput
  | closeOutput (stream : Stream)
  | exit (status : ExitStatus)
deriving DecidableEq, Inhabited

/-- The most bytes that an operation can read. -/
def Operation.limit : Operation → Nat
  | .read limit => limit
  | _ => 0

/-- A target that is a single process. It has a state of its own, which determines what it asks for,
and which changes when an operation is completed: by the bytes that were read, which are none if the
operation reads nothing or the input is at its end. A target that asks for nothing hangs. -/
structure Target (State : Type) where
  next? : State → Option Operation
  after : State → Bytes → State

namespace Target

/-- The target that asks for the operations of a list, in order. -/
def sequence : Target (List Operation) where
  next? operations := operations.head?
  after operations _ := operations.tail

/-- Whether a target, of whose script so many bytes are left, completes finitely many operations and
then exits, whatever the pieces are in which it reads. -/
inductive Ends {State : Type} (target : Target State) : (left : Bytes) → State → Prop where
  | exits {left : Bytes} {state : State} (status : ExitStatus)
    (next : target.next? state = some (.exit status)) : Ends target left state
  | goesOn {left : Bytes} {state : State} (operation : Operation)
    (next : target.next? state = some operation)
    (later : ∀ count, count ≤ operation.limit →
      Ends target (left.drop count) (target.after state (left.take count))) :
    Ends target left state

end Target

/-! ### Encounters -/

/-- An exchange and the target on the other side of it. -/
structure Encounter (State : Type) where
  exchange : Exchange
  state : State
  /-- How many bytes the target has written already if it is writing. -/
  done : Nat
  /-- Whether the target has its descriptor for reading the script. -/
  reads : Bool
  /-- Whether the target has its descriptor for writing output in one of the two ways. -/
  writes : Stream → Bool

namespace Encounter

variable {State : Type}

/-- The encounter right after the target was spawned. -/
def start (executable script : Bytes) (timeout : Duration) (inputCapacity outputCapacity : Nat)
    (state : State) : Encounter State :=
  ⟨.start executable script timeout inputCapacity outputCapacity, state, 0, true, fun _ => true⟩

/-- The target has completed an operation, in which it has read these bytes. -/
def complete (target : Target State) (bytes : Bytes) (encounter : Encounter State) :
    Encounter State :=
  { encounter with state := target.after encounter.state bytes, done := 0 }

/-- The target lets go of its descriptor for reading the script, if it has it. -/
def closeInput? (encounter : Encounter State) : Option (Encounter State) :=
  if encounter.reads then
    (encounter.exchange.deed? .closeInput).map fun exchange =>
      { encounter with exchange, reads := false }
  else some encounter

/-- The target lets go of one of its descriptors for writing output, if it has it. -/
def closeOutput? (stream : Stream) (encounter : Encounter State) : Option (Encounter State) :=
  if encounter.writes stream then
    (encounter.exchange.deed? .closeOutput).map fun exchange =>
      { encounter with
        exchange
        writes := fun other => if other = stream then false else encounter.writes other }
  else some encounter

/-- A way in which the target can still write output. -/
def openStream? (encounter : Encounter State) : Option Stream :=
  if encounter.writes .standardOutput then some .standardOutput
  else if encounter.writes .standardError then some .standardError
  else none

/-- The target goes on with an operation, if it can. So many bytes are to be read or written if some
can be; without its descriptor the target reads and writes nothing. A target that exits closes its
descriptors first. -/
def operate? (target : Target State) (count : Nat) (encounter : Encounter State) :
    Operation → Option (Encounter State)
  | .read limit =>
    if limit = 0 ∨ ¬ encounter.reads then some (encounter.complete target [])
    else if encounter.exchange.input.atEnd then some (encounter.complete target [])
    else if count ≤ limit then
      (encounter.exchange.deed? (.read count)).map fun exchange =>
        { encounter.complete target (encounter.exchange.input.held.bytes.take count) with exchange }
    else none
  | .write stream bytes =>
    if bytes.length ≤ encounter.done ∨ ¬ encounter.writes stream then
      some (encounter.complete target [])
    else
      let part := Buffer.ofBytes ((bytes.drop encounter.done).take count)
      (encounter.exchange.deed? (.write stream part)).map fun exchange =>
        { encounter with exchange, done := encounter.done + part.size }
  | .closeInput => encounter.closeInput?.map (complete target [])
  | .closeOutput stream => (encounter.closeOutput? stream).map (complete target [])
  | .exit status =>
    if encounter.reads then encounter.closeInput?
    else
      match encounter.openStream? with
      | some stream => encounter.closeOutput? stream
      | none =>
        (encounter.exchange.deed? (.exit status)).map fun exchange => { encounter with exchange }

/-! ### Turns -/

/-- Whether a step of the harness is neither a failure nor forced on it from outside. -/
def isRegular : Move → Bool
  | .announce _ | .openOutput | .write _ | .abandonInput | .closeInput | .read _ | .readEnd
  | .reap | .kill | .bury => true
  | .openOutputFails _ | .writeFails _ | .readFails _ | .waitFails _ | .expire | .drop => false

/-- Who takes a turn, and how. -/
inductive Turn where
  | harness (move : Move)
  /-- The target goes on, with so many bytes if it reads or writes. -/
  | target (count : Nat)
deriving DecidableEq, Inhabited

/-- The encounter after a turn, if the turn is possible. -/
def turn? (target : Target State) (encounter : Encounter State) :
    Turn → Option (Encounter State)
  | .harness move =>
    if isRegular move then
      (encounter.exchange.move? move).map fun exchange => { encounter with exchange }
    else none
  | .target count =>
    match encounter.exchange.child, target.next? encounter.state with
    | .running, some operation => encounter.operate? target count operation
    | _, _ => none

/-- The encounter after a sequence of turns, if each is possible in its time. -/
def play? (target : Target State) (encounter : Encounter State) (turns : List Turn) :
    Option (Encounter State) :=
  turns.foldlM (turn? target) encounter

end Encounter

end ShellSmoke
