/-
This file says what a target that is a single process comes to. On its own nothing keeps it waiting:
the whole script lies before it, and what it writes is accepted at once. In an encounter the pipes
and the turns of the harness decide in which pieces it gets ahead. The first is a small machine with
nothing but the target in it, against which the second can be held.
-/

import Mathlib.Logic.Relation
import ShellSmoke.Exchange.Target
import ShellSmoke.Run

namespace ShellSmoke

open Exchange (Stream)

/-! ### On its own -/

/-- A target on its own. -/
structure Solo (State : Type) where
  state : State
  /-- Whether the target has its descriptor for reading the script. -/
  reads : Bool
  /-- Whether the target has its descriptor for writing output in one of the two ways. -/
  writes : Stream → Bool
  /-- What the target has not read of the script. -/
  left : Bytes
  /-- All that the target has written, in order. -/
  written : Bytes

namespace Solo

variable {State : Type}

/-- A target on its own with a script before it. -/
def start (state : State) (script : Bytes) : Solo State :=
  ⟨state, true, fun _ => true, script, []⟩

/-- How a target on its own completes an operation. Only the number of bytes that a read brings is
left open, and what it can be depends on nothing but the script. A target without its descriptor
reads and writes nothing. No step leads on from an exit. -/
inductive Step (target : Target State) (before : Solo State) : Solo State → Prop where
  | read (limit count : Nat) (next : target.next? before.state = some (.read limit))
    (reads : before.reads = true) (positive : 0 < count) (within : count ≤ limit)
    (available : count ≤ before.left.length) :
    Step target before
      { before with
        state := target.after before.state (before.left.take count)
        left := before.left.drop count }
  | readNothing (limit : Nat) (next : target.next? before.state = some (.read limit))
    (nothing : limit = 0 ∨ before.reads = false ∨ before.left = []) :
    Step target before { before with state := target.after before.state [] }
  | write (stream : Stream) (bytes : Bytes)
    (next : target.next? before.state = some (.write stream bytes)) :
    Step target before
      { before with
        state := target.after before.state []
        written := before.written ++ if before.writes stream then bytes else [] }
  | closeInput (next : target.next? before.state = some .closeInput) :
    Step target before { before with state := target.after before.state [], reads := false }
  | closeOutput (stream : Stream)
    (next : target.next? before.state = some (.closeOutput stream)) :
    Step target before
      { before with
        state := target.after before.state []
        writes := fun other => if other = stream then false else before.writes other }

end Solo

namespace Target

variable {State : Type}

/-- Whether a target on its own can come to its exit with an output, after finitely many
operations. -/
def Yields (target : Target State) (state : State) (script output : Bytes)
    (status : ExitStatus) : Prop :=
  ∃ last, Relation.ReflTransGen (Solo.Step target) (.start state script) last ∧
    target.next? last.state = some (.exit status) ∧ last.written = output

/-- Whether a target reads byte by byte, so that no read depends on the pieces in which the script
arrives. -/
def ReadsBytewise (target : Target State) : Prop :=
  ∀ state limit, target.next? state = some (.read limit) → limit ≤ 1

/-- The target of which the next operation is determined by the bytes that it has read so far and
the operations that it has completed, both in order. -/
def determined (next : Bytes → List Operation → Option Operation) :
    Target (Bytes × List Operation) where
  next? history := next history.1 history.2
  after history bytes :=
    (history.1 ++ bytes, history.2 ++ (next history.1 history.2).toList)

end Target

/-! ### In an encounter -/

namespace Encounter

variable {State : Type}

/-- The encounter after a turn, if the turn is possible; it may also be a failure of the harness or
forced on it from outside. -/
def anyTurn? (target : Target State) (encounter : Encounter State) :
    Turn → Option (Encounter State)
  | .harness move =>
    (encounter.exchange.move? move).map fun exchange => { encounter with exchange }
  | .target count => encounter.turn? target (.target count)

/-- The encounter after a sequence of turns of any sort, if each is possible in its time. -/
def run? (target : Target State) (encounter : Encounter State) (turns : List Turn) :
    Option (Encounter State) :=
  turns.foldlM (anyTurn? target) encounter

end Encounter

/-- Whether a job can return a result from an encounter with a target, with pipes of some capacities
and after some turns. -/
def Target.MayReturn {State : Type} (target : Target State) (state : State) (job : Job)
    (result : Except RunError Outcome) : Prop :=
  ∃ inputCapacity outputCapacity turns reached,
    (Encounter.start job.executable job.script job.timeout inputCapacity outputCapacity state).run?
      target turns = some reached ∧
    reached.exchange.phase = .returned result

end ShellSmoke
