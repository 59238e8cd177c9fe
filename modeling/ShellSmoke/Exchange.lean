/-
This file models the exchange between the harness and its target. The harness feeds a script into
one pipe and drains another, into which the target writes through its standard output and through
its standard error alike; when both are done it reaps the target. Each thing that the harness or the
processes on the other side can do is one small step, which is possible in some states and not in
others. An execution is any sequence of possible steps, so the chunks in which the pipes pass bytes
on, the capacities of the pipes and the order of steps are all left open here.
-/

import ShellSmoke.Exchange.Channel
import ShellSmoke.Log.Event
import ShellSmoke.Verdict

namespace ShellSmoke

/-! ### States -/

/-- How far the script has been fed. -/
inductive Feed where
  /-- This part of the script is still to be written. -/
  | writing (rest : Buffer)
  /-- The harness has closed its end; `early` tells that the target had closed its own before the
  whole script was written. -/
  | closed (early : Bool)
deriving DecidableEq, Inhabited

/-- How far the output has been drained: the chunks read, latest first, and whether the end was
seen. -/
structure Drain where
  chunks : List Bytes
  ended : Bool
deriving DecidableEq, Inhabited

/-- All bytes drained, in the order they were read. -/
def Drain.collected (drain : Drain) : Bytes := drain.chunks.reverse.flatten

/-- What is known of the child process that runs the target. -/
inductive Child where
  | running
  /-- The child has ended, and nobody has asked how. -/
  | ended (status : ExitStatus)
  /-- The harness has learned how the child ended. -/
  | reaped (status : ExitStatus)
deriving DecidableEq, Inhabited

/-- How far a run has come. -/
inductive Phase where
  /-- The child was just spawned, and the harness still has descriptors for writing output of its
  own. -/
  | spawned
  /-- The harness sets up its end of the output. -/
  | opening
  /-- The harness feeds, drains and waits. -/
  | exchanging
  /-- The result is certain, and the child is still to be stopped. -/
  | decided (result : Except RunError Outcome)
  /-- The harness waits for the child that it has stopped. -/
  | stopping (result : Except RunError Outcome)
  /-- The run has returned its result. -/
  | returned (result : Except RunError Outcome)
  /-- The run was dropped. -/
  | dropped

instance : Inhabited Phase := ⟨.spawned⟩

/-- An exchange with the target. -/
structure Exchange where
  executable : Bytes
  timeout : Duration
  /-- The number of bytes of the whole script. -/
  scriptSize : Nat
  /-- The pipe to the standard input of the target. -/
  input : Channel
  /-- The pipe from the standard output and the standard error of the target. -/
  output : Channel
  /-- How many of the descriptors for writing output are the harness's own. -/
  ownWriters : Nat
  feed : Feed
  drain : Drain
  child : Child
  /-- How many times the child was sent the signal that kills it. -/
  kills : Nat
  phase : Phase
  /-- What was reported so far, latest first. -/
  events : List Log.Event
deriving Inhabited

namespace Exchange

/-- The exchange right after the target was spawned. The child has one descriptor for its input and
two for its output; the harness has the other ends, and two descriptors for writing output that
it made for the child. -/
def start (executable : Bytes) (script : Bytes) (timeout : Duration)
    (inputCapacity outputCapacity : Nat) : Exchange where
  executable
  timeout
  scriptSize := script.length
  input := .fresh inputCapacity 1 1
  output := .fresh outputCapacity 1 4
  ownWriters := 2
  feed := .writing (.ofBytes script)
  drain := ⟨[], false⟩
  child := .running
  kills := 0
  phase := .spawned
  events := []

/-- Reports an event. -/
def report (exchange : Exchange) (event : Log.Event) : Exchange :=
  { exchange with events := event :: exchange.events }

/-- Everything reported, in order. -/
def log (exchange : Exchange) : List Log.Event := exchange.events.reverse

/-! ### What the harness does -/

/-- A step of the harness. -/
inductive Move where
  /-- Gives up its own descriptors for writing output and reports the child. -/
  | announce (process : Nat)
  /-- Sets up its end of the output. -/
  | openOutput
  | openOutputFails (failure : IoError)
  /-- Writes so many bytes of the script. -/
  | write (count : Nat)
  /-- Finds that nobody reads the script any more, and closes its end. -/
  | abandonInput
  /-- Closes its end after the whole script. -/
  | closeInput
  /-- Is refused in another way than that nobody reads the script any more. -/
  | writeFails (failure : IoError)
  /-- Reads so many bytes of output. -/
  | read (count : Nat)
  /-- Sees the end of the output. -/
  | readEnd
  | readFails (failure : IoError)
  /-- Learns how the child ended, which completes the run. -/
  | reap
  | waitFails (failure : IoError)
  /-- Finds that the deadline has passed. -/
  | expire
  /-- Sends the child the signal that kills it. -/
  | kill
  /-- Makes sure that the child is gone, and returns the result. -/
  | bury
  /-- Is dropped by its caller. -/
  | drop
deriving DecidableEq, Repr, Inhabited

/-- The harness lets go of its ends of the pipes. -/
def closeEnds (exchange : Exchange) : Exchange :=
  { exchange with
    input := match exchange.feed with
      | .writing _ => exchange.input.removeWriters 1
      | .closed _ => exchange.input
    output := { exchange.output.removeWriters exchange.ownWriters with readers := 0 }
    ownWriters := 0 }

/-- The result is certain. -/
def decide (exchange : Exchange) (result : Except RunError Outcome) : Exchange :=
  { exchange.closeEnds with phase := .decided result }

/-- Sends the child the signal that kills it, unless its end is known already. -/
def sendKill (exchange : Exchange) : Exchange :=
  { exchange with
    kills := match exchange.child with
      | .reaped _ => exchange.kills
      | _ => exchange.kills + 1 }

/-- Closes the input of the target. -/
def endFeed (exchange : Exchange) (early : Bool) : Exchange :=
  report
    { exchange with feed := .closed early, input := exchange.input.removeWriters 1 }
    (.inputClosed exchange.scriptSize)

/-- What the output says once it has come to its end. -/
def outcome (exchange : Exchange) (status : ExitStatus) : Outcome :=
  .completed (Text.decode exchange.drain.collected) status.code

/-- The state after a step of the harness, if the step is possible. -/
def move? (exchange : Exchange) (move : Move) : Option Exchange :=
  match exchange.phase, move with
  | .spawned, .announce process =>
    some (report
      { exchange with
        output := exchange.output.removeWriters exchange.ownWriters
        ownWriters := 0
        phase := .opening }
      (.spawned process))
  | .opening, .openOutput => some { exchange with phase := .exchanging }
  | .opening, .openOutputFails failure =>
    some { exchange.closeEnds.sendKill with phase := .returned (.error (.outputPipe failure)) }
  | .exchanging, .write count =>
    match exchange.feed with
    | .writing rest =>
      if 0 < count ∧ count ≤ exchange.input.free ∧ count ≤ rest.size ∧ ¬ exchange.input.broken then
        some { exchange with
          feed := .writing (rest.drop count)
          input := exchange.input.push (rest.take count) }
      else none
    | .closed _ => none
  | .exchanging, .abandonInput =>
    match exchange.feed with
    | .writing rest =>
      if exchange.input.broken ∧ ¬ rest.isEmpty then
        some ((exchange.report .inputAbandoned).endFeed true)
      else none
    | .closed _ => none
  | .exchanging, .closeInput =>
    match exchange.feed with
    | .writing rest => if rest.isEmpty then some (exchange.endFeed false) else none
    | .closed _ => none
  | .exchanging, .writeFails failure =>
    match exchange.feed with
    | .writing rest =>
      if rest.isEmpty ∨ failure.kind = .brokenPipe then none
      else some (exchange.decide (.error (.input failure)))
    | .closed _ => none
  | .exchanging, .read count =>
    if 0 < count ∧ count ≤ exchange.output.held.size ∧ ¬ exchange.drain.ended then
      some { exchange with
        drain := { exchange.drain with
          chunks := exchange.output.held.bytes.take count :: exchange.drain.chunks }
        output := exchange.output.pull count }
    else none
  | .exchanging, .readEnd =>
    if exchange.output.atEnd ∧ ¬ exchange.drain.ended then
      some { exchange with drain := { exchange.drain with ended := true } }
    else none
  | .exchanging, .readFails failure =>
    if exchange.drain.ended then none else some (exchange.decide (.error (.output failure)))
  | .exchanging, .reap =>
    match exchange.feed, exchange.drain.ended, exchange.child with
    | .closed _, true, .ended status =>
      let reaped := { exchange with child := .reaped status }
      some ((reaped.report (.exited status.code exchange.drain.collected.length)).decide
        (.ok (exchange.outcome status)))
    | _, _, _ => none
  | .exchanging, .waitFails failure =>
    match exchange.feed, exchange.drain.ended with
    | .closed _, true => some (exchange.decide (.error (.wait exchange.executable failure)))
    | _, _ => none
  | .exchanging, .expire =>
    some ((exchange.report (.timedOut exchange.timeout)).decide (.ok .timedOut))
  | .decided result, .kill => some { exchange.sendKill with phase := .stopping result }
  | .stopping result, .bury =>
    match exchange.child with
    | .running => none
    | .ended status | .reaped status =>
      some (report { exchange with child := .reaped status, phase := .returned result }
        (.killed status))
  | .returned _, _ => none
  | .dropped, _ => none
  | .decided _, .drop => some { exchange.sendKill with phase := .dropped }
  | .stopping _, .drop => some { exchange with phase := .dropped }
  | _, .drop => some { exchange.closeEnds.sendKill with phase := .dropped }
  | _, _ => none

/-! ### What happens on the other side -/

/-- The ways by which a process can write output. -/
inductive Stream where
  | standardOutput
  | standardError
deriving DecidableEq, Repr, Inhabited

/-- A step of the child, or of a process that inherited descriptors from it. -/
inductive Deed where
  /-- Reads so many bytes of the script. -/
  | read (count : Nat)
  /-- Writes bytes, all of which are accepted. -/
  | write (stream : Stream) (bytes : Buffer)
  /-- Gets one more descriptor for reading the script. -/
  | shareInput
  /-- Gets one more descriptor for writing output. -/
  | shareOutput
  /-- Closes a descriptor for reading the script. -/
  | closeInput
  /-- Closes a descriptor for writing output. -/
  | closeOutput
  /-- The child ends. -/
  | exit (status : ExitStatus)
deriving DecidableEq, Inhabited

/-- The state after a step on the other side, if the step is possible. -/
def deed? (exchange : Exchange) (deed : Deed) : Option Exchange :=
  match deed with
  | .read count =>
    if 0 < count ∧ count ≤ exchange.input.held.size ∧ ¬ exchange.input.broken then
      some { exchange with input := exchange.input.pull count }
    else none
  | .write _ bytes =>
    if 0 < bytes.size ∧ bytes.size ≤ exchange.output.free ∧
        exchange.ownWriters < exchange.output.writers ∧ ¬ exchange.output.broken then
      some { exchange with output := exchange.output.push bytes }
    else none
  | .shareInput =>
    if exchange.input.broken then none
    else some { exchange with input := exchange.input.addReader }
  | .shareOutput =>
    if exchange.ownWriters < exchange.output.writers then
      some { exchange with output := exchange.output.addWriter }
    else none
  | .closeInput =>
    if exchange.input.broken then none
    else some { exchange with input := exchange.input.removeReader }
  | .closeOutput =>
    if exchange.ownWriters < exchange.output.writers then
      some { exchange with output := exchange.output.removeWriters 1 }
    else none
  | .exit status =>
    match exchange.child with
    | .running => some { exchange with child := .ended status }
    | _ => none

/-! ### Executions -/

/-- A step of either side. -/
inductive Action where
  | harness (move : Move)
  | target (deed : Deed)
deriving DecidableEq, Inhabited

/-- The state after a step, if the step is possible. -/
def act? (exchange : Exchange) : Action → Option Exchange
  | .harness move => exchange.move? move
  | .target deed => exchange.deed? deed

/-- One exchange is a step before another. -/
def Step (before after : Exchange) : Prop := ∃ action, before.act? action = some after

/-- The state after a sequence of steps, if each is possible in its turn. -/
def play? (exchange : Exchange) (actions : List Action) : Option Exchange :=
  actions.foldlM act? exchange

/-- All bytes that a sequence of steps writes as output, in order. -/
def written (actions : List Action) : Bytes :=
  actions.flatMap fun
    | .target (.write _ bytes) => bytes.bytes
    | _ => []

/-- How many bytes of the script a sequence of steps writes. -/
def accepted (actions : List Action) : Nat :=
  actions.foldl (fun total action =>
    match action with
    | .harness (.write count) => total + count
    | _ => total) 0

/-- How the child ends in a sequence of steps, as often as it does. -/
def exits (actions : List Action) : List ExitStatus :=
  actions.filterMap fun
    | .target (.exit status) => some status
    | _ => none

end Exchange

end ShellSmoke
