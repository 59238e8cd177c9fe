/-
This file gives the harness its habits: the order in which it tries its steps whenever it looks at
the exchange. It writes as much of the script as fits, reads all output there is, and asks for the
child last.
-/

import ShellSmoke.Exchange

namespace ShellSmoke.Exchange

/-- Takes a step if it is possible. -/
def attempt (exchange : Exchange) (move : Move) : Exchange :=
  (exchange.move? move).getD exchange

/-- The least room in a pipe for which writing is worth while, unless the rest of the script needs
less: a page. -/
def pageSize : Nat := 4096

/-- How many bytes of the script the harness writes at once. -/
def writeSize (exchange : Exchange) : Nat :=
  match exchange.feed with
  | .writing rest =>
    let room := exchange.input.free
    if rest.size ≤ room then rest.size else if pageSize ≤ room then room else 0
  | .closed _ => 0

/-- The steps that the harness tries whenever it looks at the exchange, in order. -/
def habits : List (Exchange → Move) :=
  [fun exchange => .write exchange.writeSize,
    fun _ => .abandonInput,
    fun _ => .closeInput,
    fun exchange => .read exchange.output.held.size,
    fun _ => .readEnd,
    fun _ => .reap]

/-- Looks at the exchange once. -/
def poll (exchange : Exchange) : Exchange :=
  habits.foldl (fun exchange habit => exchange.attempt (habit exchange)) exchange

/-- The result of a run that is over; a run that was dropped has none. -/
def result? (exchange : Exchange) : Option (Except RunError Outcome) :=
  match exchange.phase with
  | .decided result | .stopping result | .returned result => some result
  | _ => none

end ShellSmoke.Exchange
