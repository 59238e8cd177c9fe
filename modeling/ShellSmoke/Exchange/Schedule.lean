/-
This file describes how a deadline is kept. Whenever the harness is woken it looks at the exchange:
it goes on feeding, draining and waiting, as far as it comes, and only if that leads to no result
does it ask the timer whether the time is up. A schedule says look by look what was done on either
side and what the timer said, so it leaves open when the harness is woken and how far it comes.
-/

import ShellSmoke.Exchange

namespace ShellSmoke.Exchange

/-! ### Looks -/

/-- Whether a step can be part of a look: the harness feeds, drains or waits and does not fail, or
something happens on the other side. -/
def Action.isLooking : Action → Bool
  | .harness (.write _) | .harness .abandonInput | .harness .closeInput | .harness (.read _)
  | .harness .readEnd | .harness .reap | .target _ => true
  | .harness _ => false

/-- A look at the exchange: what is done on either side from the look before until the harness asks
for the time, and whether the timer says that the time is up. -/
structure Look where
  actions : List Action
  elapsed : Bool
deriving DecidableEq, Inhabited

/-- What the harness finds at a look, as long as nothing is decided. -/
def find? (exchange : Exchange) (look : Look) : Option Exchange :=
  match exchange.phase with
  | .exchanging => if look.actions.all Action.isLooking then exchange.play? look.actions else none
  | _ => none

/-- What a look leads to: the harness asks for the time unless what it finds decides the run. -/
def look? (exchange : Exchange) (look : Look) : Option Exchange :=
  (exchange.find? look).bind fun found =>
    match found.phase with
    | .exchanging => if look.elapsed then found.move? .expire else some found
    | _ => some found

/-- What a schedule of looks leads to. -/
def watch? (exchange : Exchange) (schedule : List Look) : Option Exchange :=
  schedule.foldlM look? exchange

/-! ### What a look shows -/

/-- Whether an exchange is complete, as far as the harness has seen: the script is fed or given up,
the end of the output was seen, and the child is reaped. -/
structure IsComplete (exchange : Exchange) : Prop where
  fed : ∃ early, exchange.feed = .closed early
  drained : exchange.drain.ended = true
  reaped : ∃ status, exchange.child = .reaped status

/-- Whether a schedule comes to a look at which the harness finds something, after the looks
before it. -/
def Finds (opened : Exchange) (schedule earlier : List Look) (look : Look) (found : Exchange) :
    Prop :=
  earlier ++ [look] <+: schedule ∧
    ∃ before, opened.watch? earlier = some before ∧ before.find? look = some found

/-- Whether a schedule comes to a look at which the time is up and the exchange is not complete. -/
def RunsLate (opened : Exchange) (schedule : List Look) : Prop :=
  ∃ earlier look found, Finds opened schedule earlier look found ∧ look.elapsed = true ∧
    ¬ found.IsComplete

end ShellSmoke.Exchange
