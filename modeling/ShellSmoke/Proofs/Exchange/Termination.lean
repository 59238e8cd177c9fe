/-
This file proves that an encounter with a target that completes finitely many operations comes to an
end. Every turn lowers a measure: first the number of operations that are left to the target at
most, then what is left of the operation that it is at, then what is left to the harness. What the
target can still read only ever shrinks, so no turn of the harness gives it more to do. Together
with progress, which says that some turn is possible until the run has returned, this makes every
such run end completed.
-/

import Mathlib.Order.Lattice.Nat
import Mathlib.Order.OrderIsoNat
import Mathlib.Order.RelClasses
import ShellSmoke.Proofs.Exchange.Progress

namespace ShellSmoke

/-! ### Targets that end -/

namespace Target

variable {State : Type} {target : Target State}

/-- Whether a target that ends completes at most so many operations before it exits. -/
inductive EndsWithin (target : Target State) :
    (bound : Nat) → (left : Bytes) → State → Prop where
  | exits {bound : Nat} {left : Bytes} {state : State} (status : ExitStatus)
    (next : target.next? state = some (.exit status)) : EndsWithin target bound left state
  | goesOn {bound : Nat} {left : Bytes} {state : State} (operation : Operation)
    (next : target.next? state = some operation)
    (later : ∀ count, count ≤ operation.limit →
      EndsWithin target bound (left.drop count) (target.after state (left.take count))) :
    EndsWithin target (bound + 1) left state

theorem EndsWithin.mono {bound larger : Nat} {left : Bytes} {state : State}
    (ends : EndsWithin target bound left state) (le : bound ≤ larger) :
    EndsWithin target larger left state := by
  induction ends generalizing larger with
  | exits status next => exact .exits status next
  | @goesOn bound left state operation next later inductionHypothesis =>
    obtain ⟨larger, rfl⟩ := Nat.exists_eq_add_of_lt (Nat.lt_of_succ_le le)
    exact .goesOn operation next fun count limited =>
      inductionHypothesis count limited (Nat.le_add_right _ _)

/-- Of finitely many bounds one is large enough for all. -/
theorem exists_common_bound (property : Nat → Nat → Prop)
    (mono : ∀ count bound larger, bound ≤ larger → property count bound → property count larger)
    (limit : Nat) (each : ∀ count, count ≤ limit → ∃ bound, property count bound) :
    ∃ bound, ∀ count, count ≤ limit → property count bound := by
  induction limit with
  | zero =>
    obtain ⟨bound, holds⟩ := each 0 (Nat.le_refl 0)
    exact ⟨bound, fun count le => Nat.le_zero.mp le ▸ holds⟩
  | succ limit inductionHypothesis =>
    obtain ⟨earlier, holds⟩ :=
      inductionHypothesis fun count le => each count (Nat.le_succ_of_le le)
    obtain ⟨last, holdsLast⟩ := each (limit + 1) (Nat.le_refl _)
    refine ⟨max earlier last, fun count le => ?_⟩
    rcases Nat.le_or_eq_of_le_succ le with le | rfl
    · exact mono count earlier _ (Nat.le_max_left _ _) (holds count le)
    · exact mono _ last _ (Nat.le_max_right _ _) holdsLast

/-- The pieces in which a target can read are finitely many, so one bound holds for all of them. -/
theorem exists_endsWithin_of_ends {left : Bytes} {state : State} (ends : Ends target left state) :
    ∃ bound, EndsWithin target bound left state := by
  induction ends with
  | exits status next => exact ⟨0, .exits status next⟩
  | @goesOn left state operation next later inductionHypothesis =>
    obtain ⟨bound, within⟩ := exists_common_bound
      (fun count bound =>
        EndsWithin target bound (left.drop count) (target.after state (left.take count)))
      (fun _ _ _ le ends => ends.mono le) operation.limit inductionHypothesis
    exact ⟨bound + 1, .goesOn operation next within⟩

/-- What a target can read of the beginning of a script it can read of the whole. -/
theorem exists_take_eq {left part : Bytes} (within : part <+: left) (count : Nat) :
    ∃ taken, taken ≤ count ∧ part.take count = left.take taken ∧
      part.drop count <+: left.drop taken := by
  have known := List.prefix_iff_eq_take.mp within
  refine ⟨min count part.length, Nat.min_le_left _ _, ?_, ?_⟩
  · rw [← List.take_take, ← known]
  · rcases Nat.le_total count part.length with enough | short
    · obtain ⟨rest, rfl⟩ := within
      rw [Nat.min_eq_left enough]
      exact ⟨rest, (List.drop_append_of_le_length enough).symm⟩
    · rw [List.drop_eq_nil_of_le short]
      exact List.nil_prefix

/-- A target that ends does so too if less is left of its script. -/
theorem EndsWithin.of_isPrefix {bound : Nat} {left part : Bytes} {state : State}
    (ends : EndsWithin target bound left state) (within : part <+: left) :
    EndsWithin target bound part state := by
  induction ends generalizing part with
  | exits status next => exact .exits status next
  | goesOn operation next _ inductionHypothesis =>
    refine .goesOn operation next fun count limited => ?_
    obtain ⟨taken, le, same, rest⟩ := exists_take_eq within count
    rw [same]
    exact inductionHypothesis taken (Nat.le_trans le limited) rest

/-- A target that ends asks for something until it has exited. -/
theorem EndsWithin.exists_next? {bound : Nat} {left : Bytes} {state : State}
    (ends : EndsWithin target bound left state) :
    ∃ operation, target.next? state = some operation := by
  cases ends with
  | exits status next => exact ⟨_, next⟩
  | goesOn operation next => exact ⟨_, next⟩

/-- A list of operations one of which is an exit ends, whatever the script. -/
theorem ends_sequence {operations : List Operation} {status : ExitStatus}
    (exits : Operation.exit status ∈ operations) (left : Bytes) :
    sequence.Ends left operations := by
  induction operations generalizing left with
  | nil => cases exits
  | cons operation later inductionHypothesis =>
    rcases List.mem_cons.mp exits with rfl | exits
    · exact .exits status rfl
    · exact .goesOn operation rfl fun count _ => inductionHypothesis exits (left.drop count)

end Target

/-! ### What is left to the harness -/

/-- How many steps a run in a phase is away from its return. -/
def Phase.distance : Phase → Nat
  | .spawned => 5
  | .opening => 4
  | .exchanging => 3
  | .decided _ => 2
  | .stopping _ => 1
  | .returned _ | .dropped => 0

/-- What a feed still has to do: each byte that is left, and the end. -/
def Feed.work : Feed → Nat
  | .writing rest => rest.size + 1
  | .closed _ => 0

/-- What a drain still has to do apart from the bytes: the end. -/
def Drain.work (drain : Drain) : Nat := (! drain.ended).toNat

namespace Exchange

/-- What is left to the harness: phases to go through, bytes to feed, bytes to drain, and ends to
come to. -/
def work (exchange : Exchange) : Nat :=
  exchange.phase.distance + exchange.feed.work + exchange.output.held.size + exchange.drain.work

/-- The part of the script that the target has not read, as far as it can still come to read it. -/
def unread (exchange : Exchange) : Bytes :=
  exchange.input.held.bytes ++
    match exchange.feed with
    | .writing rest => rest.bytes
    | .closed _ => []

variable {before after : Exchange} {move : Move}

/-- A step of the harness that is no failure leaves less to it. -/
theorem work_lt_of_moves (regular : Encounter.isRegular move = true)
    (moves : Moves before move after) : after.work < before.work := by
  cases moves with
  | announce process phase | openOutput phase | kill result phase | bury result status phase =>
    simp only [work, report, sendKill, phase, Phase.distance, Channel.removeWriters]
    omega
  | write count rest phase feed positive fits available read =>
    simp only [work, feed, Feed.work, Buffer.drop]
    omega
  | abandonInput rest phase feed | closeInput rest phase feed =>
    simp only [work, report, endFeed, feed, Feed.work]
    omega
  | read count phase positive available notEnded =>
    simp only [work, Drain.work, Channel.pull, Buffer.drop]
    omega
  | readEnd phase atEnd notEnded =>
    simp only [work, Drain.work, notEnded, Bool.not_true, Bool.not_false, Bool.toNat_true,
      Bool.toNat_false]
    omega
  | reap early status phase feed ended child =>
    simp only [work, report, decide, closeEnds, phase, Phase.distance, Channel.removeWriters]
    omega
  | openOutputFails | writeFails | readFails | waitFails | expire | dropOpen | dropDecided
  | dropStopping =>
    cases regular

/-- A step of the harness that is no failure leaves what can still be read, or the beginning of it
if the rest is given up. -/
theorem unread_moves (regular : Encounter.isRegular move = true)
    (moves : Moves before move after) : after.unread <+: before.unread := by
  cases moves with
  | write count rest phase feed =>
    simp only [unread, feed, Channel.push, Buffer.append, Buffer.take, Buffer.drop,
      List.append_assoc, List.take_append_drop]
    exact List.prefix_rfl
  | abandonInput rest phase feed | closeInput rest phase feed =>
    simp only [unread, report, endFeed, Channel.removeWriters, List.append_nil]
    exact List.prefix_append _ _
  | reap early status phase feed =>
    simp only [unread, report, decide, closeEnds, feed]
    exact List.prefix_rfl
  | announce | openOutput | read | readEnd | kill | bury => exact List.prefix_rfl
  | openOutputFails | writeFails | readFails | waitFails | expire | dropOpen | dropDecided
  | dropStopping =>
    cases regular

end Exchange

namespace Encounter

open Exchange (Deed Does EndIsFinal Move Moves Stream)

variable {State : Type} {target : Target State} {before after start reached : Encounter State}

/-! ### What is left of an operation -/

/-- What is left to the target of the operation that it is at: bytes to be written or, if it exits,
descriptors to be closed and the exit. -/
def remaining (target : Target State) (encounter : Encounter State) : Nat :=
  match target.next? encounter.state with
  | some (.write _ bytes) => bytes.length - encounter.done
  | some (.exit _) =>
    encounter.reads.toNat + (encounter.writes .standardOutput).toNat +
      (encounter.writes .standardError).toNat +
      match encounter.exchange.child with
      | .running => 1
      | .ended _ | .reaped _ => 0
  | _ => 0

/-- The measure of an encounter within an operation of the target. -/
def measure (target : Target State) (encounter : Encounter State) : Nat × Nat :=
  (encounter.remaining target, encounter.exchange.work)

/-- Whether a measure is lower than another, what is left to the target counting first. -/
abbrev Lower : Nat × Nat → Nat × Nat → Prop := Prod.Lex (· < ·) (· < ·)

/-- Whether a turn has completed an operation of the target that is not its exit, in which it read
so many bytes. -/
structure Completes (target : Target State) (before after : Encounter State)
    (operation : Operation) (count : Nat) : Prop where
  next : target.next? before.state = some operation
  notExit : ∀ status, operation ≠ .exit status
  within : count ≤ operation.limit
  state : after.state = target.after before.state (before.exchange.unread.take count)
  unread : after.exchange.unread = before.exchange.unread.drop count

theorem remaining_moves {move : Move} {exchange : Exchange}
    (moves : Moves before.exchange move exchange) :
    ({ before with exchange } : Encounter State).remaining target = before.remaining target := by
  unfold remaining
  dsimp only
  rcases Exchange.child_moves moves with same | ⟨status, reaped, ended | ended⟩
  · rw [same]
  · rw [reaped, ended]
  · rw [reaped, ended]

theorem closeInput?_keeps {closed : Encounter State} (closes : before.closeInput? = some closed) :
    closed.state = before.state ∧ closed.exchange.unread = before.exchange.unread := by
  rcases closeInput?_cases closes with ⟨_, rfl⟩ | ⟨exchange, _, does, rfl⟩
  · exact ⟨rfl, rfl⟩
  · cases does
    exact ⟨rfl, rfl⟩

theorem closeOutput?_keeps {closed : Encounter State} {stream : Stream}
    (closes : before.closeOutput? stream = some closed) :
    closed.state = before.state ∧ closed.exchange.unread = before.exchange.unread := by
  rcases closeOutput?_cases closes with ⟨_, rfl⟩ | ⟨exchange, _, does, rfl⟩
  · exact ⟨rfl, rfl⟩
  · cases does
    exact ⟨rfl, rfl⟩

/-- A target that exits has less left of that when it has closed its input. -/
theorem remaining_closeInput? {status : ExitStatus} {closed : Encounter State}
    (next : target.next? before.state = some (.exit status)) (reads : before.reads = true)
    (closes : before.closeInput? = some closed) :
    closed.remaining target < before.remaining target := by
  rcases closeInput?_cases closes with ⟨notReads, _⟩ | ⟨exchange, _, does, rfl⟩
  · cases reads.symm.trans notReads
  · cases does
    simp only [remaining, next, reads, Bool.toNat_true, Bool.toNat_false]
    omega

/-- A target that exits has less left of that when it has closed an output. -/
theorem remaining_closeOutput? {status : ExitStatus} {closed : Encounter State} {stream : Stream}
    (next : target.next? before.state = some (.exit status)) (writes : before.writes stream = true)
    (closes : before.closeOutput? stream = some closed) :
    closed.remaining target < before.remaining target := by
  rcases closeOutput?_cases closes with ⟨notWrites, _⟩ | ⟨exchange, _, does, rfl⟩
  · cases writes.symm.trans notWrites
  · cases does
    cases stream with
    | standardOutput =>
      simp only [remaining, next, writes, reduceCtorEq, if_true, if_false, Bool.toNat_true,
        Bool.toNat_false]
      omega
    | standardError =>
      simp only [remaining, next, writes, reduceCtorEq, if_true, if_false, Bool.toNat_true,
        Bool.toNat_false]
      omega

/-- A turn lowers the measure and shows the target nothing new, or it completes an operation. -/
theorem lower_or_completes {turn : Turn} (takes : Takes target before turn after) :
    (after.state = before.state ∧ after.exchange.unread <+: before.exchange.unread ∧
      Lower (after.measure target) (before.measure target)) ∨
    ∃ operation count, Completes target before after operation count := by
  cases takes with
  | harness move exchange regular moves =>
    refine .inl ⟨rfl, Exchange.unread_moves regular moves, ?_⟩
    rw [measure, measure, remaining_moves moves]
    exact .right _ (Exchange.work_lt_of_moves regular moves)
  | target count operation after running next operates =>
    cases operates with
    | readNothing limit nothing => exact .inr ⟨_, 0, next, nofun, Nat.zero_le _, rfl, rfl⟩
    | read limit exchange within reads does =>
      cases does with
      | read positive available hasReader =>
        have size := before.exchange.input.held.size_eq
        refine .inr ⟨_, count, next, nofun, within, ?_, ?_⟩
        · show target.after before.state (before.exchange.input.held.bytes.take count) = _
          rw [Exchange.unread, List.take_append_of_le_length (by omega)]
        · show before.exchange.input.held.bytes.drop count ++ _ = _
          rw [Exchange.unread, List.drop_append_of_le_length (by omega)]
    | writeNothing stream bytes nothing => exact .inr ⟨_, 0, next, nofun, Nat.zero_le _, rfl, rfl⟩
    | write stream bytes part exchange unfinished writes chunk does =>
      cases does with
      | write _ positive fits hasWriter read =>
        refine .inl ⟨rfl, List.prefix_rfl, .left _ _ ?_⟩
        simp only [remaining, next]
        omega
    | closeInput closed closes =>
      obtain ⟨state, unread⟩ := closeInput?_keeps closes
      refine .inr ⟨_, 0, next, nofun, Nat.zero_le _, ?_, unread⟩
      exact congrArg (fun state => target.after state []) state
    | closeOutput stream closed closes =>
      obtain ⟨state, unread⟩ := closeOutput?_keeps closes
      refine .inr ⟨_, 0, next, nofun, Nat.zero_le _, ?_, unread⟩
      exact congrArg (fun state => target.after state []) state
    | exitInput status closed reads closes =>
      obtain ⟨state, unread⟩ := closeInput?_keeps closes
      refine .inl ⟨state, unread ▸ List.prefix_rfl, .left _ _ ?_⟩
      exact remaining_closeInput? next reads closes
    | exitOutput status stream closed reads opened closes =>
      obtain ⟨state, unread⟩ := closeOutput?_keeps closes
      refine .inl ⟨state, unread ▸ List.prefix_rfl, .left _ _ ?_⟩
      exact remaining_closeOutput? next (writes_of_openStream? opened) closes
    | exit status exchange reads closed does =>
      cases does with
      | exit _ child =>
        refine .inl ⟨rfl, List.prefix_rfl, .left _ _ ?_⟩
        simp only [remaining, next, running]
        omega

/-! ### Finitely many turns -/

/-- How many operations are left to the target at most, apart from its exit. -/
noncomputable def operationsLeft (target : Target State) (encounter : Encounter State) : Nat :=
  sInf { bound | target.EndsWithin bound encounter.exchange.unread encounter.state }

/-- The measure of an encounter with a target that ends. -/
noncomputable def fullMeasure (target : Target State) (encounter : Encounter State) :
    Nat × Nat × Nat :=
  (encounter.operationsLeft target, encounter.measure target)

/-- Whether the target of an encounter ends. -/
def IsEnding (target : Target State) (encounter : Encounter State) : Prop :=
  ∃ bound, target.EndsWithin bound encounter.exchange.unread encounter.state

theorem endsWithin_operationsLeft (ending : before.IsEnding target) :
    target.EndsWithin (before.operationsLeft target) before.exchange.unread before.state :=
  Nat.sInf_mem ending

theorem operationsLeft_le {bound : Nat}
    (ends : target.EndsWithin bound before.exchange.unread before.state) :
    before.operationsLeft target ≤ bound :=
  Nat.sInf_le ends

/-- A completed operation of a target that ends leaves fewer. -/
theorem endsWithin_of_completes {operation : Operation} {count : Nat}
    (ending : before.IsEnding target)
    (completes : Completes target before after operation count) :
    ∃ bound, bound < before.operationsLeft target ∧
      target.EndsWithin bound after.exchange.unread after.state := by
  have ends := endsWithin_operationsLeft ending
  generalize before.operationsLeft target = bound at ends ⊢
  cases ends with
  | exits status next =>
    exact absurd (Option.some.inj (completes.next.symm.trans next)) (completes.notExit status)
  | @goesOn bound _ _ asked next later =>
    cases Option.some.inj (completes.next.symm.trans next)
    rw [completes.unread, completes.state]
    exact ⟨bound, Nat.lt_succ_self bound, later count completes.within⟩

/-- Every turn lowers the measure of an encounter with a target that ends, and the target still ends
after it. -/
theorem fullMeasure_lower {turn : Turn} (ending : before.IsEnding target)
    (takes : Takes target before turn after) :
    after.IsEnding target ∧
      Prod.Lex (· < ·) Lower (after.fullMeasure target) (before.fullMeasure target) := by
  rcases lower_or_completes takes with
    ⟨state, unread, lower⟩ | ⟨operation, count, completes⟩
  · have ends := (endsWithin_operationsLeft ending).of_isPrefix unread
    rw [← state] at ends
    refine ⟨⟨_, ends⟩, ?_⟩
    -- Fewer operations can be left even if none was completed, since less is left to be read.
    rcases Nat.lt_or_eq_of_le (operationsLeft_le ends) with fewer | same
    · exact .left _ _ fewer
    · rw [fullMeasure, fullMeasure, same]
      exact .right _ lower
  · obtain ⟨bound, fewer, ends⟩ := endsWithin_of_completes ending completes
    exact ⟨⟨bound, ends⟩, .left _ _ (Nat.lt_of_le_of_lt (operationsLeft_le ends) fewer)⟩

/-- An endless sequence of encounters with a target that ends goes wrong somewhere. -/
theorem exists_not_turn? (run : Nat → Encounter State) (ending : (run 0).IsEnding target) :
    ∃ position, ∀ turn, (run position).turn? target turn ≠ some (run (position + 1)) := by
  by_contra endless
  simp only [not_exists, not_forall, Classical.not_not] at endless
  have follows (position : Nat) : (run position).IsEnding target := by
    induction position with
    | zero => exact ending
    | succ position inductionHypothesis =>
      obtain ⟨turn, taken⟩ := endless position
      exact (fullMeasure_lower inductionHypothesis (takes_of_turn? taken)).1
  have wellFounded : WellFounded (Prod.Lex (· < · : Nat → Nat → Prop) Lower) :=
    Nat.lt_wfRel.wf.prod_lex (Nat.lt_wfRel.wf.prod_lex Nat.lt_wfRel.wf)
  refine (RelEmbedding.natGT (fun position => (run position).fullMeasure target) ?_).not_wellFounded
    wellFounded
  intro position
  obtain ⟨turn, taken⟩ := endless position
  exact (fullMeasure_lower (follows position) (takes_of_turn? taken)).2

/-! ### Runs without failures -/

section Runs

variable {executable script : Bytes} {timeout : Duration} {inputCapacity outputCapacity : Nat}
  {state : State} {turns : List Turn}

/-- A target that ends with the whole script before it ends after any turns. -/
theorem isEnding_play? (ends : target.Ends script state)
    (played : (Encounter.start executable script timeout inputCapacity outputCapacity state).play?
      target turns = some reached) : reached.IsEnding target := by
  have first : (Encounter.start executable script timeout inputCapacity outputCapacity
      state).IsEnding target := Target.exists_endsWithin_of_ends ends
  exact play?_induction first (fun _ _ _ ending takes => (fullMeasure_lower ending takes).1) played

/-- Feeding and draining never block each other, in whatever pieces and in whatever order they and
the target go on. Until the run has returned, some turn is possible if the target asks for something
or has exited; and while the harness waits for the end of the output, it does not hold the output
open itself. Every turn lowers the measure of the operation that the target is at, or completes the
operation. So with a target that ends every turn lowers one measure, only finitely many turns can
follow each other, and where none is possible any more the run has returned completed. -/
theorem feeding_and_draining_never_block (target : Target State) (executable script : Bytes)
    (timeout : Duration) (inputCapacity outputCapacity : Nat) (state : State)
    (inputPositive : 0 < inputCapacity) (outputPositive : 0 < outputCapacity) :
    let start := Encounter.start executable script timeout inputCapacity outputCapacity state
    (∀ turns reached, start.play? target turns = some reached →
      (∀ result, reached.exchange.phase ≠ .returned result) →
      ((∃ operation, target.next? reached.state = some operation) ∨
        reached.exchange.child ≠ .running) →
      CanGoOn target reached ∧
        (reached.exchange.phase = .exchanging → reached.exchange.ownWriters = 0)) ∧
    (∀ turns before turn after, start.play? target turns = some before →
      before.turn? target turn = some after →
      after.state = before.state ∧ Lower (after.measure target) (before.measure target) ∨
        ∃ operation count, Completes target before after operation count) ∧
    (target.Ends script state →
      (∀ turns before turn after, start.play? target turns = some before →
        before.turn? target turn = some after →
        Prod.Lex (· < ·) Lower (after.fullMeasure target) (before.fullMeasure target)) ∧
      (∀ run : Nat → Encounter State, run 0 = start →
        ∃ position, ∀ turn, (run position).turn? target turn ≠ some (run (position + 1))) ∧
      ∀ turns reached, start.play? target turns = some reached → ¬ CanGoOn target reached →
        ∃ output exitCode,
          reached.exchange.phase = .returned (.ok (.completed output exitCode))) := by
  intro start
  refine ⟨?_, ?_, fun ends => ⟨?_, ?_, ?_⟩⟩
  · intro turns reached played unfinished pending
    have sound := sound_play? played
    refine ⟨canGoOn_of_sound sound inputPositive outputPositive unfinished pending, ?_⟩
    intro exchanging
    refine sound.released.resolve_left fun spawned => ?_
    cases exchanging.symm.trans spawned
  · intro turns before turn after _ taken
    rcases lower_or_completes (takes_of_turn? taken) with ⟨same, _, lower⟩ | completes
    · exact .inl ⟨same, lower⟩
    · exact .inr completes
  · intro turns before turn after played taken
    exact (fullMeasure_lower (isEnding_play? ends played) (takes_of_turn? taken)).2
  · intro run first
    have played : start.play? target [] = some (run 0) := congrArg some first.symm
    exact exists_not_turn? run (isEnding_play? ends played)
  · intro turns reached played stuck
    have sound := sound_play? played
    obtain ⟨bound, endsWithin⟩ := isEnding_play? ends played
    obtain ⟨result, returned⟩ : ∃ result, reached.exchange.phase = .returned result := by
      by_contra unfinished
      exact stuck (canGoOn_of_sound sound inputPositive outputPositive
        (not_exists.mp unfinished) (.inl endsWithin.exists_next?))
    have kept := sound.phaseKept
    rw [PhaseKept, returned] at kept
    obtain ⟨⟨output, exitCode, completed⟩, _⟩ := kept
    exact ⟨output, exitCode, completed ▸ returned⟩

/-- The harness has filled the pipe for the script, and the target, which has more to write before
it reads, has filled the pipe for the output. -/
def fullPipes : List Turn :=
  [.harness (.announce 7), .harness .openOutput, .harness (.write 1), .target 1]

/-- With both pipes full neither side can write, yet some turn is possible, and every run comes to
its end. -/
theorem feeding_and_draining_never_block_fullPipes :
    let operations := [.write .standardOutput [65, 66], .read 2, .exit (.exited 0)]
    let start := Encounter.start [] [104, 105] ⟨1000⟩ 1 1 operations
    (∃ reached, start.play? Target.sequence fullPipes = some reached ∧
      reached.turn? Target.sequence (.harness (.write 1)) = none ∧
      reached.turn? Target.sequence (.target 1) = none ∧
      CanGoOn Target.sequence reached) ∧
    ∀ run : Nat → Encounter (List Operation), run 0 = start →
      ∃ position, ∀ turn,
        (run position).turn? Target.sequence turn ≠ some (run (position + 1)) := by
  intro operations start
  have ends : Target.sequence.Ends [104, 105] operations :=
    Target.ends_sequence (List.mem_of_getElem? (i := 2) rfl) _
  obtain ⟨goesOn, _, ending⟩ := feeding_and_draining_never_block Target.sequence [] [104, 105]
    ⟨1000⟩ 1 1 operations Nat.one_pos Nat.one_pos
  refine ⟨?_, (ending ends).2.1⟩
  obtain ⟨reached, played, noRoom, noRoomEither, phase, asks⟩ :
      ∃ reached, start.play? Target.sequence fullPipes = some reached ∧
        reached.turn? Target.sequence (.harness (.write 1)) = none ∧
        reached.turn? Target.sequence (.target 1) = none ∧
        reached.exchange.phase = .exchanging ∧
        Target.sequence.next? reached.state = some (.write .standardOutput [65, 66]) :=
    ⟨_, rfl, rfl, rfl, rfl, rfl⟩
  have unfinished (result : Except RunError Outcome) :
      reached.exchange.phase ≠ .returned result := by
    rw [phase]
    nofun
  exact ⟨reached, played, noRoom, noRoomEither,
    (goesOn fullPipes reached played unfinished (.inl ⟨_, asks⟩)).1⟩

end Runs

end Encounter

end ShellSmoke
