/-
This file proves that the part of a script that its target does not read has no effect on the run.
A target that stops using its input after a part of the script, and never asks for more, goes the
same way whatever follows that part; so it comes to the same output and the same exit. How much of
the rest the harness can write before nobody reads it any more depends on the pipe and on the order
of turns, but a pipe that nobody reads only ends the feed: the harness goes on draining up to the
end of the output, and what a completed run shows is what the target comes to on its own.
-/

import ShellSmoke.Proofs.Exchange.Agreement

namespace ShellSmoke

open Relation (ReflTransGen)

/-! ### Targets that leave some of their script unread -/

namespace Solo

variable {State : Type}

/-- A target on its own, with more of the script after what is left. -/
def followedBy (solo : Solo State) (more : Bytes) : Solo State :=
  { solo with left := solo.left ++ more }

/-- Whether a target has stopped using its input: it has closed it, or it is at its exit. -/
def HasStopped (target : Target State) (solo : Solo State) : Prop :=
  solo.reads = false ∨ ∃ status, target.next? solo.state = some (.exit status)

end Solo

namespace Target

variable {State : Type}

/-- Whether a target comes to one output and one exit with a script, whatever the pieces are in
which it reads. -/
def IsDetermined (target : Target State) (state : State) (script : Bytes) : Prop :=
  ∀ output other status otherStatus, target.Yields state script output status →
    target.Yields state script other otherStatus → output = other ∧ status = otherStatus

/-- Whether a target with a script that consists of a part and a rest never asks for more than what
it has not read of the part. -/
def AsksOnlyFor (target : Target State) (state : State) (part rest : Bytes) : Prop :=
  ∀ solo limit, ReflTransGen (Solo.Step target) (.start state (part ++ rest)) solo →
    solo.reads = true → target.next? solo.state = some (.read limit) →
    rest.length + limit ≤ solo.left.length

/-- Whether a target with a script that consists of a part and a rest stops using its input when it
has read exactly the part, without ever asking for more. -/
structure StopsAfter (target : Target State) (state : State) (part rest : Bytes) : Prop where
  asksOnlyFor : target.AsksOnlyFor state part rest
  stops : ∃ solo, ReflTransGen (Solo.Step target) (.start state (part ++ rest)) solo ∧
    solo.left = rest ∧ solo.HasStopped target

end Target

/-! ### Whatever follows -/

/-- A step that asks for no more than what is left is a step whatever follows. -/
theorem Solo.exists_step_followedBy {State : Type} {target : Target State}
    {solo later : Solo State} {rest other : Bytes}
    (enough : ∀ limit, solo.reads = true → target.next? solo.state = some (.read limit) →
      limit ≤ solo.left.length)
    (step : Step target (solo.followedBy other) later) :
    ∃ next : Solo State, later = next.followedBy other ∧
      Step target (solo.followedBy rest) (next.followedBy rest) := by
  cases step with
  | read limit count asks reads positive within available =>
    have fits : count ≤ solo.left.length := within.trans (enough limit reads asks)
    let next : Solo State := { solo with
      state := target.after solo.state (solo.left.take count)
      left := solo.left.drop count }
    have reading (more : Bytes) : ({ solo.followedBy more with
        state := target.after solo.state ((solo.left ++ more).take count)
        left := (solo.left ++ more).drop count } : Solo State) = next.followedBy more := by
      rw [List.take_append_of_le_length fits, List.drop_append_of_le_length fits]
      rfl
    refine ⟨next, reading other, reading rest ▸ .read limit count asks reads positive within ?_⟩
    show count ≤ (solo.left ++ rest).length
    rw [List.length_append]
    omega
  | readNothing limit asks nothing =>
    refine ⟨{ solo with state := target.after solo.state [] }, rfl, .readNothing limit asks ?_⟩
    cases reads : solo.reads with
    | false => exact .inr (.inl reads)
    | true =>
      rcases nothing with none | closed | empty
      · exact .inl none
      · cases reads.symm.trans closed
      · -- Nothing is left at all, so the target asks for nothing.
        have nothingLeft := (List.append_eq_nil_iff.mp empty).1
        have within := enough limit reads asks
        rw [nothingLeft] at within
        exact .inl (Nat.le_zero.mp within)
  | write stream bytes asks =>
    exact ⟨{ solo with
      state := target.after solo.state []
      written := solo.written ++ if solo.writes stream then bytes else [] },
      rfl, .write stream bytes asks⟩
  | closeInput asks =>
    exact ⟨{ solo with state := target.after solo.state [], reads := false }, rfl,
      .closeInput asks⟩
  | closeOutput stream asks =>
    exact ⟨{ solo with
      state := target.after solo.state []
      writes := fun other => if other = stream then false else solo.writes other },
      rfl, .closeOutput stream asks⟩

namespace Target

variable {State : Type} {target : Target State} {state : State} {part rest other : Bytes}

theorem AsksOnlyFor.limit_le (asksOnlyFor : target.AsksOnlyFor state part rest)
    {solo : Solo State} {limit : Nat}
    (reaches : ReflTransGen (Solo.Step target) (.start state (part ++ rest)) (solo.followedBy rest))
    (reads : solo.reads = true) (asks : target.next? solo.state = some (.read limit)) :
    limit ≤ solo.left.length := by
  have within : rest.length + limit ≤ (solo.left ++ rest).length :=
    asksOnlyFor _ limit reaches reads asks
  rw [List.length_append] at within
  omega

/-- A target that asks only for a part of its script goes no other way than it goes with another
rest. -/
theorem AsksOnlyFor.exists_reaches (asksOnlyFor : target.AsksOnlyFor state part rest)
    {reached : Solo State}
    (reaches : ReflTransGen (Solo.Step target) (.start state (part ++ other)) reached) :
    ∃ solo : Solo State, reached = solo.followedBy other ∧
      ReflTransGen (Solo.Step target) (.start state (part ++ rest)) (solo.followedBy rest) := by
  induction reaches with
  | refl => exact ⟨.start state part, rfl, .refl⟩
  | tail _ step inductionHypothesis =>
    obtain ⟨solo, rfl, reaches⟩ := inductionHypothesis
    obtain ⟨next, rfl, goesOn⟩ :=
      Solo.exists_step_followedBy (fun _ => asksOnlyFor.limit_le reaches) step
    exact ⟨next, rfl, reaches.tail goesOn⟩

theorem AsksOnlyFor.with_rest (asksOnlyFor : target.AsksOnlyFor state part rest) (other : Bytes) :
    target.AsksOnlyFor state part other := by
  intro reached limit goes reads asks
  obtain ⟨solo, rfl, reaches⟩ := asksOnlyFor.exists_reaches goes
  have within : limit ≤ solo.left.length := asksOnlyFor.limit_le reaches reads asks
  show other.length + limit ≤ (solo.left ++ other).length
  rw [List.length_append]
  omega

/-- A target that asks only for a part of its script comes to nothing but what it comes to with
another rest. -/
theorem AsksOnlyFor.yields (asksOnlyFor : target.AsksOnlyFor state part rest) {output : Bytes}
    {status : ExitStatus} (yields : target.Yields state (part ++ other) output status) :
    target.Yields state (part ++ rest) output status := by
  obtain ⟨last, goes, exits, written⟩ := yields
  obtain ⟨solo, rfl, reaches⟩ := asksOnlyFor.exists_reaches goes
  exact ⟨_, reaches, exits, written⟩

/-- A target that stops after a part of its script stops there whatever follows. -/
theorem StopsAfter.with_rest (stopsAfter : target.StopsAfter state part rest) (other : Bytes) :
    target.StopsAfter state part other := by
  have asksOnlyFor := stopsAfter.asksOnlyFor.with_rest other
  refine ⟨asksOnlyFor, ?_⟩
  obtain ⟨stopped, goes, left, stops⟩ := stopsAfter.stops
  obtain ⟨solo, rfl, reaches⟩ := asksOnlyFor.exists_reaches goes
  have nothingLeft : solo.left = [] := List.append_left_eq_self.mp left
  refine ⟨_, reaches, ?_, stops⟩
  show solo.left ++ other = other
  rw [nothingLeft, List.nil_append]

theorem isDetermined_of_readsBytewise (bytewise : target.ReadsBytewise) (script : Bytes) :
    target.IsDetermined state script :=
  fun _ _ _ _ yields otherYields => yields.unique bytewise otherYields

end Target

/-! ### A pipe that nobody reads -/

/-- If a run fails to feed the script then it was refused in another way than that nobody reads it,
and had not given up the rest. -/
theorem Exchange.feeding_of_input {executable script : Bytes} {timeout : Duration}
    {inputCapacity outputCapacity : Nat} {actions : List Action} {reached : Exchange}
    (played : (start executable script timeout inputCapacity outputCapacity).play? actions =
      some reached) :
    ∀ failure, reached.result? = some (.error (.input failure)) →
      failure.kind ≠ .brokenPipe ∧ ∃ rest, reached.feed = .writing rest := by
  refine play?_induction (motive := fun _ reached => ∀ failure,
    reached.result? = some (.error (.input failure)) →
      failure.kind ≠ .brokenPipe ∧ ∃ rest, reached.feed = .writing rest) ?_ ?_ played
  · exact fun _ => nofun
  intro earlier before action after kept acted failure failed
  cases action with
  | harness move =>
    cases moves_of_move? acted with
    | writeFails other rest phase feed unfinished notBroken =>
      cases failed
      exact ⟨notBroken, rest, feed⟩
    | kill result phase | bury result status phase =>
      have earlier : before.result? = some (.error (.input failure)) := by
        rw [← failed, result?, phase]
        rfl
      exact kept failure earlier
    | announce | openOutput | openOutputFails | readFails | reap | waitFails | expire | dropOpen
    | dropDecided | dropStopping =>
      cases failed
    | write _ _ phase | abandonInput _ phase | closeInput _ phase | read _ phase
    | readEnd phase =>
      have none : before.result? = none := result?_of_isOpen (phase ▸ trivial)
      cases none.symm.trans failed
  | target deed =>
    cases deed?_eq_some_iff.mp acted with
    | read | write | shareInput | shareOutput | closeInput | closeOutput | exit =>
      exact kept failure failed

namespace Encounter

variable {State : Type}

/-- Whether a run takes no harm from what its target leaves unread. Wherever the harness is in the
script when nobody reads it any more, it can give up the rest, and then goes on with the output as
it was. It does not fail because nobody reads the script, and does not fail to feed it at all once
it has given up the rest. If it completes then the output was drained up to its end, and all of it
is shown, as the target comes to it on its own with a script. -/
structure IsUnharmed (target : Target State) (state : State) (script : Bytes)
    (encounter : Encounter State) : Prop where
  givesUp : ∀ rest, encounter.exchange.phase = .exchanging →
    encounter.exchange.feed = .writing rest → rest.isEmpty = false →
    encounter.exchange.input.broken = true →
    ∃ after, encounter.exchange.move? .abandonInput = some after ∧ after.phase = .exchanging ∧
      after.feed = .closed true ∧ after.output = encounter.exchange.output ∧
      after.drain = encounter.exchange.drain
  notBroken : ∀ failure, encounter.exchange.result? = some (.error (.input failure)) →
    failure.kind ≠ .brokenPipe
  givenUp : encounter.exchange.feed = .closed true →
    ∀ failure, encounter.exchange.result? ≠ some (.error (.input failure))
  drained : ∀ output exitCode,
    encounter.exchange.result? = some (.ok (.completed output exitCode)) →
    encounter.exchange.drain.ended = true ∧ encounter.exchange.output.held.bytes = [] ∧
      encounter.exchange.output.writers = 0
  shown : ∀ output exitCode,
    encounter.exchange.result? = some (.ok (.completed output exitCode)) →
    ∃ status, target.Yields state script encounter.exchange.drain.collected status ∧
      output = Text.decode encounter.exchange.drain.collected ∧ exitCode = status.code

variable {target : Target State} {state : State} {part rest script executable : Bytes}
variable {timeout : Duration} {inputCapacity outputCapacity : Nat} {turns : List Turn}
variable {reached : Encounter State}

theorem isUnharmed_of_run? (asksOnlyFor : target.AsksOnlyFor state part rest)
    (begins : part <+: script)
    (ran : (Encounter.start executable script timeout inputCapacity outputCapacity state).run?
      target turns = some reached) :
    reached.IsUnharmed target state (part ++ rest) := by
  obtain ⟨actions, executed⟩ := exists_play?_exchange_of_run? ran
  have feeding := Exchange.feeding_of_input executed
  constructor
  case givesUp =>
    intro left phase feed unfinished broken
    have gaveUp := Exchange.move?_of_moves (.abandonInput left phase feed broken unfinished)
    exact ⟨_, gaveUp, phase, rfl, rfl, rfl⟩
  case notBroken => exact fun failure failed => (feeding failure failed).1
  case givenUp =>
    intro givenUp failure failed
    obtain ⟨_, left, writing⟩ := feeding failure failed
    cases givenUp.symm.trans writing
  case drained =>
    intro output exitCode completed
    have completes := Exchange.completionKept_play executed output exitCode completed
    exact ⟨completes.drained, Exchange.endIsFinal_play executed completes.drained⟩
  case shown =>
    intro output exitCode completed
    obtain ⟨status, yields, shows⟩ := yields_of_completed ran completed
    obtain ⟨other, rfl⟩ := begins
    exact ⟨status, asksOnlyFor.yields yields, shows⟩

/-- A run in which nothing goes wrong, whether or not its target leaves something unread, comes to
nothing but completion. -/
theorem completed_of_play?
    (played : (Encounter.start executable script timeout inputCapacity outputCapacity state).play?
      target turns = some reached) {result : Except RunError Outcome}
    (decided : reached.exchange.result? = some result) :
    ∃ output exitCode, result = .ok (.completed output exitCode) := by
  have phaseKept := (sound_play? played).phaseKept
  cases phase : reached.exchange.phase with
  | spawned | opening | exchanging | dropped =>
    rw [Exchange.result?, phase] at decided
    cases decided
  | decided other | stopping other | returned other =>
    rw [PhaseKept, phase] at phaseKept
    rw [Exchange.result?, phase] at decided
    cases decided
    exact phaseKept.1

end Encounter

/-! ### Runs on scripts with a part in common -/

namespace Target

variable {State : Type}

/-- What a target leaves unread of its script is immaterial. If a target with some script stops
using its input after a part of it, without ever asking for more, then it does so whatever follows
that part, and all its completed runs on scripts that begin with the part return the same output and
the same exit code, however much of what follows fits into the pipe and whenever the harness finds
that nobody reads it. No run fails because of that; a run that completes has drained the output to
its end. A run in which nothing else goes wrong comes to nothing but completion, and some turn is
possible until it has returned, unless the target asks for nothing. -/
theorem unread_script_is_immaterial (target : Target State) (state : State) (part rest : Bytes)
    (determined : target.IsDetermined state (part ++ rest))
    (stopsAfter : target.StopsAfter state part rest) :
    (∀ other, target.StopsAfter state part other ∧ target.IsDetermined state (part ++ other)) ∧
    (∀ first second : Job, part <+: first.script → part <+: second.script →
      ∀ output otherOutput exitCode otherCode,
        target.MayReturn state first (.ok (.completed output exitCode)) →
        target.MayReturn state second (.ok (.completed otherOutput otherCode)) →
        output = otherOutput ∧ exitCode = otherCode) ∧
    ∀ job : Job, part <+: job.script → ∀ inputCapacity outputCapacity,
      let start := Encounter.start job.executable job.script job.timeout inputCapacity
        outputCapacity state
      (∀ turns reached, start.run? target turns = some reached →
        reached.IsUnharmed target state (part ++ rest)) ∧
      ∀ turns reached, start.play? target turns = some reached →
        (∀ result, reached.exchange.result? = some result →
          ∃ output exitCode, result = .ok (.completed output exitCode)) ∧
        (0 < inputCapacity → 0 < outputCapacity →
          (∀ result, reached.exchange.phase ≠ .returned result) →
          (∃ operation, target.next? reached.state = some operation) ∨
            reached.exchange.child ≠ .running →
          reached.CanGoOn target) := by
  have asksOnlyFor := stopsAfter.asksOnlyFor
  refine ⟨fun other => ⟨stopsAfter.with_rest other, ?_⟩, ?_, ?_⟩
  · intro output otherOutput status otherStatus yields otherYields
    exact determined _ _ _ _ (asksOnlyFor.yields yields) (asksOnlyFor.yields otherYields)
  · intro first second begins otherBegins output otherOutput exitCode otherCode returns
      otherReturns
    obtain ⟨bytes, status, yields, rfl, rfl⟩ := yields_of_mayReturn returns
    obtain ⟨otherBytes, otherStatus, otherYields, rfl, rfl⟩ := yields_of_mayReturn otherReturns
    obtain ⟨following, same⟩ := begins
    obtain ⟨other, otherSame⟩ := otherBegins
    rw [← same] at yields
    rw [← otherSame] at otherYields
    obtain ⟨rfl, rfl⟩ :=
      determined _ _ _ _ (asksOnlyFor.yields yields) (asksOnlyFor.yields otherYields)
    exact ⟨rfl, rfl⟩
  · intro job begins inputCapacity outputCapacity start
    refine ⟨fun turns reached ran => Encounter.isUnharmed_of_run? asksOnlyFor begins ran, ?_⟩
    intro turns reached played
    refine ⟨fun result decided => Encounter.completed_of_play? played decided, ?_⟩
    intro inputPositive outputPositive unfinished pending
    exact Encounter.canGoOn_of_sound (Encounter.sound_play? played) inputPositive outputPositive
      unfinished pending

/-- A target of which the next operation is determined by what it has done remembers what it
completes. -/
theorem completed_determined {next : Bytes → List Operation → Option Operation}
    {history : Bytes × List Operation} {operation : Operation} {bytes : Bytes}
    (asks : (determined next).next? history = some operation) :
    ((determined next).after history bytes).2 = history.2 ++ [operation] := by
  have asks : next history.1 history.2 = some operation := asks
  show history.2 ++ (next history.1 history.2).toList = _
  rw [asks]
  rfl

/-- A target that shows the first byte of its script asks for nothing but that. -/
theorem stopsAfter_showsFirst (byte : UInt8) (rest : Bytes) :
    showsFirst.StopsAfter ([], []) [byte] rest where
  asksOnlyFor solo limit reaches reads asks := by
    -- Once it has completed something it does not read any more.
    have fresh : solo.state.2 = [] := by
      cases completed : solo.state.2 with
      | nil => rfl
      | cons first later =>
        have asked : [Operation.read 1, .write .standardOutput solo.state.1, .closeInput,
            .exit (.exited 3)][solo.state.2.length]? = some (.read limit) := asks
        rw [completed, List.length_cons, List.getElem?_cons_succ] at asked
        have member := List.mem_of_getElem? asked
        simp at member
    rcases reaches.cases_tail with same | ⟨before, _, step⟩
    · subst same
      cases asks
      show rest.length + 1 ≤ ([byte] ++ rest).length
      rw [List.length_append, List.length_singleton, Nat.add_comm]
    · cases step with
      | read _ _ asked | readNothing _ asked | write _ _ asked | closeInput asked
      | closeOutput _ asked =>
        rw [showsFirst, completed_determined asked] at fresh
        cases List.append_eq_nil_iff.mp fresh |>.2
  stops := by
    refine ⟨_, .tail (.tail (.single (.read 1 1 rfl rfl Nat.one_pos (Nat.le_refl 1) ?_))
      (.write .standardOutput [byte] rfl)) (.closeInput rfl), rfl, .inl rfl⟩
    exact Nat.le_add_left 1 rest.length

/-- All of a script of two bytes is fed before the target reads the first. -/
def shortRun : List Encounter.Turn :=
  [.harness (.announce 7), .harness .openOutput, .harness (.write 2), .harness .closeInput,
    .target 1, .target 1, .target 0, .target 0, .target 0, .target 0, .target 0,
    .harness (.read 1), .harness .readEnd, .harness .reap, .harness .kill, .harness .bury]

/-- A script of two bytes that is fed and a script of four bytes of which the last three are given
up begin with the same byte, and a target that shows it completes in the same way with both. -/
theorem unread_script_is_immaterial_givenUp :
    ∃ fed left output otherOutput exitCode otherCode,
      (Encounter.start [] [101, 10] ⟨1000⟩ 2 2 ([], [])).run? showsFirst shortRun = some fed ∧
      (Encounter.start [] [101, 99, 104, 111] ⟨1000⟩ 1 1 ([], [])).run? showsFirst leftRun =
        some left ∧
      fed.exchange.feed = .closed false ∧ left.exchange.feed = .closed true ∧
      fed.exchange.phase = .returned (.ok (.completed output exitCode)) ∧
      left.exchange.phase = .returned (.ok (.completed otherOutput otherCode)) ∧
      (output = otherOutput ∧ exitCode = otherCode) ∧
      left.exchange.drain.ended = true ∧ left.exchange.output.writers = 0 := by
  obtain ⟨fed, left, ranFed, ranLeft, whole, early, returned, otherReturned⟩ :
      ∃ fed left,
        (Encounter.start [] [101, 10] ⟨1000⟩ 2 2 ([], [])).run? showsFirst shortRun = some fed ∧
        (Encounter.start [] [101, 99, 104, 111] ⟨1000⟩ 1 1 ([], [])).run? showsFirst leftRun =
          some left ∧
        fed.exchange.feed = .closed false ∧ left.exchange.feed = .closed true ∧
        fed.exchange.phase = .returned (.ok (.completed "e" 3)) ∧
        left.exchange.phase = .returned (.ok (.completed "e" 3)) :=
    ⟨_, _, rfl, rfl, rfl, rfl, rfl, rfl⟩
  have determined : showsFirst.IsDetermined ([], []) ([101] ++ [10]) :=
    isDetermined_of_readsBytewise readsBytewise_showsFirst _
  obtain ⟨-, agree, fares⟩ := unread_script_is_immaterial showsFirst ([], []) [101] [10] determined
    (stopsAfter_showsFirst 101 [10])
  have returns : showsFirst.MayReturn ([], []) ⟨[], [101, 10], ⟨1000⟩⟩
      (.ok (.completed "e" 3)) := ⟨2, 2, shortRun, fed, ranFed, returned⟩
  have otherReturns : showsFirst.MayReturn ([], []) ⟨[], [101, 99, 104, 111], ⟨1000⟩⟩
      (.ok (.completed "e" 3)) := ⟨1, 1, leftRun, left, ranLeft, otherReturned⟩
  have unharmed := (fares ⟨[], [101, 99, 104, 111], ⟨1000⟩⟩ ⟨_, rfl⟩ 1 1).1 leftRun left ranLeft
  have completed : left.exchange.result? = some (.ok (.completed "e" 3)) := by
    rw [Exchange.result?, otherReturned]
  obtain ⟨ended, -, closed⟩ := unharmed.drained "e" 3 completed
  exact ⟨fed, left, "e", "e", 3, 3, ranFed, ranLeft, whole, early, returned, otherReturned,
    agree _ _ ⟨_, rfl⟩ ⟨_, rfl⟩ "e" "e" 3 3 returns otherReturns, ended, closed⟩

end Target

end ShellSmoke
