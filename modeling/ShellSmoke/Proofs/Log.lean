/-
This file proves that the log of a run tells the truth about it. Events come from the feed, from the
end of the exchange and from the clean-up, in that order and each where it happens, so how far a run
has come determines what it has reported. The main result reads the whole log of a harness off the
result that the run returns, and at no moment before is the log more than the beginning of one.
-/

import ShellSmoke.Proofs.Cleanup
import ShellSmoke.Proofs.Exchange.Integrity

namespace ShellSmoke

open Log (Event)

/-! ### The order of events -/

/-- Whether events are those of a run that has stopped its child, in their order. First the child is
reported; then the close of its input, if it came to that, after the note that the target had left
it; then the end of the exchange, unless it failed, and an exit only after the close; at last that
the child is gone. -/
def Log.IsAccount (scriptSize : Nat) (timeout : Duration) (events : List Event) : Prop :=
  ∃ process fed ended status,
    events = .spawned process :: (fed ++ (ended ++ [.killed status])) ∧
    (fed = [] ∨ fed = [.inputClosed scriptSize] ∨
      fed = [.inputAbandoned, .inputClosed scriptSize]) ∧
    (ended = [] ∨ ended = [.timedOut timeout] ∨
      fed ≠ [] ∧ ∃ exitCode outputBytes, ended = [.exited exitCode outputBytes])

namespace Exchange

variable {executable script : Bytes} {timeout : Duration} {inputCapacity outputCapacity : Nat}
variable {before after reached : Exchange} {action : Action} {actions : List Action}

/-- What the feed has reported. -/
def fedReports (exchange : Exchange) : List Event :=
  match exchange.feed with
  | .writing _ => []
  | .closed false => [.inputClosed exchange.scriptSize]
  | .closed true => [.inputAbandoned, .inputClosed exchange.scriptSize]

/-- What the end of the exchange has reported when its result is certain. -/
def endReports (exchange : Exchange) : Except RunError Outcome → List Event
  | .ok (.completed _ exitCode) => [.exited exitCode exchange.drain.collected.length]
  | .ok .timedOut => [.timedOut exchange.timeout]
  | .error _ => []

theorem fedReports_of_writing {exchange : Exchange} {rest : Buffer}
    (feed : exchange.feed = .writing rest) : exchange.fedReports = [] := by
  rw [fedReports, feed]

theorem fedReports_of_closed {exchange : Exchange} {early : Bool}
    (feed : exchange.feed = .closed early) :
    exchange.fedReports =
      if early then [.inputAbandoned, .inputClosed exchange.scriptSize]
      else [.inputClosed exchange.scriptSize] := by
  rw [fedReports, feed]
  cases early <;> rfl

theorem fedReports_cases (exchange : Exchange) :
    exchange.fedReports = [] ∨ exchange.fedReports = [.inputClosed exchange.scriptSize] ∨
      exchange.fedReports = [.inputAbandoned, .inputClosed exchange.scriptSize] := by
  unfold fedReports
  split
  · exact .inl rfl
  · exact .inr (.inl rfl)
  · exact .inr (.inr rfl)

theorem fedReports_ne_nil {exchange : Exchange} {early : Bool}
    (feed : exchange.feed = .closed early) : exchange.fedReports ≠ [] := by
  rw [fedReports_of_closed feed]
  cases early <;> exact List.cons_ne_nil _ _

/-- Whether a result is no exit of the child unless the harness has closed its end of the input. -/
def ClosesFirst (exchange : Exchange) (result : Except RunError Outcome) : Prop :=
  ∀ output exitCode, result = .ok (.completed output exitCode) →
    ∃ early, exchange.feed = .closed early

theorem endReports_cases {exchange : Exchange} {result : Except RunError Outcome}
    (closesFirst : exchange.ClosesFirst result) :
    exchange.endReports result = [] ∨ exchange.endReports result = [.timedOut exchange.timeout] ∨
      exchange.fedReports ≠ [] ∧ ∃ exitCode outputBytes,
        exchange.endReports result = [.exited exitCode outputBytes] := by
  match result with
  | .ok (.completed output exitCode) =>
    obtain ⟨early, feed⟩ := closesFirst output exitCode rfl
    exact .inr (.inr ⟨fedReports_ne_nil feed, exitCode, _, rfl⟩)
  | .ok .timedOut => exact .inr (.inl rfl)
  | .error _ => exact .inl rfl

theorem endReports_eq_exited_iff {exchange : Exchange} {result : Except RunError Outcome} :
    (∃ exitCode outputBytes, exchange.endReports result = [.exited exitCode outputBytes]) ↔
      ∃ output exitCode, result = .ok (.completed output exitCode) := by
  match result with
  | .ok (.completed _ _) | .ok .timedOut | .error _ => simp [endReports]

theorem endReports_eq_timedOut_iff {exchange : Exchange} {result : Except RunError Outcome} :
    exchange.endReports result = [.timedOut exchange.timeout] ↔ result = .ok .timedOut := by
  match result with
  | .ok (.completed _ _) | .ok .timedOut | .error _ => simp [endReports]

theorem endReports_eq_nil_iff {exchange : Exchange} {result : Except RunError Outcome} :
    exchange.endReports result = [] ↔ ∃ failure, result = .error failure := by
  match result with
  | .ok (.completed _ _) | .ok .timedOut | .error _ => simp [endReports]

theorem isAccount_reports {exchange : Exchange} {result : Except RunError Outcome}
    (closesFirst : exchange.ClosesFirst result) (process : Nat) (status : ExitStatus) :
    Log.IsAccount exchange.scriptSize exchange.timeout
      (.spawned process ::
        (exchange.fedReports ++ (exchange.endReports result ++ [.killed status]))) :=
  ⟨process, exchange.fedReports, exchange.endReports result, status, rfl, fedReports_cases exchange,
    endReports_cases closesFirst⟩

/-! ### The books on the log -/

theorem log_report (exchange : Exchange) (event : Event) :
    (exchange.report event).log = exchange.log ++ [event] :=
  List.reverse_cons

/-- Whether what was reported is the beginning of the events of a run that has stopped its
child. -/
def IsTold (exchange : Exchange) : Prop :=
  ∃ account, Log.IsAccount exchange.scriptSize exchange.timeout account ∧ exchange.log <+: account

/-- The books on the log: how far a run has come determines what it has reported. -/
def LogKept (exchange : Exchange) : Prop :=
  match exchange.phase with
  | .spawned => exchange.log = [] ∧ ∃ rest, exchange.feed = .writing rest
  | .opening =>
    (∃ process, exchange.log = [.spawned process]) ∧ ∃ rest, exchange.feed = .writing rest
  | .exchanging => ∃ process, exchange.log = .spawned process :: exchange.fedReports
  | .decided result | .stopping result =>
    ∃ process,
      exchange.log = .spawned process :: (exchange.fedReports ++ exchange.endReports result)
  | .returned result =>
    ((∃ failure, result = .error (.outputPipe failure)) ∧
      ∃ process, exchange.log = [.spawned process]) ∨
      ∃ process status, exchange.child = .reaped status ∧
        exchange.log = .spawned process ::
          (exchange.fedReports ++ (exchange.endReports result ++ [.killed status]))
  | .dropped => exchange.IsTold

theorem isTold_of_isPrefix {exchange : Exchange} {result : Except RunError Outcome}
    (closesFirst : exchange.ClosesFirst result) (process : Nat)
    (begins : exchange.log <+:
      .spawned process :: (exchange.fedReports ++ exchange.endReports result)) :
    exchange.IsTold := by
  refine ⟨_, isAccount_reports closesFirst process default, begins.trans ⟨[.killed default], ?_⟩⟩
  rw [List.cons_append, List.append_assoc]

/-- At no moment is the log more than the beginning of that of a run that has stopped its child. -/
theorem isTold_of_logKept {exchange : Exchange} (kept : LogKept exchange)
    (completion : CompletionKept exchange) : exchange.IsTold := by
  have closesFirst (result : Except RunError Outcome) (decided : exchange.result? = some result) :
      exchange.ClosesFirst result := by
    rintro output exitCode rfl
    exact (completion output exitCode decided).fed
  have fails (failure : RunError) : exchange.ClosesFirst (.error failure) := nofun
  have onlySpawned (process : Nat) (log : exchange.log = [.spawned process]) :
      exchange.IsTold := by
    refine isTold_of_isPrefix (fails default) process ?_
    rw [log]
    exact List.prefix_append [Event.spawned process] _
  unfold LogKept at kept
  split at kept
  · exact isTold_of_isPrefix (fails default) 0 (kept.1 ▸ List.nil_prefix)
  · obtain ⟨⟨process, log⟩, _⟩ := kept
    exact onlySpawned process log
  · obtain ⟨process, log⟩ := kept
    refine isTold_of_isPrefix (fails default) process ?_
    rw [log]
    exact List.prefix_append (.spawned process :: exchange.fedReports) _
  · rename_i result phase
    obtain ⟨process, log⟩ := kept
    exact isTold_of_isPrefix (closesFirst result (by rw [result?, phase])) process
      (log ▸ List.prefix_rfl)
  · rename_i result phase
    obtain ⟨process, log⟩ := kept
    exact isTold_of_isPrefix (closesFirst result (by rw [result?, phase])) process
      (log ▸ List.prefix_rfl)
  · rename_i result phase
    rcases kept with ⟨_, process, log⟩ | ⟨process, status, _, log⟩
    · exact onlySpawned process log
    · exact ⟨_, isAccount_reports (closesFirst result (by rw [result?, phase])) process status,
        log ▸ List.prefix_rfl⟩
  · exact kept

theorem logKept_of_same (kept : LogKept before) (phase : after.phase = before.phase)
    (events : after.events = before.events) (feed : after.feed = before.feed)
    (drain : after.drain = before.drain) (size : after.scriptSize = before.scriptSize)
    (limit : after.timeout = before.timeout)
    (reaped : ∀ status, before.child = .reaped status → after.child = .reaped status) :
    LogKept after := by
  have log : after.log = before.log := congrArg List.reverse events
  have fed : after.fedReports = before.fedReports := by
    unfold fedReports
    rw [feed, size]
  have ended : after.endReports = before.endReports := by
    unfold endReports
    rw [drain, limit]
  unfold LogKept IsTold at kept ⊢
  rw [phase, log, feed, fed, ended, size, limit]
  split at kept
  · exact kept
  · exact kept
  · exact kept
  · exact kept
  · exact kept
  · refine kept.imp_right ?_
    rintro ⟨process, status, child, told⟩
    exact ⟨process, status, reaped status child, told⟩
  · exact kept

theorem logKept_of_exchanging (process : Nat) (phase : after.phase = .exchanging)
    (log : after.log = .spawned process :: after.fedReports) : LogKept after := by
  unfold LogKept
  rw [phase]
  exact ⟨process, log⟩

/-- A step of the harness reports what the books on the log say. -/
theorem logKept_moves {move : Move} (kept : LogKept before) (completion : CompletionKept before)
    (moves : Moves before move after) : LogKept after := by
  have told := isTold_of_logKept kept completion
  unfold LogKept at kept
  cases moves with
  | announce process phase =>
    rw [phase] at kept
    obtain ⟨silent, writing⟩ := kept
    refine ⟨⟨process, (log_report _ _).trans ?_⟩, writing⟩
    exact congrArg (· ++ _) silent
  | openOutput phase =>
    rw [phase] at kept
    obtain ⟨⟨process, log⟩, rest, feed⟩ := kept
    exact ⟨process, log.trans (congrArg (_ :: ·) (fedReports_of_writing feed).symm)⟩
  | openOutputFails failure phase =>
    rw [phase] at kept
    exact .inl ⟨⟨failure, rfl⟩, kept.1⟩
  | write count rest phase feed =>
    rw [phase] at kept
    obtain ⟨process, log⟩ := kept
    rw [fedReports_of_writing feed] at log
    exact logKept_of_exchanging process phase log
  | abandonInput rest phase feed =>
    rw [phase] at kept
    obtain ⟨process, log⟩ := kept
    rw [fedReports_of_writing feed] at log
    refine logKept_of_exchanging process phase ((log_report _ _).trans ?_)
    show (before.report .inputAbandoned).log ++ [.inputClosed before.scriptSize] = _
    rw [log_report, log]
    rfl
  | closeInput rest phase feed =>
    rw [phase] at kept
    obtain ⟨process, log⟩ := kept
    rw [fedReports_of_writing feed] at log
    refine logKept_of_exchanging process phase ((log_report _ _).trans ?_)
    exact congrArg (· ++ _) log
  | read count phase | readEnd phase =>
    rw [phase] at kept
    obtain ⟨process, log⟩ := kept
    exact logKept_of_exchanging process phase log
  | writeFails _ _ phase | readFails _ phase | waitFails _ _ phase =>
    rw [phase] at kept
    obtain ⟨process, log⟩ := kept
    exact ⟨process, log.trans (congrArg (_ :: ·) (List.append_nil _).symm)⟩
  | reap _ _ phase | expire phase =>
    rw [phase] at kept
    obtain ⟨process, log⟩ := kept
    exact ⟨process, (log_report _ _).trans (congrArg (· ++ _) log)⟩
  | kill result phase =>
    rw [phase] at kept
    exact kept
  | bury result status phase =>
    rw [phase] at kept
    obtain ⟨process, log⟩ := kept
    refine .inr ⟨process, status, rfl, (log_report _ _).trans ?_⟩
    refine (congrArg (· ++ _) log).trans (congrArg (_ :: ·) ?_)
    exact List.append_assoc _ _ _
  | dropOpen | dropDecided | dropStopping => exact told

/-- A step on the other side reports nothing. -/
theorem logKept_does {deed : Deed} (kept : LogKept before) (does : Does before deed after) :
    LogKept after := by
  cases does with
  | exit status child =>
    refine logKept_of_same kept rfl rfl rfl rfl rfl rfl fun other reaped => ?_
    cases child.symm.trans reaped
  | read | write | shareInput | shareOutput | closeInput | closeOutput =>
    exact logKept_of_same kept rfl rfl rfl rfl rfl rfl fun _ => id

theorem logKept_play
    (played : (start executable script timeout inputCapacity outputCapacity).play? actions =
      some reached) :
    LogKept reached := by
  induction actions using List.reverseRecOn generalizing reached with
  | nil =>
    cases played
    exact ⟨rfl, _, rfl⟩
  | append_singleton earlier action inductionHypothesis =>
    obtain ⟨before, playedBefore, acted⟩ := (play?_concat_eq_some_iff earlier action).mp played
    have kept := inductionHypothesis playedBefore
    cases action with
    | harness move =>
      exact logKept_moves kept (completionKept_play playedBefore) (moves_of_move? acted)
    | target deed => exact logKept_does kept (deed?_eq_some_iff.mp acted)

/-! ### What an exchange is about -/

/-- The executable, the timeout and the size of the script stay what they are. -/
structure IsSameJob (before after : Exchange) : Prop where
  executable : after.executable = before.executable
  timeout : after.timeout = before.timeout
  size : after.scriptSize = before.scriptSize

theorem isSameJob_act (acted : before.act? action = some after) : IsSameJob before after := by
  cases action with
  | harness move => cases moves_of_move? acted <;> exact ⟨rfl, rfl, rfl⟩
  | target deed => cases deed?_eq_some_iff.mp acted <;> exact ⟨rfl, rfl, rfl⟩

theorem isSameJob_play (played : before.play? actions = some reached) :
    IsSameJob before reached := by
  refine play?_induction (motive := fun _ reached => IsSameJob before reached) ?_ ?_ played
  · exact ⟨rfl, rfl, rfl⟩
  intro earlier middle action after same acted
  have now := isSameJob_act acted
  exact ⟨now.executable.trans same.executable, now.timeout.trans same.timeout,
    now.size.trans same.size⟩

/-- An error that an exchange decides on is one of the script, of the output, or of the child. -/
theorem error_of_isDecidedOn {failure : RunError}
    (decidedOn : IsDecidedOn before actions reached (.error failure)) :
    (∃ cause, failure = .input cause) ∨ (∃ cause, failure = .output cause) ∨
      ∃ cause, failure = .wait before.executable cause := by
  obtain ⟨earlier, move, later, undecided, decided, _, played, phase, moved, fails, _⟩ := decidedOn
  have same := (isSameJob_play played).executable
  cases moves_of_move? moved with
  | writeFails cause =>
    cases fails
    exact .inl ⟨cause, rfl⟩
  | readFails cause =>
    cases fails
    exact .inr (.inl ⟨cause, rfl⟩)
  | waitFails cause =>
    cases fails
    exact .inr (.inr ⟨cause, same ▸ rfl⟩)
  | write | abandonInput | closeInput | read | readEnd => cases phase.symm.trans fails
  | announce | openOutput | openOutputFails | reap | expire | kill | bury | dropOpen | dropDecided
  | dropStopping => cases fails

end Exchange

/-! ### The log of a harness -/

theorem Verdict.passed_ofOutcome_iff (outcome : Outcome) :
    (Verdict.ofOutcome outcome).passed = true ↔ ∃ output, outcome = .completed output 0 := by
  cases outcome with
  | timedOut => exact iff_of_false nofun nofun
  | completed output exitCode =>
    unfold Verdict.ofOutcome
    dsimp only
    split
    · rename_i zero
      exact iff_of_true rfl ⟨output, by rw [zero]⟩
    · rename_i nonzero
      refine iff_of_false nofun ?_
      rintro ⟨_, same⟩
      cases same
      exact nonzero rfl

namespace Harness

open Exchange (Action accepted written)

/-- Whether the parts of the log of a run say what happened in it: how the script was fed, how the
exchange came to its end, how the child ended, and what the verdict is. -/
structure Tells (harness : Harness) (actions : List Action) (reached : Exchange)
    (result : Except RunError Outcome) (fed ended : List Event) (status : ExitStatus)
    (finished : List Event) : Prop where
  fed_cases :
    (fed = [] ∧ ∃ rest, reached.feed = .writing rest) ∨
    (fed = [.inputClosed harness.job.script.length] ∧
      accepted actions = harness.job.script.length) ∨
    (fed = [.inputAbandoned, .inputClosed harness.job.script.length] ∧
      accepted actions < harness.job.script.length ∧ reached.input.broken = true)
  exited_iff : (∃ exitCode outputBytes, ended = [.exited exitCode outputBytes]) ↔
    ∃ output exitCode, result = .ok (.completed output exitCode)
  timedOut_iff : ended = [.timedOut harness.timeout] ↔ result = .ok .timedOut
  silent_iff : ended = [] ↔ ∃ failure, result = .error failure ∧
    ((∃ cause, failure = .input cause) ∨ (∃ cause, failure = .output cause) ∨
      ∃ cause, failure = .wait harness.executable cause)
  completed : ∀ output exitCode, result = .ok (.completed output exitCode) →
    fed ≠ [] ∧ ended = [.exited exitCode (written actions).length] ∧
      output = Text.decode (written actions) ∧ exitCode = status.code
  gone : reached.child = .reaped status
  finished_iff : ∀ passed, finished = [.runFinished passed] ↔
    ∃ verdict, judge result = .ok verdict ∧ verdict.passed = passed
  unfinished_iff : finished = [] ↔ ∃ failure, judge result = .error failure
  passed_iff : finished = [.runFinished true] ↔ ∃ outputBytes, ended = [.exited 0 outputBytes]

/-- What is reported of the verdict on a result. -/
def finishReports (result : Except RunError Outcome) : List Event :=
  match judge result with
  | .ok verdict => [.runFinished verdict.passed]
  | .error _ => []

variable {harness : Harness} {inputCapacity outputCapacity : Nat} {actions : List Action}
variable {reached : Exchange} {result : Except RunError Outcome}

theorem fedReports_tells
    (played : (harness.opened inputCapacity outputCapacity).play? actions = some reached) :
    (reached.fedReports = [] ∧ ∃ rest, reached.feed = .writing rest) ∨
    (reached.fedReports = [.inputClosed harness.job.script.length] ∧
      accepted actions = harness.job.script.length) ∨
    (reached.fedReports = [.inputAbandoned, .inputClosed harness.job.script.length] ∧
      accepted actions < harness.job.script.length ∧ reached.input.broken = true) := by
  have size : reached.scriptSize = harness.job.script.length := (Exchange.isSameJob_play played).size
  have kept := Exchange.scriptKept_play played
  cases feed : reached.feed with
  | writing rest => exact .inl ⟨Exchange.fedReports_of_writing feed, rest, rfl⟩
  | closed early =>
    rw [Exchange.ScriptKept, feed] at kept
    rw [Exchange.fedReports_of_closed feed, size]
    cases early with
    | false => exact .inr (.inl ⟨rfl, kept⟩)
    | true => exact .inr (.inr ⟨rfl, kept⟩)

theorem finishReports_eq_finished_iff {passed : Bool} :
    finishReports result = [.runFinished passed] ↔
      ∃ verdict, judge result = .ok verdict ∧ verdict.passed = passed := by
  unfold finishReports
  cases judge result <;> simp

theorem finishReports_eq_nil_iff :
    finishReports result = [] ↔ ∃ failure, judge result = .error failure := by
  unfold finishReports
  cases judge result <;> simp

/-- The verdict is a pass if and only if an exit with code 0 was reported. -/
theorem finishReports_eq_passed_iff {exchange : Exchange} :
    finishReports result = [.runFinished true] ↔
      ∃ outputBytes, exchange.endReports result = [.exited 0 outputBytes] := by
  rw [finishReports_eq_finished_iff]
  match result with
  | .ok (.completed _ _) | .ok .timedOut | .error _ =>
    simp [judge, Exchange.endReports, Verdict.passed_ofOutcome_iff]

/-- What a completed run has collected is all that was written as output. -/
theorem collected_eq_written {output : String} {exitCode : Int}
    (played : (harness.opened inputCapacity outputCapacity).play? actions = some reached)
    (completes : reached.Completes output exitCode) :
    reached.drain.collected = written actions := by
  rw [← Exchange.collected_append_held played,
    (Exchange.endIsFinal_play played completes.drained).1, List.append_nil]

/-- The log of a run that returns a result of the exchange or of the deadline tells what
happened. -/
theorem tells_of_returned
    (played : (harness.opened inputCapacity outputCapacity).play? actions = some reached)
    (returned : reached.phase = .returned result)
    (setUp : ∀ failure, result ≠ .error (.outputPipe failure)) :
    ∃ process fed ended status,
      reached.log = .spawned process :: (fed ++ (ended ++ [.killed status])) ∧
      harness.Tells actions reached result fed ended status (finishReports result) := by
  have decided : reached.result? = some result := by rw [Exchange.result?, returned]
  have limit : reached.timeout = harness.timeout := (Exchange.isSameJob_play played).timeout
  obtain ⟨process, status, child, log⟩ : ∃ process status, reached.child = .reaped status ∧
      reached.log = .spawned process ::
        (reached.fedReports ++ (reached.endReports result ++ [.killed status])) := by
    have kept := Exchange.logKept_play played
    rw [Exchange.LogKept, returned] at kept
    refine kept.resolve_left ?_
    rintro ⟨⟨failure, same⟩, _⟩
    exact setUp failure same
  refine ⟨process, reached.fedReports, reached.endReports result, status, log, ?_⟩
  refine ⟨fedReports_tells played, Exchange.endReports_eq_exited_iff,
    limit ▸ Exchange.endReports_eq_timedOut_iff, ?_, ?_, child,
    fun _ => finishReports_eq_finished_iff, finishReports_eq_nil_iff, finishReports_eq_passed_iff⟩
  · rw [Exchange.endReports_eq_nil_iff]
    constructor
    · rintro ⟨failure, rfl⟩
      refine ⟨failure, rfl, Exchange.error_of_isDecidedOn
        ((Exchange.isDecidedOn_of_result? rfl played decided).resolve_right ?_)⟩
      rintro ⟨other, failed⟩
      exact setUp other (Phase.returned.inj (returned.symm.trans failed))
    · rintro ⟨failure, failed, _⟩
      exact ⟨failure, failed⟩
  · rintro output exitCode rfl
    have completes := Exchange.completionKept_play played output exitCode decided
    have collected := collected_eq_written played completes
    obtain ⟨early, feed⟩ := completes.fed
    obtain ⟨known, reaped, code⟩ := completes.reaped
    cases child.symm.trans reaped
    refine ⟨Exchange.fedReports_ne_nil feed, ?_, collected ▸ completes.decoded, code⟩
    rw [Exchange.endReports, collected]

/-- The log of a harness tells the truth about its run. A run that was never spawned reports
nothing and has no verdict. From the spawn on, at any moment, even if the run is dropped, what was
reported is the beginning of the events of a run that has stopped its child. A run that returns,
other than because its end of the output could not be set up, reports in order: the child; the feed;
how the exchange ended; that the child is gone; and the verdict, if there is one. Each of these says
what happened and agrees with what is returned. -/
theorem log_tells_the_run {World : Type} (harness : Harness) (runner : Runner World)
    (world : World) :
    (∀ hindrance, (runner harness.job world).1 = .unstarted harness.job hindrance →
      (harness.run runner world).2.1 = [] ∧
        ∃ failure, (harness.run runner world).1 = .error failure) ∧
    ∀ (inputCapacity outputCapacity : Nat) (actions : List Action) (reached : Exchange),
      (harness.opened inputCapacity outputCapacity).play? actions = some reached →
      (∃ account, Log.IsAccount harness.job.script.length harness.timeout account ∧
        reached.log <+: account) ∧
      ∀ result, reached.phase = .returned result →
        (∀ failure, result ≠ .error (.outputPipe failure)) →
        (runner harness.job world).1 = ⟨result, reached.log⟩ →
        (harness.run runner world).1 = judge result ∧
        ∃ process fed ended status finished,
          (harness.run runner world).2.1 =
            (.spawned process :: (fed ++ (ended ++ .killed status :: finished))).map
              (fun event => ⟨some harness.span, event⟩) ∧
          harness.Tells actions reached result fed ended status finished := by
  refine ⟨fun hindrance unstarted => ?_, ?_⟩
  · show harness.records (runner harness.job world).1 = [] ∧
      ∃ failure, judge (runner harness.job world).1.result = .error failure
    rw [unstarted]
    exact ⟨rfl, _, rfl⟩
  intro inputCapacity outputCapacity actions reached played
  have same := Exchange.isSameJob_play played
  have told := Exchange.isTold_of_logKept (Exchange.logKept_play played)
    (Exchange.completionKept_play played)
  rw [Exchange.IsTold, same.size, same.timeout] at told
  refine ⟨told, fun result returned setUp ran => ?_⟩
  obtain ⟨process, fed, ended, status, log, tells⟩ := tells_of_returned played returned setUp
  refine ⟨?_, process, fed, ended, status, finishReports result, ?_, tells⟩
  · show judge (runner harness.job world).1.result = judge result
    rw [ran]
  · show harness.records (runner harness.job world).1 = _
    rw [ran]
    show (reached.log ++ finishReports result).map _ = _
    rw [log, List.cons_append, List.append_assoc, List.append_assoc, List.singleton_append]

/-- A target reads nothing and closes its input. It writes one character by its two streams and
exits. -/
def unreadRun : List Action :=
  [.harness (.announce 7), .harness .openOutput, .harness (.write 20), .target .closeInput,
    .target (.write .standardOutput (.ofBytes [0xC3])), .harness .abandonInput,
    .target (.write .standardError (.ofBytes [0xA9])), .harness (.read 2), .target .closeOutput,
    .target .closeOutput, .target (.exit (.exited 0)), .harness .readEnd, .harness .reap,
    .harness .kill, .harness .bury]

theorem log_tells_the_run_unread :
    ∃ reached process fed ended status finished,
      (twoCases.opened 20 2).play? unreadRun = some reached ∧
      reached.phase = .returned (.ok (.completed "é" 0)) ∧
      (twoCases.run (fun _ world => (⟨.ok (.completed "é" 0), reached.log⟩, world)) ()).2.1 =
        (.spawned process :: (fed ++ (ended ++ .killed status :: finished))).map
          (fun event => ⟨some twoCases.span, event⟩) ∧
      fed = [.inputAbandoned, .inputClosed 44] ∧ ended = [.exited 0 2] ∧ status = .exited 0 ∧
      finished = [.runFinished true] ∧
      (twoCases.run (fun job world =>
        (.unstarted job (.executable (.system .noEntry)), world)) ()).2.1 = [] := by
  obtain ⟨reached, played, returned, early, child⟩ :
      ∃ reached, (twoCases.opened 20 2).play? unreadRun = some reached ∧
        reached.phase = .returned (.ok (.completed "é" 0)) ∧ reached.feed = .closed true ∧
        reached.child = .reaped (.exited 0) :=
    ⟨_, rfl, rfl, rfl, rfl⟩
  obtain ⟨_, process, fed, ended, status, finished, records, tells⟩ :=
    ((log_tells_the_run twoCases
      (fun _ world => (⟨.ok (.completed "é" 0), reached.log⟩, world)) ()).2 20 2 unreadRun reached
        played).2 _ returned nofun rfl
  have abandoned : fed = [.inputAbandoned, .inputClosed 44] := by
    rcases tells.fed_cases with ⟨_, rest, writing⟩ | ⟨_, whole⟩ | ⟨abandoned, _⟩
    · cases early.symm.trans writing
    · cases whole
    · exact abandoned
  have exited : ended = [.exited 0 2] := (tells.completed "é" 0 rfl).2.1
  have silent := (log_tells_the_run twoCases
    (fun job world => (.unstarted job (.executable (.system .noEntry)), world)) ()).1 _ rfl
  exact ⟨reached, process, fed, ended, status, finished, played, returned, records, abandoned,
    exited, Child.reaped.inj (tells.gone.symm.trans child), tells.passed_iff.mpr ⟨2, exited⟩,
    silent.1⟩

end Harness

end ShellSmoke
