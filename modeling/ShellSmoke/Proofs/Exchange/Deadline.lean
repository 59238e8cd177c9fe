/-
This file proves how a deadline classifies a run. At each look the run is either decided by what the
harness finds, or the harness asks for the time; so the run times out at the first look that finds
the exchange incomplete when the time is up, and completes at the first look that finds it complete,
even if the time is up at that very look. What was decided stays so until the run returns.
-/

import ShellSmoke.Exchange.Schedule
import ShellSmoke.Exchange.Target
import ShellSmoke.Proofs.Exchange.Conservation

namespace ShellSmoke

theorem Verdict.ofOutcome_eq_timeout_iff (outcome : Outcome) :
    Verdict.ofOutcome outcome = .fail .timeout ↔ outcome = .timedOut := by
  cases outcome with
  | timedOut => exact iff_of_true rfl rfl
  | completed output exitCode =>
    unfold Verdict.ofOutcome
    dsimp only
    split <;> exact iff_of_false nofun nofun

namespace Exchange

variable {executable script : Bytes} {timeout : Duration} {inputCapacity outputCapacity : Nat}
variable {before after found opened reached : Exchange} {actions : List Action}
variable {schedule earlier : List Look} {look : Look}

/-! ### The child of a run without a result -/

/-- Whether the harness has not learned yet how the child ended, if the run has no result. -/
def ReapedLast (exchange : Exchange) : Prop :=
  exchange.phase.IsOpen → ∀ status, exchange.child ≠ .reaped status

theorem reapedLast_act {action : Action} (kept : ReapedLast before)
    (acted : before.act? action = some after) : ReapedLast after := by
  intro isOpen
  cases action with
  | harness move =>
    cases moves_of_move? acted with
    | announce _ phase | openOutput phase => exact kept (phase ▸ trivial)
    | write | abandonInput | closeInput | read | readEnd => exact kept isOpen
    | openOutputFails | writeFails | readFails | reap | waitFails | expire | kill | bury
    | dropOpen | dropDecided | dropStopping => cases isOpen
  | target deed =>
    cases deed?_eq_some_iff.mp acted with
    | exit status child => exact nofun
    | read | write | shareInput | shareOutput | closeInput | closeOutput => exact kept isOpen

theorem reapedLast_play
    (played : (start executable script timeout inputCapacity outputCapacity).play? actions =
      some reached) :
    ReapedLast reached := by
  refine play?_induction (motive := fun _ reached => ReapedLast reached) ?_ ?_ played
  · exact fun _ => nofun
  · exact fun _ before action after kept acted => reapedLast_act kept acted

/-! ### One look -/

/-- Whether nothing is decided, and the harness has not learned how the child ended. -/
structure IsPending (exchange : Exchange) : Prop where
  phase : exchange.phase = .exchanging
  notReaped : ∀ status, exchange.child ≠ .reaped status

/-- Whether it is decided that the run completes, and the exchange is complete. -/
structure IsCompleted (exchange : Exchange) : Prop extends exchange.IsComplete where
  phase : ∃ output exitCode, exchange.phase = .decided (.ok (.completed output exitCode))

theorem IsPending.not_isComplete (pending : before.IsPending) : ¬ before.IsComplete := by
  intro complete
  obtain ⟨status, reaped⟩ := complete.reaped
  exact pending.notReaped status reaped

/-- A step of a look leaves the run undecided or completes it. -/
theorem isPending_or_isCompleted_act {action : Action} (looking : action.isLooking = true)
    (kept : before.IsPending ∨ before.IsCompleted) (acted : before.act? action = some after) :
    after.IsPending ∨ after.IsCompleted := by
  cases action with
  | harness move =>
    have pending (phase : before.phase = .exchanging) : before.IsPending := by
      refine kept.resolve_right fun completed => ?_
      obtain ⟨output, exitCode, decided⟩ := completed.phase
      cases phase.symm.trans decided
    cases moves_of_move? acted with
    | write _ _ phase | abandonInput _ phase | closeInput _ phase | read _ phase | readEnd phase =>
      exact .inl ⟨phase, (pending phase).notReaped⟩
    | reap early status phase feed ended child =>
      exact .inr ⟨⟨⟨early, feed⟩, ended, ⟨status, rfl⟩⟩, ⟨_, _, rfl⟩⟩
    | announce | openOutput | openOutputFails | writeFails | readFails | waitFails | expire | kill
    | bury | dropOpen | dropDecided | dropStopping => cases looking
  | target deed =>
    cases deed?_eq_some_iff.mp acted with
    | exit status child =>
      refine kept.imp (fun pending => ⟨pending.phase, nofun⟩) fun completed => ?_
      obtain ⟨other, reaped⟩ := completed.reaped
      cases child.symm.trans reaped
    | read | write | shareInput | shareOutput | closeInput | closeOutput =>
      exact kept.imp (fun pending => ⟨pending.phase, pending.notReaped⟩)
        fun completed => ⟨⟨completed.fed, completed.drained, completed.reaped⟩, completed.phase⟩

theorem find?_eq_some_iff :
    before.find? look = some found ↔
      before.phase = .exchanging ∧ (∀ action ∈ look.actions, action.isLooking = true) ∧
        before.play? look.actions = some found := by
  unfold find?
  cases phase : before.phase with
  | exchanging =>
    dsimp only
    rw [Option.ite_none_right_eq_some, List.all_eq_true, eq_self_iff_true, true_and]
  | spawned | opening | decided | stopping | returned | dropped =>
    exact iff_of_false nofun fun finds => nomatch finds.1

/-- What the harness finds leaves the run undecided or completes it. -/
theorem isPending_or_isCompleted_of_find? (pending : before.IsPending)
    (finds : before.find? look = some found) : found.IsPending ∨ found.IsCompleted := by
  obtain ⟨_, looking, played⟩ := find?_eq_some_iff.mp finds
  refine play?_induction (motive := fun actions found =>
    (∀ action ∈ actions, action.isLooking = true) → found.IsPending ∨ found.IsCompleted)
    (fun _ => .inl pending) ?_ played looking
  intro earlier before action after kept acted looking
  exact isPending_or_isCompleted_act (looking action (List.mem_append_right _ (.head _)))
    (kept fun other member => looking other (List.mem_append_left _ member)) acted

theorem look?_of_isCompleted (finds : before.find? look = some found)
    (completed : found.IsCompleted) : before.look? look = some found := by
  obtain ⟨output, exitCode, decided⟩ := completed.phase
  rw [look?, finds, Option.bind_some, decided]

theorem look?_of_isPending (finds : before.find? look = some found) (pending : found.IsPending) :
    before.look? look =
      if look.elapsed then some ((found.report (.timedOut found.timeout)).decide (.ok .timedOut))
      else some found := by
  rw [look?, finds, Option.bind_some, pending.phase]
  dsimp only
  rw [move?_of_moves (.expire pending.phase)]

/-- A look completes the run, or leaves it undecided in time, or lets it time out. -/
theorem look?_cases (pending : before.IsPending) (looked : before.look? look = some after) :
    ∃ found, before.find? look = some found ∧
      ((found.IsCompleted ∧ after = found) ∨
        (found.IsPending ∧ look.elapsed = false ∧ after = found) ∨
        (found.IsPending ∧ look.elapsed = true ∧
          after = (found.report (.timedOut found.timeout)).decide (.ok .timedOut))) := by
  obtain ⟨found, finds, _⟩ := Option.bind_eq_some_iff.mp looked
  refine ⟨found, finds, ?_⟩
  rcases isPending_or_isCompleted_of_find? pending finds with undecided | completed
  · rw [look?_of_isPending finds undecided] at looked
    split at looked
    · rename_i elapsed
      exact .inr (.inr ⟨undecided, elapsed, (Option.some.inj looked).symm⟩)
    · rename_i inTime
      exact .inr (.inl ⟨undecided, eq_false_of_ne_true inTime, (Option.some.inj looked).symm⟩)
  · rw [look?_of_isCompleted finds completed] at looked
    exact .inl ⟨completed, (Option.some.inj looked).symm⟩

/-! ### A schedule of looks -/

/-- The looks of a schedule and one more are those of the schedule and that one. -/
theorem finds_concat_iff {last : Look} {middle : List Look} :
    Finds opened (schedule ++ [last]) middle look found ↔
      (middle = schedule ∧ look = last ∧
        ∃ before, opened.watch? schedule = some before ∧ before.find? last = some found) ∨
      Finds opened schedule middle look found := by
  unfold Finds
  rw [List.prefix_concat_iff, or_and_right]
  refine or_congr_left ?_
  constructor
  · rintro ⟨same, finds⟩
    obtain ⟨rfl, sameLook⟩ := List.append_inj' same rfl
    cases sameLook
    exact ⟨rfl, rfl, finds⟩
  · rintro ⟨rfl, rfl, finds⟩
    exact ⟨rfl, finds⟩

/-- Whether each look finds the exchange incomplete, and in time. -/
def StaysPending (opened : Exchange) (schedule : List Look) : Prop :=
  ∀ earlier look found, Finds opened schedule earlier look found →
    look.elapsed = false ∧ ¬ found.IsComplete

/-- How a schedule of looks can go. -/
inductive Watched (opened : Exchange) : List Look → Exchange → Prop where
  | pending {schedule : List Look} {reached : Exchange} (pending : reached.IsPending)
    (stays : StaysPending opened schedule) : Watched opened schedule reached
  | completed {earlier : List Look} {look : Look} {reached : Exchange}
    (completed : reached.IsCompleted) (stays : StaysPending opened earlier)
    (finds : Finds opened (earlier ++ [look]) earlier look reached) :
    Watched opened (earlier ++ [look]) reached
  | timedOut {earlier : List Look} {look : Look} {found reached : Exchange}
    (decided : reached.phase = .decided (.ok .timedOut)) (stays : StaysPending opened earlier)
    (finds : Finds opened (earlier ++ [look]) earlier look found) (elapsed : look.elapsed = true)
    (incomplete : ¬ found.IsComplete) : Watched opened (earlier ++ [look]) reached

/-- A schedule of looks leaves the run undecided, or its last look decides the run. -/
theorem watched_of_watch? (pending : opened.IsPending)
    (watched : opened.watch? schedule = some reached) : Watched opened schedule reached := by
  induction schedule using List.reverseRecOn generalizing reached with
  | nil =>
    cases watched
    refine .pending pending fun earlier look found finds => ?_
    cases List.append_ne_nil_of_right_ne_nil earlier (List.cons_ne_nil look [])
      (List.prefix_nil.mp finds.1)
  | append_singleton earlier last inductionHypothesis =>
    obtain ⟨before, watchedBefore, looked⟩ :=
      (foldlM_concat_eq_some_iff look? opened earlier last).mp watched
    -- A look is possible only while nothing is decided, so the looks before it decided nothing.
    have undecided : before.phase = .exchanging := by
      obtain ⟨found, finds, _⟩ := Option.bind_eq_some_iff.mp looked
      exact (find?_eq_some_iff.mp finds).1
    obtain ⟨pendingBefore, stays⟩ : before.IsPending ∧ StaysPending opened earlier := by
      cases inductionHypothesis watchedBefore with
      | pending pending stays => exact ⟨pending, stays⟩
      | completed completed =>
        obtain ⟨output, exitCode, decided⟩ := completed.phase
        cases undecided.symm.trans decided
      | timedOut decided => cases undecided.symm.trans decided
    obtain ⟨found, finds, cases⟩ := look?_cases pendingBefore looked
    have findsLast : Finds opened (earlier ++ [last]) earlier last found :=
      ⟨List.prefix_rfl, before, watchedBefore, finds⟩
    rcases cases with ⟨completed, rfl⟩ | ⟨pending, inTime, rfl⟩ | ⟨pending, elapsed, rfl⟩
    · exact .completed completed stays findsLast
    · refine .pending pending fun middle look other findsOther => ?_
      rcases finds_concat_iff.mp findsOther with ⟨_, rfl, before', watched', finds'⟩ | findsOther
      · cases watchedBefore.symm.trans watched'
        cases finds.symm.trans finds'
        exact ⟨inTime, pending.not_isComplete⟩
      · exact stays middle look other findsOther
    · exact .timedOut rfl stays findsLast elapsed pending.not_isComplete

/-- Of two looks of a schedule that the harness does not get past, neither is before the other. -/
theorem finds_eq {middle : List Look} {last : Look} {other : Exchange}
    (stays : StaysPending opened earlier)
    (findsLast : Finds opened (earlier ++ [last]) earlier last other)
    (finds : Finds opened (earlier ++ [last]) middle look found)
    (decisive : look.elapsed = true ∨ found.IsComplete) : look = last ∧ found = other := by
  rcases finds_concat_iff.mp finds with ⟨_, rfl, before, watched, finds⟩ | finds
  · obtain ⟨_, before', watched', finds'⟩ := findsLast
    cases watched.symm.trans watched'
    exact ⟨rfl, Option.some.inj (finds.symm.trans finds')⟩
  · obtain ⟨inTime, incomplete⟩ := stays middle look found finds
    rcases decisive with elapsed | complete
    · cases inTime.symm.trans elapsed
    · exact absurd complete incomplete

/-! ### After the decision -/

/-- A step after the decision changes nothing about it, unless the run is dropped. -/
theorem result?_act {action : Action} {result : Except RunError Outcome}
    (decided : before.result? = some result) (acted : before.act? action = some after) :
    after.result? = some result ∨ after.phase = .dropped := by
  cases action with
  | harness move =>
    cases moves_of_move? acted with
    | kill other phase | bury other _ phase =>
      rw [result?, phase] at decided
      exact .inl decided
    | dropOpen | dropDecided | dropStopping => exact .inr rfl
    | announce _ phase | openOutput phase | openOutputFails _ phase | write _ _ phase
    | abandonInput _ phase | closeInput _ phase | writeFails _ _ phase | read _ phase
    | readEnd phase | readFails _ phase | reap _ _ phase | waitFails _ _ phase | expire phase =>
      have none : before.result? = none := result?_of_isOpen (phase ▸ trivial)
      cases none.symm.trans decided
  | target deed =>
    cases deed?_eq_some_iff.mp acted with
    | read | write | shareInput | shareOutput | closeInput | closeOutput | exit =>
      exact .inl decided

/-- Nothing happens in a run that was dropped but on the other side. -/
theorem dropped_act {action : Action} (dropped : before.phase = .dropped)
    (acted : before.act? action = some after) : after.phase = .dropped := by
  cases action with
  | harness move =>
    simp only [act?, move?, dropped, reduceCtorEq] at acted
  | target deed =>
    cases deed?_eq_some_iff.mp acted with
    | read | write | shareInput | shareOutput | closeInput | closeOutput | exit => exact dropped

/-- What is decided is what the run returns. -/
theorem result_eq_of_returned {result other : Except RunError Outcome}
    (decided : before.result? = some result) (played : before.play? actions = some reached)
    (returned : reached.phase = .returned other) : other = result := by
  have kept : reached.result? = some result ∨ reached.phase = .dropped := by
    refine play?_induction (motive := fun _ reached =>
      reached.result? = some result ∨ reached.phase = .dropped) (.inl decided) ?_ played
    rintro _ before action after (decided | dropped) acted
    · exact result?_act decided acted
    · exact .inr (dropped_act dropped acted)
  rcases kept with decided | dropped
  · rw [result?, returned] at decided
    exact Option.some.inj decided
  · cases returned.symm.trans dropped

/-- Whether a run cannot complete any more: its result is another, or it was dropped. -/
def IsSpoiled (exchange : Exchange) : Prop :=
  (∃ result, exchange.result? = some result ∧
    ∀ output exitCode, result ≠ .ok (.completed output exitCode)) ∨ exchange.phase = .dropped

theorem not_isSpoiled_of_isOpen (isOpen : before.phase.IsOpen) : ¬ before.IsSpoiled := by
  rintro (⟨result, decided, _⟩ | dropped)
  · cases (result?_of_isOpen isOpen).symm.trans decided
  · rw [dropped] at isOpen
    cases isOpen

theorem isSpoiled_act {action : Action} (spoiled : before.IsSpoiled)
    (acted : before.act? action = some after) : after.IsSpoiled := by
  rcases spoiled with ⟨result, decided, other⟩ | dropped
  · exact (result?_act decided acted).imp_left fun decided => ⟨result, decided, other⟩
  · exact .inr (dropped_act dropped acted)

/-- A step of the harness that is a failure or forced on it from outside spoils the run. -/
theorem isSpoiled_of_moves {move : Move} (irregular : Encounter.isRegular move = false)
    (moves : Moves before move after) : after.IsSpoiled := by
  cases moves with
  | openOutputFails | writeFails | readFails | waitFails | expire => exact .inl ⟨_, rfl, nofun⟩
  | dropOpen | dropDecided | dropStopping => exact .inr rfl
  | announce | openOutput | write | abandonInput | closeInput | read | readEnd | reap | kill
  | bury =>
    cases irregular

/-- What is decided the run returns once the child, which the harness kills, is gone. -/
theorem exists_returned {result : Except RunError Outcome}
    (decided : reached.phase = .decided result) :
    ∃ stopping last, reached.play? stopping = some last ∧ last.phase = .returned result := by
  obtain ⟨stopped, killed, stopping, sameChild⟩ : ∃ stopped,
      reached.act? (.harness .kill) = some stopped ∧ stopped.phase = .stopping result ∧
        stopped.child = reached.child :=
    ⟨_, move?_of_moves (.kill result decided), rfl, rfl⟩
  have buries {gone : Exchange} {status : ExitStatus} (stopping : gone.phase = .stopping result)
      (child : gone.child = .ended status ∨ gone.child = .reaped status) :
      ∃ last, gone.play? [.harness .bury] = some last ∧ last.phase = .returned result := by
    have buried : gone.act? (.harness .bury) = some _ :=
      move?_of_moves (.bury result status stopping child)
    exact ⟨_, play?_cons buried rfl, rfl⟩
  cases child : reached.child with
  | running =>
    obtain ⟨gone, exited, stillStopping, ended⟩ : ∃ gone,
        stopped.act? (.target (.exit (.signalled .kill))) = some gone ∧
          gone.phase = .stopping result ∧ gone.child = .ended (.signalled .kill) :=
      ⟨_, deed?_eq_some_iff.mpr (.exit (.signalled .kill) (sameChild.trans child)), stopping, rfl⟩
    obtain ⟨last, played, returned⟩ := buries stillStopping (.inl ended)
    exact ⟨_, last, play?_cons killed (play?_cons exited played), returned⟩
  | ended status =>
    obtain ⟨last, played, returned⟩ := buries stopping (.inl (sameChild.trans child))
    exact ⟨_, last, play?_cons killed played, returned⟩
  | reaped status =>
    obtain ⟨last, played, returned⟩ := buries stopping (.inr (sameChild.trans child))
    exact ⟨_, last, play?_cons killed played, returned⟩

/-! ### Runs under a deadline -/

theorem play?_of_look? (looked : before.look? look = some after)
    (undecided : after.phase = .exchanging) : before.play? look.actions = some after := by
  obtain ⟨found, finds, asked⟩ := Option.bind_eq_some_iff.mp looked
  have played := (find?_eq_some_iff.mp finds).2.2
  split at asked
  · split at asked
    · cases moves_of_move? asked
      cases undecided
    · exact played.trans asked
  · exact played.trans asked

/-- Looks that decide nothing are an execution. -/
theorem play?_of_watch? (watched : opened.watch? schedule = some reached)
    (undecided : reached.phase = .exchanging) :
    opened.play? (schedule.flatMap Look.actions) = some reached := by
  induction schedule using List.reverseRecOn generalizing reached with
  | nil => exact watched
  | append_singleton earlier last inductionHypothesis =>
    obtain ⟨before, watchedBefore, looked⟩ :=
      (foldlM_concat_eq_some_iff look? opened earlier last).mp watched
    obtain ⟨found, finds, _⟩ := Option.bind_eq_some_iff.mp looked
    have played := inductionHypothesis watchedBefore (find?_eq_some_iff.mp finds).1
    rw [List.flatMap_append, List.flatMap_singleton, play?_append, played]
    exact play?_of_look? looked undecided

/-- What is found at a look is what an execution leads to. -/
theorem play?_of_finds (finds : Finds opened schedule earlier look found) :
    opened.play? (earlier.flatMap Look.actions ++ look.actions) = some found := by
  obtain ⟨_, before, watched, finds⟩ := finds
  obtain ⟨undecided, _, played⟩ := find?_eq_some_iff.mp finds
  rw [play?_append, play?_of_watch? watched undecided]
  exact played

/-- The exchange is not complete as long as a descriptor for writing output is open, the child runs,
or some of the script is still to be fed. -/
theorem not_isComplete_of_unfinished
    (played : (start executable script timeout inputCapacity outputCapacity).play? actions =
      some found)
    (unfinished : found.output.writers ≠ 0 ∨ found.child = .running ∨
      ∃ rest, found.feed = .writing rest) : ¬ found.IsComplete := by
  intro complete
  rcases unfinished with opened | running | ⟨rest, writing⟩
  · exact opened (endIsFinal_play played complete.drained).2
  · obtain ⟨status, reaped⟩ := complete.reaped
    cases running.symm.trans reaped
  · obtain ⟨early, closed⟩ := complete.fed
    cases writing.symm.trans closed

theorem not_runsLate_of_staysPending (stays : StaysPending opened schedule) :
    ¬ RunsLate opened schedule := by
  rintro ⟨earlier, look, found, finds, elapsed, _⟩
  cases (stays earlier look found finds).1.symm.trans elapsed

/-- A run times out if and only if it comes to a look at which the time is up and the exchange is
not complete. -/
theorem timedOut_iff_runsLate (watched : Watched opened schedule reached) :
    reached.result? = some (.ok .timedOut) ↔ RunsLate opened schedule := by
  cases watched with
  | pending pending stays =>
    refine iff_of_false (fun timedOut => ?_) (not_runsLate_of_staysPending stays)
    have none : reached.result? = none := result?_of_isOpen (pending.phase ▸ trivial)
    cases none.symm.trans timedOut
  | completed completed stays findsLast =>
    obtain ⟨output, exitCode, decided⟩ := completed.phase
    refine iff_of_false (fun timedOut => ?_) ?_
    · rw [result?, decided] at timedOut
      cases timedOut
    rintro ⟨middle, look, found, finds, elapsed, incomplete⟩
    obtain ⟨rfl, rfl⟩ := finds_eq stays findsLast finds (.inl elapsed)
    exact incomplete completed.toIsComplete
  | timedOut decided stays finds elapsed incomplete =>
    exact iff_of_true (by rw [result?, decided]) ⟨_, _, _, finds, elapsed, incomplete⟩

/-- A run completes if and only if it comes to a look at which the exchange is complete, and does
not run late before. -/
theorem completed_iff_finds (watched : Watched opened schedule reached) :
    (∃ output exitCode, reached.result? = some (.ok (.completed output exitCode))) ↔
      ∃ earlier look found, Finds opened schedule earlier look found ∧ found.IsComplete ∧
        ¬ RunsLate opened earlier := by
  cases watched with
  | pending pending stays =>
    have none : reached.result? = none := result?_of_isOpen (pending.phase ▸ trivial)
    refine iff_of_false ?_ ?_
    · rintro ⟨output, exitCode, some⟩
      cases none.symm.trans some
    rintro ⟨earlier, look, found, finds, complete, _⟩
    exact (stays earlier look found finds).2 complete
  | completed completed stays finds =>
    obtain ⟨output, exitCode, decided⟩ := completed.phase
    exact iff_of_true ⟨output, exitCode, by rw [result?, decided]⟩
      ⟨_, _, _, finds, completed.toIsComplete, not_runsLate_of_staysPending stays⟩
  | timedOut decided stays findsLast elapsed incomplete =>
    refine iff_of_false ?_ ?_
    · rintro ⟨output, exitCode, some⟩
      rw [result?, decided] at some
      cases some
    rintro ⟨middle, look, found, finds, complete, _⟩
    obtain ⟨rfl, rfl⟩ := finds_eq stays findsLast finds (.inr complete)
    exact incomplete complete

/-- What is decided at a look is no failure. -/
theorem decided_of_watched {result : Except RunError Outcome}
    (watched : Watched opened schedule reached) (some : reached.result? = some result) :
    reached.phase = .decided result ∧ ∃ outcome, result = .ok outcome := by
  cases watched with
  | pending pending =>
    rw [result?, pending.phase] at some
    cases some
  | completed completed =>
    obtain ⟨output, exitCode, decided⟩ := completed.phase
    rw [result?, decided] at some
    cases some
    exact ⟨decided, _, rfl⟩
  | timedOut decided =>
    rw [result?, decided] at some
    cases some
    exact ⟨decided, _, rfl⟩

/-- A run under a deadline in which nothing fails times out exactly if it comes to a look at which
the time is up and the exchange is not complete, and completes exactly if it comes to a look at
which the exchange is complete and did not run late before. A feed that is finished has fed all of
the script, or nobody reads the rest. As long as a descriptor for writing output is open when the
time is up the run times out, even if the child has ended. What is decided is no failure, is what
the run returns, and makes the verdict a timeout exactly for runs that run late; a run of which
nothing is decided goes on. -/
theorem deadline_decides
    (opens : (start executable script timeout inputCapacity outputCapacity).play? actions =
      some opened)
    (exchanging : opened.phase = .exchanging) (watched : opened.watch? schedule = some reached) :
    (reached.result? = some (.ok .timedOut) ↔ RunsLate opened schedule) ∧
    ((∃ output exitCode, reached.result? = some (.ok (.completed output exitCode))) ↔
      ∃ earlier look found, Finds opened schedule earlier look found ∧ found.IsComplete ∧
        ¬ RunsLate opened earlier) ∧
    (∀ earlier look found, Finds opened schedule earlier look found →
      (found.feed = .closed false →
        accepted (actions ++ (earlier.flatMap Look.actions ++ look.actions)) = script.length) ∧
      (found.feed = .closed true → found.input.broken = true) ∧
      (look.elapsed = true →
        found.output.writers ≠ 0 ∨ found.child = .running ∨ (∃ rest, found.feed = .writing rest) →
        reached.result? = some (.ok .timedOut))) ∧
    (reached.result? = none → reached.phase = .exchanging) ∧
    ∀ result, reached.result? = some result →
      (∃ outcome, result = .ok outcome ∧
        (Verdict.ofOutcome outcome = .fail .timeout ↔ RunsLate opened schedule)) ∧
      (∃ stopping last, reached.play? stopping = some last ∧ last.phase = .returned result) ∧
      ∀ later last other, reached.play? later = some last → last.phase = .returned other →
        other = result := by
  have pending : opened.IsPending := by
    refine ⟨exchanging, reapedLast_play opens ?_⟩
    rw [exchanging]
    trivial
  have watches := watched_of_watch? pending watched
  refine ⟨timedOut_iff_runsLate watches, completed_iff_finds watches, ?_, ?_, ?_⟩
  · intro earlier look found finds
    have played : (start executable script timeout inputCapacity outputCapacity).play?
        (actions ++ (earlier.flatMap Look.actions ++ look.actions)) = some found := by
      rw [play?_append, opens]
      exact play?_of_finds finds
    have kept := scriptKept_play played
    refine ⟨fun closed => ?_, fun closed => ?_, fun elapsed unfinished => ?_⟩
    · rw [ScriptKept, closed] at kept
      exact kept
    · rw [ScriptKept, closed] at kept
      exact kept.2
    · refine (timedOut_iff_runsLate watches).mpr ⟨earlier, look, found, finds, elapsed, ?_⟩
      exact not_isComplete_of_unfinished played unfinished
  · intro none
    cases watches with
    | pending pending => exact pending.phase
    | completed completed =>
      obtain ⟨output, exitCode, decided⟩ := completed.phase
      rw [result?, decided] at none
      cases none
    | timedOut decided =>
      rw [result?, decided] at none
      cases none
  · intro result some
    obtain ⟨decided, outcome, rfl⟩ := decided_of_watched watches some
    refine ⟨⟨outcome, rfl, ?_⟩, exists_returned decided, fun later last other played returned =>
      result_eq_of_returned some played returned⟩
    rw [Verdict.ofOutcome_eq_timeout_iff, ← timedOut_iff_runsLate watches, some]
    exact ⟨fun late => late ▸ rfl, fun late => Except.ok.inj (Option.some.inj late)⟩

/-- A run is opened, and the child leaves a process behind that can write output. -/
def opening : List Action :=
  [.harness (.announce 7), .harness .openOutput, .target .shareOutput]

/-- The child reads the script, closes its output and exits. -/
def childLeaves : List Action :=
  [.harness (.write 2), .harness .closeInput, .target (.read 2), .target .closeOutput,
    .target .closeOutput, .target (.exit (.exited 0))]

/-- The process left behind keeps the output open until the time is up. -/
def lingering : List Look := [⟨childLeaves, false⟩, ⟨[], true⟩]

/-- The process left behind closes the output just before the time is up. -/
def punctual : List Look :=
  [⟨childLeaves, false⟩, ⟨[.target .closeOutput, .harness .readEnd, .harness .reap], true⟩]

/-- A child that has exited with code 0 is reported as a timeout if the output is still open when
the time is up, and as a pass if the run is complete at the very look at which the time is up. -/
theorem deadline_decides_lingering_punctual :
    (∃ opened reached, (start [] [104, 105] ⟨1000⟩ 2 1).play? opening = some opened ∧
      opened.watch? lingering = some reached ∧ reached.child = .ended (.exited 0) ∧
      reached.result? = some (.ok .timedOut)) ∧
    ∃ opened reached, (start [] [104, 105] ⟨1000⟩ 2 1).play? opening = some opened ∧
      opened.watch? punctual = some reached ∧
      reached.result? = some (.ok (.completed "" 0)) ∧ ¬ RunsLate opened punctual := by
  constructor
  · obtain ⟨opened, found, reached, opens, exchanging, finds, writers, watched, child⟩ :
        ∃ opened found reached, (start [] [104, 105] ⟨1000⟩ 2 1).play? opening = some opened ∧
          opened.phase = .exchanging ∧
          Finds opened lingering [⟨childLeaves, false⟩] ⟨[], true⟩ found ∧
          found.output.writers = 1 ∧ opened.watch? lingering = some reached ∧
          reached.child = .ended (.exited 0) :=
      ⟨_, _, _, rfl, rfl, ⟨List.prefix_rfl, _, rfl, rfl⟩, rfl, rfl, rfl⟩
    refine ⟨opened, reached, opens, watched, child, ?_⟩
    refine ((deadline_decides opens exchanging watched).2.2.1 _ _ found finds).2.2 rfl (.inl ?_)
    rw [writers]
    exact Nat.one_ne_zero
  · obtain ⟨opened, reached, opens, exchanging, watched, result⟩ :
        ∃ opened reached, (start [] [104, 105] ⟨1000⟩ 2 1).play? opening = some opened ∧
          opened.phase = .exchanging ∧ opened.watch? punctual = some reached ∧
          reached.result? = some (.ok (.completed "" 0)) := ⟨_, _, rfl, rfl, rfl, rfl⟩
    refine ⟨opened, reached, opens, watched, result, fun late => ?_⟩
    have timedOut := (deadline_decides opens exchanging watched).1.mpr late
    cases result.symm.trans timedOut

end Exchange

end ShellSmoke
