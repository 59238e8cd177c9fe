/-
This file proves that the jobs which the modelled system carries out are runs under a deadline: each
is opened, looked at by a schedule, and stopped. Whenever the harness looks it follows its habits,
and between two looks the exchange undergoes what the processes do. When the harness stops the child
its process ends, so that the run returns what was decided. So all that is proved of executions and
of runs under a deadline, whatever the schedule and whatever happens on the other side, holds of the
jobs, whichever programs they run.
-/

import ShellSmoke.Machine.Run
import ShellSmoke.Proofs.Exchange.Deadline
import ShellSmoke.Proofs.Machine.Deeds

namespace ShellSmoke

/-! ### Habits -/

namespace Exchange

variable {before middle after : Exchange}

/-- To take a step if it is possible is an execution of that step or of none. -/
theorem exists_play?_attempt (exchange : Exchange) (move : Move) :
    ∃ actions, (∀ action ∈ actions, action = .harness move) ∧
      exchange.play? actions = some (exchange.attempt move) := by
  cases moved : exchange.move? move with
  | none =>
    refine ⟨[], nofun, ?_⟩
    rw [attempt, moved]
    rfl
  | some after =>
    refine ⟨[.harness move], fun action member => List.mem_singleton.mp member, ?_⟩
    rw [attempt, moved]
    exact play?_cons moved rfl

/-- To follow habits that are part of a look is an execution of steps of a look. -/
theorem exists_play?_habits (habits : List (Exchange → Move))
    (looking : ∀ habit ∈ habits, ∀ exchange, (Action.harness (habit exchange)).isLooking = true)
    (exchange : Exchange) :
    ∃ actions, (∀ action ∈ actions, action.isLooking = true) ∧
      exchange.play? actions =
        some (habits.foldl (fun exchange habit => exchange.attempt (habit exchange)) exchange) := by
  induction habits generalizing exchange with
  | nil => exact ⟨[], nofun, rfl⟩
  | cons habit habits inductionHypothesis =>
    obtain ⟨first, same, played⟩ := exists_play?_attempt exchange (habit exchange)
    obtain ⟨later, lookingLater, playedLater⟩ := inductionHypothesis
      (fun other member => looking other (.tail _ member)) (exchange.attempt (habit exchange))
    refine ⟨first ++ later, fun action member => ?_, ?_⟩
    · rcases List.mem_append.mp member with member | member
      · rw [same action member]
        exact looking habit (.head _) exchange
      · exact lookingLater action member
    · rw [play?_append, played]
      exact playedLater

theorem exists_play?_poll (exchange : Exchange) :
    ∃ actions, (∀ action ∈ actions, action.isLooking = true) ∧
      exchange.play? actions = some exchange.poll := by
  refine exists_play?_habits habits (fun habit member exchange => ?_) exchange
  simp only [habits, List.mem_cons, List.not_mem_nil, or_false] at member
  rcases member with rfl | rfl | rfl | rfl | rfl | rfl <;> rfl

/-- What happens on the other side and then by the habits of the harness is found at a look. -/
theorem exists_find?_poll (pending : before.IsPending) (undergoes : before.Undergoes after) :
    ∃ actions, ∀ elapsed, before.find? ⟨actions, elapsed⟩ = some after.poll := by
  obtain ⟨deeds, undergone⟩ := undergoes
  obtain ⟨moves, looking, polled⟩ := exists_play?_poll after
  refine ⟨deeds.map .target ++ moves, fun elapsed => ?_⟩
  refine find?_eq_some_iff.mpr ⟨pending.phase, fun action member => ?_, ?_⟩
  · rcases List.mem_append.mp member with member | member
    · obtain ⟨deed, _, rfl⟩ := List.mem_map.mp member
      rfl
    · exact looking action member
  · rw [play?_append, undergone]
    exact polled

/-- What the harness finds is undecided unless it has a result. -/
theorem isPending_of_result? {look : Look} (pending : before.IsPending)
    (finds : before.find? look = some after) (undecided : after.result? = none) :
    after.IsPending := by
  refine (isPending_or_isCompleted_of_find? pending finds).resolve_right fun completed => ?_
  obtain ⟨output, exitCode, decided⟩ := completed.phase
  rw [result?, decided] at undecided
  cases undecided

/-! ### The child -/

/-- Whether the harness has learned how the child ended. -/
def IsReaped (exchange : Exchange) : Prop := ∃ status, exchange.child = .reaped status

/-- No step of the harness ends the child. -/
theorem child_attempt (exchange : Exchange) (move : Move) :
    (exchange.attempt move).child = .running ↔ exchange.child = .running := by
  cases moved : exchange.move? move with
  | none => rw [attempt, moved, Option.getD_none]
  | some after =>
    rw [attempt, moved, Option.getD_some]
    cases moves_of_move? moved with
    | reap early status _ _ _ child =>
      refine iff_of_false nofun ?_
      rw [child]
      exact nofun
    | bury result status _ gone =>
      refine iff_of_false nofun ?_
      rcases gone with child | child
      all_goals
        rw [child]
        exact nofun
    | announce | openOutput | openOutputFails | write | abandonInput | closeInput | writeFails
    | read | readEnd | readFails | waitFails | expire | kill | dropOpen | dropDecided
    | dropStopping =>
      exact Iff.rfl

theorem child_poll (exchange : Exchange) :
    exchange.poll.child = .running ↔ exchange.child = .running := by
  have follows (habits : List (Exchange → Move)) (exchange : Exchange) :
      (habits.foldl (fun exchange habit => exchange.attempt (habit exchange)) exchange).child =
        .running ↔ exchange.child = .running := by
    induction habits generalizing exchange with
    | nil => exact Iff.rfl
    | cons habit habits inductionHypothesis =>
      exact (inductionHypothesis _).trans (child_attempt exchange (habit exchange))
  exact follows habits exchange

/-- What happens on the other side decides nothing and sends nothing. -/
theorem phase_and_kills_of_undergoes (undergoes : before.Undergoes after) :
    after.phase = before.phase ∧ after.kills = before.kills := by
  obtain ⟨deeds, played⟩ := undergoes
  induction deeds generalizing before with
  | nil =>
    cases played
    exact ⟨rfl, rfl⟩
  | cons deed deeds inductionHypothesis =>
    obtain ⟨middle, acted, rest⟩ := Option.bind_eq_some_iff.mp played
    obtain ⟨phase, kills⟩ := inductionHypothesis rest
    rw [phase, kills]
    cases deed?_eq_some_iff.mp acted <;> exact ⟨rfl, rfl⟩

theorem attempt_kill {result : Except RunError Outcome}
    (decided : before.phase = .decided result) :
    before.attempt .kill = { before.sendKill with phase := .stopping result } := by
  rw [attempt, move?_of_moves (.kill result decided)]
  rfl

/-- A child that was sent no signal was reaped before. -/
theorem isReaped_of_unsent (unsent : before.sendKill.kills = 0) : before.IsReaped := by
  unfold sendKill at unsent
  cases child : before.child with
  | reaped status => exact ⟨status, child⟩
  | running | ended status =>
    rw [child] at unsent
    cases unsent

/-- The harness returns what was decided once the child is gone. -/
theorem returned_attempt_bury {result : Except RunError Outcome}
    (stopping : before.phase = .stopping result) (gone : before.child ≠ .running) :
    (before.attempt .bury).phase = .returned result ∧ (before.attempt .bury).IsReaped := by
  obtain ⟨status, known⟩ : ∃ status, before.child = .ended status ∨ before.child = .reaped status := by
    cases child : before.child with
    | running => exact absurd child gone
    | ended status => exact ⟨status, .inl rfl⟩
    | reaped status => exact ⟨status, .inr rfl⟩
  rw [attempt, move?_of_moves (.bury result status stopping known)]
  exact ⟨rfl, status, rfl⟩

theorem attempt_drop (pending : before.IsPending) :
    before.attempt .drop = { before.closeEnds.sendKill with phase := .dropped } := by
  rw [attempt, move?_of_moves (.dropOpen (pending.phase ▸ trivial))]
  rfl

theorem IsCompleted.phase_eq {result : Except RunError Outcome} (completed : before.IsCompleted)
    (decided : before.result? = some result) : before.phase = .decided result := by
  obtain ⟨output, exitCode, phase⟩ := completed.phase
  rw [result?, phase] at decided
  rw [phase, Option.some.inj decided]

/-- A schedule of looks is an execution. -/
theorem exists_play?_of_watch? {opened reached : Exchange} {schedule : List Look}
    (watched : opened.watch? schedule = some reached) :
    ∃ actions, opened.play? actions = some reached := by
  induction schedule generalizing opened with
  | nil => exact ⟨[], watched⟩
  | cons look schedule inductionHypothesis =>
    obtain ⟨middle, looked, rest⟩ := Option.bind_eq_some_iff.mp watched
    obtain ⟨later, playedLater⟩ := inductionHypothesis rest
    obtain ⟨found, finds, asked⟩ := Option.bind_eq_some_iff.mp looked
    have played := (find?_eq_some_iff.mp finds).2.2
    have asks : ∃ asking, found.play? asking = some middle := by
      split at asked
      · split at asked
        · exact ⟨[.harness .expire], play?_cons asked rfl⟩
        · exact ⟨[], asked⟩
      · exact ⟨[], asked⟩
    obtain ⟨asking, asked⟩ := asks
    refine ⟨look.actions ++ (asking ++ later), ?_⟩
    rw [play?_append, played, Option.bind_some, play?_append, asked]
    exact playedLater

theorem watch?_cons {look : Look} {schedule : List Look} (looked : before.look? look = some middle)
    (watched : middle.watch? schedule = some after) :
    before.watch? (look :: schedule) = some after := by
  rw [watch?, List.foldlM_cons, looked]
  exact watched

end Exchange

/-! ### Jobs -/

namespace Machine.World

open Exchange (Look)

variable {world : World} {opened : Exchange} {Result : Type}

/-! ### What the harness does -/

theorem IsSound.attempt (sound : world.IsSound) (move : Exchange.Move) :
    (world.attempt move).IsSound :=
  sound.of_keeps (.of_table rfl) (Exchange.child_attempt world.exchange move)

theorem IsSound.look (sound : world.IsSound) : world.look.IsSound :=
  sound.of_keeps (.of_table rfl) (Exchange.child_poll world.exchange)

theorem leadsTo_idle (world : World) (limit : Nat) : world.LeadsTo (world.idle limit) := by
  induction world using idle.induct limit with
  | case1 world done =>
    rw [idle, if_pos done]
    exact .refl world
  | case2 world goesOn inductionHypothesis =>
    rw [idle, if_neg goesOn]
    exact (leadsTo_pass world limit).trans inductionHypothesis

/-- Whether the harness comes from an open exchange to a world by looking as often as a schedule says
and once more; what it finds then is not decided, or the run is completed. -/
def LooksOn (opened : Exchange) (world : World) : Prop :=
  ∃ schedule before actions, opened.watch? schedule = some before ∧ before.IsPending ∧
    ∀ elapsed, before.find? ⟨actions, elapsed⟩ = some world.exchange

theorem LooksOn.cons {look : Look} {found : Exchange} (looked : opened.look? look = some found)
    (looksOn : LooksOn found world) : LooksOn opened world := by
  obtain ⟨schedule, before, actions, watched, pending, finds⟩ := looksOn
  exact ⟨look :: schedule, before, actions, Exchange.watch?_cons looked watched, pending, finds⟩

/-- The harness looks and lets time pass by turns until the run is completed, or until it finds
nothing decided when the time is up. -/
theorem follow_cases (world : World) (limit : Nat) (last : Exchange.Move) (late : Result)
    (found : Except RunError Outcome → Result) (pending : opened.IsPending)
    (undergoes : opened.Undergoes world.exchange) :
    ∃ reached : World, LooksOn opened reached ∧
      (world.IsSound → reached.IsSound) ∧
      ((reached.exchange.IsCompleted ∧ ∃ result, reached.exchange.result? = some result ∧
          world.follow limit last late found = (found result, reached)) ∨
        (reached.exchange.IsPending ∧
          world.follow limit last late found = (late, reached.attempt last))) := by
  induction world using follow.induct limit generalizing opened with
  | case1 world looked result =>
    rename_i decided
    obtain ⟨actions, finds⟩ := Exchange.exists_find?_poll pending undergoes
    have completed : world.look.exchange.IsCompleted := by
      refine (Exchange.isPending_or_isCompleted_of_find? pending (finds false)).resolve_left ?_
      intro undecided
      have none : world.look.exchange.result? = none :=
        Exchange.result?_of_isOpen (undecided.phase ▸ trivial)
      cases none.symm.trans decided
    refine ⟨world.look, ⟨[], opened, actions, rfl, pending, finds⟩, IsSound.look,
      .inl ⟨completed, result, decided, ?_⟩⟩
    rw [follow, show world.look.exchange.result? = some result from decided]
  | case2 world looked undecided =>
    rename_i late
    obtain ⟨actions, finds⟩ := Exchange.exists_find?_poll pending undergoes
    refine ⟨world.look, ⟨[], opened, actions, rfl, pending, finds⟩, IsSound.look,
      .inr ⟨Exchange.isPending_of_result? pending (finds true) undecided, ?_⟩⟩
    rw [follow, show world.look.exchange.result? = none from undecided]
    exact if_pos late
  | case3 world looked undecided inTime =>
    rename_i inductionHypothesis
    obtain ⟨actions, finds⟩ := Exchange.exists_find?_poll pending undergoes
    have stays : world.look.exchange.IsPending :=
      Exchange.isPending_of_result? pending (finds false) undecided
    have looks := Exchange.look?_of_isPending (finds false) stays
    have passes := leadsTo_pass world.look limit
    obtain ⟨reached, looksOn, sound, cases⟩ := inductionHypothesis stays passes.undergoes
    rw [follow, show world.look.exchange.result? = none from undecided]
    dsimp only
    rw [if_neg inTime]
    exact ⟨reached, looksOn.cons looks, fun first => sound (passes.sound first.look), cases⟩

/-! ### The end of the child -/

theorem leadsTo_deliverKill (world : World) : world.LeadsTo world.deliverKill := by
  unfold deliverKill
  split
  · exact .refl world
  · exact leadsTo_terminate world _ _

/-- The signal ends the process of the child, unless it has ended before. -/
theorem not_isAlive_deliverKill (sound : world.IsSound) (sent : world.exchange.kills ≠ 0) :
    ¬ world.deliverKill.IsAlive world.target := by
  rw [deliverKill, if_neg sent]
  exact not_isAlive_terminate sound _ _

/-- To stop the child is an execution. -/
theorem exists_play?_stopChild (world : World) :
    ∃ actions, world.exchange.play? actions = some world.stopChild.exchange := by
  obtain ⟨first, _, killed⟩ := Exchange.exists_play?_attempt world.exchange .kill
  obtain ⟨deeds, delivered⟩ := (leadsTo_deliverKill (world.attempt .kill)).undergoes
  obtain ⟨last, _, buried⟩ :=
    Exchange.exists_play?_attempt (world.attempt .kill).deliverKill.exchange .bury
  refine ⟨first ++ (deeds.map .target ++ last), ?_⟩
  rw [Exchange.play?_append, killed, Option.bind_some, Exchange.play?_append]
  have delivered : (world.exchange.attempt .kill).play? (deeds.map .target) =
      some (world.attempt .kill).deliverKill.exchange := delivered
  rw [delivered]
  exact buried

/-- Whether a run has returned a result: its child is reaped, and the process of the child is gone or
has ended. -/
structure Returns (world : World) (result : Except RunError Outcome) : Prop where
  phase : world.exchange.phase = .returned result
  reaped : world.exchange.IsReaped
  gone : ¬ world.IsAlive world.target
  numbered : world.IsNumbered

/-- When the harness has stopped the child, the run has returned what was decided. -/
theorem returns_stopChild {result : Except RunError Outcome} (sound : world.IsSound)
    (decided : world.exchange.phase = .decided result) : world.stopChild.Returns result := by
  have killed : (world.attempt .kill).exchange =
      { world.exchange.sendKill with phase := .stopping result } := Exchange.attempt_kill decided
  have delivers := leadsTo_deliverKill (world.attempt .kill)
  have stopped : (world.attempt .kill).deliverKill.IsSound := delivers.sound (sound.attempt .kill)
  have stopping : (world.attempt .kill).deliverKill.exchange.phase = .stopping result := by
    rw [(Exchange.phase_and_kills_of_undergoes delivers.undergoes).1, killed]
  have gone : (world.attempt .kill).deliverKill.exchange.child ≠ .running := by
    by_cases sent : (world.attempt .kill).exchange.kills = 0
    · -- Nothing was sent, because the end of the child was known before.
      rw [deliverKill, if_pos sent, killed]
      rw [killed] at sent
      obtain ⟨status, reaped⟩ := Exchange.isReaped_of_unsent sent
      intro running
      cases reaped.symm.trans running
    · intro running
      have alive := stopped.told.mp running
      rw [delivers.target] at alive
      exact not_isAlive_deliverKill (sound.attempt .kill) sent alive
  obtain ⟨returned, reaped⟩ := Exchange.returned_attempt_bury stopping gone
  have buried : world.stopChild.IsSound := stopped.attempt .bury
  refine ⟨returned, reaped, fun alive => ?_, buried.toIsNumbered⟩
  obtain ⟨status, known⟩ := reaped
  cases (buried.told.mpr alive).symm.trans known

/-! ### The start of a run -/

/-- A spawn starts an exchange and a process, which has a number of its own. -/
theorem spawn_cases {job : Job} {world spawned : World} (spawns : world.spawn job = .ok spawned) :
    spawned.exchange = .start job.executable job.script job.timeout Channel.usualCapacity
        Channel.usualCapacity ∧
      spawned.target = world.nextProcess ∧ spawned.nextProcess = world.nextProcess + 1 ∧
      ∃ child : Process, spawned.processes = world.processes ++ [child] ∧
        child.number = world.nextProcess ∧ child.ended = none := by
  unfold spawn at spawns
  obtain ⟨_, _, spawns⟩ := exists_of_bind_eq_ok spawns
  obtain ⟨_, _, spawns⟩ := exists_of_bind_eq_ok spawns
  obtain ⟨_, _, spawns⟩ := exists_of_bind_eq_ok spawns
  obtain ⟨image, _, finished⟩ := exists_of_bind_eq_ok spawns
  cases finished
  exact ⟨rfl, rfl, rfl, _, rfl, rfl, rfl⟩

theorem isSound_spawn {job : Job} {world spawned : World} (numbered : world.IsNumbered)
    (spawns : world.spawn job = .ok spawned) : spawned.IsSound := by
  obtain ⟨exchange, target, next, child, processes, number, alive⟩ := spawn_cases spawns
  refine ⟨?_, ?_, iff_of_true ?_ ⟨child, ?_, ?_, alive⟩⟩
  · exact numbered.add number processes next
  · omega
  · rw [exchange]
    rfl
  · rw [processes]
    exact List.mem_append_right _ (.head _)
  · rw [number, target]

/-- The harness opens the exchange by two steps, lets time pass, and then looks until the run is
completed or the time is up. -/
theorem follow_openExchange_cases {job : Job} {world spawned : World} (numbered : world.IsNumbered)
    (spawns : world.spawn job = .ok spawned) (limit : Nat) (last : Exchange.Move) (late : Result)
    (found : Except RunError Outcome → Result) :
    ∃ opening opened, ∃ reached : World,
      (Exchange.start job.executable job.script job.timeout Channel.usualCapacity
        Channel.usualCapacity).play? opening = some opened ∧
      opened.phase = .exchanging ∧ LooksOn opened reached ∧ reached.IsSound ∧
      ((reached.exchange.IsCompleted ∧ ∃ result, reached.exchange.result? = some result ∧
          (spawned.openExchange limit).follow limit last late found = (found result, reached)) ∨
        (reached.exchange.IsPending ∧
          (spawned.openExchange limit).follow limit last late found =
            (late, reached.attempt last))) := by
  have sound := isSound_spawn numbered spawns
  have idles := leadsTo_idle ((spawned.attempt (.announce spawned.target)).attempt .openOutput)
    (min limit (spawned.clock + openingTime))
  have same : ((spawned.attempt (.announce spawned.target)).attempt .openOutput).exchange =
      (((Exchange.start job.executable job.script job.timeout Channel.usualCapacity
        Channel.usualCapacity).attempt (.announce spawned.target)).attempt .openOutput) := by
    rw [← (spawn_cases spawns).1]
    rfl
  have undergoes := idles.undergoes
  rw [same] at undergoes
  obtain ⟨opened, opens, pending, undergoes⟩ : ∃ opened,
      (Exchange.start job.executable job.script job.timeout Channel.usualCapacity
        Channel.usualCapacity).play? [.harness (.announce spawned.target), .harness .openOutput] =
          some opened ∧
      opened.IsPending ∧ opened.Undergoes (spawned.openExchange limit).exchange :=
    ⟨_, rfl, ⟨rfl, nofun⟩, undergoes⟩
  obtain ⟨reached, looksOn, keeps, cases⟩ :=
    follow_cases (spawned.openExchange limit) limit last late found pending undergoes
  exact ⟨_, opened, reached, opens, pending.phase, looksOn,
    keeps (idles.sound ((sound.attempt _).attempt _)), cases⟩

/-! ### Runs that return -/

/-- A job that is kept from starting reports nothing and changes nothing. -/
theorem run_of_hindered {job : Job} {world : World} {hindrance : Hindrance}
    (hindered : world.spawn job = .error hindrance) :
    run job world = (.unstarted job hindrance, world) := by
  unfold run
  rw [hindered]

/-- Without descriptors for the pipe there is no run, whatever the executable. -/
theorem run_of_room {job : Job} {world : World} {room : Nat} (bounded : world.room = some room)
    (short : room < 3) :
    run job world = (⟨.error (.outputPipe (.system .tooManyFiles)), []⟩, world) := by
  have hindered : world.spawn job = .error (.pipe (.system .tooManyFiles)) ∨
      world.spawn job = .error (.secondEnd (.system .tooManyFiles)) := by
    have lacks : world.require 3 = .error (.system .tooManyFiles) := by
      rw [require, bounded, Option.all_some, if_neg (by simpa using short)]
    unfold spawn
    by_cases pipe : 2 ≤ room
    · have has : world.require 2 = .ok () := by
        rw [require, bounded, Option.all_some, if_pos (by simpa using pipe)]
      rw [has, lacks]
      exact .inr rfl
    · have lacks : world.require 2 = .error (.system .tooManyFiles) := by
        rw [require, bounded, Option.all_some, if_neg (by simpa using pipe)]
      rw [lacks]
      exact .inl rfl
  rcases hindered with hindered | hindered
  · exact run_of_hindered hindered
  · exact run_of_hindered hindered

/-- A job that can be started is a run under a deadline: the run is opened, the harness watches it by
a schedule that comes to the result, stops the child, and returns the result. -/
theorem run_isWatched {job : Job} {world spawned : World} (numbered : world.IsNumbered)
    (spawns : world.spawn job = .ok spawned) :
    ∃ opening opened schedule decided stopping,
      (Exchange.start job.executable job.script job.timeout Channel.usualCapacity
        Channel.usualCapacity).play? opening = some opened ∧
      opened.phase = .exchanging ∧ opened.watch? schedule = some decided ∧
      decided.result? = some (run job world).1.result ∧
      decided.play? stopping = some (run job world).2.exchange ∧
      (run job world).2.Returns (run job world).1.result ∧
      (run job world).1.events = (run job world).2.exchange.log := by
  obtain ⟨opening, opened, reached, opens, exchanging, looksOn, sound, cases⟩ :=
    follow_openExchange_cases numbered spawns (spawned.clock + microseconds job.timeout) .expire
      (.ok .timedOut) id
  obtain ⟨schedule, before, actions, watched, _, finds⟩ := looksOn
  have watchedTo {look : Look} {decided : Exchange} (looked : before.look? look = some decided) :
      opened.watch? (schedule ++ [look]) = some decided := by
    rw [Exchange.watch?, List.foldlM_append]
    exact Option.bind_eq_some_iff.mpr ⟨before, watched, Exchange.watch?_cons looked rfl⟩
  unfold run
  rw [spawns]
  dsimp only
  rcases cases with ⟨completed, result, decided, followed⟩ | ⟨undecided, followed⟩
  · obtain ⟨stopping, stopped⟩ := exists_play?_stopChild reached
    rw [followed]
    exact ⟨opening, opened, _, _, stopping, opens, exchanging,
      watchedTo (Exchange.look?_of_isCompleted (finds false) completed), decided, stopped,
      returns_stopChild sound (completed.phase_eq decided), rfl⟩
  · have expired : (reached.attempt .expire).exchange =
        (reached.exchange.report (.timedOut reached.exchange.timeout)).decide (.ok .timedOut) := by
      show reached.exchange.attempt .expire = _
      rw [Exchange.attempt, Exchange.move?_of_moves (.expire undecided.phase)]
      rfl
    have phase : (reached.attempt .expire).exchange.phase = .decided (.ok .timedOut) := by
      rw [expired]
      rfl
    have looked := Exchange.look?_of_isPending (finds true) undecided
    obtain ⟨stopping, stopped⟩ := exists_play?_stopChild (reached.attempt .expire)
    rw [followed]
    refine ⟨opening, opened, _, _, stopping, opens, exchanging, watchedTo (looked.trans ?_), ?_,
      stopped, returns_stopChild (sound.attempt .expire) phase, rfl⟩
    · exact congrArg some expired.symm
    · rw [Exchange.result?, phase]

/-! ### Executions -/

/-- Whether an execution of a job leads to an exchange, with pipes of the usual size. -/
def Reaches (job : Job) (exchange : Exchange) : Prop :=
  ∃ actions, (Exchange.start job.executable job.script job.timeout Channel.usualCapacity
    Channel.usualCapacity).play? actions = some exchange

theorem Reaches.play? {job : Job} {before after : Exchange} {actions : List Exchange.Action}
    (reaches : Reaches job before) (played : before.play? actions = some after) :
    Reaches job after := by
  obtain ⟨earlier, playedBefore⟩ := reaches
  refine ⟨earlier ++ actions, ?_⟩
  rw [Exchange.play?_append, playedBefore]
  exact played

theorem Reaches.looksOn {job : Job} (reaches : Reaches job opened) (looksOn : LooksOn opened world) :
    Reaches job world.exchange := by
  obtain ⟨schedule, before, actions, watched, pending, finds⟩ := looksOn
  obtain ⟨_, _, found⟩ := Exchange.find?_eq_some_iff.mp (finds false)
  exact (reaches.play? (Exchange.play?_of_watch? watched pending.phase)).play? found

/-- A job that can be started is an execution. -/
theorem reaches_run {job : Job} {world spawned : World} (numbered : world.IsNumbered)
    (spawns : world.spawn job = .ok spawned) : Reaches job (run job world).2.exchange := by
  obtain ⟨opening, opened, schedule, decided, stopping, opens, _, watched, _, stopped, _⟩ :=
    run_isWatched numbered spawns
  obtain ⟨looking, looked⟩ := Exchange.exists_play?_of_watch? watched
  have opened : Reaches job opened := ⟨opening, opens⟩
  exact (opened.play? looked).play? stopped

/-! ### Runs that are dropped -/

/-- Whether a run was dropped: its child was sent the signal, and the process of the child is gone or
has ended. -/
structure IsDropped (world : World) : Prop where
  phase : world.exchange.phase = .dropped
  sent : world.exchange.kills ≠ 0
  gone : ¬ world.IsAlive world.target

/-- When the harness is dropped before anything is decided, the signal ends the child. -/
theorem isDropped_deliverKill (sound : world.IsSound) (pending : world.exchange.IsPending) :
    (world.attempt .drop).deliverKill.IsDropped := by
  have dropped : (world.attempt .drop).exchange =
      { world.exchange.closeEnds.sendKill with phase := .dropped } :=
    Exchange.attempt_drop pending
  have delivers := leadsTo_deliverKill (world.attempt .drop)
  obtain ⟨phase, kills⟩ := Exchange.phase_and_kills_of_undergoes delivers.undergoes
  have sent : (world.attempt .drop).exchange.kills ≠ 0 := by
    intro unsent
    rw [dropped] at unsent
    obtain ⟨status, reaped⟩ := Exchange.isReaped_of_unsent unsent
    exact pending.notReaped status reaped
  refine ⟨?_, kills ▸ sent, ?_⟩
  · rw [phase, dropped]
  · rw [delivers.target]
    exact not_isAlive_deliverKill (sound.attempt .drop) sent

/-- A job that can be started and that may be dropped is an execution, in which the run returns or is
dropped. -/
theorem runUntil_cases {job : Job} {world spawned : World} (patience : Duration)
    (numbered : world.IsNumbered) (spawns : world.spawn job = .ok spawned) :
    ∃ result events, ∃ left : World, runUntil patience job world = (result, events, left) ∧
      Reaches job left.exchange ∧
      ((∃ returned, result = some returned ∧ left.Returns returned) ∨
        (result = none ∧ left.IsDropped)) := by
  unfold runUntil
  split
  · obtain ⟨_, _, _, _, _, _, _, _, _, _, returns, _⟩ := run_isWatched numbered spawns
    exact ⟨_, _, _, rfl, reaches_run numbered spawns, .inl ⟨_, rfl, returns⟩⟩
  · obtain ⟨opening, opened, reached, opens, _, looksOn, sound, cases⟩ :=
      follow_openExchange_cases numbered spawns (spawned.clock + microseconds patience) .drop none
        some
    have reaches : Reaches job reached.exchange := Reaches.looksOn ⟨opening, opens⟩ looksOn
    rw [spawns]
    dsimp only
    rcases cases with ⟨completed, result, decided, followed⟩ | ⟨undecided, followed⟩
    · obtain ⟨stopping, stopped⟩ := exists_play?_stopChild reached
      rw [followed]
      exact ⟨_, _, _, rfl, reaches.play? stopped,
        .inl ⟨_, rfl, returns_stopChild sound (completed.phase_eq decided)⟩⟩
    · obtain ⟨_, _, dropped⟩ := Exchange.exists_play?_attempt reached.exchange .drop
      obtain ⟨_, delivered⟩ := (leadsTo_deliverKill (reached.attempt .drop)).undergoes
      rw [followed]
      exact ⟨_, _, _, rfl, (reaches.play? dropped).play? delivered,
        .inr ⟨rfl, isDropped_deliverKill sound undecided⟩⟩

end Machine.World

end ShellSmoke
