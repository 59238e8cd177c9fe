/-
This file proves that no run leaves its child running. The signal that kills the child is sent once
at most, by the step that stops the child or by the drop of the run, and not to a child of which the
end is known; so whichever way a run is over, the child was reaped or was sent the signal. A run
that comes to a result through the exchange also reaps the child before it returns, and returns what
was decided there. In the modelled system the signal ends the process of the child, if it has not
ended before, and reaches no other process.
-/

import ShellSmoke.Proofs.Machine.Run

namespace ShellSmoke

/-- Whether the run is over: it has returned, or it was dropped. -/
def Phase.IsOver : Phase → Prop
  | .returned _ | .dropped => True
  | .spawned | .opening | .exchanging | .decided _ | .stopping _ => False

namespace Exchange

variable {executable script : Bytes} {timeout : Duration} {inputCapacity outputCapacity : Nat}
variable {before after opened reached : Exchange} {action : Action} {actions : List Action}

/-- A run is over when the harness has no step left. -/
theorem isOver_iff (exchange : Exchange) :
    exchange.phase.IsOver ↔ ∀ move, exchange.move? move = none := by
  constructor
  · intro isOver move
    cases phase : exchange.phase with
    | returned | dropped => simp only [move?, phase]
    | spawned | opening | exchanging | decided | stopping =>
      rw [phase] at isOver
      cases isOver
  · intro stuck
    have kept := stuck .drop
    unfold move? at kept
    cases phase : exchange.phase with
    | returned | dropped => trivial
    | spawned | opening | exchanging | decided | stopping =>
      rw [phase] at kept
      cases kept

/-! ### The signal -/

/-- Whether the child is taken care of: it was reaped or sent the signal, and was not sent it
twice. -/
structure IsTended (exchange : Exchange) : Prop where
  once : exchange.kills ≤ 1
  gone : exchange.IsReaped ∨ exchange.kills = 1

/-- The books on the signal. It is not sent before the result is certain, and has been sent when
the child is about to be gone, unless the child is known to be gone. A run that returns has reaped
the child unless it could not set up its end of the output. -/
def SignalKept (exchange : Exchange) : Prop :=
  match exchange.phase with
  | .spawned | .opening | .exchanging | .decided _ => exchange.kills = 0
  | .stopping _ | .dropped => exchange.IsTended
  | .returned result =>
    exchange.IsTended ∧ ((∃ failure, result = .error (.outputPipe failure)) ∨ exchange.IsReaped)

theorem signalKept_iff_of_isOpen (isOpen : before.phase.IsOpen) :
    SignalKept before ↔ before.kills = 0 := by
  unfold SignalKept
  cases phase : before.phase with
  | spawned | opening | exchanging | decided => exact Iff.rfl
  | stopping | returned | dropped =>
    rw [phase] at isOpen
    cases isOpen

theorem kills_le_one (kept : SignalKept before) : before.kills ≤ 1 := by
  unfold SignalKept at kept
  split at kept
  · omega
  · omega
  · omega
  · omega
  · exact kept.once
  · exact kept.once
  · exact kept.1.once

theorem isTended_of_isOver (kept : SignalKept before) (isOver : before.phase.IsOver) :
    before.IsTended := by
  unfold SignalKept at kept
  cases phase : before.phase with
  | returned result =>
    rw [phase] at kept
    exact kept.1
  | dropped =>
    rw [phase] at kept
    exact kept
  | spawned | opening | exchanging | decided | stopping =>
    rw [phase] at isOver
    cases isOver

theorem signalKept_of_same (kept : SignalKept before) (phase : after.phase = before.phase)
    (kills : after.kills = before.kills) (reaped : before.IsReaped → after.IsReaped) :
    SignalKept after := by
  have tends (tended : before.IsTended) : after.IsTended :=
    ⟨kills ▸ tended.once, tended.gone.imp reaped kills.trans⟩
  unfold SignalKept at kept ⊢
  rw [phase]
  split at kept
  · exact kills.trans kept
  · exact kills.trans kept
  · exact kills.trans kept
  · exact kills.trans kept
  · exact tends kept
  · exact tends kept
  · exact ⟨tends kept.1, kept.2.imp_right reaped⟩

/-- The signal takes care of a child to which it was not sent yet. -/
theorem isTended_sendKill (unsent : before.kills = 0) : before.sendKill.IsTended := by
  unfold sendKill
  cases child : before.child with
  | running | ended status =>
    have sent : before.kills + 1 = 1 := by omega
    exact ⟨Nat.le_of_eq sent, .inr sent⟩
  | reaped status => exact ⟨show before.kills ≤ 1 by omega, .inl ⟨status, rfl⟩⟩

/-- A step of the harness keeps the books on the signal. -/
theorem signalKept_moves {move : Move} (kept : SignalKept before)
    (moves : Moves before move after) : SignalKept after := by
  cases moves with
  | write | abandonInput | closeInput | read | readEnd =>
    exact signalKept_of_same kept rfl rfl id
  | announce _ phase | openOutput phase | writeFails _ _ phase | readFails _ phase
  | reap _ _ phase | waitFails _ _ phase | expire phase =>
    have unsent := (signalKept_iff_of_isOpen (phase ▸ trivial)).mp kept
    exact unsent
  | openOutputFails failure phase =>
    have unsent := (signalKept_iff_of_isOpen (phase ▸ trivial)).mp kept
    have tended : before.closeEnds.sendKill.IsTended := isTended_sendKill unsent
    exact ⟨⟨tended.once, tended.gone⟩, .inl ⟨failure, rfl⟩⟩
  | dropOpen isOpen =>
    have unsent := (signalKept_iff_of_isOpen isOpen).mp kept
    have tended : before.closeEnds.sendKill.IsTended := isTended_sendKill unsent
    exact ⟨tended.once, tended.gone⟩
  | kill result phase | dropDecided result phase =>
    rw [SignalKept, phase] at kept
    have tended := isTended_sendKill kept
    exact ⟨tended.once, tended.gone⟩
  | dropStopping result phase =>
    rw [SignalKept, phase] at kept
    exact ⟨kept.once, kept.gone⟩
  | bury result status phase =>
    rw [SignalKept, phase] at kept
    exact ⟨⟨kept.once, .inl ⟨status, rfl⟩⟩, .inr ⟨status, rfl⟩⟩

/-- A step on the other side keeps the books on the signal: of a child that ends the harness has not
learned it yet. -/
theorem signalKept_does {deed : Deed} (kept : SignalKept before) (does : Does before deed after) :
    SignalKept after := by
  cases does with
  | exit status child =>
    refine signalKept_of_same kept rfl rfl ?_
    rintro ⟨other, reaped⟩
    cases child.symm.trans reaped
  | read | write | shareInput | shareOutput | closeInput | closeOutput =>
    exact signalKept_of_same kept rfl rfl id

theorem signalKept_play
    (played : (start executable script timeout inputCapacity outputCapacity).play? actions =
      some reached) :
    SignalKept reached := by
  refine play?_induction (motive := fun _ reached => SignalKept reached) ?_ ?_ played
  · exact rfl
  intro earlier before action after kept acted
  cases action with
  | harness move => exact signalKept_moves kept (moves_of_move? acted)
  | target deed => exact signalKept_does kept (deed?_eq_some_iff.mp acted)

theorem kills_sendKill_of_reaped {status : ExitStatus} (child : before.child = .reaped status) :
    before.sendKill.kills = before.kills := by
  unfold sendKill
  rw [child]

/-- Once the child is reaped it stays so, and it is not sent the signal any more. -/
theorem reaped_act {status : ExitStatus} (child : before.child = .reaped status)
    (acted : before.act? action = some after) :
    after.child = .reaped status ∧ after.kills = before.kills := by
  cases action with
  | harness move =>
    cases moves_of_move? acted with
    | openOutputFails | dropOpen =>
      have known : before.closeEnds.child = .reaped status := child
      exact ⟨child, kills_sendKill_of_reaped known⟩
    | kill | dropDecided => exact ⟨child, kills_sendKill_of_reaped child⟩
    | reap _ other _ _ _ ended => cases child.symm.trans ended
    | bury result other _ gone =>
      rcases gone with ended | reaped
      · cases child.symm.trans ended
      · cases child.symm.trans reaped
        exact ⟨rfl, rfl⟩
    | announce | openOutput | write | abandonInput | closeInput | writeFails | read | readEnd
    | readFails | waitFails | expire | dropStopping =>
      exact ⟨child, rfl⟩
  | target deed =>
    cases deed?_eq_some_iff.mp acted with
    | exit other running => cases child.symm.trans running
    | read | write | shareInput | shareOutput | closeInput | closeOutput => exact ⟨child, rfl⟩

theorem reaped_play {status : ExitStatus} (child : before.child = .reaped status)
    (played : before.play? actions = some reached) :
    reached.child = .reaped status ∧ reached.kills = before.kills := by
  refine play?_induction (motive := fun _ reached =>
    reached.child = .reaped status ∧ reached.kills = before.kills) ⟨child, rfl⟩ ?_ played
  rintro earlier middle action after ⟨child, same⟩ acted
  obtain ⟨child, sameNow⟩ := reaped_act child acted
  exact ⟨child, sameNow.trans same⟩

/-! ### The result -/

/-- Whether an execution that leads to a state has the step in it with which the exchange or the
deadline decides a result. -/
def IsDecidedOn (opened : Exchange) (actions : List Action) (reached : Exchange)
    (result : Except RunError Outcome) : Prop :=
  ∃ earlier move later before decided, actions = earlier ++ .harness move :: later ∧
    opened.play? earlier = some before ∧ before.phase = .exchanging ∧
    before.move? move = some decided ∧ decided.phase = .decided result ∧
    decided.play? later = some reached

/-- What is decided on stays so when the execution goes on. -/
theorem IsDecidedOn.act {result : Except RunError Outcome}
    (decidedOn : IsDecidedOn opened actions before result)
    (acted : before.act? action = some after) :
    IsDecidedOn opened (actions ++ [action]) after result := by
  obtain ⟨earlier, move, later, undecided, decided, rfl, played, phase, moved, result, goesOn⟩ :=
    decidedOn
  refine ⟨earlier, move, later ++ [action], undecided, decided, ?_, played, phase, moved, result,
    (play?_concat_eq_some_iff later action).mpr ⟨before, goesOn, acted⟩⟩
  rw [List.append_assoc, List.cons_append]

/-- A step of the exchange that comes to a result decides it. -/
theorem isDecidedOn_of_move? {move : Move} {result : Except RunError Outcome}
    (played : opened.play? actions = some before) (phase : before.phase = .exchanging)
    (moved : before.move? move = some after) (decided : after.phase = .decided result) :
    IsDecidedOn opened (actions ++ [.harness move]) after result :=
  ⟨actions, move, [], before, after, rfl, played, phase, moved, decided, rfl⟩

theorem returned_act {result : Except RunError Outcome} (returned : before.phase = .returned result)
    (acted : before.act? action = some after) : after.phase = .returned result := by
  cases action with
  | harness move => simp only [act?, move?, returned, reduceCtorEq] at acted
  | target deed =>
    cases deed?_eq_some_iff.mp acted with
    | read | write | shareInput | shareOutput | closeInput | closeOutput | exit => exact returned

/-- A run has a result after a step because it had it before, because the step decides it, or
because the harness could not set up its end of the output. -/
theorem result?_cases {result : Except RunError Outcome} (acted : before.act? action = some after)
    (decided : after.result? = some result) :
    before.result? = some result ∨
      (before.phase = .exchanging ∧ after.phase = .decided result ∧
        ∃ move, action = .harness move) ∨
      ∃ failure, after.phase = .returned (.error (.outputPipe failure)) := by
  cases action with
  | harness move =>
    cases moves_of_move? acted with
    | writeFails _ _ phase | readFails _ phase | reap _ _ phase | waitFails _ _ phase
    | expire phase =>
      cases decided
      exact .inr (.inl ⟨phase, rfl, _, rfl⟩)
    | openOutputFails failure => exact .inr (.inr ⟨failure, rfl⟩)
    | kill other phase | bury other _ phase =>
      cases decided
      exact .inl (by rw [result?, phase])
    | announce | openOutput | dropOpen | dropDecided | dropStopping => cases decided
    | write _ _ phase | abandonInput _ phase | closeInput _ phase | read _ phase | readEnd phase =>
      have none : before.result? = none := result?_of_isOpen (phase ▸ trivial)
      cases none.symm.trans decided
  | target deed =>
    cases deed?_eq_some_iff.mp acted with
    | read | write | shareInput | shareOutput | closeInput | closeOutput | exit =>
      exact .inl decided

/-- The result of a run was decided on by the exchange or the deadline, unless the harness could not
set up its end of the output. -/
theorem isDecidedOn_of_result? {result : Except RunError Outcome} (undecided : opened.result? = none)
    (played : opened.play? actions = some reached) (decided : reached.result? = some result) :
    IsDecidedOn opened actions reached result ∨
      ∃ failure, reached.phase = .returned (.error (.outputPipe failure)) := by
  induction actions using List.reverseRecOn generalizing reached with
  | nil =>
    cases played
    cases undecided.symm.trans decided
  | append_singleton earlier action inductionHypothesis =>
    obtain ⟨before, playedBefore, acted⟩ := (play?_concat_eq_some_iff earlier action).mp played
    rcases result?_cases acted decided with known | ⟨exchanging, decides, move, rfl⟩ | failed
    · refine (inductionHypothesis playedBefore known).imp (fun decidedOn => decidedOn.act acted) ?_
      rintro ⟨failure, returned⟩
      exact ⟨failure, returned_act returned acted⟩
    · exact .inl (isDecidedOn_of_move? playedBefore exchanging acted decides)
    · exact .inr failed

end Exchange

/-! ### The modelled system -/

namespace Machine

/-- Whether a process is spared: it is as before, except that it may have another parent and may
have been told that children of its own have ended. -/
structure Process.IsSpared (before after : Process) : Prop where
  same : after = { before with parent := after.parent, signals := after.signals }
  news : ∃ count, after.signals = before.signals ++ List.replicate count .child

theorem Process.IsSpared.refl (process : Process) : process.IsSpared process :=
  ⟨rfl, 0, (List.append_nil _).symm⟩

theorem Process.IsSpared.trans {before middle after : Process} (first : before.IsSpared middle)
    (second : middle.IsSpared after) : before.IsSpared after := by
  obtain ⟨same, count, news⟩ := first
  obtain ⟨sameNow, more, moreNews⟩ := second
  refine ⟨?_, count + more, ?_⟩
  · rw [sameNow, same]
  · rw [moreNews, news, List.append_assoc, List.replicate_append_replicate]

namespace World

variable {world before middle after : World} {number : Nat}

/-- Whether all processes but that of a number are spared that have not ended. -/
def Spares (number : Nat) (before after : World) : Prop :=
  ∀ process ∈ before.processes, process.number ≠ number → process.ended = none →
    ∃ spared ∈ after.processes, process.IsSpared spared

theorem Spares.of_eq (same : after.processes = before.processes) : Spares number before after :=
  fun process member _ _ => ⟨process, same ▸ member, .refl process⟩

theorem Spares.trans (first : Spares number before middle) (second : Spares number middle after) :
    Spares number before after := by
  intro process member other alive
  obtain ⟨spared, present, isSpared⟩ := first process member other alive
  have sameNumber : spared.number = process.number := by rw [isSpared.same]
  have sameEnd : spared.ended = process.ended := by rw [isSpared.same]
  obtain ⟨last, stays, isSparedNow⟩ :=
    second spared present (sameNumber ▸ other) (sameEnd.trans alive)
  exact ⟨last, stays, isSpared.trans isSparedNow⟩

theorem spares_map {how : Process → Process}
    (each : ∀ process : Process, process.number ≠ number → process.IsSpared (how process)) :
    Spares number world { world with processes := world.processes.map how } :=
  fun process member other _ => ⟨how process, List.mem_map_of_mem member, each process other⟩

theorem spares_filter {keep : Process → Bool}
    (each : ∀ process : Process, process.number ≠ number → process.ended = none →
      keep process = true) :
    Spares number world { world with processes := world.processes.filter keep } :=
  fun process member other alive =>
    ⟨process, List.mem_filter.mpr ⟨member, each process other alive⟩, .refl process⟩

theorem spares_does (world : World) (deed : Exchange.Deed) :
    Spares number world (world.does deed) :=
  .of_eq rfl

/-- To end a process spares all others. -/
theorem spares_terminate (world : World) (number : Nat) (status : ExitStatus) :
    Spares number world (world.terminate number status) := by
  unfold terminate
  split
  · exact .of_eq rfl
  · rename_i ending _
    split
    · exact .of_eq rfl
    · dsimp only
      have released : Spares number world (ending.descriptors.foldl (fun world descriptor =>
          world.release descriptor.file) world) :=
        .of_eq (congrArg (fun table => table.2.2) (table_foldl
          (fun (world : World) (descriptor : Descriptor) => table_release world descriptor.file)
          ending.descriptors world))
      have ended (world : World) : Spares number world (world.change number fun process =>
          { process with descriptors := [], ended := some status, program := .exit 0 }) :=
        spares_map fun process other => by
          rw [if_neg other]
          exact .refl process
      have orphans (world : World) : Spares number world { world with
          processes := (world.processes.filter fun other =>
            ! (other.parent = number && other.ended.isSome)).map fun other =>
              if other.parent = number then { other with parent := originProcess } else other } :=
        .trans (spares_filter fun process _ alive => by simp [alive])
          (spares_map fun process _ => by
            split
            · exact ⟨rfl, 0, (List.append_nil _).symm⟩
            · exact .refl process)
      have informs (world : World) (parent : Nat) : Spares number world
          (world.change parent fun parent =>
            if parent.arrangement .child = .caught then
              { parent with signals := parent.signals ++ [.child] }
            else parent) :=
        spares_map fun process _ => by
          split
          · dsimp only
            split
            · exact ⟨rfl, 1, rfl⟩
            · exact .refl process
          · exact .refl process
      have forgets (world : World) : Spares number world
          { world with processes := world.processes.filter (·.number ≠ number) } :=
        spares_filter fun process other _ => decide_eq_true other
      have informed := ((released.trans (ended _)).trans (orphans _)).trans
        (informs _ ending.parent)
      have forgotten := informed.trans (forgets _)
      split
      · split
        · exact informed.trans (spares_does _ (.exit status))
        · exact informed
      · split
        · exact forgotten.trans (spares_does _ (.exit status))
        · exact forgotten

/-- The signal that the harness has sent spares all processes but the child. -/
theorem spares_deliverKill (world : World) : Spares world.target world world.deliverKill := by
  unfold deliverKill
  split
  · exact .of_eq rfl
  · exact spares_terminate world world.target _

end World

end Machine

/-! ### Runs that are over -/

namespace Exchange

open Machine (World)

/-- No run leaves its child running. Whenever a run is over, be it that it returned, with whatever
result, or that it was dropped, the child was reaped or was sent the signal that kills it; in no run
it is sent the signal twice, or after it was reaped. A run that returns a result of the exchange or
of the deadline has also reaped the child, and the result is the one on which a step of the exchange
decided, whatever came after. In the modelled system, where processes are told apart by their
numbers, the harness returns what was decided when it stops the child, whose process is gone then or
has ended; so it has when the signal is sent to the child of a run that is dropped; and to other
processes nothing is done. All runs that the system carries out end in one of these ways. -/
theorem child_never_left_running (executable script : Bytes) (timeout : Duration)
    (inputCapacity outputCapacity : Nat) (actions : List Action) (reached : Exchange)
    (played : (start executable script timeout inputCapacity outputCapacity).play? actions =
      some reached) :
    (((∀ move, reached.move? move = none) ↔ reached.phase.IsOver) ∧
      (reached.phase.IsOver → reached.IsReaped ∨ reached.kills = 1)) ∧
    reached.kills ≤ 1 ∧
    (∀ result, reached.phase = .returned result →
      (∀ failure, result ≠ .error (.outputPipe failure)) →
      reached.IsReaped ∧
        ∃ earlier move later before decided, actions = earlier ++ .harness move :: later ∧
          (start executable script timeout inputCapacity outputCapacity).play? earlier =
            some before ∧
          before.phase = .exchanging ∧ before.move? move = some decided ∧
          decided.phase = .decided result ∧ decided.play? later = some reached) ∧
    (∀ earlier later middle, actions = earlier ++ later →
      (start executable script timeout inputCapacity outputCapacity).play? earlier = some middle →
      middle.IsReaped → reached.IsReaped ∧ reached.kills = middle.kills) ∧
    (∀ world : World,
      (∀ process ∈ world.processes, process.number ≠ world.target → process.ended = none →
        (∃ spared ∈ world.stopChild.processes, process.IsSpared spared) ∧
          ∃ spared ∈ world.deliverKill.processes, process.IsSpared spared) ∧
      (world.IsSound →
        (∀ result, world.exchange.phase = .decided result → world.stopChild.Returns result) ∧
        (world.exchange.kills ≠ 0 → world.deliverKill.exchange.child ≠ .running ∧
          ¬ world.deliverKill.IsAlive world.target))) ∧
    ∀ (job : Job) (world spawned : World), world.IsNumbered → world.spawn job = .ok spawned →
      (World.run job world).2.Returns (World.run job world).1.result ∧
      ∀ patience, ∃ result events, ∃ left : World,
        World.runUntil patience job world = (result, events, left) ∧
        ((∃ returned, result = some returned ∧ left.Returns returned) ∨
          (result = none ∧ left.IsDropped ∧ left.exchange.kills = 1)) := by
  have kept := signalKept_play played
  refine ⟨⟨(isOver_iff reached).symm, fun isOver => (isTended_of_isOver kept isOver).gone⟩,
    kills_le_one kept, ?_, ?_, ?_, ?_⟩
  · intro result returned notPipe
    rw [SignalKept, returned] at kept
    have decided : reached.result? = some result := by rw [result?, returned]
    refine ⟨kept.2.resolve_left ?_, (isDecidedOn_of_result? rfl played decided).resolve_right ?_⟩
    · rintro ⟨failure, same⟩
      exact notPipe failure same
    · rintro ⟨failure, failed⟩
      cases returned.symm.trans failed
      exact notPipe failure rfl
  · rintro earlier later middle rfl playedEarlier ⟨status, reaped⟩
    rw [play?_append, playedEarlier] at played
    obtain ⟨reaped, same⟩ := reaped_play reaped played
    exact ⟨⟨status, reaped⟩, same⟩
  · refine fun world => ⟨fun process member other alive => ?_, fun sound => ⟨?_, fun sent => ?_⟩⟩
    · exact ⟨(world.attempt .kill).spares_deliverKill process member other alive,
        world.spares_deliverKill process member other alive⟩
    · exact fun result decided => World.returns_stopChild sound decided
    · have gone := World.not_isAlive_deliverKill sound sent
      have delivers := World.leadsTo_deliverKill world
      refine ⟨fun running => gone ?_, gone⟩
      rw [← delivers.target]
      exact (delivers.sound sound).told.mp running
  · intro job world spawned numbered spawns
    obtain ⟨_, _, _, _, _, _, _, _, _, _, returns, _⟩ := World.run_isWatched numbered spawns
    refine ⟨returns, fun patience => ?_⟩
    obtain ⟨result, events, left, ran, ⟨_, played⟩, ending⟩ :=
      World.runUntil_cases patience numbered spawns
    refine ⟨result, events, left, ran, ending.imp_right ?_⟩
    rintro ⟨undecided, dropped⟩
    refine ⟨undecided, dropped, ?_⟩
    have once := kills_le_one (signalKept_play played)
    have sent := dropped.sent
    omega

/-- A run that times out: its child never reads, and goes when it is killed. -/
def overdueRun : List Action :=
  [.harness (.announce 7), .harness .openOutput, .harness .expire, .harness .kill,
    .target (.exit (.signalled .kill)), .harness .bury]

/-- A run that is dropped while the harness feeds. -/
def droppedRun : List Action :=
  [.harness (.announce 7), .harness .openOutput, .harness (.write 1), .harness .drop]

/-- A process beside the child. -/
def bystander : Machine.Process := { (default : Machine.Process) with number := 2 }

/-- A system with an exchange in which the child is process 1, and another process runs. -/
def withBystander (exchange : Exchange) : World :=
  { (default : World) with
    exchange
    target := 1
    processes := [{ (default : Machine.Process) with number := 1 }, bystander]
    nextProcess := 3 }

theorem isSound_withBystander {exchange : Exchange} (running : exchange.child = .running) :
    (withBystander exchange).IsSound := by
  refine ⟨⟨show [1, 2].Nodup by decide, ?_⟩, show 1 < 3 by decide, iff_of_true running ?_⟩
  · intro process present
    rcases List.mem_pair.mp present with rfl | rfl
    · exact show 1 < 3 by decide
    · exact show 2 < 3 by decide
  · exact ⟨_, .head _, rfl, rfl⟩

/-- A system with a program that exits at once, and nothing else. -/
def lonelySystem : World :=
  { World.fresh [] [] with
    files := Machine.Files.empty.put [Bytes.ofString "t"] (.binary fun _ => .exit 0) }

/-- A job for that program. -/
def lonelyJob : Job := ⟨Bytes.ofString "/t", [104], ⟨1000⟩⟩

theorem child_never_left_running_overdue_dropped :
    ∃ decided reached dropped,
      (start [] [104] ⟨1000⟩ 1 1).play? (overdueRun.take 3) = some decided ∧
      (start [] [104] ⟨1000⟩ 1 1).play? overdueRun = some reached ∧
      reached.phase = .returned (.ok .timedOut) ∧
      (start [] [104] ⟨1000⟩ 1 1).play? droppedRun = some dropped ∧ dropped.phase = .dropped ∧
      (reached.IsReaped ∧ reached.kills ≤ 1 ∧
        ∃ earlier move later before decided, overdueRun = earlier ++ .harness move :: later ∧
          (start [] [104] ⟨1000⟩ 1 1).play? earlier = some before ∧ before.phase = .exchanging ∧
          before.move? move = some decided ∧ decided.phase = .decided (.ok .timedOut) ∧
          decided.play? later = some reached) ∧
      (dropped.IsReaped ∨ dropped.kills = 1) ∧
      (∃ spared ∈ (withBystander dropped).deliverKill.processes, bystander.IsSpared spared) ∧
      ¬ (withBystander dropped).deliverKill.IsAlive 1 ∧
      (withBystander decided).stopChild.Returns (.ok .timedOut) ∧
      (World.run lonelyJob lonelySystem).2.Returns (World.run lonelyJob lonelySystem).1.result := by
  obtain ⟨decided, reached, dropped, playedFirst, expired, running, played, returned,
      playedDrop, wasDropped, still, sent⟩ :
      ∃ decided reached dropped,
        (start [] [104] ⟨1000⟩ 1 1).play? (overdueRun.take 3) = some decided ∧
        decided.phase = .decided (.ok .timedOut) ∧ decided.child = .running ∧
        (start [] [104] ⟨1000⟩ 1 1).play? overdueRun = some reached ∧
        reached.phase = .returned (.ok .timedOut) ∧
        (start [] [104] ⟨1000⟩ 1 1).play? droppedRun = some dropped ∧ dropped.phase = .dropped ∧
        dropped.child = .running ∧ dropped.kills = 1 :=
    ⟨_, _, _, rfl, rfl, rfl, rfl, rfl, rfl, rfl, rfl, rfl⟩
  obtain ⟨spawned, spawns⟩ : ∃ spawned, lonelySystem.spawn lonelyJob = .ok spawned := ⟨_, rfl⟩
  have alone : lonelySystem.IsNumbered := ⟨List.nodup_nil, nofun⟩
  obtain ⟨_, once, settled, _, systems, runs⟩ := child_never_left_running _ _ _ _ _ _ _ played
  obtain ⟨⟨_, tended⟩, _⟩ := child_never_left_running _ _ _ _ _ _ _ playedDrop
  obtain ⟨reaped, decidedOn⟩ := settled _ returned nofun
  obtain ⟨spares, ends⟩ := systems (withBystander dropped)
  obtain ⟨_, gone⟩ := (ends (isSound_withBystander still)).2 (sent ▸ Nat.one_ne_zero)
  obtain ⟨stops, _⟩ := (systems (withBystander decided)).2 (isSound_withBystander running)
  exact ⟨decided, reached, dropped, playedFirst, played, returned, playedDrop, wasDropped,
    ⟨reaped, once, decidedOn⟩, tended (wasDropped ▸ trivial),
    (spares bystander (.tail _ (.head _)) (show 2 ≠ 1 by decide) rfl).2, gone, stops _ expired,
    (runs lonelyJob lonelySystem spawned alone spawns).1⟩

end Exchange

end ShellSmoke
