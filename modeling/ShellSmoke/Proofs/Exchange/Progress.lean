/-
This file proves that feeding and draining cannot lock each other out. In an encounter with a single
process the books of the descriptors are exact: the pipes have no readers and writers but the
harness and the target. So whenever the target waits for room in the output, the harness can drain;
whenever the harness waits for room in the script, the target has something to read; and whenever
one waits for an end, the other has closed it or can go on towards that. Some turn is therefore
always possible until the run has returned.
-/

import ShellSmoke.Proofs.Exchange.Conservation
import ShellSmoke.Proofs.Exchange.Turns

namespace ShellSmoke.Encounter

open Exchange (Deed Does EndIsFinal Move Moves Stream)

variable {State : Type} {target : Target State} {before after start reached : Encounter State}
variable {inputCapacity outputCapacity : Nat}

/-! ### The books of an encounter -/

/-- What a phase of a run without failures says of the child and of the output. -/
def PhaseKept (exchange : Exchange) : Prop :=
  match exchange.phase with
  | .spawned | .opening | .exchanging =>
    exchange.output.readers = 1 ∧ ∀ status, exchange.child ≠ .reaped status
  | .decided result | .stopping result | .returned result =>
    (∃ output exitCode, result = .ok (.completed output exitCode)) ∧
      ∃ status, exchange.child = .reaped status
  | .dropped => False

/-- The books of an encounter: each end of a pipe is held by the harness or the target and by nobody
else, and a target that has ended holds none. -/
structure Balanced (inputCapacity outputCapacity : Nat) (encounter : Encounter State) : Prop where
  inputCapacity_eq : encounter.exchange.input.capacity = inputCapacity
  outputCapacity_eq : encounter.exchange.output.capacity = outputCapacity
  inputReaders : encounter.exchange.input.readers = encounter.reads.toNat
  inputWriters : encounter.exchange.input.writers =
    match encounter.exchange.feed with
    | .writing _ => 1
    | .closed _ => 0
  outputWriters : encounter.exchange.output.writers = encounter.exchange.ownWriters +
    (encounter.writes .standardOutput).toNat + (encounter.writes .standardError).toNat
  gone : encounter.exchange.child ≠ .running →
    encounter.reads = false ∧ ∀ stream, encounter.writes stream = false
  phaseKept : PhaseKept encounter.exchange

theorem balanced_start (executable script : Bytes) (timeout : Duration) (state : State) :
    (Encounter.start executable script timeout inputCapacity outputCapacity state).Balanced
      inputCapacity outputCapacity where
  inputCapacity_eq := rfl
  outputCapacity_eq := rfl
  inputReaders := rfl
  inputWriters := rfl
  outputWriters := rfl
  gone ended := absurd rfl ended
  phaseKept := ⟨rfl, nofun⟩

theorem phaseKept_of_same {exchange later : Exchange} (kept : PhaseKept exchange)
    (phase : later.phase = exchange.phase)
    (readers : later.output.readers = exchange.output.readers)
    (child : later.child = exchange.child) : PhaseKept later := by
  unfold PhaseKept at kept ⊢
  rw [phase, readers, child]
  exact kept

theorem phaseKept_exit {exchange : Exchange} {status : ExitStatus} (kept : PhaseKept exchange)
    (running : exchange.child = .running) :
    PhaseKept { exchange with child := .ended status } := by
  unfold PhaseKept at kept ⊢
  dsimp only
  split at kept
  · exact ⟨kept.1, nofun⟩
  · exact ⟨kept.1, nofun⟩
  · exact ⟨kept.1, nofun⟩
  · obtain ⟨_, _, reaped⟩ := kept
    cases running.symm.trans reaped
  · obtain ⟨_, _, reaped⟩ := kept
    cases running.symm.trans reaped
  · obtain ⟨_, _, reaped⟩ := kept
    cases running.symm.trans reaped
  · exact kept

/-- A step of the harness that is no failure keeps the books. -/
theorem balanced_moves {move : Move} {exchange : Exchange}
    (kept : before.Balanced inputCapacity outputCapacity) (regular : isRegular move = true)
    (moves : Moves before.exchange move exchange) :
    ({ before with exchange } : Encounter State).Balanced inputCapacity outputCapacity := by
  have inputWriters := kept.inputWriters
  have outputWriters := kept.outputWriters
  have phaseKept := kept.phaseKept
  cases moves with
  | announce process phase =>
    rw [PhaseKept, phase] at phaseKept
    refine { kept with outputWriters := ?_, phaseKept }
    show before.exchange.output.writers - before.exchange.ownWriters =
      0 + (before.writes .standardOutput).toNat + (before.writes .standardError).toNat
    omega
  | openOutput phase =>
    rw [PhaseKept, phase] at phaseKept
    exact { kept with phaseKept }
  | write count rest phase feed positive fits available read =>
    rw [feed] at inputWriters
    exact { kept with inputWriters, phaseKept := phaseKept_of_same phaseKept rfl rfl rfl }
  | abandonInput rest phase feed | closeInput rest phase feed =>
    rw [feed] at inputWriters
    refine { kept with
      inputWriters := ?_, phaseKept := phaseKept_of_same phaseKept rfl rfl rfl }
    exact congrArg (fun writers => writers - 1) inputWriters
  | read | readEnd =>
    exact { kept with phaseKept := phaseKept_of_same phaseKept rfl rfl rfl }
  | reap early status phase feed ended child =>
    have gone := kept.gone (by rw [child]; nofun)
    have input : (match before.exchange.feed with
        | .writing _ => before.exchange.input.removeWriters 1
        | .closed _ => before.exchange.input) = before.exchange.input := by rw [feed]
    refine ⟨?_, kept.outputCapacity_eq, ?_, ?_, ?_, fun _ => gone, ⟨⟨_, _, rfl⟩, status, rfl⟩⟩
    · exact (congrArg Channel.capacity input).trans kept.inputCapacity_eq
    · exact (congrArg Channel.readers input).trans kept.inputReaders
    · exact (congrArg Channel.writers input).trans inputWriters
    · show before.exchange.output.writers - before.exchange.ownWriters =
        0 + (before.writes .standardOutput).toNat + (before.writes .standardError).toNat
      omega
  | kill result phase =>
    rw [PhaseKept, phase] at phaseKept
    exact { kept with phaseKept }
  | bury result status phase child =>
    rw [PhaseKept, phase] at phaseKept
    have gone := kept.gone (by rcases child with child | child <;> rw [child] <;> nofun)
    exact { kept with gone := fun _ => gone, phaseKept := ⟨phaseKept.1, status, rfl⟩ }
  | openOutputFails | writeFails | readFails | waitFails | expire | dropOpen | dropDecided
  | dropStopping =>
    cases regular

theorem balanced_closeInput? (kept : before.Balanced inputCapacity outputCapacity)
    (closed : before.closeInput? = some after) : after.Balanced inputCapacity outputCapacity := by
  rcases closeInput?_cases closed with ⟨_, rfl⟩ | ⟨exchange, reads, does, rfl⟩
  · exact kept
  · have inputReaders := kept.inputReaders
    rw [reads] at inputReaders
    cases does with
    | closeInput hasReader =>
      refine { kept with
        inputReaders := ?_
        gone := fun ended => ⟨rfl, (kept.gone ended).2⟩
        phaseKept := phaseKept_of_same kept.phaseKept rfl rfl rfl }
      show before.exchange.input.readers - 1 = 0
      rw [inputReaders]
      rfl

theorem balanced_closeOutput? {stream : Stream}
    (kept : before.Balanced inputCapacity outputCapacity)
    (closed : before.closeOutput? stream = some after) :
    after.Balanced inputCapacity outputCapacity := by
  rcases closeOutput?_cases closed with ⟨_, rfl⟩ | ⟨exchange, writes, does, rfl⟩
  · exact kept
  · have outputWriters := kept.outputWriters
    cases does with
    | closeOutput hasWriter =>
      refine { kept with
        outputWriters := ?_
        gone := fun ended => ⟨(kept.gone ended).1, fun other => ?_⟩
        phaseKept := phaseKept_of_same kept.phaseKept rfl rfl rfl }
      · show before.exchange.output.writers - 1 = before.exchange.ownWriters +
          (if Stream.standardOutput = stream then false
            else before.writes .standardOutput).toNat +
          (if Stream.standardError = stream then false else before.writes .standardError).toNat
        cases stream with
        | standardOutput =>
          rw [writes] at outputWriters
          simp only [reduceCtorEq, if_true, if_false, Bool.toNat_true, Bool.toNat_false] at *
          omega
        | standardError =>
          rw [writes] at outputWriters
          simp only [reduceCtorEq, if_true, if_false, Bool.toNat_true, Bool.toNat_false] at *
          omega
      · dsimp only
        rw [(kept.gone ended).2 other, ite_self]

/-- A turn keeps the books. -/
theorem balanced_takes {turn : Turn} (kept : before.Balanced inputCapacity outputCapacity)
    (takes : Takes target before turn after) : after.Balanced inputCapacity outputCapacity := by
  cases takes with
  | harness move exchange regular moves => exact balanced_moves kept regular moves
  | target count operation after running next operates =>
    cases operates with
    | readNothing | writeNothing => exact { kept with }
    | read limit exchange within reads does =>
      cases does with
      | read positive available hasReader =>
        exact { kept with phaseKept := phaseKept_of_same kept.phaseKept rfl rfl rfl }
    | write stream bytes part exchange unfinished writes next does =>
      cases does with
      | write positive fits hasWriter read =>
        exact { kept with phaseKept := phaseKept_of_same kept.phaseKept rfl rfl rfl }
    | closeInput closed closes => exact { balanced_closeInput? kept closes with }
    | closeOutput stream closed closes => exact { balanced_closeOutput? kept closes with }
    | exitInput status closed reads closes => exact balanced_closeInput? kept closes
    | exitOutput status stream closed reads opened closes => exact balanced_closeOutput? kept closes
    | exit status exchange reads closed does =>
      cases does with
      | exit _ child =>
        exact { kept with
          gone := fun _ => ⟨reads, closed⟩
          phaseKept := phaseKept_exit kept.phaseKept child }

/-- All that is known of an encounter whenever it is looked at. -/
structure Sound (inputCapacity outputCapacity : Nat) (encounter : Encounter State) : Prop
    extends encounter.Balanced inputCapacity outputCapacity where
  released : encounter.exchange.phase = .spawned ∨ encounter.exchange.ownWriters = 0
  endIsFinal : EndIsFinal encounter.exchange

theorem sound_play? {executable script : Bytes} {timeout : Duration} {state : State}
    {turns : List Turn}
    (played : (Encounter.start executable script timeout inputCapacity outputCapacity state).play?
      target turns = some reached) :
    reached.Sound inputCapacity outputCapacity := by
  have balanced : reached.Balanced inputCapacity outputCapacity :=
    play?_induction (balanced_start executable script timeout state)
      (fun _ _ _ kept takes => balanced_takes kept takes) played
  obtain ⟨actions, executed⟩ := exists_play?_exchange played
  exact ⟨balanced, (Exchange.writersKept_play executed).released,
    Exchange.endIsFinal_play executed⟩

/-! ### Some turn is possible -/

/-- Whether some turn is possible. -/
def CanGoOn (target : Target State) (encounter : Encounter State) : Prop :=
  ∃ turn later, encounter.turn? target turn = some later

theorem canGoOn_of_moves {move : Move} {exchange : Exchange} (regular : isRegular move = true)
    (moves : Moves before.exchange move exchange) : before.CanGoOn target := by
  refine ⟨.harness move, { before with exchange }, ?_⟩
  rw [turn?, if_pos regular, Exchange.move?_eq_some_iff.mpr moves]
  rfl

theorem canGoOn_of_operate? {count : Nat} {operation : Operation} {later : Encounter State}
    (running : before.exchange.child = .running) (next : target.next? before.state = some operation)
    (operates : before.operate? target count operation = some later) :
    before.CanGoOn target := by
  refine ⟨.target count, later, ?_⟩
  rw [turn?, running, next]
  exact operates

/-- A target that lets go of its descriptor for reading the script always can. -/
theorem exists_closeInput? (kept : before.Balanced inputCapacity outputCapacity) :
    ∃ closed, before.closeInput? = some closed := by
  unfold closeInput?
  split
  · rename_i reads
    have hasReader : before.exchange.input.broken = false := by
      rw [Channel.broken, kept.inputReaders, reads]
      rfl
    exact ⟨_, by rw [Exchange.deed?_eq_some_iff.mpr (.closeInput hasReader)]; rfl⟩
  · exact ⟨before, rfl⟩

/-- The descriptors for writing output that the target has are open beside the harness's own. -/
theorem own_lt_writers (kept : before.Balanced inputCapacity outputCapacity) {stream : Stream}
    (writes : before.writes stream = true) :
    before.exchange.ownWriters < before.exchange.output.writers := by
  have total := kept.outputWriters
  cases stream with
  | standardOutput =>
    rw [writes, Bool.toNat_true] at total
    omega
  | standardError =>
    rw [writes, Bool.toNat_true] at total
    omega

theorem exists_closeOutput? (kept : before.Balanced inputCapacity outputCapacity)
    (stream : Stream) : ∃ closed, before.closeOutput? stream = some closed := by
  unfold closeOutput?
  split
  · rename_i writes
    have hasWriter := own_lt_writers kept writes
    exact ⟨_, by rw [Exchange.deed?_eq_some_iff.mpr (.closeOutput hasWriter)]; rfl⟩
  · exact ⟨before, rfl⟩

/-- A target that does not have to wait for the script can go on reading. -/
theorem exists_read? (kept : before.Balanced inputCapacity outputCapacity) (limit : Nat)
    (readable : 0 < before.exchange.input.held.size ∨ before.exchange.input.writers = 0) :
    ∃ later, before.operate? target 1 (.read limit) = some later := by
  unfold operate?
  dsimp only
  split
  · exact ⟨_, rfl⟩
  · rename_i asks
    rw [not_or, Classical.not_not] at asks
    split
    · exact ⟨_, rfl⟩
    · rename_i notAtEnd
      have available : 0 < before.exchange.input.held.size := by
        rcases readable with available | closed
        · exact available
        · rw [Channel.atEnd, closed, Buffer.isEmpty, beq_self_eq_true, Bool.and_true,
            beq_iff_eq] at notAtEnd
          exact Nat.pos_of_ne_zero notAtEnd
      have hasReader : before.exchange.input.broken = false := by
        rw [Channel.broken, kept.inputReaders, asks.2]
        rfl
      have within : 1 ≤ limit := Nat.pos_of_ne_zero asks.1
      rw [if_pos within,
        Exchange.deed?_eq_some_iff.mpr (.read 1 Nat.one_pos available hasReader)]
      exact ⟨_, rfl⟩

/-- A target that does not have to wait for room in the output can go on writing. -/
theorem exists_write? (kept : before.Balanced inputCapacity outputCapacity) (stream : Stream)
    (bytes : Bytes) (drained : before.exchange.output.readers = 1)
    (room : 0 < before.exchange.output.free ∨ before.writes stream = false) :
    ∃ later, before.operate? target 1 (.write stream bytes) = some later := by
  unfold operate?
  dsimp only
  split
  · exact ⟨_, rfl⟩
  · rename_i asks
    rw [not_or, Nat.not_le, Classical.not_not] at asks
    obtain ⟨part, next⟩ : ∃ part, part = Buffer.ofBytes ((bytes.drop before.done).take 1) :=
      ⟨_, rfl⟩
    have size : part.size = 1 := by
      rw [part.size_eq, next]
      show ((bytes.drop before.done).take 1).length = 1
      rw [List.length_take, List.length_drop]
      omega
    have free := room.resolve_right (ne_false_of_eq_true asks.2)
    have read : before.exchange.output.broken = false := by
      rw [Channel.broken, drained]
      rfl
    rw [← next, Exchange.deed?_eq_some_iff.mpr
      (.write stream part (by omega) (by omega) (own_lt_writers kept asks.2) read)]
    exact ⟨_, rfl⟩

/-- A target that asks for something can go on with it if it does not have to wait. -/
theorem canGoOn_of_pending (kept : before.Balanced inputCapacity outputCapacity)
    {operation : Operation} (running : before.exchange.child = .running)
    (next : target.next? before.state = some operation)
    (readable : 0 < before.exchange.input.held.size ∨ before.exchange.input.writers = 0)
    (drained : before.exchange.output.readers = 1)
    (room : 0 < before.exchange.output.free ∨ ∀ stream, before.writes stream = false) :
    before.CanGoOn target := by
  suffices operates : ∃ later, before.operate? target 1 operation = some later by
    obtain ⟨later, operates⟩ := operates
    exact canGoOn_of_operate? running next operates
  cases operation with
  | read limit => exact exists_read? kept limit readable
  | write stream bytes =>
    exact exists_write? kept stream bytes drained (room.imp_right fun closed => closed stream)
  | closeInput =>
    obtain ⟨closed, closes⟩ := exists_closeInput? kept
    exact ⟨closed.complete target [], by rw [operate?, closes]; rfl⟩
  | closeOutput stream =>
    obtain ⟨closed, closes⟩ := exists_closeOutput? kept stream
    exact ⟨closed.complete target [], by rw [operate?, closes]; rfl⟩
  | exit status =>
    unfold operate?
    dsimp only
    split
    · exact exists_closeInput? kept
    · split
      · rename_i stream opened
        exact exists_closeOutput? kept stream
      · rw [Exchange.deed?_eq_some_iff.mpr (.exit status running)]
        exact ⟨_, rfl⟩

/-- A target has a descriptor for writing output exactly as long as one is open, once the harness
has none of its own. -/
theorem writes_eq_false_iff (kept : before.Balanced inputCapacity outputCapacity)
    (own : before.exchange.ownWriters = 0) :
    (∀ stream, before.writes stream = false) ↔ before.exchange.output.writers = 0 := by
  have total := kept.outputWriters
  constructor
  · intro closed
    rw [own, closed, closed] at total
    exact total
  · intro none stream
    by_contra writes
    have some := own_lt_writers kept (eq_true_of_ne_false writes)
    omega

/-- A target that still has a descriptor has not exited. -/
theorem running_of_reads (kept : before.Balanced inputCapacity outputCapacity)
    (reads : before.reads = true) : before.exchange.child = .running := by
  by_contra ended
  cases (kept.gone ended).1.symm.trans reads

theorem running_of_writers (kept : before.Balanced inputCapacity outputCapacity)
    (own : before.exchange.ownWriters = 0) (some : before.exchange.output.writers ≠ 0) :
    before.exchange.child = .running := by
  by_contra ended
  exact some ((writes_eq_false_iff kept own).mp (kept.gone ended).2)

/-- Unless the harness can drain, the target does not have to wait for room in the output. -/
theorem canGoOn_or_room (sound : before.Sound inputCapacity outputCapacity)
    (outputPositive : 0 < outputCapacity) (phase : before.exchange.phase = .exchanging)
    (own : before.exchange.ownWriters = 0) :
    before.CanGoOn target ∨
      (0 < before.exchange.output.free ∨ ∀ stream, before.writes stream = false) := by
  have kept := sound.toBalanced
  by_cases room : 0 < before.exchange.output.free
  · exact .inr (.inl room)
  · have full : 0 < before.exchange.output.held.size := by
      rw [Channel.free, kept.outputCapacity_eq] at room
      omega
    cases ended : before.exchange.drain.ended with
    | false => exact .inl (canGoOn_of_moves rfl (.read 1 phase Nat.one_pos full ended))
    | true => exact .inr (.inr ((writes_eq_false_iff kept own).mpr (sound.endIsFinal ended).2))

/-- While the harness feeds, it can go on with that, or there is something in the pipe that the
target can read. -/
theorem canGoOn_of_writing (kept : before.Balanced inputCapacity outputCapacity)
    (inputPositive : 0 < inputCapacity) (phase : before.exchange.phase = .exchanging)
    (drained : before.exchange.output.readers = 1)
    (room : 0 < before.exchange.output.free ∨ ∀ stream, before.writes stream = false)
    (pending : (∃ operation, target.next? before.state = some operation) ∨
      before.exchange.child ≠ .running)
    {rest : Buffer} (feed : before.exchange.feed = .writing rest) : before.CanGoOn target := by
  cases finished : rest.isEmpty with
  | true => exact canGoOn_of_moves rfl (.closeInput rest phase feed finished)
  | false =>
    cases broken : before.exchange.input.broken with
    | true => exact canGoOn_of_moves rfl (.abandonInput rest phase feed broken finished)
    | false =>
      by_cases free : 0 < before.exchange.input.free
      · rw [Buffer.isEmpty, beq_eq_false_iff_ne] at finished
        exact canGoOn_of_moves rfl
          (.write 1 rest phase feed Nat.one_pos free (Nat.pos_of_ne_zero finished) broken)
      · -- The script waits for room, so there is something in the pipe for the target to read.
        have reads : before.reads = true := by
          by_contra notReads
          rw [Channel.broken, kept.inputReaders, eq_false_of_ne_true notReads] at broken
          cases broken
        have held : 0 < before.exchange.input.held.size := by
          rw [Channel.free, kept.inputCapacity_eq] at free
          omega
        have running := running_of_reads kept reads
        obtain ⟨operation, next⟩ := pending.resolve_right fun ended => ended running
        exact canGoOn_of_pending kept running next (.inl held) drained room

/-- When the harness has closed its end of the script, it can go on draining or reaps the child, or
the target does not have to wait for the script. -/
theorem canGoOn_of_closed (kept : before.Balanced inputCapacity outputCapacity)
    (phase : before.exchange.phase = .exchanging) (own : before.exchange.ownWriters = 0)
    (drained : before.exchange.output.readers = 1)
    (notReaped : ∀ status, before.exchange.child ≠ .reaped status)
    (room : 0 < before.exchange.output.free ∨ ∀ stream, before.writes stream = false)
    (pending : (∃ operation, target.next? before.state = some operation) ∨
      before.exchange.child ≠ .running)
    {early : Bool} (feed : before.exchange.feed = .closed early) : before.CanGoOn target := by
  have inputClosed : before.exchange.input.writers = 0 := by
    have inputWriters := kept.inputWriters
    rw [feed] at inputWriters
    exact inputWriters
  have waits (running : before.exchange.child = .running) : before.CanGoOn target := by
    obtain ⟨operation, next⟩ := pending.resolve_right fun ended => ended running
    exact canGoOn_of_pending kept running next (.inr inputClosed) drained room
  cases ended : before.exchange.drain.ended with
  | true =>
    cases child : before.exchange.child with
    | running => exact waits child
    | ended status => exact canGoOn_of_moves rfl (.reap early status phase feed ended child)
    | reaped status => exact absurd child (notReaped status)
  | false =>
    by_cases available : 0 < before.exchange.output.held.size
    · exact canGoOn_of_moves rfl (.read 1 phase Nat.one_pos available ended)
    by_cases closed : before.exchange.output.writers = 0
    · have atEnd : before.exchange.output.atEnd = true := by
        rw [Channel.atEnd, Buffer.isEmpty, Nat.eq_zero_of_not_pos available, closed]
        rfl
      exact canGoOn_of_moves rfl (.readEnd phase atEnd ended)
    · exact waits (running_of_writers kept own closed)

/-- While the harness feeds, drains and waits, some turn is possible. -/
theorem canGoOn_of_exchanging (sound : before.Sound inputCapacity outputCapacity)
    (inputPositive : 0 < inputCapacity) (outputPositive : 0 < outputCapacity)
    (phase : before.exchange.phase = .exchanging)
    (pending : (∃ operation, target.next? before.state = some operation) ∨
      before.exchange.child ≠ .running) :
    before.CanGoOn target := by
  have kept := sound.toBalanced
  have phaseKept := kept.phaseKept
  rw [PhaseKept, phase] at phaseKept
  obtain ⟨drained, notReaped⟩ := phaseKept
  have own : before.exchange.ownWriters = 0 := by
    refine sound.released.resolve_left fun spawned => ?_
    cases phase.symm.trans spawned
  rcases canGoOn_or_room sound outputPositive phase own with goesOn | room
  · exact goesOn
  · cases feed : before.exchange.feed with
    | writing rest =>
      exact canGoOn_of_writing kept inputPositive phase drained room pending feed
    | closed early => exact canGoOn_of_closed kept phase own drained notReaped room pending feed

/-- Until the run has returned, some turn is possible. -/
theorem canGoOn_of_sound (sound : before.Sound inputCapacity outputCapacity)
    (inputPositive : 0 < inputCapacity) (outputPositive : 0 < outputCapacity)
    (unfinished : ∀ result, before.exchange.phase ≠ .returned result)
    (pending : (∃ operation, target.next? before.state = some operation) ∨
      before.exchange.child ≠ .running) :
    before.CanGoOn target := by
  have phaseKept := sound.phaseKept
  unfold PhaseKept at phaseKept
  cases phase : before.exchange.phase with
  | spawned => exact canGoOn_of_moves rfl (.announce 0 phase)
  | opening => exact canGoOn_of_moves rfl (.openOutput phase)
  | exchanging => exact canGoOn_of_exchanging sound inputPositive outputPositive phase pending
  | decided result => exact canGoOn_of_moves rfl (.kill result phase)
  | stopping result =>
    rw [phase] at phaseKept
    obtain ⟨_, status, reaped⟩ := phaseKept
    exact canGoOn_of_moves rfl (.bury result status phase (.inr reaped))
  | returned result => exact absurd phase (unfinished result)
  | dropped =>
    rw [phase] at phaseKept
    cases phaseKept

end ShellSmoke.Encounter
