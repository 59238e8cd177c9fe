/-
This file proves that the result of a completed run does not depend on the schedule. In an encounter
a target gets ahead in pieces, but each operation that it completes is one that it could complete on
its own: what it has not read is what is left of the script as long as it can read at all, and what
was written is what it wrote. So a completed run shows what the target comes to on its own, and
nothing but that. A target that reads byte by byte comes to one thing only, whence all its completed
runs agree, and with them the verdicts and the transcripts.
-/

import ShellSmoke.Exchange.Solo
import ShellSmoke.Harness
import ShellSmoke.Proofs.Exchange.Deadline
import ShellSmoke.Proofs.Exchange.Termination

namespace ShellSmoke

open Exchange (Does Move Moves Stream)
open Relation (ReflTransGen)

/-! ### On its own -/

namespace Solo

variable {State : Type} {target : Target State} {solo : Solo State}

theorem not_step_of_exit {status : ExitStatus} {later : Solo State}
    (exits : target.next? solo.state = some (.exit status)) : ¬ Step target solo later := by
  intro step
  cases step with
  | read _ _ next | readNothing _ next | write _ _ next | closeInput next | closeOutput _ next =>
    cases exits.symm.trans next

/-- A read that can bring something does not bring nothing. -/
theorem not_readNothing {limit count : Nat} (reads : solo.reads = true) (positive : 0 < count)
    (within : count ≤ limit) (available : count ≤ solo.left.length) :
    ¬ (limit = 0 ∨ solo.reads = false ∨ solo.left = []) := by
  rintro (none | closed | empty)
  · omega
  · cases reads.symm.trans closed
  · rw [empty, List.length_nil] at available
    omega

/-- A target that reads byte by byte completes each operation in one way only. -/
theorem rightUnique_step (bytewise : target.ReadsBytewise) :
    Relator.RightUnique (Step target) := by
  intro solo first second one other
  cases one with
  | read limit count next reads positive within available =>
    cases other with
    | read otherLimit otherCount otherNext _ otherPositive otherWithin =>
      have bound := bytewise solo.state limit next
      have otherBound := bytewise solo.state otherLimit otherNext
      have same : count = otherCount := by omega
      rw [same]
    | readNothing otherLimit otherNext nothing =>
      cases next.symm.trans otherNext
      exact absurd nothing (not_readNothing reads positive within available)
    | write _ _ otherNext | closeInput otherNext | closeOutput _ otherNext =>
      cases next.symm.trans otherNext
  | readNothing limit next nothing =>
    cases other with
    | read otherLimit count otherNext reads positive within available =>
      cases next.symm.trans otherNext
      exact absurd nothing (not_readNothing reads positive within available)
    | readNothing => rfl
    | write _ _ otherNext | closeInput otherNext | closeOutput _ otherNext =>
      cases next.symm.trans otherNext
  | write stream bytes next =>
    cases other with
    | write otherStream otherBytes otherNext =>
      cases next.symm.trans otherNext
      rfl
    | read _ _ otherNext | readNothing _ otherNext | closeInput otherNext
    | closeOutput _ otherNext => cases next.symm.trans otherNext
  | closeInput next =>
    cases other with
    | closeInput => rfl
    | read _ _ otherNext | readNothing _ otherNext | write _ _ otherNext
    | closeOutput _ otherNext => cases next.symm.trans otherNext
  | closeOutput stream next =>
    cases other with
    | closeOutput otherStream otherNext =>
      cases next.symm.trans otherNext
      rfl
    | read _ _ otherNext | readNothing _ otherNext | write _ _ otherNext
    | closeInput otherNext => cases next.symm.trans otherNext

end Solo

/-- A target that reads byte by byte comes to one output and one exit. -/
theorem Target.Yields.unique {State : Type} {target : Target State} {state : State}
    {script output otherOutput : Bytes} {status otherStatus : ExitStatus}
    (bytewise : target.ReadsBytewise) (yields : target.Yields state script output status)
    (otherYields : target.Yields state script otherOutput otherStatus) :
    output = otherOutput ∧ status = otherStatus := by
  obtain ⟨last, reaches, exits, rfl⟩ := yields
  obtain ⟨otherLast, otherReaches, otherExits, rfl⟩ := otherYields
  -- Of two ways to an exit one leads on from the other, and no step leads on from an exit.
  have stays {first second : Solo State} {status : ExitStatus}
      (exits : target.next? first.state = some (.exit status))
      (goesOn : ReflTransGen (Solo.Step target) first second) : first = second := by
    rcases goesOn.cases_head with same | ⟨_, step, _⟩
    · exact same
    · exact absurd step (Solo.not_step_of_exit exits)
  have same : last = otherLast := by
    rcases ReflTransGen.total_of_right_unique (Solo.rightUnique_step bytewise) reaches
      otherReaches with goesOn | goesOn
    · exact stays exits goesOn
    · exact (stays otherExits goesOn).symm
  subst same
  cases exits.symm.trans otherExits
  exact ⟨rfl, rfl⟩

/-! ### The unread part of the script -/

/-- As long as somebody can read the script, a step of the harness that is no failure leaves what
can still be read. -/
theorem Exchange.unread_eq_of_moves {before after : Exchange} {move : Move}
    (regular : Encounter.isRegular move = true) (hasReader : before.input.broken = false)
    (moves : Moves before move after) : after.unread = before.unread := by
  cases moves with
  | write count rest phase feed =>
    simp only [unread, feed, Channel.push, Buffer.append, Buffer.take, Buffer.drop,
      List.append_assoc, List.take_append_drop]
  | abandonInput rest phase feed broken => cases hasReader.symm.trans broken
  | closeInput rest phase feed finished =>
    simp only [unread, report, endFeed, feed, Channel.removeWriters, Buffer.bytes_eq_nil finished]
  | reap early status phase feed => simp only [unread, report, decide, closeEnds, feed]
  | announce | openOutput | read | readEnd | kill | bury => rfl
  | openOutputFails | writeFails | readFails | waitFails | expire | dropOpen | dropDecided
  | dropStopping =>
    cases regular

/-- What a reader takes is the first of what can still be read, and the rest stays. -/
theorem Exchange.take_held_eq {exchange : Exchange} {count : Nat}
    (available : count ≤ exchange.input.held.size) :
    exchange.input.held.bytes.take count = exchange.unread.take count ∧
      Exchange.unread { exchange with input := exchange.input.pull count } =
        exchange.unread.drop count ∧
      count ≤ exchange.unread.length := by
  have size := exchange.input.held.size_eq
  unfold unread Channel.pull Buffer.drop
  rw [List.take_append_of_le_length (by omega), List.drop_append_of_le_length (by omega),
    List.length_append]
  exact ⟨rfl, rfl, by omega⟩

namespace Encounter

variable {State : Type} {target : Target State} {before after reached : Encounter State}
variable {inputCapacity outputCapacity : Nat}

/-- Nothing is left to be read when a reader sees the end of the script. -/
theorem unread_eq_nil_of_atEnd (kept : before.Balanced inputCapacity outputCapacity)
    (atEnd : before.exchange.input.atEnd = true) : before.exchange.unread = [] := by
  rw [Channel.atEnd, Bool.and_eq_true, beq_iff_eq] at atEnd
  have inputWriters := kept.inputWriters
  rw [atEnd.2] at inputWriters
  unfold Exchange.unread
  rw [Buffer.bytes_eq_nil atEnd.1]
  cases feed : before.exchange.feed with
  | writing rest =>
    rw [feed] at inputWriters
    cases inputWriters
  | closed early => rfl

/-- A target that has let go of its descriptor for reading the script has changed nothing else but
that pipe. -/
theorem exists_of_closeInput? (closes : before.closeInput? = some after) :
    ∃ input, after = { before with
      exchange := { before.exchange with input }
      reads := false } := by
  rcases closeInput?_cases closes with ⟨reads, rfl⟩ | ⟨exchange, _, does, rfl⟩
  · exact ⟨after.exchange.input, by rw [← reads]⟩
  · cases does
    exact ⟨_, rfl⟩

/-- A target that has let go of a descriptor for writing output has changed nothing else but the
number of those. -/
theorem exists_of_closeOutput? {stream : Stream} (closes : before.closeOutput? stream = some after) :
    ∃ output, output.held = before.exchange.output.held ∧ after = { before with
      exchange := { before.exchange with output }
      writes := fun other => if other = stream then false else before.writes other } := by
  rcases closeOutput?_cases closes with ⟨writes, rfl⟩ | ⟨exchange, _, does, rfl⟩
  · have same : (fun other => if other = stream then false else after.writes other) =
        after.writes := by
      funext other
      split
      · rename_i same
        rw [same, writes]
      · rfl
    exact ⟨after.exchange.output, rfl, by rw [same]⟩
  · cases does
    exact ⟨before.exchange.output.removeWriters 1, rfl, rfl⟩

/-! ### An encounter and a target on its own -/

/-- What the target has written of the operation that it is at. -/
def begun (target : Target State) (encounter : Encounter State) : Bytes :=
  match target.next? encounter.state with
  | some (.write _ bytes) => bytes.take encounter.done
  | _ => []

/-- Whether the target is at its exit. -/
def IsExiting (target : Target State) (encounter : Encounter State) : Prop :=
  ∃ status, target.next? encounter.state = some (.exit status)

/-- Whether a target on its own has come as far as the target of an encounter. It has its
descriptors until its exit; that the script is shorter for the one that cannot read any more does
not matter. -/
structure Mirrors (target : Target State) (solo : Solo State) (encounter : Encounter State) :
    Prop where
  state : encounter.state = solo.state
  reads : ¬ IsExiting target encounter → encounter.reads = solo.reads
  writes : ¬ IsExiting target encounter → encounter.writes = solo.writes
  unread : encounter.reads = true → encounter.exchange.unread = solo.left
  written : encounter.exchange.drain.collected ++ encounter.exchange.output.held.bytes =
    solo.written ++ encounter.begun target
  writing : 0 < encounter.done → ∃ stream bytes,
    target.next? encounter.state = some (.write stream bytes) ∧ encounter.writes stream = true
  gone : encounter.exchange.child = .running ∨ ∃ status,
    target.next? encounter.state = some (.exit status) ∧
      (encounter.exchange.child = .ended status ∨ encounter.exchange.child = .reaped status)

theorem mirrors_start (executable script : Bytes) (timeout : Duration) (state : State) :
    Mirrors target (.start state script)
      (.start executable script timeout inputCapacity outputCapacity state) where
  state := rfl
  reads _ := rfl
  writes _ := rfl
  unread _ := rfl
  written := by
    show [] = [] ++ begun target _
    unfold begun
    split <;> rfl
  writing started := absurd started (Nat.lt_irrefl 0)
  gone := .inl rfl

theorem not_isExiting {operation : Operation}
    (next : target.next? before.state = some operation)
    (notExit : ∀ status, operation ≠ .exit status) : ¬ IsExiting target before := by
  rintro ⟨status, exits⟩
  exact notExit status (Option.some.inj (next.symm.trans exits))

/-- Nothing is begun of an operation of which no byte was accepted. -/
theorem begun_eq_nil (idle : before.done = 0) : before.begun target = [] := by
  unfold begun
  split
  · rw [idle, List.take_zero]
  · rfl

/-- Nothing is begun of an operation that is no write. -/
theorem begun_eq_nil_of_next {operation : Operation}
    (next : target.next? before.state = some operation)
    (other : ∀ stream bytes, operation ≠ .write stream bytes) : before.begun target = [] := by
  unfold begun
  split
  · rename_i stream bytes asks
    exact absurd (Option.some.inj (next.symm.trans asks)) (other stream bytes)
  · rfl

/-- A step of the harness leaves a target where it is. -/
theorem mirrors_moves {solo : Solo State} {move : Move} {exchange : Exchange}
    (kept : before.Balanced inputCapacity outputCapacity) (mirrors : Mirrors target solo before)
    (regular : isRegular move = true) (moves : Moves before.exchange move exchange) :
    Mirrors target solo { before with exchange } where
  state := mirrors.state
  reads := mirrors.reads
  writes := mirrors.writes
  unread reads := by
    have hasReader : before.exchange.input.broken = false := by
      rw [Channel.broken, kept.inputReaders, show before.reads = true from reads]
      rfl
    exact (Exchange.unread_eq_of_moves regular hasReader moves).trans (mirrors.unread reads)
  written := (Exchange.output_moves moves).trans mirrors.written
  writing := mirrors.writing
  gone := by
    rcases Exchange.child_moves moves with same | ⟨status, reaped, ended⟩
    · show exchange.child = .running ∨ _
      rw [same]
      exact mirrors.gone
    · refine .inr ?_
      rcases mirrors.gone with running | ⟨known, exits, child⟩
      · rcases ended with ended | ended <;> cases running.symm.trans ended
      · have same : status = known := by
          rcases ended with ended | ended <;> rcases child with child | child <;>
            cases ended.symm.trans child <;> rfl
        exact ⟨known, exits, .inr (same ▸ reaped)⟩

/-- A completed operation leaves a target as one on its own that has completed it. -/
theorem mirrors_complete {later : Solo State} {bytes : Bytes}
    (state : target.after before.state bytes = later.state) (reads : before.reads = later.reads)
    (writes : before.writes = later.writes)
    (unread : before.reads = true → before.exchange.unread = later.left)
    (written : before.exchange.drain.collected ++ before.exchange.output.held.bytes =
      later.written)
    (running : before.exchange.child = .running) :
    Mirrors target later (before.complete target bytes) where
  state := state
  reads _ := reads
  writes _ := writes
  unread := unread
  written := by
    rw [begun_eq_nil rfl, List.append_nil]
    exact written
  writing started := absurd started (Nat.lt_irrefl 0)
  gone := .inl running

/-- A write that is complete has written all of its bytes, if the target could write them. -/
theorem begun_eq_of_writeNothing {solo : Solo State} {stream : Stream} {bytes : Bytes}
    (mirrors : Mirrors target solo before)
    (next : target.next? before.state = some (.write stream bytes))
    (nothing : bytes.length ≤ before.done ∨ before.writes stream = false) :
    before.begun target = if solo.writes stream then bytes else [] := by
  rw [← mirrors.writes (not_isExiting next nofun), begun, next]
  dsimp only
  cases writes : before.writes stream with
  | true =>
    have complete := nothing.resolve_right (ne_false_of_eq_true writes)
    rw [if_pos rfl, List.take_of_length_le complete]
  | false =>
    have idle : before.done = 0 := by
      by_contra started
      obtain ⟨other, others, asks, open_⟩ := mirrors.writing (Nat.pos_of_ne_zero started)
      cases next.symm.trans asks
      cases writes.symm.trans open_
    rw [idle, List.take_zero]
    rfl

/-- What is accepted of a write goes on where what was accepted before ends. -/
theorem begun_append {stream : Stream} {bytes : Bytes} {part : Buffer}
    (next : target.next? before.state = some (.write stream bytes))
    (chunk : part.bytes <+: bytes.drop before.done) :
    before.begun target ++ part.bytes = bytes.take (before.done + part.size) := by
  have same : part.bytes = (bytes.drop before.done).take part.size := by
    rw [part.size_eq]
    exact List.prefix_iff_eq_take.mp chunk
  rw [begun, next, List.take_add, ← same]

/-- A read that brings nothing in an encounter brings nothing to a target on its own. -/
theorem nothing_of_readNothing {solo : Solo State} {limit : Nat}
    (kept : before.Balanced inputCapacity outputCapacity) (mirrors : Mirrors target solo before)
    (next : target.next? before.state = some (.read limit))
    (nothing : limit = 0 ∨ before.reads = false ∨ before.exchange.input.atEnd = true) :
    limit = 0 ∨ solo.reads = false ∨ solo.left = [] := by
  rw [← mirrors.reads (not_isExiting next (by simp))]
  cases reads : before.reads with
  | false => exact .inr (.inl rfl)
  | true =>
    rcases nothing with none | closed | atEnd
    · exact .inl none
    · cases reads.symm.trans closed
    · refine .inr (.inr ?_)
      rw [← mirrors.unread reads]
      exact unread_eq_nil_of_atEnd kept atEnd

/-- A target that is one operation further on is as one on its own that is one operation further
on, and a target within an operation stays as it is. -/
theorem mirrors_operates {solo : Solo State} {count : Nat} {operation : Operation}
    (kept : before.Balanced inputCapacity outputCapacity) (mirrors : Mirrors target solo before)
    (running : before.exchange.child = .running)
    (next : target.next? before.state = some operation)
    (operates : Operates target count before operation after) :
    ∃ later, ReflTransGen (Solo.Step target) solo later ∧ Mirrors target later after := by
  have nextSolo : target.next? solo.state = some operation := mirrors.state ▸ next
  cases operates with
  | readNothing limit nothing =>
    have notExiting := not_isExiting next (by simp)
    have soloNothing := nothing_of_readNothing kept mirrors next nothing
    refine ⟨_, .single (.readNothing limit nextSolo soloNothing), mirrors_complete ?_
      (mirrors.reads notExiting) (mirrors.writes notExiting) mirrors.unread ?_ running⟩
    · rw [mirrors.state]
    · rw [mirrors.written, begun_eq_nil_of_next next (by simp), List.append_nil]
  | read limit exchange within reads does =>
    have notExiting := not_isExiting next (by simp)
    have unread := mirrors.unread reads
    cases does with
    | read _ positive available hasReader =>
      obtain ⟨taken, left, enough⟩ := Exchange.take_held_eq available
      rw [unread] at taken left enough
      have soloReads := (mirrors.reads notExiting).symm.trans reads
      let pulled : Encounter State := { before with
        exchange := { before.exchange with input := before.exchange.input.pull count } }
      show ∃ later, _ ∧ Mirrors target later
        (pulled.complete target (before.exchange.input.held.bytes.take count))
      refine ⟨_, .single (.read limit count nextSolo soloReads positive within enough),
        mirrors_complete ?_ (mirrors.reads notExiting)
          (mirrors.writes notExiting) (fun _ => left) ?_ running⟩
      · rw [taken, mirrors.state]
      · refine mirrors.written.trans ?_
        rw [begun_eq_nil_of_next next (by simp), List.append_nil]
  | writeNothing stream bytes nothing =>
    have notExiting := not_isExiting next (by simp)
    refine ⟨_, .single (.write stream bytes nextSolo), mirrors_complete ?_
      (mirrors.reads notExiting) (mirrors.writes notExiting) mirrors.unread ?_ running⟩
    · rw [mirrors.state]
    · rw [mirrors.written, begun_eq_of_writeNothing mirrors next nothing]
  | write stream bytes part exchange unfinished writes chunk does =>
    cases does with
    | write _ _ positive fits hasWriter read =>
      refine ⟨solo, .refl, mirrors.state, mirrors.reads, mirrors.writes, mirrors.unread, ?_,
        fun _ => ⟨stream, bytes, next, writes⟩, .inl running⟩
      have front : part.bytes <+: bytes.drop before.done := by
        rw [chunk]
        exact List.take_prefix _ _
      have begins := begun_append next front
      show before.exchange.drain.collected ++ (before.exchange.output.held.bytes ++ part.bytes) = _
      rw [← List.append_assoc, mirrors.written, List.append_assoc, begins, begun, next]
  | closeInput closed closes =>
    have notExiting := not_isExiting next (by simp)
    obtain ⟨input, rfl⟩ := exists_of_closeInput? closes
    refine ⟨_, .single (.closeInput nextSolo), mirrors_complete ?_ rfl (mirrors.writes notExiting)
      (fun reads => absurd reads Bool.false_ne_true) ?_ running⟩
    · exact congrArg (fun state => target.after state []) mirrors.state
    · refine mirrors.written.trans ?_
      rw [begun_eq_nil_of_next next (by simp), List.append_nil]
  | closeOutput stream closed closes =>
    have notExiting := not_isExiting next (by simp)
    obtain ⟨output, held, rfl⟩ := exists_of_closeOutput? closes
    refine ⟨_, .single (.closeOutput stream nextSolo), mirrors_complete ?_
      (mirrors.reads notExiting) ?_ mirrors.unread ?_ running⟩
    · exact congrArg (fun state => target.after state []) mirrors.state
    · rw [mirrors.writes notExiting]
    · show before.exchange.drain.collected ++ output.held.bytes = solo.written
      rw [held, mirrors.written, begun_eq_nil_of_next next (by simp), List.append_nil]
  | exitInput status closed reads closes =>
    have exiting : IsExiting target before := ⟨status, next⟩
    obtain ⟨input, rfl⟩ := exists_of_closeInput? closes
    exact ⟨solo, .refl, mirrors.state, fun not => absurd exiting not, mirrors.writes,
      fun reads => absurd reads Bool.false_ne_true, mirrors.written, mirrors.writing, .inl running⟩
  | exitOutput status stream closed reads opened closes =>
    have exiting : IsExiting target before := ⟨status, next⟩
    obtain ⟨output, held, rfl⟩ := exists_of_closeOutput? closes
    refine ⟨solo, .refl, mirrors.state, fun not => absurd exiting not,
      fun not => absurd exiting not, mirrors.unread, ?_, fun started => ?_, .inl running⟩
    · show before.exchange.drain.collected ++ output.held.bytes = _
      rw [held]
      exact mirrors.written
    · obtain ⟨_, _, asks, _⟩ := mirrors.writing started
      cases next.symm.trans asks
  | exit status exchange reads closed does =>
    cases does with
    | exit _ child =>
      exact ⟨solo, .refl, mirrors.state, mirrors.reads, mirrors.writes, mirrors.unread,
        mirrors.written, mirrors.writing, .inr ⟨status, next, .inl rfl⟩⟩

/-- A turn takes a target no further than one on its own can come. -/
theorem mirrors_takes {solo : Solo State} {turn : Turn}
    (kept : before.Balanced inputCapacity outputCapacity) (mirrors : Mirrors target solo before)
    (takes : Takes target before turn after) :
    ∃ later, ReflTransGen (Solo.Step target) solo later ∧ Mirrors target later after := by
  cases takes with
  | harness move exchange regular moves =>
    exact ⟨solo, .refl, mirrors_moves kept mirrors regular moves⟩
  | target count operation after running next operates =>
    exact mirrors_operates kept mirrors running next operates

/-- In any encounter a target is where it can come on its own. -/
theorem exists_mirrors_play? {executable script : Bytes} {timeout : Duration} {state : State}
    {turns : List Turn}
    (played : (Encounter.start executable script timeout inputCapacity outputCapacity state).play?
      target turns = some reached) :
    ∃ solo, ReflTransGen (Solo.Step target) (.start state script) solo ∧
      Mirrors target solo reached := by
  have kept : reached.Balanced inputCapacity outputCapacity ∧
      ∃ solo, ReflTransGen (Solo.Step target) (.start state script) solo ∧
        Mirrors target solo reached := by
    refine play?_induction (motive := fun reached =>
      reached.Balanced inputCapacity outputCapacity ∧
        ∃ solo, ReflTransGen (Solo.Step target) (.start state script) solo ∧
          Mirrors target solo reached) ?_ ?_ played
    · exact ⟨balanced_start executable script timeout state, _, .refl,
        mirrors_start executable script timeout state⟩
    · rintro before turn after ⟨balanced, solo, reaches, mirrors⟩ takes
      obtain ⟨later, goesOn, mirrors⟩ := mirrors_takes balanced mirrors takes
      exact ⟨balanced_takes balanced takes, later, reaches.trans goesOn, mirrors⟩
  exact kept.2

end Encounter

/-! ### Turns of any sort -/

namespace Encounter

variable {State : Type} {target : Target State} {start reached : Encounter State}
variable {inputCapacity outputCapacity : Nat}

/-- Unless it is spoiled, a run has taken no turn that is a failure or forced on the harness. -/
theorem isSpoiled_or_play? {turns : List Turn} (ran : start.run? target turns = some reached) :
    reached.exchange.IsSpoiled ∨ start.play? target turns = some reached := by
  refine foldlM_induction (anyTurn? target) (motive := fun turns reached =>
    reached.exchange.IsSpoiled ∨ start.play? target turns = some reached) (.inr rfl) ?_ ran
  intro earlier before turn after kept taken
  have goesOn (played : start.play? target earlier = some before)
      (taken : before.turn? target turn = some after) :
      start.play? target (earlier ++ [turn]) = some after :=
    (foldlM_concat_eq_some_iff (turn? target) start earlier turn).mpr ⟨before, played, taken⟩
  cases turn with
  | harness move =>
    obtain ⟨exchange, moved, rfl⟩ := Option.map_eq_some_iff.mp taken
    have acted : before.exchange.act? (.harness move) = some exchange := moved
    rcases kept with spoiled | played
    · exact .inl (Exchange.isSpoiled_act spoiled acted)
    · cases regular : isRegular move with
      | true => exact .inr (goesOn played (by rw [turn?, if_pos regular, moved]; rfl))
      | false => exact .inl (Exchange.isSpoiled_of_moves regular (Exchange.moves_of_move? moved))
  | target count =>
    have taken : before.turn? target (.target count) = some after := taken
    refine kept.imp (fun spoiled => ?_) fun played => goesOn played taken
    rcases step_of_takes (takes_of_turn? taken) with same | ⟨action, acted⟩
    · rw [same]
      exact spoiled
    · exact Exchange.isSpoiled_act spoiled acted

theorem play?_of_completed {turns : List Turn} {output : String} {exitCode : Int}
    (ran : start.run? target turns = some reached)
    (decided : reached.exchange.result? = some (.ok (.completed output exitCode))) :
    start.play? target turns = some reached := by
  refine (isSpoiled_or_play? ran).resolve_left ?_
  rintro (⟨result, spoiled, other⟩ | dropped)
  · exact other output exitCode (Option.some.inj (spoiled.symm.trans decided))
  · rw [Exchange.result?, dropped] at decided
    cases decided

/-- A turn of any sort is one step of the exchange or none. -/
theorem step_of_anyTurn? {before after : Encounter State} {turn : Turn}
    (taken : before.anyTurn? target turn = some after) :
    after.exchange = before.exchange ∨ before.exchange.Step after.exchange := by
  cases turn with
  | harness move =>
    obtain ⟨exchange, moved, rfl⟩ := Option.map_eq_some_iff.mp taken
    exact .inr ⟨.harness move, moved⟩
  | target count =>
    have taken : before.turn? target (.target count) = some after := taken
    exact step_of_takes (takes_of_turn? taken)

/-- The exchange of a run goes through an execution, whatever its turns are. -/
theorem exists_play?_exchange_of_run? {turns : List Turn}
    (ran : start.run? target turns = some reached) :
    ∃ actions, start.exchange.play? actions = some reached.exchange := by
  refine foldlM_induction (anyTurn? target) (motive := fun _ reached =>
    ∃ actions, start.exchange.play? actions = some reached.exchange) ⟨[], rfl⟩ ?_ ran
  rintro _ before turn after ⟨actions, executed⟩ taken
  rcases step_of_anyTurn? taken with same | ⟨action, acted⟩
  · exact ⟨actions, same ▸ executed⟩
  · refine ⟨actions ++ [action], ?_⟩
    exact (Exchange.play?_concat_eq_some_iff actions action).mpr ⟨_, executed, acted⟩

/-- A run that completes has drained all that the target wrote on its own, and shows that and its
exit. -/
theorem yields_of_completed {executable script : Bytes} {timeout : Duration} {state : State}
    {turns : List Turn} {output : String} {exitCode : Int}
    (ran : (Encounter.start executable script timeout inputCapacity outputCapacity state).run?
      target turns = some reached)
    (decided : reached.exchange.result? = some (.ok (.completed output exitCode))) :
    ∃ status, target.Yields state script reached.exchange.drain.collected status ∧
      output = Text.decode reached.exchange.drain.collected ∧ exitCode = status.code := by
  have played := play?_of_completed ran decided
  obtain ⟨actions, executed⟩ := exists_play?_exchange played
  have completes := Exchange.completionKept_play executed output exitCode decided
  obtain ⟨known, reaped, code⟩ := completes.reaped
  obtain ⟨solo, reaches, mirrors⟩ := exists_mirrors_play? played
  obtain ⟨status, exits, ended⟩ : ∃ status, target.next? reached.state = some (.exit status) ∧
      (reached.exchange.child = .ended status ∨ reached.exchange.child = .reaped status) := by
    refine mirrors.gone.resolve_left fun running => ?_
    cases running.symm.trans reaped
  have same : status = known := by
    rcases ended with ended | ended <;> cases ended.symm.trans reaped
    rfl
  have written : reached.exchange.drain.collected = solo.written := by
    have written := mirrors.written
    rw [(Exchange.endIsFinal_play executed completes.drained).1, List.append_nil,
      begun_eq_nil_of_next exits (by simp), List.append_nil] at written
    exact written
  exact ⟨status, ⟨solo, reaches, mirrors.state ▸ exits, written.symm⟩, completes.decoded,
    same ▸ code⟩

end Encounter

/-! ### Completed runs -/

namespace Target

variable {State : Type} {target : Target State} {state : State} {job : Job}

/-- A completed run shows what the target can come to on its own: its output, decoded, and the exit
code of its exit. -/
theorem yields_of_mayReturn {output : String} {exitCode : Int}
    (returns : target.MayReturn state job (.ok (.completed output exitCode))) :
    ∃ bytes status, target.Yields state job.script bytes status ∧ output = Text.decode bytes ∧
      exitCode = status.code := by
  obtain ⟨inputCapacity, outputCapacity, turns, reached, ran, returned⟩ := returns
  have decided : reached.exchange.result? = some (.ok (.completed output exitCode)) := by
    rw [Exchange.result?, returned]
  obtain ⟨status, yields, decoded, code⟩ := Encounter.yields_of_completed ran decided
  exact ⟨_, status, yields, decoded, code⟩

/-- All completed runs of a script with a target that reads byte by byte return the same output and
the same exit code, whatever the capacities of the pipes, the pieces and the order of turns are, and
whether the target takes in the whole script, or closes its input or exits before. So a harness
comes to the same verdict on the target and prints the same transcript, whoever carries out its
jobs. -/
theorem completed_runs_agree (target : Target State) (state : State)
    (bytewise : target.ReadsBytewise) :
    (∀ first second : Job, first.script = second.script →
      ∀ output otherOutput exitCode otherCode,
        target.MayReturn state first (.ok (.completed output exitCode)) →
        target.MayReturn state second (.ok (.completed otherOutput otherCode)) →
        output = otherOutput ∧ exitCode = otherCode) ∧
    ∀ (harness : Harness) (First Second : Type) (runner : Runner First) (other : Runner Second)
      (world : First) (otherWorld : Second) (output otherOutput : String)
      (exitCode otherCode : Int),
      (runner harness.job world).1.result = .ok (.completed output exitCode) →
      (other harness.job otherWorld).1.result = .ok (.completed otherOutput otherCode) →
      target.MayReturn state harness.job (runner harness.job world).1.result →
      target.MayReturn state harness.job (other harness.job otherWorld).1.result →
      (∃ verdict, (harness.run runner world).1 = .ok verdict ∧
        (harness.run other otherWorld).1 = .ok verdict) ∧
      ∀ sink, (harness.check runner sink world).1 = (harness.check other sink otherWorld).1 := by
  have agree (first second : Job) (sameScript : first.script = second.script)
      (output otherOutput : String) (exitCode otherCode : Int)
      (returns : target.MayReturn state first (.ok (.completed output exitCode)))
      (otherReturns : target.MayReturn state second (.ok (.completed otherOutput otherCode))) :
      output = otherOutput ∧ exitCode = otherCode := by
    obtain ⟨bytes, status, yields, rfl, rfl⟩ := yields_of_mayReturn returns
    obtain ⟨otherBytes, otherStatus, otherYields, rfl, rfl⟩ := yields_of_mayReturn otherReturns
    rw [← sameScript] at otherYields
    obtain ⟨rfl, rfl⟩ := yields.unique bytewise otherYields
    exact ⟨rfl, rfl⟩
  refine ⟨agree, ?_⟩
  intro harness First Second runner other world otherWorld output otherOutput exitCode otherCode
    completed otherCompleted returns otherReturns
  rw [completed] at returns
  rw [otherCompleted] at otherReturns
  obtain ⟨rfl, rfl⟩ := agree _ _ rfl _ _ _ _ returns otherReturns
  refine ⟨⟨.ofOutcome (.completed output exitCode), ?_, ?_⟩, fun sink => ?_⟩
  · show Harness.judge (runner harness.job world).1.result = _
    rw [completed]
    rfl
  · show Harness.judge (other harness.job otherWorld).1.result = _
    rw [otherCompleted]
    rfl
  · show Harness.present (runner harness.job world).1.result sink =
      Harness.present (other harness.job otherWorld).1.result sink
    rw [completed, otherCompleted]

/-- A target that reads one byte, shows it, closes its input and exits. -/
def showsFirst : Target (Bytes × List Operation) :=
  .determined fun bytes completed =>
    [.read 1, .write .standardOutput bytes, .closeInput, .exit (.exited 3)][completed.length]?

theorem readsBytewise_showsFirst : showsFirst.ReadsBytewise := by
  rintro ⟨bytes, completed⟩ limit next
  have asked : Operation.read limit ∈
      [.read 1, .write .standardOutput bytes, .closeInput, .exit (.exited 3)] :=
    List.mem_of_getElem? next
  simp only [List.mem_cons, Operation.read.injEq, reduceCtorEq, List.not_mem_nil, or_false] at asked
  exact Nat.le_of_eq asked

/-- A harness with one case, of which the script has 19 bytes. -/
def oneCase : Harness := ⟨[], ⟨[⟨"1"⟩]⟩, ⟨1000⟩⟩

/-- The script is fed at once before the target reads. -/
def fedRun : List Encounter.Turn :=
  [.harness (.announce 7), .harness .openOutput, .harness (.write 19), .harness .closeInput,
    .target 1, .target 1, .target 0, .target 0, .target 0, .target 0, .target 0,
    .harness (.read 1), .harness .readEnd, .harness .reap, .harness .kill, .harness .bury]

/-- The target closes its input when it has been fed one byte. -/
def leftRun : List Encounter.Turn :=
  [.harness (.announce 7), .harness .openOutput, .harness (.write 1), .target 1, .target 1,
    .harness (.read 1), .target 0, .target 0, .harness .abandonInput, .target 0, .target 0,
    .target 0, .harness .readEnd, .harness .reap, .harness .kill, .harness .bury]

/-- Two completed runs agree of which one feeds the whole script and the other gives it up, and so
do the checks of a harness for which they are carried out. -/
theorem completed_runs_agree_closedEarly :
    ∃ fed left output otherOutput exitCode otherCode,
      (Encounter.start [] oneCase.job.script ⟨1000⟩ 19 2 ([], [])).run? showsFirst fedRun =
        some fed ∧
      (Encounter.start [] oneCase.job.script ⟨1000⟩ 1 1 ([], [])).run? showsFirst leftRun =
        some left ∧
      fed.exchange.feed = .closed false ∧ left.exchange.feed = .closed true ∧
      fed.exchange.phase = .returned (.ok (.completed output exitCode)) ∧
      left.exchange.phase = .returned (.ok (.completed otherOutput otherCode)) ∧
      (output = otherOutput ∧ exitCode = otherCode) ∧
      ∀ sink,
        (oneCase.check (fun _ world =>
          (⟨.ok (.completed output exitCode), fed.exchange.log⟩, world)) sink ()).1 =
        (oneCase.check (fun _ world =>
          (⟨.ok (.completed otherOutput otherCode), left.exchange.log⟩, world)) sink ()).1 := by
  obtain ⟨fed, left, ranFed, ranLeft, whole, early, returned, otherReturned⟩ :
      ∃ fed left,
        (Encounter.start [] oneCase.job.script ⟨1000⟩ 19 2 ([], [])).run? showsFirst fedRun =
          some fed ∧
        (Encounter.start [] oneCase.job.script ⟨1000⟩ 1 1 ([], [])).run? showsFirst leftRun =
          some left ∧
        fed.exchange.feed = .closed false ∧ left.exchange.feed = .closed true ∧
        fed.exchange.phase = .returned (.ok (.completed "e" 3)) ∧
        left.exchange.phase = .returned (.ok (.completed "e" 3)) :=
    ⟨_, _, rfl, rfl, rfl, rfl, rfl, rfl⟩
  have returns : showsFirst.MayReturn ([], []) oneCase.job (.ok (.completed "e" 3)) :=
    ⟨19, 2, fedRun, fed, ranFed, returned⟩
  have otherReturns : showsFirst.MayReturn ([], []) oneCase.job (.ok (.completed "e" 3)) :=
    ⟨1, 1, leftRun, left, ranLeft, otherReturned⟩
  obtain ⟨agree, checksAgree⟩ :=
    completed_runs_agree showsFirst ([], []) readsBytewise_showsFirst
  exact ⟨fed, left, "e", "e", 3, 3, ranFed, ranLeft, whole, early, returned, otherReturned,
    agree oneCase.job oneCase.job rfl "e" "e" 3 3 returns otherReturns,
    (checksAgree oneCase Unit Unit _ _ () () "e" "e" 3 3 rfl rfl returns otherReturns).2⟩

end Target

end ShellSmoke
