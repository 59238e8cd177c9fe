/-
This file proves that what happens in the modelled system while time passes is, for the exchange, a
sequence of steps on its other side. Processes read the script, write output, share descriptors and
close them, and the child ends; no request touches the exchange in another way, and the child ends
there exactly when its process ends. So whatever holds of all executions holds of the runs of the
modelled system, whichever programs it runs.
-/

import ShellSmoke.Proofs.Exchange.Steps
import ShellSmoke.Proofs.Machine.Processes

namespace ShellSmoke

/-! ### Steps on the other side -/

namespace Exchange

variable {before middle after : Exchange}

/-- Whether steps on the other side lead from one exchange to another. -/
def Undergoes (before after : Exchange) : Prop :=
  ∃ deeds : List Deed, before.play? (deeds.map .target) = some after

theorem Undergoes.refl (exchange : Exchange) : exchange.Undergoes exchange := ⟨[], rfl⟩

theorem Undergoes.trans (first : before.Undergoes middle) (second : middle.Undergoes after) :
    before.Undergoes after := by
  obtain ⟨earlier, playedEarlier⟩ := first
  obtain ⟨later, playedLater⟩ := second
  refine ⟨earlier ++ later, ?_⟩
  rw [List.map_append, play?_append, playedEarlier]
  exact playedLater

theorem undergoes_deed (exchange : Exchange) (deed : Deed) :
    exchange.Undergoes ((exchange.deed? deed).getD exchange) := by
  cases done : exchange.deed? deed with
  | none => exact .refl exchange
  | some after =>
    refine ⟨[deed], ?_⟩
    show ((exchange.deed? deed).bind some) = some after
    rw [done]
    rfl

/-- Of the steps on the other side only the end of the child is one. -/
theorem child_deed (exchange : Exchange) {deed : Deed} (quiet : ∀ status, deed ≠ .exit status) :
    ((exchange.deed? deed).getD exchange).child = exchange.child := by
  cases done : exchange.deed? deed with
  | none => rfl
  | some after =>
    cases deed?_eq_some_iff.mp done with
    | exit status => exact absurd rfl (quiet status)
    | read | write | shareInput | shareOutput | closeInput | closeOutput => rfl

theorem child_exit_ne (exchange : Exchange) (status : ExitStatus) :
    ((exchange.deed? (.exit status)).getD exchange).child ≠ .running := by
  unfold deed?
  cases child : exchange.child with
  | running => exact nofun
  | ended | reaped =>
    intro running
    cases child.symm.trans running

end Exchange

namespace Machine.World

variable {before middle after world : World}

/-- Whether the exchange of a world undergoes what leads to that of another, and the books on
processes stay right. -/
structure LeadsTo (before after : World) : Prop where
  undergoes : before.exchange.Undergoes after.exchange
  sound : before.IsSound → after.IsSound
  target : after.target = before.target

theorem LeadsTo.refl (world : World) : world.LeadsTo world := ⟨.refl _, id, rfl⟩

theorem LeadsTo.trans (first : before.LeadsTo middle) (second : middle.LeadsTo after) :
    before.LeadsTo after :=
  ⟨first.undergoes.trans second.undergoes, second.sound ∘ first.sound,
    second.target.trans first.target⟩

theorem LeadsTo.of_keeps (same : after.exchange = before.exchange) (keeps : Keeps before after) :
    before.LeadsTo after := by
  refine ⟨?_, fun sound => sound.of_keeps keeps (by rw [same]), keeps.target⟩
  rw [same]
  exact .refl _

/-- A world leads to another that has the same exchange and the same processes. -/
theorem LeadsTo.of_eq (same : after.exchange = before.exchange)
    (table : after.table = before.table) : before.LeadsTo after :=
  .of_keeps same (.of_table table)

theorem leadsTo_change (world : World) (number : Nat) {how : Process → Process}
    (each : ∀ process : Process, (how process).number = process.number ∧
      (how process).ended = process.ended) :
    world.LeadsTo (world.change number how) :=
  .of_keeps rfl (keeps_change number each)

theorem leadsTo_resume (world : World) (number : Nat) (program : Program) :
    world.LeadsTo (world.resume number program) :=
  leadsTo_change world number fun _ => ⟨rfl, rfl⟩

theorem leadsTo_attach (world : World) (number : Nat) (descriptor : Descriptor) :
    world.LeadsTo (world.change number (·.attach descriptor)) :=
  leadsTo_change world number fun _ => ⟨rfl, rfl⟩

/-- A process can go on in a world to which another leads. -/
theorem LeadsTo.resume (leads : before.LeadsTo after) (number : Nat) (program : Program) :
    before.LeadsTo (after.resume number program) :=
  leads.trans (leadsTo_resume after number program)

theorem leadsTo_change_resume (world : World) (number : Nat) (program : Program)
    {how : Process → Process}
    (each : ∀ process : Process, (how process).number = process.number ∧
      (how process).ended = process.ended) :
    world.LeadsTo ((world.change number how).resume number program) :=
  (leadsTo_change world number each).resume number program

theorem leadsTo_foldl {Item : Type} {step : World → Item → World}
    (each : ∀ (world : World) (item : Item), world.LeadsTo (step world item)) (items : List Item)
    (world : World) : world.LeadsTo (items.foldl step world) := by
  induction items generalizing world with
  | nil => exact .refl world
  | cons item items inductionHypothesis =>
    exact (each world item).trans (inductionHypothesis (step world item))

/-- A world leads to another whose exchange differs by one step on the other side, if the child does
not end. -/
theorem LeadsTo.of_deed (deed : Exchange.Deed) (quiet : ∀ status, deed ≠ .exit status)
    (done : after.exchange = (before.exchange.deed? deed).getD before.exchange)
    (table : after.table = before.table) : before.LeadsTo after := by
  have keeps : Keeps before after := .of_table table
  refine ⟨?_, fun sound => sound.of_keeps keeps ?_, keeps.target⟩
  · rw [done]
    exact Exchange.undergoes_deed before.exchange deed
  · rw [done, Exchange.child_deed before.exchange quiet]

/-! ### Open files -/

theorem leadsTo_hold (world : World) (number : Nat) : world.LeadsTo (world.hold number) := by
  unfold hold
  split
  · exact .refl world
  · dsimp only
    split
    · split
      · split
        · exact .of_deed .shareInput nofun rfl rfl
        · exact .of_eq rfl rfl
      · split
        · exact .of_deed .shareInput nofun rfl rfl
        · exact .of_eq rfl rfl
    · split
      · exact .of_deed .shareOutput nofun rfl rfl
      · exact .of_eq rfl rfl
    · exact .of_eq rfl rfl
    · exact .of_eq rfl rfl

theorem leadsTo_release (world : World) (number : Nat) : world.LeadsTo (world.release number) := by
  unfold release
  split
  · exact .refl world
  · dsimp only
    -- The books on open files do not matter: both ways to keep them leave the exchange alone.
    split
    · split
      · split
        · exact .of_deed .closeInput nofun (by split <;> rfl) (by split <;> rfl)
        · exact .of_eq (by split <;> rfl) (by split <;> rfl)
      · split
        · exact .of_deed .closeInput nofun (by split <;> rfl) (by split <;> rfl)
        · exact .of_eq (by split <;> rfl) (by split <;> rfl)
    · split
      · exact .of_deed .closeOutput nofun (by split <;> rfl) (by split <;> rfl)
      · exact .of_eq (by split <;> rfl) (by split <;> rfl)
    · exact .of_eq (by split <;> rfl) (by split <;> rfl)
    · exact .of_eq (by split <;> rfl) (by split <;> rfl)

/-! ### Reading and writing -/

/-- Whether a world leads to the one in which a request is answered, if it is. -/
def Answers {Result : Type} (world : World) (answered : Option (Result × World)) : Prop :=
  ∀ result after, answered = some (result, after) → world.LeadsTo after

theorem answers_none {Result : Type} : world.Answers (none : Option (Result × World)) :=
  fun _ _ => nofun

theorem answers_some {Result : Type} {result : Result} (leads : world.LeadsTo after) :
    world.Answers (some (result, after)) := by
  intro _ _ same
  cases same
  exact leads

theorem answers_of_eq {Result : Type} {result : Result} (same : after.exchange = world.exchange)
    (table : after.table = world.table) : world.Answers (some (result, after)) :=
  answers_some (.of_eq same table)

theorem answers_readScript (world : World) (limit : Nat) :
    world.Answers (world.readScript limit) := by
  unfold readScript
  dsimp only
  split
  · split
    · exact answers_some (.of_deed (.read _) nofun rfl rfl)
    · exact answers_of_eq rfl rfl
  · split
    · exact answers_of_eq rfl rfl
    · exact answers_none

theorem answers_readFile (world : World) (number limit : Nat) :
    world.Answers (world.readFile number limit) := by
  unfold readFile
  split
  · exact answers_of_eq rfl rfl
  · split
    · exact answers_of_eq rfl rfl
    · dsimp only
      split
      · exact answers_readScript world limit
      · split
        · exact answers_of_eq rfl rfl
        · split
          · exact answers_of_eq rfl rfl
          · split
            · exact answers_of_eq rfl rfl
            · exact answers_none
      · split
        · exact answers_of_eq rfl rfl
        · exact answers_of_eq rfl rfl
        · exact answers_of_eq rfl rfl
      · exact answers_of_eq rfl rfl
      · split
        · exact answers_of_eq rfl rfl
        · exact answers_none
      · exact answers_of_eq rfl rfl
      · exact answers_of_eq rfl rfl
      · exact answers_of_eq rfl rfl

theorem answers_writeFile (world : World) (number : Nat) (bound : Option Nat) (bytes : Bytes) :
    world.Answers (world.writeFile number bound bytes) := by
  unfold writeFile
  split
  · exact answers_of_eq rfl rfl
  · split
    · exact answers_of_eq rfl rfl
    · split
      · exact answers_of_eq rfl rfl
      · dsimp only
        split
        · split
          · exact answers_of_eq rfl rfl
          · split
            · exact answers_none
            · exact answers_some (.of_deed (.write _ _) nofun rfl rfl)
        · split
          · exact answers_of_eq rfl rfl
          · split
            · exact answers_none
            · exact answers_of_eq rfl rfl
        · split
          · exact answers_of_eq rfl rfl
          · split
            · exact answers_of_eq rfl rfl
            · split
              · exact answers_none
              · exact answers_of_eq rfl rfl
        · split
          · split
            · split
              · exact answers_of_eq rfl rfl
              · exact answers_of_eq rfl rfl
            · split
              · exact answers_of_eq rfl rfl
              · exact answers_of_eq rfl rfl
          · exact answers_of_eq rfl rfl
        · exact answers_of_eq rfl rfl
        · exact answers_of_eq rfl rfl
        · exact answers_of_eq rfl rfl

/-! ### Opening files -/

theorem exists_of_bind_eq_ok {Error First Second : Type} {tried : Except Error First}
    {next : First → Except Error Second} {last : Second} (succeeds : tried.bind next = .ok last) :
    ∃ first, tried = .ok first ∧ next first = .ok last := by
  cases tried with
  | error error => cases succeeds
  | ok first => exact ⟨first, rfl, succeeds⟩

theorem leadsTo_reopen {mode : OpenMode} {file opened : OpenFile}
    (reopened : world.reopen mode file = .ok (opened, after)) :
    world.LeadsTo after := by
  unfold reopen at reopened
  split at reopened
  · cases reopened
    exact .of_eq rfl rfl
  · split at reopened
    · cases reopened
    · cases reopened
      exact .of_eq rfl rfl
  · cases reopened
    exact .of_eq rfl rfl

theorem leadsTo_openPlace {process : Process} {mode : OpenMode} {place : Path} {file : OpenFile}
    (opened : world.openPlace process mode place = .ok (file, after)) :
    world.LeadsTo after := by
  unfold openPlace at opened
  dsimp only at opened
  split at opened
  · split at opened
    · cases opened
    · cases opened
      exact .of_eq rfl rfl
  · cases opened
  · cases opened
    exact .of_eq rfl rfl
  · split at opened
    · exact leadsTo_reopen opened
    · cases opened
  · cases opened
  · split at opened
    · cases opened
      exact .of_eq rfl rfl
    · cases opened
  · cases opened
    exact .of_eq rfl rfl
  · split at opened
    · cases opened
    · cases opened
      exact .of_eq rfl rfl
  · split at opened
    · split at opened
      · split at opened
        · cases opened
        · cases opened
          exact .of_eq rfl rfl
      · cases opened
      · cases opened
    · cases opened

theorem leadsTo_openFor {process : Process} {path : Bytes} {mode : OpenMode} {number : Nat}
    (opened : world.openFor process path mode = .ok (number, after)) : world.LeadsTo after := by
  have finishes (located : (((world.places process).locate true process.directory path).bind
        fun place => (world.openPlace process mode place).bind fun opened =>
          .ok (opened.2.nextNumber, (opened.2.addFile opened.1).2.hold opened.2.nextNumber)) =
        .ok (number, after)) : world.LeadsTo after := by
    obtain ⟨place, _, located⟩ := exists_of_bind_eq_ok located
    obtain ⟨⟨file, reached⟩, placed, added⟩ := exists_of_bind_eq_ok located
    cases added
    have held := leadsTo_hold (reached.addFile file).2 reached.nextNumber
    have added : reached.LeadsTo (reached.addFile file).2 := .of_eq rfl rfl
    exact ((leadsTo_openPlace placed).trans added).trans held
  unfold openFor at opened
  dsimp only at opened
  split at opened
  · split at opened
    · obtain ⟨_, _, refused⟩ := exists_of_bind_eq_ok opened
      obtain ⟨_, refused, _⟩ := exists_of_bind_eq_ok refused
      cases refused
    · exact finishes opened
  · exact finishes opened

/-! ### Ends of processes and signals -/

/-- What becomes of a process that ends, after its descriptors are closed. -/
theorem ends_terminate (world : World) (number parent : Nat) (status : ExitStatus) :
    let marked := world.change number fun process =>
      { process with descriptors := [], ended := some status, program := .exit 0 }
    let orphaned : World := { marked with
      processes := (marked.processes.filter fun other =>
          ! (other.parent = number && other.ended.isSome)).map fun other =>
        if other.parent = number then { other with parent := originProcess } else other }
    let informed := orphaned.change parent fun parent =>
      if parent.arrangement .child = .caught then
        { parent with signals := parent.signals ++ [.child] }
      else parent
    Ends number world informed ∧
      Ends number world
        { informed with processes := informed.processes.filter (·.number ≠ number) } := by
  intro marked orphaned informed
  have ends : Ends number world marked := ends_change fun _ => ⟨rfl, rfl⟩
  have filtered : Keeps marked { marked with
      processes := marked.processes.filter fun other =>
        ! (other.parent = number && other.ended.isSome) } :=
    keeps_filter fun process _ alive => by simp [alive]
  have adopted : Keeps marked orphaned :=
    filtered.trans (keeps_map fun process => by split <;> exact ⟨rfl, rfl⟩)
  have told : Keeps orphaned informed :=
    keeps_change parent fun process => by split <;> exact ⟨rfl, rfl⟩
  have all : Ends number world informed := (ends.trans_keeps adopted).trans_keeps told
  have gone : ¬ informed.IsAlive number := fun alive => ((all.alive number).mp alive).2 rfl
  exact ⟨all, all.trans_keeps (keeps_forget gone)⟩

/-- To end a process that does not run does nothing. Otherwise its descriptors are closed, it ends,
and the exchange learns it if it is the child. -/
theorem terminate_cases (world : World) (number : Nat) (status : ExitStatus) :
    (world.terminate number status = world ∧ (world.IsNumbered → ¬ world.IsAlive number)) ∨
      ∃ released ended : World, world.LeadsTo released ∧ Ends number released ended ∧
        ended.exchange = released.exchange ∧
        world.terminate number status =
          if number = ended.target then ended.does (.exit status) else ended := by
  unfold terminate
  split
  · rename_i missing
    refine .inl ⟨rfl, fun _ alive => ?_⟩
    obtain ⟨process, present, same, _⟩ := alive
    exact process?_eq_none_iff.mp missing process present same
  · rename_i process found
    obtain ⟨present, same⟩ := mem_of_process? found
    split
    · rename_i dead
      exact .inl ⟨rfl, fun numbered => same ▸
        numbered.not_isAlive present (Option.isSome_iff_ne_none.mp dead)⟩
    · have released := leadsTo_foldl
        (fun (world : World) (descriptor : Descriptor) => leadsTo_release world descriptor.file)
        process.descriptors world
      obtain ⟨stays, forgotten⟩ := ends_terminate (process.descriptors.foldl
        (fun world descriptor => world.release descriptor.file) world) number process.parent status
      refine .inr ⟨_, _, released, ?_, ?_, rfl⟩
      · split
        · exact stays
        · exact forgotten
      · split
        · rfl
        · rfl

theorem LeadsTo.of_ends {number : Nat} (ends : Ends number before after)
    (same : after.exchange = before.exchange) (other : number ≠ after.target) :
    before.LeadsTo after := by
  rw [ends.target] at other
  refine ⟨?_, fun sound => sound.of_ends ends (fun _ => by rw [same]) (absurd · other), ends.target⟩
  rw [same]
  exact .refl _

/-- When the process of the child ends, so does the child. -/
theorem LeadsTo.of_ends_target {status : ExitStatus} (ends : Ends after.target before after)
    (same : after.exchange = before.exchange) : before.LeadsTo (after.does (.exit status)) := by
  rw [ends.target] at ends
  refine ⟨?_, fun sound => ?_, ends.target⟩
  · show before.exchange.Undergoes ((after.exchange.deed? (.exit status)).getD after.exchange)
    rw [same]
    exact Exchange.undergoes_deed before.exchange (.exit status)
  · have ended : Ends before.target before (after.does (.exit status)) :=
      ⟨ends.target, ends.next, ends.numbers, ends.alive⟩
    exact sound.of_ends ended (absurd rfl) fun _ => Exchange.child_exit_ne after.exchange status

theorem leadsTo_terminate (world : World) (number : Nat) (status : ExitStatus) :
    world.LeadsTo (world.terminate number status) := by
  rcases terminate_cases world number status with
    ⟨same, _⟩ | ⟨released, ended, leads, ends, exchange, finished⟩
  · rw [same]
    exact .refl world
  · rw [finished]
    split
    · rename_i child
      rw [child] at ends
      exact leads.trans (.of_ends_target ends exchange)
    · rename_i other
      exact leads.trans (.of_ends ends exchange other)

/-- A process that was ended does not run. -/
theorem not_isAlive_terminate (sound : world.IsSound) (number : Nat) (status : ExitStatus) :
    ¬ (world.terminate number status).IsAlive number := by
  rcases terminate_cases world number status with
    ⟨same, dead⟩ | ⟨released, ended, _, ends, _, finished⟩
  · rw [same]
    exact dead sound.toIsNumbered
  · have dead : ¬ ended.IsAlive number := fun alive => ((ends.alive number).mp alive).2 rfl
    rw [finished]
    split
    · exact dead
    · exact dead

theorem leadsTo_deliver (world : World) (number : Nat) (signal : Signal) :
    world.LeadsTo (world.deliver number signal) := by
  unfold deliver
  split
  · exact .refl world
  · split
    · exact .refl world
    · have proceeded : world.LeadsTo (if signal = .proceed then
          world.change number fun process => { process with stopped := false }
        else world) := by
        split
        · exact leadsTo_change world number fun _ => ⟨rfl, rfl⟩
        · exact .refl world
      dsimp only
      split
      · exact proceeded
      · exact proceeded.trans (leadsTo_change _ number fun _ => ⟨rfl, rfl⟩)
      · split
        · exact proceeded
        · split
          · exact proceeded.trans (leadsTo_change _ number fun _ => ⟨rfl, rfl⟩)
          · refine proceeded.trans (leadsTo_change _ number fun process => ?_)
            split
            · exact ⟨rfl, rfl⟩
            · exact ⟨rfl, rfl⟩

/-! ### Requests -/

theorem answers_map {Result : Type} {answered : Option (Result × World)}
    (answers : world.Answers answered) {next : Result × World → World}
    (each : ∀ (result : Result) (reached : World), reached.LeadsTo (next (result, reached)))
    (continued : answered.map next = some after) : world.LeadsTo after := by
  obtain ⟨⟨result, reached⟩, given, rfl⟩ := Option.map_eq_some_iff.mp continued
  exact (answers result reached given).trans (each result reached)

theorem leadsTo_answer_read {process : Process} {descriptor limit : Nat}
    {resume : Request.Answer (.read descriptor limit) → Program}
    (answered : world.answer process (.read descriptor limit) resume = some after) :
    world.LeadsTo after := by
  rw [answer] at answered
  split at answered
  · cases answered
    exact leadsTo_resume world _ _
  · exact answers_map (answers_readFile world _ limit)
      (fun _ reached => leadsTo_resume reached _ _) answered

theorem leadsTo_answer_write {process : Process} {descriptor : Nat} {bytes : Bytes}
    {resume : Request.Answer (.write descriptor bytes) → Program}
    (answered : world.answer process (.write descriptor bytes) resume = some after) :
    world.LeadsTo after := by
  rw [answer] at answered
  split at answered
  · cases answered
    exact leadsTo_resume world _ _
  · refine answers_map (answers_writeFile world _ _ bytes) (fun result reached => ?_) answered
    have resumed := leadsTo_resume reached process.number (resume result)
    dsimp only
    split
    · split
      · exact resumed.trans (leadsTo_deliver _ _ _)
      · split
        · exact resumed.trans (leadsTo_deliver _ _ _)
        · exact resumed
    · exact resumed

theorem leadsTo_answer_openFile {process : Process} {path : Bytes} {mode : OpenMode}
    {resume : Request.Answer (.openFile path mode) → Program}
    (answered : world.answer process (.openFile path mode) resume = some after) :
    world.LeadsTo after := by
  rw [answer] at answered
  dsimp only at answered
  split at answered
  · cases answered
    exact leadsTo_resume world _ _
  · rename_i opened
    split at opened
    · cases answered
      exact ((leadsTo_openFor opened).trans (leadsTo_attach _ _ _)).resume _ _
    · cases opened

theorem leadsTo_answer_duplicate {process : Process} {source target : Nat}
    {resume : Request.Answer (.duplicate source target) → Program}
    (answered : world.answer process (.duplicate source target) resume = some after) :
    world.LeadsTo after := by
  rw [answer] at answered
  split at answered
  · cases answered
    exact leadsTo_resume world _ _
  · rename_i file _
    cases answered
    refine LeadsTo.resume ?_ _ _
    dsimp only
    split
    · exact .refl world
    · have held := leadsTo_hold world file
      split
      · exact (held.trans (leadsTo_release _ _)).trans (leadsTo_attach _ _ _)
      · exact held.trans (leadsTo_attach _ _ _)

theorem leadsTo_answer_stash {process : Process} {source : Nat}
    {resume : Request.Answer (.stash source) → Program}
    (answered : world.answer process (.stash source) resume = some after) :
    world.LeadsTo after := by
  rw [answer] at answered
  split at answered
  · cases answered
    exact leadsTo_resume world _ _
  · rename_i file _
    dsimp only at answered
    split at answered
    · cases answered
      exact leadsTo_resume world _ _
    · split at answered
      · cases answered
        exact leadsTo_resume world _ _
      · cases answered
        exact ((leadsTo_hold world file).trans (leadsTo_attach _ _ _)).resume _ _

/-- A process that was waited for has ended, so it can be forgotten. -/
theorem leadsTo_forget {process : Process} {number : Nat} {status : ExitStatus}
    (found : (world.processes.filter (·.parent = process.number)).findSome?
      (fun other => other.ended.map fun status => (other.number, status)) =
        some (number, status)) :
    world.LeadsTo { world with processes := world.processes.filter (·.number ≠ number) } := by
  obtain ⟨other, member, ended⟩ := List.exists_of_findSome?_eq_some found
  obtain ⟨_, reached, same⟩ := Option.map_eq_some_iff.mp ended
  obtain ⟨rfl, rfl⟩ := Prod.mk.inj same
  refine ⟨.refl _, fun sound => ?_, rfl⟩
  have gone : ¬ world.IsAlive other.number :=
    sound.not_isAlive (List.mem_of_mem_filter member) (by rw [reached]; exact nofun)
  exact sound.of_keeps (keeps_forget gone) Iff.rfl

theorem leadsTo_answer_wait {process : Process} {patience : Patience}
    {resume : Request.Answer (.wait patience) → Program}
    (answered : world.answer process (.wait patience) resume = some after) :
    world.LeadsTo after := by
  rw [answer] at answered
  dsimp only at answered
  split at answered
  · rename_i found
    cases answered
    exact (leadsTo_forget found).resume _ _
  · split at answered
    · cases answered
      exact leadsTo_resume world _ _
    · split at answered
      · cases answered
        exact leadsTo_resume world _ _
      · split at answered
        · cases answered
        · cases answered
          exact leadsTo_resume world _ _
      · cases answered

/-- Whatever a process requests, the exchange undergoes steps on its other side. -/
theorem leadsTo_answer {process : Process} {request : Request} {resume : request.Answer → Program}
    (answered : world.answer process request resume = some after) : world.LeadsTo after := by
  cases request with
  | read descriptor limit => exact leadsTo_answer_read answered
  | write descriptor bytes => exact leadsTo_answer_write answered
  | openFile path mode => exact leadsTo_answer_openFile answered
  | close descriptor =>
    rw [answer] at answered
    split at answered
    · cases answered
      exact leadsTo_resume world _ _
    · cases answered
      have detached : world.LeadsTo (world.change process.number (·.detach descriptor)) :=
        leadsTo_change world process.number fun _ => ⟨rfl, rfl⟩
      exact (detached.trans (leadsTo_release _ _)).resume _ _
  | duplicate source target => exact leadsTo_answer_duplicate answered
  | stash source => exact leadsTo_answer_stash answered
  | makePipe =>
    rw [answer] at answered
    dsimp only at answered
    split at answered
    · cases answered
      exact leadsTo_resume world _ _
    · cases answered
      refine LeadsTo.resume (LeadsTo.trans (.of_eq ?_ ?_) (leadsTo_change _ _ fun _ => ?_)) _ _
      · rfl
      · rfl
      · exact ⟨rfl, rfl⟩
  | wait patience => exact leadsTo_answer_wait answered
  | send number signal =>
    have resumed := leadsTo_resume world process.number
      (resume (if number = 0 ∨ world.hasProcess number then .ok () else .error .noProcess))
    cases signal with
    | none =>
      cases answered
      exact resumed
    | some signal =>
      cases answered
      have delivered := leadsTo_foldl fun (world : World) (number : Nat) =>
        leadsTo_deliver world number signal
      exact resumed.trans (delivered _ _)
  | changeDirectory path =>
    rw [answer] at answered
    split at answered
    · cases answered
      exact leadsTo_change_resume world _ _ fun _ => ⟨rfl, rfl⟩
    · cases answered
      exact leadsTo_resume world _ _
    · cases answered
      exact leadsTo_resume world _ _
  | list path =>
    rw [answer] at answered
    split at answered
    · cases answered
      exact leadsTo_resume world _ _
    · cases answered
      exact leadsTo_resume world _ _
    · cases answered
      exact leadsTo_resume world _ _
  | remove path =>
    rw [answer] at answered
    split at answered
    · cases answered
      exact leadsTo_resume world _ _
    · cases answered
      exact leadsTo_resume world _ _
    · split at answered
      · cases answered
        exact leadsTo_resume world _ _
      · cases answered
        refine LeadsTo.resume ?_ _ _
        exact .of_eq rfl rfl
  | changeLimit resource limit =>
    rw [answer] at answered
    split at answered
    · cases answered
      exact leadsTo_change_resume world _ _ fun _ => ⟨rfl, rfl⟩
    · cases answered
      exact leadsTo_resume world _ _
  | mask permissions =>
    cases permissions with
    | none =>
      cases answered
      exact leadsTo_resume world _ _
    | some mask =>
      cases answered
      exact leadsTo_change_resume world _ _ fun _ => ⟨rfl, rfl⟩
  | arrange | takeSignals | sleep =>
    cases answered
    exact leadsTo_change_resume world _ _ fun _ => ⟨rfl, rfl⟩
  | work | identity | parent | directory | inspect | describe | limit =>
    cases answered
    exact leadsTo_resume world _ _

/-! ### Time -/

/-- A process that makes a copy of itself gives it a new number and shares its descriptors. -/
theorem leadsTo_fork (world : World) (process copy : Process)
    (fresh : copy.number = world.nextProcess) :
    let shared := process.descriptors.foldl
      (fun world descriptor => world.hold descriptor.file) world
    world.LeadsTo { shared with
      processes := shared.processes ++ [copy], nextProcess := copy.number + 1 } := by
  intro shared
  have held : world.LeadsTo shared := leadsTo_foldl
    (fun (world : World) (descriptor : Descriptor) => leadsTo_hold world descriptor.file)
    process.descriptors world
  have table : shared.table = world.table := table_foldl
    (fun (world : World) (descriptor : Descriptor) => table_hold world descriptor.file)
    process.descriptors world
  have next : copy.number = shared.nextProcess := by
    rw [fresh]
    exact (congrArg (fun table => table.2.1) table).symm
  refine held.trans ⟨.refl _, fun sound => ?_, rfl⟩
  exact sound.add next rfl rfl rfl (congrArg (· + 1) next)

theorem leadsTo_takeTurn {process : Process} (taken : world.takeTurn process = some after) :
    world.LeadsTo after := by
  unfold takeTurn at taken
  split at taken
  · cases taken
  · split at taken
    · cases taken
      exact leadsTo_terminate world _ _
    · cases taken
      exact leadsTo_terminate world _ _
    · exact leadsTo_answer taken
    · cases taken
      exact (leadsTo_fork world process _ rfl).resume _ _
    · split at taken
      · cases taken
        exact leadsTo_resume world _ _
      · cases taken
        have released := leadsTo_foldl
          (fun (world : World) (descriptor : Descriptor) => leadsTo_release world descriptor.file)
          (process.descriptors.filter (! ·.inherited)) world
        exact released.trans (leadsTo_change _ process.number fun _ => ⟨rfl, rfl⟩)

theorem leadsTo_limitTime (world : World) (process : Process) :
    world.LeadsTo (world.limitTime process) := by
  unfold limitTime
  dsimp only
  split
  · exact leadsTo_deliver world _ _
  · split
    · refine .trans (leadsTo_change world process.number fun _ => ?_) (leadsTo_deliver _ _ _)
      exact ⟨rfl, rfl⟩
    · exact .refl world

theorem leadsTo_countTurn (world : World) (number : Nat) :
    world.LeadsTo (world.countTurn number) := by
  unfold countTurn
  dsimp only
  have counted : world.LeadsTo (world.change number fun process =>
      { process with worked := process.worked + turnTime }) :=
    leadsTo_change world number fun _ => ⟨rfl, rfl⟩
  have passed {clock : Nat} (world : World) : world.LeadsTo { world with turn := number, clock } :=
    .of_eq rfl rfl
  split
  · split
    · exact (counted.trans (passed _)).trans (leadsTo_limitTime _ _)
    · exact counted.trans (passed _)
  · exact counted.trans (passed _)

theorem leadsTo_step? (stepped : world.step? = some after) : world.LeadsTo after := by
  obtain ⟨process, _, turn⟩ := List.exists_of_findSome?_eq_some stepped
  obtain ⟨reached, taken, rfl⟩ := Option.map_eq_some_iff.mp turn
  exact (leadsTo_takeTurn taken).trans (leadsTo_countTurn reached process.number)

/-- While time passes the exchange undergoes steps on its other side and nothing else. -/
theorem leadsTo_pass (world : World) (limit : Nat) : world.LeadsTo (world.pass limit) := by
  unfold pass
  split
  · rename_i stepped
    exact (leadsTo_step? stepped).trans (.of_eq rfl rfl)
  · exact .of_eq rfl rfl

end Machine.World

end ShellSmoke
