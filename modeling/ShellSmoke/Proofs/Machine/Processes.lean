/-
This file keeps the books on the processes of the modelled system. Processes are told apart by their
numbers, a new one gets a number that none has, and the exchange says that the child runs exactly as
long as the process of the target has not ended. Most of what happens leaves open who runs and who
has ended; processes end in one way only, and a process that runs is never taken out of the table.
-/

import ShellSmoke.Machine.Kernel
import Mathlib.Data.List.Nodup

namespace ShellSmoke.Machine.World

variable {world before middle after : World} {number : Nat}

/-! ### Books -/

/-- Whether there is a process of a number that has not ended. -/
def IsAlive (world : World) (number : Nat) : Prop :=
  ∃ process ∈ world.processes, process.number = number ∧ process.ended = none

/-- Whether processes are told apart by their numbers, and the next number is a new one. -/
structure IsNumbered (world : World) : Prop where
  distinct : (world.processes.map (·.number)).Nodup
  bounded : ∀ process ∈ world.processes, process.number < world.nextProcess

/-- Whether the exchange also says of the child what is the case. -/
structure IsSound (world : World) : Prop extends IsNumbered world where
  started : world.target < world.nextProcess
  told : world.exchange.child = .running ↔ world.IsAlive world.target

/-- Whether one world has the processes of another, up to some that have ended, and as many of them
run. -/
structure Keeps (before after : World) : Prop where
  target : after.target = before.target
  next : after.nextProcess = before.nextProcess
  numbers : (after.processes.map (·.number)).Sublist (before.processes.map (·.number))
  alive : ∀ number, after.IsAlive number ↔ before.IsAlive number

/-- Whether one world has the processes of another, up to some that have ended, and as many of them
run but for that of a number, which does not. -/
structure Ends (number : Nat) (before after : World) : Prop where
  target : after.target = before.target
  next : after.nextProcess = before.nextProcess
  numbers : (after.processes.map (·.number)).Sublist (before.processes.map (·.number))
  alive : ∀ other, after.IsAlive other ↔ before.IsAlive other ∧ other ≠ number

/-- What a world knows of processes: which runs the target, which number is the next, and all there
are. -/
def table (world : World) : Nat × Nat × List Process :=
  (world.target, world.nextProcess, world.processes)

theorem Keeps.of_table (same : after.table = before.table) : Keeps before after := by
  simp only [table, Prod.mk.injEq] at same
  obtain ⟨target, next, processes⟩ := same
  refine ⟨target, next, by rw [processes], fun number => ?_⟩
  rw [IsAlive, IsAlive, processes]

theorem Keeps.trans (first : Keeps before middle) (second : Keeps middle after) :
    Keeps before after :=
  ⟨second.target.trans first.target, second.next.trans first.next,
    second.numbers.trans first.numbers, fun number =>
      (second.alive number).trans (first.alive number)⟩

theorem Ends.trans_keeps (first : Ends number before middle) (second : Keeps middle after) :
    Ends number before after :=
  ⟨second.target.trans first.target, second.next.trans first.next,
    second.numbers.trans first.numbers, fun other =>
      (second.alive other).trans (first.alive other)⟩

/-! ### Steps in the table -/

theorem numbers_map {how : Process → Process} (processes : List Process)
    (each : ∀ process : Process, (how process).number = process.number) :
    (processes.map how).map (·.number) = processes.map (·.number) := by
  rw [List.map_map]
  exact List.map_congr_left fun process _ => each process

/-- Changes that leave number and end of each process alone keep the books. -/
theorem keeps_map {how : Process → Process}
    (each : ∀ process : Process, (how process).number = process.number ∧
      (how process).ended = process.ended) :
    Keeps world { world with processes := world.processes.map how } := by
  refine ⟨rfl, rfl, ?_, fun number => ⟨?_, ?_⟩⟩
  · dsimp only
    rw [numbers_map _ fun process => (each process).1]
  · rintro ⟨_, member, same, alive⟩
    obtain ⟨process, present, rfl⟩ := List.mem_map.mp member
    exact ⟨process, present, (each process).1 ▸ same, (each process).2 ▸ alive⟩
  · rintro ⟨process, present, same, alive⟩
    exact ⟨how process, List.mem_map_of_mem present, (each process).1.trans same,
      (each process).2.trans alive⟩

theorem keeps_change {how : Process → Process} (number : Nat)
    (each : ∀ process : Process, (how process).number = process.number ∧
      (how process).ended = process.ended) :
    Keeps world (world.change number how) :=
  keeps_map fun process => by
    split
    · exact each process
    · exact ⟨rfl, rfl⟩

/-- To take processes out that have ended keeps the books. -/
theorem keeps_filter {keep : Process → Bool}
    (each : ∀ process ∈ world.processes, process.ended = none → keep process = true) :
    Keeps world { world with processes := world.processes.filter keep } := by
  refine ⟨rfl, rfl, List.filter_sublist.map _, fun number => ⟨?_, ?_⟩⟩
  · rintro ⟨process, member, same, alive⟩
    exact ⟨process, List.mem_of_mem_filter member, same, alive⟩
  · rintro ⟨process, present, same, alive⟩
    exact ⟨process, List.mem_filter.mpr ⟨present, each process present alive⟩, same, alive⟩

/-- To take out the process of a number that does not run keeps the books. -/
theorem keeps_forget (gone : ¬ world.IsAlive number) :
    Keeps world { world with processes := world.processes.filter (·.number ≠ number) } :=
  keeps_filter fun process present alive => by
    have other : process.number ≠ number := fun same => gone ⟨process, present, same, alive⟩
    simpa using other

/-- A process is the only one of its number. -/
theorem IsNumbered.eq_of_number (numbered : world.IsNumbered) {process other : Process}
    (present : process ∈ world.processes) (also : other ∈ world.processes)
    (same : process.number = other.number) : process = other :=
  List.inj_on_of_nodup_map numbered.distinct present also same

theorem IsNumbered.not_isAlive (numbered : world.IsNumbered) {process : Process}
    (present : process ∈ world.processes) (ended : process.ended ≠ none) :
    ¬ world.IsAlive process.number := by
  rintro ⟨other, also, same, alive⟩
  rw [numbered.eq_of_number also present same] at alive
  exact ended alive

theorem process?_eq_none_iff :
    world.process? number = none ↔ ∀ process ∈ world.processes, process.number ≠ number := by
  simp [process?]

theorem mem_of_process? {process : Process} (found : world.process? number = some process) :
    process ∈ world.processes ∧ process.number = number :=
  ⟨List.mem_of_find?_eq_some found, by simpa using List.find?_some found⟩

theorem IsNumbered.of_sublist (numbered : before.IsNumbered)
    (next : after.nextProcess = before.nextProcess)
    (numbers : (after.processes.map (·.number)).Sublist (before.processes.map (·.number))) :
    after.IsNumbered := by
  refine ⟨numbered.distinct.sublist numbers, fun process present => ?_⟩
  obtain ⟨old, presentBefore, same⟩ :=
    List.mem_map.mp (numbers.subset (List.mem_map_of_mem present))
  rw [next, ← same]
  exact numbered.bounded old presentBefore

theorem IsSound.of_keeps (sound : before.IsSound) (keeps : Keeps before after)
    (child : after.exchange.child = .running ↔ before.exchange.child = .running) :
    after.IsSound := by
  refine ⟨sound.toIsNumbered.of_sublist keeps.next keeps.numbers, ?_, ?_⟩
  · rw [keeps.target, keeps.next]
    exact sound.started
  · rw [child, keeps.target, keeps.alive]
    exact sound.told

/-! ### New processes -/

theorem IsNumbered.add (numbered : before.IsNumbered) {process : Process}
    (fresh : process.number = before.nextProcess)
    (processes : after.processes = before.processes ++ [process])
    (next : after.nextProcess = before.nextProcess + 1) : after.IsNumbered := by
  constructor
  · rw [processes, List.map_append, List.map_singleton]
    refine numbered.distinct.append (List.nodup_singleton _) ?_
    intro taken one two
    obtain ⟨other, present, rfl⟩ := List.mem_map.mp one
    have bounded := numbered.bounded other present
    have same := List.mem_singleton.mp two
    omega
  · intro other present
    rw [processes] at present
    rw [next]
    rcases List.mem_append.mp present with present | present
    · have bounded := numbered.bounded other present
      omega
    · rw [List.mem_singleton.mp present, fresh]
      omega

/-- A new process gets a number that none has, and so it is not the child. -/
theorem IsSound.add (sound : before.IsSound) {process : Process}
    (fresh : process.number = before.nextProcess) (exchange : after.exchange = before.exchange)
    (target : after.target = before.target)
    (processes : after.processes = before.processes ++ [process])
    (next : after.nextProcess = before.nextProcess + 1) : after.IsSound := by
  have alive : after.IsAlive after.target ↔ before.IsAlive before.target := by
    rw [IsAlive, IsAlive, processes, target]
    constructor
    · rintro ⟨other, present, same, alive⟩
      rcases List.mem_append.mp present with present | present
      · exact ⟨other, present, same, alive⟩
      · have started := sound.started
        rw [List.mem_singleton.mp present, fresh] at same
        omega
    · rintro ⟨other, present, same, alive⟩
      exact ⟨other, List.mem_append_left _ present, same, alive⟩
  refine ⟨sound.toIsNumbered.add fresh processes next, ?_, ?_⟩
  · rw [target, next]
    exact Nat.lt_succ_of_lt sound.started
  · rw [exchange, alive]
    exact sound.told

/-! ### Ends -/

theorem IsSound.of_ends (sound : before.IsSound) (ends : Ends number before after)
    (child : number ≠ before.target → after.exchange.child = before.exchange.child)
    (ended : number = before.target → after.exchange.child ≠ .running) : after.IsSound := by
  refine ⟨sound.toIsNumbered.of_sublist ends.next ends.numbers, ?_, ?_⟩
  · rw [ends.target, ends.next]
    exact sound.started
  · rw [ends.target, ends.alive]
    by_cases same : number = before.target
    · exact iff_of_false (ended same) fun alive => alive.2 same.symm
    · rw [child same, sound.told]
      exact (and_iff_left (Ne.symm same)).symm

/-- Once a process is marked as ended it does not run any more. -/
theorem ends_change {status : ExitStatus} {how : Process → Process}
    (each : ∀ process : Process, (how process).number = process.number ∧
      (how process).ended = some status) :
    Ends number world (world.change number how) := by
  refine ⟨rfl, rfl, ?_, fun other => ⟨?_, ?_⟩⟩
  · unfold change
    dsimp only
    rw [numbers_map _ fun process => ?_]
    split
    · exact (each process).1
    · rfl
  · rintro ⟨_, member, same, alive⟩
    obtain ⟨process, present, rfl⟩ := List.mem_map.mp member
    by_cases marked : process.number = number
    · rw [if_pos marked, (each process).2] at alive
      cases alive
    · rw [if_neg marked] at same alive
      exact ⟨⟨process, present, same, alive⟩, same ▸ marked⟩
  · rintro ⟨⟨process, present, rfl, alive⟩, differs⟩
    exact ⟨process, List.mem_map.mpr ⟨process, present, if_neg differs⟩, rfl, alive⟩

/-! ### Open files -/

theorem table_hold (world : World) (number : Nat) : (world.hold number).table = world.table := by
  unfold hold
  split
  · rfl
  · dsimp only
    split
    · split
      · split <;> rfl
      · split <;> rfl
    · split <;> rfl
    · rfl
    · rfl

theorem table_release (world : World) (number : Nat) :
    (world.release number).table = world.table := by
  unfold release
  split
  · rfl
  · dsimp only
    split
    all_goals
      simp only [table, apply_ite World.target, apply_ite World.nextProcess,
        apply_ite World.processes, does, changeFile, changeChannel, ite_self]

theorem table_foldl {Item : Type} {step : World → Item → World}
    (each : ∀ (world : World) (item : Item), (step world item).table = world.table)
    (items : List Item) (world : World) : (items.foldl step world).table = world.table := by
  induction items generalizing world with
  | nil => rfl
  | cons item items inductionHypothesis =>
    exact (inductionHypothesis (step world item)).trans (each world item)

end ShellSmoke.Machine.World
