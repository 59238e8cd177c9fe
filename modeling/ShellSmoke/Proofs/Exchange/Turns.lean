/-
This file says once what each turn of an encounter can do. A turn of the target leaves its operation
unfinished or completes it, and does at most one thing to the exchange; so the exchange of an
encounter goes through an execution, and all that holds of executions holds of it.
-/

import ShellSmoke.Exchange.Target
import ShellSmoke.Proofs.Exchange.Steps

namespace ShellSmoke.Encounter

open Exchange (Action Deed Does Move Moves Stream)

variable {State : Type} {target : Target State} {before after start reached : Encounter State}

/-! ### Letting go of descriptors -/

/-- A target that has its descriptor for reading the script closes it, and another does nothing. -/
theorem closeInput?_cases (closed : before.closeInput? = some after) :
    (before.reads = false ∧ after = before) ∨
      ∃ exchange, before.reads = true ∧ Does before.exchange .closeInput exchange ∧
        after = { before with exchange, reads := false } := by
  unfold closeInput? at closed
  split at closed
  · rename_i reads
    obtain ⟨exchange, done, rfl⟩ := Option.map_eq_some_iff.mp closed
    exact .inr ⟨exchange, reads, Exchange.deed?_eq_some_iff.mp done, rfl⟩
  · rename_i reads
    exact .inl ⟨eq_false_of_ne_true reads, (Option.some.inj closed).symm⟩

/-- A target that has one of its descriptors for writing output closes it, and another does
nothing. -/
theorem closeOutput?_cases {stream : Stream} (closed : before.closeOutput? stream = some after) :
    (before.writes stream = false ∧ after = before) ∨
      ∃ exchange, before.writes stream = true ∧ Does before.exchange .closeOutput exchange ∧
        after = { before with
          exchange
          writes := fun other => if other = stream then false else before.writes other } := by
  unfold closeOutput? at closed
  split at closed
  · rename_i writes
    obtain ⟨exchange, done, rfl⟩ := Option.map_eq_some_iff.mp closed
    exact .inr ⟨exchange, writes, Exchange.deed?_eq_some_iff.mp done, rfl⟩
  · rename_i writes
    exact .inl ⟨eq_false_of_ne_true writes, (Option.some.inj closed).symm⟩

/-- A target has none of its descriptors for writing output, or one that it closes next. -/
theorem openStream?_eq_none_iff :
    before.openStream? = none ↔ ∀ stream, before.writes stream = false := by
  unfold openStream?
  constructor
  · intro none stream
    split at none
    · cases none
    · rename_i output
      split at none
      · cases none
      · rename_i errors
        cases stream with
        | standardOutput => exact eq_false_of_ne_true output
        | standardError => exact eq_false_of_ne_true errors
  · intro closed
    rw [closed, closed]
    rfl

theorem writes_of_openStream? {stream : Stream} (opened : before.openStream? = some stream) :
    before.writes stream = true := by
  unfold openStream? at opened
  split at opened
  · cases opened
    assumption
  · split at opened
    · cases opened
      assumption
    · cases opened

/-! ### Going on with an operation -/

/-- How a target can go on with an operation, and where that leads. -/
inductive Operates (target : Target State) (count : Nat) (before : Encounter State) :
    Operation → Encounter State → Prop where
  | readNothing (limit : Nat)
    (nothing : limit = 0 ∨ before.reads = false ∨ before.exchange.input.atEnd = true) :
    Operates target count before (.read limit) (before.complete target [])
  | read (limit : Nat) (exchange : Exchange) (within : count ≤ limit)
    (reads : before.reads = true) (does : Does before.exchange (.read count) exchange) :
    Operates target count before (.read limit)
      { before.complete target (before.exchange.input.held.bytes.take count) with exchange }
  | writeNothing (stream : Stream) (bytes : Bytes)
    (nothing : bytes.length ≤ before.done ∨ before.writes stream = false) :
    Operates target count before (.write stream bytes) (before.complete target [])
  | write (stream : Stream) (bytes : Bytes) (part : Buffer) (exchange : Exchange)
    (unfinished : before.done < bytes.length) (writes : before.writes stream = true)
    (next : part = .ofBytes ((bytes.drop before.done).take count))
    (does : Does before.exchange (.write stream part) exchange) :
    Operates target count before (.write stream bytes)
      { before with exchange, done := before.done + part.size }
  | closeInput (closed : Encounter State) (closes : before.closeInput? = some closed) :
    Operates target count before .closeInput (closed.complete target [])
  | closeOutput (stream : Stream) (closed : Encounter State)
    (closes : before.closeOutput? stream = some closed) :
    Operates target count before (.closeOutput stream) (closed.complete target [])
  | exitInput (status : ExitStatus) (closed : Encounter State) (reads : before.reads = true)
    (closes : before.closeInput? = some closed) :
    Operates target count before (.exit status) closed
  | exitOutput (status : ExitStatus) (stream : Stream) (closed : Encounter State)
    (reads : before.reads = false) (opened : before.openStream? = some stream)
    (closes : before.closeOutput? stream = some closed) :
    Operates target count before (.exit status) closed
  | exit (status : ExitStatus) (exchange : Exchange) (reads : before.reads = false)
    (closed : ∀ stream, before.writes stream = false)
    (does : Does before.exchange (.exit status) exchange) :
    Operates target count before (.exit status) { before with exchange }

theorem operates_of_operate? {count : Nat} {operation : Operation}
    (operated : before.operate? target count operation = some after) :
    Operates target count before operation after := by
  unfold operate? at operated
  cases operation with
  | read limit =>
    dsimp only at operated
    split at operated
    · rename_i nothing
      cases operated
      rw [Bool.not_eq_true] at nothing
      exact .readNothing limit (nothing.imp_right .inl)
    · rename_i some
      rw [not_or, Classical.not_not] at some
      split at operated
      · rename_i atEnd
        cases operated
        exact .readNothing limit (.inr (.inr atEnd))
      · split at operated
        · rename_i within
          obtain ⟨exchange, done, rfl⟩ := Option.map_eq_some_iff.mp operated
          exact .read limit exchange within some.2 (Exchange.deed?_eq_some_iff.mp done)
        · cases operated
  | write stream bytes =>
    dsimp only at operated
    split at operated
    · rename_i nothing
      cases operated
      rw [Bool.not_eq_true] at nothing
      exact .writeNothing stream bytes nothing
    · rename_i some
      rw [not_or, Nat.not_le, Classical.not_not] at some
      obtain ⟨exchange, done, rfl⟩ := Option.map_eq_some_iff.mp operated
      exact .write stream bytes _ exchange some.1 some.2 rfl (Exchange.deed?_eq_some_iff.mp done)
  | closeInput =>
    obtain ⟨closed, closes, rfl⟩ := Option.map_eq_some_iff.mp operated
    exact .closeInput closed closes
  | closeOutput stream =>
    obtain ⟨closed, closes, rfl⟩ := Option.map_eq_some_iff.mp operated
    exact .closeOutput stream closed closes
  | exit status =>
    dsimp only at operated
    split at operated
    · rename_i reads
      exact .exitInput status after reads operated
    · rename_i reads
      split at operated
      · rename_i stream opened
        exact .exitOutput status stream after (eq_false_of_ne_true reads) opened operated
      · rename_i none
        obtain ⟨exchange, done, rfl⟩ := Option.map_eq_some_iff.mp operated
        exact .exit status exchange (eq_false_of_ne_true reads) (openStream?_eq_none_iff.mp none)
          (Exchange.deed?_eq_some_iff.mp done)

/-! ### Turns -/

/-- What a turn can be, and where it leads. -/
inductive Takes (target : Target State) (before : Encounter State) :
    Turn → Encounter State → Prop where
  | harness (move : Move) (exchange : Exchange) (regular : isRegular move = true)
    (moves : Moves before.exchange move exchange) :
    Takes target before (.harness move) { before with exchange }
  | target (count : Nat) (operation : Operation) (after : Encounter State)
    (running : before.exchange.child = .running)
    (next : target.next? before.state = some operation)
    (operates : Operates target count before operation after) :
    Takes target before (.target count) after

theorem takes_of_turn? {turn : Turn} (taken : before.turn? target turn = some after) :
    Takes target before turn after := by
  unfold turn? at taken
  cases turn with
  | harness move =>
    dsimp only at taken
    split at taken
    · rename_i regular
      obtain ⟨exchange, moved, rfl⟩ := Option.map_eq_some_iff.mp taken
      exact .harness move exchange regular (Exchange.moves_of_move? moved)
    · cases taken
  | target count =>
    dsimp only at taken
    split at taken
    · rename_i operation running next
      exact .target count operation after running next (operates_of_operate? taken)
    · cases taken

/-- A turn is one step of the exchange or none. -/
theorem step_of_takes {turn : Turn} (takes : Takes target before turn after) :
    after.exchange = before.exchange ∨ before.exchange.Step after.exchange := by
  have acts {deed : Deed} {exchange : Exchange} (does : Does before.exchange deed exchange) :
      before.exchange.Step exchange :=
    ⟨.target deed, Exchange.deed?_eq_some_iff.mpr does⟩
  have closesInput {closed : Encounter State} (closes : before.closeInput? = some closed) :
      closed.exchange = before.exchange ∨ before.exchange.Step closed.exchange := by
    rcases closeInput?_cases closes with ⟨_, rfl⟩ | ⟨exchange, _, does, rfl⟩
    · exact .inl rfl
    · exact .inr (acts does)
  have closesOutput {closed : Encounter State} {stream : Stream}
      (closes : before.closeOutput? stream = some closed) :
      closed.exchange = before.exchange ∨ before.exchange.Step closed.exchange := by
    rcases closeOutput?_cases closes with ⟨_, rfl⟩ | ⟨exchange, _, does, rfl⟩
    · exact .inl rfl
    · exact .inr (acts does)
  cases takes with
  | harness move exchange regular moves =>
    exact .inr ⟨.harness move, Exchange.move?_eq_some_iff.mpr moves⟩
  | target count operation after running next operates =>
    cases operates with
    | readNothing | writeNothing => exact .inl rfl
    | read limit exchange within reads does => exact .inr (acts does)
    | write stream bytes part exchange unfinished writes next does => exact .inr (acts does)
    | closeInput closed closes =>
      have closing := closesInput closes
      exact closing
    | closeOutput stream closed closes =>
      have closing := closesOutput closes
      exact closing
    | exitInput status closed reads closes => exact closesInput closes
    | exitOutput status stream closed reads opened closes => exact closesOutput closes
    | exit status exchange reads closed does => exact .inr (acts does)

/-! ### Sequences of turns -/

/-- What holds at the start of an encounter and is kept by every turn holds whenever the encounter
is looked at. -/
theorem play?_induction {motive : Encounter State → Prop} (first : motive start)
    (next : ∀ before turn after, motive before → Takes target before turn after → motive after)
    {turns : List Turn} (played : start.play? target turns = some reached) : motive reached :=
  foldlM_induction (turn? target) (motive := fun _ reached => motive reached) first
    (fun _ before turn after holds taken => next before turn after holds (takes_of_turn? taken))
    played

/-- The exchange of an encounter goes through an execution. -/
theorem exists_play?_exchange {turns : List Turn}
    (played : start.play? target turns = some reached) :
    ∃ actions, start.exchange.play? actions = some reached.exchange := by
  refine play?_induction (motive := fun reached =>
    ∃ actions, start.exchange.play? actions = some reached.exchange) ⟨[], rfl⟩ ?_ played
  rintro before turn after ⟨actions, executed⟩ takes
  rcases step_of_takes takes with same | ⟨action, acted⟩
  · exact ⟨actions, same ▸ executed⟩
  · refine ⟨actions ++ [action], ?_⟩
    exact (Exchange.play?_concat_eq_some_iff actions action).mpr ⟨_, executed, acted⟩

end ShellSmoke.Encounter
