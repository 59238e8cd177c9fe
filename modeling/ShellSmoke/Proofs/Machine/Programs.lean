/-
This file says how to reason about what a program does. A program is a tree of requests, and all
that can be seen of it is what it asked for and what it was answered. A promise about that is kept
if it holds at every moment, whatever the system answers. For a routine, which has a value and goes
on with it, one rule says what was seen of it in the meantime, and what when it had its value.
-/

import ShellSmoke.Machine.Program

namespace ShellSmoke.Machine

/-! ### What can be seen of a program -/

/-- A request of a program and its answer. -/
structure Reply where
  request : Request
  answer : request.Answer

namespace Reply

/-- The bytes that were read from a descriptor. -/
def taken (descriptor : Nat) : Reply → Bytes
  | ⟨.read source _, .ok bytes⟩ => if source = descriptor then bytes else []
  | _ => []

/-- The bytes that were written to a descriptor. -/
def given (descriptor : Nat) : Reply → Bytes
  | ⟨.write target bytes, .ok count⟩ => if target = descriptor then bytes.take count else []
  | _ => []

/-- Whether the system refused something that has to do with a file. -/
def IsRefusal : Reply → Prop
  | ⟨.read _ _, .error _⟩ | ⟨.write _ _, .error _⟩ | ⟨.openFile _ _, .error _⟩
  | ⟨.close _, .error _⟩ | ⟨.describe _, .error _⟩ => True
  | _ => False

/-- Whether a descriptor was found to be at its end. -/
def IsEnd (descriptor : Nat) : Reply → Prop
  | ⟨.read source _, .ok bytes⟩ => source = descriptor ∧ bytes = []
  | _ => False

end Reply

/-- All bytes that were read from a descriptor. -/
def takenFrom (descriptor : Nat) (replies : List Reply) : Bytes :=
  replies.flatMap (Reply.taken descriptor)

/-- All bytes that were written to a descriptor. -/
def givenTo (descriptor : Nat) (replies : List Reply) : Bytes :=
  replies.flatMap (Reply.given descriptor)

@[simp]
theorem takenFrom_append (descriptor : Nat) (first second : List Reply) :
    takenFrom descriptor (first ++ second) =
      takenFrom descriptor first ++ takenFrom descriptor second :=
  List.flatMap_append

@[simp]
theorem givenTo_append (descriptor : Nat) (first second : List Reply) :
    givenTo descriptor (first ++ second) =
      givenTo descriptor first ++ givenTo descriptor second :=
  List.flatMap_append

@[simp]
theorem takenFrom_nil (descriptor : Nat) : takenFrom descriptor [] = [] := rfl

@[simp]
theorem givenTo_nil (descriptor : Nat) : givenTo descriptor [] = [] := rfl

@[simp]
theorem takenFrom_cons (descriptor : Nat) (reply : Reply) (replies : List Reply) :
    takenFrom descriptor (reply :: replies) =
      reply.taken descriptor ++ takenFrom descriptor replies := rfl

@[simp]
theorem givenTo_cons (descriptor : Nat) (reply : Reply) (replies : List Reply) :
    givenTo descriptor (reply :: replies) =
      reply.given descriptor ++ givenTo descriptor replies := rfl

/-! ### Promises -/

namespace Program

/-- The code with which a program exits, if it does so now. -/
def code? : Program → Option UInt8
  | exit code => some code
  | _ => none

/-- Whether a program comes to be another one by so many requests with these answers. -/
inductive Comes : Program → List Reply → Program → Prop where
  | stay (program : Program) : Comes program [] program
  | call {request : Request} {resume : request.Answer → Program} {replies : List Reply}
    {last : Program} (answer : request.Answer) (later : Comes (resume answer) replies last) :
    Comes (.call request resume) (⟨request, answer⟩ :: replies) last
  | fork {child : Program} {resume : Nat → Program} {replies : List Reply} {last : Program}
    (number : Nat) (later : Comes (resume number) replies last) :
    Comes (.fork child resume) replies last
  | refuse {path : Bytes} {arguments : List Bytes} {bindings : Variables}
    {refused : Errno → Program} {replies : List Reply} {last : Program} (errno : Errno)
    (later : Comes (refused errno) replies last) :
    Comes (.execute path arguments bindings refused) replies last

/-- Whether a promise about the replies so far, and the exit code if there is one, is kept at every
moment of a program, whatever the system answers. -/
def Keeps (promise : List Reply → Option UInt8 → Prop) : Program → List Reply → Prop
  | exit code, history => promise history (some code)
  | call request resume, history =>
    promise history none ∧
      ∀ answer, Keeps promise (resume answer) (history ++ [⟨request, answer⟩])
  | fork _ resume, history =>
    promise history none ∧ ∀ number, Keeps promise (resume number) history
  | execute _ _ _ refused, history =>
    promise history none ∧ ∀ errno, Keeps promise (refused errno) history

variable {promise : List Reply → Option UInt8 → Prop}

/-- A promise that is kept holds now. -/
theorem Keeps.now {program : Program} {history : List Reply}
    (keeps : program.Keeps promise history) : promise history program.code? := by
  cases program with
  | exit code => exact keeps
  | call request resume => exact keeps.1
  | fork child resume => exact keeps.1
  | execute path arguments bindings refused => exact keeps.1

/-- A promise is kept if and only if it holds of whatever a program comes to. -/
theorem keeps_iff {program : Program} {history : List Reply} :
    program.Keeps promise history ↔
      ∀ replies last, program.Comes replies last → promise (history ++ replies) last.code? := by
  constructor
  · intro keeps replies last comes
    induction comes generalizing history with
    | stay program => simpa using keeps.now
    | call answer later inductionHypothesis =>
      simpa [List.append_assoc] using inductionHypothesis (keeps.2 answer)
    | fork number later inductionHypothesis => exact inductionHypothesis (keeps.2 number)
    | refuse errno later inductionHypothesis => exact inductionHypothesis (keeps.2 errno)
  · intro holds
    have now : promise history program.code? := by simpa using holds [] program (.stay program)
    induction program generalizing history with
    | exit code => exact now
    | call request resume inductionHypothesis =>
      refine ⟨now, fun answer => ?_⟩
      have later : ∀ replies last, (resume answer).Comes replies last →
          promise (history ++ [⟨request, answer⟩] ++ replies) last.code? := by
        intro replies last comes
        simpa [List.append_assoc] using holds _ _ (.call answer comes)
      exact inductionHypothesis answer later (by simpa using later [] _ (.stay _))
    | fork child resume _ inductionHypothesis =>
      have later (number : Nat) : ∀ replies last, (resume number).Comes replies last →
          promise (history ++ replies) last.code? :=
        fun replies last comes => holds _ _ (.fork number comes)
      exact ⟨now, fun number => inductionHypothesis number (later number)
        (by simpa using later number [] _ (.stay _))⟩
    | execute path arguments bindings refused inductionHypothesis =>
      have later (errno : Errno) : ∀ replies last, (refused errno).Comes replies last →
          promise (history ++ replies) last.code? :=
        fun replies last comes => holds _ _ (.refuse errno comes)
      exact ⟨now, fun errno => inductionHypothesis errno (later errno)
        (by simpa using later errno [] _ (.stay _))⟩

end Program

/-! ### Routines -/

@[simp]
theorem Routine.pure_apply {α : Type} (value : α) (next : α → Program) :
    (pure value : Routine α) next = next value := rfl

@[simp]
theorem Routine.bind_apply {α β : Type} (routine : Routine α) (more : α → Routine β)
    (next : β → Program) : (routine >>= more) next = routine fun value => more value next := rfl

/-! ### Writing all -/

/-- What is seen while bytes are written to a descriptor: nothing else is written, and nothing is
read. -/
structure Writes (descriptor : Nat) (bytes : Bytes) (replies : List Reply) : Prop where
  given : givenTo descriptor replies <+: bytes
  silent : ∀ other, other ≠ descriptor → givenTo other replies = []
  taken : ∀ source, takenFrom source replies = []

/-- What was seen when all bytes were written, or that was given up. -/
structure Wrote (descriptor : Nat) (bytes : Bytes) (lifetime : Nat) (result : Except Errno Unit)
    (replies : List Reply) : Prop extends Writes descriptor bytes replies where
  whole : result = .ok () → replies.length < lifetime → givenTo descriptor replies = bytes
  refused : ∀ errno, result = .error errno → ∃ reply ∈ replies, reply.IsRefusal

variable {promise : List Reply → Option UInt8 → Prop}

theorem Writes.nil (descriptor : Nat) (bytes : Bytes) : Writes descriptor bytes [] :=
  ⟨List.nil_prefix, fun _ _ => rfl, fun _ => rfl⟩

/-- A part that was written goes in front of what is written afterwards. -/
theorem Writes.cons {descriptor count : Nat} {bytes : Bytes} {replies : List Reply}
    (writes : Writes descriptor (bytes.drop count) replies) :
    Writes descriptor bytes (⟨.write descriptor bytes, .ok count⟩ :: replies) where
  given := by
    obtain ⟨rest, whole⟩ := writes.given
    refine ⟨rest, ?_⟩
    rw [givenTo_cons, List.append_assoc, whole]
    simp [Reply.given]
  silent other differs := by
    rw [givenTo_cons, writes.silent other differs]
    simp [Reply.given, differs.symm]
  taken source := by rw [takenFrom_cons, writes.taken source]; rfl

/-- Whoever writes all bytes writes nothing but them, in order. -/
theorem keeps_writeAll {descriptor : Nat} {next : Except Errno Unit → Program} (lifetime : Nat)
    (bytes : Bytes) (history : List Reply)
    (meanwhile : ∀ replies, Writes descriptor bytes replies → promise (history ++ replies) none)
    (afterwards : ∀ replies result, Wrote descriptor bytes lifetime result replies →
      (next result).Keeps promise (history ++ replies)) :
    (Routine.writeAll descriptor lifetime bytes next).Keeps promise history := by
  have nothing : bytes = [] ∨ lifetime = 0 → (next (.ok ())).Keeps promise history := by
    intro spent
    have wrote : Wrote descriptor bytes lifetime (.ok ()) [] :=
      { Writes.nil descriptor bytes with
        whole := fun _ short => by
          rcases spent with rfl | rfl
          · rfl
          · cases short
        refused := nofun }
    simpa using afterwards [] _ wrote
  induction lifetime generalizing bytes history with
  | zero => exact nothing (.inr rfl)
  | succ lifetime inductionHypothesis =>
    unfold Routine.writeAll
    split
    · exact nothing (.inl (List.isEmpty_iff.mp ‹_›))
    refine ⟨by simpa using meanwhile [] (.nil descriptor bytes), fun answer => ?_⟩
    cases answer with
    | error errno =>
      refine afterwards [⟨.write descriptor bytes, .error errno⟩] (.error errno) ?_
      exact {
        given := List.nil_prefix
        silent := fun _ _ => rfl
        taken := fun _ => rfl
        whole := nofun
        refused := fun _ _ => ⟨_, List.mem_singleton_self _, trivial⟩ }
    | ok count =>
      have written (replies : List Reply) (result : Except Errno Unit)
          (wrote : Wrote descriptor (bytes.drop count) lifetime result replies) :
          Wrote descriptor bytes (lifetime + 1) result
            (⟨.write descriptor bytes, .ok count⟩ :: replies) :=
        { wrote.toWrites.cons with
          whole := fun done short => by
            rw [givenTo_cons, wrote.whole done (Nat.lt_of_succ_lt_succ short)]
            simp [Reply.given]
          refused := fun errno failed => by
            obtain ⟨reply, member, refusal⟩ := wrote.refused errno failed
            exact ⟨reply, List.mem_cons_of_mem _ member, refusal⟩ }
      refine inductionHypothesis _ _ (fun replies writes => ?_) (fun replies result wrote => ?_) ?_
      · simpa [List.append_assoc] using meanwhile _ writes.cons
      · simpa [List.append_assoc] using afterwards _ _ (written replies result wrote)
      · intro spent
        have wrote : Wrote descriptor (bytes.drop count) lifetime (.ok ()) [] :=
          { Writes.nil descriptor _ with
            whole := fun _ short => by
              rcases spent with rest | rfl
              · exact rest.symm
              · cases short
            refused := nofun }
        exact afterwards _ _ (written [] _ wrote)

end ShellSmoke.Machine
