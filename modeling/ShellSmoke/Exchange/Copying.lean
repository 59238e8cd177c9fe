/-
This file describes targets that copy. Such a target writes to its standard output what it has read,
unchanged and in the same order; when it has met the end of its input and has written everything, it
exits with code 0. In which pieces it reads and writes, and how much it holds back in between, is
left open. The file also gives one such target, which reads into a buffer and writes the buffer out.
-/

import ShellSmoke.Exchange.Target

namespace ShellSmoke

namespace Target

/-- Whether a target keeps the books of a copy: `held` is what it has read and not yet written in a
state, and `metEnd` tells whether it has met the end of its input. -/
structure KeepsCopy {State : Type} (target : Target State) (held : State → Bytes)
    (metEnd : State → Prop) : Prop where
  read : ∀ state limit, target.next? state = some (.read limit) → 0 < limit ∧ ∀ bytes,
    held (target.after state bytes) = held state ++ bytes ∧
    (metEnd (target.after state bytes) ↔ metEnd state ∨ bytes = [])
  write : ∀ state stream bytes, target.next? state = some (.write stream bytes) →
    stream = .standardOutput ∧ held state = bytes ++ held (target.after state []) ∧
    (metEnd (target.after state []) ↔ metEnd state)
  closeInput : ∀ state, target.next? state = some .closeInput →
    metEnd state ∧ held (target.after state []) = held state ∧ metEnd (target.after state [])
  closeOutput : ∀ state stream, target.next? state = some (.closeOutput stream) →
    (stream = .standardOutput → metEnd state ∧ held state = []) ∧
    held (target.after state []) = held state ∧ (metEnd (target.after state []) ↔ metEnd state)
  exit : ∀ state status, target.next? state = some (.exit status) →
    status = .exited 0 ∧ metEnd state ∧ held state = []

/-- Whether a target copies its input from some state on. -/
def Copies {State : Type} (target : Target State) (state : State) : Prop :=
  ∃ held metEnd, target.KeepsCopy held metEnd ∧ held state = [] ∧ ¬ metEnd state

end Target

/-! ### A copy by way of a buffer -/

/-- What a target that copies by way of a buffer is at. -/
inductive Copying where
  | reading
  | writing (bytes : Bytes)
  | ended
deriving DecidableEq, Inhabited

namespace Copying

/-- What is in the buffer. -/
def buffer : Copying → Bytes
  | reading => []
  | writing bytes => bytes
  | ended => []

/-- The target that copies by way of a buffer of some size. -/
def target (size : Nat) : Target Copying where
  next?
    | reading => some (.read size)
    | writing bytes => some (.write .standardOutput bytes)
    | ended => some (.exit (.exited 0))
  after
    | reading, bytes => if bytes = [] then ended else writing bytes
    | writing _, _ => reading
    | ended, _ => ended

end Copying

end ShellSmoke
