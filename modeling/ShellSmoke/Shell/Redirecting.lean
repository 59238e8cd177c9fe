/-
This file redirects descriptors: for as long as a command runs, or for good.
-/

import ShellSmoke.Shell.Expansion

namespace ShellSmoke.Shell

open Machine

/-! ### Keeping descriptors -/

/-- A descriptor that a redirection changed, with the high descriptor that holds what it stood for,
if it stood for anything. -/
structure Saved where
  descriptor : Nat
  kept : Option Nat
deriving DecidableEq, Repr, Inhabited

/-- What is said where a descriptor does not become what it is to be. -/
def descriptorFault (descriptor : Nat) (errno : Errno) : Octets :=
  Octets.ofNat descriptor ++ ": ".toList ++ errno.text.toList

/-- Keeps what a descriptor stands for, and closes it. -/
def saveDescriptor (descriptor : Nat) : Work Saved := do
  match ← Routine.stash descriptor with
  | .ok kept =>
    closeDescriptor descriptor
    return ⟨descriptor, some kept⟩
  | .error .badDescriptor => return ⟨descriptor, none⟩
  | .error errno =>
    closeDescriptor descriptor
    abandon (descriptorFault descriptor errno)

/-- Lets a descriptor stand for what it stood for before. -/
def restoreDescriptor (saved : Saved) : Work Unit := do
  match saved.kept with
  | some kept => moveDescriptor kept saved.descriptor
  | none => closeDescriptor saved.descriptor

/-- Forgets what a descriptor stood for before. -/
def dropDescriptor (saved : Saved) : Work Unit := do
  if let some kept := saved.kept then closeDescriptor kept

/-! ### Redirections -/

/-- Why a file could not be opened, in the words of the shell. -/
def openFault (mode : OpenMode) (path : Octets) (errno : Errno) : Octets :=
  let (attempt, missing) := if mode = .reading then ("cannot open ", "No such file")
    else ("cannot create ", "Directory nonexistent")
  let isMissing := errno = .noEntry ∨ errno = .notDirectory
  let reason := if isMissing then missing else errno.text
  attempt.toList ++ path ++ ": ".toList ++ reason.toList

/-- The largest text that is put into a pipe without the help of another process. -/
def directLimit : Nat := 4096

/-- A descriptor from which a text can be read. -/
def offerText (means : Means) (text : Octets) : Work Nat := do
  let (input, output) ← makePipe
  if text.length ≤ directLimit then
    let _ ← write output text
  else
    let _ ← forkShell means do
      closeDescriptor input
      let _ ← write output text
      setStatus 0
  closeDescriptor output
  return input

/-- A redirection whose words are expanded. -/
inductive Target where
  | file (descriptor : Nat) (mode : OpenMode) (regardless : Bool) (path : Octets)
  /-- What another descriptor stands for; without one, nothing. -/
  | copy (descriptor : Nat) (source : Option Nat)
  /-- A text that is expanded when its turn comes. -/
  | text (descriptor : Nat) (text : Word)

/-- The descriptor that a redirection changes. -/
def Target.descriptor : Target → Nat
  | .file descriptor _ _ _ => descriptor
  | .copy descriptor _ => descriptor
  | .text descriptor _ => descriptor

/-- Expands the words of a redirection. What names a descriptor has to be its digit, or else the
script makes no sense from where it is read. -/
def Target.ofRedirection (means : Means) : Redirection → Work Target
  | .toFile descriptor mode regardless path => do
    return .file descriptor mode regardless (← expandText means path)
  | .toDescriptor descriptor source => return .copy descriptor (some source)
  | .toNamed descriptor source => do
    let name ← expandText means source
    if name = ['-'] then return .copy descriptor none
    match (Octets.toNat? name).filter fun _ => name.length = 1 with
    | some source => return .copy descriptor (some source)
    | none =>
      modify fun session => { session with line := session.reached }
      abandon "Syntax error: Bad fd number".toList
  | .fromText descriptor words => return .text descriptor words

/-- What a descriptor is to stand for. -/
inductive Standing where
  /-- What a descriptor stands for that is there for this only. -/
  | moved (source : Nat)
  /-- What another descriptor stands for. -/
  | shared (source : Nat)
  | nothing
deriving DecidableEq, Repr, Inhabited

/-- What a redirection makes of its descriptor; nothing if it leaves it as it is. -/
def Target.standing (means : Means) : Target → Work (Option Standing)
  | .file _ mode regardless path => do
    if (← get).protectsFiles ∧ ¬ regardless then
      if let .ok state ← Routine.inspect (Octets.toBytes path) then
        if state.kind = .regular then abandon (openFault mode path .alreadyThere)
    match ← Routine.openFile (Octets.toBytes path) mode with
    | .error errno => abandon (openFault mode path errno)
    | .ok opened => return some (.moved opened)
  | .copy _ none => return some .nothing
  | .copy descriptor (some source) =>
    return if source = descriptor then none else some (.shared source)
  | .text _ word => return some (.moved (← offerText means (← expandQuoted means word)))

/-- Lets a descriptor stand for something else. -/
def settleDescriptor (descriptor : Nat) : Standing → Work Unit
  | .moved source => moveDescriptor source descriptor
  | .shared source => do
    if let .error errno ← Routine.duplicate source descriptor then
      abandon (descriptorFault source errno)
  | .nothing => closeDescriptor descriptor

/-- Redirects a descriptor. -/
def redirect (means : Means) (target : Target) : Work Unit := do
  if let some standing ← target.standing means then settleDescriptor target.descriptor standing

/-- Redirects descriptors one after another and keeps what they stood for. The value holds what was
kept, latest first, and how this came to its end. -/
def redirectKept (means : Means) (kept : List Saved) :
    List Target → Work (List Saved × Except Breach Unit)
  | [] => return (kept, .ok ())
  | target :: rest => do
    let descriptor := target.descriptor
    let step ← outcome do
      let standing ← target.standing means
      let isKept := standing.isNone ∨ kept.any (·.descriptor = descriptor)
      let kept ← if isKept then pure kept
        else if standing = some (.moved descriptor) then pure (⟨descriptor, none⟩ :: kept)
        else pure ((← saveDescriptor descriptor) :: kept)
      return (standing, kept)
    match step with
    | .error breach => return (kept, .error breach)
    | .ok (standing, kept) =>
      match ← outcome (standing.forM (settleDescriptor descriptor)) with
      | .error breach => return (kept, .error breach)
      | .ok () => redirectKept means kept rest

/-- Does something while descriptors are redirected. If a redirection fails, something else is done,
with the descriptors as they were. What is done is told which descriptor stands for what standard
error was before. -/
def redirected (means : Means) (redirections : List Redirection)
    (failed : Work Flow) (action : Nat → Work Flow) : Work Flow := do
  if redirections.isEmpty then return ← action 2
  let targets ← redirections.mapM (Target.ofRedirection means)
  let (kept, result) ← redirectKept means [] targets
  match result with
  | .ok () =>
    let errors := (kept.reverse.find? (·.descriptor = 2)).bind (·.kept)
    ensuring (action (errors.getD 2)) (kept.forM restoreDescriptor)
  | .error breach =>
    kept.forM restoreDescriptor
    if breach = .failure then failed else throw breach

/-- Redirects descriptors for good, and does something. The descriptors are as they were only after
a breach, unless that is passed over. -/
def redirectedForGood (means : Means) (redirections : List Redirection)
    (failed : Work Flow) (action : Work Flow) : Work Flow := do
  let targets ← redirections.mapM (Target.ofRedirection means)
  let (kept, result) ← redirectKept means [] targets
  let flow ← outcome do
    match result with
    | .ok () => action
    | .error breach => if breach = .failure then failed else throw breach
  match flow with
  | .ok flow =>
    kept.forM dropDescriptor
    return flow
  | .error breach =>
    kept.forM restoreDescriptor
    throw breach

end ShellSmoke.Shell
