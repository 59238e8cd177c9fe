/-
This file holds the builtins that run commands given as text, and those that leave the commands at
hand.
-/

import ShellSmoke.Shell.Builtin
import ShellSmoke.Shell.Scripts

namespace ShellSmoke.Shell

open Machine

/-! ### Paths -/

/-- The paths at which a file is looked for in directories. -/
def pathsIn (directories name : Octets) : List Octets :=
  (Bytes.splitOn ':'.toUInt8 (Octets.toBytes directories)).map fun directory =>
    if directory.isEmpty then name else Octets.ofBytes directory ++ '/' :: name

/-- The paths at which a file is looked for. -/
def searchPaths (name : Octets) : Work (List Octets) := do
  if name.contains '/' then return [name]
  return pathsIn (((← get).find? Session.searchName).bind (·.value) |>.getD []) name

/-! ### Commands as text -/

/-- Does something as somebody whom messages name. -/
def speaking (name : Octets) (action : Work Flow) : Work Flow := do
  let before := (← get).speaker
  modify fun session => { session with speaker := name ++ ": ".toList }
  ensuring action (modify fun session => { session with speaker := before })

/-- Runs the arguments as a command. -/
def evalBuiltin : Builtin := fun means arguments => do
  let text := List.intercalate [' '] arguments
  if text.all fun char => char = ' ' then done 0
  else runWhole means false text

/-- Runs the commands of a file in the shell itself. -/
def sourceBuiltin : Builtin := fun means arguments => do
  match (← readLetters "" "" arguments).operands with
  | [] => done 0
  | name :: _ =>
    let isFile (path : Octets) : Work Bool := do
      match ← Routine.inspect path.toBytes with
      | .ok state => return state.kind = .regular ∨ state.kind = .device
      | .error _ => return false
    let path ← if name.contains '/' then pure name else
      match ← (← searchPaths name).filterM isFile with
      | path :: _ => pure path
      | [] => abandon (name ++ ": not found".toList)
    match ← Routine.openFile (Octets.toBytes path) .reading with
    | .error errno => abandon (openFault .reading path errno)
    | .ok opened =>
      setStatus 0
      match ← withOpened opened fun kept => speaking path (runDescriptor means false kept) with
      | .leaveFunction => return .normal
      | flow => return flow

/-! ### Leaving -/

/-- Exits. Without an argument the status is that of the last command; among commands for a signal
it is that of the last command before them. -/
def exitBuiltin : Builtin := fun _ arguments => do
  let session ← get
  let status ← match arguments with
    | [] => pure (session.interrupted.getD session.status)
    | argument :: _ => readNumber argument
  leave (status % 256)

/-- Leaves a function. -/
def returnBuiltin : Builtin := fun _ arguments => do
  if let argument :: _ := arguments then setStatus (← readNumber argument)
  return .leaveFunction

/-- How many loops are meant, of those that are there. -/
def loopCount (arguments : List Octets) : Work Nat := do
  let count ← match arguments with
    | [] => pure 1
    | argument :: _ =>
      match ← readNumber argument with
      | 0 => abandon ("Illegal number: ".toList ++ argument)
      | count => pure count
  return min count (← get).loops

/-- Leaves loops. -/
def breakBuiltin : Builtin := fun _ arguments => do
  let count ← loopCount arguments
  setStatus 0
  return if count = 0 then .normal else .leaveLoops count

/-- Goes on with the next round of a loop. -/
def continueBuiltin : Builtin := fun _ arguments => do
  let count ← loopCount arguments
  setStatus 0
  return if count = 0 then .normal else .continueLoop count

end ShellSmoke.Shell
