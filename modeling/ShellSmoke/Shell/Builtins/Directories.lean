/-
This file holds the builtins that move from directory to directory. The shell keeps the path on
which it came to the working directory, in which `..` takes back the step before.
-/

import ShellSmoke.Shell.Builtin

namespace ShellSmoke.Shell

open Machine

/-! ### Paths as text -/

/-- The slashes in front of a path: two of them are kept, and more are as good as one. -/
def rootOf (path : Octets) : Octets :=
  let slashes := path.takeWhile (· = '/')
  if slashes.length = 2 then slashes else slashes.take 1

/-- The parts of a path between slashes. -/
def partsOf (path : Octets) : List Octets :=
  (Bytes.splitOn '/'.toUInt8 path.toBytes).map Octets.ofBytes

/-- The path that another leads to from a directory by its text alone. -/
def pathFrom (directory path : Octets) : Octets :=
  let absolute := path.head? = some '/'
  let root := if absolute then rootOf path
    else if directory.take 2 = ['/', '/'] then ['/', '/'] else ['/']
  let inside := if absolute then [] else partsOf (directory.drop root.length)
  let inside := if inside.getLast? = some [] then inside.dropLast else inside
  let parts := (partsOf path).foldl
    (fun parts part =>
      if part = [] ∨ part = ['.'] then parts
      else if part = ['.', '.'] then parts.dropLast
      else parts ++ [part])
    inside
  root ++ List.intercalate ['/'] parts

/-! ### Moving -/

/-- Takes note of a new working directory, by the path that led there or by its own. -/
def arrive (path : Option Octets) : Work Unit := do
  let before := (← get).place
  let place ← match path with
    | some path => pure path
    | none => pure (Octets.ofBytes (← Routine.directory))
  exportVariable "OLDPWD".toList before
  modify fun session => { session with
    place
    found := session.found.map fun found => { found with stale := true } }
  exportVariable "PWD".toList place

/-- Whether letters say that paths are those that the system knows; the last of them counts. -/
def Letters.arePhysical (letters : Letters) : Bool :=
  letters.letters.getLast?.map (·.1) = some 'P'

/-- Prints the working directory. -/
def pwdBuiltin : Builtin := fun _ arguments => do
  let letters ← readLetters "LP" "" arguments
  let path ← if letters.arePhysical then pure (Octets.ofBytes (← Routine.directory))
    else pure (← get).place
  printed (path ++ ['\n'])

/-- Changes the working directory; the value tells whether that worked. -/
def moveTo (physical : Bool) (path : Octets) : Work Bool := do
  let session ← get
  let goal := if physical then path else pathFrom session.place path
  match ← Routine.changeDirectory goal.toBytes with
  | .error _ => return false
  | .ok () =>
    arrive (if physical then none else some goal)
    return true

/-- Whether a path is not looked for in several directories. -/
def isFixedPath (path : Octets) : Bool :=
  match partsOf path with
  | first :: _ => first = ['.'] || first = ['.', '.'] || path.head? = some '/'
  | [] => false

/-- The paths that can be meant by a path, each with the part of a list of directories that leads
there. -/
def pathsMeant (path : Octets) : Work (List (Octets × Octets)) := do
  match (← get).valueOf? "CDPATH" with
  | none => return []
  | some directories =>
    if isFixedPath path then return []
    let path := if path.isEmpty then ['.'] else path
    return (Bytes.splitOn ':'.toUInt8 directories.toBytes).map fun directory =>
      let directory := Octets.ofBytes directory
      (directory, if directory.isEmpty then path else directory ++ '/' :: path)

/-- Whether a path leads to a directory. -/
def leadsToDirectory (path : Octets) : Work Bool := do
  match ← Routine.inspect path.toBytes with
  | .ok state => return state.kind = .directory
  | .error _ => return false

/-- Changes the working directory, and prints it if it was not named. -/
def cdBuiltin : Builtin := fun _ arguments => do
  let letters ← readLetters "LP" "" arguments
  let session ← get
  let goesBack := letters.operands.head? = some ['-']
  let path := match letters.operands with
    | [] => (session.valueOf? "HOME").getD []
    | path :: _ => if goesBack then (session.valueOf? "OLDPWD").getD [] else path
  let meant ← (← pathsMeant path).filterM fun (_, path) => leadsToDirectory path
  let (directory, goal) := meant.head?.getD ([], if path.isEmpty then ['.'] else path)
  if ← moveTo letters.arePhysical goal then
    if goesBack ∨ ¬ directory.isEmpty then printed ((← get).place ++ ['\n']) else done 0
  else abandon ("can't cd to ".toList ++ path)

end ShellSmoke.Shell
