/-
This file holds the builtins that make aliases and take them away, and the order in which tables of
names are listed.
-/

import ShellSmoke.Shell.Builtin

namespace ShellSmoke.Shell

/-! ### Tables of names -/

/-- The number of a name in a table of so many rows: its characters are added, the first one with
another sixteenfold. -/
def rowOf (rows : Nat) (name : Octets) : Nat :=
  let first := (name.head?.map Char.toNat).getD 0
  ((name.foldl (fun sum char => sum + char.toNat) (first * 16)) % 32768) % rows

/-- Entries in the order of the rows of their names; within a row, older ones come first. -/
def byRow {α : Type} (rows : Nat) (name : α → Octets) (entries : List α) : List α :=
  entries.mergeSort fun left right => decide (rowOf rows (name left) ≤ rowOf rows (name right))

/-! ### Aliases -/

/-- How many rows the table of aliases has. -/
def aliasRows : Nat := 39

/-- An alias as a command that would make it. -/
def aliasLine (name text : Octets) : Octets := name ++ '=' :: quotedText text ++ ['\n']

/-- Gives an alias its text. -/
def Session.setAlias (session : Session) (name text : Octets) : Session :=
  { session with
    aliases :=
      if (session.aliases.lookup name).isSome then
        session.aliases.map fun (other, old) => (other, if other = name then text else old)
      else session.aliases ++ [(name, text)] }

/-- The name and the text of an argument that makes an alias. A sign in front belongs to the name.
-/
def aliasIn? : Octets → Option (Octets × Octets)
  | [] => none
  | first :: rest =>
    let name := rest.takeWhile (· ≠ '=')
    if name.length < rest.length then some (first :: name, rest.drop (name.length + 1)) else none

/-- Makes aliases, or prints them. -/
def aliasBuiltin : Builtin := fun _ arguments => do
  if arguments.isEmpty then
    printed ((byRow aliasRows (·.1) (← get).aliases).flatMap fun (name, text) =>
      aliasLine name text)
  else
    let made ← arguments.mapM fun argument => do
      match aliasIn? argument with
      | some (name, text) =>
        modify (·.setAlias name text)
        return true
      | none =>
        match (← get).aliases.lookup argument with
        | some text =>
          print (aliasLine argument text)
          return true
        | none =>
          let _ ← write 2 ("alias: ".toList ++ argument ++ " not found\n".toList)
          return false
    done (if made.all id then 0 else 1)

/-- Takes aliases away. -/
def unaliasBuiltin : Builtin := fun _ arguments => do
  let letters ← readLetters "a" "" arguments
  if letters.has 'a' then
    modify fun session => { session with aliases := [] }
    done 0
  else
    let taken ← letters.operands.mapM fun name => do
      if ((← get).aliases.lookup name).isSome then
        modify fun session => { session with
          aliases := session.aliases.filter fun (other, _) => other ≠ name }
        return true
      else
        let _ ← write 2 ("unalias: ".toList ++ name ++ " not found\n".toList)
        return false
    done (if taken.all id then 0 else 1)

end ShellSmoke.Shell
