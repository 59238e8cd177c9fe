/-
This file holds the builtins about what a process and its files may do: the permissions of new
files, the limits of resources, and the time that was used.
-/

import ShellSmoke.Shell.Builtin

namespace ShellSmoke.Shell

open Machine

/-! ### Permissions -/

/-- All permissions, for owner, group and others. -/
def allPermissions : Nat := 0o777

/-- The permissions of one of the three, as letters. -/
def permissionLetters (mode : Nat) : Octets :=
  [('r', 4), ('w', 2), ('x', 1)].filterMap fun (letter, bit) =>
    if mode &&& bit ≠ 0 then some letter else none

/-- The permissions that a mask leaves, as letters. -/
def maskLetters (mask : Nat) : Octets :=
  let mode := allPermissions - mask
  let part (who : Char) (places : Nat) : Octets :=
    who :: '=' :: permissionLetters ((mode >>> places) &&& 7)
  List.intercalate [','] [part 'u' 6, part 'g' 3, part 'o' 0]

/-- A number in octal digits, with zeros in front up to a width. -/
def octalText (width number : Nat) : Octets :=
  let digits := Nat.toDigits 8 number
  List.replicate (width - digits.length) '0' ++ digits

/-- The number that octal digits denote. -/
def octal? (text : Octets) : Option Nat :=
  if text.all fun char => '0' ≤ char ∧ char ≤ '7' then
    some (text.foldl (fun number digit => number * 8 + (digit.toNat - 48)) 0)
  else none

/-- Whom a letter means, as a bit for each of the three. -/
def whoBits? : Char → Option Nat
  | 'a' => some 0o111
  | 'u' => some 0o100
  | 'g' => some 0o010
  | 'o' => some 0o001
  | _ => none

/-- Which permissions a letter means; some letters stand for those that there were before. -/
def permissionBits? (before : Nat) : Char → Option Nat
  | 'r' => some 4
  | 'w' => some 2
  | 'x' => some 1
  | 'u' => some (before >>> 6)
  | 'g' => some (before >>> 3)
  | 'o' => some before
  | 'X' => some (if before &&& 0o111 ≠ 0 then 1 else 0)
  | 's' => some 0
  | _ => none

/-- The bits of letters in front of a text, and what follows. -/
def leadingBits (bits? : Char → Option Nat) (text : Octets) : Nat × Octets :=
  let letters := text.takeWhile fun char => (bits? char).isSome
  ((letters.filterMap bits?).foldl (· ||| ·) 0, text.drop letters.length)

/-- Changes permissions as a text says: whom it means, then operators with permissions, and so on
after commas; nothing if the text says something else. The length bounds the number of operators. -/
def changedMode? (before : Nat) : (count : Nat) → (who mode : Nat) → Octets → Option Nat
  | 0, _, _, _ => none
  | _ + 1, _, mode, [] => some mode
  | count + 1, who, mode, text =>
    let (named, rest) := leadingBits whoBits? text
    let who := if who ||| named = 0 then 0o111 else who ||| named
    match rest with
    | operator :: rest =>
      let (bits, rest) := leadingBits (permissionBits? before) rest
      let bits := (bits &&& 7) * who
      let changed? : Option Nat := match operator with
        | '+' => some (mode ||| bits)
        | '-' => some (mode - (mode &&& bits))
        | '=' => some ((mode - (mode &&& (who * 7))) ||| bits)
        | _ => none
      changed?.bind fun mode =>
        match rest with
        | [] => some mode
        | ',' :: rest => changedMode? before count 0 mode rest
        | next :: _ =>
          if ['+', '-', '='].contains next then changedMode? before count who mode rest else none
    | [] => some mode

/-- Prints the permissions that new files do not get, or changes them. -/
def umaskBuiltin : Builtin := fun _ arguments => do
  let letters ← readLetters "S" "" arguments
  let mask ← Routine.mask
  match letters.operands.head? with
  | none =>
    printed ((if letters.has 'S' then maskLetters mask else octalText 4 mask) ++ ['\n'])
  | some word =>
    if word.head?.any Char.isDigit then
      match octal? word with
      | some number =>
        let _ ← Routine.changeMask (number % 512)
        done 0
      | none => abandon ("Illegal number: ".toList ++ word)
    else
      let mode := allPermissions - mask
      match changedMode? mode (word.length + 1) 0 mode word with
      | some mode =>
        let _ ← Routine.changeMask (allPermissions - mode % 512)
        done 0
      | none => abandon ("Illegal mode: ".toList ++ word)

/-! ### Limits -/

/-- A resource as the shell names it, with its letter and its unit. -/
structure NamedResource where
  letter : Char
  name : String
  resource : Resource
  unit : Nat
deriving DecidableEq, Repr, Inhabited

/-- All resources, in the order in which they are listed. -/
def namedResources : List NamedResource :=
  [⟨'t', "time(seconds)", .time, 1⟩, ⟨'f', "file(blocks)", .fileSize, 512⟩,
    ⟨'d', "data(kbytes)", .dataSize, 1024⟩, ⟨'s', "stack(kbytes)", .stackSize, 1024⟩,
    ⟨'c', "coredump(blocks)", .dumpSize, 512⟩, ⟨'m', "memory(kbytes)", .memory, 1024⟩,
    ⟨'l', "locked memory(kbytes)", .lockedMemory, 1024⟩, ⟨'p', "process", .processes, 1⟩,
    ⟨'n', "nofiles", .descriptors, 1⟩, ⟨'v', "vmemory(kbytes)", .addressSpace, 1024⟩,
    ⟨'w', "locks", .locks, 1⟩, ⟨'r', "rtprio", .priority, 1⟩]

/-- The text of a limit, the largest that can be given or the current one. -/
def limitText (most : Bool) (named : NamedResource) (limit : Limit) : Octets :=
  match if most then limit.most else limit.current with
  | some value => .ofNat (value / named.unit) ++ ['\n']
  | none => "unlimited\n".toList

/-- The value that a word denotes, in units; nothing stands for no limit. Numbers wrap around. -/
def limitValue? (unit : Nat) (word : Octets) : Option (Option Nat) :=
  let bound := 18446744073709551616
  if word = "unlimited".toList then some none
  else if ¬ word.all Char.isDigit then none
  else
    let value := word.foldl (fun number digit => number * 10 + (digit.toNat - 48)) 0
    let size := value * unit % bound
    some (if size = bound - 1 then none else some size)

/-- Prints limits, or changes one. -/
def ulimitBuiltin : Builtin := fun _ arguments => do
  let known := "HSa" ++ String.ofList (namedResources.map (·.letter))
  let letters ← readLetters known "" arguments
  let chosen := (letters.letters.map (·.1)).filter fun letter => ! ['H', 'S', 'a'].contains letter
  let named := (namedResources.find? fun named => some named.letter = chosen.getLast?).getD
    ⟨'f', "", .fileSize, 512⟩
  let side := ((letters.letters.map (·.1)).filter ['H', 'S'].contains).getLast?
  let all := letters.has 'a'
  match letters.operands with
  | [] =>
    if all then
      namedResources.forM fun named => do
        let text := named.name ++ "".pushn ' ' (20 - named.name.length) ++ " "
        let limit ← Routine.limit named.resource
        print (text.toList ++ limitText (side = some 'H') named limit)
      done 0
    else printed (limitText (side = some 'H') named (← Routine.limit named.resource))
  | word :: more =>
    if all ∨ ¬ more.isEmpty then abandon "too many arguments".toList
    match limitValue? named.unit word with
    | none => abandon "bad number".toList
    | some value =>
      let limit ← Routine.limit named.resource
      let changed : Limit := {
        current := if side = some 'H' then limit.current else value
        most := if side = some 'S' then limit.most else value }
      match ← Routine.changeLimit named.resource changed with
      | .ok () => done 0
      | .error errno =>
        abandon ("error setting limit (".toList ++ errno.text.toList ++ [')'])

/-! ### Time -/

/-- Prints the time that the shell and its children used. -/
def timesBuiltin : Builtin := fun _ _ =>
  printed "0m0.000000s 0m0.000000s\n0m0.000000s 0m0.000000s\n".toList

end ShellSmoke.Shell
