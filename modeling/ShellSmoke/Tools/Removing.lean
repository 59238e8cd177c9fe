/-
This file holds the tool that removes files.
-/

import ShellSmoke.Tools.Basic

namespace ShellSmoke.Tools

open Machine

/-- How files are removed. -/
structure RemoveSetting where
  /-- Whether files can be missing. -/
  quiet : Bool
  /-- Whether the names of files that were removed are shown. -/
  telling : Bool
deriving DecidableEq, Repr, Inhabited

/-- Removes files; the value tells whether all went well. -/
def removeFiles (launch : Launch) (setting : RemoveSetting) : List Bytes → Bool → Routine Bool
  | [], well => pure well
  | word :: rest, well => do
    match ← Routine.remove word with
    | .ok () =>
      if setting.telling then
        let _ ← Routine.writeAll 1 launch.lifetime
          (Bytes.ofString "removed " ++ quoted word ++ [10])
      removeFiles launch setting rest well
    | .error errno =>
      if setting.quiet ∧ errno = .noEntry then removeFiles launch setting rest well
      else do
        complain launch (Bytes.ofString "cannot remove " ++ quoted word ++
          Bytes.ofString (": " ++ errno.text))
        removeFiles launch setting rest false

/-- The options of the tool; directories are never removed, and nobody is asked. -/
def removeOptions : OptionReader RemoveSetting where
  table := {
    letters := plainLetters "dfirRIv"
    names := [⟨"force", .alone, "f"⟩, ⟨"recursive", .alone, "r"⟩, ⟨"dir", .alone, "d"⟩,
      ⟨"interactive", .open, "I"⟩, ⟨"verbose", .alone, "v"⟩] ++ commonNames }
  initial := ⟨false, false⟩
  apply := fun setting key _ => .ok {
    quiet := setting.quiet || key = "f"
    telling := setting.telling || key = "v" }

/-- Removes the files named. -/
def remove : Tool :=
  toolWithOptions "rm" 1 removeOptions fun launch setting operands => do
    if operands.isEmpty ∧ ¬ setting.quiet then
      misuse launch (Bytes.ofString "missing operand")
      return 1
    let well ← removeFiles launch setting operands true
    return if well then 0 else 1

end ShellSmoke.Tools
