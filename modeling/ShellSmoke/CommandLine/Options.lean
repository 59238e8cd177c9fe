/-
This file holds the options of the program: what a command line can set, and how each option is
spelled.
-/

import ShellSmoke.Bytes

namespace ShellSmoke

/-- The ceilings that a score can have. -/
inductive MaxScore where
  | fifteen
  | twenty
  | twentyFive
deriving DecidableEq, Repr, Inhabited

namespace MaxScore

/-- All ceilings, in ascending order. -/
def all : List MaxScore := [fifteen, twenty, twentyFive]

/-- The ceiling where none is chosen. -/
def standard : MaxScore := fifteen

/-- The points of a ceiling. -/
def points : MaxScore → Nat
  | fifteen => 15
  | twenty => 20
  | twentyFive => 25

/-- The text of a ceiling. -/
def text (score : MaxScore) : String := toString score.points

/-- The ceiling that a text names, which must be its two digits. -/
def ofText? (text : String) : Option MaxScore :=
  all.find? fun score => score.text = text

end MaxScore

namespace CommandLine

/-- What a command line asks of the program. -/
structure Options where
  /-- The executable to check. -/
  executable : Bytes
  /-- The file for the results, which has no effect on the verdict. -/
  results : Option Bytes
  /-- Whether to run without checks, which has no effect on the verdict. -/
  withoutChecks : Bool
  /-- The ceiling of the score, which has no effect on the verdict. -/
  max : MaxScore
  /-- Whether the script is printed instead of sent. -/
  dryRun : Bool
deriving DecidableEq, Repr, Inhabited

/-- The executable that is checked where none is given. -/
def defaultExecutable : Bytes := Bytes.ofString "./a.out"

/-- The options where a command line says nothing. -/
def Options.standard : Options := ⟨defaultExecutable, none, false, .standard, false⟩

/-- An option as it is spelled on a command line. -/
inductive Switch where
  | executable
  | results
  | withoutChecks
  | max
  | dryRun
  | help
  | version
deriving DecidableEq, Repr, Inhabited

namespace Switch

/-- All options in the order of the help. -/
def all : List Switch := [executable, results, withoutChecks, max, dryRun, help, version]

/-- The letter of an option. -/
def letter? : Switch → Option Char
  | executable => some 'e'
  | results => some 'r'
  | withoutChecks => some 't'
  | max => none
  | dryRun => none
  | help => some 'h'
  | version => some 'V'

/-- The long name of an option, without its dashes. -/
def name? : Switch → Option String
  | executable => none
  | results => none
  | withoutChecks => none
  | max => some "max"
  | dryRun => some "dry-run"
  | help => some "help"
  | version => some "version"

/-- The placeholder for the value of an option that takes one. -/
def placeholder? : Switch → Option String
  | executable => some "<PATH>"
  | results => some "<PATH>"
  | max => some "<MAX>"
  | withoutChecks => none
  | dryRun => none
  | help => none
  | version => none

/-- Whether an option takes a value. -/
def takesValue (switch : Switch) : Bool := switch.placeholder?.isSome

/-- The option of a letter. -/
def ofLetter? (letter : Char) : Option Switch :=
  all.find? fun switch => switch.letter? = some letter

/-- The option of a long name. -/
def ofName? (name : Bytes) : Option Switch :=
  all.find? fun switch => switch.name?.map Bytes.ofString = some name

/-- How an option is spelled where messages speak of it: by its long name if it has one. -/
def spelling (switch : Switch) : String :=
  match switch.name?, switch.letter? with
  | some name, _ => "--" ++ name
  | none, some letter => "-" ++ toString letter
  | none, none => ""

end Switch

end CommandLine

end ShellSmoke
