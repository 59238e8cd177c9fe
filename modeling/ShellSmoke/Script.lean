/-
This file composes the script that a suite sends to the target. Each case is preceded by an `echo`
of its label, so that the output of the target can be read back test by test.
-/

import ShellSmoke.Suite

namespace ShellSmoke

/-- The entries of a script, in order: a label line and the text of its case, by turns. -/
structure Script where
  entries : List String
deriving DecidableEq, Repr, Inhabited

namespace Script

/-- The label of a test. -/
def label (number : Nat) : String := "$> Test " ++ toString number

/-- The line that makes a shell print the label of a test. -/
def labelLine (number : Nat) : String := "echo \"" ++ label number ++ "\""

/-- The two entries of a numbered case. -/
def entriesOf (number : Nat) (case : Case) : List String := [labelLine number, case.command]

/-- The script of a suite. -/
def compose (suite : Suite) : Script :=
  ⟨suite.numbered.flatMap fun (number, case) => entriesOf number case⟩

/-- The characters of a script: every entry, and a newline after each. -/
def renderChars (script : Script) : List Char :=
  script.entries.flatMap fun entry => entry.toList ++ ['\n']

/-- The text of a script: every entry, and a newline after each. -/
def render (script : Script) : String := String.ofList script.renderChars

end Script

end ShellSmoke
