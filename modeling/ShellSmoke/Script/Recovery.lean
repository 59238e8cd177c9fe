/-
This file reads the text of a script back: the text is cut at the line that prints the label of
test 1, after that at the first line that prints the label of test 2, and so on. What lies between
is the cases.
-/

import ShellSmoke.Script

namespace ShellSmoke.Script

/-! ### Lines -/

/-- The lines of a text, as many as it has newlines and one more. -/
def linesOf : List Char → List (List Char)
  | [] => [[]]
  | char :: rest =>
    match linesOf rest with
    | [] => [[char]]
    | line :: lines => if char = '\n' then [] :: line :: lines else (char :: line) :: lines

/-- The case that has these lines. -/
def caseOf (lines : List (List Char)) : Case := ⟨String.ofList (List.intercalate ['\n'] lines)⟩

/-! ### Cutting -/

/-- Cuts lines at labels. The lines of the case at hand come latest first; `number` is the test
after it. -/
def cutCases (number : Nat) (held : List (List Char)) : List (List Char) → List Case
  | [] => [caseOf held.reverse]
  | line :: rest =>
    if line = (labelLine number).toList then
      caseOf held.reverse :: cutCases (number + 1) [] rest
    else cutCases number (line :: held) rest

/-- The suite whose script a text is, if it begins like one: the first line prints the label of
test 1, and the last is ended. -/
def recover? (text : String) : Option Suite :=
  if text.isEmpty then some ⟨[]⟩
  else
    match linesOf text.toList with
    | [] => none
    | line :: rest =>
      if line = (labelLine 1).toList ∧ rest.getLast? = some [] then
        some ⟨cutCases 2 [] rest.dropLast⟩
      else none

/-- Whether no case of a suite holds a line that prints the label of the test after it. -/
def Separable (suite : Suite) : Prop :=
  ∀ numbered ∈ suite.numbered,
    (labelLine (numbered.1 + 1)).toList ∉ linesOf numbered.2.command.toList

end ShellSmoke.Script
