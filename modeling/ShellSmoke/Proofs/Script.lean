/-
This file says how the text of a script is laid out: it is a row of blocks, one a case, in the order
of the cases and with nothing before, between or after them. A block is the line that prints the
label of the case and then the case as it is, each with a newline.
-/

import Mathlib.Data.List.Basic
import ShellSmoke.Script

namespace ShellSmoke.Script

/-- The part of a script that belongs to the case with a number. -/
def block (number : Nat) (case : Case) : String := labelLine number ++ "\n" ++ case.command ++ "\n"

theorem toList_labelLine (number : Nat) :
    (labelLine number).toList = "echo \"$> Test ".toList ++ Nat.toDigits 10 number ++ ['"'] := by
  simp [labelLine, label, String.toList_append]

theorem getLast?_labelLine (number : Nat) : (labelLine number).toList.getLast? = some '"' := by
  rw [toList_labelLine, List.getLast?_concat]

/-- The line that prints a label is one line. -/
theorem newline_notMem_labelLine (number : Nat) : '\n' ∉ (labelLine number).toList := by
  rw [toList_labelLine]
  intro newline
  rcases List.mem_append.mp newline with newline | newline
  · rcases List.mem_append.mp newline with newline | newline
    · exact absurd newline (by decide)
    · exact absurd (Nat.isDigit_of_mem_toDigits (by decide) (by decide) newline) (by decide)
  · exact absurd newline (by decide)

theorem toList_block (number : Nat) (case : Case) :
    (block number case).toList =
      (labelLine number).toList ++ '\n' :: (case.command.toList ++ ['\n']) := by
  simp [block, String.toList_append]

/-- The blocks of cases begin with the lines of the first case. -/
theorem flatMap_block_cons (number : Nat → Nat) (case : Case) (cases : List Case) :
    (((case :: cases).mapIdx fun place case => block (number place) case).flatMap String.toList) =
      (labelLine (number 0)).toList ++ '\n' :: (case.command.toList ++ '\n' ::
        (cases.mapIdx fun place case =>
          block (number (place + 1)) case).flatMap String.toList) := by
  rw [List.mapIdx_cons, List.flatMap_cons, toList_block, List.append_assoc, List.cons_append,
    List.append_assoc, List.singleton_append]

theorem block_eq (number : Nat) (case : Case) :
    block number case =
      "echo \"$> Test " ++ toString number ++ "\"" ++ "\n" ++ case.command ++ "\n" := by
  have opening : "echo \"" ++ "$> Test " = "echo \"$> Test " := rfl
  rw [block, labelLine, label, ← String.append_assoc, opening]

theorem flatMap_entriesOf (number : Nat) (case : Case) :
    (entriesOf number case).flatMap (fun entry => entry.toList ++ ['\n']) =
      (block number case).toList := by
  simp [entriesOf, block, String.toList_append]

/-- The blocks of cases that are numbered from some number on. -/
theorem flatMap_zipIdx (first : Nat) (cases : List Case) :
    (((cases.zipIdx first).map fun (case, number) => (number, case)).flatMap
        fun (number, case) => entriesOf number case).flatMap (fun entry => entry.toList ++ ['\n']) =
      (cases.mapIdx fun place case => block (first + place) case).flatMap String.toList := by
  induction cases generalizing first with
  | nil => rfl
  | cons case cases inductionHypothesis =>
    have later := inductionHypothesis (first + 1)
    simp only [Nat.add_assoc, Nat.add_comm 1] at later
    rw [List.zipIdx_cons, List.map_cons, List.flatMap_cons, List.flatMap_append, later,
      flatMap_entriesOf, List.mapIdx_cons, List.flatMap_cons, Nat.add_zero]

/-- The text of a script, block by block. -/
theorem render_compose (suite : Suite) :
    (compose suite).render =
      String.join (suite.cases.mapIdx fun place case => block (place + 1) case) := by
  apply String.ext
  rw [render, String.toList_ofList, String.toList_join]
  simp only [Nat.add_comm _ 1]
  exact flatMap_zipIdx 1 suite.cases

end ShellSmoke.Script
