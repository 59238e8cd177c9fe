/-
This file holds test cases and suites of them, with the built-in smoke suite.
-/

namespace ShellSmoke

/-- A shell command, or a short sequence of them, that is sent to the target as it stands. It may
run over several lines. -/
structure Case where
  command : String
deriving DecidableEq, Repr, Inhabited

/-- An ordered list of cases. -/
structure Suite where
  cases : List Case
deriving DecidableEq, Repr, Inhabited

namespace Suite

/-- The number of cases. -/
def size (suite : Suite) : Nat := suite.cases.length

/-- Whether a suite has no case. -/
def isEmpty (suite : Suite) : Bool := suite.cases.isEmpty

/-- The cases with their numbers, which count from 1. -/
def numbered (suite : Suite) : List (Nat × Case) :=
  suite.cases.zipIdx 1 |>.map fun (case, number) => (number, case)

/-- The built-in suite: a plain `echo`, a `printf` over several lines whose output makes a file, a
pipe into the `exit` of the shell, a look at a file which the program just written would make, and
a last `echo`. -/
def smoke : Suite :=
  ⟨[⟨"echo 1"⟩,
    ⟨"printf \"import time\\n\\\n" ++
      "time.sleep(0.1)\\n\\\n" ++
      "f = open('test.txt', 'w')\\n\\\n" ++
      "f.write('Text\\\\\\n')\\n\\\n" ++
      "f.close()\\n\" > test.py"⟩,
    ⟨"python test.py | exit 0"⟩,
    ⟨"cat test.txt"⟩,
    ⟨"echo next thing"⟩]⟩

end Suite

end ShellSmoke
