/-
This file evaluates the conditions of `test`: comparisons of texts and of numbers, questions about
files, and what joins them. The words are read as a tree, and the tree is evaluated from left to
right. What is wrong with the words has its place in the tree, so that it comes to light only after
all that stands before it was evaluated.
-/

import ShellSmoke.Machine.Program
import ShellSmoke.Shell.Arithmetic

namespace ShellSmoke.Shell

open Machine

/-- A condition. -/
inductive Condition where
  | constant (value : Bool)
  /-- Whether a word is not empty. -/
  | filled (word : Octets)
  /-- A question about one word. -/
  | question (operator word : Octets)
  /-- A comparison of two words. -/
  | comparison (left operator right : Octets)
  | negation (condition : Condition)
  | both (left right : Condition)
  | either (left right : Condition)
  /-- A condition that something is wrong behind. -/
  | spoiled (condition : Condition) (fault : Octets)
deriving Repr, Inhabited

namespace Condition

/-! ### Operators -/

/-- The questions about one word. -/
def questions : List String :=
  ["-n", "-z", "-e", "-f", "-d", "-s", "-r", "-w", "-x", "-c", "-p", "-t", "-L", "-h", "-b", "-S",
    "-g", "-u", "-k", "-O", "-G"]

/-- The comparisons of two words. -/
def comparisons : List String :=
  ["=", "!=", "<", ">", "-eq", "-ne", "-gt", "-ge", "-lt", "-le", "-nt", "-ot", "-ef"]

/-- Whether a word is a question about one word. -/
def isQuestion (word : Octets) : Bool := questions.contains (String.ofList word)

/-- Whether a word is a comparison of two words. -/
def isComparison (word : Octets) : Bool := comparisons.contains (String.ofList word)

/-- Whether the first of some words asks about the second: a second there must be, and a comparison
as the second makes the first a word to compare, if it has a third to compare it with. -/
def asks : List Octets → Bool
  | operator :: word :: rest => isQuestion operator && (rest.isEmpty || ! isComparison word)
  | _ => false

/-! ### Reading -/

/-- A reader of a condition in front of words. The value also holds the words from the last that
belongs to the condition; nothing if something is wrong. -/
abbrev Reading := List Octets → Condition × Option (List Octets)

/-- What is wrong about a word. -/
def wordFault (word : Octets) (what : String) : Octets :=
  if word.isEmpty then what.toList else word ++ (": " ++ what).toList

/-- A condition that is neither negated nor joined to others, given how a condition in parentheses
is read. -/
def readSimple (inner : Reading) : Reading
  | [] => (.constant false, some [])
  | word :: rest =>
    if word = ['('] ∧ ¬ rest.isEmpty then
      if rest.head? = some [')'] then (.constant false, some rest)
      else
        match inner rest with
        | (condition, none) => (condition, none)
        | (condition, some last) =>
          if last.tail.head? = some [')'] then (condition, some last.tail)
          else (.spoiled condition "closing paren expected".toList, none)
    else if asks (word :: rest) then (.question word (rest.headD []), some rest)
    else
      match rest with
      | operator :: more =>
        if isComparison operator then
          match more with
          | right :: _ => (.comparison word operator right, some more)
          | [] => (.spoiled (.constant false) (wordFault operator "argument expected"), none)
        else (.filled word, some (word :: rest))
      | [] => (.filled word, some [word])

/-- A condition that may be negated, any number of times. -/
def readNegated (inner : Reading) : Reading
  | [] => readSimple inner []
  | word :: rest =>
    if word = ['!'] then
      if rest.isEmpty then (.constant true, some [word])
      else
        let (condition, last) := readNegated inner rest
        (.negation condition, last)
    else readSimple inner (word :: rest)

/-- Conditions joined by an operator; the count bounds their number. -/
def readJoined (part : Reading) (operator : String) (join : Condition → Condition → Condition) :
    (count : Nat) → Reading
  | 0, words => part words
  | count + 1, words =>
    match part words with
    | (left, none) => (left, none)
    | (left, some last) =>
      if last.tail.head? = some operator.toList then
        let (right, last) := readJoined part operator join count last.tail.tail
        (join left right, last)
      else (left, some last)

/-- Conditions joined by `-o` and, more tightly, by `-a`. The count bounds how deeply they are
nested and how many there are. -/
def readWhole : (count : Nat) → Reading
  | 0, words => (.constant false, some words)
  | count + 1, words =>
    let conjunction := readJoined (readNegated (readWhole count)) "-a" .both count
    readJoined conjunction "-o" .either count words

/-- The condition that words hold, all of them. -/
def readAll (reading : Reading) (words : List Octets) : Condition :=
  match reading words with
  | (condition, some (word :: _ :: _)) =>
    .spoiled condition (wordFault word "unexpected operator")
  | (condition, _) => condition

/-- The condition that words hold. Three words with a comparison in the middle are one whatever
they are, and of three or four words parentheses around the others fall off, and a negation in front
applies to the others; a second negation in front of two words adds nothing to it. -/
def read (words : List Octets) : Condition :=
  let whole := readAll (readWhole (words.length + 1))
  match words with
  | [] => .constant false
  | [left, operator, right] =>
    if isComparison operator then .comparison left operator right
    else if left = ['('] ∧ right = [')'] then whole [operator]
    else if left = ['!'] then .negation (whole [operator, right])
    else whole words
  | [first, second, third, fourth] =>
    if first = ['('] ∧ fourth = [')'] then whole [second, third]
    else if first = ['!'] then
      if isComparison third then .negation (.comparison second third fourth)
      else if second = ['('] ∧ fourth = [')'] then .negation (whole [third])
      else if second = ['!'] then .negation (whole [third, fourth])
      else .negation (whole [second, third, fourth])
    else whole words
  | _ => whole words

/-! ### Answers -/

/-- The number that a word denotes, which may have blanks around it. -/
def number (word : Octets) : Except Octets Int :=
  let trimmed := Octets.trimmed word
  let value? := (Octets.toInt? trimmed).filter fun value =>
    -(Arithmetic.largest : Int) ≤ value + 1 ∧ value ≤ Arithmetic.largest
  match value? with
  | some value => .ok value
  | none => .error ("Illegal number: ".toList ++ word)

/-- What is at a path, which may be a link that is meant itself. -/
def stateOf (following : Bool) (path : Octets) : Routine (Option FileState) := do
  let found ← if following then Routine.inspect path.toBytes
    else Routine.inspectItself path.toBytes
  return found.toOption

/-- The answer to a question about a file that is there. Its owner may read and write every file,
and it is the owner that asks. -/
def answerAbout (operator : Octets) (state : FileState) : Bool :=
  let hasBit (bit : Nat) : Bool := decide (state.mode &&& bit ≠ 0)
  match operator with
  | ['-', 'f'] => state.kind = .regular
  | ['-', 'd'] => state.kind = .directory
  | ['-', 's'] => 0 < state.size
  | ['-', 'x'] => state.kind = .directory || state.isExecutable
  | ['-', 'c'] => state.kind = .device
  | ['-', 'p'] => state.kind = .pipe
  | ['-', 'L'] | ['-', 'h'] => state.kind = .link
  | ['-', 'u'] => hasBit 0o4000
  | ['-', 'g'] => hasBit 0o2000
  | ['-', 'k'] => hasBit 0o1000
  | ['-', 'e'] | ['-', 'r'] | ['-', 'w'] | ['-', 'O'] | ['-', 'G'] => true
  | _ => false

/-- The answer to a question about one word as a text or as a path. -/
def answer (operator word : Octets) : Routine Bool := do
  match operator with
  | ['-', 'n'] => return ! word.isEmpty
  | ['-', 'z'] => return word.isEmpty
  | _ =>
    let following := operator ≠ ['-', 'L'] ∧ operator ≠ ['-', 'h']
    return (← stateOf following word).any (answerAbout operator)

/-- The result of a comparison of two words. -/
def compare (left operator right : Octets) : Except Octets Bool :=
  match String.ofList operator with
  | "=" => .ok (left = right)
  | "!=" => .ok (left ≠ right)
  | "<" => .ok (left < right)
  | ">" => .ok (right < left)
  | "-eq" => return (← number left) = (← number right)
  | "-ne" => return (← number left) ≠ (← number right)
  | "-gt" => return (← number left) > (← number right)
  | "-ge" => return (← number left) ≥ (← number right)
  | "-lt" => return (← number left) < (← number right)
  | "-le" => return (← number left) ≤ (← number right)
  | _ => .ok false

/-- The result of a comparison of what is at two paths; it never holds if one leads nowhere. -/
def compareFiles (left : Octets) (relation : FileState → FileState → Bool) (right : Octets) :
    Routine Bool := do
  match ← stateOf true left, ← stateOf true right with
  | some left, some right => return relation left right
  | _, _ => return false

/-- Whether a condition holds, or what is wrong with it. Both parts of a condition are looked at,
whatever the first says. No descriptor is a terminal. -/
def holds : Condition → Routine (Except Octets Bool)
  | constant value => return .ok value
  | filled word => return .ok (! word.isEmpty)
  | question ['-', 't'] word => return (number word).map fun _ => false
  | question operator word => return .ok (← answer operator word)
  | comparison left ['-', 'e', 'f'] right =>
    return .ok (← compareFiles left (fun left right => left.identity = right.identity) right)
  | comparison left ['-', 'n', 't'] right =>
    return .ok (← compareFiles left (fun left right => right.modified < left.modified) right)
  | comparison left ['-', 'o', 't'] right =>
    return .ok (← compareFiles left (fun left right => left.modified < right.modified) right)
  | comparison left operator right => return compare left operator right
  | negation condition => return (← condition.holds).map (! ·)
  | both left right => do
    match ← left.holds with
    | .error fault => return .error fault
    | .ok value => return (← right.holds).map (value && ·)
  | either left right => do
    match ← left.holds with
    | .error fault => return .error fault
    | .ok value => return (← right.holds).map (value || ·)
  | spoiled condition fault => do
    match ← condition.holds with
    | .ok _ => return .error fault
    | .error earlier => return .error earlier

/-- Whether the condition that words hold does hold, or what is wrong with it. -/
def evaluate (words : List Octets) : Routine (Except Octets Bool) := (read words).holds

end Condition

end ShellSmoke.Shell
