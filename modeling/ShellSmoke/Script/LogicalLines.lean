/-
This file counts the logical lines of a text. A newline straight after a backslash continues a
line, so the pair of them is taken out before the lines are counted. A pair is looked for in the
text as it was: a backslash that meets a newline only because a pair between them went away does
not make a new pair.
-/

namespace ShellSmoke.Script

/-! ### Deletion of continuations -/

/-- A text without its pairs of a backslash and a newline, found from left to right. -/
def joinLines (text : List Char) : List Char :=
  go [] text
where
  go (kept : List Char) : List Char → List Char
    | [] => kept.reverse
    | '\\' :: '\n' :: rest => go kept rest
    | char :: rest => go (char :: kept) rest

/-! ### Counting -/

/-- The number of lines of a text: a newline ends a line, and what follows the last newline is a
line of its own if there is anything. -/
def countLines (text : List Char) : Nat :=
  let ended := text.count '\n'
  match text.getLast? with
  | none => 0
  | some last => if last = '\n' then ended else ended + 1

/-- The number of newlines in a text that do not come straight after a backslash; `continued` tells
whether a backslash comes before the text. -/
def freeNewlines (continued : Bool) : List Char → Nat
  | [] => 0
  | char :: rest =>
    (if char = '\n' ∧ ¬ continued then 1 else 0) + freeNewlines (char = '\\') rest

/-- The number of logical lines of a text. -/
def logicalLineCount (text : String) : Nat :=
  countLines (joinLines text.toList)

end ShellSmoke.Script
