/-
This file holds texts in which what is shown is told apart from the sequences that make a terminal
show it in color, and in which it is marked where names begin and end.
-/

import ShellSmoke.Bytes

namespace ShellSmoke.Tools

/-- A part of a text. -/
inductive Ink where
  /-- What is shown. -/
  | plain (text : Bytes)
  /-- A sequence for the terminal. -/
  | control (sequence : Bytes)
  /-- The place where a name, or the title of a list of names, begins or ends. -/
  | edge (ofTitle : Bool)
deriving DecidableEq, Repr, Inhabited

/-- A text from its parts. -/
abbrev Inked := List Ink

namespace Inked

/-- A text that is only shown. -/
def ofBytes (text : Bytes) : Inked := [.plain text]

/-- A text between whose ends a name or a title stands. -/
def named (ofTitle : Bool) (text : Inked) : Inked := .edge ofTitle :: text ++ [.edge ofTitle]

/-- Whether there is a sequence for the terminal in a text. -/
def isColored (text : Inked) : Bool :=
  text.any fun
    | .control _ => true
    | _ => false

/-- The bytes of a text. The opening comes before its first sequence. -/
def bytes (opening : Bytes) : Inked → Bytes
  | [] => []
  | .plain text :: rest => text ++ bytes opening rest
  | .control sequence :: rest => opening ++ sequence ++ bytes [] rest
  | .edge _ :: rest => bytes opening rest

/-- After how many bytes that are shown the names of a text begin and end, or its titles, if so many
bytes come before it. -/
def edges (ofTitle : Bool) : (shown : Nat) → Inked → List Nat
  | _, [] => []
  | shown, .plain text :: rest => edges ofTitle (shown + text.length) rest
  | shown, .control _ :: rest => edges ofTitle shown rest
  | shown, .edge other :: rest =>
    if other = ofTitle then shown :: edges ofTitle shown rest else edges ofTitle shown rest

end Inked

end ShellSmoke.Tools
