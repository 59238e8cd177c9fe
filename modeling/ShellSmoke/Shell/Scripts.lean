/-
This file runs scripts: texts that are there as a whole, and those that a descriptor gives bit by
bit. A line is run as soon as it is complete, and what it changes counts for the reading of the
next.
-/

import ShellSmoke.Shell.Grammar
import ShellSmoke.Shell.Redirecting

namespace ShellSmoke.Shell

open Machine

/-! ### Reading -/

/-- Reads the next line of a script; the aliases count that there are now. -/
def readNextLine (cursor : Cursor) : Work (Except Stop (List Statement × Cursor)) := do
  let aliases := (← get).aliases
  let result := readLine { cursor with aliases, renewed := false, spared := none }
  match result with
  | .ok (_, cursor) => modify fun session => { session with reached := cursor.line }
  | .error (.failed line _ _) => modify fun session => { session with reached := line }
  | .error .unfinished => pure ()
  return result

/-- Gives up because a script makes no sense. -/
def abandonScript {α : Type} (line : Nat) (message : String) : Work α := do
  modify fun session => { session with line }
  abandon message.toList

/-! ### Texts -/

/-- Runs the lines of a text; `last` tells that nothing follows the text in the process. -/
def runText (means : Means) (last : Bool) : (count : Nat) → Cursor → Work Flow
  | 0, _ => return .normal
  | count + 1, cursor => do
    match ← readNextLine cursor with
    | .ok (statements, cursor) =>
      let ends := cursor.rest.isEmpty
      let flow ← if statements.isEmpty then pure .normal else means.run (last && ends) statements
      if flow ≠ .normal ∨ ends then return flow
      runText means last count cursor
    | .error (.failed line _ message) => abandonScript line message
    | .error .unfinished => return .normal

/-- Runs a text of its own, whose lines are numbered from 1. -/
def runWhole (means : Means) (last : Bool) (text : Octets) : Work Flow := do
  let reached := (← get).reached
  modify fun session => { session with reached := 1 }
  let count := text.length + (← get).lifetime + 1
  ensuring (runText means last count (.start text true))
    (modify fun session => { session with reached })

/-! ### Prompts -/

/-- What a variable says that something is to begin with. If that makes no sense, it is the value of
the variable as it stands. -/
def promptText (means : Means) (name : String) : Work Octets := do
  let text := ((← get).valueOf? name).getD []
  let result ← outcome do
    match readText (nestedAt nestingLimit) .document (.start text true) with
    | .ok (word, _) => expandQuoted means word
    | .error (.failed line _ message) => abandonScript line message
    | .error .unfinished => return text
  match result with
  | .ok value => return value
  | .error .failure => return text
  | .error breach => throw breach

/-- Asks for something, if the shell talks to a user. -/
def prompt (means : Means) (name : String) : Work Unit := do
  if (← get).options.contains 'i' then
    let _ ← write 2 (← promptText means name)

/-! ### Descriptors -/

/-- Where a script comes from. -/
structure Supply where
  descriptor : Nat
  /-- What was read of the descriptor and is not part of the script yet. -/
  pending : Octets
deriving DecidableEq, Repr, Inhabited

/-- How many bytes of a script are read at once. -/
def blockSize : Nat := 8192

/-- The first line of a text, with its newline, and what follows. -/
def splitLine (text : Octets) : Octets × Octets :=
  let line := text.takeWhile (· ≠ '\n')
  let rest := text.drop line.length
  (line ++ rest.take 1, rest.drop 1)

/-- What a descriptor gives next, without zero bytes; nothing only at its end. The count bounds how
often it gives nothing but zero bytes. -/
def readBlock (descriptor : Nat) : (count : Nat) → Work Octets
  | 0 => return []
  | count + 1 => do
    match ← Routine.read descriptor blockSize with
    | .error _ | .ok [] => return []
    | .ok bytes =>
      let text := (Octets.ofBytes bytes).filter (· ≠ '\x00')
      if text.isEmpty then readBlock descriptor count else return text

/-- More of the script, unless it is at its end. Where lines are shown as they are read, this is one
line. -/
def Supply.more (supply : Supply) : Work (Option (Octets × Supply)) := do
  let pending ← if ¬ supply.pending.isEmpty then pure supply.pending
    else readBlock supply.descriptor (← get).lifetime
  if pending.isEmpty then return none
  if (← get).showsLines then
    let (line, pending) := splitLine pending
    let _ ← write 2 line
    return some (line, { supply with pending })
  else return some (pending, { supply with pending := [] })

/-- Takes back what is not read yet, where lines are shown as they are read. -/
def holdBack (cursor : Cursor) (supply : Supply) : Work (Cursor × Supply) := do
  if (← get).showsLines ∧ cursor.active.isEmpty then
    return ({ cursor with rest := [], final := false },
      { supply with pending := cursor.rest ++ supply.pending })
  else return (cursor, supply)

/-- How often the end of what a user types is passed over if the shell is to ignore it. -/
def ignoredEnds : Nat := 50

/-- What is said at the end of the script that a user is asked for: a newline for a user who is
there, or the advice how to leave, as often as the end is ignored. -/
def meetEnd (means : Means) : Work Unit := do
  if (← get).options.contains 'I' then
    (List.range ignoredEnds).forM fun _ => do
      let _ ← write 2 "\nUse \"exit\" to leave shell.\n".toList
      prompt means "PS1"
  else if (← get).options.contains 'i' then
    let _ ← write 2 ['\n']

/-- Asks for the lines of a command after the first one. Where lines are shown as they are read,
that was done line by line. -/
def promptLines (means : Means) (asking : Bool) (lines : Nat) : Work Unit := do
  if asking ∧ ¬ (← get).showsLines then (List.range lines).forM fun _ => prompt means "PS2"

/-- Runs the script that a descriptor gives, up to a line that leaves something. The script can be
what a user is asked for, and there is a prompt for each line of it then, unless that was shown. -/
def runSupplied (means : Means) (asking : Bool) :
    (count : Nat) → (asked : Bool) → Cursor → Supply → Work Flow
  | 0, _, _, _ => return .normal
  | count + 1, asked, cursor, supply => do
    if asking ∧ ¬ asked then prompt means "PS1"
    if cursor.final ∧ cursor.rest.isEmpty then
      if asking then meetEnd means
      return .normal
    match ← readNextLine cursor with
    | .ok (statements, next) =>
      promptLines means asking (next.line - cursor.line - if next.fresh then 1 else 0)
      let flow ← if statements.isEmpty then pure .normal else means.run false statements
      if flow ≠ .normal then return flow
      let atEnd := statements.isEmpty && next.final && next.rest.isEmpty && ! next.fresh
      let (next, supply) ← holdBack next supply
      runSupplied means asking count atEnd next supply
    | .error (.failed line atNewline message) =>
      promptLines means asking (line - cursor.line - if atNewline then 1 else 0)
      abandonScript line message
    | .error .unfinished =>
      if asking ∧ (← get).showsLines ∧ ¬ cursor.rest.isEmpty then prompt means "PS2"
      match ← supply.more with
      | some (text, supply) =>
        runSupplied means asking count true { cursor with rest := cursor.rest ++ text } supply
      | none => runSupplied means asking count true { cursor with final := true } supply

/-- Runs the script that a descriptor gives, whose lines are numbered from 1. -/
def runDescriptor (means : Means) (asking : Bool) (descriptor : Nat) : Work Flow := do
  let before ← get
  modify fun session => { session with reached := 1 }
  ensuring (runSupplied means asking before.lifetime false (.start [] false) ⟨descriptor, []⟩)
    (modify fun session => { session with reached := before.reached })

/-- Does something with a file that was opened; a high descriptor stands for it meanwhile. -/
def withOpened (opened : Nat) (action : Nat → Work Flow) : Work Flow := do
  match (← saveDescriptor opened).kept with
  | some kept => ensuring (action kept) (closeDescriptor kept)
  | none => return .normal

end ShellSmoke.Shell
