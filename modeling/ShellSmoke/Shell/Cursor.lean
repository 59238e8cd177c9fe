/-
This file holds the means by which the shell reads its script: a cursor into the text that has
arrived so far. A reader that comes to the end of the text says whether more of it is needed, so the
shell can read on and try again. The text of an alias is put into the script where its name stood; a
mark after it, which is no byte, tells where it ends. Documents in the script follow the line that
asks for them: a line is read once to find them, and then again with what they hold.
-/

import ShellSmoke.Shell.Command

namespace ShellSmoke.Shell

/-- How a document ends, and how its lines are read. -/
structure DocumentStyle where
  /-- The line that ends the document. -/
  ending : Octets
  /-- Whether tabs in front of lines are left out. -/
  untab : Bool
  /-- Whether the document is taken as it is. -/
  literal : Bool
deriving DecidableEq, Repr, Inhabited

/-- A place in a script. -/
structure Cursor where
  /-- What follows the place. -/
  rest : Octets
  /-- The number of the line. -/
  line : Nat
  /-- Whether the script ends where the text does. -/
  final : Bool
  /-- The aliases, with their texts. -/
  aliases : List (Octets × Octets) := []
  /-- The aliases in whose texts the place is, innermost first. -/
  active : List Octets := []
  /-- Whether the next word can be an alias because a text with a blank at its end was left. -/
  renewed : Bool := false
  /-- Whether the place is at the beginning of a line. -/
  fresh : Bool := true
  /-- Whether tabs in front of the place were left out, so that a pair of a backslash and a newline
  there stands for itself. -/
  settled : Bool := false
  /-- How much follows a place at which no word is reserved. -/
  spared : Option Nat := none
  /-- The document in which the place is. -/
  inside : Option DocumentStyle := none
  /-- How many documents were asked for. -/
  asked : Nat := 0
  /-- The documents that follow this line, by their numbers, latest first. -/
  pending : List (Nat × DocumentStyle) := []
  /-- The documents that were read. -/
  documents : List (Nat × Word) := []
  /-- The documents that were read when the line was read before. -/
  known : List (Nat × Word) := []
deriving Inhabited

/-- Why a reader stopped. -/
inductive Stop where
  /-- The text ends in the middle of a command, and the script may go on. -/
  | unfinished
  /-- The script makes no sense on a line, or already at the newline before it. -/
  | failed (line : Nat) (atNewline : Bool) (message : String)
deriving DecidableEq, Repr, Inhabited

/-- A reader of a part of a script. -/
abbrev Reader := StateT Cursor (Except Stop)

/-! ### Marks -/

/-- The mark after the text of an alias; the other one tells of a blank at the end of the text. -/
def aliasEnd (blank : Bool) : Char := Char.ofNat (if blank then 257 else 256)

/-- Whether a character is such a mark. -/
def isAliasEnd (char : Char) : Bool := 256 ≤ char.toNat

namespace Cursor

/-- Goes past the marks at the place: the texts of aliases are left. -/
def passMarks (cursor : Cursor) : Cursor :=
  match cursor.rest with
  | char :: _ =>
    if isAliasEnd char then
      let marks := cursor.rest.takeWhile isAliasEnd
      { cursor with
        rest := cursor.rest.drop marks.length
        active := cursor.active.drop marks.length
        renewed := cursor.renewed || marks.contains (aliasEnd true) }
    else cursor
  | [] => cursor

/-- The beginning of a script, of which a text has arrived. -/
def start (text : Octets) (final : Bool) : Cursor := { rest := text, line := 1, final }

/-- The characters up to the end of the line, without marks. -/
def lineText (cursor : Cursor) : Octets :=
  (cursor.rest.takeWhile (· ≠ '\n')).filter fun char => ! isAliasEnd char

/-- Whether the place is at the line that ends the document in which it is. -/
def atEnding (cursor : Cursor) : Bool :=
  cursor.fresh && cursor.inside.any fun style =>
    (if style.untab then cursor.lineText.dropWhile (· = '\t') else cursor.lineText) = style.ending

/-- Goes past a character that is next. -/
def pass (cursor : Cursor) (char : Char) (rest : Octets) : Cursor :=
  let ends := char = '\n'
  let line := if ends then cursor.line + 1 else cursor.line
  { cursor with rest, line, fresh := ends, settled := false }

/-- Puts the text of an alias in the place of its name, which is next. -/
def splice (cursor : Cursor) (name : Octets) (text : Octets) : Cursor :=
  let rest := cursor.rest.drop name.length
  if text.isEmpty then { cursor with rest }
  else
    let blank := text.getLast?.any fun char => char = ' ' ∨ char = '\t'
    { cursor with
      rest := text ++ aliasEnd blank :: rest
      active := name :: cursor.active }

end Cursor

/-! ### Readers -/

namespace Reader

/-- Gives the script up. The line that ends a document counts before that is found out. -/
def fail {α : Type} (message : String) : Reader α := do
  let cursor ← get
  throw (.failed (if cursor.atEnding then cursor.line + 1 else cursor.line) false message)

/-- A number of steps that no reader takes. -/
def stepLimit : Nat := 1099511627776

/-- Takes steps from state to state until there is a value. -/
def iterate {σ α : Type} (step : σ → Reader (σ ⊕ α)) (state : σ) : Reader α :=
  go stepLimit state
where
  go : Nat → σ → Cursor → Except Stop (α × Cursor)
    | 0, _, cursor => .error (.failed cursor.line false "Syntax error: text too long")
    | count + 1, state, cursor =>
      match step state cursor with
      | .error stop => .error stop
      | .ok (.inl state, cursor) => go count state cursor
      | .ok (.inr value, cursor) => .ok (value, cursor)

/-- Goes past the marks at the place. -/
def passMarks : Reader Unit := modify Cursor.passMarks

/-- The next character as it stands; nothing at the end of the script. -/
def peekRaw : Reader (Option Char) := do
  passMarks
  let cursor ← get
  match cursor.rest with
  | char :: _ => return some char
  | [] => if cursor.final then return none else throw .unfinished

/-- Goes past the next character. -/
def advance : Reader Unit :=
  modify fun cursor =>
    let cursor := cursor.passMarks
    match cursor.rest with
    | [] => cursor
    | char :: rest => cursor.pass char rest

/-- Goes past the next character, and leaves the number of the line as it is. -/
def drop : Reader Unit :=
  modify fun cursor =>
    let cursor := cursor.passMarks
    { cursor with rest := cursor.rest.tail, fresh := false, settled := false }

/-- Goes past the tabs in front of a line of a document, where they are left out. The line has to be
there as a whole. -/
def beginLine : Reader Unit := do
  let cursor ← get
  if let some style := cursor.inside then
    if cursor.fresh then
      if ¬ cursor.final ∧ ¬ cursor.rest.contains '\n' then throw .unfinished
      if style.untab ∧ cursor.rest.head? = some '\t' then
        set { cursor with
          rest := cursor.rest.dropWhile fun char => char = '\t'
          settled := true }

/-- The next character as it stands; nothing at the end of the script or of the document at hand. -/
def peekPlain : Reader (Option Char) := do
  passMarks
  beginLine
  if (← get).atEnding then return none else peekRaw

/-- The next character after all pairs of a backslash and a newline, which are taken out; nothing at
the end of the script or of the document at hand. -/
def peek : Reader (Option Char) :=
  iterate (fun () => do
    passMarks
    beginLine
    let cursor ← get
    if cursor.atEnding then return .inr none
    match cursor.rest with
    | '\\' :: rest =>
      let beyond := { cursor with rest }.passMarks
      match beyond.rest with
      | '\n' :: rest =>
        if cursor.settled then return .inr (some '\\')
        set { beyond with rest, line := cursor.line + 1 }
        return .inl ()
      | [] => if cursor.final then return .inr (some '\\') else throw .unfinished
      | _ => return .inr (some '\\')
    | _ => return .inr (← peekRaw)) ()

/-- Runs a reader and goes back to the place where it began. -/
def ahead {α : Type} (reader : Reader α) : Reader α := do
  let cursor ← get
  let value ← reader
  set cursor
  return value

/-- Goes past characters if they are the next. -/
def accept (text : String) : Reader Bool := do
  let cursor ← get
  if ← matchAll text.toList then return true
  else
    set cursor
    return false
where
  matchAll : Octets → Reader Bool
    | [] => pure true
    | char :: rest => do
      if (← peek) = some char then
        advance
        matchAll rest
      else return false

/-- Whether characters are the next. -/
def lookingAt (text : String) : Reader Bool := ahead (accept text)

/-- Goes past the characters of a class, and gives them. -/
def takeWhile (inClass : Char → Bool) : Reader Octets :=
  iterate (fun taken => do
    match ← peek with
    | some char =>
      if inClass char then
        advance
        return .inl (char :: taken)
      else return .inr taken.reverse
    | none => return .inr taken.reverse) []

/-- Runs a reader outside of the documents at hand, and goes on with them afterwards. -/
def outside {α : Type} (reader : Reader α) : Reader α := do
  let before ← get
  set { before with inside := none, pending := [] }
  let value ← reader
  modify fun cursor => { cursor with inside := before.inside, pending := before.pending }
  return value

/-- Runs a reader, and once more with the documents that it came across if there were any. These
are its own: the documents that were met before stay as they are. -/
def resolved {α : Type} (reader : Reader α) : Reader α := fun cursor => do
  let start := { cursor with asked := 0, pending := [], documents := [], known := [] }
  let first ← reader start
  let (value, after) ← if first.2.documents.isEmpty then pure first
    else reader { start with known := first.2.documents }
  return (value, { after with
    asked := cursor.asked
    pending := cursor.pending
    documents := cursor.documents
    known := cursor.known })

/-- Runs a reader on a text of its own, whose first line has a number. -/
def within {α : Type} (text : Octets) (line : Nat) (reader : Reader α) : Reader α := do
  let cursor ← get
  let start := { cursor with
    rest := text
    line
    final := true
    fresh := true
    spared := none
    inside := none }
  match resolved reader start with
  | .ok (value, _) => return value
  | .error stop => throw stop

end Reader

end ShellSmoke.Shell
