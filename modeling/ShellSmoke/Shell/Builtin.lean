/-
This file holds what the builtins of the shell have in common: how they end, how they read the
letters in front of their arguments, and how they read numbers.
-/

import ShellSmoke.Shell.Expansion

namespace ShellSmoke.Shell

open Machine

/-- A command that the shell carries out itself, on its arguments. -/
abbrev Builtin := Means → List Octets → Work Flow

/-! ### Ends -/

/-- Ends a builtin with a status. -/
def done (status : Nat) : Work Flow := do
  setStatus status
  return .normal

/-- Ends a builtin with a message and a status. -/
def refuse (message : Octets) (status : Nat) : Work Flow := do
  report message
  done status

/-- Prints a text; that it could not be written is kept. -/
def print (text : Octets) : Work Unit := do
  if let .error _ ← write 1 text then
    modify fun session => { session with unwritten := true }

/-- Ends a builtin with a text that it prints. -/
def printed (text : Octets) : Work Flow := do
  print text
  done 0

/-- Does what a builtin does, which fails if a text of it could not be written. -/
def delivering (action : Work Flow) : Work Flow := do
  modify fun session => { session with unwritten := false }
  let flow ← action
  if (← get).unwritten then
    report ((← get).speaker ++ "I/O error".toList)
    modify fun session => { session with unwritten := false, status := session.status ||| 1 }
  return flow

/-! ### Options -/

/-- Does what follows from options that were turned on or off. There is no terminal, so jobs cannot
be controlled; a shell that talks to a user does not let itself be stopped. -/
def settleOptions (before : Options) : Work Unit := do
  let session ← get
  if session.options.contains 'm' then
    report "can't access tty; job control turned off".toList
    modify fun session => { session with options := session.options.turn 'm' false }
  let interactive := session.options.contains 'i'
  if interactive ≠ before.contains 'i' then
    for (number, disposition) in [(2, Disposition.caught), (3, .ignored), (15, .ignored)] do
      let signal : Signal := ⟨number⟩
      if (session.traps.lookup signal).isNone then
        Routine.arrange signal (if interactive then disposition else .standard)

/-! ### Frames -/

/-- Gives back something that a command took for itself. -/
def giveBack : Kept → Work Unit
  | .binding name before => do
    unless Octets.isName name do abandon (name ++ ": bad variable name".toList)
    modify (·.restore name before)
  | .options options => do
    let before := (← get).options
    modify fun session => { session with options }
    settleOptions before

/-- Gives back what commands took for themselves, up to so many commands that go on. -/
def giveBackTo (depth : Nat) : Work Unit := do
  let session ← get
  let ended := session.frames.length - depth
  set { session with frames := session.frames.drop ended }
  (session.frames.take ended).flatten.forM giveBack

/-- Does what a command does that can take something for itself. -/
def framed (action : Work Flow) : Work Flow := do
  let depth := (← get).frames.length
  modify fun session => { session with frames := [] :: session.frames }
  let flow ← action
  giveBackTo depth
  return flow

/-- Does something that can be given up: the commands after it go on then. -/
def attempted (action : Work Flow) : Work Flow := do
  let before ← get
  match ← outcome action with
  | .ok flow => return flow
  | .error .failure =>
    modify fun session => { session with
      tested := before.tested
      interrupted := before.interrupted }
    return .normal
  | .error breach => throw breach

/-! ### Letters -/

/-- The letters in front of arguments, each with the text that belongs to it, and the arguments. -/
structure Letters where
  letters : List (Char × Octets)
  operands : List Octets
deriving DecidableEq, Repr, Inhabited

namespace Letters

/-- Whether a letter was among them. -/
def has (letters : Letters) (letter : Char) : Bool :=
  letters.letters.any fun (other, _) => other = letter

/-- Reads the letters of a word. One that a text belongs to takes the rest of the word, or else the
word after it. -/
def readWord (plain valued : List Char) : Octets → List Octets → Except Octets Letters
  | [], words => .ok ⟨[], words⟩
  | letter :: more, words =>
    if valued.contains letter then
      match more, words with
      | [], [] => .error ("No arg for -".toList ++ letter :: " option".toList)
      | [], value :: words => .ok ⟨[(letter, value)], words⟩
      | value, words => .ok ⟨[(letter, value)], words⟩
    else if plain.contains letter then do
      let others ← readWord plain valued more words
      return { others with letters := (letter, []) :: others.letters }
    else .error ("Illegal option -".toList ++ [letter])

/-- Reads words up to the first that holds no letters; the count bounds how many there are. -/
def readWords (plain valued : List Char) : (count : Nat) → List Octets → Except Octets Letters
  | 0, words => .ok ⟨[], words⟩
  | _ + 1, ['-', '-'] :: words => .ok ⟨[], words⟩
  | count + 1, ('-' :: letter :: more) :: words => do
    let first ← readWord plain valued (letter :: more) words
    let others ← readWords plain valued count first.operands
    return { others with letters := first.letters ++ others.letters }
  | _ + 1, words => .ok ⟨[], words⟩

end Letters

/-- Reads the letters in front of arguments; a text belongs to some of them. -/
def readLetters (plain valued : String) (arguments : List Octets) : Work Letters := do
  match Letters.readWords plain.toList valued.toList (arguments.length + 1) arguments with
  | .ok letters => return letters
  | .error fault => abandon fault

/-! ### Numbers -/

/-- The number that an argument denotes, which may have blanks around it. -/
def readNumber (argument : Octets) : Work Nat := do
  match Octets.toCount? argument with
  | some count => return count
  | none => abandon ("Illegal number: ".toList ++ argument)

/-! ### Text for the shell -/

/-- A text in quotation marks, as the shell would read it again: single quotes around all but single
quotes, and double quotes around those. -/
def quotedText (text : Octets) : Octets :=
  let isQuote (char : Char) : Bool := char = '\x27'
  let runs := text.splitBy fun left right => isQuote left == isQuote right
  let opening := if text.head?.all isQuote then ['\x27', '\x27'] else []
  opening ++ runs.flatMap fun run =>
    let mark := if run.any isQuote then '\x22' else '\x27'
    mark :: run ++ [mark]

end ShellSmoke.Shell
