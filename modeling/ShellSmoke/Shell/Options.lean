/-
This file holds the options of the shell: their letters and names, and how words turn them on and
off, on the command line of a shell as well as in its builtin `set`.
-/

import ShellSmoke.Shell.Octets

namespace ShellSmoke.Shell

/-- The options that are on, as letters. -/
abbrev Options := List Char

namespace Options

/-- All options, with their letters and names. -/
def table : List (Char × String) :=
  [('e', "errexit"), ('f', "noglob"), ('I', "ignoreeof"), ('i', "interactive"), ('m', "monitor"),
    ('n', "noexec"), ('s', "stdin"), ('x', "xtrace"), ('v', "verbose"), ('V', "vi"),
    ('E', "emacs"), ('C', "noclobber"), ('a', "allexport"), ('b', "notify"), ('u', "nounset"),
    ('p', "privileged")]

/-- The options that have a name, of which some have no letter. -/
def named : List (Char × String) := table ++ [('\x00', "nolog"), ('\x01', "debug")]

/-- The letters of the options that are on, in the order in which `$-` shows them. -/
def shown (options : Options) : Octets := (table.map (·.1)).reverse.filter options.contains

/-- All names with what the options are, in columns. -/
def columns (options : Options) : Octets :=
  "Current option settings\n".toList ++ named.flatMap fun (letter, name) =>
    let filling := List.replicate (16 - name.length) ' '
    let state := if options.contains letter then "on\n" else "off\n"
    name.toList ++ filling ++ state.toList

/-- Commands that would make the options so. -/
def commands (options : Options) : Octets :=
  named.flatMap fun (letter, name) =>
    (if options.contains letter then "set -o " else "set +o ").toList ++ name.toList ++ ['\n']

/-- Turns an option on or off. -/
def turn (options : Options) (letter : Char) (on : Bool) : Options :=
  let others := options.filter (· ≠ letter)
  if on then letter :: others else others

/-- The option of a letter, if there is one. -/
def ofLetter (letter : Char) : Except Octets Char :=
  if table.any fun (known, _) => known = letter then .ok letter
  else .error ("Illegal option -".toList ++ [letter])

/-- The option of a name, if there is one. -/
def ofName (name : Octets) : Except Octets Char :=
  match named.find? fun (_, known) => known.toList = name with
  | some (letter, _) => .ok letter
  | none => .error ("Illegal option -o ".toList ++ name)

end Options

/-! ### Words -/

/-- What words ask for. -/
structure OptionWords where
  /-- The options that are on after the words. -/
  options : Options
  /-- Whether the letter `c` was among them: the script of the shell is an operand. -/
  isCommand : Bool
  /-- Whether a word `--` ended them. -/
  closed : Bool
  /-- The words that follow. -/
  operands : List Octets
  /-- What is to be printed about the options, if that was asked for. -/
  listed : Octets := []
  /-- The options that the words turned off last. -/
  undone : Options := []
deriving DecidableEq, Repr, Inhabited

namespace OptionWords

/-- Why words make no sense, with what those before ask for. -/
abbrev Refused := Octets × OptionWords

/-- Turns an option on or off. -/
def turn (words : OptionWords) (letter : Char) (on : Bool) : OptionWords :=
  { words with
    options := words.options.turn letter on
    undone := words.undone.turn letter (! on) }

/-- What is printed about the options. Where a shell starts, all are on for that but those that were
turned off. -/
def listing (starting on : Bool) (words : OptionWords) : Octets :=
  let options := if starting then
      (Options.named.map (·.1)).filter (! words.undone.contains ·)
    else words.options
  if on then Options.columns options else Options.commands options

/-- Reads the letters of a word. Each letter `o` takes the name of an option from the words that
follow. The letters `c` and `l` have a meaning where a shell starts. -/
def readLetters (starting on : Bool) : Octets → OptionWords → Except Refused OptionWords
  | [], words => .ok words
  | letter :: more, words =>
    if starting ∧ letter = 'c' then readLetters starting on more { words with isCommand := true }
    else if starting ∧ letter = 'l' then readLetters starting on more words
    else if letter = 'o' then
      match words.operands with
      | [] =>
        let listed := words.listed ++ words.listing starting on
        readLetters starting on more { words with listed }
      | name :: operands =>
        match Options.ofName name with
        | .ok letter => readLetters starting on more ({ words with operands }.turn letter on)
        | .error fault => .error (fault, words)
    else
      match Options.ofLetter letter with
      | .ok letter => readLetters starting on more (words.turn letter on)
      | .error fault => .error (fault, words)

/-- Reads words up to the first that is no option; the count bounds how many there are. -/
def readWords (starting : Bool) : (count : Nat) → OptionWords → Except Refused OptionWords
  | 0, words => .ok words
  | count + 1, words =>
    match words.operands with
    | ['-'] :: operands =>
      let quiet := (words.options.turn 'x' false).turn 'v' false
      .ok { words with operands, options := if starting then words.options else quiet }
    | ['-', '-'] :: operands => .ok { words with closed := true, operands }
    | ('-' :: letters) :: operands => do
      readWords starting count (← readLetters starting true letters { words with operands })
    | ('+' :: letters) :: operands => do
      readWords starting count (← readLetters starting false letters { words with operands })
    | _ => .ok words

/-- What words ask for where some options are on already. -/
def read (starting : Bool) (options : Options) (words : List Octets) :
    Except Refused OptionWords :=
  readWords starting (words.length + 1)
    { options, isCommand := false, closed := false, operands := words }

end OptionWords

end ShellSmoke.Shell
