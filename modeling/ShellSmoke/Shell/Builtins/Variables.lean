/-
This file holds the builtins that change variables, arguments and options.
-/

import ShellSmoke.Shell.Builtin

namespace ShellSmoke.Shell

open Machine

/-! ### Variables -/

/-- The name and the value of an argument that is an assignment; without a sign there is no
value. -/
def assignmentIn (argument : Octets) : Octets × Option Octets :=
  let name := ownName argument
  (name, if name.length < argument.length then some (argument.drop (name.length + 1)) else none)

/-- Variables in order, as commands that would make them so. -/
def variableListing (command : Octets) (bindings : List Variable) : Octets :=
  let ordered := bindings.mergeSort fun left right => before left.name right.name
  ordered.flatMap fun held =>
    let value := match held.value with
      | some value => '=' :: quotedText value
      | none => []
    command ++ held.name ++ value ++ ['\n']

/-- The arguments after the letters, unless variables are to be listed. Only the first letter
counts. -/
def markedOperands : List Octets → Work (Option (List Octets))
  | ('-' :: 'p' :: _) :: _ => return none
  | ['-', '-'] :: rest => return some rest
  | ('-' :: letter :: _) :: _ => abandon ("Illegal option -".toList ++ [letter])
  | arguments => return some arguments

/-- Gives variables values and marks them, or lists those that are marked. -/
def markVariables (command : String) (mark : Variable → Variable) (isMarked : Variable → Bool) :
    Builtin := fun _ arguments => do
  let operands := (← markedOperands arguments).getD []
  if ¬ operands.isEmpty then
    operands.forM fun argument => do
      let (name, value) := assignmentIn argument
      unless Octets.isName name do abandon (name ++ ": bad variable name".toList)
      if let some value := value then setVariable name value
      modify fun session => session.put (mark (session.held name))
    done 0
  else
    printed (variableListing (command.toList ++ [' ']) ((← get).bindings.filter isMarked))

/-- Lets programs get variables. -/
def exportBuiltin : Builtin :=
  markVariables "export" (fun held => { held with exported := true }) (·.exported)

/-- Keeps variables as they are for good. -/
def readonlyBuiltin : Builtin :=
  markVariables "readonly" (fun held => { held with fixed := true }) (·.fixed)

/-- Keeps variables for the function at hand, or for another command that runs commands; they get
back what they were when it ends. A dash stands for the options. -/
def localBuiltin : Builtin := fun _ arguments => do
  if (← get).frames.isEmpty then abandon "not in a function".toList
  arguments.forM fun argument => do
    if argument = ['-'] then modify fun session => session.keep (.options session.options)
    else
      let (name, value) := assignmentIn argument
      let named := Octets.isName name
      unless named ∨ value.isSome do abandon (name ++ ": bad variable name".toList)
      let before := (← get).find? name
      if let some value := value then
        if named then setVariable name value else modify (·.assign name value)
      modify (·.keep (.binding name before))
  done 0

/-- Takes variables away, or functions. -/
def unsetBuiltin : Builtin := fun _ arguments => do
  let letters ← readLetters "vf" "" arguments
  if (letters.letters.getLast?).any fun (letter, _) => letter = 'f' then
    modify fun session => { session with
      functions := session.functions.filter fun (name, _) => ! letters.operands.contains name }
  else
    letters.operands.forM fun word => do
      let name := ownName word
      unless Octets.isName name do abandon (name ++ ": bad variable name".toList)
      if ((← get).held name).fixed then abandon (name ++ ": is read only".toList)
      modify (·.unset name)
  done 0

/-! ### Arguments and options -/

/-- Takes arguments away from the front. -/
def shiftBuiltin : Builtin := fun _ arguments => do
  let count ← match arguments with
    | [] => pure 1
    | argument :: _ => readNumber argument
  let session ← get
  if session.arguments.length < count then abandon "can't shift that many".toList
  set { session with
    arguments := session.arguments.drop count
    letterPlace := (1, none) }
  done 0

/-- Sets options, and arguments if any follow; lists variables or options. -/
def setBuiltin : Builtin := fun _ arguments => do
  if arguments.isEmpty then
    printed (variableListing [] ((← get).bindings.filter (·.value.isSome)))
  else
    match OptionWords.read false (← get).options arguments with
    | .error (fault, words) =>
      modify fun session => { session with options := words.options }
      ensuring (abandon fault) (print words.listed)
    | .ok words =>
      let before := (← get).options
      modify fun session => { session with options := words.options }
      settleOptions before
      if words.closed ∨ ¬ words.operands.isEmpty then
        modify fun session => { session with
          arguments := words.operands
          letterPlace := (1, none) }
      printed words.listed

/-! ### The letters of arguments -/

/-- What the search for the next letter of words came to. -/
structure LetterFound where
  letter : Char
  /-- What becomes of the text that belongs to a letter: it may stay as it was, go away, or get a
  value. -/
  value : Option (Option Octets)
  message : Octets
  /-- Whether there was no letter any more. -/
  ended : Bool
  /-- Where the search goes on. -/
  place : Nat × Option Nat
deriving DecidableEq, Repr, Inhabited

namespace LetterFound

/-- Whether a text belongs to a letter, if the letter is known. A colon stands after each letter
that a text belongs to. -/
def takesText? (letter : Char) : Octets → Option Bool
  | [] => none
  | known :: ':' :: rest => if known = letter then some true else takesText? letter rest
  | known :: rest => if known = letter then some false else takesText? letter rest

/-- What a letter comes to; the number is that of the word after the one in which it stands. A colon
in front of the known letters asks for no messages. -/
def ofLetter (known : Octets) (words : List Octets) (next : Nat) (letter : Char)
    (more : Octets) : LetterFound :=
  let silent := known.head? = some ':'
  let length := (words[next - 2]?.getD []).length
  let inside := (next, some (length - more.length))
  match takesText? letter known with
  | none =>
    if silent then ⟨'?', some (some [letter]), [], false, inside⟩
    else ⟨'?', some none, "Illegal option -".toList ++ [letter, '\n'], false, inside⟩
  | some false => ⟨letter, some (some []), [], false, inside⟩
  | some true =>
    if ¬ more.isEmpty then ⟨letter, some (some more), [], false, (next, none)⟩
    else
      match words[next - 1]? with
      | some value => ⟨letter, some (some value), [], false, (next + 1, none)⟩
      | none =>
        if silent then ⟨':', some (some [letter]), [], false, (next, none)⟩
        else
          let message := "No arg for -".toList ++ letter :: " option\n".toList
          ⟨'?', some none, message, false, (next, none)⟩

/-- The next letter of words from a place on. -/
def search (known : Octets) (words : List Octets) (place : Nat × Option Nat) : LetterFound :=
  let (index, read) := if words.length + 1 < place.1 then (1, none) else place
  let current := match read with
    | some read => if 1 < index then (words[index - 2]?.getD []).drop read else []
    | none => []
  match current with
  | letter :: more => ofLetter known words index letter more
  | [] =>
    match words[index - 1]? with
    | some ['-', '-'] => ⟨'?', none, [], true, (index + 1, none)⟩
    | some ('-' :: letter :: more) => ofLetter known words (index + 1) letter more
    | _ => ⟨'?', none, [], true, (index, none)⟩

end LetterFound

/-- Finds the next letter of the arguments. -/
def getoptsBuiltin : Builtin := fun _ arguments => do
  match arguments with
  | known :: name :: words =>
    let session ← get
    let words := if words.isEmpty then session.arguments else words
    let found := LetterFound.search known words session.letterPlace
    match found.value with
    | none => pure ()
    | some none => modify (·.unset "OPTARG".toList)
    | some (some value) => setVariable "OPTARG".toList value
    let _ ← write 2 found.message
    setVariable "OPTIND".toList (.ofNat found.place.1)
    modify fun session => { session with letterPlace := found.place }
    setVariable name [found.letter]
    done (if found.ended then 1 else 0)
  | _ => abandon "Usage: getopts optstring var [arg...]".toList

/-! ### Reading -/

/-- What stands where two lines were joined. -/
def lineSeam : Mark := ⟨'\n', true⟩

/-- Reads a line from standard input, byte by byte. A backslash protects the character after it and
joins lines, unless the line is taken as it is. The value holds the characters, and whether the line
was ended. -/
def readInputLine (raw : Bool) (marks : List Mark) : (count : Nat) → Work (List Mark × Bool)
  | 0 => return (marks.reverse, false)
  | count + 1 => do
    match ← inputChar with
    | none => return (marks.reverse, false)
    | some '\n' => return (marks.reverse, true)
    | some '\x00' => readInputLine raw marks count
    | some '\\' =>
      if raw then readInputLine raw (⟨'\\', false⟩ :: marks) count
      else
        match ← inputChar with
        | none => return (marks.reverse, false)
        | some '\n' => readInputLine raw (lineSeam :: marks) count
        | some char => readInputLine raw (⟨char, true⟩ :: marks) count
    | some char => readInputLine raw (⟨char, false⟩ :: marks) count
where
  inputChar : Work (Option Char) := do
    match ← Routine.read 0 1 with
    | .ok (byte :: _) => return some (Char.ofNat byte.toNat)
    | _ => return none

/-- Whether a character sets fields apart. -/
def separates (separators : Octets) (mark : Mark) : Bool :=
  ! mark.quoted && separators.contains mark.char

/-- Whether a character is a blank that sets fields apart. -/
def isBlankMark (separators : Octets) (mark : Mark) : Bool :=
  separates separators mark && [' ', '\t', '\n'].contains mark.char

/-- The characters without the blanks in front of them that set fields apart. -/
def withoutBlanks (separators : Octets) (marks : List Mark) : List Mark :=
  marks.dropWhile fun mark => isBlankMark separators mark || mark = lineSeam

/-- A field, and what follows it and the separator after it, which has to be in the same line as the
blanks in front of it. -/
def leadingField (separators : Octets) (marks : List Mark) : List Mark × List Mark :=
  let marks := withoutBlanks separators marks
  let field := marks.takeWhile (! separates separators ·)
  let rest := (marks.drop field.length).dropWhile (isBlankMark separators)
  match rest with
  | mark :: more =>
    (field, withoutBlanks separators (if separates separators mark then more else rest))
  | [] => (field, [])

/-- The text of characters. -/
def fieldText (marks : List Mark) : Octets := (marks.filter (· ≠ lineSeam)).map (·.char)

/-- The values that names get from a line; the last name gets all that is left. If that is a single
field, the separator after it is left out. -/
def fieldValues (separators : Octets) : List Octets → List Mark → List (Octets × Octets)
  | [], _ => []
  | [name], marks =>
    let marks := withoutBlanks separators marks
    let (field, rest) := leadingField separators marks
    let value := if rest.isEmpty then field
      else (withoutBlanks separators marks.reverse).reverse
    [(name, fieldText value)]
  | name :: names, marks =>
    let (field, rest) := leadingField separators marks
    (name, fieldText field) :: fieldValues separators names rest

/-- Reads a line into variables. -/
def readBuiltin : Builtin := fun _ arguments => do
  let letters ← readLetters "r" "p" arguments
  if letters.operands.isEmpty then abandon "arg count".toList
  let session ← get
  let (marks, ended) ← readInputLine (letters.has 'r') [] session.lifetime
  (fieldValues session.separators letters.operands marks).forM fun (name, value) =>
    setVariable name value
  done (if ended then 0 else 1)

end ShellSmoke.Shell
