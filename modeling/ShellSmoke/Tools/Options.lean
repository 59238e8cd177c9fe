/-
This file reads the options of tools: letters after a dash, and names after two, which can be cut
short. Options and operands can be mixed, or options come first.
-/

import ShellSmoke.Tools.Quoting

namespace ShellSmoke.Tools

/-! ### Tables -/

/-- Whether a value belongs to an option. -/
inductive Arity where
  | alone
  | valued
  /-- A value belongs to it only if it is attached. -/
  | open
deriving DecidableEq, Repr, Inhabited

/-- An option by a letter or a name, with the key under which the tool knows it. -/
structure OptionEntry (Spelling : Type) where
  spelling : Spelling
  arity : Arity
  key : String
deriving Repr

/-- The options of a tool. -/
structure OptionTable where
  letters : List (OptionEntry Char)
  names : List (OptionEntry String)

/-- Letters without values, each of which is its own key. -/
def plainLetters (letters : String) : List (OptionEntry Char) :=
  letters.toList.map fun letter => ⟨letter, .alone, String.singleton letter⟩

/-- Letters with values, each of which is its own key. -/
def valuedLetters (letters : String) : List (OptionEntry Char) :=
  letters.toList.map fun letter => ⟨letter, .valued, String.singleton letter⟩

/-- The names that every tool knows. -/
def commonNames : List (OptionEntry String) :=
  [⟨"help", .alone, "help"⟩, ⟨"version", .alone, "version"⟩]

/-- What a word asks for. -/
inductive Wish where
  | option (key : String) (value : Option Bytes)
  /-- Something that makes no sense. -/
  | fault (message : Bytes)
deriving DecidableEq, Repr, Inhabited

/-! ### Reading -/

/-- A name of an option in a message. -/
def quotedName (name : Bytes) : Bytes :=
  Bytes.ofString "'--" ++ name ++ [singleQuote]

/-- What a name asks for that fits an entry, with the value attached to it and the words after it.
-/
def wishOfEntry (entry : OptionEntry String) (attached : Option Bytes) (rest : List Bytes) :
    Wish × List Bytes :=
  let about (text : String) : Wish := .fault
    (Bytes.ofString "option " ++ quotedName (Bytes.ofString entry.spelling) ++
      Bytes.ofString text)
  match entry.arity, attached, rest with
  | .alone, some _, _ => (about " doesn\x27t allow an argument", rest)
  | .valued, none, value :: rest => (.option entry.key (some value), rest)
  | .valued, none, [] => (about " requires an argument", [])
  | _, _, _ => (.option entry.key attached, rest)

/-- What a word after two dashes asks for. A name can be cut short as long as all names that begin
so ask for the same. -/
def OptionTable.readName (table : OptionTable) (text : Bytes) (rest : List Bytes) :
    Wish × List Bytes :=
  let name := text.takeWhile (· ≠ '='.toUInt8)
  let attached := if name.length < text.length then some (text.drop (name.length + 1)) else none
  let named := table.names.find? fun entry => Bytes.ofString entry.spelling = name
  let fitting := table.names.filter fun entry => name.isPrefixOf (Bytes.ofString entry.spelling)
  match named.or fitting.head? with
  | none => (.fault (Bytes.ofString "unrecognized option " ++ quotedName text), rest)
  | some entry =>
    let others := fitting.filter fun other => other.key ≠ entry.key ∨ other.arity ≠ entry.arity
    if named.isSome ∨ others.isEmpty then wishOfEntry entry attached rest
    else
      let possible := (entry :: others).flatMap fun other =>
        32 :: quotedName (Bytes.ofString other.spelling)
      (.fault (Bytes.ofString "option " ++ quotedName text ++
        Bytes.ofString " is ambiguous; possibilities:" ++ possible), rest)

/-- What letters after a dash ask for, and the words after them. -/
def OptionTable.readLetters (table : OptionTable) (rest : List Bytes) :
    Bytes → List Wish × List Bytes
  | [] => ([], rest)
  | letter :: more =>
    let shown := Bytes.ofString " -- '" ++ [letter, singleQuote]
    match table.letters.find? fun entry => entry.spelling.toUInt8 = letter with
    | none =>
      let (wishes, rest) := table.readLetters rest more
      (.fault (Bytes.ofString "invalid option" ++ shown) :: wishes, rest)
    | some entry =>
      match entry.arity with
      | .alone =>
        let (wishes, rest) := table.readLetters rest more
        (.option entry.key none :: wishes, rest)
      | .valued =>
        if ¬ more.isEmpty then ([.option entry.key (some more)], rest)
        else
          match rest with
          | value :: rest => ([.option entry.key (some value)], rest)
          | [] => ([.fault (Bytes.ofString "option requires an argument" ++ shown)], [])
      | .open => ([.option entry.key (if more.isEmpty then none else some more)], rest)

/-- What words ask for, in order, and the operands among them. A word of two dashes ends the
options, and so does an operand where they are not mixed. The count bounds how many words there are.
-/
def OptionTable.readWords (table : OptionTable) (mixed : Bool) :
    (count : Nat) → List Bytes → List Wish × List Bytes
  | 0, words => ([], words)
  | _ + 1, [] => ([], [])
  | count + 1, word :: rest =>
    let dash := '-'.toUInt8
    let goOn (wishes : List Wish) (rest : List Bytes) : List Wish × List Bytes :=
      let (others, operands) := table.readWords mixed count rest
      (wishes ++ others, operands)
    if word = [dash, dash] then ([], rest)
    else if [dash, dash].isPrefixOf word then
      let (wish, rest) := table.readName (word.drop 2) rest
      goOn [wish] rest
    else if [dash].isPrefixOf word ∧ word ≠ [dash] then
      let (wishes, rest) := table.readLetters rest word.tail
      goOn wishes rest
    else if mixed then
      let (wishes, operands) := table.readWords mixed count rest
      (wishes, word :: operands)
    else ([], word :: rest)

/-- What the words after the name of a tool ask for, in order, and the operands among them. -/
def OptionTable.read (table : OptionTable) (mixed : Bool) (words : List Bytes) :
    List Wish × List Bytes :=
  table.readWords mixed (words.length + 1) words

/-! ### Values out of a list -/

/-- A choice among words: the words in the order in which they are listed, and what each means. -/
structure Choices (α : Type) where
  words : List (String × α)

/-- What a word means that can be cut short, if all words that begin so mean the same; or a message
about it, which lists the words. -/
def Choices.read {α : Type} [DecidableEq α] (choices : Choices α) (option : String)
    (word : Bytes) : Except Bytes α :=
  let spelled := choices.words.find? fun (name, _) => Bytes.ofString name = word
  let fitting := choices.words.filter fun (name, _) => word.isPrefixOf (Bytes.ofString name)
  let message (kind : String) : Bytes :=
    let lines := choices.words.foldl
      (fun (lines, before) (name, meaning) =>
        let text := Bytes.ofString ("'" ++ name ++ "'")
        if before = some meaning then (lines ++ Bytes.ofString ", " ++ text, some meaning)
        else (lines ++ Bytes.ofString "\n  - " ++ text, some meaning))
      ((([] : Bytes)), (none : Option α))
    Bytes.ofString (kind ++ " argument ") ++ escaped word ++
      Bytes.ofString (" for '" ++ option ++ "'\nValid arguments are:") ++ lines.1
  match spelled.or fitting.head? with
  | none => .error (message "invalid")
  | some (_, meaning) =>
    if spelled.isSome ∨ fitting.all fun (_, other) => other = meaning then .ok meaning
    else .error (message "ambiguous")

/-- The first word with a meaning. -/
def Choices.wordOf {α : Type} [DecidableEq α] (choices : Choices α) (meaning : α) : String :=
  ((choices.words.find? (·.2 = meaning)).map (·.1)).getD ""

end ShellSmoke.Tools
