/-
This file reads the commands of a script. The shell takes a script line by line: a line is a list of
commands up to a newline that is not inside any of them.
-/

import ShellSmoke.Shell.Words

namespace ShellSmoke.Shell

/-! ### Blanks -/

/-- Goes past blanks, and past a comment after them. -/
def skipBlanks : Reader Unit := do
  let _ ← Reader.takeWhile fun char => char = ' ' ∨ char = '\t'
  if (← Reader.peek) = some '#' then
    Reader.iterate (fun () => do
      match ← Reader.peekRaw with
      | none => return .inr ()
      | some '\n' => return .inr ()
      | some _ =>
        Reader.advance
        return .inl ()) ()

/-! ### Documents -/

/-- Takes the lines of a document off a text, up to the line that ends it: the lines, latest first,
what follows, and how many lines were taken off. Nothing if the text ends first. -/
def documentLines (style : DocumentStyle) (lines : List Octets) (line : Octets) (count : Nat) :
    Octets → List Octets × Option (Octets × Nat)
  | [] =>
    let last := trim line.reverse
    if last = style.ending then (lines, some ([], count + 1))
    else (if line.isEmpty then lines else last :: lines, none)
  | '\n' :: rest =>
    let whole := trim line.reverse
    if whole = style.ending then (lines, some (rest, count + 1))
    else documentLines style ((whole ++ ['\n']) :: lines) [] (count + 1) rest
  | char :: rest =>
    documentLines style lines (if isAliasEnd char then line else char :: line) count rest
where
  trim (line : Octets) : Octets := if style.untab then line.dropWhile (· = '\t') else line

/-- Takes a document that stands for itself. -/
def takeLiteral (style : DocumentStyle) : Reader Word := do
  let cursor ← get
  match documentLines style [] [] 0 cursor.rest with
  | (lines, some (rest, count)) =>
    unless cursor.final do
      if rest.isEmpty ∧ cursor.rest.getLast? ≠ some '\n' then throw .unfinished
    let taken := cursor.rest.take (cursor.rest.length - rest.length)
    set { cursor with
      rest := taken.filter isAliasEnd ++ rest
      line := cursor.line + count
      fresh := true }
    return [.quoted lines.reverse.flatten]
  | (lines, none) =>
    unless cursor.final do throw .unfinished
    let line := cursor.line + cursor.rest.count '\n'
    set { cursor with rest := cursor.rest.filter isAliasEnd, line, fresh := false }
    return [.quoted lines.reverse.flatten]

/-- Leaves the document at hand, and goes past the line that ends it, if there is one. That counts
as a line even where the script ends with it. -/
def passEnding : Reader Unit := do
  let cursor ← get
  if cursor.atEnding then
    let text := cursor.rest.takeWhile (· ≠ '\n')
    set { cursor with
      rest := text.filter isAliasEnd ++ cursor.rest.drop (text.length + 1)
      line := cursor.line + 1
      fresh := true
      inside := none }
  else set { cursor with fresh := false, inside := none }

/-- Takes a document in which there can be substitutions. -/
def takeSubstituting (nested : Nested) (style : DocumentStyle) : Reader Word := do
  modify fun cursor => { cursor with inside := some style, fresh := true }
  let text ← Reader.resolved (readText nested .document)
  passEnding
  return text

/-- Reads the documents that the line before asked for. -/
def readDocuments (nested : Nested) : Reader Unit := do
  let pending := (← get).pending.reverse
  modify fun cursor => { cursor with pending := [] }
  pending.forM fun (number, style) => do
    let text ← if style.literal then takeLiteral style else takeSubstituting nested style
    modify fun cursor => { cursor with documents := (number, text) :: cursor.documents }

/-- Goes past a newline, and past the documents after it. -/
def passLine (nested : Nested) : Reader Unit := do
  Reader.advance
  readDocuments nested

/-- Goes past blanks, comments and newlines. -/
def skipLines (nested : Nested) : Reader Unit :=
  Reader.iterate (fun () => do
    skipBlanks
    if (← Reader.peek) = some '\n' then
      passLine nested
      return .inl ()
    else return .inr ()) ()

/-! ### Aliases -/

/-- Whether a character in a word tells that the word does not stand for itself, or is one of those
that are kept apart in words. -/
def isQuoting (char : Char) : Bool :=
  ['\\', '\x27', '\x22', '\x60', '$'].contains char || ('\x81' ≤ char && char ≤ '\x88')

/-- Puts the text of an alias in the place of its name, if that is the next word. No alias stands
for itself again, and none for a reserved word where words can be reserved. -/
def spliceAlias (reserving : Bool) : Reader Bool := do
  let cursor ← get
  let name := cursor.rest.takeWhile fun char => ! isMeta char && ! isAliasEnd char
  let text? := if name.any isQuoting ∨ cursor.active.contains name then none
    else if reserving ∧ reservedWords.contains (String.ofList name) then none
    else cursor.aliases.lookup name
  match text? with
  | none => return false
  | some text =>
    if name.length = cursor.rest.length ∧ ¬ cursor.final then throw .unfinished
    set (cursor.splice name text)
    return true

/-- Goes past blanks and whatever else is to be skipped. If the next word can be an alias, its text
takes its place; it can always be one after a text with a blank at its end. -/
def seekWord (skip : Reader Unit) (aliasing reserving : Bool) : Reader Unit :=
  Reader.iterate (fun aliasing => do
    skip
    let renewed := (← get).renewed
    modify fun cursor => { cursor with renewed := false }
    if aliasing || renewed then
      if ← spliceAlias reserving then return .inl true
    return .inr ()) aliasing

/-- Goes to the next word of a command, or to what follows the command. -/
def seekOperand : Reader Unit := seekWord skipBlanks false false

/-- Goes to where a command begins, on the same line. -/
def seekCommand : Reader Unit := seekWord skipBlanks true true

/-- Goes to where a command begins, on any line. -/
def seekCommandLine (nested : Nested) : Reader Unit := seekWord (skipLines nested) true true

/-! ### Words -/

/-- Whether a word can begin here. -/
def wordIsNext : Reader Bool := do
  match ← Reader.peek with
  | none => return false
  | some char => return ! isMeta char && ! (← redirectionIsNext)

/-- Whether a reserved word is next. -/
def reservedIsNext (word : String) : Reader Bool := return (← nextWord) = word.toList

/-- Goes past a reserved word if it is next. -/
def acceptReserved (word : String) : Reader Bool := do
  if ← reservedIsNext word then
    let _ ← Reader.takeWhile fun char => ! isMeta char
    return true
  else return false

/-- Goes past a reserved word, which has to be next. -/
def expectReserved (nested : Nested) (word : String) : Reader Unit := do
  unless ← acceptReserved word do unexpected nested (signName word)

/-- The reserved words that end a list of commands. -/
def closingWords : List String := ["do", "done", "elif", "else", "esac", "fi", "then", "\x7d"]

/-- Whether a list of commands ends here. -/
def listEnds : Reader Bool := do
  match ← Reader.peek with
  | none => return true
  | some ')' => return true
  | some ';' => Reader.lookingAt ";;"
  | some _ => return closingWords.contains (String.ofList (← nextWord))

/-! ### Redirections -/

/-- A word in a setting, which has to be next. -/
def expectText (nested : Nested) (setting : Setting) : Reader Word := do
  seekOperand
  unless ← wordIsNext do unexpected nested none
  readText nested setting

/-- A word, which has to be next. -/
def expectWord (nested : Nested) : Reader Word := expectText nested .word

/-- The text of a word whose quotations are taken off, and whether it had any. -/
def bareText : List Fragment → Octets × Bool
  | [] => ([], false)
  | .plain text :: rest =>
    let (more, quoted) := bareText rest
    (text ++ more, quoted)
  | .quoted text :: rest => (text ++ (bareText rest).1, true)
  | .grouped fragments :: rest => (fragments.flatMap literalText ++ (bareText rest).1, true)
  | _ :: rest => bareText rest
where
  literalText : Fragment → Octets
    | .plain text => text
    | .quoted text => text
    | _ => []

/-- A document that the script itself holds, after this line. -/
def askForDocument (nested : Nested) (descriptor : Nat) (untab : Bool) : Reader Redirection := do
  let (ending, literal) := bareText (← expectText nested .ending)
  let cursor ← get
  let number := cursor.asked
  set { cursor with
    asked := number + 1
    pending := (number, ⟨ending, untab, literal⟩) :: cursor.pending }
  return .fromText descriptor ((cursor.known.lookup number).getD [])

/-- The rest of a redirection to what another descriptor stands for. -/
def readSource (nested : Nested) (descriptor : Nat) : Reader Redirection := do
  match ← expectWord nested with
  | [.plain [char]] =>
    return if char.isDigit then .toDescriptor descriptor (char.toNat - 48)
      else .toNamed descriptor [.plain [char]]
  | word => return .toNamed descriptor word

/-- A redirection if one is next. A digit alone in front of the sign is the descriptor. -/
def redirection? (nested : Nested) : Reader (Option Redirection) := do
  let cursor ← get
  let digit ← Reader.takeWhile Char.isDigit
  let number := Octets.toNat? digit
  if 1 < digit.length then
    set cursor
    return none
  match ← Reader.peek with
  | some '<' =>
    let descriptor := number.getD 0
    if ← Reader.accept "<<-" then return some (← askForDocument nested descriptor true)
    if ← Reader.accept "<<" then return some (← askForDocument nested descriptor false)
    if ← Reader.accept "<&" then return some (← readSource nested descriptor)
    if ← Reader.accept "<>" then
      return some (.toFile descriptor .updating true (← expectWord nested))
    Reader.advance
    return some (.toFile descriptor .reading true (← expectWord nested))
  | some '>' =>
    let descriptor := number.getD 1
    if ← Reader.accept ">>" then
      return some (.toFile descriptor .appending true (← expectWord nested))
    if ← Reader.accept ">&" then return some (← readSource nested descriptor)
    let regardless ← Reader.accept ">|"
    unless regardless do Reader.advance
    return some (.toFile descriptor .writing regardless (← expectWord nested))
  | _ =>
    set cursor
    return none

/-- The redirections that are next. No word after them is reserved. -/
def redirections (nested : Nested) : Reader (List Redirection) := do
  seekCommand
  Reader.iterate (fun found => do
    seekOperand
    match ← redirection? nested with
    | some redirection => return .inl (redirection :: found)
    | none =>
      unless found.isEmpty do
        modify fun cursor => { cursor with spared := some cursor.rest.length }
      return .inr found.reverse) []

/-! ### Simple commands -/

/-- The name of a variable with the sign that assigns to it, if they are next. -/
def assignedName? : Reader (Option Octets) := do
  let cursor ← get
  let name ← Reader.takeWhile Octets.inName
  if Octets.isName name then
    if ← Reader.accept "=" then return some name
  set cursor
  return none

/-- What was read of a simple command, latest first, and the line after what came first. -/
structure SimpleDraft where
  line : Option Nat
  assignments : List (Octets × Word)
  words : List Word
  redirections : List Redirection

/-- Reads one more part of a simple command. -/
def simpleStep (nested : Nested) (draft : SimpleDraft) :
    Reader (SimpleDraft ⊕ SimpleDraft) := do
  let first := draft.assignments.isEmpty && draft.redirections.isEmpty
  seekWord skipBlanks draft.words.isEmpty first
  let start := (← get).line
  if let some found ← redirection? nested then
    return .inl { draft with
      line := draft.line.or (some start)
      redirections := found :: draft.redirections }
  unless ← wordIsNext do return .inr draft
  if draft.words.isEmpty then
    if let some name ← assignedName? then
      let value ← readText nested .word
      let line := draft.line.or (some (← get).line)
      return .inl { draft with line, assignments := (name, value) :: draft.assignments }
  let word ← readText nested .word
  let draft := { draft with line := draft.line.or (some (← get).line) }
  let bare := draft.words.isEmpty ∧ draft.assignments.isEmpty ∧ draft.redirections.isEmpty
  let draft := { draft with words := word :: draft.words }
  if bare then
    skipBlanks
    if (← Reader.peek) = some '(' then return .inr draft
  return .inl draft

/-- The name of the function that a word defines: the name of a variable that is not quoted. -/
def functionName? : Word → Option Octets
  | [.plain name] =>
    if Octets.isName name ∧ ¬ Command.specialNames.contains (String.ofList name) then some name
    else none
  | _ => none

/-- A simple command, or the definition of a function, whose body is read by another reader. -/
def readSimple (nested : Nested) (body : Reader Command) : Reader Command := do
  let draft ← Reader.iterate (simpleStep nested) ⟨none, [], [], []⟩
  if draft.assignments.isEmpty ∧ draft.words.isEmpty ∧ draft.redirections.isEmpty then
    unexpected nested none
  if let [word] := draft.words then
    if draft.assignments.isEmpty ∧ draft.redirections.isEmpty then
      if ← Reader.accept "(" then
        skipBlanks
        unless ← Reader.accept ")" do refuseNext nested false (signName ")")
        let some name := functionName? word | Reader.fail "Syntax error: Bad function name"
        seekCommandLine nested
        return .define name (← body)
  return .simple (draft.line.getD 0) draft.assignments.reverse draft.words.reverse
    draft.redirections.reverse

/-! ### Compound commands -/

/-- A list of commands that is not empty, unless the script ends there. -/
def someCommands (nested : Nested) : Reader (List Statement) := do
  let body ← nested.commands
  if body.isEmpty ∧ (← Reader.peek).isSome then unexpected nested none else return body

/-- What follows `if`. -/
def readChoice (nested : Nested) : Reader Compound :=
  Reader.iterate (fun branches => do
    let condition ← someCommands nested
    expectReserved nested "then"
    let branches := (condition, ← someCommands nested) :: branches
    if ← acceptReserved "elif" then return .inl branches
    let otherwise ← if ← acceptReserved "else" then someCommands nested else pure []
    expectReserved nested "fi"
    return .inr (.choose branches.reverse otherwise)) []

/-- What follows `while` or `until`. -/
def readLoop (nested : Nested) (whenTrue : Bool) : Reader Compound := do
  let condition ← someCommands nested
  expectReserved nested "do"
  let body ← someCommands nested
  expectReserved nested "done"
  return .loop whenTrue condition body

/-- Words up to the end of the line or a semicolon. -/
def listedWords (nested : Nested) : Reader (List Word) :=
  Reader.iterate (fun words => do
    seekOperand
    if ← wordIsNext then return .inl ((← readText nested .word) :: words)
    else
      match ← Reader.peek with
      | some '\n' => return .inr words.reverse
      | some ';' =>
        Reader.advance
        return .inr words.reverse
      | _ => unexpected nested none) []

/-- The name of the variable that takes one value after another. -/
def eachName (nested : Nested) : Reader Octets := do
  seekOperand
  let message := "Syntax error: Bad for loop variable"
  if ← wordIsNext then
    match ← readText nested .word with
    | [.plain name] => if Octets.isName name then return name else Reader.fail message
    | _ => Reader.fail message
  else if (← Reader.peek) = some '\n' then throw (.failed ((← get).line + 1) true message)
  else Reader.fail message

/-- What follows `for`. -/
def readEach (nested : Nested) : Reader Compound := do
  let name ← eachName nested
  seekCommandLine nested
  let words ← if ← acceptReserved "in" then some <$> listedWords nested
    else do
      let _ ← Reader.accept ";"
      pure none
  seekCommandLine nested
  expectReserved nested "do"
  let body ← someCommands nested
  expectReserved nested "done"
  return .each name words body

/-- A pattern of an arm. A sign that stands where a pattern should counts as the one before. -/
def armPattern (nested : Nested) (before : Word) : Reader Word := do
  seekOperand
  if ← wordIsNext then readText nested .word
  else
    let _ ← Reader.takeWhile Char.isDigit
    for sign in operators ++ ["\n", "<<-", "<<", "<&", "<>", "<", ">>", ">&", ">|", ">"] do
      if ← Reader.accept sign then return before
    return before

/-- The patterns of an arm, up to the parenthesis that ends them. -/
def armPatterns (nested : Nested) : Reader (List Word) :=
  Reader.iterate (fun patterns => do
    let patterns := (← armPattern nested (patterns.headD [])) :: patterns
    skipBlanks
    if (← Reader.lookingAt "|") ∧ ¬ (← Reader.lookingAt "||") then
      Reader.advance
      return .inl patterns
    unless ← Reader.accept ")" do refuseNext nested false (signName ")")
    return .inr patterns.reverse) []

/-- What follows `case`. -/
def readSelection (nested : Nested) : Reader Compound := do
  seekOperand
  unless ← wordIsNext do unexpected nested wordName
  let word ← readText nested .word
  seekCommandLine nested
  expectReserved nested "in"
  Reader.iterate (fun arms => do
    seekWord (skipLines nested) false true
    if ← acceptReserved "esac" then return .inr (.select word arms.reverse)
    let _ ← Reader.accept "("
    let patterns ← armPatterns nested
    let body ← nested.commands
    let arms := (patterns, body) :: arms
    if ← Reader.accept ";;" then return .inl arms
    unless ← acceptReserved "esac" do unexpected nested (signName ";;")
    return .inr (.select word arms.reverse)) []

/-- A compound command if one is next. -/
def compound? (nested : Nested) : Reader (Option Compound) := do
  if ← Reader.accept "(" then
    let body ← someCommands nested
    unless ← Reader.accept ")" do unexpected nested (signName ")")
    return some (.subshell body)
  if ← acceptReserved "\x7b" then
    let body ← someCommands nested
    expectReserved nested "\x7d"
    return some (.group body)
  if ← acceptReserved "if" then return some (← readChoice nested)
  if ← acceptReserved "while" then return some (← readLoop nested true)
  if ← acceptReserved "until" then return some (← readLoop nested false)
  if ← acceptReserved "for" then return some (← readEach nested)
  if ← acceptReserved "case" then return some (← readSelection nested)
  return none

/-- A command. The depth bounds how many definitions of functions can follow one another. -/
def readCommand (nested : Nested) : (depth : Nat) → Reader Command
  | 0 => Reader.fail "Syntax error: nested too deeply"
  | depth + 1 => do
    skipBlanks
    let line := (← get).line
    match ← compound? nested with
    | some body => return .compound line body (← redirections nested)
    | none =>
      if ← (listEnds <||> reservedIsNext "in" <||> reservedIsNext "!") then unexpected nested none
      readSimple nested (fun cursor => readCommand nested depth cursor)

/-! ### Pipelines and lists -/

/-- How many definitions of functions can follow one another. -/
def definitionLimit : Nat := 1000000

/-- A pipeline. -/
def readPipeline (nested : Nested) : Reader Pipeline := do
  skipBlanks
  let negated ← acceptReserved "!"
  if negated then seekCommand
  Reader.iterate (fun commands => do
    let commands := (← readCommand nested definitionLimit) :: commands
    skipBlanks
    if (← Reader.lookingAt "|") ∧ ¬ (← Reader.lookingAt "||") then
      Reader.advance
      seekCommandLine nested
      return .inl commands
    else return .inr (.mk negated commands.reverse)) []

/-- Pipelines joined by `&&` and `||`. -/
def readStatement (nested : Nested) : Reader Statement := do
  let first ← readPipeline nested
  let rest ← Reader.iterate (fun rest => do
    skipBlanks
    for (operator, wanted) in [("&&", true), ("||", false)] do
      if ← Reader.accept operator then
        seekCommandLine nested
        return .inl ((wanted, ← readPipeline nested) :: rest)
    return .inr rest.reverse) []
  let background ← Reader.accept "&"
  return .mk first rest background

/-- Commands up to a word or a sign that ends them. -/
def readCommands (nested : Nested) : Reader (List Statement) :=
  Reader.iterate (fun statements => do
    seekCommandLine nested
    if ← listEnds then return .inr statements.reverse
    let statement@(.mk _ _ background) ← readStatement nested
    let statements := statement :: statements
    skipBlanks
    if background then return .inl statements
    if ← Reader.lookingAt ";;" then return .inr statements.reverse
    if ← Reader.accept ";" then return .inl statements
    if (← Reader.peek) = some '\n' then return .inl statements
    return .inr statements.reverse) []

/-- How deeply commands and words can be nested. -/
def nestingLimit : Nat := 1000000

/-- The readers for what is nested so deeply. -/
def nestedAt : (depth : Nat) → Nested
  | 0 => ⟨Reader.fail "Syntax error: nested too deeply", fun _ =>
      Reader.fail "Syntax error: nested too deeply"⟩
  | depth + 1 =>
    { commands := fun cursor => readCommands (nestedAt depth) cursor
      text := fun setting cursor => readText (nestedAt depth) setting cursor }

/-- The commands of a line, up to its newline or the end of the script. -/
def readLine : Reader (List Statement) :=
  let nested := nestedAt nestingLimit
  Reader.resolved (Reader.iterate (fun statements => do
    seekCommand
    match ← Reader.peek with
    | none => return .inr statements.reverse
    | some '\n' =>
      passLine nested
      return .inr statements.reverse
    | some _ =>
      let statement@(.mk _ _ background) ← readStatement nested
      let statements := statement :: statements
      skipBlanks
      let parted ← if background then pure true
        else if ← Reader.lookingAt ";;" then pure false
        else Reader.accept ";"
      if parted then return .inl statements
      match ← Reader.peek with
      | none => return .inr statements.reverse
      | some '\n' => return .inl statements
      | some _ => unexpected nested none) [])

end ShellSmoke.Shell
