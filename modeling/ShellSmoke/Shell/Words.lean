/-
This file reads the words of a script: quotes, backslashes, and what begins with a dollar sign.
Words hold commands and commands hold words, so each reader is given the readers for one level
deeper.
-/

import ShellSmoke.Shell.Command
import ShellSmoke.Shell.Cursor

namespace ShellSmoke.Shell

/-- What surrounds the text of a word. -/
structure Setting where
  /-- Whether the text stands between double quotes, where few characters are special. -/
  quoting : Bool
  /-- Whether double quotes open a quotation. -/
  quotable : Bool
  /-- Whether a backslash before a double quote goes away. -/
  escapable : Bool
  /-- Whether dollar signs and backquotes begin substitutions. -/
  substituting : Bool
  /-- Whether the text is part of a document. -/
  documented : Bool := false
  /-- What is wrong if the script ends within the text; nothing if the text can end there. -/
  unended : Option String
  /-- The characters before which the text ends. -/
  stops : Char → Bool
  /-- Whether the text ends after two closing parentheses that stand together, when all that were
  opened in it are closed. -/
  counting : Bool := false

/-- The readers for what is nested in a word or a command. -/
structure Nested where
  commands : Reader (List Statement)
  text : Setting → Reader (List Fragment)

/-! ### Characters -/

/-- Whether a character ends a word that is not quoted. -/
def isMeta (char : Char) : Bool :=
  [' ', '\t', '\n', ';', '&', '|', '<', '>', '(', ')'].contains char

/-- Whether a character is a parameter by itself. -/
def isSpecialParameter (char : Char) : Bool :=
  ['@', '*', '#', '?', '-', '$', '!'].contains char || char.isDigit

namespace Setting

/-- A word of a command. -/
def word : Setting where
  quoting := false
  quotable := true
  escapable := true
  substituting := true
  unended := none
  stops := isMeta

/-- A word that ends a text later on: it stands for itself. -/
def ending : Setting := { word with substituting := false }

/-- What is wrong if the script ends before a brace that is missing. -/
def openBrace : String := "Missing '\x7d'"

/-- What is wrong if the script ends within a quotation; in a document, that is part of something in
braces. -/
def unclosed (setting : Setting) : String :=
  if setting.documented then openBrace else "Unterminated quoted string"

/-- A text between double quotes, which stand in another text. -/
def quotes (outer : Setting) : Setting where
  quoting := true
  quotable := true
  escapable := true
  substituting := outer.substituting
  documented := outer.documented
  unended := some outer.unclosed
  stops := (· = '\x22')

/-- A word within braces. Between double quotes, it is the quotation that does not end, and it is
the same in an expression. -/
def braces (outer : Setting) (quoting : Bool) : Setting where
  quoting
  quotable := true
  escapable := ! quoting || outer.escapable
  substituting := true
  documented := outer.documented
  unended := some (
    if ¬ quoting then openBrace
    else if outer.counting then outer.unclosed
    else outer.unended.getD openBrace)
  stops := (· = '\x7d')

/-- A text in which only dollar signs, backquotes and backslashes are special. -/
def document : Setting where
  quoting := true
  quotable := false
  escapable := false
  substituting := true
  documented := true
  unended := none
  stops := fun _ => false

/-- An arithmetic expression in another text. -/
def expression (outer : Setting) : Setting :=
  { document with
    escapable := outer.escapable
    documented := outer.documented
    unended := some "Missing '))'"
    counting := true }

end Setting

/-! ### What is unexpected -/

/-- The words that begin, join and end compound commands. -/
def reservedWords : List String :=
  ["!", "\x7b", "\x7d", "case", "do", "done", "elif", "else", "esac", "fi", "for", "if", "in",
    "then", "until", "while"]

/-- The operators of the shell, longer ones before those that they begin with. -/
def operators : List String := ["&&", "||", ";;", ";", "&", "|", "(", ")"]

/-- The characters of the next word as they stand; none if no word is next, or none that could be
reserved. -/
def nextWord : Reader Octets := do
  let cursor ← get
  if let some count := cursor.spared then
    if count = cursor.rest.length then return []
  Reader.ahead (Reader.takeWhile fun char => ! isMeta char)

/-- How a message calls a sign or a reserved word. -/
def signName (sign : String) : String := "\"" ++ sign ++ "\""

/-- How a message calls a word that is not reserved. -/
def wordName : String := "word"

/-- Whether a redirection is next. A digit alone in front of its sign belongs to it. -/
def redirectionIsNext : Reader Bool := Reader.ahead do
  let digits ← Reader.takeWhile Char.isDigit
  let sign ← Reader.peek
  return digits.length ≤ 1 && (sign = some '<' || sign = some '>')

/-- Goes past an operator, or past what could be one that is longer. -/
def acceptOperator (operator : String) : Reader Bool := do
  let found ← Reader.accept operator
  if found ∧ [";", "&", "|"].contains operator then
    let _ ← Reader.peek
  return found

/-- How a message calls what is next, where words can be reserved or not. An operator or a word is
read for that as a whole. -/
def nextName (nested : Nested) (reserving : Bool) : Reader String := do
  match ← Reader.peek with
  | none => return "end of file"
  | some '\n' => return "newline"
  | some _ =>
    if ← redirectionIsNext then return "redirection"
    for operator in operators do
      if ← acceptOperator operator then return signName operator
    let word := String.ofList (← nextWord)
    let _ ← nested.text .word
    return if reserving ∧ reservedWords.contains word then signName word else wordName

/-- Gives up because of what is next. A newline counts before it is found to be out of place. -/
def refuseNext {α : Type} (nested : Nested) (reserving : Bool) (wanted : Option String) :
    Reader α := do
  let atNewline := (← Reader.peek) = some '\n'
  let found ← nextName nested reserving
  let line := (← get).line + if atNewline then 1 else 0
  let more := match wanted with
    | some wanted => " (expecting " ++ wanted ++ ")"
    | none => ""
  throw (.failed line atNewline ("Syntax error: " ++ found ++ " unexpected" ++ more))

/-- Gives up because of what is next, where words can be reserved. -/
def unexpected {α : Type} (nested : Nested) (wanted : Option String) : Reader α :=
  refuseNext nested true wanted

/-! ### Quotations -/

/-- The rest of a text between single quotes, of which the first was read. -/
def singleQuotes (setting : Setting) : Reader Octets :=
  Reader.iterate (fun taken => do
    match ← Reader.peekPlain with
    | none => Reader.fail ("Syntax error: " ++ setting.unclosed)
    | some '\x27' =>
      Reader.advance
      return .inr taken.reverse
    | some char =>
      Reader.advance
      return .inl (char :: taken)) []

/-- What a backslash, which was read, makes of the next character. -/
def escaped (setting : Setting) : Reader Fragment := do
  match ← Reader.peekRaw with
  | none => return .quoted ['\\']
  | some char =>
    let special := ['$', '\x60', '\\'].contains char ∨ (setting.escapable ∧ char = '\x22') ∨
      (setting.stops '\x7d' ∧ char = '\x7d')
    if char = '\n' then
      Reader.drop
      return .quoted ['\\', '\n']
    Reader.advance
    return .quoted (if setting.quoting ∧ ¬ special then ['\\', char] else [char])

/-! ### Substitutions -/

/-- The text between backquotes, of which the first was read. -/
def backquotes (quoting : Bool) : Reader Octets :=
  Reader.iterate (fun taken => do
    match ← Reader.peekRaw with
    | none => Reader.fail "Syntax error: EOF in backquote substitution"
    | some '\x60' =>
      Reader.advance
      return .inr taken.reverse
    | some '\\' =>
      Reader.advance
      match ← Reader.peekRaw with
      | none => return .inl ('\\' :: taken)
      | some char =>
        if ['$', '\x60', '\\'].contains char ∨ (quoting ∧ char = '\x22') then
          Reader.advance
          return .inl (char :: taken)
        else return .inl ('\\' :: taken)
    | some char =>
      Reader.advance
      return .inl (char :: taken)) []

/-- The name of a variable, or the number of an argument, if they are next. -/
def plainName? : Reader (Option Octets) := do
  match ← Reader.peek with
  | some char =>
    if char.isDigit then return some (← Reader.takeWhile Char.isDigit)
    if Octets.beginsName char then return some (← Reader.takeWhile Octets.inName)
    return none
  | none => return none

/-- The name of a parameter within braces; nothing if the next character begins none, and then it
is gone past, unless it is the brace that ends the substitution. -/
def parameterName? : Reader (Option Octets) := do
  if let some name ← plainName? then return some name
  match ← Reader.peek with
  | some '\x7d' => return none
  | some char =>
    Reader.drop
    return if isSpecialParameter char then some [char] else none
  | none => return none

/-- The name after the sign that asks for a length, if a length is asked for; the sign alone is a
parameter. -/
def measuredName? : Reader (Option Octets) := do
  let cursor ← get
  if ← Reader.accept "#" then
    if let some name ← plainName? then return some name
    match ← Reader.peek with
    | some '\x7d' => pure ()
    | some char =>
      Reader.drop
      if (← Reader.peek) = some '\x7d' then return some [char]
    | none => pure ()
  set cursor
  return none

/-- Whether a name is that of a parameter. -/
def isParameter : Octets → Bool
  | [char] => isSpecialParameter char || Octets.beginsName char
  | _ => true

/-- The substitutions within braces that begin with a character after the name. -/
def fallback? : Char → Option Fallback
  | '-' => some .use
  | '=' => some .assign
  | '?' => some .complain
  | '+' => some .replace
  | _ => none

/-- The rest of a substitution, up to the brace that ends it. -/
def untilBrace (nested : Nested) (setting : Setting) (quoting : Bool) : Reader Word := do
  let word ← nested.text (.braces setting quoting)
  Reader.advance
  return word

/-- The rest of a substitution that makes no sense. -/
def senseless (nested : Nested) (setting : Setting) : Reader Fragment := do
  let _ ← untilBrace nested setting setting.quoting
  return .senseless

/-- What follows a dollar sign and a brace. -/
def braced (nested : Nested) (setting : Setting) : Reader Fragment := do
  if let some name ← measuredName? then
    if isParameter name then
      if ← Reader.accept "\x7d" then return .measured name
    return ← senseless nested setting
  let some name ← parameterName? | senseless nested setting
  if ← Reader.accept "\x7d" then return .parameter name
  for (mark, edge) in [("%", Edge.back), ("#", Edge.front)] do
    if ← Reader.accept mark then
      let longest ← Reader.accept mark
      return .trimmed name edge longest (← untilBrace nested setting false)
  let orEmpty ← Reader.accept ":"
  let fallback := (← Reader.peek).bind fallback?
  Reader.drop
  match fallback with
  | some fallback =>
    return .defaulted name fallback orEmpty (← untilBrace nested setting setting.quoting)
  | none => senseless nested setting

/-- What follows a dollar sign. -/
def dollar (nested : Nested) (setting : Setting) : Reader Fragment := do
  if ← Reader.accept "((" then
    return .arithmetic (← nested.text setting.expression)
  if ← Reader.accept "(" then
    let body ← Reader.outside do
      let body ← nested.commands
      unless ← Reader.accept ")" do unexpected nested (signName ")")
      return body
    return .commands body
  if ← Reader.accept "\x7b" then return ← braced nested setting
  match ← Reader.peek with
  | some char =>
    if isSpecialParameter char then
      Reader.advance
      return .parameter [char]
    else if Octets.beginsName char then return .parameter (← Reader.takeWhile Octets.inName)
    else return .plain ['$']
  | none => return .plain ['$']

/-! ### Words -/

/-- The fragments read so far, latest first, and before them the plain characters, latest first. -/
structure Draft where
  fragments : List Fragment
  run : Octets
  /-- How many parentheses are open, where they are counted. -/
  depth : Nat := 0

/-- Ends a run of plain characters. -/
def Draft.flush (draft : Draft) : List Fragment :=
  if draft.run.isEmpty then draft.fragments else .plain draft.run.reverse :: draft.fragments

/-- Adds a fragment. A plain one goes on with the run. -/
def Draft.add (draft : Draft) : Fragment → Draft
  | .plain text => { draft with run := text.reverse ++ draft.run }
  | fragment => { draft with fragments := fragment :: draft.flush, run := [] }

/-- Adds a plain character. -/
def Draft.put (draft : Draft) (char : Char) : Draft := { draft with run := char :: draft.run }

/-- Goes on after a parenthesis where these are counted. -/
def Draft.count (draft : Draft) (char : Char) : Reader (Draft ⊕ List Fragment) := do
  let next := draft.put char
  if char = '(' then return .inl { next with depth := draft.depth + 1 }
  else if 0 < draft.depth then return .inl { next with depth := draft.depth - 1 }
  else if ← Reader.accept ")" then return .inr draft.flush.reverse
  else return .inl next

/-- Reads one more part of a text, or finds its end. -/
def textStep (nested : Nested) (setting : Setting) (draft : Draft) :
    Reader (Draft ⊕ List Fragment) := do
  match ← Reader.peek with
  | none =>
    match setting.unended with
    | none => return .inr draft.flush.reverse
    | some fault => Reader.fail ("Syntax error: " ++ fault)
  | some char =>
    if setting.stops char then return .inr draft.flush.reverse
    Reader.advance
    if char = '\\' then return .inl (draft.add (← escaped setting))
    else if char = '$' ∧ setting.substituting then
      return .inl (draft.add (← dollar nested setting))
    else if char = '\x60' then
      unless setting.substituting do return .inl (draft.put char)
      let body ← Reader.within (← backquotes setting.quoting) 1 nested.commands
      return .inl (draft.add (.commands body))
    else if char = '\x27' ∧ ¬ setting.quoting then
      return .inl (draft.add (.grouped [.plain (← singleQuotes setting)]))
    else if char = '\x22' ∧ setting.quotable then
      let inner ← nested.text setting.quotes
      unless ← Reader.accept "\"" do Reader.fail ("Syntax error: " ++ setting.unclosed)
      return .inl (draft.add (.grouped inner))
    else if setting.counting ∧ (char = '(' ∨ char = ')') then draft.count char
    else return .inl (draft.put char)

/-- A text in a setting. -/
def readText (nested : Nested) (setting : Setting) : Reader (List Fragment) :=
  Reader.iterate (textStep nested setting) { fragments := [], run := [] }

end ShellSmoke.Shell
