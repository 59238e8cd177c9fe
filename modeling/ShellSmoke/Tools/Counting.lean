/-
This file holds the tool that counts lines, words, characters and bytes of files, and the width of
their lines.
-/

import ShellSmoke.Tools.Basic

namespace ShellSmoke.Tools

open Machine

/-! ### Counts -/

/-- What a file has. -/
structure Counts where
  lines : Nat
  words : Nat
  bytes : Nat
  /-- The width of the widest line. -/
  width : Nat
deriving DecidableEq, Repr, Inhabited

/-- What is counted. -/
inductive Measure where
  | lines
  | words
  | chars
  | bytes
  | width
deriving DecidableEq, Repr, Inhabited

namespace Counts

/-- Nothing at all. -/
def zero : Counts := ⟨0, 0, 0, 0⟩

/-- What two files have together. -/
def add (counts other : Counts) : Counts :=
  ⟨counts.lines + other.lines, counts.words + other.words, counts.bytes + other.bytes,
    max counts.width other.width⟩

/-- One of the counts. Every character is a byte. -/
def get (counts : Counts) : Measure → Nat
  | .lines => counts.lines
  | .words => counts.words
  | .chars | .bytes => counts.bytes
  | .width => counts.width

end Counts

/-- What is known of a text before a place: what was counted, whether the place is in a word, and
the column. -/
structure CountPlace where
  counts : Counts
  inWord : Bool
  column : Nat
deriving DecidableEq, Repr, Inhabited

namespace CountPlace

/-- The place at the front. -/
def start : CountPlace := ⟨.zero, false, 0⟩

/-- The place after a byte that sets words apart. -/
def separate (place : CountPlace) : CountPlace :=
  if place.inWord then
    { place with counts := { place.counts with words := place.counts.words + 1 }, inWord := false }
  else place

/-- The place after the end of a line. -/
def endLine (place : CountPlace) : CountPlace :=
  { place with
    counts := { place.counts with width := max place.counts.width place.column }
    column := 0 }

/-- The place after a byte. What cannot be printed takes no room; it neither begins nor ends a
word. -/
def step (place : CountPlace) (byte : UInt8) : CountPlace :=
  let place := { place with counts := { place.counts with bytes := place.counts.bytes + 1 } }
  if byte = 10 then
    let place := place.endLine.separate
    { place with counts := { place.counts with lines := place.counts.lines + 1 } }
  else if byte = 13 ∨ byte = 12 then place.endLine.separate
  else if byte = 9 then { place with column := place.column + (8 - place.column % 8) }.separate
  else if byte = 32 then { place with column := place.column + 1 }.separate
  else if byte = 11 then place.separate
  else if isPrintable byte then { place with column := place.column + 1, inWord := true }
  else place

/-- What was counted up to a place at the end. -/
def finish (place : CountPlace) : Counts := place.endLine.separate.counts

end CountPlace

/-- Counts what a descriptor has. The value holds what went wrong, if anything. -/
def countDescriptor (descriptor : Nat) :
    (lifetime : Nat) → CountPlace → Routine (Counts × Option Errno)
  | 0, place => pure (place.finish, none)
  | lifetime + 1, place => do
    match ← Routine.read descriptor chunkSize with
    | .error errno => pure (place.finish, some errno)
    | .ok [] => pure (place.finish, none)
    | .ok chunk => countDescriptor descriptor lifetime (chunk.foldl CountPlace.step place)

/-! ### Settings -/

/-- When the counts of all files together are shown. -/
inductive TotalMode where
  /-- If there is more than one file. -/
  | auto
  | always
  /-- Nothing else is shown then. -/
  | only
  | never
deriving DecidableEq, Repr, Inhabited

/-- What is counted and shown. -/
structure CountSetting where
  measures : List Measure
  total : TotalMode
  /-- The file that names the files. -/
  names : Option Bytes
deriving DecidableEq, Repr, Inhabited

namespace CountSetting

/-- The measures that are shown, in order: those that were asked for, or else three. -/
def shown (setting : CountSetting) : List Measure :=
  let asked : List Measure :=
    [.lines, .words, .chars, .bytes, .width].filter setting.measures.contains
  if asked.isEmpty then [.lines, .words, .bytes] else asked

/-- The words for the modes. -/
def totalModes : Choices TotalMode :=
  ⟨[("auto", .auto), ("always", .always), ("only", .only), ("never", .never)]⟩

/-- What an option changes. -/
def apply (setting : CountSetting) (key : String) (value : Option Bytes) :
    Except Objection CountSetting :=
  let also (measure : Measure) : Except Objection CountSetting :=
    .ok { setting with measures := measure :: setting.measures }
  match key with
  | "c" => also .bytes
  | "m" => also .chars
  | "l" => also .lines
  | "w" => also .words
  | "L" => also .width
  | "names" => .ok { setting with names := value }
  | "total" =>
    match totalModes.read "--total" (value.getD []) with
    | .ok total => .ok { setting with total }
    | .error message => .error (.choice message)
  | _ => .ok setting

/-- The options of the tool. -/
def options : OptionReader CountSetting where
  table := {
    letters := plainLetters "clLmw"
    names := [⟨"bytes", .alone, "c"⟩, ⟨"chars", .alone, "m"⟩, ⟨"lines", .alone, "l"⟩,
      ⟨"words", .alone, "w"⟩, ⟨"debug", .alone, "debug"⟩, ⟨"files0-from", .valued, "names"⟩,
      ⟨"max-line-length", .alone, "L"⟩, ⟨"total", .valued, "total"⟩] ++ commonNames }
  initial := ⟨[], .auto, none⟩
  apply := apply

end CountSetting

/-! ### Lines -/

/-- A line of counts, each in so many columns, with the name of the file if there is one. -/
def countLine (measures : List Measure) (width : Nat) (counts : Counts) (name : Option Bytes) :
    Bytes :=
  let columns := measures.map fun measure =>
    let digits := toString (counts.get measure)
    "".pushn ' ' (width - digits.length) ++ digits
  let shownName := match name with
    | some name => 32 :: (if name.contains 10 then quotedIfNeeded name else name)
    | none => []
  Bytes.ofString (String.intercalate " " columns) ++ shownName ++ [10]

/-- What a word that names a file leads to; a word `-` stands for standard input. -/
def inputState (word : Bytes) : Routine (Except Errno FileState) :=
  if word = Bytes.ofString "-" then Routine.describe 0 else Routine.inspect word

/-- How many columns a count gets: as many as the size of all files has digits, and no less than
seven if one of them is not regular. -/
def countWidth (words : List Bytes) : Routine Nat := do
  let states := (← words.mapM inputState).filterMap Except.toOption
  let sizes := (states.filter (·.kind = .regular)).map (·.size)
  let least := if states.all (·.kind = .regular) then 1 else 7
  return max least (toString (sizes.foldl (· + ·) 0)).length

/-! ### Files -/

/-- What the files are called, and where their names come from. -/
structure CountOperands where
  words : List Bytes
  /-- The name of the file that names them, for messages. -/
  origin : Option Bytes
  /-- Whether standard input is counted because nothing is named. -/
  nameless : Bool
deriving DecidableEq, Repr, Inhabited

/-- Writes a line of counts. -/
def showCounts (launch : Launch) (line : Bytes) : Routine Unit := do
  if let .error errno ← Routine.writeAll 1 launch.lifetime line then
    let reason := if errno = .noSpace then "" else ": " ++ errno.text
    complain launch (Bytes.ofString ("write error" ++ reason))
    Routine.exit 1

/-- Why a name in a list of names is not looked at. -/
def nameFault? (operands : CountOperands) (place : Nat) (word : Bytes) : Option Bytes :=
  match operands.origin with
  | none =>
    if word.isEmpty then some (Bytes.ofString "invalid zero-length file name") else none
  | some origin =>
    if word.isEmpty then
      some (quotedIfNeeded origin ++
        Bytes.ofString (":" ++ toString place ++ ": invalid zero-length file name"))
    else if word = Bytes.ofString "-" ∧ origin = Bytes.ofString "-" then
      some (Bytes.ofString "when reading file names from stdin, no file name of '-' allowed")
    else none

/-- Counts what files have, and shows it. The value holds what they have together, and whether all
could be read. -/
def countFiles (launch : Launch) (operands : CountOperands) (line : Counts → Bytes → Bytes)
    (total : Counts) : List (Bytes × Nat) → Routine (Counts × Bool)
  | [] => pure (total, true)
  | (word, place) :: rest => do
    let skip (message : Bytes) : Routine (Counts × Bool) := do
      complain launch message
      let (total, _) ← countFiles launch operands line total rest
      return (total, false)
    if let some message := nameFault? operands (place + 1) word then return ← skip message
    match ← openInput word with
    | .error errno => skip (complaint word errno)
    | .ok descriptor =>
      let (counts, fault) ← countDescriptor descriptor launch.lifetime .start
      closeInput word descriptor
      let name := if operands.nameless then Bytes.ofString "'standard input'"
        else quotedIfNeeded word
      if let some errno := fault then
        complain launch (name ++ Bytes.ofString (": " ++ errno.text))
      showCounts launch (line counts word)
      let (total, well) ← countFiles launch operands line (total.add counts) rest
      return (total, well && fault.isNone)

/-- The names in a file, each of which is ended by a zero byte, or what is wrong with the file. -/
def readNames (launch : Launch) (origin : Bytes) : Routine (Except Bytes (List Bytes)) := do
  match ← openInput origin with
  | .error errno =>
    return .error (Bytes.ofString "cannot open " ++ quoted origin ++
      Bytes.ofString (" for reading: " ++ errno.text))
  | .ok descriptor =>
    match ← Routine.read descriptor chunkSize with
    | .error errno =>
      return .error (quotedIfNeeded origin ++ Bytes.ofString (": read error: " ++ errno.text))
    | .ok first =>
      let content := first ++ (← Routine.readAll descriptor launch.lifetime)
      closeInput origin descriptor
      let parts := Bytes.splitOn 0 content
      return .ok (if parts.getLast? = some [] then parts.dropLast else parts)

/-- Counts what files have, shows it, and what they have together. -/
def countAll (launch : Launch) (setting : CountSetting) (operands : CountOperands) (width : Nat) :
    Routine UInt8 := do
  let only := setting.total = .only
  let measures := setting.shown
  let width := if only then 1 else width
  let line (counts : Counts) (word : Bytes) : Bytes :=
    if only then []
    else countLine measures width counts (if operands.nameless then none else some word)
  let (total, well) ← countFiles launch operands line .zero operands.words.zipIdx
  let wanted := match setting.total with
    | .auto => decide (1 < operands.words.length)
    | .always | .only => true
    | .never => false
  if wanted then
    let name := if only then none else some (Bytes.ofString "total")
    showCounts launch (countLine measures width total name)
  if operands.words.contains (Bytes.ofString "-") then
    if let .error errno ← Routine.close 0 then
      complain launch (complaint (Bytes.ofString "-") errno)
      return 1
  return if well then 0 else 1

/-- Counts what the files named, or standard input, have. -/
def count : Tool :=
  toolWithOptions "wc" 1 CountSetting.options fun launch setting operands => do
    let dash := Bytes.ofString "-"
    match setting.names, operands with
    | some _, word :: _ =>
      misuse launch (Bytes.ofString "extra operand " ++ escaped word ++
        Bytes.ofString "\nfile operands cannot be combined with --files0-from")
      return 1
    | some origin, [] =>
      match ← readNames launch origin with
      | .error message =>
        complain launch message
        return 1
      | .ok words =>
        let listed ← inputState origin
        let width ← match listed with
          | .ok state =>
            if state.kind = .regular ∧ ¬ words.isEmpty then countWidth words else pure 1
          | .error _ => pure 1
        countAll launch setting ⟨words, some origin, false⟩ width
    | none, _ =>
      let nameless := operands.isEmpty
      let words := if nameless then [dash] else operands
      let single := words.length = 1 ∧ setting.shown.length = 1
      let width ← if single then pure 1 else countWidth words
      countAll launch setting ⟨words, none, nameless⟩ width

end ShellSmoke.Tools
