/-
This file holds the tool that copies files to its output, with numbers or with signs that make
characters visible, if that is wanted.
-/

import ShellSmoke.Tools.Basic

namespace ShellSmoke.Tools

open Machine

/-! ### Manners of copying -/

/-- Which lines get a number. -/
inductive Numbering where
  | none
  | all
  /-- Those that are not empty. -/
  | filled
deriving DecidableEq, Repr, Inhabited

/-- How a text is copied. -/
structure CopyStyle where
  numbering : Numbering
  /-- Whether of several empty lines only the first is kept. -/
  squeezing : Bool
  /-- Whether characters are shown that cannot be printed. -/
  showing : Bool
  showingTabs : Bool
  showingEnds : Bool
deriving DecidableEq, Repr, Inhabited

namespace CopyStyle

/-- A text is copied as it is. -/
def plain : CopyStyle := ⟨.none, false, false, false, false⟩

/-- The signs that show a byte. -/
def signs (style : CopyStyle) (byte : UInt8) : Bytes :=
  let caret (byte : UInt8) : Bytes := if byte = 127 then [94, 63] else [94, byte + 64]
  let low (byte : UInt8) : Bytes := if 32 ≤ byte ∧ byte < 127 then [byte] else caret byte
  if byte = 9 then if style.showingTabs then caret byte else [byte]
  else if ¬ style.showing then [byte]
  else if byte < 128 then low byte
  else [77, 45] ++ low (byte - 128)

/-- A number in front of a line. -/
def label (number : Nat) : Bytes :=
  let digits := toString number
  Bytes.ofString ("".pushn ' ' (6 - digits.length) ++ digits ++ "\t")

end CopyStyle

/-! ### Copying with signs -/

/-- What is known of the text before a place. -/
structure CopyPlace where
  /-- How many newlines were read since the last other byte, and none before the first line. There
  are no more than two that count. -/
  newlines : Option Nat
  /-- The number of the last line that got one. -/
  number : Nat
  /-- Whether a carriage return is kept until it is known what follows. -/
  returned : Bool
deriving DecidableEq, Repr, Inhabited

namespace CopyPlace

/-- The place before the first line. -/
def start : CopyPlace := ⟨some 0, 0, false⟩

/-- The number of a line, if it gets one, and the place after it. -/
def numbered (place : CopyPlace) (wanted : Bool) : Bytes × CopyPlace :=
  if wanted then (CopyStyle.label (place.number + 1), { place with number := place.number + 1 })
  else ([], place)

/-- What is written for a newline. -/
def endLine (style : CopyStyle) (place : CopyPlace) : Bytes × CopyPlace :=
  let newlines := match place.newlines with
    | none => 0
    | some count => min 2 (count + 1)
  if newlines = 2 ∧ style.squeezing then ([], { place with newlines := some 2 })
  else
    let (label, place) := place.numbered (0 < newlines && style.numbering = .all)
    let carriage := if place.returned then [94, 77] else []
    let sign := if style.showingEnds then carriage ++ [36] else []
    (label ++ sign ++ [10], { place with newlines := some newlines, returned := false })

/-- What is written for a byte. -/
def step (style : CopyStyle) (place : CopyPlace) (byte : UInt8) : Bytes × CopyPlace :=
  if byte = 10 then place.endLine style
  else
    let carriage := if place.returned then [13] else []
    let starts := place.newlines.isSome && style.numbering ≠ .none
    let (label, place) := { place with returned := false }.numbered starts
    let place := { place with newlines := none }
    if byte = 13 ∧ style.showingEnds ∧ ¬ style.showing then
      (carriage ++ label, { place with returned := true })
    else (carriage ++ label ++ style.signs byte, place)

/-- What is written for a text. -/
def steps (style : CopyStyle) (place : CopyPlace) (text : Bytes) : Bytes × CopyPlace :=
  let (pieces, place) := text.foldl
    (fun (pieces, place) byte =>
      let (piece, place) := step style place byte
      (piece :: pieces, place))
    ((([] : List Bytes)), place)
  (pieces.reverse.flatten, place)

end CopyPlace

/-! ### Files -/

/-- Whether a descriptor stands for the file that standard output goes to, before what is written
next, so that a copy would never end. -/
def readsOwnOutput (descriptor : Nat) : Routine Bool := do
  match ← Routine.describe descriptor, ← Routine.describe 1 with
  | .ok input, .ok output =>
    return input.kind = .regular ∧ input.identity = output.identity ∧
      input.position < output.position
  | _, _ => return false

/-- Copies a descriptor to standard output, in a style. -/
def copyInStyle (style : CopyStyle) (descriptor lifetime : Nat) (place : CopyPlace) :
    Routine (Except CopyFault CopyPlace) :=
  if style = .plain then return (← copy descriptor lifetime).map fun () => place
  else copyThrough (CopyPlace.steps style) descriptor lifetime place

/-- Copies files to standard output, one after another; the value tells whether all went well. A
carriage return that was kept comes last. -/
def copyFiles (launch : Launch) (style : CopyStyle) (place : CopyPlace) :
    List Bytes → Routine Bool
  | [] => do
    if place.returned then
      if let .error errno ← Routine.writeAll 1 launch.lifetime [13] then
        complainOfWriting launch errno
        Routine.exit 1
    return true
  | word :: rest => do
    let skip (message : Bytes) : Routine Bool := do
      complain launch message
      let _ ← copyFiles launch style place rest
      return false
    match ← openInput word with
    | .error errno => skip (complaint word errno)
    | .ok descriptor =>
      if ← readsOwnOutput descriptor then
        closeInput word descriptor
        skip (quotedIfNeeded word ++ Bytes.ofString ": input file is output file")
      else
        let result ← copyInStyle style descriptor launch.lifetime place
        closeInput word descriptor
        match result with
        | .ok place => copyFiles launch style place rest
        | .error (.reading errno) => skip (complaint word errno)
        | .error (.writing errno) =>
          complainOfWriting launch errno
          Routine.exit 1

/-! ### Options -/

/-- What the options of the tool change in its style. -/
def CopyStyle.apply (style : CopyStyle) (key : String) (_ : Option Bytes) :
    Except Objection CopyStyle :=
  .ok (match key with
    | "A" => { style with showing := true, showingTabs := true, showingEnds := true }
    | "b" => { style with numbering := .filled }
    | "e" => { style with showing := true, showingEnds := true }
    | "E" => { style with showingEnds := true }
    | "n" => { style with numbering := if style.numbering = .filled then .filled else .all }
    | "s" => { style with squeezing := true }
    | "t" => { style with showing := true, showingTabs := true }
    | "T" => { style with showingTabs := true }
    | "v" => { style with showing := true }
    | _ => style)

/-- The options of the tool. -/
def copyOptions : OptionReader CopyStyle where
  table := {
    letters := plainLetters "benstuvAET"
    names := [⟨"number-nonblank", .alone, "b"⟩, ⟨"number", .alone, "n"⟩,
      ⟨"squeeze-blank", .alone, "s"⟩, ⟨"show-nonprinting", .alone, "v"⟩,
      ⟨"show-ends", .alone, "E"⟩, ⟨"show-tabs", .alone, "T"⟩, ⟨"show-all", .alone, "A"⟩] ++
      commonNames }
  initial := .plain
  apply := CopyStyle.apply

/-- Copies the files named, or standard input, to standard output. -/
def cat : Tool :=
  toolWithOptions "cat" 1 copyOptions fun launch style operands => do
    if let .error errno ← Routine.describe 1 then
      complain launch (Bytes.ofString ("standard output: " ++ errno.text))
      return 1
    let words := if operands.isEmpty then [Bytes.ofString "-"] else operands
    let well ← copyFiles launch style .start words
    if words.contains (Bytes.ofString "-") then
      match ← Routine.close 0 with
      | .ok () => return if well then 0 else 1
      | .error errno =>
        complain launch (Bytes.ofString ("closing standard input: " ++ errno.text))
        return 1
    else return if well then 0 else 1

end ShellSmoke.Tools
