/-
This file takes the sequences that steer a terminal out of a text, together with the control
characters that are no blanks. What a byte means depends on the sequence that it stands in; the text
between the sequences comes in runs, and a run goes on as long as its bytes can be seen.
-/

import ShellSmoke.Bytes

namespace ShellSmoke.Terminal

/-! ### Sequences -/

/-- The sequence that a terminal is in the middle of. -/
inductive Mode where
  /-- None: bytes are text. -/
  | ground
  /-- An escape has been read. -/
  | escape
  /-- An escape that takes one byte more. -/
  | escapeIntermediate
  /-- A control sequence, up to its letter. -/
  | control
  /-- A device control string, before its parameters. -/
  | deviceEntry
  /-- A device control string, among its parameters. -/
  | deviceParameter
  /-- A device control string, before its letter. -/
  | deviceIntermediate
  /-- A string for a device or an application, up to its end. -/
  | deviceBody
  /-- A command for the operating system, up to a bell. -/
  | command
deriving DecidableEq, Repr, Inhabited

/-- Whether a byte lies between two others. -/
def between (low high byte : UInt8) : Bool := low ≤ byte && byte ≤ high

/-- The mode after an escape and one byte more. -/
def afterEscape (byte : UInt8) : Mode :=
  if between 0x20 0x2f byte then .escapeIntermediate
  else if byte = '['.toUInt8 then .control
  else if byte = ']'.toUInt8 then .command
  else if byte = 'P'.toUInt8 then .deviceEntry
  else if byte = 'X'.toUInt8 ∨ byte = '^'.toUInt8 ∨ byte = '_'.toUInt8 then .deviceBody
  else if between 0x30 0x7e byte then .ground
  else .escape

/-- The mode after a byte. An escape begins a sequence wherever it stands, and two control
characters give up every sequence. -/
def Mode.next (mode : Mode) (byte : UInt8) : Mode :=
  if byte = 0x1b then .escape
  else if byte = 0x18 ∨ byte = 0x1a then .ground
  else
    match mode with
    | .ground => .ground
    | .escape => afterEscape byte
    | .escapeIntermediate => if between 0x30 0x7e byte then .ground else mode
    | .control => if between 0x40 0x7e byte then .ground else mode
    | .deviceEntry =>
      if between 0x20 0x2f byte then .deviceIntermediate
      else if between 0x30 0x3f byte then .deviceParameter
      else if between 0x40 0x7e byte then .deviceBody
      else mode
    | .deviceParameter =>
      if between 0x20 0x2f byte then .deviceIntermediate
      else if between 0x3c 0x7e byte then .deviceBody
      else mode
    | .deviceIntermediate => if between 0x30 0x7e byte then .deviceBody else mode
    | .deviceBody => if byte = 0x9c then .ground else mode
    | .command => if byte = 0x07 then .ground else mode

/-! ### What can be seen -/

/-- Whether a byte begins a character of several bytes. -/
def beginsCharacter (byte : UInt8) : Bool := between 0xc2 0xf4 byte

/-- Whether a byte goes on with a character of several bytes. -/
def continuesCharacter (byte : UInt8) : Bool := between 0x80 0xbf byte

/-- Whether a byte is a blank that moves the cursor. -/
def isBlankControl (byte : UInt8) : Bool :=
  byte = 0x09 || byte = 0x0a || byte = 0x0c || byte = 0x0d

/-- Whether a byte can be seen in a mode. Characters are seen between the sequences only; a blank
acts in the middle of some sequences too. -/
def Mode.shows (mode : Mode) (byte : UInt8) : Bool :=
  match mode with
  | .ground => between 0x20 0x7e byte || beginsCharacter byte || isBlankControl byte
  | .escape | .escapeIntermediate | .control => isBlankControl byte
  | _ => false

/-- Whether a byte goes on with a run of text. -/
def extendsRun (byte : UInt8) : Bool := Mode.shows .ground byte || continuesCharacter byte

/-! ### Texts -/

/-- A reader of terminal sequences: its mode, and whether it is in a run of text. -/
structure Reader where
  mode : Mode := .ground
  inRun : Bool := false
deriving DecidableEq, Repr, Inhabited

/-- Reads a byte outside of the runs; the mode after a byte that begins a run is given. -/
def Reader.seek (reader : Reader) (atRun : Mode → UInt8 → Mode) (byte : UInt8) : Reader × Bool :=
  if reader.mode.shows byte then (⟨atRun reader.mode byte, true⟩, true)
  else (⟨reader.mode.next byte, false⟩, false)

/-- The mode in a stream after a byte that is seen: characters of several bytes end a sequence, a
blank leaves it to go on after the run. -/
def afterShown (mode : Mode) (byte : UInt8) : Mode :=
  if beginsCharacter byte then .ground else mode

/-- Reads a byte of a stream, and tells whether it stays. A sequence that a blank breaks into goes
on after the run. -/
def Reader.readStream (reader : Reader) (byte : UInt8) : Reader × Bool :=
  if reader.inRun && extendsRun byte then (⟨afterShown reader.mode byte, true⟩, true)
  else reader.seek afterShown byte

/-- The bytes that stay when a reader goes over them. -/
def kept (read : Reader → UInt8 → Reader × Bool) (bytes : Bytes) : Bytes :=
  (bytes.foldl
    (fun (reader, kept) byte =>
      let (reader, stays) := read reader byte
      (reader, if stays then byte :: kept else kept))
    (({} : Reader), ([] : Bytes))).2.reverse

/-- A text without the sequences that steer a terminal, as it leaves a stream that takes them out on
the way. -/
def stripStream (bytes : Bytes) : Bytes := kept Reader.readStream bytes

end ShellSmoke.Terminal
