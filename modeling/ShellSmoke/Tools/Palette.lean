/-
This file holds the colors of listings: what sequences make a terminal show a name in the color of
its file, and how a variable changes them.
-/

import ShellSmoke.Machine.Program
import ShellSmoke.Tools.Quoting

namespace ShellSmoke.Tools

open Machine

/-! ### Palettes -/

/-- What a sequence of a palette is for. -/
inductive Hue where
  /-- What comes before the code of a color, and after it. -/
  | left
  | right
  /-- What comes after a name in color. -/
  | close
  /-- The code that ends all colors. -/
  | reset
  /-- The code for what is not a name. -/
  | ordinary
  | regular
  | directory
  | link
  | pipe
  | socket
  | block
  | character
  /-- The code for what a link leads to, and for the link, if nothing is there. -/
  | missing
  | orphan
  | program
  | door
  /-- The codes for files that are started with the rights of their owner, or of their group. -/
  | ownerRights
  | groupRights
  /-- The codes for directories where only owners take away what is there, where everybody may
  write, and for both. -/
  | sticky
  | common
  | stickyCommon
  | capable
  /-- The code for files with more than one name. -/
  | shared
  /-- What clears the rest of a line. -/
  | clear
deriving DecidableEq, Repr, Inhabited

/-- What each sequence is for, with its label. -/
def Hue.labels : List (Bytes × Hue) :=
  [("lc", left), ("rc", right), ("ec", close), ("rs", reset), ("no", ordinary), ("fi", regular),
    ("di", directory), ("ln", link), ("pi", pipe), ("so", socket), ("bd", block),
    ("cd", character), ("mi", missing), ("or", orphan), ("ex", program), ("do", door),
    ("su", ownerRights), ("sg", groupRights), ("st", sticky), ("ow", common),
    ("tw", stickyCommon), ("ca", capable), ("mh", shared), ("cl", clear)].map
    fun ((label, hue) : String × Hue) => (Bytes.ofString label, hue)

/-- The sequences that colors are made of. -/
structure Palette where
  sequences : List (Hue × Bytes)
  /-- The codes for files whose names end in some way; the first that fits counts. -/
  endings : List (Bytes × Bytes)
deriving DecidableEq, Repr, Inhabited

namespace Palette

/-- The palette that nobody has changed. -/
def usual : Palette where
  sequences := [(.left, "\x1b["), (.right, "m"), (.reset, "0"), (.directory, "01;34"),
    (.link, "01;36"), (.pipe, "33"), (.socket, "01;35"), (.block, "01;33"),
    (.character, "01;33"), (.program, "01;32"), (.door, "01;35"), (.ownerRights, "37;41"),
    (.groupRights, "30;43"), (.sticky, "37;44"), (.common, "34;42"), (.stickyCommon, "30;42"),
    (.clear, "\x1b[K")].map fun ((hue, text) : Hue × String) => (hue, Bytes.ofString text)
  endings := []

/-- The sequence for a purpose; nothing if there is none. -/
def sequence (palette : Palette) (hue : Hue) : Bytes := (palette.sequences.lookup hue).getD []

/-- Whether the code for a purpose makes a difference. -/
def isUsed (palette : Palette) (hue : Hue) : Bool :=
  ! [[], Bytes.ofString "0", Bytes.ofString "00"].contains (palette.sequence hue)

/-- The sequence that turns a code on. -/
def turnOn (palette : Palette) (code : Bytes) : Bytes :=
  palette.sequence .left ++ code ++ palette.sequence .right

/-- The sequence that ends colors. -/
def closing (palette : Palette) : Bytes :=
  (palette.sequences.lookup .close).getD (palette.turnOn (palette.sequence .reset))

/-- The sequence after the last color. The usual one is left out, as it does nothing. -/
def farewell (palette : Palette) : Bytes :=
  let isUsual (hue : Hue) : Bool := palette.sequence hue = usual.sequence hue
  if isUsual .left ∧ isUsual .right then [] else palette.turnOn []

/-- Whether links have the colors of what they lead to. -/
def followsLinks (palette : Palette) : Bool := palette.sequence .link = Bytes.ofString "target"

/-- Whether it makes a difference what links lead to. -/
def asksForTargets (palette : Palette) (long : Bool) : Bool :=
  palette.isUsed .orphan || (palette.isUsed .program && palette.followsLinks) ||
    (palette.isUsed .missing && long)

/-! ### Colors of files -/

/-- What counts for a file. -/
def hueOf (palette : Palette) (state : FileState) : Hue :=
  let isUsed (hue : Hue) (applies : Bool) : Bool := applies && palette.isUsed hue
  match state.kind with
  | .link => .link
  | .pipe => .pipe
  | .device => .character
  | .directory =>
    let (sticky, common) := (state.mode.testBit 9, state.mode.testBit 1)
    if isUsed .stickyCommon (sticky && common) then .stickyCommon
    else if isUsed .common common then .common
    else if isUsed .sticky sticky then .sticky
    else .directory
  | .regular =>
    if isUsed .ownerRights (state.mode.testBit 11) then .ownerRights
    else if isUsed .groupRights (state.mode.testBit 10) then .groupRights
    else if isUsed .program state.isExecutable then .program
    else .regular

/-- A byte in lower case. -/
def lower (byte : UInt8) : UInt8 := if 65 ≤ byte ∧ byte ≤ 90 then byte + 32 else byte

/-- Whether a name ends in some way, in upper or lower case. -/
def endsIn (name ending : Bytes) : Bool :=
  ending.length ≤ name.length &&
    (name.drop (name.length - ending.length)).map lower = ending.map lower

/-- The code for a name, which depends on the name itself only if nothing else counts. -/
def codeOf (palette : Palette) (hue : Hue) (name : Bytes) : Option Bytes :=
  match if hue = .regular then palette.endings.find? (endsIn name ·.1) else none with
  | some (_, code) => some code
  | none => palette.sequences.lookup hue

/-- The code for a name. It is known what is at the name, and what a link leads to. -/
def codeFor (palette : Palette) (name : Bytes) (state target : Option FileState) : Option Bytes :=
  let counted := if palette.followsLinks then target.or state else state
  let hue := (counted.map palette.hueOf).getD .orphan
  let isBroken := hue = .link ∧ target.isNone ∧ (palette.followsLinks ∨ palette.isUsed .orphan)
  palette.codeOf (if isBroken then .orphan else hue) name

/-- The code for the path that a link holds. -/
def codeForTarget (palette : Palette) (path : Bytes) (target : Option FileState) : Option Bytes :=
  let absent := if palette.isUsed .missing then Hue.missing else .orphan
  palette.codeOf ((target.map palette.hueOf).getD absent) path

/-! ### Definitions in a variable -/

/-- The number that digits denote, which wraps around as bytes do. -/
def digitsValue (base : UInt8) (digits : List UInt8) : UInt8 :=
  digits.foldl (fun number digit => number * base + digit) 0

/-- The value of an octal digit. -/
def octalValue? (byte : UInt8) : Option UInt8 :=
  if 48 ≤ byte ∧ byte ≤ 55 then some (byte - 48) else none

/-- The value of a hexadecimal digit. -/
def hexadecimalValue? (byte : UInt8) : Option UInt8 :=
  if 48 ≤ byte ∧ byte ≤ 57 then some (byte - 48)
  else if 97 ≤ lower byte ∧ lower byte ≤ 102 then some (lower byte - 87)
  else none

/-- The values of digits in front of a text, and what follows. -/
def leadingDigits (value? : UInt8 → Option UInt8) (text : Bytes) : List UInt8 × Bytes :=
  let digits := text.takeWhile fun byte => (value? byte).isSome
  (digits.filterMap value?, text.drop digits.length)

/-- The byte for which a letter stands after a backslash. Others stand for themselves. -/
def letterValue (letter : UInt8) : UInt8 :=
  let letters : List (Char × UInt8) :=
    [('a', 7), ('b', 8), ('e', 27), ('f', 12), ('n', 10), ('r', 13), ('t', 9), ('v', 11),
      ('?', 127), ('_', 32)]
  (letters.lookup (Char.ofNat letter.toNat)).getD letter

/-- The byte for which the front of a text stands after a backslash, and what follows. -/
def backslashed? : Bytes → Option (UInt8 × Bytes)
  | [] => none
  | byte :: rest =>
    if (octalValue? byte).isSome then
      let (digits, rest) := leadingDigits octalValue? (byte :: rest)
      some (digitsValue 8 digits, rest)
    else if byte = 'x'.toUInt8 ∨ byte = 'X'.toUInt8 then
      let (digits, rest) := leadingDigits hexadecimalValue? rest
      some (digitsValue 16 digits, rest)
    else some (letterValue byte, rest)

/-- The byte for which the front of a text stands after a caret, and what follows. A question mark
stands for itself once more. -/
def controlled? : Bytes → Option (UInt8 × Bytes)
  | [] => none
  | byte :: rest =>
    if 64 ≤ byte ∧ byte ≤ 126 then some (byte &&& 31, rest)
    else if byte = '?'.toUInt8 then some (127, byte :: rest)
    else none

/-- The text in front of a colon, or of an equals sign if that ends it, with its escapes resolved;
and the rest from there on. Nothing if an escape is broken off. The count bounds the number of
bytes. -/
def leadingText? (untilEquals : Bool) : (count : Nat) → Bytes → Option (Bytes × Bytes)
  | 0, text => some ([], text)
  | _ + 1, [] => some ([], [])
  | count + 1, byte :: rest =>
    if byte = ':'.toUInt8 ∨ (untilEquals ∧ byte = '='.toUInt8) then some ([], byte :: rest)
    else
      let resolved := if byte = '\\'.toUInt8 then backslashed? rest
        else if byte = '^'.toUInt8 then controlled? rest
        else some (byte, rest)
      resolved.bind fun (byte, rest) =>
        (leadingText? untilEquals count rest).map fun (text, rest) => (byte :: text, rest)

/-- The palette that definitions make of another. What stops that is a label that nobody knows, or
whose text is broken off; or something that is no definition. The count bounds their number. -/
def defined : (count : Nat) → Palette → Bytes → Except (Option Bytes) Palette
  | 0, palette, _ => .ok palette
  | _ + 1, palette, [] => .ok palette
  | count + 1, palette, byte :: rest =>
    if byte = ':'.toUInt8 then defined count palette rest
    else if byte = '*'.toUInt8 then
      match leadingText? true rest.length rest with
      | some (ending, 61 :: rest) =>
        match leadingText? false rest.length rest with
        | some (code, rest) =>
          defined count { palette with endings := (ending, code) :: palette.endings } rest
        | none => .error none
      | _ => .error none
    else
      match rest with
      | second :: 61 :: rest =>
        let label := [byte, second]
        match Hue.labels.lookup label, leadingText? false rest.length rest with
        | some hue, some (text, rest) =>
          defined count { palette with sequences := (hue, text) :: palette.sequences } rest
        | _, _ => .error (some label)
      | _ => .error none

/-- The palette that a text describes. -/
def read (text : Bytes) : Except (Option Bytes) Palette := defined text.length usual text

end Palette

end ShellSmoke.Tools
