/-
This file holds the tool that lists directories: it gathers what is to be shown, puts it in order,
and writes it.
-/

import ShellSmoke.Tools.Layout
import ShellSmoke.Tools.ListingStyle
import ShellSmoke.Tools.VersionOrder

namespace ShellSmoke.Tools

open Machine Shell

/-! ### Names -/

/-- The signs that are put after names for a setting, which are escaped in names then. -/
def ListSetting.signs (setting : ListSetting) : List Char :=
  match setting.indicator with
  | .none | .slash => []
  | .kind => ['=', '>', '@', '|']
  | .classify => ['*', '=', '>', '@', '|']

/-- A name with a backslash before what would be misunderstood. -/
def backslashed (special : List Char) (name : Bytes) : Bytes :=
  name.flatMap fun byte =>
    if byte = '\\'.toUInt8 ∨ special.contains (Char.ofNat byte.toNat) then ['\\'.toUInt8, byte]
    else if isPrintable byte then [byte]
    else escapeText byte

/-- A name in double quotes. -/
def doubleQuoted (special : List Char) (name : Bytes) : Bytes :=
  0x22 :: backslashed ('\x22' :: special) name ++ [0x22]

/-- A name for a shell in which all bytes stand for themselves. -/
def plainlyQuoted (name : Bytes) : Bytes :=
  if name.contains singleQuote ∧ ¬ (name.any fun byte =>
      ['\x22', '$', '\x60', '\\'].contains (Char.ofNat byte.toNat)) then
    0x22 :: name ++ [0x22]
  else
    singleQuote :: (name.flatMap fun byte =>
      if byte = singleQuote then [singleQuote, '\\'.toUInt8, singleQuote, singleQuote]
      else [byte]) ++ [singleQuote]

/-- Whether a name has to be quoted for a shell; if nothing is escaped, only for a tab and a newline
of what cannot be printed. -/
def needsQuotes (escaping : Bool) (special : List Char) (name : Bytes) : Bool :=
  name.isEmpty || name.zipIdx.any fun (byte, place) =>
    (if escaping then ! isPrintable byte else [9, 10, 13].contains byte) ||
      isSpecial name.length place byte || special.contains (Char.ofNat byte.toNat)

/-- How a name is written. -/
def ListSetting.nameText (setting : ListSetting) (special : List Char) (name : Bytes) : Bytes :=
  let marked := if setting.marks then
      name.map fun byte => if isPrintable byte then byte else '?'.toUInt8
    else name
  match setting.styled with
  | .literal => marked
  | .shell => if needsQuotes false special name then plainlyQuoted marked else marked
  | .shellAlways => plainlyQuoted marked
  | .shellEscape => if needsQuotes true special name then quoted name else name
  | .shellEscapeAlways => quoted name
  | .double | .doubleLocale => doubleQuoted special name
  | .doubleIfNeeded =>
    let plain := name.all fun byte =>
      isPrintable byte && byte ≠ 0x22 && byte ≠ '\\'.toUInt8 &&
        ! special.contains (Char.ofNat byte.toNat)
    if plain then name else doubleQuoted special name
  | .escape => backslashed (' ' :: special) name
  | .single => escaped name

/-- How many columns a text takes. -/
def shownWidth (text : Bytes) : Nat := (text.filter isPrintable).length

/-! ### Entries -/

/-- A file to be shown, with what is known of it. -/
structure Entry where
  name : Bytes
  state : Option FileState
  /-- What a link leads to. -/
  target : Option FileState := none
deriving DecidableEq, Repr, Inhabited

namespace Entry

/-- The kind of the file, if it is known. -/
def kind? (entry : Entry) : Option FileKind := entry.state.map (·.kind)

/-- Whether the file is a directory. -/
def isDirectory (entry : Entry) : Bool := entry.kind? = some .directory

/-- Whether the file is a regular one that can be started. -/
def isProgram (entry : Entry) : Bool := entry.state.any FileState.isProgram

/-- The sign after a name. -/
def sign (indicator : Indicator) (state : Option FileState) : Bytes :=
  let kinds := indicator = .kind ∨ indicator = .classify
  match state.map FileState.kind with
  | some .directory => if indicator ≠ .none then ['/'.toUInt8] else []
  | some .link => if kinds then ['@'.toUInt8] else []
  | some .pipe => if kinds then ['|'.toUInt8] else []
  | _ => if indicator = .classify ∧ state.any FileState.isProgram then ['*'.toUInt8] else []

/-- The ending of a name, from its last dot on. -/
def ending (entry : Entry) : Bytes :=
  let dot := '.'.toUInt8
  if entry.name.contains dot then dot :: (entry.name.reverse.takeWhile (· ≠ dot)).reverse else []

/-- The size of the file. -/
def size (entry : Entry) : Nat := (entry.state.map (·.size)).getD 0

/-- How many bytes of room the file takes. -/
def room (entry : Entry) : Nat :=
  match entry.kind? with
  | some .regular | some .directory => (entry.size + 4095) / 4096 * 4096
  | _ => 0

/-- The order of two entries. -/
def order (setting : ListSetting) (first second : Entry) : Ordering :=
  let byName := compareOfLessAndEq first.name second.name
  let time (entry : Entry) : Nat := (entry.state.map (·.modified)).getD 0
  let width (entry : Entry) : Nat := shownWidth (setting.nameText [] entry.name)
  match setting.ordered with
  | .none => .eq
  | .name => byName
  | .time => (compare (time second) (time first)).then byName
  | .size => (compare second.size first.size).then byName
  | .ending => (compareOfLessAndEq first.ending second.ending).then byName
  | .version => (VersionOrder.compareNames first.name second.name).then byName
  | .width => (compare (width first) (width second)).then byName

/-- Whether an entry can be shown before another. -/
def before (setting : ListSetting) (first second : Entry) : Bool :=
  if setting.directoriesFirst ∧ first.isDirectory ≠ second.isDirectory then first.isDirectory
  else
    let order := order setting first second
    (if setting.reversed then order.swap else order) ≠ .gt

end Entry

/-- Entries in order. -/
def ListSetting.sorted (setting : ListSetting) (entries : List Entry) : List Entry :=
  if setting.ordered = .none ∧ ¬ setting.directoriesFirst then entries
  else entries.mergeSort (Entry.before setting)

/-! ### Names in a directory -/

/-- Whether a pattern, in which a backslash takes the meaning of what follows, matches a name. A dot
in front has to be in the pattern itself. -/
def matchesPattern (pattern name : Bytes) : Bool :=
  let glob := Pattern.ofMarks ((Octets.ofBytes pattern).map (⟨·, false⟩))
  let name := Octets.ofBytes name
  (name.head? ≠ some '.' || glob.head? = some (.literal '.')) && Pattern.matchesAll glob name

/-- Whether a name in a directory is shown. -/
def ListSetting.shows (setting : ListSetting) (name : Bytes) : Bool :=
  let own := [Bytes.ofString ".", Bytes.ofString ".."].contains name
  let visible := match setting.hidden with
    | .none =>
      name.head? ≠ some '.'.toUInt8 &&
        ! setting.hiddenNames.any fun pattern => matchesPattern pattern name
    | .almost => ! own
    | .all => true
  visible && ! setting.ignored.any fun pattern => matchesPattern pattern name

/-- A name in a directory as a path. -/
def pathIn (directory name : Bytes) : Bytes :=
  if directory.getLast? = some '/'.toUInt8 then directory ++ name
  else directory ++ '/'.toUInt8 :: name

/-! ### Lines -/

namespace ListSetting

/-- The number that identifies a file: the place of its path among all texts. -/
def identityOf (entry : Entry) : String :=
  let text := (entry.state.map (·.identity)).getD []
  toString (1000 + text.foldl (fun number byte => (number * 31 + byte.toNat) % 8999) 7)

/-- The letters for the kind and the permissions of a file. A letter of those who may start it is
another one if it is started with the rights of its owner or group, or if only owners take away what
is there. -/
def modeText (state : FileState) : String :=
  let kind := match state.kind with
    | .regular => '-'
    | .directory => 'd'
    | .device => 'c'
    | .pipe => 'p'
    | .link => 'l'
  let triple (read start special : Nat) (mark : Char) : List Char :=
    let runs := state.mode.testBit start
    [if state.mode.testBit read then 'r' else '-',
      if state.mode.testBit (read - 1) then 'w' else '-',
      if state.mode.testBit special then (if runs then mark else mark.toUpper)
      else if runs then 'x' else '-']
  String.ofList (kind :: triple 8 6 11 's' ++ triple 5 3 10 's' ++ triple 2 0 9 't')

/-- A text that is as wide as a number of columns, with the text at their end. -/
def padded (width : Nat) (text : String) : String := "".pushn ' ' (width - text.length) ++ text

/-- The width of the widest text of entries. -/
def widest (entries : List Entry) (text : Entry → String) : Nat :=
  entries.foldl (fun width entry => max width (text entry).length) 0

/-- The sizes of entries, and the numbers of devices in their place, in a column. -/
def sizeColumn (setting : ListSetting) (entries : List Entry) : Entry → String :=
  let numbers (entry : Entry) : Option (Nat × Nat) := entry.state.bind (·.device)
  let first := widest entries fun entry => ((numbers entry).map (toString ·.1)).getD ""
  let second := widest entries fun entry => ((numbers entry).map (toString ·.2)).getD ""
  let size (entry : Entry) : String :=
    match entry.state, numbers entry with
    | none, _ => "?"
    | _, some (kind, own) => padded first (toString kind) ++ ", " ++ padded second (toString own)
    | _, none => setting.sizes.text entry.size
  fun entry => padded (widest entries size) (size entry)

/-- What is written before the name of each entry: what comes up to the people, and the rest. -/
def frills (setting : ListSetting) (entries : List Entry) : Entry → Bytes × Bytes :=
  let aligned := setting.arranged ≠ .commas
  let column (wanted : Bool) (text : Entry → String) (entry : Entry) : String :=
    if ¬ wanted then ""
    else (if aligned then padded (widest entries text) (text entry) else text entry) ++ " "
  let links (entry : Entry) : String := if entry.isDirectory then "2" else "1"
  let person := if setting.numeric then "0 " else "root "
  let long := setting.arranged = .long
  let sizes := setting.sizeColumn entries
  fun entry =>
    let mode := if long then ((entry.state.map modeText).getD "??????????") ++ " " else ""
    let people := if long then
        (if setting.owner then person else "") ++ (if setting.group then person else "") ++
          (if setting.author then person else "")
      else ""
    let front := column setting.identity identityOf entry ++
      column setting.blocks (fun entry => setting.room.text entry.room) entry ++ mode ++
      column long links entry
    let people := people ++ if setting.context then "? " else ""
    let size := if long then Bytes.ofString (sizes entry ++ " ") ++ setting.timeText ++ [32] else []
    if people.isEmpty then ([], Bytes.ofString front ++ size)
    else (Bytes.ofString (front ++ people), size)

/-- What is known of what a link leads to. It is looked at only if something depends on it. -/
def targetOf (setting : ListSetting) (entry : Entry) : Option FileState :=
  let long := setting.arranged = .long
  let asks := setting.palette.any (·.asksForTargets long)
  let signs := setting.indicator = .kind ∨ setting.indicator = .classify
  if entry.kind? = some .link ∧ (asks ∨ (long ∧ signs)) then entry.target else none

/-- The width of a line, if it has an end. -/
def lineWidth? (setting : ListSetting) : Option Nat :=
  let width := setting.width.getD 80
  if width = 0 then none else some width

/-- Whether a text goes beyond the end of a line, if it begins at a column. -/
def runsOver (setting : ListSetting) (column size : Nat) : Bool :=
  setting.lineWidth?.any fun width => column / width ≠ (column + size - 1) / width

/-- A name in a color, if it has one. After a color the rest of a line is cleared that the name has
gone on to. -/
def inColor (setting : ListSetting) (column size : Nat) (code : Option Bytes) (name : Inked) :
    Inked :=
  match setting.palette with
  | none => name
  | some palette =>
    let ordinary := palette.isUsed .ordinary
    let front := code.toList.flatMap fun code =>
      (if ordinary then [Ink.control (palette.turnOn [])] else []) ++
        [.control (palette.turnOn code)]
    let clearing := if setting.runsOver column size then [Ink.control (palette.sequence .clear)]
      else []
    front ++ name ++
      if code.isSome ∨ ordinary then .control palette.closing :: clearing else []

/-- A name as it is shown from a column on, after a gap, with its sign and its color. Of a link that
is shown with what is known of it, this includes where it leads. -/
def shownName (setting : ListSetting) (gap : Bytes) (entry : Entry) (column : Nat) : Inked :=
  let target := setting.targetOf entry
  let text := setting.nameText setting.signs entry.name
  let size := gap.length + text.length
  let code := setting.palette.bind (·.codeFor entry.name entry.state target)
  let own := Inked.ofBytes gap ++
    setting.inColor column size code (Inked.named false (Inked.ofBytes text))
  match entry.state with
  | some state =>
    if setting.arranged = .long ∧ state.kind = .link then
      let path := setting.nameText setting.signs state.target
      let code := setting.palette.bind (·.codeForTarget state.target target)
      own ++ Inked.ofBytes (Bytes.ofString " -> ") ++
        setting.inColor (column + size + 4) path.length code (Inked.ofBytes path) ++
        Inked.ofBytes (Entry.sign setting.indicator target)
    else own ++ Inked.ofBytes (Entry.sign setting.indicator entry.state)
  | none => own

/-- What comes before each line of a listing that tells where the names are. -/
def indent (setting : ListSetting) : Inked :=
  if setting.charted ∧ setting.arranged = .long then Inked.ofBytes (Bytes.ofString "  ") else []

/-- What is written before each entry in color: what is not a name can have one too. -/
def ordinaryColor (setting : ListSetting) : Inked :=
  match setting.palette with
  | some palette =>
    if palette.isUsed .ordinary then [.control (palette.turnOn (palette.sequence .ordinary))]
    else []
  | none => []

/-- Entries as they are shown; what is known of them is in columns that are wide enough for all that
were looked at. -/
def entriesText (setting : ListSetting) (looked entries : List Entry) : Inked :=
  let before := setting.frills looked
  let long := setting.arranged = .long
  let someQuoted := entries.any fun entry => setting.nameText [] entry.name ≠ entry.name
  let aligning := setting.arranged ≠ .lines ∧ setting.arranged ≠ .commas ∧
    (setting.styled = .shell ∨ setting.styled = .shellEscape ∨
      setting.styled = .doubleIfNeeded) ∧
    someQuoted
  let piece (entry : Entry) : Piece :=
    let plain := setting.nameText setting.signs entry.name
    let gap := if aligning ∧ plain = entry.name then [32] else []
    let (front, back) := before entry
    let width := front.length + back.length + gap.length + shownWidth plain +
      (Entry.sign setting.indicator entry.state).length
    ⟨fun column =>
      setting.ordinaryColor ++ setting.indent ++ Inked.ofBytes (front ++ back) ++
        setting.shownName gap entry (if long then back.length else column), width⟩
  let pieces := entries.map piece
  let tab := if setting.palette.isSome then 0 else setting.tab.getD 8
  let room : Room := ⟨setting.lineWidth?, tab⟩
  match setting.arranged with
  | .lines | .long => pieces.flatMap fun piece => piece.text 0 ++ Inked.ofBytes [setting.ending]
  | _ =>
    if entries.isEmpty then []
    else
      match setting.arranged with
      | .columns => room.inColumns true setting.ending pieces
      | .rows => room.inColumns false setting.ending pieces
      | _ => room.separated ','.toUInt8 setting.ending pieces

end ListSetting

/-! ### Directories -/

/-- A part of a listing: text, and whether all went well. -/
structure Listed where
  text : Inked
  code : UInt8
deriving DecidableEq, Repr, Inhabited

/-- Tells why something could not be looked at. -/
def complainOfListing (launch : Launch) (action : String) (name : Bytes) (errno : Errno) :
    Routine Unit :=
  complain launch (Bytes.ofString (action ++ " ") ++ quoted name ++
    Bytes.ofString (": " ++ errno.text))

/-- What is known of a file in a directory. -/
def entryIn (setting : ListSetting) (directory name : Bytes) : Routine Entry := do
  let path := pathIn directory name
  let through ← Routine.inspect path
  let state ← if setting.following = .always then pure through else Routine.inspectItself path
  return ⟨name, state.toOption, through.toOption⟩

/-- The entries of a directory that are shown. -/
def entriesOf (setting : ListSetting) (directory : Bytes) :
    Routine (Except Errno (List Entry)) := do
  match ← Routine.list directory with
  | .error errno => return .error errno
  | .ok names =>
    let names := ([Bytes.ofString ".", Bytes.ofString ".."] ++ names).filter setting.shows
    return .ok (setting.sorted (← names.mapM (entryIn setting directory)))

/-- Lists directories one after another, and what is in them if that is wanted. The number bounds
how many there are; the first argument tells whether something was listed before. -/
def listDirectories (launch : Launch) (setting : ListSetting) :
    (lifetime : Nat) → (later titled : Bool) → List (Bytes × Bool) → Routine Listed
  | 0, _, _, _ => pure ⟨[], 0⟩
  | _ + 1, _, _, [] => pure ⟨[], 0⟩
  | lifetime + 1, later, titled, (directory, named) :: rest => do
    match ← entriesOf setting directory with
    | .error errno =>
      complainOfListing launch "cannot open directory" directory errno
      let listed ← listDirectories launch setting lifetime later true rest
      return { listed with code := if named then 2 else max 1 listed.code }
    | .ok entries =>
      let title := if titled ∨ setting.recursive then
          Inked.ofBytes (if later then [10] else []) ++ setting.indent ++
            Inked.named true (Inked.ofBytes (setting.nameText [':'] directory)) ++
            Inked.ofBytes [58, 10]
        else []
      let total := if setting.arranged = .long ∨ setting.blocks then
          let room := (entries.map Entry.room).foldl (· + ·) 0
          setting.indent ++
            Inked.ofBytes (Bytes.ofString ("total " ++ setting.room.text room) ++ [setting.ending])
        else []
      let own := [Bytes.ofString ".", Bytes.ofString ".."]
      let inner := if setting.recursive then
          (entries.filter fun entry => entry.isDirectory && ! own.contains entry.name).map
            fun entry => (pathIn directory entry.name, false)
        else []
      let listed ← listDirectories launch setting lifetime true true (inner ++ rest)
      let text := title ++ total ++ setting.entriesText entries entries ++ listed.text
      return { listed with text }

/-! ### Operands -/

/-- What is known of a file that is named. -/
def entryNamed (setting : ListSetting) (word : Bytes) : Routine (Except Errno Entry) := do
  let itself ← Routine.inspectItself word
  let through ← Routine.inspect word
  let state := match setting.followed with
    | .usual => itself
    | .named | .always => through
    | .namedDirectories =>
      match through with
      | .ok target => if target.kind = FileKind.directory then through else itself
      | .error _ => itself
  return state.map fun state => ⟨word, some state, through.toOption⟩

/-- The entries that are named, and whether all of them are there. -/
def entriesNamed (launch : Launch) (setting : ListSetting) :
    List Bytes → Routine (List Entry × Bool)
  | [] => pure ([], true)
  | word :: rest => do
    match ← entryNamed setting word with
    | .error errno =>
      complainOfListing launch "cannot access" word errno
      let (entries, _) ← entriesNamed launch setting rest
      return (entries, false)
    | .ok entry =>
      let (entries, well) ← entriesNamed launch setting rest
      return (entry :: entries, well)

/-- The lines that tell where in a text the names and the titles are. -/
def chartText (setting : ListSetting) (text : Inked) : Bytes :=
  let line (label : String) (places : List Nat) : String :=
    if places.isEmpty then ""
    else label ++ places.foldl (fun line place => line ++ " " ++ toString place) "" ++ "\n"
  Bytes.ofString (line "//DIRED//" (text.edges false 0) ++
    line "//SUBDIRED//" (text.edges true 0) ++
    "//DIRED-OPTIONS// --quoting-style=" ++ styleChoices.wordOf setting.styled ++ "\n")

/-- The bytes of a listing. -/
def outputOf (setting : ListSetting) (text : Inked) : Bytes :=
  let shown := match setting.palette with
    | some palette =>
      text.bytes palette.closing ++ if text.isColored then palette.farewell else []
    | none => text.bytes []
  shown ++ if setting.indent.isEmpty then [] else chartText setting text

/-- Lists the directories and files named, or the working directory; the value is the exit code. -/
def listAll (launch : Launch) (setting : ListSetting) (operands : List Bytes) : Routine UInt8 := do
  let words := if operands.isEmpty then [Bytes.ofString "."] else operands
  let (entries, well) ← entriesNamed launch setting words
  let entries := setting.sorted entries
  let directories := if setting.itself then [] else entries.filter Entry.isDirectory
  let files := if setting.itself then entries else entries.filter fun entry => ! entry.isDirectory
  let titled := 1 < words.length ∨ ¬ files.isEmpty
  let text := setting.entriesText entries files
  let gap : Bytes := if files.isEmpty ∨ directories.isEmpty then [] else [10]
  let listed ← listDirectories launch setting launch.lifetime false titled
    (directories.map fun entry => (entry.name, true))
  let text := text ++ Inked.ofBytes gap ++ listed.text
  match ← Routine.writeAll 1 launch.lifetime (outputOf setting text) with
  | .ok () => return if well then listed.code else 2
  | .error errno =>
    complainOfWriting launch errno
    return 2

/-- The tool that lists. -/
def list : Tool :=
  toolWithOptions "ls" 2 ListSetting.options fun launch setting operands => do
    let setting ← setting.withVariables launch
    match setting.objection? with
    | some objection => object launch 2 objection
    | none =>
      let palette ← if setting.color then ListSetting.paletteFor launch else pure none
      listAll launch ({ setting with palette }.withUnits launch) operands

end ShellSmoke.Tools
