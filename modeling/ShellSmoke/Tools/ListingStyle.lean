/-
This file says how a listing of files is made: which names it shows, in what order, how it writes
and arranges them; and which options ask for that.
-/

import ShellSmoke.Shell.Pattern
import ShellSmoke.Tools.Basic
import ShellSmoke.Tools.Palette
import ShellSmoke.Tools.SizeUnit

namespace ShellSmoke.Tools

open Machine Shell

/-! ### Choices -/

/-- Which names in a directory are shown that begin with a dot. -/
inductive Hidden where
  | none
  /-- All but the directory itself and the one around it. -/
  | almost
  | all
deriving DecidableEq, Repr, Inhabited

/-- How names are arranged. -/
inductive Arrangement where
  | lines
  | columns
  | rows
  | commas
  /-- A name on a line after what is known of the file. -/
  | long
deriving DecidableEq, Repr, Inhabited

/-- By what files are ordered. -/
inductive ListOrder where
  | none
  | name
  | time
  | size
  | ending
  | version
  | width
deriving DecidableEq, Repr, Inhabited

/-- Which kinds of files are marked by a sign after the name. -/
inductive Indicator where
  | none
  | slash
  | kind
  /-- Also those that can be started. -/
  | classify
deriving DecidableEq, Repr, Inhabited

/-- How names are written. -/
inductive NameStyle where
  | literal
  | shell
  | shellAlways
  | shellEscape
  | shellEscapeAlways
  | double
  | doubleIfNeeded
  | escape
  | single
  | doubleLocale
deriving DecidableEq, Repr, Inhabited

/-- Which links that are named are followed. -/
inductive Following where
  /-- As the rest of the options says. -/
  | usual
  | named
  | namedDirectories
  | always
deriving DecidableEq, Repr, Inhabited

/-! ### Settings -/

/-- How a listing is made. -/
structure ListSetting where
  hidden : Hidden
  arrangement : Option Arrangement
  order : Option ListOrder
  /-- Whether a time was chosen, which is an order too. -/
  timed : Bool
  reversed : Bool
  /-- Whether directories count as other files. -/
  itself : Bool
  recursive : Bool
  directoriesFirst : Bool
  indicator : Indicator
  style : Option NameStyle
  /-- Whether question marks stand for what cannot be printed. -/
  marks : Bool
  /-- The byte after a line. -/
  ending : UInt8
  /-- The width of a line; zero stands for a line without an end. -/
  width : Option Nat
  tab : Option Nat
  /-- How times are written. -/
  times : Option Bytes
  ignored : List Bytes
  /-- Patterns of names that are not shown unless hidden ones are. -/
  hiddenNames : List Bytes
  blocks : Bool
  identity : Bool
  owner : Bool
  group : Bool
  author : Bool
  numeric : Bool
  /-- The unit that was asked for. -/
  unit : Option SizeUnit
  /-- Whether room is written in units of 1024 bytes if no unit was asked for. -/
  kibibytes : Bool
  /-- The units in which sizes of files are written, and the room that they take. -/
  sizes : SizeUnit
  room : SizeUnit
  following : Following
  color : Bool
  /-- The colors that are used in the end. -/
  palette : Option Palette
  context : Bool
  /-- Whether it is told where in the output the names are. -/
  charted : Bool
deriving DecidableEq, Repr, Inhabited

namespace ListSetting

/-- The setting without options. -/
def plain : ListSetting where
  hidden := .none
  arrangement := none
  order := none
  timed := false
  reversed := false
  itself := false
  recursive := false
  directoriesFirst := false
  indicator := .none
  style := none
  marks := false
  ending := 10
  width := none
  tab := none
  times := none
  ignored := []
  hiddenNames := []
  blocks := false
  identity := false
  owner := true
  group := true
  author := false
  numeric := false
  unit := none
  kibibytes := false
  sizes := .ofBytes 1
  room := .ofBytes 1024
  following := .usual
  color := false
  palette := none
  context := false
  charted := false

/-- How names are arranged in the end: without a terminal, each is on a line. -/
def arranged (setting : ListSetting) : Arrangement := setting.arrangement.getD .lines

/-- How names are written in the end. -/
def styled (setting : ListSetting) : NameStyle := setting.style.getD .literal

/-- The order in the end: by the time that was chosen if nothing else is said. -/
def ordered (setting : ListSetting) : ListOrder :=
  setting.order.getD (if setting.timed ∧ setting.arranged ≠ .long then .time else .name)

/-- Whether a link that is named is followed, and only where it leads to a directory. -/
def followed (setting : ListSetting) : Following :=
  match setting.following with
  | .usual =>
    if setting.itself ∨ setting.indicator = .classify ∨ setting.arranged = .long then .usual
    else .namedDirectories
  | other => other

end ListSetting

/-! ### Words for choices -/

/-- The words for when something is done that depends on a terminal; there is none. -/
def whenChoices : Choices Nat :=
  ⟨[("always", 0), ("yes", 0), ("force", 0), ("never", 1), ("no", 1), ("none", 1), ("auto", 2),
    ("tty", 2), ("if-tty", 2)]⟩

/-- The words for orders. -/
def orderChoices : Choices ListOrder :=
  ⟨[("none", .none), ("time", .time), ("size", .size), ("extension", .ending),
    ("version", .version), ("width", .width)]⟩

/-- The words for times; one is as good as another. -/
def timeChoices : Choices Nat :=
  ⟨[("atime", 0), ("access", 0), ("use", 0), ("ctime", 1), ("status", 1), ("mtime", 2),
    ("modification", 2), ("birth", 3), ("creation", 3)]⟩

/-- The words for arrangements. -/
def arrangementChoices : Choices Arrangement :=
  ⟨[("verbose", .long), ("long", .long), ("commas", .commas), ("horizontal", .rows),
    ("across", .rows), ("vertical", .columns), ("single-column", .lines)]⟩

/-- The words for indicators. -/
def indicatorChoices : Choices Indicator :=
  ⟨[("none", .none), ("slash", .slash), ("file-type", .kind), ("classify", .classify)]⟩

/-- The words for the ways to write names. -/
def styleChoices : Choices NameStyle :=
  ⟨[("literal", .literal), ("shell", .shell), ("shell-always", .shellAlways),
    ("shell-escape", .shellEscape), ("shell-escape-always", .shellEscapeAlways), ("c", .double),
    ("c-maybe", .doubleIfNeeded), ("escape", .escape), ("locale", .single),
    ("clocale", .doubleLocale)]⟩

/-! ### Options -/

namespace ListSetting

/-- A choice that a word makes. -/
def choose {α : Type} [DecidableEq α] (choices : Choices α) (option : String)
    (value : Option Bytes) (next : α → ListSetting) : Except Objection ListSetting :=
  match choices.read option (value.getD []) with
  | .ok choice => .ok (next choice)
  | .error message => .error (.choice message)

/-- Whether something is done whose time a word tells; without a word it is. -/
def chooseWhen (option : String) (value : Option Bytes) (next : Bool → ListSetting) :
    Except Objection ListSetting :=
  match value with
  | none => .ok (next true)
  | some _ => choose whenChoices option value fun choice => next (choice = 0)

/-- What a letter without a value changes. -/
def applyLetter (setting : ListSetting) : (key : String) → ListSetting
  | "a" => { setting with hidden := .all }
  | "A" => { setting with hidden := .almost }
  | "b" => { setting with style := some .escape }
  | "B" =>
    { setting with
      ignored := [Bytes.ofString "*~", Bytes.ofString ".*~"] ++ setting.ignored }
  | "c" | "u" => { setting with timed := true }
  | "C" => { setting with arrangement := some .columns }
  | "d" => { setting with itself := true }
  | "D" => { setting with charted := true }
  | "f" => { setting with hidden := .all, order := some .none }
  | "g" => { setting with arrangement := some .long, owner := false }
  | "G" => { setting with group := false }
  | "h" => { setting with unit := some (.powers 1024) }
  | "si" => { setting with unit := some (.powers 1000) }
  | "H" => { setting with following := .named }
  | "namedDirectories" => { setting with following := .namedDirectories }
  | "i" => { setting with identity := true }
  | "k" => { setting with kibibytes := true }
  | "l" => { setting with arrangement := some .long }
  | "full-time" =>
    { setting with arrangement := some .long, times := some (Bytes.ofString "full-iso") }
  | "L" => { setting with following := .always }
  | "m" => { setting with arrangement := some .commas }
  | "n" => { setting with arrangement := some .long, numeric := true }
  | "N" => { setting with style := some .literal }
  | "o" => { setting with arrangement := some .long, group := false }
  | "p" => { setting with indicator := .slash }
  | "file-type" => { setting with indicator := .kind }
  | "q" => { setting with marks := true }
  | "show-control-chars" => { setting with marks := false }
  | "Q" => { setting with style := some .double }
  | "r" => { setting with reversed := true }
  | "R" => { setting with recursive := true }
  | "s" => { setting with blocks := true }
  | "S" => { setting with order := some .size }
  | "t" => { setting with order := some .time }
  | "U" => { setting with order := some .none }
  | "v" => { setting with order := some .version }
  | "x" => { setting with arrangement := some .rows }
  | "X" => { setting with order := some .ending }
  | "Z" => { setting with context := true }
  | "1" =>
    if setting.arrangement = some .long then setting
    else { setting with arrangement := some .lines }
  | "author" => { setting with author := true }
  | "group-directories-first" => { setting with directoriesFirst := true }
  | "zero" =>
    { setting with
      ending := 0
      marks := false
      color := false
      style := some .literal
      arrangement := if setting.arrangement = some .long then some .long else some .lines }
  | _ => setting

/-- What an option changes. -/
def apply (setting : ListSetting) (key : String) (value : Option Bytes) :
    Except Objection ListSetting :=
  let word := value.getD []
  match key with
  | "F" => chooseWhen "--classify" value fun wanted =>
      if wanted then { setting with indicator := .classify } else setting
  | "color" => chooseWhen "--color" value fun color => { setting with color }
  | "hyperlink" => chooseWhen "--hyperlink" value fun _ => setting
  | "format" => choose arrangementChoices "--format" value fun arrangement =>
      { setting with arrangement := some arrangement }
  | "sort" => choose orderChoices "--sort" value fun order => { setting with order := some order }
  | "time" => choose timeChoices "--time" value fun _ => { setting with timed := true }
  | "indicator-style" => choose indicatorChoices "--indicator-style" value fun indicator =>
      { setting with indicator }
  | "quoting-style" => choose styleChoices "--quoting-style" value fun style =>
      { setting with style := some style }
  | "I" => .ok { setting with ignored := setting.ignored ++ [word] }
  | "hide" => .ok { setting with hiddenNames := setting.hiddenNames ++ [word] }
  | "w" =>
    match Amount.readPlain word with
    | .ok width => .ok { setting with width := some width }
    | .error .tooLarge => .ok { setting with width := some 0 }
    | .error .invalid =>
      .error (.value (Bytes.ofString "invalid line width: " ++ escaped word))
  | "T" =>
    match Amount.readPlain word with
    | .ok tab => .ok { setting with tab := some tab }
    | .error fault => .error (.value (fault.message "invalid tab size" word))
  | "time-style" => .ok { setting with times := some word }
  | "block-size" =>
    match SizeUnit.read word with
    | .ok unit => .ok { setting with unit := some unit }
    | .error fault => .error (.value (fault.message "--block-size" word))
  | _ => .ok (setting.applyLetter key)

/-- What stops the tool if times are to be written in a way that nobody knows. After `posix-` any
way is the usual one. -/
def timeObjection? (style : Bytes) : Option Objection :=
  let known := ["full-iso", "long-iso", "iso", "locale"].map Bytes.ofString
  let fitting := known.filter style.isPrefixOf
  let kind := if fitting.isEmpty then "invalid" else "ambiguous"
  if style.head? = some '+'.toUInt8 then
    if style.count 10 ≤ 1 then none
    else some (.value (Bytes.ofString "invalid time style format " ++ escaped style.tail))
  else if (Bytes.ofString "posix-").isPrefixOf style then none
  else if known.contains style ∨ fitting.length = 1 then none
  else some (.misuse (Bytes.ofString (kind ++ " argument ") ++ escaped style ++
    Bytes.ofString " for 'time style'\nValid arguments are:" ++
    (["[posix-]full-iso", "[posix-]long-iso", "[posix-]iso", "[posix-]locale",
      "+FORMAT (e.g., +%H:%M) for a 'date'-style format"].flatMap fun line =>
        Bytes.ofString ("\n  - " ++ line))))

/-- What stops the tool if its options do not go together or times are to be written in a way that
nobody knows. -/
def objection? (setting : ListSetting) : Option Objection :=
  if setting.arranged ≠ .long then none
  else if setting.charted ∧ setting.ending = 0 then
    some (.value (Bytes.ofString "--dired and --zero are incompatible"))
  else setting.times.bind timeObjection?

/-- What becomes of the width, the distance of tabs, and the ways to write names and times that a
variable asks for where no option does; a value that makes no sense is complained about. -/
def withVariables (setting : ListSetting) (launch : Launch) : Routine ListSetting := do
  let laidOut := [.columns, .rows, .commas].contains setting.arranged
  let ignore (about : String) (name : String) (value : Bytes) : Routine Unit :=
    complain launch (Bytes.ofString ("ignoring invalid " ++ about ++ " " ++ name ++ ": ") ++
      escaped value)
  let width ← match setting.width, (given? launch "COLUMNS").filter (! ·.isEmpty) with
    | none, some value =>
      match Amount.readPlain value with
      | .ok width => pure (some width)
      | .error .tooLarge => pure (some 0)
      | .error .invalid => do
        if laidOut ∨ setting.color then ignore "width in environment variable" "COLUMNS" value
        pure none
    | width, _ => pure width
  let tab ← match setting.tab, given? launch "TABSIZE" with
    | none, some value =>
      match Amount.readPlain value with
      | .ok tab => pure (some tab)
      | .error _ => do
        if laidOut then ignore "tab size in environment variable" "TABSIZE" value
        pure none
    | tab, _ => pure tab
  let style ← match setting.style, given? launch "QUOTING_STYLE" with
    | none, some value =>
      match styleChoices.read "" value with
      | .ok style => pure (some style)
      | .error _ => do
        ignore "value of environment variable" "QUOTING_STYLE" value
        pure none
    | style, _ => pure style
  let times := setting.times.or (given? launch "TIME_STYLE")
  return { setting with width, tab, style, times }

/-- The setting with the units in which sizes are written: those that were asked for, or those that
variables ask for. -/
def withUnits (setting : ListSetting) (launch : Launch) : ListSetting :=
  match setting.unit with
  | some unit => { setting with sizes := unit, room := unit }
  | none =>
    let usual := SizeUnit.ofBytes (if (given? launch "POSIXLY_CORRECT").isSome then 512 else 1024)
    let special := (given? launch "LS_BLOCK_SIZE").or (given? launch "BLOCK_SIZE")
    let wanted := special.or (given? launch "BLOCKSIZE")
    let unit := (wanted.map (SizeUnit.ofWord usual)).getD usual
    { setting with
      sizes := if special.isSome then unit else setting.sizes
      room := if setting.kibibytes then .ofBytes 1024 else unit }

/-- The text that a format for times makes. The days and hours of files are not modelled, but there
are parts of a format that do not depend on them. -/
def formatted : (format : List Char) → List Char
  | '%' :: letter :: rest =>
    let text := match letter with
      | '%' => ['%']
      | 'n' => ['\n']
      | 't' => ['\t']
      | 'Z' => ['U', 'T', 'C']
      | 'z' => ['+', '0', '0', '0', '0']
      | _ => ['%', letter]
    text ++ formatted rest
  | letter :: rest => letter :: formatted rest
  | [] => []

/-- How the times of files are written. A format can have a second line for those that were changed
not long ago. -/
def timeText (setting : ListSetting) : Bytes :=
  match setting.times with
  | some (43 :: format) =>
    let format := if format.contains 10 then (format.dropWhile (· ≠ 10)).tail else format
    (formatted (Amount.chars format)).map Char.toUInt8
  | _ => Bytes.ofString "Jan  1 00:00"

/-- The sorts of terminals that show colors, as patterns. -/
def coloredTerminals : List String :=
  ["Eterm", "ansi", "*color*", "con[0-9]*x[0-9]*", "cons25", "console", "cygwin", "*direct*",
    "dtterm", "gnome", "hurd", "jfbterm", "konsole", "kterm", "linux", "linux-c", "mlterm",
    "putty", "rxvt*", "screen*", "st", "terminator", "tmux*", "vt100", "xterm*"]

/-- Whether variables tell that somebody can see colors. -/
def showsColors (launch : Launch) : Bool :=
  let terminal := Octets.ofBytes ((given? launch "TERM").getD [])
  let isColored (name : String) : Bool :=
    Pattern.matchesAll (Pattern.ofMarks (name.toList.map (⟨·, false⟩))) terminal
  ((given? launch "COLORTERM").any fun value => ! value.isEmpty) ||
    coloredTerminals.any isColored

/-- The colors that are used if some are wanted: those that a variable describes, if it is set. A
description that makes no sense is complained about, and there are no colors then. -/
def paletteFor (launch : Launch) : Routine (Option Palette) := do
  match (given? launch "LS_COLORS").filter (! ·.isEmpty) with
  | none => return if showsColors launch then some .usual else none
  | some text =>
    match Palette.read text with
    | .ok palette => return some palette
    | .error label =>
      if let some label := label then
        complain launch (Bytes.ofString "unrecognized prefix: " ++ escaped label)
      complain launch (Bytes.ofString "unparsable value for LS_COLORS environment variable")
      return none

/-- Names of options without values. -/
def plainNames : List (String × String) :=
  [("all", "a"), ("escape", "b"), ("directory", "d"), ("dired", "D"), ("full-time", "full-time"),
    ("group-directories-first", "group-directories-first"), ("human-readable", "h"),
    ("inode", "i"), ("kibibytes", "k"), ("numeric-uid-gid", "n"), ("no-group", "G"),
    ("hide-control-chars", "q"), ("reverse", "r"), ("size", "s"), ("almost-all", "A"),
    ("ignore-backups", "B"), ("file-type", "file-type"), ("si", "si"),
    ("dereference-command-line", "H"),
    ("dereference-command-line-symlink-to-dir", "namedDirectories"), ("dereference", "L"),
    ("literal", "N"), ("quote-name", "Q"), ("recursive", "R"),
    ("show-control-chars", "show-control-chars"), ("zero", "zero"), ("context", "Z"),
    ("author", "author")]

/-- Names of options with values. -/
def valuedNames : List (String × String) :=
  [("width", "w"), ("hide", "hide"), ("ignore", "I"), ("indicator-style", "indicator-style"),
    ("quoting-style", "quoting-style"), ("format", "format"), ("sort", "sort"),
    ("tabsize", "T"), ("time", "time"), ("time-style", "time-style"),
    ("block-size", "block-size")]

/-- The options of the tool. -/
def options : OptionReader ListSetting where
  table := {
    letters := plainLetters "abcdfghiklmnopqrstuvxABCDFGHLNQRSUXZ1" ++ valuedLetters "wIT"
    names := plainNames.map (fun (name, key) => ⟨name, .alone, key⟩) ++
      valuedNames.map (fun (name, key) => ⟨name, .valued, key⟩) ++
      ["classify", "color", "hyperlink"].map
        (fun name => ⟨name, .open, if name = "classify" then "F" else name⟩) ++
      commonNames }
  initial := .plain
  apply := apply

end ListSetting

end ShellSmoke.Tools
