/-
This file holds the tool that shows the end of files, and what is added to them later. The system
tells at once of changes to most files; the others are looked at again after each pause.
-/

import ShellSmoke.Tools.Excerpt

namespace ShellSmoke.Tools

open Machine

/-! ### Showing files -/

/-- A file that is followed. -/
structure Followed where
  word : Bytes
  /-- What it was opened as, if it could be. -/
  descriptor : Option Nat
  /-- Whether nothing more is expected of the file. -/
  dropped : Bool
  /-- How often nothing was new in the file. -/
  unchanged : Nat := 0
deriving DecidableEq, Repr, Inhabited

/-- The name of a file in messages. -/
def titleOf (word : Bytes) : Bytes :=
  if word = Bytes.ofString "-" then Bytes.ofString "standard input" else word

/-- The line that names a file; but for the first it has an empty line before it. -/
def fileTitle (first : Bool) (word : Bytes) : Bytes :=
  (if first then [] else [10]) ++ Bytes.ofString "==> " ++ titleOf word ++
    Bytes.ofString " <==\n"

/-- How much is kept before it is written. -/
def keptSize : Nat := 4096

/-- Writes a text to standard output; the tool ends if that fails. -/
def showText (launch : Launch) (text : Bytes) : Routine Unit := do
  if let .error errno ← Routine.writeAll 1 launch.lifetime text then
    if keptSize < text.length then
      complain launch (Bytes.ofString ("error writing 'standard output': " ++ errno.text))
    else complainOfWriting launch errno
    Routine.exit 1

/-- Reads a descriptor to its end. The value also holds what went wrong, if anything. -/
def readToEnd (descriptor : Nat) : (lifetime : Nat) → Routine (Bytes × Option Errno)
  | 0 => pure ([], none)
  | lifetime + 1 => do
    match ← Routine.read descriptor chunkSize with
    | .error errno => pure ([], some errno)
    | .ok [] => pure ([], none)
    | .ok chunk =>
      let (rest, fault) ← readToEnd descriptor lifetime
      pure (chunk ++ rest, fault)

/-- Shows the part of a file that an excerpt asks for. The value holds what went wrong. -/
def showExcerpt (launch : Launch) (excerpt : Excerpt) (descriptor : Nat) :
    Routine (Option Errno) := do
  if excerpt.fromFront then
    match ← copyThrough excerpt.skip descriptor launch.lifetime excerpt.skipped with
    | .ok _ => return none
    | .error (.reading errno) => return some errno
    | .error (.writing errno) =>
      complainOfWriting launch errno
      Routine.exit 1
  else
    let (content, fault) ← readToEnd descriptor launch.lifetime
    showText launch (excerpt.of content)
    return fault

/-- Whether files are named that are not the only one. -/
def TailSetting.isTitled (setting : TailSetting) (words : List Bytes) : Bool :=
  setting.titled.getD (decide (1 < words.length))

/-- Shows parts of files, one after another. The value holds the files, and tells whether all went
well. -/
def showFiles (launch : Launch) (setting : TailSetting) (titled first : Bool) :
    List Bytes → Routine (List Followed × Bool)
  | [] => pure ([], true)
  | word :: rest => do
    let name := quoted (titleOf word)
    let problem (text : Bytes) (errno : Errno) : Routine Unit :=
      complain launch (text ++ Bytes.ofString (": " ++ errno.text))
    match ← openInput word with
    | .error errno =>
      problem (Bytes.ofString "cannot open " ++ name ++ Bytes.ofString " for reading") errno
      let (files, _) ← showFiles launch setting titled first rest
      return ({ word, descriptor := none, dropped := ! setting.retry } :: files, false)
    | .ok descriptor =>
      if titled then showText launch (fileTitle first word)
      let state ← Routine.describe descriptor
      let well ← match state with
        | .error errno =>
          problem (Bytes.ofString "cannot fstat " ++ name) errno
          pure false
        | .ok _ =>
          match ← showExcerpt launch setting.excerpt descriptor with
          | none => pure true
          | some errno =>
            problem (Bytes.ofString "error reading " ++ name) errno
            if setting.excerpt.inBytes then Routine.exit 1
            pure false
      let follows := setting.follow.isSome
      let isDirectory := (state.toOption.map (·.kind)) = some .directory
      if follows ∧ isDirectory then
        let giving := if setting.retry then "" else "; giving up on this name"
        complain launch (quotedIfNeeded (titleOf word) ++
          Bytes.ofString (": cannot follow end of this type of file" ++ giving))
      let kept := follows ∧ well ∧ ¬ isDirectory
      if ¬ kept then closeInput word descriptor
      let (files, others) ← showFiles launch setting titled false rest
      let file : Followed := {
        word
        descriptor := if kept then some descriptor else none
        dropped := ! kept && ! setting.retry }
      return (file :: files, well && others && ! (follows && isDirectory))

/-! ### What is new in a file -/

/-- Shows what was added to a file. The value holds the file, and the name of the file that was
shown last. -/
def showAdded (launch : Launch) (titled : Bool) (last : Option Bytes) (file : Followed)
    (descriptor : Nat) : Routine (Followed × Option Bytes) := do
  let state ← Routine.describe descriptor
  let shorter : Bool := match state with
    | .ok state => state.kind = .regular && decide (state.size < state.position)
    | .error _ => false
  let descriptor ← if shorter then do
      complain launch (quotedIfNeeded (titleOf file.word) ++ Bytes.ofString ": file truncated")
      match ← openInput file.word with
      | .ok other =>
        closeInput file.word descriptor
        pure other
      | .error _ => pure descriptor
    else pure descriptor
  let (added, _) ← readToEnd descriptor launch.lifetime
  let file := { file with descriptor := some descriptor }
  if added.isEmpty then return (file, last)
  else
    if titled ∧ last ≠ some file.word then showText launch (fileTitle false file.word)
    showText launch added
    return ({ file with unchanged := 0 }, some file.word)

/-- Looks whether a name still leads to a file, or does so again. -/
def lookAgain (launch : Launch) (setting : TailSetting) (file : Followed) : Routine Followed := do
  let name := quoted file.word
  match file.descriptor, ← Routine.inspect file.word with
  | some descriptor, .error errno =>
    if setting.follow = some .name then
      if setting.retry then
        complain launch (name ++ Bytes.ofString (" has become inaccessible: " ++ errno.text))
      else complain launch (complaint file.word errno)
      closeInput file.word descriptor
      return { file with descriptor := none, dropped := ! setting.retry }
    else return file
  | none, .ok state =>
    if file.dropped ∨ state.kind = .directory then return file
    else
      match ← openInput file.word with
      | .error _ => return file
      | .ok descriptor =>
        complain launch (name ++ Bytes.ofString " has appeared;  following new file")
        return { file with descriptor := some descriptor }
  | _, _ => return file

/-! ### Following files -/

/-- Whether a process that is watched has ended. -/
def isGone (setting : TailSetting) : Routine Bool := do
  match setting.watched with
  | none => return false
  | some process => return (← Routine.send process none).toOption.isNone

/-- Ends the tool if nobody can read what it writes. -/
def stopUnheard : Routine Unit := do
  if let .ok state ← Routine.describe 1 then
    if state.broken then
      let _ ← Routine.send (← Routine.identity) (some .pipe)
      Routine.exit 1

/-- Whether nothing more is expected of any file. If so, this is told. -/
def isFinished (launch : Launch) (files : List Followed) : Routine Bool := do
  let finished := files.all fun file => file.descriptor.isNone && file.dropped
  if finished then complain launch (Bytes.ofString "no files remaining")
  return finished

/-- Whether the system tells at once of what happens to the files: some are open, all of those are
regular or pipes, no name stands for another, and none is standard input. -/
def areTold (setting : TailSetting) (files : List Followed) (well : Bool) : Routine Bool := do
  let kinds ← (files.filterMap (·.descriptor)).mapM fun descriptor => do
    return (← Routine.describe descriptor).toOption.map (·.kind)
  let isLink (file : Followed) : Routine Bool :=
    return ((← Routine.inspectItself file.word).toOption.map (·.kind)) = some .link
  let links ← files.filterM isLink
  let inputs := files.filter fun file => file.word = Bytes.ofString "-" && ! file.dropped
  return ! kinds.isEmpty && kinds.all [some FileKind.regular, some FileKind.pipe].contains &&
    links.isEmpty && inputs.isEmpty && (well || setting.follow = some .name)

/-- How long it takes until the tool acts on what it is told, in microseconds. -/
def noticeTime : Nat := 10000

/-- Looks at all files once that the system tells about. -/
def followOnce (launch : Launch) (setting : TailSetting) (titled : Bool) :
    Option Bytes → List Followed → Routine (List Followed × Option Bytes)
  | last, [] => pure ([], last)
  | last, file :: rest => do
    let file ← lookAgain launch setting file
    let (file, last) ← match file.descriptor with
      | none => pure (file, last)
      | some descriptor => showAdded launch titled last file descriptor
    let (files, last) ← followOnce launch setting titled last rest
    return (file :: files, last)

/-- Follows files that the system tells about until nothing is left of them, or until a process that
is watched has ended, which is looked at after each pause. -/
def followTold (launch : Launch) (setting : TailSetting) (titled : Bool) :
    (lifetime waited : Nat) → Option Bytes → List Followed → Routine Unit
  | 0, _, _, _ => pure ()
  | lifetime + 1, waited, last, files => do
    unless ← isFinished launch files do
      let due := waited = 0 ∨ setting.pause ≤ waited
      let gone ← if due then isGone setting else pure false
      let (files, last) ← followOnce launch setting titled last files
      unless gone do
        stopUnheard
        Routine.sleep noticeTime
        followTold launch setting titled lifetime
          (if due then noticeTime else waited + noticeTime) last files

/-- Looks at a file that the system tells nothing about. A name is looked at when nothing was new
for some time. -/
def lookAtFile (launch : Launch) (setting : TailSetting) (titled : Bool) (last : Option Bytes)
    (file : Followed) : Routine (Followed × Option Bytes) := do
  match file.descriptor with
  | none => return (← lookAgain launch setting file, last)
  | some descriptor =>
    let state := (← Routine.describe descriptor).toOption
    if state.any fun state => state.kind = .regular && state.size = state.position then
      if file.unchanged < setting.patience ∨ setting.follow ≠ some .name then
        return ({ file with unchanged := file.unchanged + 1 }, last)
      else return (← lookAgain launch setting { file with unchanged := 0 }, last)
    else showAdded launch titled last file descriptor

/-- Looks at all files once that the system tells nothing about. -/
def lookAtFiles (launch : Launch) (setting : TailSetting) (titled : Bool) :
    Option Bytes → List Followed → Routine (List Followed × Option Bytes)
  | last, [] => pure ([], last)
  | last, file :: rest => do
    let (file, last) ← lookAtFile launch setting titled last file
    let (files, last) ← lookAtFiles launch setting titled last rest
    return (file :: files, last)

/-- Follows files that the system tells nothing about, and looks at them after each pause. -/
def followUntold (launch : Launch) (setting : TailSetting) (titled : Bool) :
    (lifetime : Nat) → (gone : Bool) → Option Bytes → List Followed → Routine Unit
  | 0, _, _, _ => pure ()
  | lifetime + 1, gone, last, files => do
    let (files, last) ← lookAtFiles launch setting titled last files
    unless ← isFinished launch files do
      stopUnheard
      unless gone do
        let gone ← isGone setting
        unless gone do Routine.sleep setting.pause
        followUntold launch setting titled lifetime gone last files

/-- Whether a file is a pipe that was given as standard input, of which nothing more is expected. -/
def isInputPipe (file : Followed) : Routine Bool := do
  if file.word ≠ Bytes.ofString "-" ∨ file.descriptor.isNone then return false
  else
    match ← Routine.describe 0 with
    | .ok state => return state.kind = .pipe
    | .error _ => return false

/-! ### The tool -/

/-- Tells of options that have no effect. -/
def warnOfOptions (launch : Launch) (setting : TailSetting) : Routine Unit := do
  let warn (text : String) : Routine Unit := complain launch (Bytes.ofString ("warning: " ++ text))
  if setting.retry then
    match setting.follow with
    | none => warn "--retry ignored; --retry is useful only when following"
    | some .descriptor => warn "--retry only effective for the initial open"
    | some .name => pure ()
  if setting.watched.isSome ∧ setting.follow.isNone then
    warn "PID ignored; --pid=PID is useful only when following"

/-- Shows the end of files, and follows them if that is wanted; the value is the exit code. -/
def showEnds (launch : Launch) (setting : TailSetting) (operands : List Bytes) :
    Routine UInt8 := do
  let dash := Bytes.ofString "-"
  warnOfOptions launch setting
  let words := if operands.isEmpty then [dash] else operands
  if words.contains dash ∧ setting.follow = some .name then
    complain launch (Bytes.ofString "cannot follow '-' by name")
    return 1
  let excerpt := setting.excerpt
  if excerpt.count = 0 ∧ setting.follow.isNone ∧ ¬ excerpt.fromFront then return 0
  let titled := setting.isTitled words
  let (files, well) ← showFiles launch setting titled true words
  if setting.follow.isSome then
    let expected ← files.filterM fun file => return ! (← isInputPipe file)
    if ¬ expected.isEmpty then
      let last := words.getLast?
      if ← areTold setting expected well then
        followTold launch setting titled launch.lifetime 0 last expected
      else followUntold launch setting titled launch.lifetime false last expected
  if words.contains dash then
    if let .error errno ← Routine.close 0 then
      complain launch (Bytes.ofString ("-: " ++ errno.text))
      return 1
  return if well then 0 else 1

/-- Shows the end of the files named, or of standard input, and of those that are followed also what
is added to them. -/
def tail : Tool := toolOf "tail" fun launch => do
  let plain (initial : TailSetting) (words : List Bytes) : Routine UInt8 :=
    runWithOptions "tail" 1 { TailSetting.options with initial } launch words
      (showEnds launch)
  match launch.arguments.tail with
  | word :: rest =>
    match if allowsOldForm (word :: rest) then oldForm? word else none with
    | some (.ok setting) => plain setting rest
    | some (.error _) =>
      complain launch (Bytes.ofString "invalid number: " ++ escaped word ++
        Bytes.ofString ": Numerical result out of range")
      return 1
    | none => plain .plain (word :: rest)
  | [] => plain .plain []

end ShellSmoke.Tools
