/-
This file starts the shell: it reads the arguments, and then the script from wherever they say.
-/

import ShellSmoke.Shell.Interpreter
import ShellSmoke.Tools.Basic

namespace ShellSmoke.Shell

open Machine

/-! ### Arguments -/

/-- Where the script of a shell is. -/
inductive Origin where
  | standardInput
  /-- The script is a text, and can be followed by another one on the standard input. -/
  | text (script : Octets) (continued : Bool)
  | file (path : Octets)
deriving DecidableEq, Repr, Inhabited

/-- What the arguments of a shell ask for. -/
structure Start where
  origin : Origin
  /-- The name of the shell or of its script. -/
  name : Octets
  arguments : List Octets
  options : Options
deriving DecidableEq, Repr, Inhabited

/-- What the words after the name of the shell ask for. -/
def Start.ofWords (shell : Octets) (words : OptionWords) : Except Octets Start :=
  match words.operands with
  | [] =>
    if words.isCommand then .error "-c requires an argument".toList
    else .ok ⟨.standardInput, shell, [], words.options.turn 's' true⟩
  | word :: rest =>
    let reads := words.options.contains 's'
    if words.isCommand then .ok ⟨.text word reads, rest.headD shell, rest.tail, words.options⟩
    else if reads then .ok ⟨.standardInput, shell, word :: rest, words.options⟩
    else .ok ⟨.file word, word, rest, words.options⟩

/-- Reads the words after the name of the shell. The value also holds what is to be printed about
options. -/
def Start.read (shell : Octets) (words : List Octets) : Except Octets Start × Octets :=
  match OptionWords.read true [] words with
  | .error (fault, words) => (.error fault, words.listed)
  | .ok words => (Start.ofWords shell words, words.listed)

/-- A shell that has done nothing yet. It keeps its own name until it has opened its script. -/
def Session.fresh (shell : Octets) (process : Nat) (launch : Launch) : Session where
  name := shell
  arguments := []
  bindings :=
    let given := launch.bindings.map fun (name, value) =>
      ⟨Octets.ofBytes name, some (Octets.ofBytes value), true, false⟩
    let usual := [("IFS", " \t\n"), ("OPTIND", "1"), ("PS1", "# "), ("PS2", "> "), ("PS4", "+ ")]
    given ++ usual.map fun (name, value) => ⟨name.toList, some value.toList, false, false⟩
  functions := []
  status := 0
  substituted := none
  process
  background := none
  jobs := []
  arrived := []
  options := []
  loops := 0
  tested := false
  traps := []
  interrupted := none
  calls := 0
  frames := []
  letterPlace := (1, none)
  speaker := []
  line := 0
  reached := 1
  aliases := []
  found := []
  place := []
  unwritten := false
  lifetime := launch.lifetime

/-- Gives a shell the name, the arguments and the options that were asked for. -/
def Session.started (session : Session) (start : Start) : Session :=
  { session with
    name := start.name
    arguments := start.arguments
    options := if start.options.contains 'i' then start.options.turn 'm' true else start.options }

/-- Takes note of the working directory that a shell starts in, by the path that it was given if
that leads there. -/
def findPlace : Work Unit := do
  let own := Octets.ofBytes (← Routine.directory)
  let place ← match (← get).valueOf? "PWD" with
    | none => pure own
    | some path => do
      let given ← Routine.inspect path.toBytes
      let here ← Routine.inspect (Octets.toBytes ['.'])
      let same := (given.toOption.map (·.identity)) = here.toOption.map (·.identity)
      pure (if path.head? = some '/' ∧ same then path else own)
  modify fun session => { session with place }
  exportVariable "PWD".toList place

/-- Takes note of the process that started the shell. -/
def findParent : Work Unit := do
  setVariable "PPID".toList (.ofNat (← Routine.parent))

/-- Lets a shell be what was asked for. -/
def become (start : Start) : Work Unit := do
  modify (·.started start)
  settleOptions []

/-- The descriptor that gives the script of a shell, or what a user adds to it. -/
def openScript (start : Start) : Work Nat := do
  match start.origin with
  | .standardInput | .text _ _ => return 0
  | .file path =>
    match ← Routine.openFile path.toBytes .reading with
    | .error errno =>
      report (openFault .reading path errno)
      leave 2
    | .ok opened => return (← saveDescriptor opened).kept.getD opened

/-- Runs a script and, if it is given up while the shell talks to a user, what follows instead. Then
what commands took for themselves is given back first. -/
def forUser (script : Work Flow) (instead : Work Flow) : Work Flow := do
  match ← outcome script with
  | .ok flow => return flow
  | .error breach =>
    unless breach ≠ .departure ∧ (← get).options.contains 'i' do throw breach
    if breach = .interruption then
      let _ ← write 2 ['\n']
    giveBackTo 0
    modify fun session => { session with
      loops := 0
      tested := false
      interrupted := none }
    instead

/-- Runs the script that a descriptor gives. A user who gives something up is asked for more, and
what was read with it is forgotten. -/
def converse (means : Means) (descriptor : Nat) : (count : Nat) → Work Flow
  | 0 => return .normal
  | count + 1 => do
    let session ← get
    let cursor := { Cursor.start [] false with line := session.reached }
    forUser (runSupplied means true session.lifetime false cursor ⟨descriptor, []⟩)
      (converse means descriptor count)

/-- Runs the script that a variable names for shells that talk to users. -/
def runPrelude (means : Means) : Work Flow := do
  let path ← promptText means "ENV"
  if (← get).options.contains 'i' ∧ ¬ path.isEmpty then
    if let .ok opened ← Routine.openFile path.toBytes .reading then
      return ← withOpened opened (runDescriptor means false)
  return .normal

/-- Runs the script of a shell. -/
def runStart (means : Means) (start : Start) : Work Unit := do
  let descriptor ← openScript start
  become start
  let _ ← forUser (runPrelude means) (return .normal)
  modify fun session => { session with line := 1 }
  let talk : Work Flow := do converse means descriptor (← get).lifetime
  let _ ← match start.origin with
    | .standardInput | .file _ => talk
    | .text script continued =>
      forUser (runWhole means (! continued) script >>= fun flow =>
        if continued ∧ flow = .normal then talk else return flow) talk

/-- The shell. -/
def shell : Tool := Tools.toolOf "dash" fun launch => do
  let words := launch.arguments.map Octets.ofBytes
  let name := words.headD []
  let number ← Routine.identity
  let means := meansOf launch.lifetime
  let whole : Work Unit := do
    let (start, listed) := Start.read name words.tail
    match start with
    | .error fault => ensuring (abandon fault) (print listed)
    | .ok start =>
      print listed
      findPlace
      findParent
      runStart means start
  let (_, session) ← process means whole (Session.fresh name number launch)
  return session.status.toUInt8

end ShellSmoke.Shell
