/-
This file holds what the small programs of the system have in common, and the simplest of them.
-/

import ShellSmoke.Machine.Boot
import ShellSmoke.Tools.Options

namespace ShellSmoke.Tools

open Machine

/-! ### Common parts -/

/-- The name that a tool was started with. -/
def nameOf (launch : Launch) : Bytes := launch.arguments.headD []

/-- The library that is loaded first when a tool starts. -/
def firstLibrary (name : String) : String := if name = "ls" then "libselinux.so.1" else "libc.so.6"

/-- Loads the libraries of a tool, which takes a descriptor for a while, and goes on with the tool.
-/
def loaded (name : String) (launch : Launch) (work : Routine UInt8) : Routine UInt8 := do
  match ← Routine.openFile (Bytes.ofString "/") .reading with
  | .ok opened =>
    let _ ← Routine.close opened
    work
  | .error errno =>
    let _ ← Routine.writeAll 2 launch.lifetime (nameOf launch ++
      Bytes.ofString (": error while loading shared libraries: " ++ firstLibrary name ++
        ": cannot open shared object file: Error " ++ toString errno.number ++ "\n"))
    return 127

/-- A tool from a routine whose value is the exit code. -/
def toolOf (name : String) (work : Launch → Routine UInt8) : Tool :=
  ⟨name, fun launch => loaded name launch (work launch) fun code => .exit code⟩

/-- The value of a variable that a tool was started with. -/
def given? (launch : Launch) (name : String) : Option Bytes :=
  launch.bindings.lookup (Bytes.ofString name)

/-- Writes a message that names the tool to standard error, whatever comes of it. -/
def complain (launch : Launch) (text : Bytes) : Routine Unit := do
  let _ ← Routine.writeAll 2 launch.lifetime
    (nameOf launch ++ Bytes.ofString ": " ++ text ++ [10])

/-- A complaint about a file. -/
def complaint (subject : Bytes) (errno : Errno) : Bytes :=
  quotedIfNeeded subject ++ Bytes.ofString (": " ++ errno.text)

/-! ### Options -/

/-- Complains about arguments that make no sense, and tells where to read about them. -/
def misuse (launch : Launch) (fault : Bytes) : Routine Unit :=
  complain launch (fault ++ Bytes.ofString "\nTry '" ++ nameOf launch ++
    Bytes.ofString " --help' for more information.")

/-- What stops a tool while it reads its options. -/
inductive Objection where
  /-- Arguments that make no sense. -/
  | misuse (message : Bytes)
  /-- A word that is none of those to choose from. -/
  | choice (message : Bytes)
  /-- A value that makes no sense. -/
  | value (message : Bytes)
deriving DecidableEq, Repr, Inhabited

/-- A tool whose options change what it is set to do. -/
structure OptionReader (Setting : Type) where
  table : OptionTable
  initial : Setting
  /-- What an option changes. -/
  apply : Setting → (key : String) → (value : Option Bytes) → Except Objection Setting

/-- What comes of wishes: settings, the key of a wish to be informed, or what stops the tool. -/
def OptionReader.settle {Setting : Type} (reader : OptionReader Setting) :
    Setting → List Wish → Except Objection (Setting ⊕ String)
  | setting, [] => .ok (.inl setting)
  | _, .fault message :: _ => .error (.misuse message)
  | setting, .option key value :: rest =>
    if commonNames.any fun entry => entry.key = key then .ok (.inr key)
    else
      match reader.apply setting key value with
      | .ok setting => reader.settle setting rest
      | .error objection => .error objection

/-- What a tool says about itself. -/
def inform (launch : Launch) (name key : String) : Routine Unit := do
  let text := if key = "help" then
      Bytes.ofString "Usage: " ++ nameOf launch ++ Bytes.ofString " [OPTION]... [FILE]...\n"
    else Bytes.ofString (name ++ "\n")
  let _ ← Routine.writeAll 1 launch.lifetime text

/-- Tells what stops a tool; the value is its exit code, which is mostly `refused`. -/
def object (launch : Launch) (refused : UInt8) : Objection → Routine UInt8
  | .misuse message => do
    misuse launch message
    return refused
  | .choice message => do
    misuse launch message
    return 1
  | .value message => do
    complain launch message
    return refused

/-- Reads options and goes on with what they set and the operands. Arguments that make no sense end
the tool. Where the variable `POSIXLY_CORRECT` is set, options come before operands. -/
def runWithOptions {Setting : Type} (name : String) (refused : UInt8)
    (reader : OptionReader Setting) (launch : Launch) (words : List Bytes)
    (work : Setting → List Bytes → Routine UInt8) : Routine UInt8 := do
  let mixed := (given? launch "POSIXLY_CORRECT").isNone
  let (wishes, operands) := reader.table.read mixed words
  match reader.settle reader.initial wishes with
  | .ok (.inl setting) => work setting operands
  | .ok (.inr key) =>
    inform launch name key
    return 0
  | .error objection => object launch refused objection

/-- A tool with options. -/
def toolWithOptions {Setting : Type} (name : String) (refused : UInt8)
    (reader : OptionReader Setting)
    (work : Launch → Setting → List Bytes → Routine UInt8) : Tool :=
  toolOf name fun launch =>
    runWithOptions name refused reader launch launch.arguments.tail (work launch)

/-! ### Files -/

/-- Opens a file for reading; a word `-` stands for standard input. -/
def openInput (word : Bytes) : Routine (Except Errno Nat) :=
  if word = Bytes.ofString "-" then pure (.ok 0)
  else Routine.openFile word .reading

/-- Closes a descriptor that was opened for a word; standard input stays open. -/
def closeInput (word : Bytes) (descriptor : Nat) : Routine Unit := do
  if word ≠ Bytes.ofString "-" then
    let _ ← Routine.close descriptor

/-! ### Copying -/

/-- How many bytes are read at once. -/
def chunkSize : Nat := 131072

/-- What went wrong while a file was copied. -/
inductive CopyFault where
  | reading (errno : Errno)
  | writing (errno : Errno)
deriving DecidableEq, Repr, Inhabited

/-- Copies a descriptor to standard output until its end. A text is changed on the way, and what is
known after it goes with the next one. -/
def copyThrough {State : Type} (change : State → Bytes → Bytes × State) (descriptor : Nat) :
    (lifetime : Nat) → State → Routine (Except CopyFault State)
  | 0, state => pure (.ok state)
  | lifetime + 1, state => do
    match ← Routine.read descriptor chunkSize with
    | .error errno => pure (.error (.reading errno))
    | .ok [] => pure (.ok state)
    | .ok chunk =>
      let (text, state) := change state chunk
      match ← Routine.writeAll 1 (lifetime + 1) text with
      | .error errno => pure (.error (.writing errno))
      | .ok () => copyThrough change descriptor lifetime state

/-- Copies a descriptor to standard output until its end, as it is. -/
def copy (descriptor lifetime : Nat) : Routine (Except CopyFault Unit) :=
  copyThrough (fun () text => (text, ())) descriptor lifetime ()

/-- Tells that the output could not be written. -/
def complainOfWriting (launch : Launch) (errno : Errno) : Routine Unit :=
  complain launch (Bytes.ofString ("write error: " ++ errno.text))

/-! ### Tools that hardly do anything -/

/-- A tool that ends with a code, and at most tells about itself. -/
def constantTool (name : String) (code : UInt8) : Tool := toolOf name fun launch => do
  match launch.arguments.tail with
  | [word] =>
    if word = Bytes.ofString "--help" then inform launch name "help"
    if word = Bytes.ofString "--version" then inform launch name "version"
    return code
  | _ => return code

/-- Succeeds. -/
def succeed : Tool := constantTool "true" 0

/-- Fails. -/
def fail : Tool := constantTool "false" 1

/-- Prints the working directory. -/
def workingDirectory : Tool := toolOf "pwd" fun launch => do
  let path ← Routine.directory
  let _ ← Routine.writeAll 1 launch.lifetime (path ++ [10])
  return 0

end ShellSmoke.Tools
