/-
This file models files: nodes, which hold bytes or stand for something, and the paths at which they
are. A node stays when its path is taken away, so that those who have it open can go on with it.
-/

import ShellSmoke.Machine.Program

namespace ShellSmoke.Machine

/-- An absolute path, as the names on the way from the root. -/
abbrev Path := List Bytes

/-- A device. -/
inductive Device where
  /-- Swallows what is written, and has nothing to read. -/
  | null
  /-- Swallows what is written, and is full of zeros. -/
  | zero
  /-- Is full of zeros, and takes nothing. -/
  | full
  /-- The terminal, which there is not. -/
  | terminal
deriving DecidableEq, Repr, Inhabited

/-- The numbers by which the system knows a device: that of its kind, and its own. -/
def Device.numbers : Device → Nat × Nat
  | null => (1, 3)
  | zero => (1, 5)
  | full => (1, 7)
  | terminal => (5, 0)

/-- The name of a device. -/
def Device.name : Device → String
  | null => "null"
  | zero => "zero"
  | full => "full"
  | terminal => "tty"

/-- What is found at a path. -/
inductive Node where
  | directory (mode : Nat)
  | device (device : Device)
  /-- What a descriptor of a process stands for. -/
  | held (process descriptor : Nat)
  /-- A file with its permissions, and when it was changed last. -/
  | regular (content : Bytes) (mode modified : Nat)
  | binary (main : Launch → Program)
  /-- What the system tells when it is read, with its permissions. -/
  | report (content : Bytes) (mode : Nat)
  /-- What another path leads to. -/
  | link (target : Bytes)

instance : Inhabited Node := ⟨.directory 0⟩

/-- The size that a directory has. -/
def directorySize : Nat := 4096

/-- The size that a program of the system has. -/
def programSize : Nat := 125688

/-- What the system tells about a node, which a text identifies. -/
def Node.state (identity : Bytes) (node : Node) : FileState :=
  let state (kind : FileKind) (mode size modified : Nat) : FileState :=
    { kind, mode, size, modified, identity, position := 0 }
  match node with
  | .directory mode => state .directory mode directorySize 0
  | .device known => { state .device 0o666 0 0 with device := some known.numbers }
  | .held _ _ => state .link 0o700 64 0
  | .regular content mode modified => state .regular mode content.length modified
  | .binary _ => state .regular 0o755 programSize 0
  | .report _ mode => state .regular mode 0 0
  | .link target => { state .link 0o777 target.length 0 with target }

/-- Whether a node is a directory. -/
def Node.isDirectory : Node → Bool
  | directory _ => true
  | _ => false

/-- The files of a system. -/
structure Files where
  /-- All nodes that there ever were, by their numbers. -/
  nodes : List (Nat × Node)
  /-- The numbers of the nodes at the paths, in the order in which they came there. -/
  places : List (Path × Nat)
deriving Inhabited

namespace Files

/-- Nothing but the root. -/
def empty : Files := ⟨[(0, .directory 0o755)], [([], 0)]⟩

/-- The node of a number. -/
def node? (files : Files) (number : Nat) : Option Node := files.nodes.lookup number

/-- The number of the node at a path. -/
def number? (files : Files) (path : Path) : Option Nat := files.places.lookup path

/-- What is found at a path. -/
def find? (files : Files) (path : Path) : Option Node := (files.number? path).bind files.node?

/-- Makes a node that is at no path; the value is its number. -/
def make (files : Files) (node : Node) : Nat × Files :=
  let number := files.nodes.length
  (number, { files with nodes := (number, node) :: files.nodes })

/-- Changes the node of a number. -/
def change (files : Files) (number : Nat) (node : Node) : Files :=
  { files with
    nodes := files.nodes.map fun (other, found) =>
      (other, if other = number then node else found) }

/-- Puts something at a path. -/
def put (files : Files) (path : Path) (node : Node) : Files :=
  match files.number? path with
  | some number => files.change number node
  | none =>
    let (number, files) := files.make node
    { files with places := files.places ++ [(path, number)] }

/-- Takes away what is at a path. -/
def erase (files : Files) (path : Path) : Files :=
  { files with places := files.places.filter fun (other, _) => other ≠ path }

/-- Whether one byte string comes before another in the order of their bytes. -/
def before (first second : Bytes) : Bool := decide (first ≤ second)

/-- The names in a directory, in order. -/
def names (files : Files) (directory : Path) : List Bytes :=
  (files.places.filterMap fun (path, _) =>
    match path.getLast? with
    | some name => if path.dropLast = directory then some name else none
    | none => none).mergeSort before

/-- The text of an absolute path. -/
def pathText (path : Path) : Bytes :=
  if path.isEmpty then Bytes.ofString "/"
  else path.flatMap fun name => '/'.toUInt8 :: name

end Files

/-! ### Resolving paths -/

/-- Where paths lead: what is found at each place. -/
abbrev Places := Path → Option Node

namespace Places

/-- The longest name that a directory can hold. -/
def nameLimit : Nat := 255

/-- One more than the longest path that the system takes. -/
def pathLimit : Nat := 4096

/-- A place on the way that the parts of a path lead, and the parts that are left: none if the way
ends at the place. -/
abbrev Way := Path × List Bytes

/-- The way that a link leads, from the place where it is. -/
def Way.ofLink (place : Path) (target : Bytes) (rest : List Bytes) : Way :=
  let slash := '/'.toUInt8
  (if target.head? = some slash then [] else place, Bytes.splitOn slash target ++ rest)

/-- Follows the parts of a path from a place that is known to be there, up to the first link. The
last part may be a link that is meant itself. `..` at the root stays at the root. -/
def walk (places : Places) (following : Bool) (place : Path) : List Bytes → Except Errno Way
  | [] => .ok (place, [])
  | part :: rest =>
    match places place with
    | none => .error .noEntry
    | some (.directory _) =>
      if part = [] ∨ part = Bytes.ofString "." then walk places following place rest
      else if part = Bytes.ofString ".." then walk places following place.dropLast rest
      else if nameLimit < part.length then .error .nameTooLong
      else
        let next := place ++ [part]
        match places next with
        | some (.link target) =>
          if rest.isEmpty ∧ ¬ following then .ok (next, [])
          else .ok (.ofLink place target rest)
        | _ => walk places following next rest
    | some _ => .error .notDirectory

/-- How many links a path can lead through. -/
def linkLimit : Nat := 40

/-- Follows the parts of a path through links, of which there can be so many. -/
def walkThrough (places : Places) (following : Bool) : (links : Nat) → Way → Except Errno Path
  | 0, _ => .error .tooManyLinks
  | links + 1, (place, parts) => do
    let (place, rest) ← places.walk following place parts
    if rest.isEmpty then return place else walkThrough places following links (place, rest)

/-- The place that a path leads to, from a working directory. The last part may be missing there, or
be a link that is meant itself; a path that ends in `/` leads to a directory. -/
def locate (places : Places) (following : Bool) (directory : Path) (path : Bytes) :
    Except Errno Path :=
  let slash := '/'.toUInt8
  if path.isEmpty then .error .noEntry
  else if pathLimit ≤ path.length then .error .nameTooLong
  else
    places.walkThrough following (linkLimit + 1)
      (if path.head? = some slash then [] else directory, Bytes.splitOn slash path)

/-- What a path leads to, with its place. -/
def resolve (places : Places) (following : Bool) (directory : Path) (path : Bytes) :
    Except Errno (Path × Node) := do
  let place ← places.locate following directory path
  match places place with
  | some node => .ok (place, node)
  | none => .error .noEntry

end Places

end ShellSmoke.Machine
