/-
This file answers the requests of programs. A request that cannot be answered yet leaves the world
as it is; otherwise the world changes and the process goes on.
-/

import ShellSmoke.Machine.World

namespace ShellSmoke.Machine.World

/-! ### Reading and writing -/

/-- Reads from the pipe that carries the script: first what the harness wrote, then what processes
wrote themselves. -/
def readScript (world : World) (limit : Nat) : Option (Except Errno Bytes × World) :=
  let fed := world.exchange.input.held
  let own := world.inlet.held
  let first := min limit fed.size
  let second := min (limit - first) own.size
  if 0 < first + second then
    let world := if 0 < first then world.does (.read first) else world
    some (.ok (fed.bytes.take first ++ own.bytes.take second),
      { world with inlet := world.inlet.pull second })
  else if (world.exchange.input.atEnd ∧ world.inlet.atEnd) ∨ limit = 0 then some (.ok [], world)
  else none

/-- Reads from an open file, unless that has to wait. -/
def readFile (world : World) (number limit : Nat) : Option (Except Errno Bytes × World) :=
  match world.openFiles.lookup number with
  | none => some (.error .badDescriptor, world)
  | some file =>
    if ¬ file.reading then some (.error .badDescriptor, world)
    else
      let contentRead (content : Bytes) : Option (Except Errno Bytes × World) :=
        let bytes := (content.drop file.position).take limit
        some (.ok bytes, world.changeFile number fun file =>
          { file with position := file.position + bytes.length })
      match file.endpoint with
      | .script => world.readScript limit
      | .pipe number =>
        match world.channels.lookup number with
        | none => some (.ok [], world)
        | some channel =>
          let count := min limit channel.held.size
          if 0 < count then
            some (.ok (channel.held.bytes.take count),
              world.changeChannel number fun channel => channel.pull count)
          else if channel.atEnd ∨ limit = 0 then some (.ok [], world)
          else none
      | .node node =>
        match world.files.node? node with
        | some (.regular content _ _) | some (.report content _) => contentRead content
        | _ => some (.ok [], world)
      | .directory => some (.error .isDirectory, world)
      | .output => if world.exchange.output.writers = 0 then some (.ok [], world) else none
      | .device .zero | .device .full => some (.ok (List.replicate limit 0), world)
      | .device _ => some (.ok [], world)

/-- A file's content with bytes written at a position; a gap is filled with zeros. -/
def overwrite (content : Bytes) (position : Nat) (bytes : Bytes) : Bytes :=
  content.take position ++ List.replicate (position - content.length) 0 ++ bytes ++
    content.drop (position + bytes.length)

/-- Writes to an open file as much as it takes, unless that has to wait. A file does not grow beyond
a bound. -/
def writeFile (world : World) (number : Nat) (bound : Option Nat) (bytes : Bytes) :
    Option (Except Errno Nat × World) :=
  match world.openFiles.lookup number with
  | none => some (.error .badDescriptor, world)
  | some file =>
    if ¬ file.writing then some (.error .badDescriptor, world)
    else if bytes.isEmpty then some (.ok 0, world)
    else
      match file.endpoint with
      | .output =>
        let channel := world.exchange.output
        if channel.broken then some (.error .brokenPipe, world)
        else
          let accepted := (Buffer.ofBytes bytes).take channel.free
          if accepted.isEmpty then none
          else some (.ok accepted.size, world.does (.write .standardOutput accepted))
      | .script =>
        if world.exchange.input.broken then some (.error .brokenPipe, world)
        else
          let free := world.exchange.input.free - world.inlet.held.size
          let accepted := (Buffer.ofBytes bytes).take free
          if accepted.isEmpty then none
          else some (.ok accepted.size, { world with inlet := world.inlet.push accepted })
      | .pipe number =>
        match world.channels.lookup number with
        | none => some (.error .brokenPipe, world)
        | some channel =>
          if channel.broken then some (.error .brokenPipe, world)
          else
            let accepted := (Buffer.ofBytes bytes).take channel.free
            if accepted.isEmpty then none
            else
              some (.ok accepted.size,
                world.changeChannel number fun channel => channel.push accepted)
      | .node node =>
        match world.files.node? node with
        | some (.regular content mode _) =>
          let position := if file.appending then content.length else file.position
          let room := bound.map (· - position)
          let bytes := bytes.take (room.getD bytes.length)
          if bytes.isEmpty then some (.error .fileTooLarge, world)
          else
            let files := world.files.change node
              (.regular (overwrite content position bytes) mode world.fileTime)
            some (.ok bytes.length,
              changeFile { world with files } number fun file =>
                { file with position := position + bytes.length })
        | _ => some (.error .invalid, world)
      | .directory => some (.error .badDescriptor, world)
      | .device .full => some (.error .noSpace, world)
      | .device _ => some (.ok bytes.length, world)

/-! ### Opening -/

/-- The permissions of new files, before some are taken off. -/
def newMode : Nat := 0o666

/-- Some permissions without others. -/
def withoutPermissions (mode mask : Nat) : Nat := mode - (mode &&& mask)

/-- Whether a file is made where there is none if it is opened so. -/
def makes (mode : OpenMode) : Bool := mode ≠ .reading

/-- A file that is opened, for which no descriptor is counted yet. -/
def opened (mode : OpenMode) (endpoint : Endpoint) : OpenFile :=
  ⟨endpoint, mode = .reading || mode = .updating, mode ≠ .reading, mode = .appending, 0, 0⟩

/-- Opens a regular file, which is emptied where the mode says so. -/
def openNode (world : World) (mode : OpenMode) (number : Nat) : OpenFile × World :=
  let files := match mode, world.files.node? number with
    | .writing, some (.regular _ permissions _) =>
      world.files.change number (.regular [] permissions world.fileTime)
    | _, _ => world.files
  (opened mode (.node number), { world with files })

/-- Opens anew what an open file stands for. -/
def reopen (world : World) (mode : OpenMode) (file : OpenFile) :
    Except Errno (OpenFile × World) :=
  match file.endpoint with
  | .node number => .ok (world.openNode mode number)
  | .directory => if makes mode then .error .isDirectory else .ok (opened mode .directory, world)
  | endpoint => .ok (opened mode endpoint, world)

/-- Opens what is at a place, and makes a file if there is none and the mode says so. A new file
does not get the permissions of the mask of the process. -/
def openPlace (world : World) (process : Process) (mode : OpenMode) (place : Path) :
    Except Errno (OpenFile × World) :=
  let places := world.places process
  match places place with
  | some (.directory _) =>
    if makes mode then .error .isDirectory else .ok (opened mode .directory, world)
  | some (.device .terminal) => .error .noDevice
  | some (.device device) => .ok (opened mode (.device device), world)
  | some (.held number descriptor) =>
    let held := (world.process? number).bind (·.file? descriptor)
    match held.bind fun number => world.openFiles.lookup number with
    | some file => world.reopen mode file
    | none => .error .noEntry
  | some (.link _) => .error .noEntry
  | some (.regular _ _ _) =>
    match world.files.number? place with
    | some number => .ok (world.openNode mode number)
    | none => .error .noEntry
  | some (.report content permissions) =>
    let (number, files) := world.files.make (.report content permissions)
    .ok (opened mode (.node number), { world with files })
  | some (.binary _) =>
    if makes mode then .error .fileBusy else .ok (opened mode (.device .null), world)
  | none =>
    if makes mode then
      match places place.dropLast with
      | some (.directory _) =>
        if place.head? = some reportsName then .error .noEntry
        else
          let permissions := withoutPermissions newMode process.mask
          let (number, files) := world.files.make (.regular [] permissions world.fileTime)
          .ok (opened mode (.node number),
            { world with files := { files with places := files.places ++ [(place, number)] } })
      | some _ => .error .notDirectory
      | none => .error .noEntry
    else .error .noEntry

/-- The part of a path in front of its last name, if slashes follow that name. -/
def frontOfDirectory? (path : Bytes) : Option Bytes :=
  let isSlash (byte : UInt8) : Bool := byte = '/'.toUInt8
  if path.getLast?.any isSlash then
    some ((path.reverse.dropWhile isSlash).dropWhile (! isSlash ·)).reverse
  else none

/-- Opens a path for a process; the value is the number of the open file. No file is made by a path
that can only lead to a directory. -/
def openFor (world : World) (process : Process) (path : Bytes) (mode : OpenMode) :
    Except Errno (Nat × World) := do
  let places := world.places process
  if makes mode then
    if let some front := frontOfDirectory? path then
      let _ ← places.resolve true process.directory (front ++ Bytes.ofString "./")
      throw .isDirectory
  let place ← places.locate true process.directory path
  let (file, world) ← world.openPlace process mode place
  let (number, world) := world.addFile file
  return (number, world.hold number)

/-! ### Starting programs -/

/-- The number of bytes of a file that tell whether it is a script. -/
def headSize : Nat := 256

/-- How many files may be started on the way from a command to the program that runs it. -/
def scriptDepth : Nat := 6

/-- Whether a byte is a blank. -/
def isBlank (byte : UInt8) : Bool := byte = 32 || byte = 9

/-- Whether a byte ends the name of an interpreter. -/
def isTerminator (byte : UInt8) : Bool := isBlank byte || byte = 0

/-- The first line of a script, without its mark, from the head of the script filled up with zeros.
A head without an end of line is a line itself, unless the name of the interpreter may be cut. -/
def firstLine? (head : Bytes) : Option Bytes :=
  if (head.takeWhile (· ≠ 0)).contains 10 then some (head.takeWhile (· ≠ 10))
  else if (head.dropWhile isBlank).any isTerminator then some head.dropLast
  else none

/-- The interpreter that the first line of a script names, and the argument that the line gives it:
all that follows the name. A zero byte ends both. -/
def interpreter? (content : Bytes) : Option (Bytes × Option Bytes) :=
  if content.take 2 ≠ Bytes.ofString "#!" then none
  else
    let head := (content.take headSize).drop 2
    let filled := head ++ List.replicate (headSize - 2 - head.length) 0
    (firstLine? filled).bind fun line =>
      let trimmed := ((line.reverse.dropWhile isBlank).reverse).dropWhile isBlank
      let name := trimmed.takeWhile (! isTerminator ·)
      let rest := trimmed.drop name.length
      let argument := if rest.head?.any isBlank then
          some ((rest.dropWhile isBlank).takeWhile (· ≠ 0))
        else none
      if trimmed.isEmpty then none else some (name, argument)

/-- What a process becomes with a program. -/
structure Image where
  program : Program
  /-- The name of the program, and where it is. -/
  name : Bytes
  place : Path
  arguments : List Bytes

/-- What a path starts, with its place, if it may be started. -/
def startable (world : World) (process : Process) (path : Bytes) : Except Errno (Path × Node) := do
  let (place, node) ← (world.places process).resolve true process.directory path
  if (node.state []).isProgram then .ok (place, node) else .error .accessDenied

/-- What a file starts. A script starts its interpreter, with the path of the script in place of the
first argument; no interpreter is missing before it is found out that there are too many. -/
def loadNode (world : World) (process : Process) (bindings : Variables) :
    (depth : Nat) → (found : Path × Node) → (path : Bytes) → (arguments : List Bytes) →
      Except Errno Image
  | 0, _, _, _ => .error .tooManyLinks
  | depth + 1, (place, node), path, arguments =>
    match node with
    | .binary main =>
      let launch : Launch := ⟨arguments, bindings, world.horizon - world.clock + 1⟩
      .ok ⟨main launch, path, place, arguments⟩
    | .regular content _ _ =>
      match interpreter? content with
      | none => .error .execFormat
      | some (name, argument) => do
        let found ← if name.isEmpty then .error .accessDenied else world.startable process name
        loadNode world process bindings depth found name
          (name :: argument.toList ++ path :: arguments.tail)
    | _ => .error .accessDenied

/-- The largest size of a word or a variable of a new program, with the zero byte after it. -/
def wordSizeLimit : Nat := 131072

/-- The largest size that the words and the variables of a new program ever have together. -/
def totalSizeLimit : Nat := 6291456

/-- The size of an address in memory. -/
def addressSize : Nat := 8

/-- Whether the words and the variables of a new program are too large for a process: each of them,
or all together with their addresses. They may fill a quarter of the stack, or as much as one word.
-/
def areTooLarge (process : Process) (path : Bytes) (arguments : List Bytes)
    (bindings : Variables) : Bool :=
  let sizes := arguments.map (·.length + 1) ++
    bindings.map fun (name, value) => name.length + value.length + 2
  let stack := ((process.limit .stackSize).current).getD (4 * totalSizeLimit)
  let bound := max (min totalSizeLimit (stack / 4)) wordSizeLimit
  let total := sizes.foldl (· + ·) (path.length + 1 + addressSize * (sizes.length + 1))
  sizes.any (wordSizeLimit < ·) || decide (bound < total)

/-- The last part of a path. -/
def lastPart (path : Bytes) : Bytes := (path.reverse.takeWhile (· ≠ '/'.toUInt8)).reverse

/-- What a process becomes with the program that a path starts. -/
def load (world : World) (process : Process) (bindings : Variables) (path : Bytes)
    (arguments : List Bytes) : Except Errno Image := do
  let found ← world.startable process path
  if areTooLarge process path arguments bindings then throw .argumentsTooLong
  let image ← world.loadNode process bindings scriptDepth found path arguments
  return { image with name := lastPart path }

/-! ### Ends of processes -/

/-- Ends a process: its descriptors are closed, its children are orphans, its parent hears of it if
it wants to, and how it ended is kept for whoever may ask. -/
def terminate (world : World) (number : Nat) (status : ExitStatus) : World :=
  match world.process? number with
  | none => world
  | some process =>
    if process.ended.isSome then world
    else
      let world := process.descriptors.foldl (fun world descriptor => world.release descriptor.file)
        world
      let world := world.change number fun process =>
        { process with descriptors := [], ended := some status, program := .exit 0 }
      let world : World := { world with
        processes := (world.processes.filter fun other =>
            ! (other.parent = number && other.ended.isSome)).map fun other =>
          if other.parent = number then { other with parent := originProcess } else other }
      let world := world.change process.parent fun parent =>
        if parent.arrangement .child = .caught then
          { parent with signals := parent.signals ++ [.child] }
        else parent
      let awaited := (world.process? process.parent).any Process.isAlive
      let world := if awaited then world else
        { world with processes := world.processes.filter (·.number ≠ number) }
      if number = world.target then world.does (.exit status) else world

/-- Whether a signal does nothing to a process that has arranged nothing: the news of a child, the
one that lets a process go on, urgent data, and a changed window. -/
def isHarmless (signal : Signal) : Bool := [17, 18, 23, 28].contains signal.number

/-- Whether a signal stops a process that has arranged nothing: the one that always does, and those
of the terminal. -/
def isStopping (signal : Signal) : Bool := [19, 20, 21, 22].contains signal.number

/-- How long a process that a signal ends is still there, in microseconds. -/
def endingTime : Nat := 200

/-- Lets a signal end a process: it does nothing any more, and is gone a little later. -/
def doom (world : World) (number : Nat) (signal : Signal) : World :=
  world.change number fun process =>
    if process.fate.isSome then process
    else
      { process with
        fate := some (.signalled signal)
        ready := world.clock + endingTime
        stopped := false }

/-- Lets a signal reach a process. -/
def deliver (world : World) (number : Nat) (signal : Signal) : World :=
  match world.process? number with
  | none => world
  | some process =>
    if process.ended.isSome ∨ process.fate.isSome then world
    else
      let world := if signal = .proceed then
        world.change number fun process => { process with stopped := false } else world
      let arrangement := if signal = .kill ∨ signal = .stop then .standard
        else process.arrangement signal
      match arrangement with
      | .ignored => world
      | .caught =>
        world.change number fun process => { process with signals := process.signals ++ [signal] }
      | .standard =>
        if isHarmless signal then world
        else if isStopping signal then
          world.change number fun process => { process with stopped := true }
        else world.doom number signal

/-! ### Requests -/

/-- What identifies a node. -/
def nodeIdentity (number : Nat) : Bytes := Bytes.ofString ("node " ++ toString number)

/-- What the system tells about an open file. -/
def openState (world : World) (file : OpenFile) : FileState :=
  let unnamed (kind : FileKind) (name : String) : FileState :=
    { kind, mode := 0o600, size := 0, modified := world.fileTime,
      identity := Bytes.ofString name, position := 0 }
  let pipe (channel : Option Channel) (name : String) : FileState :=
    { unnamed .pipe name with broken := channel.all Channel.broken }
  match file.endpoint with
  | .script => unnamed .pipe "script"
  | .output => pipe (some world.exchange.output) "output"
  | .pipe number => pipe (world.channels.lookup number) ("pipe " ++ toString number)
  | .device device => (Node.device device).state (Bytes.ofString device.name)
  | .directory => unnamed .directory "directory"
  | .node number =>
    let state := ((world.files.node? number).getD default).state (nodeIdentity number)
    let atEnd := file.writing && file.appending
    { state with position := if atEnd then state.size else file.position }

/-- What the system tells about a descriptor of a process. -/
def describe (world : World) (process : Process) (descriptor : Nat) : Except Errno FileState :=
  match (process.file? descriptor).bind fun number => world.openFiles.lookup number with
  | some file => .ok (world.openState file)
  | none => .error .badDescriptor

/-- What the system tells about what a path leads to. -/
def inspect (world : World) (process : Process) (path : Bytes) (following : Bool) :
    Except Errno FileState := do
  let (place, node) ← (world.places process).resolve following process.directory path
  let identity := match node, world.files.number? place with
    | .device device, _ => Bytes.ofString device.name
    | _, some number => nodeIdentity number
    | _, none => Files.pathText place
  match node with
  | .held number descriptor =>
    if following then
      let described := (world.process? number).map (world.describe · descriptor)
      match described with
      | some (.ok state) => .ok state
      | _ => .error .noEntry
    else .ok (node.state identity)
  | _ => .ok (node.state identity)

/-- A process with another limit of a resource, if it may have that. -/
def limited (process : Process) (resource : Resource) (limit : Limit) : Except Errno Process :=
  let exceeds (one other : Option Nat) : Bool :=
    match one, other with
    | some one, some other => other < one
    | none, some _ => true
    | _, none => false
  if exceeds limit.current limit.most then .error .invalid
  else if exceeds limit.most (process.limit resource).most then .error .notPermitted
  else .ok (process.withLimit resource limit)

/-- The lowest number of the descriptors that other programs do not get. -/
def firstHigh : Nat := 10

/-- The world in which a process goes on with the answer to its request, if the request can be
answered now. -/
def answer (world : World) (process : Process) :
    (request : Request) → (request.Answer → Program) → Option World
  | .work, resume => some (world.resume process.number (resume ()))
  | .read descriptor limit, resume =>
    match process.file? descriptor with
    | none => some (world.resume process.number (resume (.error .badDescriptor)))
    | some file => (world.readFile file limit).map fun (result, world) =>
      world.resume process.number (resume result)
  | .write descriptor bytes, resume =>
    match process.file? descriptor with
    | none => some (world.resume process.number (resume (.error .badDescriptor)))
    | some file =>
      let bound := (process.limit .fileSize).current
      (world.writeFile file bound bytes).map fun (result, world) =>
        let world := world.resume process.number (resume result)
        match result with
        | .error errno =>
          if errno = .brokenPipe then world.deliver process.number .pipe
          else if errno = .fileTooLarge then world.deliver process.number .sizeExceeded
          else world
        | .ok _ => world
  | .openFile path mode, resume =>
    let number := process.freeDescriptor 0
    let result := if process.mayHave number then world.openFor process path mode
      else .error .tooManyFiles
    match result with
    | .error errno => some (world.resume process.number (resume (.error errno)))
    | .ok (file, world) =>
      let world := world.change process.number (·.attach ⟨number, file, true⟩)
      some (world.resume process.number (resume (.ok number)))
  | .close descriptor, resume =>
    match process.file? descriptor with
    | none => some (world.resume process.number (resume (.error .badDescriptor)))
    | some file =>
      let world := (world.change process.number (·.detach descriptor)).release file
      some (world.resume process.number (resume (.ok ())))
  | .duplicate source target, resume =>
    match (process.file? source).filter fun _ => process.mayHave target with
    | none => some (world.resume process.number (resume (.error .badDescriptor)))
    | some file =>
      let held := if source = target then world else
        let world := world.hold file
        let world := match process.file? target with
          | some old => world.release old
          | none => world
        world.change process.number (·.attach ⟨target, file, true⟩)
      some (held.resume process.number (resume (.ok ())))
  | .stash source, resume =>
    match process.file? source with
    | none => some (world.resume process.number (resume (.error .badDescriptor)))
    | some file =>
      let number := process.freeDescriptor firstHigh
      if ¬ process.mayHave firstHigh then
        some (world.resume process.number (resume (.error .invalid)))
      else if ¬ process.mayHave number then
        some (world.resume process.number (resume (.error .tooManyFiles)))
      else
        let world := (world.hold file).change process.number (·.attach ⟨number, file, false⟩)
        some (world.resume process.number (resume (.ok number)))
  | .makePipe, resume =>
    let low := process.freeDescriptor 0
    let high := process.freeDescriptor (low + 1)
    if ¬ process.mayHave high then
      some (world.resume process.number (resume (.error .tooManyFiles)))
    else
    let number := world.nextNumber
    let world := { world with
      channels := (number, .fresh Channel.usualCapacity 1 1) :: world.channels
      nextNumber := number + 1 }
    let (readFile, world) := world.addFile ⟨.pipe number, true, false, false, 0, 1⟩
    let (writeFile, world) := world.addFile ⟨.pipe number, false, true, false, 0, 1⟩
    let world := world.change process.number fun process =>
      (process.attach ⟨low, readFile, true⟩).attach ⟨high, writeFile, true⟩
    some (world.resume process.number (resume (.ok (low, high))))
  | .wait patience, resume =>
    let children := world.processes.filter (·.parent = process.number)
    match children.findSome? fun other => other.ended.map fun status => (other.number, status) with
    | some (number, status) =>
      let world := { world with processes := world.processes.filter (·.number ≠ number) }
      some (world.resume process.number (resume (.ok (number, status))))
    | none =>
      let refused (errno : Errno) : Option World :=
        some (world.resume process.number (resume (.error errno)))
      if children.isEmpty then refused .noChild
      else
        match patience with
        | .never => refused .tryAgain
        | .untilSignal => if process.signals.isEmpty then none else refused .interrupted
        | .forever => none
  | .send number signal, resume =>
    let result := if number = 0 ∨ world.hasProcess number then .ok () else .error .noProcess
    let world := world.resume process.number (resume result)
    let reached := if number = 0 then world.processes.map (·.number) else [number]
    some (match signal with
      | some signal => reached.foldl (fun world number => world.deliver number signal) world
      | none => world)
  | .arrange signal disposition, resume =>
    let world := world.change process.number fun process =>
      { process with
        arrangements := (signal, disposition) ::
          process.arrangements.filter fun (other, _) => other ≠ signal }
    some (world.resume process.number (resume ()))
  | .takeSignals, resume =>
    let world := world.change process.number fun process => { process with signals := [] }
    some (world.resume process.number (resume process.signals))
  | .sleep microseconds, resume =>
    let world := world.change process.number fun process =>
      { process with ready := world.clock + microseconds }
    some (world.resume process.number (resume ()))
  | .identity, resume => some (world.resume process.number (resume process.number))
  | .parent, resume => some (world.resume process.number (resume process.parent))
  | .directory, resume =>
    some (world.resume process.number (resume (Files.pathText process.directory)))
  | .changeDirectory path, resume =>
    match (world.places process).resolve true process.directory path with
    | .ok (place, .directory _) =>
      let world := world.change process.number fun process => { process with directory := place }
      some (world.resume process.number (resume (.ok ())))
    | .ok _ => some (world.resume process.number (resume (.error .notDirectory)))
    | .error errno => some (world.resume process.number (resume (.error errno)))
  | .list path, resume =>
    match (world.places process).resolve true process.directory path with
    | .ok (place, .directory _) =>
      let result := if process.mayHave (process.freeDescriptor 0)
        then .ok (world.namesIn process place) else .error .tooManyFiles
      some (world.resume process.number (resume result))
    | .ok _ => some (world.resume process.number (resume (.error .notDirectory)))
    | .error errno => some (world.resume process.number (resume (.error errno)))
  | .inspect path following, resume =>
    some (world.resume process.number (resume (world.inspect process path following)))
  | .describe descriptor, resume =>
    some (world.resume process.number (resume (world.describe process descriptor)))
  | .remove path, resume =>
    match (world.places process).resolve false process.directory path with
    | .error errno => some (world.resume process.number (resume (.error errno)))
    | .ok (_, .directory _) => some (world.resume process.number (resume (.error .isDirectory)))
    | .ok (place, _) =>
      if (world.files.number? place).isNone then
        some (world.resume process.number (resume (.error .notPermitted)))
      else
        let world := { world with files := world.files.erase place }
        some (world.resume process.number (resume (.ok ())))
  | .mask permissions, resume =>
    let world := match permissions with
      | some mask => world.change process.number fun process => { process with mask }
      | none => world
    some (world.resume process.number (resume process.mask))
  | .limit resource, resume =>
    some (world.resume process.number (resume (process.limit resource)))
  | .changeLimit resource limit, resume =>
    match limited process resource limit with
    | .ok changed =>
      let world := world.change process.number fun process =>
        { process with limits := changed.limits }
      some (world.resume process.number (resume (.ok ())))
    | .error errno => some (world.resume process.number (resume (.error errno)))

/-- How long it takes until a new process runs, in microseconds. -/
def forkTime : Nat := 300

/-- How long it takes until a new program runs, in microseconds. -/
def startTime : Nat := 500

/-- The world after a process had its turn, if there is something that it can do. -/
def takeTurn (world : World) (process : Process) : Option World :=
  if process.stopped ∨ process.ended.isSome ∨ world.clock < process.ready then none
  else
    match process.fate, process.program with
    | some status, _ => some (world.terminate process.number status)
    | none, .exit code => some (world.terminate process.number (.exited code))
    | none, .call request resume => world.answer process request resume
    | none, .fork child resume =>
      let number := world.nextProcess
      let world := process.descriptors.foldl (fun world descriptor => world.hold descriptor.file)
        world
      let copy := { process with
        number
        parent := process.number
        program := child
        signals := []
        ready := world.clock + forkTime
        worked := 0 }
      let world := { world with
        processes := world.processes ++ [copy]
        nextProcess := number + 1 }
      some (world.resume process.number (resume number))
    | none, .execute path arguments bindings refused =>
      match world.load process bindings path arguments with
      | .error errno => some (world.resume process.number (refused errno))
      | .ok image =>
        let closed := process.descriptors.filter (! ·.inherited)
        let world := closed.foldl (fun world descriptor => world.release descriptor.file) world
        some (world.change process.number fun process =>
          { process with
            program := image.program
            name := image.name
            image := image.place
            arguments := image.arguments
            bindings
            descriptors := process.descriptors.filter (·.inherited)
            arrangements := process.arrangements.filter fun (_, disposition) =>
              disposition = .ignored
            signals := []
            ready := world.clock + startTime })

/-! ### Time -/

/-- How long a turn takes, in microseconds. -/
def turnTime : Nat := 1

/-- The processes in the order in which they are offered the next turn: by turns. -/
def queue (world : World) : List Process :=
  world.processes.filter (world.turn < ·.number) ++
    world.processes.filter (·.number ≤ world.turn)

/-- How much of its time a process uses until the system looks at how much that is, in
microseconds. -/
def accountTime : Nat := 4000

/-- So many seconds in microseconds. -/
def secondsTime (seconds : Nat) : Nat := seconds * 1000000

/-- Makes a process feel how long it has worked: at the largest limit it is killed, and at the
current one it gets a signal, which comes again a second later. -/
def limitTime (world : World) (process : Process) : World :=
  let limit := process.limit .time
  let isOver (bound : Option Nat) : Bool :=
    bound.any fun seconds => secondsTime seconds ≤ process.worked
  if isOver limit.most then world.deliver process.number .kill
  else if isOver limit.current then
    let later : Limit := { limit with current := limit.current.map (· + 1) }
    (world.change process.number (·.withLimit .time later)).deliver
      process.number .timeUsed
  else world

/-- Counts a turn of a process. -/
def countTurn (world : World) (number : Nat) : World :=
  let world := world.change number fun process =>
    { process with worked := process.worked + turnTime }
  let world := { world with turn := number, clock := world.clock + turnTime }
  match world.process? number with
  | some process =>
    if process.worked % accountTime = 0 then world.limitTime process else world
  | none => world

/-- The world after the next turn, if any process can do something. -/
def step? (world : World) : Option World :=
  world.queue.findSome? fun process =>
    (world.takeTurn process).map fun world => world.countTurn process.number

/-- When the next of the processes that have no turn yet has one. -/
def nextReady? (world : World) : Option Nat :=
  (world.processes.filterMap fun process =>
    if process.stopped ∨ process.ended.isSome ∨ process.ready ≤ world.clock then none
    else some process.ready).min?

/-- Lets time pass, up to a limit: by a turn if any process can do something, else until one is
ready for it. -/
def pass (world : World) (limit : Nat) : World :=
  match world.step? with
  | some next => { next with clock := max next.clock (world.clock + 1) }
  | none =>
    { world with clock := max (world.clock + 1) (min limit (world.nextReady?.getD limit)) }

theorem clock_lt_clock_pass (world : World) (limit : Nat) :
    world.clock < (world.pass limit).clock := by
  unfold pass
  split <;> simp only <;> omega

end ShellSmoke.Machine.World
