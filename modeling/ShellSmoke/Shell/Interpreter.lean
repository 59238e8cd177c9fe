/-
This file runs commands. What is nested in a command is run by an evaluator that the command is
given; the evaluator of the shell is tied from these parts, and each of its rounds takes time, so
the rounds cannot outnumber the requests that anybody looks at.
-/

import ShellSmoke.Shell.Lookup

namespace ShellSmoke.Shell

open Machine

/-! ### Programs -/

/-- The shell itself, which runs files that the system cannot start. -/
def shellPath : Octets := "/bin/sh".toList

/-- The status that tells that a program could not be started: whether it is missing or refused. -/
def startStatus (errno : Errno) : Nat :=
  if [.noEntry, .notDirectory, .nameTooLong, .tooManyLinks].contains errno then 127 else 126

/-- Gives way to a program. -/
def becomeProgram {α : Type} (path : Octets) (words : List Octets) : Work α := do
  let bindings := (← get).exportedVariables
  let errno ← Routine.execute (Octets.toBytes path) (words.map Octets.toBytes) bindings
  let errno ← if errno = .execFormat then
      Routine.execute (Octets.toBytes shellPath)
        ((shellPath :: path :: words.tail).map Octets.toBytes) bindings
    else pure errno
  report (words.headD [] ++ (": " ++ startFault errno).toList)
  leave (startStatus errno)

/-- Runs a program: in a process of its own, unless nothing follows. -/
def runProgram (means : Means) (last standard : Bool) (words : List Octets) : Work Flow := do
  let name := words.headD []
  let found ← if standard then standardProgramOf name else programOf name
  match found with
  | .error errno =>
    let fault := name ++ (": " ++ startFault errno).toList
    if ¬ name.contains '/' then refuse fault 127
    else if last then refuse fault (startStatus errno)
    else
      done (← inForeground do
        let child ← forkShell means do
          report fault
          Routine.exit (startStatus errno).toUInt8
        return [child])
  | .ok path =>
    if last ∧ (← get).traps.isEmpty then becomeProgram path words
    done (← inForeground do
      let child ← forkShell means do
        enterSubshell
        becomeProgram path words
      return [child])

/-! ### Functions -/

/-- How deeply calls of functions can be nested. -/
def callLimit : Nat := 1000

/-- Runs the body of a function with arguments of its own. -/
def runFunction (body : Work Flow) (arguments : List Octets) : Work Flow := do
  let before ← get
  if callLimit ≤ before.calls then
    abandon "Maximum function recursion depth (1000) reached".toList
  set { before with
    arguments
    loops := 0
    calls := before.calls + 1
    letterPlace := (1, none) }
  let flow ← ensuring body (modify fun after => { after with
    arguments := before.arguments
    loops := before.loops
    calls := before.calls
    letterPlace := before.letterPlace })
  return if flow = .leaveFunction then .normal else flow

/-! ### Simple commands -/

/-- Gives way to the program of a name. -/
def replaceShell (words : List Octets) : Work Flow := do
  if words.isEmpty then return ← done 0
  modify fun session => { session with speaker := replacerName ++ ": ".toList }
  let name := words.headD []
  match ← programOf name with
  | .error errno =>
    report (name ++ (": " ++ startFault errno).toList)
    leave (startStatus errno)
  | .ok path => becomeProgram path words

/-- Runs words for what they are. Functions are run by another runner of commands. -/
def runRole (means : Means) (runBody : Command → Work Flow) (last : Bool) (role : Role)
    (words : List Octets) : Work Flow := do
  let name := words.headD []
  let arguments := words.tail
  match role with
  | .bare => done ((← get).substituted.getD 0)
  | .replacement _ => replaceShell arguments
  | .special builtin => speaking name (delivering (builtin means arguments))
  | .usual builtin => attempted (speaking name (delivering (builtin means arguments)))
  | .function body => runFunction (runBody body) arguments
  | .program standard => runProgram means last standard words

/-- Gives variables their values: for the command at hand, for programs, or for good. The values are
the assignments that took place. -/
def runAssignments (means : Means) (forgets exporting : Bool)
    (assignments : List (Octets × Word)) : Work (List Octets) :=
  assignments.mapM fun (name, word) => do
    let value ← expandAssigned means word
    let before := (← get).find? name
    if forgets ∨ exporting then exportVariable name value else setVariable name value
    if forgets then modify (·.keep (.binding name before))
    return name ++ '=' :: value

/-- Runs a simple command: words first, then redirections, then assignments. -/
def runSimple (means : Means) (runBody : Command → Work Flow) (last : Bool) (line : Nat)
    (assignments : List (Octets × Word)) (words : List Word)
    (redirections : List Redirection) : Work Flow := do
  modify fun session => { session with line, substituted := none }
  let words ← expandCommand means [] words
  let (role, operands) := Role.ofWords (← get) words
  let replaces := role matches .replacement _
  let run (errors : Nat) : Work Flow := do
    let assigned ← runAssignments means role.forgets (replaces && 1 < operands.length) assignments
    if (← get).showsCommands then
      let mark ← promptText means "PS4"
      let _ ← write errors (mark ++ List.intercalate [' '] (assigned ++ words) ++ ['\n'])
    let flow ← runRole means runBody last role operands
    noticeEnds
    return flow
  let failed : Work Flow := if role.isFatal then throw .failure else return .normal
  if replaces then redirectedForGood means redirections failed (run 2)
  else
    redirected means redirections failed fun errors =>
      if role.forgets then framed (run errors) else run errors

/-! ### Signals and failures -/

/-- The signal by which a user interrupts the shell. -/
def interruption : Signal := ⟨2⟩

/-- Whether the shell talks to a user: one that it started does not. -/
def isInteractive : Work Bool := do
  let session ← get
  return session.options.contains 'i' && (← Routine.identity) == session.process

/-- Runs what was arranged for signals, up to a command that leaves something. The status is
afterwards what it was, unless a function is left. -/
def answerEach (means : Means) : List Signal → Work Flow
  | [] => return .normal
  | signal :: rest => do
    let session ← get
    match (session.traps.lookup signal).filter (! ·.isEmpty) with
    | none =>
      if signal = interruption ∧ (← isInteractive) then
        setStatus (128 + signal.number)
        throw .interruption
      answerEach means rest
    | some action =>
      let status := session.interrupted.getD session.status
      set { session with interrupted := some status }
      let flow ← means.evaluate action
      modify fun after => { after with
        interrupted := session.interrupted
        status := if flow = .leaveFunction then after.status else status }
      if flow = .normal then answerEach means rest
      else
        modify fun after => { after with arrived := rest }
        return flow

/-- Runs what was arranged for the signals that have come, lower numbers first. -/
def answerSignals (means : Means) : Work Flow := do
  let session ← get
  let isTrapped := session.traps.any fun (signal, action) => signal.number ≠ 0 ∧ ¬ action.isEmpty
  if isTrapped ∨ session.options.contains 'i' then
    let arrived := session.arrived ++ (← Routine.takeSignals)
    modify fun session => { session with arrived := [] }
    let ordered := arrived.mergeSort fun left right => decide (left.number ≤ right.number)
    answerEach means ordered.eraseDups
  else return .normal

/-- Exits if the last command failed, where the shell does so. -/
def stopOnFailure : Work Unit := do
  let session ← get
  if session.stopsOnError ∧ ¬ session.tested ∧ session.status ≠ 0 then
    leave session.status

/-- Ends a command: signals are answered, and a failure may end the shell. -/
def settle (means : Means) (flow : Flow) : Work Flow := do
  let flow ← if flow = .normal then answerSignals means else pure flow
  stopOnFailure
  return flow

/-- Does something while somebody looks at the status. -/
def whileTested (action : Work Flow) : Work Flow := do
  let before := (← get).tested
  modify fun session => { session with tested := true }
  let flow ← action
  modify fun session => { session with tested := before }
  return flow

/-! ### Compound commands -/

/-- Runs commands that were chosen; without any, the choice is a success. -/
def runBranch (run : Evaluator) (last : Bool) (body : List Statement) : Work Flow :=
  if body.isEmpty then done 0 else run last body

/-- Runs the first branch whose condition holds. -/
def runChoice (run : Evaluator) (last : Bool) (otherwise : List Statement) :
    List (List Statement × List Statement) → Work Flow
  | [] => runBranch run last otherwise
  | (condition, body) :: rest => do
    let flow ← whileTested (run false condition)
    if flow ≠ .normal then return flow
    if (← get).status = 0 then runBranch run last body else runChoice run last otherwise rest

/-- What a loop makes of the way in which its body ended: nothing if the loop goes on. -/
def afterRound : Flow → Option Flow
  | .normal => none
  | .continueLoop count => if count ≤ 1 then none else some (.continueLoop (count - 1))
  | .leaveLoops count => some (if count ≤ 1 then .normal else .leaveLoops (count - 1))
  | .leaveFunction => some .leaveFunction

/-- Does something inside one more loop. -/
def insideLoop (action : Work Flow) : Work Flow := do
  modify fun session => { session with loops := session.loops + 1 }
  let flow ← action
  modify fun session => { session with loops := session.loops - 1 }
  return flow

/-- Runs a loop with a condition; `status` is the status of the round before. -/
def runLoop (run : Evaluator) (whenTrue : Bool) (condition body : List Statement) :
    (count : Nat) → (status : Nat) → Work Flow
  | 0, _ => return .normal
  | count + 1, status => do
    let flow ← whileTested (run false condition)
    if let some flow := afterRound flow then return flow
    if ((← get).status = 0) = whenTrue then
      let flow ← run false body
      match afterRound flow with
      | some flow => return flow
      | none => runLoop run whenTrue condition body count (← get).status
    else done status

/-- Runs a loop over values. -/
def runEach (means : Means) (name : Octets) (body : List Statement) :
    List Octets → Work Flow
  | [] => return .normal
  | value :: rest => do
    setVariable name value
    let flow ← means.run false body
    match afterRound flow with
    | some flow => return flow
    | none => runEach means name body rest

/-- Runs the first arm one of whose patterns matches. -/
def runSelection (means : Means) (last : Bool) (text : Octets) :
    List (List Word × List Statement) → Work Flow
  | [] => done 0
  | (patterns, body) :: rest => do
    let fits ← patterns.anyM fun pattern => return (← expandPattern means pattern).matchesAll text
    if fits then runBranch means.run last body else runSelection means last text rest

/-- Redirects descriptors and runs commands, as the last that the process does. -/
def runLast (means : Means) (targets : List Target) (body : List Statement) : Work Unit := do
  targets.forM (redirect means)
  let _ ← means.run true body

/-- Runs commands in a process of their own, which may be this one if nothing follows. -/
def runSubshell (means : Means) (last : Bool) (redirections : List Redirection)
    (body : List Statement) : Work Flow := do
  let targets ← redirections.mapM (Target.ofRedirection means)
  if last ∧ (← get).traps.isEmpty then
    modify fun session => { session with jobs := [], loops := 0 }
    runLast means targets body
    leave (← get).status
  done (← inForeground do
    let child ← forkShell means do
      enterSubshell
      runLast means targets body
    return [child])

/-- Runs a compound command that needs no process of its own. -/
def runCompound (means : Means) (last : Bool) : Compound → Work Flow
  | .group body => means.run last body
  | .subshell body => runSubshell means last [] body
  | .choose branches otherwise => runChoice means.run last otherwise branches
  | .loop whenTrue condition body => do
    let lifetime := (← get).lifetime
    insideLoop (runLoop means.run whenTrue condition body lifetime 0)
  | .each name words body => do
    let values ← match words with
      | some words => expandWords means words
      | none => pure (← get).arguments
    if values.isEmpty then done 0 else insideLoop (runEach means name body values)
  | .select word arms => do runSelection means last (← expandText means word) arms

/-- Runs a command; the depth bounds how many calls of functions are nested in it. -/
def runCommand (means : Means) : (depth : Nat) → (last : Bool) → Command → Work Flow
  | 0, _, _ => return .normal
  | depth + 1, last, command => do
    match command with
    | .simple line assignments words redirections => do
      let flow ← runSimple means (fun body => runCommand means depth false body) last line
        assignments words redirections
      settle means flow
    | .compound line (.subshell body) redirections => do
      modify fun session => { session with line }
      settle means (← runSubshell means last redirections body)
    | .compound line body redirections => do
      if body.movesLine ∨ ¬ redirections.isEmpty then
        modify fun session => { session with line }
      redirected means redirections (settle means .normal) fun _ =>
        runCompound means (last && redirections.isEmpty) body
    | .define name body => do
      modify fun session => { session with
        functions := (name, body) :: session.functions.filter fun (other, _) => other ≠ name }
      done 0

/-! ### Pipelines and lists -/

/-- Lets a process in the background not be interrupted from the keyboard, and read nothing unless
it has an input of its own. -/
def enterBackground (hasInput : Bool) : Work Unit := do
  Routine.arrange .interrupt .ignored
  Routine.arrange .quit .ignored
  unless hasInput do
    if let .ok descriptor ← Routine.openFile (Bytes.ofString "/dev/null") .reading then
      moveDescriptor descriptor 0

/-- Starts a process for each command, each reading what the one before it writes. The value holds
the processes, in order. -/
def startPipeline (means : Means) (background : Bool) (input : Option Nat) :
    List Command → Work (List Nat)
  | [] => return []
  | [command] => do
    let child ← forkShell means (stage command none none)
    if let some descriptor := input then closeDescriptor descriptor
    return [child]
  | command :: rest => do
    let (next, output) ← makePipe
    let child ← forkShell means (stage command (some next) (some output))
    closeDescriptor output
    if let some descriptor := input then closeDescriptor descriptor
    return child :: (← startPipeline means background (some next) rest)
where
  stage (command : Command) (next output : Option Nat) : Work Unit := do
    enterSubshell
    if background then enterBackground input.isSome
    if let some descriptor := next then closeDescriptor descriptor
    if let some descriptor := input then moveDescriptor descriptor 0
    if let some descriptor := output then moveDescriptor descriptor 1
    let _ ← runCommand means (callLimit + 2) true command

/-- Runs the commands of a pipeline. -/
def runCommands (means : Means) (last : Bool) : List Command → Work Flow
  | [command] => runCommand means (callLimit + 2) last command
  | commands => do
    setStatus (← inForeground (startPipeline means false none commands))
    settle means .normal

/-- Runs a pipeline. -/
def runPipeline (means : Means) (last : Bool) : Pipeline → Work Flow
  | .mk false commands => runCommands means last commands
  | .mk true commands => do
    let flow ← whileTested (runCommands means false commands)
    if flow = .normal then
      modify fun session => { session with status := if session.status = 0 then 1 else 0 }
    return flow

/-- Runs pipelines as long as each comes out as the next wants it. -/
def runJoined (means : Means) : List (Bool × Pipeline) → Work Flow
  | [] => return .normal
  | (wanted, pipeline) :: rest => do
    if ((← get).status = 0) = wanted then
      let flow ← if rest.isEmpty then runPipeline means false pipeline
        else whileTested (runPipeline means false pipeline)
      if flow ≠ .normal then return flow
    runJoined means rest

/-- Runs a statement and waits for it. -/
def runForeground (means : Means) (last : Bool) (first : Pipeline)
    (rest : List (Bool × Pipeline)) : Work Flow := do
  if rest.isEmpty then runPipeline means last first
  else
    let flow ← whileTested (runPipeline means false first)
    if flow ≠ .normal then return flow
    runJoined means rest

/-- Starts a process in the background that redirects descriptors and does something. -/
def runBehind (means : Means) (targets : List Target) (action : Work Flow) : Work Flow := do
  inBackground do
    let child ← forkShell means do
      enterSubshell
      enterBackground false
      targets.forM (redirect means)
      let _ ← action
    return [child]
  done 0

/-- Runs a statement. The words of redirections are expanded before a process in the background is
started for the compound command to which they belong. -/
def runStatement (means : Means) (last : Bool) : Statement → Work Flow
  | .mk first rest false => runForeground means last first rest
  | .mk (.mk false (first :: second :: more)) [] true => do
    inBackground (startPipeline means true none (first :: second :: more))
    done 0
  | .mk first@(.mk false [.compound line body redirections]) [] true => do
    if body matches .subshell _ then runBehind means [] (runForeground means true first [])
    else
      modify fun session => { session with line }
      let targets ← redirections.mapM (Target.ofRedirection means)
      runBehind means targets (runCommand means (callLimit + 2) true (.compound line body []))
  | .mk first rest true => runBehind means [] (runForeground means true first rest)

/-- Runs statements one after another. -/
def runStatements (means : Means) (last : Bool) : List Statement → Work Flow
  | [] => return .normal
  | statement :: rest => do
    if (← get).onlyReads then return .normal
    let flow ← runStatement means (last && rest.isEmpty) statement
    if flow ≠ .normal then return flow
    runStatements means last rest

/-! ### The evaluator -/

/-- The evaluator of the shell; the rounds bound how deeply what it runs is nested. -/
def evaluator : (rounds : Nat) → Evaluator
  | 0 => fun _ _ => return .normal
  | rounds + 1 => fun last statements => do
    Routine.work
    let means : Means := {
      run := evaluator rounds
      evaluate := fun text => do
        let means : Means := { run := evaluator rounds, evaluate := fun _ => return .normal }
        runWhole means false text }
    runStatements means last statements

/-- How the shell runs commands. -/
def meansOf (lifetime : Nat) : Means where
  run := evaluator lifetime
  evaluate := fun text => do
    let means : Means := { run := evaluator lifetime, evaluate := fun _ => return .normal }
    runWhole means false text

end ShellSmoke.Shell
