/-
This file says what the words of a command name: a builtin, a function or a program.
-/

import ShellSmoke.Shell.Builtins

namespace ShellSmoke.Shell

open Machine

/-! ### Programs -/

/-- Why a program could not be started, in the words of the shell. -/
def startFault (errno : Errno) : String :=
  if errno = .noEntry ∨ errno = .notDirectory then "not found" else errno.text

/-- The number of the first of some paths at which there is a program, or the reason for which there
is none. -/
def findProgram (refusal : Errno) : List (Octets × Nat) → Work (Except Errno Nat)
  | [] => return .error refusal
  | (path, index) :: rest => do
    match ← Routine.inspect path.toBytes with
    | .ok state =>
      if state.isProgram then return .ok index else findProgram .accessDenied rest
    | .error errno =>
      findProgram (if errno = .noEntry ∨ errno = .notDirectory then refusal else errno) rest

/-- The program of a name that was found before. -/
def Session.foundBefore? (session : Session) (name : Octets) : Option Found :=
  session.found.find? (·.name = name)

/-- Takes note of where a program was found. -/
def rememberFound (name : Octets) (index : Nat) : Work Unit :=
  modify fun session => { session with
    found :=
      if (session.foundBefore? name).isSome then
        session.found.map fun found => if found.name = name then ⟨name, index, false⟩ else found
      else session.found ++ [⟨name, index, false⟩] }

/-- Forgets where a program was found. -/
def forgetProgram (name : Octets) : Work Unit :=
  modify fun session => { session with found := session.found.filter (·.name ≠ name) }

/-- The number of the path of a program, where it may have been found before. Once the working
directory has changed, only relative paths before the one where it was are looked at anew. -/
def searchProgram (name : Octets) (paths : List Octets) : Work (Except Errno Nat) := do
  match (← get).foundBefore? name with
  | none => findProgram .noEntry paths.zipIdx
  | some found =>
    if ¬ found.stale then return .ok found.index
    let isAbsolute (path : Octets) : Bool := path.head? = some '/'
    let (before, after) := paths.zipIdx.span fun (_, index) => index < found.index
    let relative := before.filter fun (path, _) => ! isAbsolute path
    match after with
    | (path, index) :: _ =>
      if isAbsolute path then
        match ← findProgram .noEntry relative with
        | .ok index => return .ok index
        | .error _ => return .ok index
      else findProgram .noEntry (relative ++ after)
    | [] => findProgram .noEntry relative

/-- The path of the program of a name, or why there is none. It is taken note of. -/
def programOf (name : Octets) : Work (Except Errno Octets) := do
  let paths ← searchPaths name
  if name.contains '/' then return (← findProgram .noEntry paths.zipIdx).map fun _ => name
  match ← searchProgram name paths with
  | .ok index =>
    rememberFound name index
    return .ok (paths[index]?.getD name)
  | .error errno =>
    forgetProgram name
    return .error errno

/-- The directories in which programs of the system are looked for. -/
def standardDirectories : Octets :=
  "/usr/local/sbin:/usr/local/bin:/usr/sbin:/usr/bin:/sbin:/bin".toList

/-- The path of the program of a name in the directories of the system, or why there is none. -/
def standardProgramOf (name : Octets) : Work (Except Errno Octets) := do
  let paths := if name.contains '/' then [name] else pathsIn standardDirectories name
  return (← findProgram .noEntry paths.zipIdx).map fun index => paths[index]?.getD name

/-! ### Descriptions -/

/-- The builtin of a name. -/
def builtin? (table : List (String × Builtin)) (name : Octets) : Option Builtin :=
  table.lookup (String.ofList name)

/-- The name of the builtin that gives way to a program. -/
def replacerName : Octets := "exec".toList

/-- The name of the builtin that describes commands. -/
def describerName : Octets := "type".toList

/-- The name of the builtin that tells where programs were found. -/
def rememberName : Octets := "hash".toList

/-- The path of a program that a name stands for, in the directories of the system or in those where
programs are looked for, and whether it was found before. -/
def describedProgram? (standard : Bool) (name : Octets) : Work (Option (Octets × Bool)) := do
  if name.contains '/' then return if ← isThere name then some (name, false) else none
  if standard then return (← standardProgramOf name).toOption.map (·, false)
  match (← get).foundBefore? name with
  | some found => return some (((← searchPaths name)[found.index]?).getD name, true)
  | none => return (← programOf name).toOption.map (·, false)

/-- What a name stands for, at length or not; nothing if it stands for nothing. -/
def description? (standard verbose : Bool) (name : Octets) : Work (Option Octets) := do
  let session ← get
  let described (text : String) : Option Octets :=
    some (if verbose then name ++ " is a".toList ++ text.toList else name)
  if reservedWords.contains (String.ofList name) then return described " shell keyword"
  if let some text := session.aliases.lookup name then
    return some (if verbose then name ++ " is an alias for ".toList ++ text
      else "alias ".toList ++ name ++ '=' :: quotedText text)
  if ¬ standard ∧ (session.functions.lookup name).isSome then return described " shell function"
  if name = replacerName ∨ (builtin? specialBuiltins name).isSome then
    return described " special shell builtin"
  let own := [finderName, describerName, rememberName].contains name
  if own ∨ (builtin? usualBuiltins name).isSome then return described " shell builtin"
  return (← describedProgram? standard name).map fun (path, before) =>
    if ¬ verbose then path
    else name ++ (if before then " is a tracked alias for " else " is ").toList ++ path

/-- Prints what a name stands for; the value is a status. -/
def describe (standard verbose : Bool) (name : Octets) : Work Nat := do
  match ← description? standard verbose name with
  | some text =>
    print (text ++ ['\n'])
    return 0
  | none =>
    if verbose then
      print (name ++ ": not found\n".toList)
    return 127

/-- Describes its arguments. -/
def typeBuiltin : Builtin := fun _ arguments => do
  done (← arguments.foldlM (fun status name => return max status (← describe false true name)) 0)

/-- Describes a command; as a command of its own it does nothing else. -/
def commandBuiltin : Builtin := fun _ arguments => do
  let letters ← readLetters "pvV" "" arguments
  match letters.operands.head? with
  | some name =>
    if letters.has 'v' ∨ letters.has 'V' then
      done (← describe (letters.has 'p') (letters.has 'V') name)
    else done 0
  | none => done 0

/-- How many rows the table of programs has. -/
def programRows : Nat := 31

/-- Tells where programs were found, finds them anew, or forgets them. -/
def hashBuiltin : Builtin := fun _ arguments => do
  let letters ← readLetters "r" "" arguments
  if letters.has 'r' then
    modify fun session => { session with found := [] }
    done 0
  else if letters.operands.isEmpty then
    let lines ← (byRow programRows (·.name) (← get).found).mapM fun found => do
      let path := ((← searchPaths found.name)[found.index]?).getD found.name
      return path ++ if found.stale then ['*', '\n'] else ['\n']
    printed lines.flatten
  else
    let known ← letters.operands.mapM fun name => do
      forgetProgram name
      let session ← get
      let builtins := specialBuiltins ++ usualBuiltins
      if (session.functions.lookup name).isSome ∨ (builtin? builtins name).isSome ∨
          name.contains '/' ∨
          [replacerName, finderName, describerName, rememberName].contains name then
        return true
      match ← programOf name with
      | .ok _ => return true
      | .error errno =>
        report (name ++ (": " ++ startFault errno).toList)
        return false
    done (if known.all id then 0 else 1)

/-! ### Roles -/

/-- What a command is. -/
inductive Role where
  /-- No word at all: assignments and redirections. -/
  | bare
  /-- The shell gives way to a program; an error in this may end the shell. -/
  | replacement (fatal : Bool)
  | special (builtin : Builtin)
  | usual (builtin : Builtin)
  | function (body : Command)
  /-- A program, which may have to be one of the system. -/
  | program (standard : Bool)

namespace Role

/-- Whether what is assigned in front of the command is forgotten after it. -/
def forgets : Role → Bool
  | usual _ | function _ | program _ => true
  | bare | replacement _ | special _ => false

/-- Whether a redirection that fails ends the shell. -/
def isFatal : Role → Bool
  | replacement fatal => fatal
  | special _ => true
  | bare | usual _ | function _ | program _ => false

/-- The words that are left when the finder of commands has run its letters, and whether it was told
to look among the programs of the system; nothing if it is to describe a command. -/
def foundWords? (standard : Bool) : List Octets → Option (Bool × List Octets)
  | [] => none
  | ['-', '-'] :: rest => if rest.isEmpty then none else some (standard, rest)
  | ('-' :: letter :: more) :: rest =>
    if (letter :: more).all (· = 'p') then foundWords? true rest else none
  | words => some (standard, words)

/-- What words are that no function can take, and the words without those that find them; the count
bounds how many finders follow one another. -/
def found (standard : Bool) : (count : Nat) → List Octets → Role × List Octets
  | 0, words => (.program standard, words)
  | _ + 1, [] => (.bare, [])
  | count + 1, name :: rest =>
    if name = replacerName then (.replacement false, name :: rest)
    else if name = describerName then (.usual typeBuiltin, name :: rest)
    else if name = rememberName then (.usual hashBuiltin, name :: rest)
    else if name = finderName then
      match foundWords? standard rest with
      | some (standard, words) => found standard count words
      | none => (.usual commandBuiltin, name :: rest)
    else
      match (builtin? specialBuiltins name).or (builtin? usualBuiltins name) with
      | some builtin => (.usual builtin, name :: rest)
      | none => (.program standard, name :: rest)

/-- What words are, and the words without those that find them. -/
def ofWords (session : Session) (words : List Octets) : Role × List Octets :=
  let name := words.headD []
  match builtin? specialBuiltins name with
  | some builtin => (.special builtin, words)
  | none =>
    if name = replacerName then (.replacement true, words) else
    match session.functions.lookup name with
    | some body => (.function body, words)
    | none => found false (words.length + 1) words

end Role

end ShellSmoke.Shell
