/-
This file expands words: substitutions take place, the results are split into fields, and fields
that are patterns become the names of the files that they match.
-/

import ShellSmoke.Shell.Arithmetic
import ShellSmoke.Shell.Pattern
import ShellSmoke.Shell.Children

namespace ShellSmoke.Shell

open Machine

/-! ### Expanding -/

/-- A part of an expanded word. -/
inductive Atom where
  /-- A character, and whether fields are split at it if it sets them apart. -/
  | char (mark : Mark) (splits : Bool)
  /-- A field ends here. -/
  | fieldEnd
  /-- There is a field, even if it is empty. -/
  | presence
  /-- Another text begins that is split by itself. -/
  | seam
  /-- A sign that tells of quotes. -/
  | sign (char : Char)
deriving DecidableEq, Repr, Inhabited

/-- The characters of a value that takes the place of a substitution. -/
def valueMarks (quoted : Bool) (value : Octets) : List Atom :=
  value.map fun char => .char ⟨char, quoted⟩ (! quoted)

/-- The parts of a value that takes the place of a substitution. -/
def valueAtoms (quoted : Bool) (value : Octets) : List Atom :=
  if quoted then valueMarks quoted value else .seam :: valueMarks quoted value

/-- The characters of expanded parts that are not split into fields: the first separator stands
where a field ends. -/
def atomMarks (separators : Octets) (atoms : List Atom) : List Mark :=
  atoms.flatMap fun
    | .char mark _ => [mark]
    | .fieldEnd => (separators.take 1).map (⟨·, true⟩)
    | .presence | .seam | .sign _ => []

/-- Expanded parts with the signs that keep characters apart. -/
def signedText (separators : Octets) : List Atom → Octets
  | [] => []
  | .sign sign :: .char mark _ :: rest =>
    let part := if sign = Pattern.guardSign then [mark.char]
      else Pattern.guarded mark.quoted [mark.char]
    sign :: part ++ signedText separators rest
  | .sign sign :: rest => sign :: signedText separators rest
  | .char mark _ :: rest => Pattern.guarded mark.quoted [mark.char] ++ signedText separators rest
  | .fieldEnd :: rest => Pattern.guarded true (separators.take 1) ++ signedText separators rest
  | .presence :: rest | .seam :: rest => signedText separators rest

/-- The parts that all arguments become. -/
def argumentAtoms (quoted : Bool) (arguments : List Octets) : List Atom :=
  .seam :: List.intercalate [.fieldEnd] (arguments.map fun argument =>
    (if quoted then [.presence] else []) ++ valueMarks quoted argument)

/-- The parts of a word that takes the place of a substitution: fields are split at all that is not
quoted, and each plain text in it is split by itself. -/
def splittable (atoms : List Atom) : List Atom :=
  go false atoms
where
  go (within : Bool) : List Atom → List Atom
    | [] => []
    | .char mark splits :: rest =>
      let plain := ! splits && ! mark.quoted
      let part := Atom.char mark (! mark.quoted)
      if plain && ! within then .seam :: part :: go plain rest else part :: go plain rest
    | atom :: rest => atom :: go false rest

/-- Whether a fragment stands for all arguments as fields of their own. -/
def isArguments : Fragment → Bool
  | .parameter ['@'] => true
  | _ => false

/-- The text of expanded parts that are not split into fields. -/
def joined (atoms : List Atom) : Work Octets :=
  return (atomMarks (← get).separators atoms).map (·.char)

/-- The name of a variable, without an assignment that may follow it. -/
def ownName (word : Octets) : Octets := word.takeWhile (· ≠ '=')

/-- Gives a variable a value, if that is allowed. -/
def setVariable (word value : Octets) : Work Unit := do
  let name := ownName word
  unless Octets.isName name do abandon (name ++ ": bad variable name".toList)
  if ((← get).held name).fixed then abandon (name ++ ": is read only".toList)
  if name = "OPTIND".toList ∧ (Octets.toCount? value).isNone then
    abandon ("Illegal number: ".toList ++ value)
  modify (·.assign name value)

/-- Gives a variable a value, if that is allowed, and lets programs get it. -/
def exportVariable (name value : Octets) : Work Unit := do
  setVariable name value
  modify fun session => session.put { session.held name with exported := true }

/-- The value of a parameter. -/
def parameterValue (name : Octets) : Work (Option Octets) := do
  let session ← get
  match session.value? name with
  | some value => return some value
  | none =>
    if session.requiresSet then
      abandon (name ++ ": parameter not set".toList)
    else return none

/-- The output of commands, without the newlines at its end. Where there are none, nothing is done.
-/
def substitute (means : Means) (body : List Statement) : Work Octets := do
  if body.isEmpty then return []
  let lifetime := (← get).lifetime
  let (input, output) ← makePipe
  let child ← forkShell means do
    closeDescriptor input
    moveDescriptor output 1
    enterSubshell
    let _ ← means.run true body
  closeDescriptor output
  let bytes ← Routine.readAll input lifetime
  closeDescriptor input
  let status ← inForeground (pure [child])
  modify fun session => { session with substituted := some status }
  return Octets.withoutLastNewlines ((Octets.ofBytes bytes).filter (· ≠ '\x00'))

/-- What becomes of a shell that the machine stops in the middle of a computation: a signal comes
again and again. It ends the shell, even if it is ignored, unless commands were arranged for it: the
shell never comes to run them. -/
def beStopped {α : Type} : Work α := do
  let session ← get
  if (session.traps.lookup .arithmetic).any (! ·.isEmpty) then
    Routine.sleep session.lifetime
  else
    Routine.arrange .arithmetic .standard
    let _ ← Routine.send (← Routine.identity) (some .arithmetic)
  Routine.exit 0

/-- The value of an expression. -/
def expressionValue (text : Octets) : Work Octets := do
  let session ← get
  let bindings := session.bindings.filterMap fun held => held.value.map (held.name, ·)
  match Arithmetic.compute text bindings with
  | .ok (value, changes) =>
    changes.reverse.forM fun (name, value) => setVariable name value
    return .ofInt value
  | .error .quotientTooLarge => beStopped
  | .error fault => abandon (fault.message text)

/-! ### Tildes -/

/-- The file of the accounts. -/
def accountsPath : Octets := "/etc/passwd".toList

/-- The parts of a list between the members of a class. -/
def partsBetween {α : Type} (inClass : α → Bool) (members : List α) : List (List α) :=
  let (parts, part) := members.foldr
    (fun member (parts, part) =>
      if inClass member then (part :: parts, []) else (parts, member :: part))
    (([] : List (List α)), ([] : List α))
  part :: parts

/-- The home directory that the accounts give a user. Each line is the account of a user, in which
colons separate the name, a word, two numbers, a remark and the directory. -/
def homeIn? (accounts user : Octets) : Option Octets :=
  (partsBetween (· = '\n') accounts).findSome? fun line =>
    match partsBetween (· = ':') line with
    | name :: _ :: _ :: _ :: _ :: home :: _ => if name = user then some home else none
    | _ => none

/-- The home directory of a user; that of the shell's own user is in a variable. -/
def homeOf? (user : Octets) : Work (Option Octets) := do
  let session ← get
  if user.isEmpty then return session.valueOf? "HOME"
  match ← Routine.openFile accountsPath.toBytes .reading with
  | .error _ => return none
  | .ok opened =>
    let accounts ← Routine.readAll opened session.lifetime
    closeDescriptor opened
    return homeIn? (Octets.ofBytes accounts) user

/-- A text in which a tilde at the beginning, with the name of a user after it, stands for a home
directory. The name has to end in the text, unless nothing follows the text. -/
def untildePart (complete : Bool) (text : Octets) : Work (List Mark) := do
  let plain (text : Octets) : List Mark := text.map (⟨·, false⟩)
  match text with
  | '~' :: rest =>
    let user := rest.takeWhile (· ≠ '/')
    unless user.length < rest.length ∨ complete do return plain text
    match ← homeOf? user with
    | some home => return home.map (⟨·, true⟩) ++ plain (rest.drop user.length)
    | none => return plain text
  | _ => return plain text

/-- Where a word stands. -/
structure Manner where
  /-- Whether it stands between double quotes. -/
  quoted : Bool
  /-- Whether it is the value of an assignment, in which a tilde can follow a colon. -/
  assigning : Bool
  /-- Whether it is split into fields. -/
  splitting : Bool
deriving DecidableEq, Repr, Inhabited

/-- The characters of a plain text, which may be the first of a word, or the last. -/
def plainMarks (manner : Manner) (first last : Bool) (text : Octets) : Work (List Mark) := do
  if manner.quoted then return text.map (⟨·, true⟩)
  let parts := if manner.assigning then partsBetween (· = ':') text else [text]
  let count := parts.length
  let parts ← parts.zipIdx.mapM fun (part, index) =>
    if 0 < index ∨ first then untildePart (index + 1 < count ∨ last) part
    else return part.map (⟨·, false⟩)
  return List.intercalate [⟨':', false⟩] parts

/-! ### Fragments -/

mutual

/-- The parts that a fragment becomes, which may be the first of a word, or the last. -/
def expandFragment (means : Means) (manner : Manner) (first last : Bool) :
    Fragment → Work (List Atom)
  | .plain text => return (← plainMarks manner first last text).map (.char · false)
  | .quoted text =>
    return .presence :: text.flatMap fun char => [.sign Pattern.guardSign, .char ⟨char, true⟩ false]
  | .grouped fragments => do
    let atoms ← expandFragments means { manner with quoted := true } true fragments
    let absent := fragments.any isArguments ∧ (← get).arguments.isEmpty
    let sign := Atom.sign Pattern.quoteSign
    return if absent then atoms else .presence :: sign :: atoms ++ [sign]
  | .parameter name => do
    if name = ['@'] ∨ (name = ['*'] ∧ ¬ manner.quoted) then
      return argumentAtoms manner.quoted (← get).arguments
    return valueAtoms manner.quoted ((← parameterValue name).getD [])
  | .measured name => do
    return valueAtoms manner.quoted (.ofNat ((← parameterValue name).getD []).length)
  | .defaulted name fallback orEmpty word => do
    let value := ((← get).value? name).filter fun value => ! (orEmpty && value.isEmpty)
    match fallback, value with
    | .replace, some _ => return splittable (← expandFragments means manner true word)
    | .replace, none => return []
    | _, some value =>
      if name = ['@'] ∨ (name = ['*'] ∧ ¬ manner.quoted) then
        return argumentAtoms manner.quoted (← get).arguments
      return valueAtoms manner.quoted value
    | .use, none => return splittable (← expandFragments means manner true word)
    | .assign, none => do
      let value ← joined (← expandFragments means manner true word)
      setVariable name value
      return valueAtoms manner.quoted value
    | .complain, none => do
      let message ← if ¬ word.isEmpty then joined (← expandFragments means manner true word)
        else if orEmpty then pure "parameter not set or null".toList
        else pure "parameter not set".toList
      abandon (name ++ ": ".toList ++ message)
  | .trimmed name edge longest pattern => do
    let value := (← parameterValue name).getD []
    let pattern ← expandFragments means ⟨false, false, false⟩ true pattern
    let session ← get
    let trim := Pattern.trim (atomMarks session.separators pattern)
      (signedText session.separators pattern) edge longest manner.quoted
    if manner.splitting ∧ (name = ['@'] ∨ (name = ['*'] ∧ ¬ manner.quoted)) then
      let value := List.intercalate ['\x00'] session.arguments
      let parts := partsBetween (· = '\x00') (trim value)
      return argumentAtoms manner.quoted parts
    return valueAtoms manner.quoted (trim value)
  | .senseless => abandon "Bad substitution".toList
  | .commands body => return valueAtoms manner.quoted (← substitute means body)
  | .arithmetic expression => do
    let text ← joined (← expandFragments means ⟨true, false, false⟩ true expression)
    return valueAtoms manner.quoted (← expressionValue text)

/-- The parts that fragments become, one after another. -/
def expandFragments (means : Means) (manner : Manner) (first : Bool) :
    List Fragment → Work (List Atom)
  | [] => return []
  | fragment :: rest => do
    let atoms ← expandFragment means manner first rest.isEmpty fragment
    return atoms ++ (← expandFragments means manner false rest)

end

/-! ### Words -/

/-- The text that a word becomes where it is not split. -/
def expandText (means : Means) (word : Word) : Work Octets := do
  joined (← expandFragments means ⟨false, false, false⟩ true word)

/-- The text that a word becomes between double quotes. -/
def expandQuoted (means : Means) (word : Word) : Work Octets := do
  joined (← expandFragments means ⟨true, false, false⟩ true word)

/-- The text that a word becomes where it is assigned. -/
def expandAssigned (means : Means) (word : Word) : Work Octets := do
  joined (← expandFragments means ⟨false, true, false⟩ true word)

/-- The pattern that a word becomes. -/
def expandPattern (means : Means) (word : Word) : Work Pattern := do
  let atoms ← expandFragments means ⟨false, false, false⟩ true word
  return Pattern.ofMarks (atomMarks (← get).separators atoms)

/-! ### Splitting -/

/-- What is known while parts are split into fields. -/
structure Splitting where
  /-- The fields that are complete, latest first. -/
  fields : List (List Mark)
  /-- The characters of the field at hand, latest first. -/
  marks : List Mark
  /-- Whether there is a field at hand. -/
  started : Bool
  /-- Whether blanks have just ended a field. -/
  spaced : Bool

/-- Ends the field at hand. -/
def Splitting.close (splitting : Splitting) (spaced : Bool) : Splitting :=
  ⟨splitting.marks.reverse :: splitting.fields, [], false, spaced⟩

/-- Goes on with a part. Blanks between fields count once, and so does the end of an argument; any
other character that sets fields apart ends one, even an empty one, unless blanks of the same text
have just done that. -/
def Splitting.step (separators : Octets) (splitting : Splitting) : Atom → Splitting
  | .presence => { splitting with started := true, spaced := false }
  | .seam => { splitting with spaced := false }
  | .sign _ => splitting
  | .fieldEnd => if splitting.started then splitting.close true else splitting
  | .char mark splits =>
    if splits ∧ separators.contains mark.char then
      if [' ', '\t', '\n'].contains mark.char then
        if splitting.started then splitting.close true else splitting
      else if ¬ splitting.started ∧ splitting.spaced then { splitting with spaced := false }
      else splitting.close false
    else { splitting with marks := mark :: splitting.marks, started := true, spaced := false }

/-- The fields of expanded parts. -/
def splitFields (separators : Octets) (atoms : List Atom) : List (List Mark) :=
  let splitting := atoms.foldl (Splitting.step separators) ⟨[], [], false, false⟩
  (if splitting.started then splitting.close false else splitting).fields.reverse

/-! ### Names of files -/

/-- The names in a directory that a pattern matches, of which the directory itself has one, and the
directory above it. Names with a dot in front have to be meant. -/
def matchingNames (directory : Octets) (pattern : Pattern) : Work (List Octets) := do
  let path := if directory.isEmpty then ['.'] else directory
  match ← Routine.list (Octets.toBytes path) with
  | .error _ => return []
  | .ok names =>
    let names := ['.'] :: ['.', '.'] :: names.map Octets.ofBytes
    return names.filter fun name =>
      pattern.matchesAll name ∧ (name.head? = some '.' → pattern.head? = some (.literal '.'))

/-- Whether there is something at a path. -/
def isThere (path : Octets) : Work Bool := do
  match ← Routine.inspectItself path.toBytes with
  | .ok _ => return true
  | .error _ => return false

/-- The paths that begin with one of these and go on as the parts say. -/
def matchingPaths (paths : List Octets) : List (List Mark) → Work (List Octets)
  | [] => return paths
  | part :: rest => do
    let pattern := Pattern.ofMarks part
    let longer ← paths.mapM fun path => do
      if pattern.isWild then
        return (← matchingNames path pattern).map (path ++ ·)
      else
        let path := path ++ pattern.literalText
        let isKept ← if rest.isEmpty then isThere path else pure true
        return if isKept then [path] else []
    let ending := if rest.isEmpty then [] else ['/']
    matchingPaths (longer.flatten.map (· ++ ending)) rest

/-- Whether one text comes before another in the order of their bytes. -/
def before (first second : Octets) : Bool := ! decide (second < first)

/-- The texts that a field becomes: the paths that it matches, in order, or itself. -/
def expandField (marks : List Mark) : Work (List Octets) := do
  let text := marks.map (·.char)
  if (Pattern.ofMarks marks).isWild ∧ ¬ (← get).keepsPatterns then
    let found ← matchingPaths [[]] (partsBetween (·.char = '/') marks)
    return if found.isEmpty then [text] else found.mergeSort before
  else return [text]

/-- The texts that words become. -/
def expandWords (means : Means) (words : List Word) : Work (List Octets) := do
  let fields ← words.mapM fun word => do
    let atoms ← expandFragments means ⟨false, false, true⟩ true word
    let fields := splitFields (← get).separators atoms
    return (← fields.mapM expandField).flatten
  return fields.flatten

/-! ### The words of a command -/

/-- The name and the value of a word that is an assignment. -/
def assignmentOf? : Word → Option (Octets × Word)
  | .plain text :: rest =>
    let name := text.takeWhile Octets.inName
    match text.drop name.length with
    | '=' :: value => if Octets.isName name then some (name, .plain value :: rest) else none
    | _ => none
  | _ => none

/-- The name of the builtin that finds commands. -/
def finderName : Octets := "command".toList

/-- Whether words begin a command whose arguments can be assignments. -/
def declares (words : List Octets) : Bool :=
  let isDeclarer (word : Octets) : Bool :=
    ["export", "readonly", "local"].contains (String.ofList word)
  match words with
  | [] => false
  | name :: rest =>
    if name = finderName then (rest.find? fun word => word.head? ≠ some '-').any isDeclarer
    else isDeclarer name

/-- The texts that the words of a command become, of which some are known already. -/
def expandCommand (means : Means) (known : List Octets) : List Word → Work (List Octets)
  | [] => return []
  | word :: rest => do
    let texts ← match (assignmentOf? word).filter fun _ => declares known with
      | some (name, value) => pure [name ++ '=' :: (← expandAssigned means value)]
      | none => expandWords means [word]
    let undecided := known.isEmpty ∨ known.head? = some finderName
    return texts ++ (← expandCommand means (if undecided then known ++ texts else known) rest)

end ShellSmoke.Shell
