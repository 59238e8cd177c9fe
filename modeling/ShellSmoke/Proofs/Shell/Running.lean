/-
This file follows the shell through lines of `echo` and words that stand for texts. Such a line is
read as one simple command, its words expand to their texts, and the builtin prints them; of all
that the shell does around a command, nothing is left but the text that it writes. So a script of
such lines prints their texts one after another, and this is what the labels of a script do.
-/

import ShellSmoke.Proofs.Machine.Programs
import ShellSmoke.Proofs.Shell.Commands
import ShellSmoke.Proofs.Shell.Expansion
import ShellSmoke.Shell.Interpreter

namespace ShellSmoke.Shell

open Machine

/-! ### Work that asks for something -/

section

variable {α β γ : Type} {before session : Session} {action : Work α} {routine : Routine γ}
  {value : γ → α} {after : γ → Session}

theorem get_bind (more : Session → Work β) (session : Session) :
    ((get : Work Session) >>= more) session = more session session := rfl

theorem modify_bind (change : Session → Session) (more : PUnit → Work β) (session : Session) :
    ((modify change : Work PUnit) >>= more) session = more ⟨⟩ (change session) := rfl

/-- Whether work asks the system for something, and comes to a value then: the answer determines the
value, and what is known afterwards. -/
def Asks (action : Work α) (before : Session) (routine : Routine γ) (value : γ → α)
    (after : γ → Session) : Prop :=
  action before = routine >>= fun answer => pure (.ok (value answer), after answer)

theorem bind_of_asks (asks : Asks action before routine value after) (more : α → Work β) :
    (action >>= more) before = routine >>= fun answer => more (value answer) (after answer) := by
  show Routine.andThen (action before) _ = _
  rw [asks]
  rfl

theorem Asks.bind {more : α → Work β} {result : γ → β} {last : γ → Session}
    (asks : Asks action before routine value after)
    (yields : ∀ answer, Yields (more (value answer)) (after answer) (result answer) (last answer)) :
    Asks (action >>= more) before routine result last := by
  rw [Asks, bind_of_asks asks]
  exact bind_congr yields

theorem ite_bind_of_yields {condition : Prop} [Decidable condition] {first : Work Unit}
    (yields : Yields first session () session) (more : Work β) :
    (if condition then first >>= fun _ => more else more) session = more session := by
  split
  · exact bind_of_yields yields _
  · rfl

theorem asks_lift (routine : Routine γ) (session : Session) :
    Asks (liftM routine : Work γ) session routine id fun _ => session := rfl

end

section

variable {γ : Type} {before : Session} {action : Work Flow} {routine : Routine γ} {value : γ → Flow}
  {after : γ → Session}

theorem asks_attempted (asks : Asks action before routine value after) :
    Asks (attempted action) before routine value after := by
  rw [Asks, attempted, get_bind]
  show Routine.andThen (Routine.andThen (action before) _) _ = _
  rw [asks]
  rfl

theorem asks_speaking {name : Octets}
    (asks : Asks action { before with speaker := name ++ ": ".toList } routine value after) :
    Asks (speaking name action) before routine value
      fun answer => { after answer with speaker := before.speaker } := by
  rw [Asks, speaking, get_bind, modify_bind]
  show Routine.andThen (Routine.andThen (action _) _) _ = _
  rw [asks]
  rfl

theorem asks_framed
    (asks : Asks action { before with frames := [] :: before.frames } routine value after)
    (kept : ∀ answer, (after answer).frames = [] :: before.frames) :
    Asks (framed action) before routine value
      fun answer => { after answer with frames := before.frames } := by
  rw [Asks, framed, get_bind, modify_bind, bind_of_asks asks]
  refine bind_congr fun answer => ?_
  have ended : (after answer).frames.length - before.frames.length = 1 := by
    rw [kept, List.length_cons, Nat.add_sub_cancel_left]
  rw [giveBackTo, bind_assoc, get_bind, ended, kept]
  rfl

end

/-! ### Sessions in which nothing is the matter -/

/-- Whether nothing that is arranged for, started or asked for before comes between the commands of
a script. -/
structure Session.IsCalm (session : Session) : Prop where
  noTraps : session.traps = []
  noJobs : session.jobs.anyRunning = false
  noOption : ∀ letter ∈ ['e', 'i', 'n', 'v', 'x'], session.options.contains letter = false

namespace Session.IsCalm

variable {session : Session} {means : Means}

theorem yields_noticeEnds (calm : session.IsCalm) : Yields noticeEnds session () session := by
  rw [Yields, noticeEnds, get_bind]
  simp only [calm.noJobs, Bool.false_eq_true, if_false]
  rfl

/-- A command that ends as usual is followed by nothing. -/
theorem yields_settle (calm : session.IsCalm) :
    Yields (settle means .normal) session .normal session := by
  have answers : Yields (answerSignals means) session .normal session := by
    rw [Yields, answerSignals, get_bind]
    simp only [calm.noTraps, calm.noOption 'i' (by decide), List.any_nil, Bool.false_eq_true,
      or_self, if_false]
    rfl
  have goesOn : Yields stopOnFailure session () session := by
    rw [Yields, stopOnFailure, get_bind]
    simp only [Session.stopsOnError, calm.noOption 'e' (by decide), Bool.false_eq_true, false_and,
      if_false]
    rfl
  rw [Yields, settle, if_pos rfl, bind_of_yields answers]
  exact bind_of_yields goesOn fun _ => pure Flow.normal

theorem yields_prompt (calm : session.IsCalm) (name : String) :
    Yields (prompt means name) session () session := by
  rw [Yields, prompt, get_bind]
  simp only [calm.noOption 'i' (by decide), Bool.false_eq_true, if_false]
  rfl

theorem yields_promptLines (calm : session.IsCalm) (asking : Bool) (lines : Nat) :
    Yields (promptLines means asking lines) session () session := by
  have prompts (numbers : List Nat) :
      Yields (numbers.forM fun _ => prompt means "PS2") session () session := by
    induction numbers with
    | nil => exact yields_pure () session
    | cons number numbers inductionHypothesis =>
      exact (bind_of_yields (calm.yields_prompt "PS2") _).trans inductionHypothesis
  rw [Yields, promptLines, get_bind]
  split
  · exact prompts (List.range lines)
  · rfl

theorem yields_holdBack (calm : session.IsCalm) (cursor : Cursor) (supply : Supply) :
    Yields (holdBack cursor supply) session (cursor, supply) session := by
  rw [Yields, holdBack, get_bind, Session.showsLines, calm.noOption 'v' (by decide)]
  rfl

end Session.IsCalm

/-! ### Printing -/

/-- The name of the builtin that prints its arguments. -/
def echoName : Octets := "echo".toList

/-- A message about a command, as the shell writes it. -/
def Session.message (session : Session) (speaker text : Octets) : Octets :=
  session.name ++ ": ".toList ++ .ofNat session.line ++ ": ".toList ++ speaker ++ text ++ ['\n']

/-- The name of a command stands for itself. -/
theorem IsCommandName.standsFor {name : Octets} (isCommandName : IsCommandName name) :
    Word.StandsFor [.plain name] name := by
  have tame : ∀ char ∈ name, char ∉ ['*', '?', '[', '\\', '~'] := by
    intro char mem
    have noSign {other : Char} (outside : Octets.inName other = false) : char ≠ other :=
      ne_of_inName (isCommandName.inName char mem) outside
    simp only [List.mem_cons, List.not_mem_nil, or_false, not_or]
    exact ⟨noSign rfl, noSign rfl, noSign rfl, noSign rfl, noSign rfl⟩
  have nonempty : name ≠ [] := by
    rintro rfl
    cases isCommandName.isName
  exact ⟨nofun, [name], .cons (.plain tame nonempty) .nil, List.append_nil name⟩

theorem isCommandName_echoName : IsCommandName echoName := ⟨by decide, by decide⟩

theorem asks_report (session : Session) (text : Octets) :
    Asks (report text) session
      (Routine.writeAll 2 session.lifetime (session.message session.speaker text).toBytes)
      (fun _ => ()) fun _ => session := rfl

/-- What a line of `echo` asks for: that its text is written, or else a message. -/
def printing (session : Session) (text : Octets) : Routine (Except Errno Unit) := do
  let result ← Routine.writeAll 1 session.lifetime text.toBytes
  if let .error _ := result then
    let message := session.message "echo: ".toList ("echo: ".toList ++ "I/O error".toList)
    let _ ← Routine.writeAll 2 session.lifetime message.toBytes
  return result

/-- What is known after a line of `echo`. -/
def Session.printed (session : Session) (result : Except Errno Unit) : Session :=
  { session with unwritten := false, status := if result.isOk then 0 else 1 }

theorem asks_echo (means : Means) (session : Session) (texts : List Octets)
    (speaks : session.speaker = "echo: ".toList) :
    Asks (delivering (echoBuiltin means texts)) session
      (printing session (Printing.echo texts)) (fun _ => .normal) session.printed := by
  rw [Asks, delivering, modify_bind, echoBuiltin, printed, print, write, printing]
  simp only [bind_assoc, get_bind]
  rw [bind_of_asks (asks_lift _ _)]
  refine bind_congr fun result => ?_
  cases result with
  | ok => rfl
  | error errno =>
    rw [← speaks]
    refine (bind_of_asks (asks_report _ _) _).trans ?_
    refine bind_congr fun _ => ?_
    show (pure (.ok .normal, { session with unwritten := false, status := 0 ||| 1 }) :
      Routine (Except Breach Flow × Session)) = _
    rfl

theorem ofWords_echo {session : Session} (noFunction : session.functions.lookup echoName = none)
    (texts : List Octets) :
    Role.ofWords session (echoName :: texts) = (.usual echoBuiltin, echoName :: texts) := by
  unfold Role.ofWords
  simp only [List.headD_cons, noFunction]
  rfl

/-- Whether nothing comes between lines of `echo`. -/
structure Session.IsEchoing (session : Session) : Prop extends session.IsCalm where
  noFunction : session.functions.lookup echoName = none
  noAlias : session.aliases.lookup echoName = none ∧ session.aliases.lookup [] = none

theorem asks_runRole {session : Session} (calm : session.IsCalm) (means : Means)
    (runBody : Command → Work Flow) (last : Bool) (texts : List Octets) :
    Asks (do
        let flow ← runRole means runBody last (.usual echoBuiltin) (echoName :: texts)
        noticeEnds
        return flow) session
      (printing session (Printing.echo texts)) (fun _ => .normal) session.printed := by
  have printed := asks_attempted (asks_speaking (asks_echo means
    { session with speaker := echoName ++ ": ".toList } texts rfl))
  refine Asks.bind printed fun result => ?_
  have after : (session.printed result).IsCalm := ⟨calm.noTraps, calm.noJobs, calm.noOption⟩
  exact bind_of_yields after.yields_noticeEnds fun _ => pure Flow.normal

theorem redirected_nil (means : Means) (failed : Work Flow) (action : Nat → Work Flow) :
    redirected means [] failed action = action 2 := rfl

/-- What is known once a command has begun. -/
def Session.begun (session : Session) (line : Nat) : Session :=
  { session with line, substituted := none }

/-- A command of `echo` and words that stand for texts prints the texts, and that is all. -/
theorem asks_runSimple {session : Session} {means : Means} {runBody : Command → Work Flow}
    {last : Bool} {line : Nat} {command : Word} {words : List Word} {texts : List Octets}
    (echoing : session.IsEchoing) (isEcho : command.StandsFor echoName)
    (stands : List.Forall₂ Word.StandsFor words texts) :
    Asks (runSimple means runBody last line [] (command :: words) []) session
      (printing (session.begun line) (Printing.echo texts)) (fun _ => .normal)
      (session.begun line).printed := by
  have noDeclarer : IsNoDeclarer echoName := ⟨by decide, by decide⟩
  have begun : (session.begun line).IsEchoing :=
    ⟨⟨echoing.noTraps, echoing.noJobs, echoing.noOption⟩, echoing.noFunction, echoing.noAlias⟩
  rw [Asks, runSimple, modify_bind, ← Session.begun]
  generalize session.begun line = session at begun ⊢
  rw [bind_of_yields (yields_expandCommand isEcho noDeclarer stands), get_bind,
    ofWords_echo begun.noFunction]
  simp only [Role.forgets, Bool.false_eq_true, if_false, if_true, redirected_nil]
  show Asks (framed _) session (printing session (Printing.echo texts)) (fun _ => .normal)
    fun result => { Session.printed { session with frames := [] :: session.frames } result with
      frames := session.frames }
  refine asks_framed ?_ fun _ => rfl
  have inner : Session.IsCalm { session with frames := [] :: session.frames } :=
    ⟨begun.noTraps, begun.noJobs, begun.noOption⟩
  rw [Asks, runAssignments, List.mapM_nil, pure_bind, get_bind, Session.showsCommands,
    inner.noOption 'x' (by decide)]
  exact asks_runRole inner means runBody last texts

theorem asks_runCommand {session : Session} {means : Means} {depth : Nat} {last : Bool} {line : Nat}
    {command : Word} {words : List Word} {texts : List Octets} (echoing : session.IsEchoing)
    (isEcho : command.StandsFor echoName) (stands : List.Forall₂ Word.StandsFor words texts) :
    Asks (runCommand means (depth + 1) last (.simple line [] (command :: words) [])) session
      (printing (session.begun line) (Printing.echo texts)) (fun _ => .normal)
      (session.begun line).printed := by
  rw [runCommand]
  refine Asks.bind (asks_runSimple echoing isEcho stands) fun result => ?_
  have after : ((session.begun line).printed result).IsCalm :=
    ⟨echoing.noTraps, echoing.noJobs, echoing.noOption⟩
  exact after.yields_settle

/-- The evaluator takes time, and then prints the texts. -/
theorem asks_evaluator {session : Session} {rounds line : Nat} {last : Bool} {command : Word}
    {words : List Word} {texts : List Octets} (echoing : session.IsEchoing)
    (isEcho : command.StandsFor echoName) (stands : List.Forall₂ Word.StandsFor words texts) :
    Asks (evaluator (rounds + 1) last
        [.mk (.mk false [.simple line [] (command :: words) []]) [] false]) session
      (Routine.work >>= fun _ => printing (session.begun line) (Printing.echo texts))
      (fun _ => .normal) (session.begun line).printed := by
  rw [Asks, evaluator, bind_assoc]
  refine (bind_of_asks (asks_lift Routine.work session) _).trans (bind_congr fun _ => ?_)
  rw [runStatements, get_bind, Session.onlyReads, echoing.noOption 'n' (by decide)]
  simp only [Bool.false_eq_true, if_false, runStatement, runForeground, List.isEmpty_nil, if_true,
    runPipeline, runCommands]
  exact Asks.bind (asks_runCommand echoing isEcho stands) fun _ => yields_pure Flow.normal _

/-! ### Lines -/

/-- A line of `echo` and words that stand for texts. -/
structure EchoLine where
  arguments : List Argument
  texts : List Octets
  sound : SimpleLine.IsSound ⟨echoName, arguments⟩
  stands : List.Forall₂ Word.StandsFor (arguments.map Argument.word) texts

namespace EchoLine

/-- The line as one of a simple command. -/
def simple (line : EchoLine) : SimpleLine := ⟨echoName, line.arguments⟩

/-- The line as it is written, with its newline. -/
def written (line : EchoLine) : Octets := line.simple.text ++ ['\n']

/-- What the line prints. -/
def output (line : EchoLine) : Octets := Printing.echo line.texts

end EchoLine

/-- The place after a line that was read from another place. -/
def EchoLine.placeAfter (line : EchoLine) (cursor : Cursor) (session : Session) (rest : Octets) :
    Cursor :=
  Cursor.pastLine { cursor with aliases := session.aliases, renewed := false, spared := none }
    line.simple rest

/-- What is known when the lines up to a number were read. -/
def Session.reaching (session : Session) (line : Nat) : Session := { session with reached := line }

section

variable {session : Session} {cursor : Cursor} {line : EchoLine} {rest : Octets}

/-- The next line is read, and taken note of. -/
theorem yields_readNextLine (echoing : session.IsEchoing)
    (rest_eq : cursor.rest = line.written ++ rest) (outside : cursor.inside = none) :
    Yields (readNextLine cursor) session
      (.ok ([.mk (.mk false [.simple cursor.line [] line.simple.words []]) [] false],
        line.placeAfter cursor session rest))
      (session.reaching (line.placeAfter cursor session rest).line) := by
  have faces : cursor.rest = line.simple.text ++ '\n' :: rest := by
    rw [rest_eq, EchoLine.written, List.append_assoc]
    rfl
  have atLine :
      Cursor.IsAtLine { cursor with aliases := session.aliases, renewed := false, spared := none }
        line.simple rest :=
    ⟨⟨faces, outside⟩, line.sound, rfl, rfl, echoing.noAlias⟩
  rw [Yields, readNextLine, get_bind, readLine_of_isAtLine atLine]
  rfl

/-- What is known after a line. -/
def Session.ran (session : Session) (line reached : Nat) (result : Except Errno Unit) : Session :=
  ((session.reaching reached).begun line).printed result

theorem Session.IsEchoing.ran (echoing : session.IsEchoing) (line reached : Nat)
    (result : Except Errno Unit) : (session.ran line reached result).IsEchoing :=
  ⟨⟨echoing.noTraps, echoing.noJobs, echoing.noOption⟩, echoing.noFunction, echoing.noAlias⟩

/-- The shell reads a line, prints its text, and goes on after it. -/
theorem runSupplied_of_line {means : Means} {rounds count : Nat} {asking asked : Bool}
    {supply : Supply} (echoing : session.IsEchoing) (runs : means.run = evaluator (rounds + 1))
    (rest_eq : cursor.rest = line.written ++ rest) (outside : cursor.inside = none) :
    runSupplied means asking (count + 1) asked cursor supply session =
      (Routine.work >>= fun _ => printing (session.begun cursor.line) line.output) >>= fun result =>
        runSupplied means asking count false (line.placeAfter cursor session rest) supply
          (session.ran cursor.line (line.placeAfter cursor session rest).line result) := by
  have nonempty : cursor.rest.isEmpty = false := by
    rw [rest_eq, EchoLine.written]
    simp
  rw [runSupplied]
  simp only [nonempty, Bool.false_eq_true, and_false, if_false]
  rw [ite_bind_of_yields (echoing.yields_prompt "PS1"),
    bind_of_yields (yields_readNextLine echoing rest_eq outside)]
  generalize line.placeAfter cursor session rest = next
  have reached : (session.reaching next.line).IsEchoing :=
    ⟨⟨echoing.noTraps, echoing.noJobs, echoing.noOption⟩, echoing.noFunction, echoing.noAlias⟩
  simp only [List.isEmpty_cons, Bool.false_eq_true, if_false, runs]
  rw [bind_of_yields (reached.yields_promptLines _ _)]
  refine (bind_of_asks (asks_evaluator reached isCommandName_echoName.standsFor line.stands) _).trans
    (bind_congr fun result => ?_)
  have after := (echoing.ran cursor.line next.line result).yields_holdBack next supply
  rw [if_neg fun differs => differs rfl]
  exact bind_of_yields after _

end

/-! ### What is seen of printing -/

/-- Whether the system refuses nothing, and was asked for less than anybody looks at. -/
def IsGranted (lifetime : Nat) (replies : List Reply) : Prop :=
  replies.length < lifetime ∧ ∀ reply ∈ replies, ¬ reply.IsRefusal

/-- What is seen while a text is printed: nothing is read, and unless something is refused, nothing
else is written. -/
structure Prints (lifetime : Nat) (text : Bytes) (replies : List Reply) : Prop where
  taken : ∀ source, takenFrom source replies = []
  part : IsGranted lifetime replies → givenTo 1 replies <+: text
  silent : IsGranted lifetime replies → ∀ other, other ≠ 1 → givenTo other replies = []

/-- What was seen when a text has been printed: unless something was refused, that is all of it. -/
structure HasPrinted (lifetime : Nat) (text : Bytes) (replies : List Reply) : Prop
    extends Prints lifetime text replies where
  whole : IsGranted lifetime replies → givenTo 1 replies = text

section

variable {promise : List Reply → Option UInt8 → Prop} {lifetime : Nat} {text later : Bytes}
  {replies more history : List Reply}

theorem IsGranted.left (granted : IsGranted lifetime (replies ++ more)) :
    IsGranted lifetime replies := by
  refine ⟨?_, fun reply mem => granted.2 reply (List.mem_append_left more mem)⟩
  exact Nat.lt_of_le_of_lt (by simp) granted.1

theorem IsGranted.right (granted : IsGranted lifetime (replies ++ more)) :
    IsGranted lifetime more := by
  refine ⟨?_, fun reply mem => granted.2 reply (List.mem_append_right replies mem)⟩
  exact Nat.lt_of_le_of_lt (by simp) granted.1

theorem HasPrinted.append_prints (printed : HasPrinted lifetime text replies)
    (prints : Prints lifetime later more) : Prints lifetime (text ++ later) (replies ++ more) where
  taken source := by rw [takenFrom_append, printed.taken, prints.taken]; rfl
  part granted := by
    rw [givenTo_append, printed.whole granted.left]
    exact (List.prefix_append_right_inj text).mpr (prints.part granted.right)
  silent granted other differs := by
    rw [givenTo_append, printed.silent granted.left other differs,
      prints.silent granted.right other differs]
    rfl

theorem HasPrinted.append (printed : HasPrinted lifetime text replies)
    (others : HasPrinted lifetime later more) :
    HasPrinted lifetime (text ++ later) (replies ++ more) :=
  { printed.append_prints others.toPrints with
    whole := fun granted => by
      rw [givenTo_append, printed.whole granted.left, others.whole granted.right] }

theorem hasPrinted_nil (lifetime : Nat) : HasPrinted lifetime [] [] :=
  ⟨⟨fun _ => rfl, fun _ => List.nil_prefix, fun _ _ _ => rfl⟩, fun _ => rfl⟩

theorem Prints.of_writes (writes : Writes 1 text replies) : Prints lifetime text replies :=
  ⟨writes.taken, fun _ => writes.given, fun _ => writes.silent⟩

/-- Where something was refused, anything may have been printed. -/
theorem HasPrinted.of_refusal (taken : ∀ source, takenFrom source replies = [])
    (refused : ∃ reply ∈ replies, reply.IsRefusal) : HasPrinted lifetime text replies := by
  obtain ⟨reply, mem, refusal⟩ := refused
  have never : ¬ IsGranted lifetime replies := fun granted => granted.2 reply mem refusal
  exact ⟨⟨taken, fun granted => absurd granted never, fun granted => absurd granted never⟩,
    fun granted => absurd granted never⟩

/-- A line of `echo` prints its text, and nothing else. -/
theorem keeps_printing {session : Session} {text : Octets} {next : Except Errno Unit → Program}
    (meanwhile : ∀ replies, Prints session.lifetime text.toBytes replies →
      promise (history ++ replies) none)
    (afterwards : ∀ replies result, HasPrinted session.lifetime text.toBytes replies →
      (next result).Keeps promise (history ++ replies)) :
    (printing session text next).Keeps promise history := by
  refine keeps_writeAll session.lifetime _ history
    (fun replies writes => meanwhile replies (.of_writes writes)) fun replies result wrote => ?_
  cases result with
  | ok =>
    refine afterwards replies (.ok ()) { Prints.of_writes wrote.toWrites with whole := ?_ }
    exact fun granted => wrote.whole rfl granted.1
  | error errno =>
    obtain ⟨reply, mem, refusal⟩ := wrote.refused errno rfl
    have printed (more : List Reply) {bytes : Bytes} (writes : Writes 2 bytes more) :
        HasPrinted session.lifetime text.toBytes (replies ++ more) :=
      .of_refusal (fun source => by rw [takenFrom_append, wrote.taken, writes.taken]; rfl)
        ⟨reply, List.mem_append_left more mem, refusal⟩
    refine keeps_writeAll session.lifetime _ _ (fun more writes => ?_) fun more _ wroteMessage => ?_
    · rw [List.append_assoc]
      exact meanwhile _ (printed more writes).toPrints
    · rw [List.append_assoc]
      exact afterwards _ _ (printed more wroteMessage.toWrites)

theorem hasPrinted_work (lifetime : Nat) (answer : Request.work.Answer) :
    HasPrinted lifetime [] [⟨.work, answer⟩] :=
  ⟨⟨fun _ => rfl, fun _ => List.nil_prefix, fun _ _ _ => rfl⟩, fun _ => rfl⟩

end

/-! ### Scripts -/

/-- What lines print, one after another. -/
def printedBy (lines : List EchoLine) : Bytes :=
  lines.flatMap fun line => line.output.toBytes

/-- A place in a script that a descriptor gives, and what the shell knows there. -/
structure Situation where
  session : Session
  cursor : Cursor
  /-- Whether the user was asked for the line. -/
  asked : Bool

/-- Whether a text comes next in a script, and nothing comes between its lines. -/
structure Situation.Expects (situation : Situation) (lifetime : Nat) (text : Octets) : Prop where
  echoing : situation.session.IsEchoing
  lifetime_eq : situation.session.lifetime = lifetime
  rest_eq : situation.cursor.rest = text
  outside : situation.cursor.inside = none

/-- The program that a script is, from a situation on. -/
def Situation.program (situation : Situation) (means : Means) (asking : Bool) (count : Nat)
    (supply : Supply) (next : Except Breach Flow × Session → Program) : Program :=
  runSupplied means asking count situation.asked situation.cursor supply situation.session next

section

variable {promise : List Reply → Option UInt8 → Prop} {means : Means} {asking : Bool}
  {rounds count lifetime : Nat} {supply : Supply} {rest : Octets}
  {next : Except Breach Flow × Session → Program}

/-- One line of a script prints its text, and the rest of the script is next. -/
theorem keeps_line {situation : Situation} {line : EchoLine} {history : List Reply}
    (runs : means.run = evaluator (rounds + 1))
    (expects : situation.Expects lifetime (line.written ++ rest))
    (meanwhile : ∀ replies, Prints lifetime line.output.toBytes replies →
      promise (history ++ replies) none)
    (afterwards : ∀ replies later, HasPrinted lifetime line.output.toBytes replies →
      Situation.Expects later lifetime rest →
        (later.program means asking count supply next).Keeps promise (history ++ replies)) :
    (situation.program means asking (count + 1) supply next).Keeps promise history := by
  obtain ⟨session, cursor, asked⟩ := situation
  obtain ⟨echoing, rfl, rest_eq, outside⟩ := expects
  rw [Situation.program, runSupplied_of_line echoing runs rest_eq outside]
  refine ⟨?_, fun answer => ?_⟩
  · simpa using meanwhile [] ⟨fun _ => rfl, fun _ => List.nil_prefix, fun _ _ _ => rfl⟩
  have worked := hasPrinted_work session.lifetime answer
  refine keeps_printing (fun replies prints => ?_) fun replies result printed => ?_
  · simpa using meanwhile _ (worked.append_prints prints)
  have later : Situation.Expects
      ⟨session.ran cursor.line (line.placeAfter cursor session rest).line result,
        line.placeAfter cursor session rest, false⟩ session.lifetime rest :=
    ⟨echoing.ran _ _ result, rfl, Cursor.rest_past _ _ _, (Cursor.inside_past _ _ _).trans outside⟩
  simpa [Situation.program] using afterwards _ _ (worked.append printed) later

/-- The shell prints what the lines of a script print, and nothing else, one after another. -/
theorem keeps_lines {situation : Situation} {lines : List EchoLine} {history : List Reply}
    (runs : means.run = evaluator (rounds + 1))
    (expects : situation.Expects lifetime (lines.flatMap EchoLine.written ++ rest))
    (meanwhile : ∀ replies, Prints lifetime (printedBy lines) replies →
      promise (history ++ replies) none)
    (afterwards : ∀ replies later, HasPrinted lifetime (printedBy lines) replies →
      Situation.Expects later lifetime rest →
        (later.program means asking count supply next).Keeps promise (history ++ replies)) :
    (situation.program means asking (count + lines.length) supply next).Keeps promise history := by
  induction lines generalizing situation history with
  | nil => simpa using afterwards [] situation (hasPrinted_nil lifetime) expects
  | cons line lines inductionHypothesis =>
    rw [List.flatMap_cons, List.append_assoc] at expects
    refine keeps_line runs expects (fun replies prints => ?_)
      fun replies later printed expects => ?_
    · exact meanwhile replies ⟨prints.taken,
        fun granted => (prints.part granted).trans (List.prefix_append _ _), prints.silent⟩
    refine inductionHypothesis expects (fun more prints => ?_) fun more last others expects => ?_
    · rw [List.append_assoc]
      exact meanwhile _ (printed.append_prints prints)
    · rw [List.append_assoc]
      exact afterwards _ last (printed.append others) expects

end

end ShellSmoke.Shell
