/-
This file says what a call of the program comes to. A call explains itself, prints the script, or
checks the target once; which of these it does is settled by its command line, and only a check asks
the runner for anything. Each way ends with a status and with bytes on a stream of its own, so that
the status tells the ways apart. Nothing of this depends on the library that keeps the log.
-/

import ShellSmoke.Invocation
import ShellSmoke.Log.Plain
import ShellSmoke.Proofs.Harness
import ShellSmoke.Proofs.Text

namespace ShellSmoke

/-- The runner that also keeps the jobs it was given, in order. -/
def Runner.noting {World : Type} (runner : Runner World) : Runner (World × List Job) :=
  fun job (world, jobs) => ((runner job world).1, (runner job world).2, jobs ++ [job])

namespace Invocation

/-! ### Reports on what was printed -/

/-- What is said about a result besides the log. -/
def complaint : Except ExitError Unit → List String
  | .ok () => []
  | .error failure =>
    if failure.code = ExitError.failedCheckCode then [] else [failure.message ++ "\n"]

/-- The exit status for a result. -/
def statusOf : Except ExitError Unit → Int
  | .ok () => 0
  | .error failure => failure.code

/-- The report on what became of a text that was to be printed, with records in the log. -/
def reportOn (journal : Log.Journal) (records : List Log.Record)
    (printed : Except ExitError Unit × Sink) : Report where
  output := printed.2.accepted
  errors := Bytes.ofString (String.join (journal.pages records ++ complaint printed.1))
  status := statusOf printed.1

theorem conclude_pages (journal : Log.Journal) (records : List Log.Record)
    (printed : Except ExitError Unit × Sink) :
    conclude printed.1 printed.2 (journal.pages records) = reportOn journal records printed := by
  obtain ⟨status, sink⟩ := printed
  cases status with
  | ok =>
    rw [reportOn, complaint, List.append_nil]
    rfl
  | error failure => rfl

section

variable {World : Type} (runner : Runner World) (name : String) (bytes : Message → Bytes)
  (journal : Log.Journal) (sink : Sink) (world : World)
  (options : CommandLine.Options) (harness : Harness)

theorem carryOut_check :
    carryOut runner name bytes journal sink world (.check options harness) =
      (reportOn journal
          (Harness.optionsRecord options :: harness.records (runner harness.job world).1)
          (Harness.present (runner harness.job world).1.result sink),
        (runner harness.job world).2) :=
  congrArg (·, (runner harness.job world).2) (conclude_pages _ _ _)

theorem carryOut_showScript :
    carryOut runner name bytes journal sink world (.showScript options harness) =
      (reportOn journal [Harness.optionsRecord options]
        (sink.writeTranscript harness.script.render), world) :=
  congrArg (·, world) (conclude_pages _ _ _)

end

/-! ### Calls -/

/-- A call of the program: the path it is called by, the words of its command line, its environment,
and the time that its log shows. -/
structure Call where
  called : Bytes
  words : List Bytes
  environment : Environment
  stamp : String

namespace Call

variable {World : Type} (call : Call) (library : Log.Library) (runner : Runner World)
  (sink : Sink) (world : World) {options : CommandLine.Options} {stop : CommandLine.Stop}

/-- Runs the program. -/
def run : Report × World :=
  Invocation.run library runner call.called call.words call.environment call.stamp sink world

/-- The jobs that the program has its runner carry out. -/
def jobs : List Job := (call.run library runner.noting sink (world, [])).2.2

/-- The log of the call. -/
def journal : Log.Journal := library.begin call.environment call.stamp

/-- Whether the call is accepted, with these options, and prints the script. -/
def Shows (options : CommandLine.Options) : Prop :=
  CommandLine.read call.words = .ok options ∧ options.dryRun = true

/-- Whether the call is accepted, with these options, and checks the target. -/
def Checks (options : CommandLine.Options) : Prop :=
  CommandLine.read call.words = .ok options ∧ options.dryRun = false

/-- The job of a check: the script of the built-in suite, for the executable that the options
name. -/
def job (options : CommandLine.Options) : Job :=
  ⟨options.executable, Bytes.ofString (Script.compose .smoke).render,
    Settings.timeout call.environment⟩

/-- The harness of a check. -/
def harness (options : CommandLine.Options) : Harness :=
  .ofOptions options (Settings.timeout call.environment)

/-- What the call leaves in the log: the options, if there are any, and what the check reports. -/
def records : List Log.Record :=
  match CommandLine.read call.words with
  | .error _ => []
  | .ok options =>
    Harness.optionsRecord options ::
      if options.dryRun then []
      else (call.harness options).records (runner (call.job options) world).1

variable {call}

/-- What is said about the filter of the log before anything else happens. -/
def remarks (call : Call) (library : Log.Library) : Bytes :=
  Bytes.ofString (call.journal library).remarks

/-- The bytes of the message with which reading the command line stops. -/
def messageBytes (call : Call) (stop : CommandLine.Stop) : Bytes :=
  Invocation.messageBytes call.environment (stop.message (CommandLine.calledName call.called))

theorem run_of_stop (stops : CommandLine.read call.words = .error stop) :
    call.run library runner sink world =
      (if stop.onErrorStream then
        ⟨[], call.remarks library ++ call.messageBytes stop, stop.exitCode⟩
      else ⟨call.messageBytes stop, call.remarks library, stop.exitCode⟩, world) := by
  unfold run Invocation.run plan
  rw [stops]
  rfl

theorem run_of_shows (shows : call.Shows options) :
    call.run library runner sink world =
      (reportOn (call.journal library) [Harness.optionsRecord options]
        (sink.writeTranscript (Script.compose .smoke).render), world) := by
  unfold run Invocation.run plan
  rw [shows.1]
  dsimp only
  rw [if_pos shows.2]
  exact carryOut_showScript ..

theorem run_of_checks (checks : call.Checks options) :
    call.run library runner sink world =
      (reportOn (call.journal library)
          (Harness.optionsRecord options ::
            (call.harness options).records (runner (call.job options) world).1)
          (Harness.present (runner (call.job options) world).1.result sink),
        (runner (call.job options) world).2) := by
  unfold run Invocation.run plan
  rw [checks.1]
  dsimp only
  rw [if_neg (by simp [checks.2])]
  exact carryOut_check ..

theorem jobs_of_shows (shows : call.Shows options) : call.jobs library runner sink world = [] := by
  rw [jobs, run_of_shows _ _ _ _ shows]

theorem jobs_of_checks (checks : call.Checks options) :
    call.jobs library runner sink world = [call.job options] := by
  rw [jobs, run_of_checks _ _ _ _ checks]
  rfl

theorem shows_or_checks (accepted : CommandLine.read call.words = .ok options) :
    call.Shows options ∨ call.Checks options := by
  cases same : options.dryRun with
  | true => exact .inl ⟨accepted, same⟩
  | false => exact .inr ⟨accepted, same⟩

/-- The program does the same whether or not its jobs are kept. -/
theorem run_noting :
    call.run library runner.noting sink (world, []) =
      ((call.run library runner sink world).1,
        (call.run library runner sink world).2, call.jobs library runner sink world) := by
  unfold jobs
  cases accepted : CommandLine.read call.words with
  | error stop => rw [run_of_stop _ _ _ _ accepted, run_of_stop _ _ _ _ accepted]
  | ok options =>
    rcases shows_or_checks accepted with shows | checks
    · rw [run_of_shows _ _ _ _ shows, run_of_shows _ _ _ _ shows]
    · rw [run_of_checks _ _ _ _ checks, run_of_checks _ _ _ _ checks]
      rfl

/-! ### Refusals are worded -/

theorem kept_append_ne_nil (read : Terminal.Reader → UInt8 → Terminal.Reader × Bool)
    (later : Bytes) {first : Bytes} (stays : Terminal.kept read first ≠ []) :
    Terminal.kept read (first ++ later) ≠ [] := by
  unfold Terminal.kept at stays ⊢
  rw [List.foldl_append]
  rw [ne_eq, List.reverse_eq_nil_iff] at stays ⊢
  generalize first.foldl _ _ = before at stays ⊢
  -- Nothing that was kept is taken out again.
  induction later generalizing before with
  | nil => exact stays
  | cons byte later inductionHypothesis =>
    refine inductionHypothesis _ ?_
    dsimp only
    split
    · exact List.cons_ne_nil _ _
    · exact stays

theorem onStream_append_ne_nil (theme : Theme) (keeps : Bool) {opening : List Piece}
    (rest : List Piece) (stays : (Message.mk opening).onStream theme keeps ≠ []) :
    (Message.mk (opening ++ rest)).onStream theme keeps ≠ [] := by
  unfold Message.onStream Message.render at stays ⊢
  dsimp only at stays ⊢
  rw [List.map_append, String.join_append, Bytes.ofString_append]
  cases keeps with
  | true => exact List.append_ne_nil_of_left_ne_nil stays _
  | false => exact kept_append_ne_nil Terminal.Reader.readStream _ stays

theorem messageBytes_ne_nil (refusal : CommandLine.Refusal) :
    call.messageBytes (.refused refusal) ≠ [] := by
  have opening (colorize keeps : Bool) :
      (Message.mk CommandLine.errorPieces).onStream (Theme.choose colorize) keeps ≠ [] := by
    cases colorize <;> cases keeps <;> decide
  rw [messageBytes, Invocation.messageBytes, CommandLine.Stop.message, List.append_assoc]
  exact onStream_append_ne_nil _ _ _ (opening _ _)

/-! ### What is printed and what is logged -/

/-- What came of the job of a check. -/
def result (call : Call) (runner : Runner World) (world : World) (options : CommandLine.Options) :
    Except RunError Outcome :=
  (runner (call.job options) world).1.result

/-- The log, as it stands on the stream for errors: what is said about its filter, and the lines of
what gets through. -/
def log (call : Call) (library : Log.Library) (runner : Runner World) (world : World) : Bytes :=
  call.remarks library ++
    Bytes.ofString (String.join ((call.journal library).lines (call.records runner world)))

theorem log_of_stop (stops : CommandLine.read call.words = .error stop) :
    call.log library runner world = call.remarks library := by
  rw [log, records, stops]
  exact List.append_nil _

theorem ofString_join_pages (journal : Log.Journal) (records : List Log.Record) :
    Bytes.ofString (String.join (journal.pages records)) =
      Bytes.ofString journal.remarks ++ Bytes.ofString (String.join (journal.lines records)) := by
  rw [Log.Journal.pages, String.join_cons, Bytes.ofString_append]

theorem records_of_shows (shows : call.Shows options) :
    call.records runner world = [Harness.optionsRecord options] := by
  rw [records, shows.1]
  simp [shows.2]

theorem records_of_checks (checks : call.Checks options) :
    call.records runner world = Harness.optionsRecord options ::
      (call.harness options).records (runner (call.job options) world).1 := by
  rw [records, checks.1]
  simp [checks.2]

theorem complaint_of_judged (outcome : Outcome) :
    complaint (Verdict.ofOutcome outcome).result = [] := by
  cases Verdict.ofOutcome outcome <;> rfl

/-- The script is printed for a dry run. -/
theorem report_of_shows (willing : sink.IsWilling) (shows : call.Shows options) :
    (call.run library runner sink world).1 =
      ⟨sink.accepted ++ Bytes.ofString (Script.compose .smoke).render,
        call.log library runner world, 0⟩ := by
  obtain ⟨written, shown⟩ := willing.writeTranscript (Script.compose .smoke).render
  rw [run_of_shows _ _ _ _ shows, log, records_of_shows _ _ shows, reportOn, written, shown,
    complaint, List.append_nil, ofString_join_pages]
  rfl

/-- A run that failed is complained about, and nothing is printed. -/
theorem report_of_broken {failure : RunError} (checks : call.Checks options)
    (broken : call.result runner world options = .error failure) :
    (call.run library runner sink world).1 =
      ⟨sink.accepted, call.log library runner world ++
        Bytes.ofString ("error: " ++ failure.message ++ "\n"), 1⟩ := by
  unfold result at broken
  rw [run_of_checks _ _ _ _ checks, log, records_of_checks _ _ checks, broken, reportOn,
    String.join_append, Bytes.ofString_append, ofString_join_pages]
  rfl

/-- A run that was judged is told of in the log only, and its transcript is printed. -/
theorem report_of_judged (willing : sink.IsWilling) {outcome : Outcome}
    (checks : call.Checks options) (judged : call.result runner world options = .ok outcome) :
    (call.run library runner sink world).1 =
      ⟨sink.accepted ++ outcome.transcript, call.log library runner world,
        statusOf (Verdict.ofOutcome outcome).result⟩ := by
  unfold result at judged
  obtain ⟨decided, shown⟩ := Harness.present_of_isWilling willing outcome
  rw [run_of_checks _ _ _ _ checks, log, records_of_checks _ _ checks, judged, reportOn, decided,
    shown, complaint_of_judged, List.append_nil, ofString_join_pages]
  rfl

/-! ### Every way a call can end -/

/-- Whether the command line is refused. -/
def IsRefused (call : Call) : Prop :=
  ∃ refusal, CommandLine.read call.words = .error (.refused refusal)

/-- Whether the target is to be checked and the run comes to nothing. -/
def Breaks (call : Call) (runner : Runner World) (world : World) : Prop :=
  ∃ options failure, call.Checks options ∧ call.result runner world options = .error failure

/-- Whether the target is checked and does not pass. -/
def Fails (call : Call) (runner : Runner World) (world : World) : Prop :=
  ∃ options, call.Checks options ∧ (call.result runner world options = .ok .timedOut ∨
    ∃ output code, call.result runner world options = .ok (.completed output code) ∧ code ≠ 0)

/-- Whether help or version is asked for, the script is printed, or the target passes. -/
def Succeeds (call : Call) (runner : Runner World) (world : World) : Prop :=
  CommandLine.read call.words = .error .help ∨ CommandLine.read call.words = .error .version ∨
    (∃ options, call.Shows options) ∨
    ∃ options output, call.Checks options ∧
      call.result runner world options = .ok (.completed output 0)

theorem ways (call : Call) (runner : Runner World) (world : World) :
    call.IsRefused ∨ call.Breaks runner world ∨ call.Fails runner world ∨
      call.Succeeds runner world := by
  unfold Succeeds
  cases accepted : CommandLine.read call.words with
  | error stop => cases stop <;> simp [IsRefused, accepted]
  | ok options =>
    rcases shows_or_checks accepted with shows | checks
    · exact .inr (.inr (.inr (.inr (.inr (.inl ⟨options, shows⟩)))))
    cases result : call.result runner world options with
    | error failure => exact .inr (.inl ⟨options, failure, checks, result⟩)
    | ok outcome =>
      cases outcome with
      | timedOut => exact .inr (.inr (.inl ⟨options, checks, .inl result⟩))
      | completed output code =>
        by_cases zero : code = 0
        · subst zero
          exact .inr (.inr (.inr (.inr (.inr (.inr ⟨options, output, checks, result⟩)))))
        · exact .inr (.inr (.inl ⟨options, checks, .inr ⟨output, code, result, zero⟩⟩))

/-- A report on a refused command line or on a run that came to nothing has something to say. -/
theorem report_of_isRefused (refused : call.IsRefused) :
    (call.run library runner sink world).1.seenStatus = 2 ∧
      (call.run library runner sink world).1.output = [] ∧
      ∃ complaint, complaint ≠ [] ∧ (call.run library runner sink world).1.errors =
        call.log library runner world ++ complaint := by
  obtain ⟨refusal, stops⟩ := refused
  rw [run_of_stop _ _ _ _ stops, log_of_stop _ _ _ stops]
  exact ⟨rfl, rfl, _, messageBytes_ne_nil refusal, rfl⟩

theorem report_of_breaks (breaks : call.Breaks runner world) :
    (call.run library runner sink world).1.seenStatus = 1 ∧
      (call.run library runner sink world).1.output = sink.accepted ∧
      ∃ complaint, complaint ≠ [] ∧ (call.run library runner sink world).1.errors =
        call.log library runner world ++ complaint := by
  obtain ⟨options, failure, checks, broken⟩ := breaks
  rw [report_of_broken _ _ _ _ checks broken]
  exact ⟨rfl, rfl, _, by simp [Bytes.ofString], rfl⟩

theorem report_of_fails (willing : sink.IsWilling) (fails : call.Fails runner world) :
    (call.run library runner sink world).1.seenStatus = 255 ∧
      (call.run library runner sink world).1.errors = call.log library runner world := by
  obtain ⟨options, checks, overdue | ⟨output, code, completed, nonZero⟩⟩ := fails
  · rw [report_of_judged _ _ _ _ willing checks overdue]
    exact ⟨rfl, rfl⟩
  · rw [report_of_judged _ _ _ _ willing checks completed, Verdict.ofOutcome, if_neg nonZero]
    exact ⟨rfl, rfl⟩

theorem report_of_succeeds (willing : sink.IsWilling) (succeeds : call.Succeeds runner world) :
    (call.run library runner sink world).1.seenStatus = 0 ∧
      (call.run library runner sink world).1.errors = call.log library runner world := by
  rcases succeeds with stops | stops | ⟨options, shows⟩ | ⟨options, output, checks, passed⟩
  · rw [run_of_stop _ _ _ _ stops, log_of_stop _ _ _ stops]
    exact ⟨rfl, rfl⟩
  · rw [run_of_stop _ _ _ _ stops, log_of_stop _ _ _ stops]
    exact ⟨rfl, rfl⟩
  · rw [report_of_shows _ _ _ _ willing shows]
    exact ⟨rfl, rfl⟩
  · rw [report_of_judged _ _ _ _ willing checks passed]
    exact ⟨rfl, rfl⟩

/-- If each way has its status and one of them is gone, the status tells which. -/
theorem status_iff_of_ways {status : Nat} {refused breaks fails succeeds : Prop}
    (ofRefused : refused → status = 2) (ofBreaks : breaks → status = 1)
    (ofFails : fails → status = 255) (ofSucceeds : succeeds → status = 0)
    (ways : refused ∨ breaks ∨ fails ∨ succeeds) :
    (status = 2 ↔ refused) ∧ (status = 1 ↔ breaks) ∧ (status = 255 ↔ fails) ∧
      (status = 0 ↔ succeeds) := by
  rcases ways with way | way | way | way
  · have := ofRefused way; grind
  · have := ofBreaks way; grind
  · have := ofFails way; grind
  · have := ofSucceeds way; grind

/-- Whether a report and some jobs say how a call ended, by the status and by what stands on which
stream. -/
structure Tells (call : Call) (library : Log.Library) (runner : Runner World) (world : World)
    (report : Report) (jobs : List Job) : Prop where
  refused : report.seenStatus = 2 ↔ call.IsRefused
  breaks : report.seenStatus = 1 ↔ call.Breaks runner world
  fails : report.seenStatus = 255 ↔ call.Fails runner world
  succeeds : report.seenStatus = 0 ↔ call.Succeeds runner world
  silent : report.seenStatus = 1 ∨ report.seenStatus = 2 → report.output = []
  overdue : ∀ options, call.Checks options → call.result runner world options = .ok .timedOut →
    report.output = Bytes.ofString "Too long no output. Probably you forgot to process EOF\n"
  nonZero : ∀ options output code, call.Checks options →
    call.result runner world options = .ok (.completed output code) → code ≠ 0 →
    report.output = Bytes.ofString "Expected zero exit code\n"
  passes : ∀ options output, call.Checks options →
    call.result runner world options = .ok (.completed output 0) →
    report.output = Bytes.ofString (output ++ "\n")
  shows : ∀ options, call.Shows options →
    report.output = Bytes.ofString (Script.compose .smoke).render ∧ jobs = []
  complains : ∃ complaint, report.errors = call.log library runner world ++ complaint ∧
    (complaint ≠ [] ↔ report.seenStatus = 1 ∨ report.seenStatus = 2)

/-- The exit status tells how a call ended, and what stands on which stream is settled by that: the
diagnostic of a failure, the output of a pass or the script on the stream for output, nothing but
complaints and the log on the other. The jobs are those of this very run, whichever library keeps
the log. -/
theorem status_tells_the_ending (call : Call) (library : Log.Library) (runner : Runner World)
    (sink : Sink) (world : World) (willing : sink.IsWilling) (fresh : sink.accepted = []) :
    call.Tells library runner world (call.run library runner sink world).1
        (call.jobs library runner sink world) ∧
      call.run library runner.noting sink (world, []) =
        ((call.run library runner sink world).1,
          (call.run library runner sink world).2, call.jobs library runner sink world) := by
  refine ⟨?_, run_noting library runner sink world⟩
  obtain ⟨two, one, last, zero⟩ := status_iff_of_ways
    (fun refused : call.IsRefused => (report_of_isRefused library runner sink world refused).1)
    (fun breaks : call.Breaks runner world => (report_of_breaks library runner sink world breaks).1)
    (fun fails => (report_of_fails library runner sink world willing fails).1)
    (fun succeeds => (report_of_succeeds library runner sink world willing succeeds).1)
    (call.ways runner world)
  refine ⟨two, one, last, zero, ?silent, ?overdue, ?nonZero, ?passes, ?shows, ?complains⟩
  case silent =>
    rintro (status | status)
    · rw [(report_of_breaks library runner sink world (one.mp status)).2.1, fresh]
    · exact (report_of_isRefused library runner sink world (two.mp status)).2.1
  case overdue =>
    intro options checks overdue
    rw [report_of_judged _ _ _ _ willing checks overdue, fresh]
    rfl
  case nonZero =>
    intro options output code checks completed nonZero
    rw [report_of_judged _ _ _ _ willing checks completed, fresh, Outcome.transcript,
      if_neg nonZero]
    rfl
  case passes =>
    intro options output checks completed
    rw [report_of_judged _ _ _ _ willing checks completed, fresh]
    rfl
  case shows =>
    intro options shows
    rw [report_of_shows _ _ _ _ willing shows, fresh]
    exact ⟨List.nil_append _, jobs_of_shows _ _ _ _ shows⟩
  case complains =>
    rcases call.ways runner world with refused | breaks | fails | succeeds
    · obtain ⟨status, _, complaint, some, errors⟩ :=
        report_of_isRefused library runner sink world refused
      exact ⟨complaint, errors, iff_of_true some (.inr status)⟩
    · obtain ⟨status, _, complaint, some, errors⟩ :=
        report_of_breaks library runner sink world breaks
      exact ⟨complaint, errors, iff_of_true some (.inl status)⟩
    · obtain ⟨status, errors⟩ := report_of_fails library runner sink world willing fails
      exact ⟨[], by rw [errors, List.append_nil], by simp [status]⟩
    · obtain ⟨status, errors⟩ := report_of_succeeds library runner sink world willing succeeds
      exact ⟨[], by rw [errors, List.append_nil], by simp [status]⟩

/-- A call that checks an executable. -/
def checkingCall : Call :=
  ⟨Bytes.ofString "micro-checker", ["-e", "sh"].map Bytes.ofString, .empty, "now"⟩

/-- A target that prints something and exits with the status that a usage error would have. -/
def pretendingTarget : Runner Unit := fun _ _ => (⟨.ok (.completed "usage" 2), []⟩, ())

theorem status_tells_the_ending_pretending :
    ({} : Sink).IsWilling ∧ ({} : Sink).accepted = [] ∧
      (checkingCall.run .plain pretendingTarget {} ()).1.seenStatus = 255 ∧
      (checkingCall.run .plain pretendingTarget {} ()).1.output =
        Bytes.ofString "Expected zero exit code\n" := by
  have willing : ({} : Sink).IsWilling := ⟨nofun, nofun⟩
  obtain ⟨tells, _⟩ :=
    status_tells_the_ending checkingCall .plain pretendingTarget {} () willing rfl
  have checks : checkingCall.Checks { CommandLine.Options.standard with
      executable := Bytes.ofString "sh" } := ⟨rfl, rfl⟩
  exact ⟨willing, rfl, tells.fails.mpr ⟨_, checks, .inr ⟨"usage", 2, rfl, by decide⟩⟩,
    tells.nonZero _ "usage" 2 checks rfl (by decide)⟩

end Call

end Invocation

end ShellSmoke
