/-
This file proves that some options are inert. Two calls that name the same executable, and agree in
whether the script is only shown and in the time that a run has, give their runner the same job; for
the same outcome they print the same and exit alike, and their logs differ in what is said of the
options and in nothing else, whichever library keeps them. An option that is neither the executable
nor the dry run can be put between any two others of a call.
-/

import ShellSmoke.Proofs.CommandLine.Insertion
import ShellSmoke.Proofs.Invocation
import ShellSmoke.Proofs.Log

namespace ShellSmoke

/-! ### Logs of two runs -/

namespace Log

/-- An event with the number of its process left out. -/
def Event.withoutProcess : Event → Event
  | spawned _ => spawned 0
  | event => event

/-- Whether two lines are of one record in two logs, which can show another time and have other
looks; processes have other numbers there too. -/
inductive SameLine (journal other : Journal) : String → String → Prop where
  | record (record : Record) : SameLine journal other (journal.line record) (other.line record)
  | process (span : Option Span) (process number : Nat) :
      SameLine journal other (journal.line ⟨span, .spawned process⟩)
        (other.line ⟨span, .spawned number⟩)

theorem Event.eq_or_spawned {event other : Event}
    (same : event.withoutProcess = other.withoutProcess) :
    event = other ∨ ∃ process number, event = .spawned process ∧ other = .spawned number := by
  cases event <;> cases other <;> simp_all [withoutProcess]

namespace Journal

variable (journal : Journal)

theorem lines_cons (record : Record) (records : List Record) :
    journal.lines (record :: records) =
      if journal.admits record.span record.event.metadata then
        journal.line record :: journal.lines records
      else journal.lines records := by
  unfold lines
  by_cases shown : journal.admits record.span record.event.metadata <;> simp [shown]

theorem lines_append (records more : List Record) :
    journal.lines (records ++ more) = journal.lines records ++ journal.lines more := by
  rw [lines, List.filter_append, List.map_append]
  rfl

/-- Events that are the same but for the numbers of processes have the same lines. -/
theorem sameLines {other : Journal} (alike : journal.admits = other.admits) (span : Option Span)
    {events others : List Event}
    (same : events.map Event.withoutProcess = others.map Event.withoutProcess) :
    List.Forall₂ (SameLine journal other)
      (journal.lines (events.map fun event => ⟨span, event⟩))
      (other.lines (others.map fun event => ⟨span, event⟩)) := by
  induction events generalizing others with
  | nil =>
    cases List.map_eq_nil_iff.mp same.symm
    exact .nil
  | cons event events inductionHypothesis =>
    obtain ⟨later, others, rfl, first, rest⟩ := List.map_eq_cons_iff.mp same.symm
    have tail := inductionHypothesis rest.symm
    -- The number of a process is a value, of which a filter knows nothing.
    have head : later.metadata = event.metadata ∧
        SameLine journal other (journal.line ⟨span, event⟩) (other.line ⟨span, later⟩) := by
      rcases Event.eq_or_spawned first.symm with rfl | ⟨process, number, rfl, rfl⟩
      · exact ⟨rfl, .record _⟩
      · exact ⟨rfl, .process span process number⟩
    rw [List.map_cons, List.map_cons, lines_cons, lines_cons, head.1, ← alike]
    by_cases shown : journal.admits span event.metadata
    · rw [if_pos shown, if_pos shown]
      exact .cons head.2 tail
    · rw [if_neg shown, if_neg shown]
      exact tail

/-- Options are shown alike, whatever they are. -/
theorem length_lines_optionsRecord {other : Journal} (alike : journal.admits = other.admits)
    (options others : CommandLine.Options) :
    (journal.lines [Harness.optionsRecord options]).length =
      (other.lines [Harness.optionsRecord others]).length := by
  have metadata : (Harness.optionsRecord others).event.metadata =
      (Harness.optionsRecord options).event.metadata := rfl
  have span : (Harness.optionsRecord others).span = (Harness.optionsRecord options).span := rfl
  rw [lines_cons, lines_cons, ← alike, metadata, span]
  split
  · rfl
  · rfl

end Journal

end Log

/-- Whether an option that is bound has no effect on the verdict. -/
def CommandLine.Binding.IsInert : CommandLine.Binding → Prop
  | results _ | withoutChecks | max _ => True
  | executable _ | dryRun => False

theorem CommandLine.Binding.IsInert.switch_ne {binding : CommandLine.Binding}
    (inert : binding.IsInert) : .executable ≠ binding.switch ∧ .dryRun ≠ binding.switch := by
  cases binding with
  | executable | dryRun => cases inert
  | results | withoutChecks | max => exact ⟨nofun, nofun⟩

namespace Invocation

open Log

/-! ### Two calls -/

namespace Call

variable {First Second : Type} {call other : Call} {library : Log.Library} {runner : Runner First}
  {another : Runner Second} {sink : Sink} {world : First} {elsewhere : Second}

/-- Whether two calls are accepted and agree in the executable, in whether the script is only shown,
and in the time that a run has. -/
def Agrees (call other : Call) : Prop :=
  ∃ options others, CommandLine.read call.words = .ok options ∧
    CommandLine.read other.words = .ok others ∧ options.executable = others.executable ∧
    options.dryRun = others.dryRun ∧
    Settings.timeout call.environment = Settings.timeout other.environment

/-- Whether two streams for errors hold logs that differ only in the details of the accepted
options, if these are shown, and the same complaint. -/
def SameLog (call other : Call) (library : Log.Library) (errors others : Bytes) : Prop :=
  ∃ options alternative shown shownElse lines later complaint,
    CommandLine.read call.words = .ok options ∧ CommandLine.read other.words = .ok alternative ∧
    shown = (call.journal library).lines [Harness.optionsRecord options] ∧
    shownElse = (other.journal library).lines [Harness.optionsRecord alternative] ∧
    shown.length = shownElse.length ∧
    List.Forall₂ (SameLine (call.journal library) (other.journal library)) lines later ∧
    errors = call.remarks library ++ Bytes.ofString (String.join (shown ++ lines)) ++ complaint ∧
    others = call.remarks library ++ Bytes.ofString (String.join (shownElse ++ later)) ++ complaint

/-- Whether two calls do the same, each with its own runner: they give it the same job if any, print
the same and exit alike if it comes to the same result, and have the same log if it also reports the
same events. -/
structure Alike (call other : Call) (library : Log.Library) (runner : Runner First)
    (another : Runner Second) (sink : Sink) (world : First) (elsewhere : Second) : Prop where
  jobs : ∃ options, CommandLine.read call.words = .ok options ∧
    call.jobs library runner sink world = (if options.dryRun then [] else [call.job options]) ∧
    other.jobs library another sink elsewhere = call.jobs library runner sink world
  report : (∀ job ∈ call.jobs library runner sink world,
      (runner job world).1.result = (another job elsewhere).1.result) →
    (call.run library runner sink world).1.output =
      (other.run library another sink elsewhere).1.output ∧
    (call.run library runner sink world).1.status =
      (other.run library another sink elsewhere).1.status
  log : (∀ job ∈ call.jobs library runner sink world,
      (runner job world).1.result = (another job elsewhere).1.result ∧
      (runner job world).1.events.map Event.withoutProcess =
        (another job elsewhere).1.events.map Event.withoutProcess) →
    Settings.logFilter call.environment = Settings.logFilter other.environment →
    call.SameLog other library (call.run library runner sink world).1.errors
      (other.run library another sink elsewhere).1.errors

theorem sameLog_of_events {options others : CommandLine.Options}
    (accepted : CommandLine.read call.words = .ok options)
    (also : CommandLine.read other.words = .ok others)
    (filters : Settings.logFilter call.environment = Settings.logFilter other.environment)
    (span : Option Span) {events later : List Event}
    (same : events.map Event.withoutProcess = later.map Event.withoutProcess)
    (complaint : List String) :
    call.SameLog other library
      (Bytes.ofString (String.join ((call.journal library).pages
        (Harness.optionsRecord options :: events.map fun event => ⟨span, event⟩) ++ complaint)))
      (Bytes.ofString (String.join ((other.journal library).pages
        (Harness.optionsRecord others :: later.map fun event => ⟨span, event⟩) ++
          complaint))) := by
  have admits : (call.journal library).admits = (other.journal library).admits :=
    congrArg library.admits filters
  have remarks : other.remarks library = call.remarks library :=
    congrArg (Bytes.ofString <| library.remarks ·) filters.symm
  refine ⟨options, others, _, _, _, _, Bytes.ofString (String.join complaint), accepted, also, rfl,
    rfl, Journal.length_lines_optionsRecord _ admits options others,
    Journal.sameLines _ admits span same, ?_, ?_⟩
  · rw [String.join_append, Bytes.ofString_append, ofString_join_pages, ← Journal.lines_append,
      List.singleton_append]
    rfl
  · rw [String.join_append, Bytes.ofString_append, ofString_join_pages, ← Journal.lines_append,
      List.singleton_append, ← remarks]
    rfl

/-- The script is shown alike. -/
theorem alike_of_shows {options others : CommandLine.Options} (shows : call.Shows options)
    (also : other.Shows others) : call.Alike other library runner another sink world elsewhere := by
  have nothing := jobs_of_shows library runner sink world shows
  have nothingElse := jobs_of_shows library another sink elsewhere also
  refine ⟨⟨options, shows.1, ?_, ?_⟩, fun _ => ?_, fun _ filters => ?_⟩
  · rw [nothing, shows.2]
    rfl
  · rw [nothing, nothingElse]
  · rw [run_of_shows _ _ _ _ shows, run_of_shows _ _ _ _ also]
    exact ⟨rfl, rfl⟩
  · rw [run_of_shows _ _ _ _ shows, run_of_shows _ _ _ _ also]
    have same : ([] : List Event).map Event.withoutProcess = [].map Event.withoutProcess := rfl
    exact sameLog_of_events shows.1 also.1 filters none same _

/-- The target is checked alike. -/
theorem alike_of_checks {options others : CommandLine.Options} (checks : call.Checks options)
    (also : other.Checks others) (harness : other.harness others = call.harness options) :
    call.Alike other library runner another sink world elsewhere := by
  have job : other.job others = call.job options := congrArg Harness.job harness
  have one := jobs_of_checks library runner sink world checks
  have oneElse := jobs_of_checks library another sink elsewhere also
  refine ⟨⟨options, checks.1, ?_, ?_⟩, fun same => ?_, fun same filters => ?_⟩
  · rw [one, checks.2]
    rfl
  · rw [one, oneElse, job]
  · rw [one, List.forall_mem_singleton] at same
    rw [run_of_checks _ _ _ _ checks, run_of_checks _ _ _ _ also, job, same]
    exact ⟨rfl, rfl⟩
  · rw [one, List.forall_mem_singleton] at same
    obtain ⟨result, events⟩ := same
    rw [run_of_checks _ _ _ _ checks, run_of_checks _ _ _ _ also, job, harness]
    have records (run : Run) : (call.harness options).records run =
        (run.events ++ Harness.finishReports run.result).map fun event =>
          ⟨some (call.harness options).span, event⟩ := rfl
    have alike : ((runner (call.job options) world).1.events ++
          Harness.finishReports (runner (call.job options) world).1.result).map
            Event.withoutProcess =
        ((another (call.job options) elsewhere).1.events ++
          Harness.finishReports (another (call.job options) elsewhere).1.result).map
            Event.withoutProcess := by
      rw [List.map_append, List.map_append, result, events]
    rw [records, records, reportOn, reportOn, ← result]
    rw [← result] at alike
    exact sameLog_of_events checks.1 also.1 filters _ alike _

theorem alike_of_agrees (agrees : call.Agrees other) :
    call.Alike other library runner another sink world elsewhere := by
  obtain ⟨options, others, accepted, also, executable, dryRun, timeout⟩ := agrees
  rcases shows_or_checks accepted with shows | checks
  · exact alike_of_shows shows ⟨also, dryRun.symm.trans shows.2⟩
  · refine alike_of_checks checks ⟨also, dryRun.symm.trans checks.2⟩ ?_
    rw [harness, harness, Harness.ofOptions, Harness.ofOptions, executable, timeout]

/-! ### A call with an option more -/

theorem agrees_of_setting? {options others : CommandLine.Options}
    (accepted : CommandLine.read call.words = .ok options)
    (also : CommandLine.read other.words = .ok others)
    (executable : others.setting? .executable = options.setting? .executable)
    (dryRun : others.setting? .dryRun = options.setting? .dryRun)
    (timeout : Settings.timeout call.environment = Settings.timeout other.environment) :
    call.Agrees other := by
  refine ⟨options, others, accepted, also, ?_, ?_, timeout⟩
  · simpa [CommandLine.Options.setting?] using executable.symm
  · cases same : options.dryRun <;> cases also : others.dryRun <;>
      simp [CommandLine.Options.setting?, same, also] at dryRun ⊢

open CommandLine in
/-- Options other than the executable and the dry run have no effect but in the log. Calls that
agree but for them are alike, and an item that binds one more of them can stand between any two
items of an accepted call. -/
theorem grading_options_are_inert (library : Log.Library) (runner : Runner First)
    (another : Runner Second) (sink : Sink) (world : First) (elsewhere : Second) (call : Call) :
    (∀ other : Call, call.Agrees other →
      call.Alike other library runner another sink world elsewhere) ∧
      ∀ front item back closing before after binding,
        (∃ options, read call.words = .ok options) → call.words = front ++ back ++ closing →
        Items front before → Items back after → (closing = [] ∨ closing = [[dash, dash]]) →
        Item item [binding] → binding.IsInert →
        binding.switch ∉ (before ++ after).map Binding.switch →
        call.Agrees { call with words := front ++ item ++ back ++ closing } ∧
          call.Alike { call with words := front ++ item ++ back ++ closing } library runner another
            sink world elsewhere := by
  refine ⟨fun other => alike_of_agrees, ?_⟩
  rintro front item back closing before after binding ⟨options, accepted⟩ words first last closes
    spelled inert unused
  have agrees : call.Agrees { call with words := front ++ item ++ back ++ closing } := by
    have inserted := accepted
    rw [words] at inserted
    obtain ⟨others, also, same⟩ := exists_read_insert first last closes inserted spelled unused
    exact agrees_of_setting? accepted also (same _ inert.switch_ne.1) (same _ inert.switch_ne.2) rfl
  exact ⟨agrees, alike_of_agrees agrees⟩

/-- A call that checks an executable and has the log show all but the smallest things. -/
def loggedCall : Call :=
  { checkingCall with environment := (Environment.empty.set "MICRO_CHECK_LOG"
      (Bytes.ofString "debug")).set "NO_COLOR" (Bytes.ofString "1") }

theorem grading_options_are_inert_ceiling :
    let other := { loggedCall with words := ["-e", "sh", "--max", "20"].map Bytes.ofString }
    loggedCall.words = ["-e", "sh"].map Bytes.ofString ∧
      loggedCall.Alike other .plain pretendingTarget pretendingTarget {} () () ∧
      loggedCall.SameLog other .plain (loggedCall.run .plain pretendingTarget {} ()).1.errors
        (other.run .plain pretendingTarget {} ()).1.errors := by
  have path : CommandLine.Item (["-e", "sh"].map Bytes.ofString)
      [.executable (Bytes.ofString "sh")] :=
    .pathSeparate 0 .executable (Bytes.ofString "sh") (by decide) (.inr (by decide))
  obtain ⟨_, alike⟩ := (grading_options_are_inert .plain pretendingTarget pretendingTarget {} () ()
    loggedCall).2 (["-e", "sh"].map Bytes.ofString) _ [] [] _ [] _ ⟨_, rfl⟩ rfl
    (.cons path .none) .none (.inl rfl) (.maxSeparate .twenty) trivial (by decide)
  exact ⟨rfl, alike, alike.log (fun _ _ => ⟨rfl, rfl⟩) rfl⟩

end Call

end Invocation

end ShellSmoke
