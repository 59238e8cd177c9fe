/-
This file says what an accepted command line asks for. Each field of the options is set by the one
binding of its switch, or has its standard value if there is none; and since no item binds an empty
path, no path is empty.
-/

import ShellSmoke.Proofs.CommandLine.Lines
import Mathlib.Data.List.Induction

namespace ShellSmoke.CommandLine

variable {bindings more : List Binding} {binding : Binding} {switch : Switch}
  {waits : Option Switch} {value : Bytes} {words : List Bytes}

/-! ### The options of a line -/

/-- What the options say of a switch, as a binding. -/
def Options.setting? (options : Options) : Switch → Option Binding
  | .executable => some (.executable options.executable)
  | .results => options.results.map .results
  | .withoutChecks => if options.withoutChecks then some .withoutChecks else none
  | .max => some (.max options.max)
  | .dryRun => if options.dryRun then some .dryRun else none
  | .help | .version => none

theorem setting?_apply :
    (binding.apply options).setting? switch =
      if binding.switch = switch then some binding else options.setting? switch := by
  cases binding <;> cases switch <;> rfl

theorem setting?_of_mem (distinct : Distinct bindings) (member : binding ∈ bindings) :
    (Options.ofBindings bindings).setting? binding.switch = some binding := by
  induction bindings using List.reverseRecOn with
  | nil => cases member
  | append_singleton earlier last inductionHypothesis =>
    have first := distinct.of_append
    rw [Reader.ofBindings_concat, setting?_apply]
    rw [List.mem_append, List.mem_singleton] at member
    rcases member with member | rfl
    · have apart : last.switch ≠ binding.switch := by
        intro same
        refine (Reader.distinct_concat_iff first).mp distinct ?_
        rw [same]
        exact List.mem_map_of_mem member
      rw [if_neg apart]
      exact inductionHypothesis first member
    · exact if_pos rfl

theorem setting?_of_unused (unused : switch ∉ bindings.map Binding.switch) :
    (Options.ofBindings bindings).setting? switch = Options.standard.setting? switch := by
  induction bindings using List.reverseRecOn with
  | nil => rfl
  | append_singleton earlier last inductionHypothesis =>
    simp only [List.map_append, List.map_singleton, List.mem_append, List.mem_singleton,
      not_or] at unused
    rw [Reader.ofBindings_concat, setting?_apply, if_neg (Ne.symm unused.2)]
    exact inductionHypothesis unused.1

/-- Whether the options have the values they are bound to, and the standard ones for the rest. -/
structure Reflects (bindings : List Binding) (options : Options) : Prop where
  executable : ∀ path, .executable path ∈ bindings → options.executable = path
  results : ∀ path, .results path ∈ bindings → options.results = some path
  withoutChecks : .withoutChecks ∈ bindings → options.withoutChecks = true
  max : ∀ score, .max score ∈ bindings → options.max = score
  dryRun : .dryRun ∈ bindings → options.dryRun = true
  noExecutable : .executable ∉ bindings.map Binding.switch →
    options.executable = Bytes.ofString "./a.out"
  noResults : .results ∉ bindings.map Binding.switch → options.results = none
  withChecks : .withoutChecks ∉ bindings.map Binding.switch → options.withoutChecks = false
  noMax : .max ∉ bindings.map Binding.switch → options.max = .fifteen
  noDryRun : .dryRun ∉ bindings.map Binding.switch → options.dryRun = false

theorem reflects_ofBindings (distinct : Distinct bindings) :
    Reflects bindings (.ofBindings bindings) where
  executable path member := by
    simpa [Options.setting?, Binding.switch] using setting?_of_mem distinct member
  results path member := by
    simpa [Options.setting?, Binding.switch] using setting?_of_mem distinct member
  withoutChecks member := by
    simpa [Options.setting?, Binding.switch] using setting?_of_mem distinct member
  max score member := by
    simpa [Options.setting?, Binding.switch] using setting?_of_mem distinct member
  dryRun member := by
    simpa [Options.setting?, Binding.switch] using setting?_of_mem distinct member
  noExecutable unused := Binding.executable.inj (Option.some.inj (setting?_of_unused unused))
  noResults unused := by
    simpa [Options.setting?, Options.standard] using setting?_of_unused unused
  withChecks unused := by
    simpa [Options.setting?, Options.standard] using setting?_of_unused unused
  noMax unused := Binding.max.inj (Option.some.inj (setting?_of_unused unused))
  noDryRun unused := by
    simpa [Options.setting?, Options.standard] using setting?_of_unused unused

/-! ### Paths are never empty -/

/-- Whether a binding has no empty path. -/
def Binding.Named : Binding → Prop
  | executable path | results path => path ≠ []
  | withoutChecks | max _ | dryRun => True

theorem Gives.named (gives : Gives switch (some value) binding) : binding.Named := by
  cases gives with
  | executable path named | results path named => exact named
  | max => trivial

theorem Letters.named {letters : Bytes} (spelled : Letters letters more waits) :
    ∀ binding ∈ more, binding.Named := by
  induction spelled with
  | none | waits => simp
  | flag later inductionHypothesis => exact List.forall_mem_cons.mpr ⟨trivial, inductionHypothesis⟩
  | attached option ending given named =>
    rw [List.forall_mem_singleton]
    cases option <;> exact named

theorem RestOfLine.named (rest : RestOfLine words more) : ∀ binding ∈ more, binding.Named := by
  have spelled {word : Bytes} {bindings : List Binding} {waits : Option Switch}
      (spelled : OptionWord word bindings waits) : ∀ binding ∈ bindings, binding.Named := by
    cases spelled with
    | short given spelled => exact spelled.named
    | long spelled => cases spelled <;> simp [Binding.Named]
  induction rest with
  | none | dashes => simp
  | single word rest inductionHypothesis =>
    rw [List.forall_mem_append]
    exact ⟨spelled word, inductionHypothesis⟩
  | pair word alone gives rest inductionHypothesis =>
    rw [List.forall_mem_append, List.forall_mem_append, List.forall_mem_singleton]
    exact ⟨⟨spelled word, gives.named⟩, inductionHypothesis⟩

theorem named_of_setting? (named : ∀ binding ∈ bindings, binding.Named)
    (distinct : Distinct bindings)
    (set : (Options.ofBindings bindings).setting? switch = some binding) : binding.Named := by
  by_cases used : switch ∈ bindings.map Binding.switch
  · obtain ⟨other, member, rfl⟩ := List.mem_map.mp used
    rw [setting?_of_mem distinct member] at set
    cases set
    exact named binding member
  · rw [setting?_of_unused used] at set
    cases switch <;> cases set
    · exact List.cons_ne_nil _ _
    · trivial

/-- A command line is accepted exactly if it is a sequence of complete items, perhaps with the word
that ends the options, in which nothing is bound twice. The options are then what it binds, with the
standard values for the rest, and no path is empty. -/
theorem read_accepts_grammar (words : List Bytes) :
    ((∃ options, read words = .ok options) ↔ ∃ bindings, Line words bindings) ∧
      ∀ bindings options, Line words bindings → read words = .ok options →
        Reflects bindings options ∧ options.executable ≠ [] ∧ options.results ≠ some [] := by
  refine ⟨?_, fun bindings options line accepted => ?_⟩
  · simp only [read_eq_ok_iff, Asks]
    constructor
    · rintro ⟨options, bindings, line, _⟩
      exact ⟨bindings, line⟩
    · rintro ⟨bindings, line⟩
      exact ⟨_, bindings, line, rfl⟩
  · have asked : read words = .ok (.ofBindings bindings) :=
      read_eq_ok_iff.mpr ⟨bindings, line, rfl⟩
    rw [asked] at accepted
    cases accepted
    obtain ⟨rest, distinct⟩ := line_iff.mp line
    refine ⟨reflects_ofBindings distinct, ?_, fun empty => ?_⟩
    · have set : (Options.ofBindings bindings).setting? .executable =
          some (.executable (Options.ofBindings bindings).executable) := rfl
      exact named_of_setting? rest.named distinct set
    · have set : (Options.ofBindings bindings).setting? .results = some (.results []) := by
        rw [Options.setting?, empty]
        rfl
      exact named_of_setting? rest.named distinct set rfl

/-- A line of all kinds of items, with letters that share a word and a path that is a dash. -/
def crowdedLine : List Bytes :=
  ["-tr==out", "--max", "20", "-e", "-", "--dry-run", "--"].map Bytes.ofString

/-- What the line binds. -/
def crowdedBindings : List Binding :=
  [.withoutChecks, .results (Bytes.ofString "=out"), .max .twenty, .executable [dash], .dryRun]

theorem line_crowded : Line crowdedLine crowdedBindings := by
  refine ⟨.inr ⟨crowdedLine.dropLast, by decide, ?_⟩, by decide⟩
  have flagAndPath : Item [Bytes.ofString "-tr==out"]
      [.withoutChecks, .results (Bytes.ofString "=out")] :=
    .pathAttached 1 .results (Bytes.ofString "==out") (by decide) (by decide)
  have ceiling : Item [Bytes.ofString "--max", Bytes.ofString "20"] [.max .twenty] :=
    .maxSeparate .twenty
  have path : Item [Bytes.ofString "-e", Bytes.ofString "-"] [.executable [dash]] :=
    .pathSeparate 0 .executable [dash] (by decide) (.inl rfl)
  exact .cons flagAndPath (.cons ceiling (.cons path (.cons .dryRun .none)))

theorem read_accepts_grammar_crowded :
    Line crowdedLine crowdedBindings ∧
      read crowdedLine =
        .ok ⟨[dash], some (Bytes.ofString "=out"), true, .twenty, true⟩ ∧
      Reflects crowdedBindings ⟨[dash], some (Bytes.ofString "=out"), true, .twenty, true⟩ := by
  have reads : read crowdedLine =
      .ok ⟨[dash], some (Bytes.ofString "=out"), true, .twenty, true⟩ := by rfl
  exact ⟨line_crowded, reads, ((read_accepts_grammar crowdedLine).2 _ _ line_crowded reads).1⟩

end ShellSmoke.CommandLine
