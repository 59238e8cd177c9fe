/-
This file inserts options into command lines. The grammar is unambiguous, so an accepted line binds
what its items bind, in whatever way they are put together; an item that binds one option more can
stand anywhere between two of them, and only what is said of that option changes.
-/

import ShellSmoke.Proofs.CommandLine.Options
import Mathlib.Data.List.Nodup

namespace ShellSmoke.CommandLine

variable {bindings more others : List Binding} {binding other : Binding} {switch : Switch}
  {waits waiting : Option Switch} {word value : Bytes} {words : List Bytes} {options : Options}

/-! ### The grammar is unambiguous -/

theorem Letters.unique {letters : Bytes} (spelled : Letters letters more waits)
    (again : Letters letters others waiting) : more = others ∧ waits = waiting := by
  induction spelled generalizing others with
  | none =>
    cases again
    exact ⟨rfl, rfl⟩
  | flag later inductionHypothesis =>
    obtain ⟨rest, rfl, respelled⟩ := letters_flag_iff.mp again
    obtain ⟨rfl, rfl⟩ := inductionHypothesis respelled
    exact ⟨rfl, rfl⟩
  | attached option ending given named =>
    obtain ⟨none, _⟩ | ⟨_, _, rfl, rfl⟩ := letters_option_iff.mp again
    · exact absurd none given
    · exact ⟨rfl, rfl⟩
  | waits option =>
    obtain ⟨_, rfl, rfl⟩ | ⟨given, _⟩ := letters_option_iff.mp again
    · exact ⟨rfl, rfl⟩
    · exact absurd rfl given

theorem text_injective {score more : MaxScore}
    (same : Bytes.ofString score.text = Bytes.ofString more.text) : score = more := by
  revert same
  cases score <;> cases more <;> decide

theorem Long.unique {body : Bytes} (spelled : Long body more waits)
    (again : Long body others waiting) : more = others ∧ waits = waiting := by
  generalize same : body = spelling at again
  cases spelled with
  | dryRun => cases again with
    | dryRun => exact ⟨rfl, rfl⟩
    | attached score => cases same
    | waits => cases same
  | attached score => cases again with
    | dryRun => cases same
    | attached score =>
      cases text_injective (List.cons.inj (List.append_cancel_left same)).2
      exact ⟨rfl, rfl⟩
    | waits => simp at same
  | waits => cases again with
    | dryRun => cases same
    | attached score => simp at same
    | waits => exact ⟨rfl, rfl⟩

theorem OptionWord.unique (spelled : OptionWord word more waits)
    (again : OptionWord word others waiting) : more = others ∧ waits = waiting := by
  cases spelled with
  | short given spelled =>
    cases again with
    | short given again => exact spelled.unique again
    | long again => exact absurd rfl spelled.head?_ne_dash
  | long spelled =>
    cases again with
    | short given again => exact absurd rfl again.head?_ne_dash
    | long again => exact spelled.unique again

theorem Gives.unique (gives : Gives switch (some value) binding)
    (again : Gives switch (some value) other) : binding = other := by
  generalize same : some value = text at again
  cases gives with
  | executable path | results path =>
    cases again
    cases same
    rfl
  | max score =>
    cases again
    cases text_injective (Option.some.inj same)
    rfl

theorem RestOfLine.unique (rest : RestOfLine words more) (again : RestOfLine words others) :
    more = others := by
  induction rest generalizing others with
  | none =>
    cases again
    rfl
  | dashes =>
    cases again with
    | dashes => rfl
    | single spelled => exact absurd rfl spelled.ne_dashes
  | single spelled rest inductionHypothesis =>
    cases again with
    | dashes => exact absurd rfl spelled.ne_dashes
    | single respelled again =>
      rw [(spelled.unique respelled).1, inductionHypothesis again]
    | pair respelled => cases (spelled.unique respelled).2
  | pair spelled alone gives rest inductionHypothesis =>
    cases again with
    | single respelled => cases (spelled.unique respelled).2
    | pair respelled _ regives again =>
      obtain ⟨rfl, ⟨⟩⟩ := spelled.unique respelled
      rw [gives.unique regives, inductionHypothesis again]

/-! ### An item more -/

/-- An item that binds an option which is not used yet can stand between any two items of an
accepted line. The line is accepted as before, and nothing else that it asks for changes. -/
theorem exists_read_insert {front item back closing : List Bytes} {before after : List Binding}
    (first : Items front before) (last : Items back after)
    (closes : closing = [] ∨ closing = [[dash, dash]])
    (accepted : read (front ++ back ++ closing) = .ok options) (spelled : Item item [binding])
    (unused : binding.switch ∉ (before ++ after).map Binding.switch) :
    ∃ others, read (front ++ item ++ back ++ closing) = .ok others ∧
      ∀ switch, switch ≠ binding.switch → others.setting? switch = options.setting? switch := by
  have closed : RestOfLine closing [] := by
    rcases closes with rfl | rfl
    · exact .none
    · exact .dashes
  have plain : RestOfLine (front ++ back ++ closing) (before ++ after) := by
    have rest := RestOfLine.of_items first (.of_items last closed)
    rwa [List.append_nil, ← List.append_assoc] at rest
  have extended : RestOfLine (front ++ item ++ back ++ closing) (before ++ [binding] ++ after) := by
    have inserted := RestOfLine.of_items (.cons spelled .none) (.of_items last closed)
    have rest := RestOfLine.of_items first inserted
    simpa using rest
  obtain ⟨bound, line, rfl⟩ := read_eq_ok_iff.mp accepted
  obtain ⟨rest, distinct⟩ := line_iff.mp line
  obtain rfl := plain.unique rest
  have distinctMore : Distinct (before ++ [binding] ++ after) := by
    rw [Distinct, List.append_assoc, List.singleton_append, List.map_append, List.map_cons,
      List.nodup_middle, ← List.map_append]
    exact List.nodup_cons.mpr ⟨unused, distinct⟩
  refine ⟨_, read_eq_ok_iff.mpr ⟨_, line_iff.mpr ⟨extended, distinctMore⟩, rfl⟩,
    fun switch other => ?_⟩
  have same : switch ∈ (before ++ [binding] ++ after).map Binding.switch ↔
      switch ∈ (before ++ after).map Binding.switch := by
    simp [other]
  by_cases used : switch ∈ (before ++ after).map Binding.switch
  · obtain ⟨setting, member, rfl⟩ := List.mem_map.mp used
    have among : setting ∈ before ++ [binding] ++ after := by
      rw [List.append_assoc]
      rcases List.mem_append.mp member with member | member <;> simp [member]
    rw [setting?_of_mem distinct member, setting?_of_mem distinctMore among]
  · rw [setting?_of_unused used, setting?_of_unused (mt same.mp used)]

end ShellSmoke.CommandLine
