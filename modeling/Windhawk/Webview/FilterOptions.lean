import Windhawk.Js.Builtins

/-! The filter options both mods browsers keep in a `Set`, and the updater their
`handleFilterChange` gives to `setFilterOptions`. Each page has two options that exclude
each other; a click on one of them clears the other before the clicked option is toggled,
so no run selects both. -/

set_option autoImplicit false

namespace Windhawk.Webview

/-- The updater `handleFilterChange(key)` gives to `setFilterOptions` on a page whose options
`first` and `second` exclude each other. -/
def toggleFilterOption (first second key : String) (prevOptions : Js.Set String) :
    Js.Set String :=
  let newOptions :=
    if key = first ∧ prevOptions.has second then prevOptions.delete second
    else if key = second ∧ prevOptions.has first then prevOptions.delete first
    else prevOptions
  if newOptions.has key then newOptions.delete key else newOptions.add key

theorem mem_toggle (options : Js.Set String) (key name : String) :
    name ∈ (if options.has key then options.delete key else options.add key).values ↔
      if name = key then key ∉ options.values else name ∈ options.values := by
  by_cases present : key ∈ options.values <;> by_cases hit : name = key <;>
    simp [present, hit]

/-- A click toggles the clicked option and clears the option it excludes; every other option
is left as it was. -/
theorem mem_toggleFilterOption {first second : String} (distinct : first ≠ second)
    (key name : String) (prevOptions : Js.Set String) :
    name ∈ (toggleFilterOption first second key prevOptions).values ↔
      if name = key then name ∉ prevOptions.values
      else name ∈ prevOptions.values ∧ ¬(key = first ∧ name = second) ∧
        ¬(key = second ∧ name = first) := by
  simp only [toggleFilterOption]
  rw [mem_toggle]
  by_cases hit : name = key
  · subst hit
    split_ifs <;> simp_all [Ne.symm distinct]
  · simp only [hit, if_false]
    split_ifs with clearsSecond clearsFirst
    · obtain ⟨rfl, -⟩ := clearsSecond
      simp [and_comm, distinct]
    · obtain ⟨rfl, -⟩ := clearsFirst
      simp [and_comm, Ne.symm distinct]
    · refine ⟨fun member => ⟨member, ?_, ?_⟩, And.left⟩ <;> rintro ⟨rfl, rfl⟩ <;>
        simp_all

/-! ## Runs -/

def Exclusive (first second : String) (options : Js.Set String) : Prop :=
  ¬(first ∈ options.values ∧ second ∈ options.values)

theorem exclusive_empty (first second : String) : Exclusive first second Js.Set.empty := by
  simp [Exclusive]

theorem toggleFilterOption_exclusive {first second : String} (distinct : first ≠ second)
    (key : String) {prevOptions : Js.Set String}
    (exclusive : Exclusive first second prevOptions) :
    Exclusive first second (toggleFilterOption first second key prevOptions) := by
  rintro ⟨selectsFirst, selectsSecond⟩
  rw [mem_toggleFilterOption distinct] at selectsFirst selectsSecond
  by_cases clicksFirst : key = first
  · subst clicksFirst; simp [Ne.symm distinct] at selectsSecond
  · by_cases clicksSecond : key = second
    · subst clicksSecond; simp [distinct] at selectsFirst
    · rw [if_neg (Ne.symm clicksFirst)] at selectsFirst
      rw [if_neg (Ne.symm clicksSecond)] at selectsSecond
      exact exclusive ⟨selectsFirst.1, selectsSecond.1⟩

theorem foldl_keeps {σ α : Type} (step : σ → α → σ) (Holds : σ → Prop)
    (keeps : ∀ state action, Holds state → Holds (step state action)) :
    ∀ (actions : List α) (state : σ), Holds state → Holds (actions.foldl step state)
  | [], _, holds => holds
  | action :: rest, state, holds => foldl_keeps step Holds keeps rest _ (keeps state action holds)

end Windhawk.Webview
