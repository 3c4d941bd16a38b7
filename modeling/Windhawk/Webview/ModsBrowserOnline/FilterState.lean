import Windhawk.Webview.ModsBrowserOnline.Filters
import Windhawk.Webview.FilterOptions

/-! `useFilterState`, the state of the explore page's search and filter menu, as a state
machine whose steps are the calls the page makes of what the hook returns. Its options are
updated with updater functions, so each call reads the options the previous one left.
Selecting one installation option clears the other: over any run at most one of them is
selected, and the installation check of the mods list is then exactly the one the menu
shows. -/

set_option autoImplicit false

namespace Windhawk.ModsBrowserOnline

open Webview

/-! ## The hook -/

/-- The state `useFilterState` keeps. -/
structure FilterState where
  filterText : String
  filterOptions : Js.Set String
  filterDropdownOpen : Bool
  showAllAuthors : Bool
  showAllProcesses : Bool
  deriving DecidableEq

def FilterState.init : FilterState := ⟨"", Js.Set.empty, false, false, false⟩

/-- The updater `handleFilterChange(key)` gives to `setFilterOptions`: the installation
options exclude each other. -/
def handleFilterChange (key : String) (prevOptions : Js.Set String) : Js.Set String :=
  toggleFilterOption "installed" "not-installed" key prevOptions

inductive FilterAction where
  | setFilterText (value : String)
  | setFilterDropdownOpen (value : Bool)
  | setShowAllAuthors (value : Bool)
  | setShowAllProcesses (value : Bool)
  | handleFilterChange (key : String)
  | handleClearFilters

def FilterState.apply (state : FilterState) : FilterAction → FilterState
  | .setFilterText value => { state with filterText := value }
  | .setFilterDropdownOpen value => { state with filterDropdownOpen := value }
  | .setShowAllAuthors value => { state with showAllAuthors := value }
  | .setShowAllProcesses value => { state with showAllProcesses := value }
  | .handleFilterChange key =>
      { state with filterOptions := handleFilterChange key state.filterOptions }
  | .handleClearFilters =>
      { state with
        filterOptions := Js.Set.empty, showAllAuthors := false, showAllProcesses := false }

/-! ## The installation options over a run -/

theorem apply_exclusive {state : FilterState} (action : FilterAction)
    (exclusive : Exclusive "installed" "not-installed" state.filterOptions) :
    Exclusive "installed" "not-installed" (state.apply action).filterOptions := by
  cases action with
  | handleFilterChange key => exact toggleFilterOption_exclusive (by decide) key exclusive
  | handleClearFilters => exact exclusive_empty _ _
  | _ => exact exclusive

theorem run_exclusive (actions : List FilterAction) :
    Exclusive "installed" "not-installed"
      (actions.foldl FilterState.apply FilterState.init).filterOptions :=
  foldl_keeps _
    (fun state : FilterState => Exclusive "installed" "not-installed" state.filterOptions)
    (fun _ => apply_exclusive) actions _ (exclusive_empty _ _)

/-! ## The installation check of the mods list -/

theorem installedFilter_collectFilterOption (selected : SelectedFilters) (key : String) :
    (collectFilterOption selected key).installedFilter =
      if key = "installed" then some true
      else if key = "not-installed" then some false else selected.installedFilter := by
  by_cases installed : key = "installed"
  · subst installed; rfl
  · by_cases notInstalled : key = "not-installed"
    · subst notInstalled; rfl
    · unfold collectFilterOption
      split_ifs <;> rfl

theorem installedFilter_foldl_collectFilterOption (status : Bool) (options : List String)
    (selected : SelectedFilters)
    (other : (if status then "not-installed" else "installed") ∉ options) :
    (options.foldl collectFilterOption selected).installedFilter =
      if (if status then "installed" else "not-installed") ∈ options then some status
      else selected.installedFilter := by
  induction options generalizing selected with
  | nil => simp
  | cons key rest ih =>
      rw [List.foldl_cons, ih _ (fun member => other (List.mem_cons_of_mem _ member)),
        installedFilter_collectFilterOption]
      by_cases hit : key = "installed"
      · subst hit; cases status <;> simp_all
      · by_cases hitNot : key = "not-installed"
        · subst hitNot; cases status <;> simp_all
        · cases status <;> simp [hit, hitNot, Ne.symm hit, Ne.symm hitNot]

theorem installedFilter_of_matchesFilters {filterWords filterOptions : List String}
    {modId : String} {mod : ModDetailsType}
    (kept : matchesFilters filterWords filterOptions modId mod = true)
    (nonEmpty : filterOptions ≠ []) :
    ∀ status ∈ (filterOptions.foldl collectFilterOption ⟨[], [], none⟩).installedFilter,
      mod.installed.isSome = status := by
  intro status selected
  have someOption : filterOptions.length ≠ 0 := by simpa using nonEmpty
  simp only [matchesFilters, someOption, if_false] at kept
  split_ifs at kept
  simp only [Bool.and_eq_true, Option.mem_def.mp selected] at kept
  simpa using kept.1.1

/-- Over every run of the filter hook, the mods list keeps a mod only when its installation
status agrees with each installation option the menu shows as selected. -/
theorem matchesFilters_installation (actions : List FilterAction) (filterWords : List String)
    (modId : String) (mod : ModDetailsType) :
    let options := (actions.foldl FilterState.apply FilterState.init).filterOptions
    matchesFilters filterWords options.values modId mod = true →
      ("installed" ∈ options.values → mod.installed.isSome = true) ∧
        ("not-installed" ∈ options.values → mod.installed.isSome = false) := by
  intro options kept
  have exclusive := run_exclusive actions
  refine ⟨fun installed => ?_, fun notInstalled => ?_⟩
  · have applied := installedFilter_foldl_collectFilterOption true options.values
      ⟨[], [], none⟩ (fun notInstalled => exclusive ⟨installed, notInstalled⟩)
    simp only [if_true, installed] at applied
    exact installedFilter_of_matchesFilters kept (List.ne_nil_of_mem installed) true
      (applied ▸ rfl)
  · have applied := installedFilter_foldl_collectFilterOption false options.values
      ⟨[], [], none⟩ (fun installed => exclusive ⟨installed, notInstalled⟩)
    simp only [Bool.false_eq_true, if_false, notInstalled] at applied
    exact installedFilter_of_matchesFilters kept (List.ne_nil_of_mem notInstalled) false
      (applied ▸ rfl)

theorem matchesFilters_installation_switched :
    let options := ([FilterAction.handleFilterChange "installed",
      .handleFilterChange "not-installed"].foldl FilterState.apply FilterState.init).filterOptions
    matchesFilters [] options.values "first" (repositoryMod "Ada" ["a.exe"]) = true ∧
      ("installed" ∈ options.values →
        (repositoryMod "Ada" ["a.exe"]).installed.isSome = true) ∧
      ("not-installed" ∈ options.values →
        (repositoryMod "Ada" ["a.exe"]).installed.isSome = false) :=
  ⟨by decide, matchesFilters_installation _ [] "first" _ (by decide)⟩

end Windhawk.ModsBrowserOnline
