import Windhawk.Webview.ReplyHandlers
import Windhawk.Webview.FilterOptions
import Windhawk.Js.Strings

/-! The installed-mods page's search and filter (`ModsBrowserLocal.tsx`): the filter options
the page keeps, the mods `installedModsFilteredAndSorted` lists, and their order. The options
"enabled" and "disabled" exclude each other, and each selected option must hold of a listed
mod. Local mods, whose ids start with `local@`, are listed before the others. -/

set_option autoImplicit false

namespace Windhawk.ModsBrowserLocal

open Js Webview

/-! ## The filter options -/

/-- The updater `handleFilterChange(key)` gives to `setFilterOptions`: "enabled" and
"disabled" exclude each other. -/
def handleFilterChange (key : String) (prevOptions : Js.Set String) : Js.Set String :=
  toggleFilterOption "enabled" "disabled" key prevOptions

/-- The page's state that its search and filter read. -/
structure FilterState where
  filterText : String
  filterOptions : Js.Set String
  filterDropdownOpen : Bool
  deriving DecidableEq

def FilterState.init : FilterState := ⟨"", Js.Set.empty, false⟩

inductive FilterAction where
  | setFilterText (value : String)
  | setFilterDropdownOpen (value : Bool)
  | handleFilterChange (key : String)
  | handleClearFilters

def FilterState.apply (state : FilterState) : FilterAction → FilterState
  | .setFilterText value => { state with filterText := value }
  | .setFilterDropdownOpen value => { state with filterDropdownOpen := value }
  | .handleFilterChange key =>
      { state with filterOptions := handleFilterChange key state.filterOptions }
  | .handleClearFilters => { state with filterOptions := Js.Set.empty }

theorem apply_exclusive {state : FilterState} (action : FilterAction)
    (exclusive : Exclusive "enabled" "disabled" state.filterOptions) :
    Exclusive "enabled" "disabled" (state.apply action).filterOptions := by
  cases action with
  | handleFilterChange key => exact toggleFilterOption_exclusive (by decide) key exclusive
  | handleClearFilters => exact exclusive_empty _ _
  | _ => exact exclusive

theorem run_exclusive (actions : List FilterAction) :
    Exclusive "enabled" "disabled"
      (actions.foldl FilterState.apply FilterState.init).filterOptions :=
  foldl_keeps _ (fun state : FilterState => Exclusive "enabled" "disabled" state.filterOptions)
    (fun _ => apply_exclusive) actions _ (exclusive_empty _ _)

/-! ## The list -/

def disabled (config : ModConfig) : Bool := (config.get "disabled").any ConfigValue.truthy

def switchChecked (mod : ModDetailsType) : Bool :=
  match mod.config with
  | some config => !disabled config
  | none => false

def textMatches (modId : String) (mod : ModDetailsType) (filterWord : String) : Bool :=
  includes (toLowerCase modId) filterWord ||
    ((mod.metadata.bind (·.name)).map fun name => includes (toLowerCase name) filterWord).getD
      false ||
    ((mod.metadata.bind (·.description)).map fun description =>
      includes (toLowerCase description) filterWord).getD false

/-- The callback `installedModsFilteredAndSorted` gives to `filter`. -/
def matchesFilters (filterWords : List String) (filterOptions : Js.Set String)
    (modId : String) (mod : ModDetailsType) : Bool :=
  if filterWords.length > 0 ∧ !filterWords.all (textMatches modId mod) then false
  else if filterOptions.values.length = 0 then true
  else if filterOptions.has "enabled" ∧ (mod.config.all disabled) then false
  else if filterOptions.has "disabled" ∧ (mod.config.any fun config => !disabled config) then
    false
  else if filterOptions.has "update-available" ∧ !mod.updateAvailable then false
  else true

def title (modId : String) (mod : ModDetailsType) : String :=
  match mod.metadata.bind (·.name) with
  | some name => if name ≠ "" then name else modId
  | none => modId

def compareMods (a b : String × ModDetailsType) : Int :=
  let modAIsLocal := startsWith a.1 "local@"
  let modBIsLocal := startsWith b.1 "local@"
  let modATitle := toLowerCase (title a.1 a.2)
  let modBTitle := toLowerCase (title b.1 b.2)
  if modAIsLocal ≠ modBIsLocal then (if modAIsLocal then -1 else 1)
  else if lessThan modATitle modBTitle then -1
  else if lessThan modBTitle modATitle then 1
  else if lessThan a.1 b.1 then -1
  else if lessThan b.1 a.1 then 1
  else 0

def installedModsFilteredAndSorted (installedMods : Option (Object ModDetailsType))
    (filterText : String) (filterOptions : Js.Set String) :
    Option (List (String × ModDetailsType)) :=
  installedMods.map fun installedMods =>
    let filterWords := ((splitWhiteSpace (toLowerCase filterText)).map trim).filter (·.length > 0)
    sort (installedMods.entries.filter fun entry =>
        matchesFilters filterWords filterOptions entry.1 entry.2)
      compareMods

/-! ## What the list holds -/

theorem matchesFilters_iff (filterOptions : Js.Set String) (modId : String)
    (mod : ModDetailsType) :
    matchesFilters [] filterOptions modId mod = true ↔
      ("enabled" ∈ filterOptions.values → switchChecked mod = true) ∧
        ("disabled" ∈ filterOptions.values → switchChecked mod = false) ∧
        ("update-available" ∈ filterOptions.values → mod.updateAvailable = true) := by
  by_cases noOption : filterOptions.values.length = 0
  · simp [matchesFilters, noOption, List.length_eq_zero.mp noOption]
  · cases config : mod.config <;>
      simp [matchesFilters, noOption, switchChecked, config, imp_iff_not_or]

/-- The search box and the filter menu in any run from the first render: "enabled" and
"disabled" are never both selected, and with an empty search text the page lists exactly the
installed mods whose switch agrees with the selected options, with an update available when
"update-available" is selected. -/
theorem installedModsFilteredAndSorted_run (actions : List FilterAction)
    (installedMods : Object ModDetailsType) :
    let options := (actions.foldl FilterState.apply FilterState.init).filterOptions
    ¬("enabled" ∈ options.values ∧ "disabled" ∈ options.values) ∧
      ∃ listed, installedModsFilteredAndSorted (some installedMods) "" options = some listed ∧
        ∀ entry, entry ∈ listed ↔ entry ∈ installedMods.entries ∧
          ("enabled" ∈ options.values → switchChecked entry.2 = true) ∧
          ("disabled" ∈ options.values → switchChecked entry.2 = false) ∧
          ("update-available" ∈ options.values → entry.2.updateAvailable = true) := by
  have noWords : ((splitWhiteSpace (toLowerCase "")).map trim).filter (·.length > 0) = [] := by
    decide
  refine ⟨run_exclusive actions, _, rfl, fun entry => ?_⟩
  rw [noWords, (sort_perm _ _).mem_iff, List.mem_filter, matchesFilters_iff]

/-- Local mods come first: whatever the search and the options, no mod from the repository
is listed before a local mod. -/
theorem installedModsFilteredAndSorted_local_first (installedMods : Object ModDetailsType)
    (filterText : String) (filterOptions : Js.Set String) :
    ∃ listed, installedModsFilteredAndSorted (some installedMods) filterText filterOptions =
        some listed ∧
      listed.Pairwise fun a b =>
        startsWith b.1 "local@" = true → startsWith a.1 "local@" = true := by
  refine ⟨_, rfl, sort_pairwise_key compareMods (fun entry => startsWith entry.1 "local@")
    (fun a b distinct => ?_) _⟩
  cases localA : startsWith a.1 "local@" <;> cases localB : startsWith b.1 "local@" <;>
    simp_all [compareMods]

end Windhawk.ModsBrowserLocal
