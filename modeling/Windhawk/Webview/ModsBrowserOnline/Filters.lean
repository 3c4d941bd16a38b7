import Windhawk.Webview.IpcMessages
import Windhawk.Js.Strings

/-! The filters of the explore page (`ModsBrowserOnline.tsx`): the author and process
options `extractItemsWithCounts` lists with their counts, and the mods
`installedModsFilteredAndSorted` keeps. An option's count is computed from the items of
each mod, the filter from its include list, and the two treat an include list differently:
the count counts entries, and skips wildcard patterns that the filter matches by file
name. -/

set_option autoImplicit false

namespace Windhawk.ModsBrowserOnline

open Js Webview

structure RepositoryMod where
  metadata : ModMetadata
  details : RepositoryDetails
  deriving DecidableEq

/-- `ModDetailsType`: a repository mod, and what is installed of it. -/
structure ModDetailsType where
  repository : RepositoryMod
  installed : Option InstalledModDetails
  deriving DecidableEq

/-! ## The options and their counts -/

def normalizeProcessName (process : String) : String :=
  if includes process "\\" then substring process (lastIndexOf process '\\' + 1) else process

structure ItemCount where
  count : Nat
  casings : Object Nat
  deriving DecidableEq

def countItem (itemCounts : Object ItemCount) (item : String) : Object ItemCount :=
  if item = "" then itemCounts
  else
    let lowerItem := toLowerCase item
    match itemCounts.get lowerItem with
    | some existing =>
        itemCounts.set lowerItem
          ⟨existing.count + 1, existing.casings.set item ((existing.casings.get item).getD 0 + 1)⟩
    | none => itemCounts.set lowerItem ⟨1, Object.empty.set item 1⟩

/-- `itemCounts` after the loop over `Object.values(repositoryMods)`. -/
def itemCounts (repositoryMods : Object ModDetailsType)
    (extractItems : ModDetailsType → List String) : Object ItemCount :=
  repositoryMods.entries.foldl
    (fun itemCounts entry => (extractItems entry.2).foldl countItem itemCounts) Object.empty

/-- The most common casing, the first one in code point order on a tie. -/
def displayName (casings : Object Nat) : String :=
  (casings.entries.foldl
    (fun best entry =>
      if entry.2 > best.2 ∨ (entry.2 = best.2 ∧ lessThan entry.1 best.1) then entry else best)
    ("", 0)).1

structure FilterItem where
  name : String
  count : Nat
  key : String
  lowerName : String
  deriving DecidableEq, Repr

def extractItemsWithCounts (repositoryMods : Option (Object ModDetailsType)) (keyPrefix : String)
    (extractItems : ModDetailsType → List String) : List FilterItem :=
  match repositoryMods with
  | none => []
  | some repositoryMods =>
      sort ((itemCounts repositoryMods extractItems).entries.map fun entry =>
          ⟨displayName entry.2.casings, entry.2.count, keyPrefix ++ ":" ++ entry.1, entry.1⟩)
        fun a b =>
          if b.count ≠ a.count then (b.count : Int) - a.count
          else localeCompare a.lowerName b.lowerName

def extractAuthor (mod : ModDetailsType) : List String :=
  match mod.repository.metadata.author with
  | some author => if author ≠ "" then [author] else []
  | none => []

def extractAuthorsWithCounts (repositoryMods : Option (Object ModDetailsType)) : List FilterItem :=
  extractItemsWithCounts repositoryMods "author" extractAuthor

/-- What the loop of `extractProcessesWithCounts` pushes for one include entry: `*` as it
is, nothing for an empty entry or another wildcard pattern, and the file name otherwise. -/
def validProcess (process : String) : Option String :=
  if process = "" then none
  else if process = "*" then some "*"
  else if includes process "*" || includes process "?" then none
  else some (normalizeProcessName process)

def validProcesses (mod : ModDetailsType) : List String :=
  (mod.repository.metadata.include.getD []).filterMap validProcess

def extractProcessesWithCounts (repositoryMods : Option (Object ModDetailsType)) :
    List FilterItem :=
  extractItemsWithCounts repositoryMods "process" validProcesses

/-! ## The filter -/

structure SelectedFilters where
  selectedAuthors : List String
  selectedProcesses : List String
  installedFilter : Option Bool

def collectFilterOption (selected : SelectedFilters) (key : String) : SelectedFilters :=
  if startsWith key "author:" then
    { selected with
      selectedAuthors := selected.selectedAuthors ++ [substring key "author:".length] }
  else if startsWith key "process:" then
    { selected with
      selectedProcesses := selected.selectedProcesses ++ [substring key "process:".length] }
  else if key = "installed" then { selected with installedFilter := some true }
  else if key = "not-installed" then { selected with installedFilter := some false }
  else selected

def textMatches (modId : String) (mod : ModDetailsType) (filterWord : String) : Bool :=
  includes (toLowerCase modId) filterWord ||
    (mod.repository.metadata.name.map fun name => includes (toLowerCase name) filterWord).getD
      false ||
    (mod.repository.metadata.description.map fun description =>
      includes (toLowerCase description) filterWord).getD false

def processNames (mod : ModDetailsType) : List String :=
  ((mod.repository.metadata.include.getD []).map fun process =>
    toLowerCase (normalizeProcessName process)).filter (· ≠ "")

/-- The callback `installedModsFilteredAndSorted` gives to `filter`. -/
def matchesFilters (filterWords filterOptions : List String) (modId : String)
    (mod : ModDetailsType) : Bool :=
  if filterWords.length > 0 ∧ !filterWords.all (textMatches modId mod) then false
  else if filterOptions.length = 0 then true
  else
    let selected := filterOptions.foldl collectFilterOption ⟨[], [], none⟩
    (selected.installedFilter.all fun installedFilter => mod.installed.isSome == installedFilter) &&
      (selected.selectedAuthors.isEmpty ||
        (mod.repository.metadata.author.map toLowerCase).any fun author =>
          author ≠ "" && selected.selectedAuthors.any (· == author)) &&
      (selected.selectedProcesses.isEmpty ||
        selected.selectedProcesses.any fun selectedProcess =>
          (processNames mod).contains selectedProcess)

def compareDescending (a b : Int) : Int := if b < a then -1 else if a < b then 1 else 0

def title (modId : String) (mod : ModDetailsType) : String :=
  match mod.repository.metadata.name with
  | some name => if name ≠ "" then name else modId
  | none => modId

/-- The callback `installedModsFilteredAndSorted` gives to `sort`. -/
def compareMods (sortingOrder : String) (a b : String × ModDetailsType) : Int :=
  let detailsA := a.2.repository.details
  let detailsB := b.2.repository.details
  let byDetails : Int :=
    match sortingOrder with
    | "popular-top-rated" => compareDescending detailsA.defaultSorting detailsB.defaultSorting
    | "popular" => compareDescending detailsA.users detailsB.users
    | "top-rated" => compareDescending detailsA.rating detailsB.rating
    | "newest" => compareDescending detailsA.published detailsB.published
    | "last-updated" => compareDescending detailsA.updated detailsB.updated
    | _ => 0
  let titleA := toLowerCase (title a.1 a.2)
  let titleB := toLowerCase (title b.1 b.2)
  if byDetails ≠ 0 then byDetails
  else if lessThan titleA titleB then -1
  else if lessThan titleB titleA then 1
  else if lessThan a.1 b.1 then -1
  else if lessThan b.1 a.1 then 1
  else 0

def installedModsFilteredAndSorted (repositoryMods : Option (Object ModDetailsType))
    (sortingOrder filterText : String) (filterOptions : List String) :
    List (String × ModDetailsType) :=
  let filterWords := ((splitWhiteSpace (toLowerCase filterText)).map trim).filter (·.length > 0)
  sort ((repositoryMods.getD Object.empty).entries.filter fun entry =>
      matchesFilters filterWords filterOptions entry.1 entry.2)
    (compareMods sortingOrder)

/-! ## What an option counts -/

def countOf (items : List String) (lowerName : String) : Nat :=
  items.countP fun item => item ≠ "" ∧ toLowerCase item = lowerName

def countAt (itemCounts : Object ItemCount) (lowerName : String) : Nat :=
  ((itemCounts.get lowerName).map (·.count)).getD 0

theorem countAt_countItem (itemCounts : Object ItemCount) (item lowerName : String) :
    countAt (countItem itemCounts item) lowerName =
      countAt itemCounts lowerName + if item ≠ "" ∧ toLowerCase item = lowerName then 1 else 0 := by
  unfold countItem
  by_cases empty : item = ""
  · simp [empty]
  · by_cases hit : toLowerCase item = lowerName
    · subst hit
      cases found : itemCounts.get (toLowerCase item) <;> simp [countAt, found, empty]
    · cases found : itemCounts.get (toLowerCase item) <;>
        simp [countAt, found, empty, hit, Ne.symm hit]

theorem countAt_foldl_countItem (lowerName : String) :
    ∀ (items : List String) (itemCounts : Object ItemCount),
      countAt (items.foldl countItem itemCounts) lowerName =
        countAt itemCounts lowerName + countOf items lowerName
  | [], _ => rfl
  | item :: rest, itemCounts => by
      rw [List.foldl_cons, countAt_foldl_countItem lowerName rest, countAt_countItem, countOf,
        countOf, List.countP_cons]
      simp only [decide_eq_true_eq]
      omega

theorem countAt_itemCounts (repositoryMods : Object ModDetailsType)
    (extractItems : ModDetailsType → List String) (lowerName : String) :
    countAt (itemCounts repositoryMods extractItems) lowerName =
      (repositoryMods.entries.map fun entry => countOf (extractItems entry.2) lowerName).sum := by
  suffices general : ∀ (entries : List (String × ModDetailsType)) (start : Object ItemCount),
      countAt (entries.foldl (fun itemCounts entry =>
          (extractItems entry.2).foldl countItem itemCounts) start) lowerName =
        countAt start lowerName +
          (entries.map fun entry => countOf (extractItems entry.2) lowerName).sum by
    simpa [countAt] using general repositoryMods.entries Object.empty
  intro entries
  induction entries with
  | nil => simp
  | cons entry rest ih =>
      intro start
      rw [List.foldl_cons, ih, countAt_foldl_countItem, List.map_cons, List.sum_cons]
      omega

/-- Every listed option is keyed by its lower-cased name and counts, over all mods, the
items of each mod with that lower-cased name. -/
theorem mem_extractItemsWithCounts {repositoryMods : Object ModDetailsType} {keyPrefix : String}
    {extractItems : ModDetailsType → List String} {item : FilterItem}
    (listed : item ∈ extractItemsWithCounts (some repositoryMods) keyPrefix extractItems) :
    item.key = keyPrefix ++ ":" ++ item.lowerName ∧
      item.count = (repositoryMods.entries.map fun entry =>
        countOf (extractItems entry.2) item.lowerName).sum := by
  rw [extractItemsWithCounts, (sort_perm _ _).mem_iff, List.mem_map] at listed
  obtain ⟨⟨lowerName, itemCount⟩, member, rfl⟩ := listed
  refine ⟨rfl, ?_⟩
  rw [← countAt_itemCounts]
  simp [countAt, Object.get_of_mem_entries member]

/-! ## What the filter keeps -/

theorem length_installedModsFilteredAndSorted (repositoryMods : Object ModDetailsType)
    (sortingOrder : String) (filterOptions : List String) :
    (installedModsFilteredAndSorted (some repositoryMods) sortingOrder "" filterOptions).length =
      repositoryMods.entries.countP fun entry =>
        matchesFilters [] filterOptions entry.1 entry.2 := by
  rw [installedModsFilteredAndSorted, (sort_perm _ _).length_eq, List.countP_eq_length_filter]
  rfl

theorem matchesFilters_author (lowerName modId : String) (mod : ModDetailsType) :
    matchesFilters [] ["author:" ++ lowerName] modId mod =
      (mod.repository.metadata.author.map toLowerCase).any fun author =>
        author ≠ "" && lowerName == author := by
  have collected : collectFilterOption ⟨[], [], none⟩ ("author:" ++ lowerName) =
      ⟨[lowerName], [], none⟩ := by
    simp [collectFilterOption, startsWith_append, substring_append]
  simp [matchesFilters, collected]

theorem matchesFilters_process (lowerName modId : String) (mod : ModDetailsType) :
    matchesFilters [] ["process:" ++ lowerName] modId mod =
      (processNames mod).contains lowerName := by
  have notAuthor : startsWith ("process:" ++ lowerName) "author:" = false := rfl
  have collected : collectFilterOption ⟨[], [], none⟩ ("process:" ++ lowerName) =
      ⟨[], [lowerName], none⟩ := by
    simp [collectFilterOption, notAuthor, startsWith_append, substring_append]
  simp [matchesFilters, collected]

/-! ## Counts against the filter -/

private theorem sum_map_eq_countP {α : Type} {count : α → Nat} {keep : α → Bool} :
    ∀ entries : List α, (∀ entry ∈ entries, count entry = if keep entry then 1 else 0) →
      (entries.map count).sum = entries.countP keep
  | [], _ => rfl
  | entry :: rest, each => by
      rw [List.map_cons, List.sum_cons, List.countP_cons, each entry (List.mem_cons_self _ _),
        sum_map_eq_countP rest fun other member => each other (List.mem_cons_of_mem _ member)]
      omega

theorem countOf_extractAuthor (lowerName modId : String) (mod : ModDetailsType) :
    countOf (extractAuthor mod) lowerName =
      if matchesFilters [] ["author:" ++ lowerName] modId mod then 1 else 0 := by
  rw [matchesFilters_author, extractAuthor]
  cases mod.repository.metadata.author with
  | none => rfl
  | some author =>
      by_cases empty : author = ""
      · simp [empty, countOf]
      · by_cases hit : toLowerCase author = lowerName
        · subst hit; simp [countOf, empty]
        · simp [countOf, empty, hit, Ne.symm hit]

theorem validProcess_eq_some {process name : String} (valid : validProcess process = some name) :
    name = normalizeProcessName process := by
  unfold validProcess at valid
  split at valid
  · cases valid
  · split at valid
    · rename_i star; cases valid; rw [star]; rfl
    · split at valid
      · cases valid
      · exact (Option.some.inj valid).symm

theorem validProcess_of_counted {process : String} (nonEmpty : process ≠ "")
    (counted : process = "*" ∨ (includes process "*" = false ∧ includes process "?" = false)) :
    validProcess process = some (normalizeProcessName process) := by
  rcases counted with star | ⟨noStar, noQuestion⟩
  · subst star; rfl
  · by_cases star : process = "*"
    · subst star; rfl
    · simp [validProcess, nonEmpty, star, noStar, noQuestion]

/-- No two include entries of the mod have the file name `lowerName`, and one that has it
is `*` or no wildcard pattern. -/
def CountedOnce (lowerName : String) (mod : ModDetailsType) : Prop :=
  ((mod.repository.metadata.include.getD []).filter fun process =>
      toLowerCase (normalizeProcessName process) = lowerName).length ≤ 1 ∧
    ∀ process ∈ mod.repository.metadata.include.getD [],
      toLowerCase (normalizeProcessName process) = lowerName →
        process = "*" ∨ (includes process "*" = false ∧ includes process "?" = false)

instance (lowerName : String) (mod : ModDetailsType) : Decidable (CountedOnce lowerName mod) :=
  inferInstanceAs (Decidable (_ ∧ _))

theorem countOf_validProcesses {lowerName : String} {mod : ModDetailsType}
    (once : CountedOnce lowerName mod) :
    countOf (validProcesses mod) lowerName =
      (mod.repository.metadata.include.getD []).countP fun process =>
        toLowerCase (normalizeProcessName process) = lowerName ∧ lowerName ≠ "" := by
  rw [countOf, validProcesses, List.countP_filterMap]
  refine List.countP_congr fun process member => ?_
  cases valid : validProcess process with
  | none =>
      simp only [Option.map_none', Option.getD_none, Bool.false_eq_true, false_iff,
        decide_eq_true_eq, not_and]
      intro hit named
      have nonEmpty : process ≠ "" := by
        rintro rfl; exact named (by rw [← hit]; rfl)
      rw [validProcess_of_counted nonEmpty (once.2 process member hit)] at valid
      cases valid
  | some name =>
      rw [validProcess_eq_some valid]
      by_cases hit : toLowerCase (normalizeProcessName process) = lowerName
      · subst hit; simp
      · simp [hit]

theorem countOf_validProcesses_eq_ite {lowerName modId : String} {mod : ModDetailsType}
    (once : CountedOnce lowerName mod) :
    countOf (validProcesses mod) lowerName =
      if matchesFilters [] ["process:" ++ lowerName] modId mod then 1 else 0 := by
  rw [countOf_validProcesses once, matchesFilters_process]
  have atMostOne := once.1
  rw [← List.countP_eq_length_filter] at atMostOne
  by_cases named : lowerName = ""
  · simp [named, processNames]
  · have kept : (processNames mod).contains lowerName = true ↔
        0 < (mod.repository.metadata.include.getD []).countP fun process =>
          toLowerCase (normalizeProcessName process) = lowerName ∧ lowerName ≠ "" := by
      simp [processNames, List.countP_pos_iff, named]
    simp only [named, ne_eq, not_false_eq_true, and_true] at kept atMostOne ⊢
    split
    · rename_i contains; have := kept.mp contains; omega
    · rename_i absent; have := mt kept.mpr absent; omega

/-- An option's count is the number of mods the filter keeps with only that option
selected and no search text: always for an author, and for a process when, in every mod,
`CountedOnce` holds of the option's name. -/
theorem filterItem_count_eq_kept :
    (∀ (repositoryMods : Object ModDetailsType) (sortingOrder : String) (item : FilterItem),
      item ∈ extractAuthorsWithCounts (some repositoryMods) →
        (installedModsFilteredAndSorted (some repositoryMods) sortingOrder "" [item.key]).length =
          item.count) ∧
    (∀ (repositoryMods : Object ModDetailsType) (sortingOrder : String) (item : FilterItem),
      item ∈ extractProcessesWithCounts (some repositoryMods) →
      (∀ entry ∈ repositoryMods.entries, CountedOnce item.lowerName entry.2) →
        (installedModsFilteredAndSorted (some repositoryMods) sortingOrder "" [item.key]).length =
          item.count) := by
  refine ⟨fun repositoryMods sortingOrder item listed => ?_,
    fun repositoryMods sortingOrder item listed once => ?_⟩
  · obtain ⟨keyed, counted⟩ := mem_extractItemsWithCounts listed
    rw [keyed, counted, length_installedModsFilteredAndSorted]
    exact (sum_map_eq_countP _ fun entry _ => countOf_extractAuthor _ entry.1 entry.2).symm
  · obtain ⟨keyed, counted⟩ := mem_extractItemsWithCounts listed
    rw [keyed, counted, length_installedModsFilteredAndSorted]
    exact (sum_map_eq_countP _ fun entry member =>
      countOf_validProcesses_eq_ite (once entry member)).symm

def repositoryMod (author : String) (processes : List String) : ModDetailsType :=
  ⟨⟨⟨none, none, some author, some processes⟩, ⟨0, 0, 0, 0, 0⟩⟩, none⟩

def sharedProcessMods : Object ModDetailsType :=
  (Object.empty.set "first" (repositoryMod "Ada" ["C:\\Windows\\A.EXE"])).set "second"
    (repositoryMod "ada" ["a.exe", "b.exe"])

theorem filterItem_count_eq_kept_shared :
    ⟨"Ada", 2, "author:ada", "ada"⟩ ∈ extractAuthorsWithCounts (some sharedProcessMods) ∧
      (installedModsFilteredAndSorted (some sharedProcessMods) "newest" "" ["author:ada"]).length = 2 ∧
    ⟨"A.EXE", 2, "process:a.exe", "a.exe"⟩ ∈ extractProcessesWithCounts (some sharedProcessMods) ∧
      (∀ entry ∈ sharedProcessMods.entries, CountedOnce "a.exe" entry.2) ∧
      (installedModsFilteredAndSorted (some sharedProcessMods) "newest" "" ["process:a.exe"]).length =
        2 := by
  have author : (⟨"Ada", 2, "author:ada", "ada"⟩ : FilterItem) ∈
      extractAuthorsWithCounts (some sharedProcessMods) := by decide
  have process : (⟨"A.EXE", 2, "process:a.exe", "a.exe"⟩ : FilterItem) ∈
      extractProcessesWithCounts (some sharedProcessMods) := by decide
  have once : ∀ entry ∈ sharedProcessMods.entries, CountedOnce "a.exe" entry.2 := by decide
  exact ⟨author, filterItem_count_eq_kept.1 _ "newest" _ author, process, once,
    filterItem_count_eq_kept.2 _ "newest" _ process once⟩

def wildcardDirectoryMods : Object ModDetailsType :=
  (Object.empty.set "first" (repositoryMod "" ["a.exe"])).set "second"
    (repositoryMod "" ["C:\\x*\\a.exe"])

def repeatedProcessMods : Object ModDetailsType :=
  Object.empty.set "only" (repositoryMod "" ["a.exe", "C:\\Windows\\a.exe"])

/-- The count skips a wildcard directory that the filter matches, and counts an include
entry where the filter counts a mod. -/
theorem extractProcessesWithCounts_count_ne_kept :
    (⟨"a.exe", 1, "process:a.exe", "a.exe"⟩ ∈ extractProcessesWithCounts (some wildcardDirectoryMods) ∧
      (installedModsFilteredAndSorted (some wildcardDirectoryMods) "popular-top-rated" ""
        ["process:a.exe"]).length = 2) ∧
    (⟨"a.exe", 2, "process:a.exe", "a.exe"⟩ ∈ extractProcessesWithCounts (some repeatedProcessMods) ∧
      (installedModsFilteredAndSorted (some repeatedProcessMods) "popular-top-rated" ""
        ["process:a.exe"]).length = 1) := by
  decide

end Windhawk.ModsBrowserOnline
