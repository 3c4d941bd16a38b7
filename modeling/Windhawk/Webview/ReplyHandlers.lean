import Windhawk.Webview.Rendering
import Windhawk.Webview.ModsBrowserOnline.Filters

/-! The reply callbacks of the two mods browsers (`ModsBrowserLocal.tsx` and
`ModsBrowserOnline.tsx`), each an `immer` recipe on the map its render captured. Reading a
property of `draft[modId]` throws when the map lacks the mod. The local browser adds and
deletes mods; the explore page only changes what is installed of the repository's mods. -/

set_option autoImplicit false

namespace Windhawk.Webview

open Js

/-! ## Recipes -/

section Recipes

variable {α β : Type}

/-- A recipe on `draft[modId]` that reads or writes one of its properties, and so throws
`error` when the map lacks the mod. -/
def produceEntry (map : Object α) (modId : String) (error : TypeError) (recipe : α → α) :
    Except TypeError (Object α) :=
  if (map.get modId).isSome then .ok (map.modify modId recipe) else .error error

def updateEach (map : Object α) (details : Object β) (recipe : β → α → α) : Object α :=
  details.entries.foldl (fun draft entry => draft.modify entry.1 (recipe entry.2)) map

theorem isSome_get_modify (map : Object α) (modId name : String) (recipe : α → α) :
    ((map.modify modId recipe).get name).isSome = (map.get name).isSome := by
  rw [Object.get_modify]
  split
  · rename_i same; subst same; simp
  · rfl

private theorem get_foldl_modify (recipe : β → α → α) :
    ∀ (entries : List (String × β)) (map : Object α), (entries.map (·.1)).Nodup → ∀ name,
      (entries.foldl (fun draft entry => draft.modify entry.1 (recipe entry.2)) map).get name =
        match entries.lookup name with
        | some updated => (map.get name).map (recipe updated)
        | none => map.get name
  | [], _, _, _ => rfl
  | (first, updated) :: rest, map, unique, name => by
      rw [List.map_cons, List.nodup_cons] at unique
      rw [List.foldl_cons, get_foldl_modify recipe rest _ unique.2, Object.lookup_cons_eq]
      by_cases same : name = first
      · subst same; simp [Object.lookup_eq_none_of_not_mem unique.1]
      · simp [same]

theorem get_updateEach (map : Object α) (details : Object β) (recipe : β → α → α)
    (name : String) :
    (updateEach map details recipe).get name =
      match details.get name with
      | some updated => (map.get name).map (recipe updated)
      | none => map.get name :=
  get_foldl_modify recipe details.entries map details.unique name

theorem isSome_get_updateEach (details : Object β) (recipe : β → α → α) (name : String)
    (map : Object α) :
    ((updateEach map details recipe).get name).isSome = (map.get name).isSome := by
  rw [get_updateEach]
  cases details.get name <;> simp

theorem produceEntry_of_isSome {map : Object α} {modId : String} (present : (map.get modId).isSome)
    (error : TypeError) (recipe : α → α) :
    produceEntry map modId error recipe = .ok (map.modify modId recipe) := by
  simp [produceEntry, present]

theorem isSome_get_of_produceEntry {map updated : Object α} {modId : String} {error : TypeError}
    {recipe : α → α} (produced : produceEntry map modId error recipe = .ok updated)
    (name : String) :
    (updated.get name).isSome = (map.get name).isSome := by
  unfold produceEntry at produced
  split at produced
  · cases produced; exact isSome_get_modify map modId name recipe
  · cases produced

private theorem map_some_produceEntry (map : Object α) (modId : String) (error : TypeError)
    (recipe : α → α) :
    (produceEntry map modId error recipe).map some =
      if (map.get modId).isSome then .ok (some (map.modify modId recipe)) else .error error := by
  unfold produceEntry
  split <;> rfl

section Updates

variable {handle : Handler (Object α)} {reply : Reply} {map : Object α}

theorem get_update_of_ok {updated : Object α} (handled : handle reply map = .ok (some updated))
    (name : String) : (update handle reply map).get name = updated.get name := by
  rw [update, handled]

/-- A callback that runs a recipe on one mod changes that mod's entry alone, and leaves the
map as it was when it throws on a mod the map lacks. -/
theorem get_update_of_produceEntry {modId : String} {error : TypeError} {recipe : α → α}
    (handled : handle reply map = (produceEntry map modId error recipe).map some) (name : String) :
    (update handle reply map).get name =
      if name = modId then (map.get name).map recipe else map.get name := by
  rw [update, handled, map_some_produceEntry]
  by_cases same : name = modId
  · subst same; cases found : map.get name <;> simp [found]
  · by_cases present : (map.get modId).isSome <;> simp [same, present]

end Updates

end Recipes

end Windhawk.Webview

namespace Windhawk.ModsBrowserLocal

open Js Webview

/-- `ModDetailsType` of the installed-mods page. A mod that an `installMod` or `compileMod`
reply added has no `userRating`. -/
structure ModDetailsType where
  metadata : Option ModMetadata
  config : Option ModConfig
  updateAvailable : Bool
  userRating : Option Int
  deriving DecidableEq

def updateInstalledModsDetails (installedMods : Object ModDetailsType)
    (installedModsDetails : Object UpdatedModDetails) : Object ModDetailsType :=
  updateEach installedMods installedModsDetails fun updatedDetails details =>
    { details with
      updateAvailable := updatedDetails.updateAvailable
      userRating := some updatedDetails.userRating }

def setNewModConfig (installedMods : Object ModDetailsType) (modId : String)
    (newConfig : ModConfig) : Object ModDetailsType :=
  installedMods.modify modId fun details =>
    { details with config := details.config.map (·.spread newConfig) }

/-- `draft[modId] = draft[modId] || {}` and the three assignments after it, which the
callbacks of `useInstallMod` and `useCompileMod` share. -/
def setInstalledModDetails (installedMods : Object ModDetailsType) (modId : String)
    (modDetails : InstalledModDetails) : Object ModDetailsType :=
  let details := (installedMods.get modId).getD ⟨none, none, false, none⟩
  installedMods.set modId
    { details with
      metadata := modDetails.metadata
      config := modDetails.config
      updateAvailable := false }

def installMod (installedMods : Object ModDetailsType) (modId : String)
    (installedModDetails : Option InstalledModDetails) : Option (Object ModDetailsType) :=
  installedModDetails.map (setInstalledModDetails installedMods modId)

def compileMod (installedMods : Object ModDetailsType) (modId : String)
    (compiledModDetails : Option InstalledModDetails) : Option (Object ModDetailsType) :=
  compiledModDetails.map (setInstalledModDetails installedMods modId)

def enableMod (installedMods : Object ModDetailsType) (modId : String) (enabled : Bool) :
    Except TypeError (Object ModDetailsType) :=
  produceEntry installedMods modId (.reading "config") fun details =>
    { details with config := details.config.map (·.set "disabled" (.boolean !enabled)) }

/-- The callback of `useDeleteMod`; the navigation away from the deleted mod's page is left
out. -/
def deleteMod (installedMods : Object ModDetailsType) (modId : String) : Object ModDetailsType :=
  installedMods.delete modId

def updateModRating (installedMods : Object ModDetailsType) (modId : String) (rating : Int) :
    Except TypeError (Object ModDetailsType) :=
  produceEntry installedMods modId (.setting "userRating") fun details =>
    { details with userRating := some rating }

/-- The reply callbacks of `ModsBrowserLocal`. A reply that did not succeed is ignored. -/
def handle : Handler (Object ModDetailsType)
  | .updateInstalledModsDetails installedModsDetails, installedMods =>
      .ok (some (updateInstalledModsDetails installedMods installedModsDetails))
  | .setNewModConfig modId config, installedMods =>
      .ok (some (setNewModConfig installedMods modId config))
  | .installMod modId installedModDetails, installedMods =>
      .ok (installMod installedMods modId installedModDetails)
  | .compileMod modId compiledModDetails, installedMods =>
      .ok (compileMod installedMods modId compiledModDetails)
  | .enableMod modId enabled succeeded, installedMods =>
      if succeeded then (enableMod installedMods modId enabled).map some else .ok none
  | .deleteMod modId succeeded, installedMods =>
      .ok (if succeeded then some (deleteMod installedMods modId) else none)
  | .updateModRating modId rating succeeded, installedMods =>
      if succeeded then (updateModRating installedMods modId rating).map some else .ok none

theorem handle_ok_of_present (reply : Reply) (installedMods : Object ModDetailsType)
    (present : ∀ modId, reply.addressee = some modId → (installedMods.get modId).isSome) :
    ∃ result, handle reply installedMods = .ok result := by
  cases reply with
  | enableMod modId _ succeeded | updateModRating modId _ succeeded =>
      cases succeeded
      · exact ⟨none, rfl⟩
      · exact ⟨_, by
          simp [handle, enableMod, updateModRating, produceEntry_of_isSome (present modId rfl)]
          rfl⟩
  | _ => exact ⟨_, rfl⟩

/-- What a reply does to the entry of the mod `name`, `none` while the page lacks the mod:
replies about other mods leave it alone; an installed or compiled mod is added, keeping its
rating; a deleted one is removed; the other replies change a field of a mod the page has. -/
def replyEffect (name : String) : Reply → Option ModDetailsType → Option ModDetailsType
  | .updateInstalledModsDetails installedModsDetails, entry =>
      match installedModsDetails.get name with
      | some updated => entry.map fun details =>
          { details with
            updateAvailable := updated.updateAvailable
            userRating := some updated.userRating }
      | none => entry
  | .setNewModConfig modId newConfig, entry =>
      if name = modId then
        entry.map fun details => { details with config := details.config.map (·.spread newConfig) }
      else entry
  | .installMod modId (some modDetails), entry | .compileMod modId (some modDetails), entry =>
      if name = modId then
        some ⟨modDetails.metadata, modDetails.config, false, entry.bind (·.userRating)⟩
      else entry
  | .enableMod modId enabled true, entry =>
      if name = modId then
        entry.map fun details =>
          { details with config := details.config.map (·.set "disabled" (.boolean !enabled)) }
      else entry
  | .deleteMod modId true, entry => if name = modId then none else entry
  | .updateModRating modId rating true, entry =>
      if name = modId then entry.map fun details => { details with userRating := some rating }
      else entry
  | _, entry => entry

theorem get_update (reply : Reply) (installedMods : Object ModDetailsType) (name : String) :
    (update handle reply installedMods).get name =
      replyEffect name reply (installedMods.get name) := by
  cases reply with
  | updateInstalledModsDetails installedModsDetails =>
      rw [get_update_of_ok rfl, updateInstalledModsDetails, get_updateEach, replyEffect]
      cases installedModsDetails.get name <;> rfl
  | setNewModConfig modId newConfig =>
      rw [get_update_of_ok rfl, setNewModConfig, Object.get_modify]
      split
      · case isTrue same => subst same; simp [replyEffect]
      · case isFalse different => simp [replyEffect, different]
  | installMod modId modDetails | compileMod modId modDetails =>
      cases modDetails with
      | none => rfl
      | some modDetails =>
          rw [get_update_of_ok rfl, setInstalledModDetails, Object.get_set]
          split
          · case isTrue same => subst same; cases installedMods.get name <;> simp [replyEffect]
          · case isFalse different => simp [replyEffect, different]
  | enableMod modId _ succeeded | updateModRating modId _ succeeded =>
      cases succeeded
      · rfl
      · exact get_update_of_produceEntry rfl name
  | deleteMod modId succeeded =>
      cases succeeded
      · rfl
      · rw [get_update_of_ok rfl, deleteMod, Object.get_delete]; rfl

end Windhawk.ModsBrowserLocal

namespace Windhawk.ModsBrowserOnline

open Js Webview

def updateInstalledModsDetails (repositoryMods : Object ModDetailsType)
    (installedModsDetails : Object UpdatedModDetails) : Object ModDetailsType :=
  updateEach repositoryMods installedModsDetails fun updatedDetails mod =>
    { mod with
      installed := mod.installed.map fun installed =>
        { installed with userRating := some updatedDetails.userRating } }

def setInstalled (repositoryMods : Object ModDetailsType) (modId : String)
    (details : InstalledModDetails) : Except TypeError (Object ModDetailsType) :=
  produceEntry repositoryMods modId (.setting "installed") fun mod =>
    { mod with installed := some details }

def installMod (repositoryMods : Object ModDetailsType) (modId : String)
    (installedModDetails : Option InstalledModDetails) :
    Except TypeError (Option (Object ModDetailsType)) :=
  match installedModDetails with
  | none => .ok none
  | some details => (setInstalled repositoryMods modId details).map some

def compileMod (repositoryMods : Object ModDetailsType) (modId : String)
    (compiledModDetails : Option InstalledModDetails) :
    Except TypeError (Option (Object ModDetailsType)) :=
  match compiledModDetails with
  | none => .ok none
  | some details => (setInstalled repositoryMods modId details).map some

def enableMod (repositoryMods : Object ModDetailsType) (modId : String) (enabled : Bool) :
    Except TypeError (Object ModDetailsType) :=
  produceEntry repositoryMods modId (.reading "installed") fun mod =>
    { mod with
      installed := mod.installed.map fun installed =>
        { installed with config := installed.config.map (·.set "disabled" (.boolean !enabled)) } }

/-- The callback of `useDeleteMod`: `delete draft[modId].installed`. -/
def deleteMod (repositoryMods : Object ModDetailsType) (modId : String) :
    Except TypeError (Object ModDetailsType) :=
  produceEntry repositoryMods modId (.deleting "installed") fun mod =>
    { mod with installed := none }

def updateModRating (repositoryMods : Object ModDetailsType) (modId : String) (rating : Int) :
    Except TypeError (Object ModDetailsType) :=
  produceEntry repositoryMods modId (.reading "installed") fun mod =>
    { mod with
      installed := mod.installed.map fun installed => { installed with userRating := some rating } }

/-- The reply callbacks of `ModsBrowserOnline`, which does not listen to
`setNewModConfig`. -/
def handle : Handler (Object ModDetailsType)
  | .updateInstalledModsDetails installedModsDetails, repositoryMods =>
      .ok (some (updateInstalledModsDetails repositoryMods installedModsDetails))
  | .setNewModConfig _ _, _ => .ok none
  | .installMod modId installedModDetails, repositoryMods =>
      installMod repositoryMods modId installedModDetails
  | .compileMod modId compiledModDetails, repositoryMods =>
      compileMod repositoryMods modId compiledModDetails
  | .enableMod modId enabled succeeded, repositoryMods =>
      if succeeded then (enableMod repositoryMods modId enabled).map some else .ok none
  | .deleteMod modId succeeded, repositoryMods =>
      if succeeded then (deleteMod repositoryMods modId).map some else .ok none
  | .updateModRating modId rating succeeded, repositoryMods =>
      if succeeded then (updateModRating repositoryMods modId rating).map some else .ok none

def SameMods (original repositoryMods : Object ModDetailsType) : Prop :=
  ∀ modId, (repositoryMods.get modId).isSome = (original.get modId).isSome

private theorem map_some_eq_ok {ε σ : Type} {result : Except ε σ} {updated : σ}
    (mapped : result.map some = .ok (some updated)) : result = .ok updated := by
  cases result with
  | error => cases mapped
  | ok value => cases mapped; rfl

theorem handle_cases {reply : Reply} {repositoryMods updated : Object ModDetailsType}
    (handled : handle reply repositoryMods = .ok (some updated)) :
    (∃ details, updated = updateInstalledModsDetails repositoryMods details) ∨
      ∃ modId error recipe, produceEntry repositoryMods modId error recipe = .ok updated := by
  cases reply with
  | updateInstalledModsDetails details => cases handled; exact .inl ⟨details, rfl⟩
  | setNewModConfig => cases handled
  | installMod modId details | compileMod modId details =>
      cases details with
      | none => cases handled
      | some details => exact .inr ⟨modId, _, _, map_some_eq_ok handled⟩
  | enableMod modId _ succeeded | deleteMod modId succeeded | updateModRating modId _ succeeded =>
      cases succeeded
      · cases handled
      · exact .inr ⟨modId, _, _, map_some_eq_ok handled⟩

theorem handle_sameMods {reply : Reply} {repositoryMods updated : Object ModDetailsType}
    (handled : handle reply repositoryMods = .ok (some updated)) :
    SameMods repositoryMods updated := by
  intro modId
  rcases handle_cases handled with ⟨details, rfl⟩ | ⟨target, error, recipe, produced⟩
  · exact isSome_get_updateEach _ _ _ _
  · exact isSome_get_of_produceEntry produced modId

theorem handle_ok_of_present (reply : Reply) (repositoryMods : Object ModDetailsType)
    (present : ∀ modId, reply.addressee = some modId → (repositoryMods.get modId).isSome) :
    ∃ result, handle reply repositoryMods = .ok result := by
  cases reply with
  | installMod modId details | compileMod modId details =>
      cases details
      · exact ⟨none, rfl⟩
      · exact ⟨_, by
          simp [handle, installMod, compileMod, setInstalled,
            produceEntry_of_isSome (present modId rfl)]; rfl⟩
  | enableMod modId _ succeeded | deleteMod modId succeeded | updateModRating modId _ succeeded =>
      cases succeeded
      · exact ⟨none, rfl⟩
      · exact ⟨_, by
          simp [handle, enableMod, deleteMod, updateModRating,
            produceEntry_of_isSome (present modId rfl)]; rfl⟩
  | _ => exact ⟨_, rfl⟩

/-- What a reply does to the entry of the repository mod `name`: only what is installed of
the mod it names changes, and a mod the page lacks stays absent. -/
def replyEffect (name : String) : Reply → Option ModDetailsType → Option ModDetailsType
  | .updateInstalledModsDetails installedModsDetails, entry =>
      match installedModsDetails.get name with
      | some updated => entry.map fun mod =>
          { mod with
            installed := mod.installed.map fun installed =>
              { installed with userRating := some updated.userRating } }
      | none => entry
  | .installMod modId (some details), entry | .compileMod modId (some details), entry =>
      if name = modId then entry.map fun mod => { mod with installed := some details } else entry
  | .enableMod modId enabled true, entry =>
      if name = modId then
        entry.map fun mod =>
          { mod with
            installed := mod.installed.map fun installed =>
              { installed with
                config := installed.config.map (·.set "disabled" (.boolean !enabled)) } }
      else entry
  | .deleteMod modId true, entry =>
      if name = modId then entry.map fun mod => { mod with installed := none } else entry
  | .updateModRating modId rating true, entry =>
      if name = modId then
        entry.map fun mod =>
          { mod with
            installed := mod.installed.map fun installed =>
              { installed with userRating := some rating } }
      else entry
  | _, entry => entry

theorem get_update (reply : Reply) (repositoryMods : Object ModDetailsType) (name : String) :
    (update handle reply repositoryMods).get name =
      replyEffect name reply (repositoryMods.get name) := by
  cases reply with
  | updateInstalledModsDetails installedModsDetails =>
      rw [get_update_of_ok rfl, updateInstalledModsDetails, get_updateEach, replyEffect]
      cases installedModsDetails.get name <;> rfl
  | setNewModConfig => rfl
  | installMod modId details | compileMod modId details =>
      cases details with
      | none => rfl
      | some details => exact get_update_of_produceEntry rfl name
  | enableMod modId _ succeeded | deleteMod modId succeeded | updateModRating modId _ succeeded =>
      cases succeeded
      · rfl
      · exact get_update_of_produceEntry rfl name

end Windhawk.ModsBrowserOnline

namespace Windhawk.Webview

open Js

/-! ## Replies against renders -/

section Effects

variable {α : Type} (handle : Handler (Object α)) (effect : String → Reply → Option α → Option α)
  (stepEffect : ∀ reply map name, (update handle reply map).get name = effect name reply (map.get name))
include stepEffect

theorem get_foldl_update (name : String) :
    ∀ (replies : List Reply) (map : Object α),
      (replies.foldl (fun map reply => update handle reply map) map).get name =
        replies.foldl (fun entry reply => effect name reply entry) (map.get name)
  | [], _ => rfl
  | reply :: rest, map => by
      rw [List.foldl_cons, List.foldl_cons, get_foldl_update name rest, stepEffect]

theorem run_renderEach_effects {map : Object α} {replies : List Reply} {final : View (Object α)}
    (ran : run handle (View.init map) (renderEach replies) = .ok final) :
    ∃ last, final = View.init last ∧
      ∀ name, last.get name = replies.foldl (fun entry reply => effect name reply entry) (map.get name) :=
  ⟨_, run_renderEach_ok handle ran, fun name => get_foldl_update handle effect stepEffect name _ _⟩

end Effects

/-- With a render after every reply and no callback throwing, either browser ends with each
mod's entry as the replies about it, in delivery order, make it: replies about other mods
never touch it. -/
theorem renderEach_applies_replyEffects :
    (∀ (installedMods : Object ModsBrowserLocal.ModDetailsType) (replies : List Reply) final,
      run ModsBrowserLocal.handle (View.init installedMods) (renderEach replies) = .ok final →
        ∃ map, final = View.init map ∧ ∀ name, map.get name =
          replies.foldl (fun entry reply => ModsBrowserLocal.replyEffect name reply entry)
            (installedMods.get name)) ∧
    (∀ (repositoryMods : Object ModsBrowserOnline.ModDetailsType) (replies : List Reply) final,
      run ModsBrowserOnline.handle (View.init repositoryMods) (renderEach replies) = .ok final →
        ∃ map, final = View.init map ∧ ∀ name, map.get name =
          replies.foldl (fun entry reply => ModsBrowserOnline.replyEffect name reply entry)
            (repositoryMods.get name)) :=
  ⟨fun _ _ _ => run_renderEach_effects _ _ ModsBrowserLocal.get_update,
    fun _ _ _ => run_renderEach_effects _ _ ModsBrowserOnline.get_update⟩

/-- On the explore page, over any interleaving of replies and renders in which every reply
names a mod of the repository, no callback throws and both maps keep the repository's
mods. -/
theorem online_replies_keep_mods (repositoryMods : Object ModsBrowserOnline.ModDetailsType)
    (events : List Event)
    (addressed : ∀ reply, Event.reply reply ∈ events →
      ∀ modId, reply.addressee = some modId → (repositoryMods.get modId).isSome) :
    ∃ final, run ModsBrowserOnline.handle (View.init repositoryMods) events = .ok final ∧
      final.Keeps (ModsBrowserOnline.SameMods repositoryMods) := by
  refine run_keeps _ (ModsBrowserOnline.SameMods repositoryMods)
    (fun reply => ∀ modId, reply.addressee = some modId → (repositoryMods.get modId).isSome)
    (fun reply captured updated same handled modId => ?_) (fun reply captured safe same => ?_)
    events _ ⟨fun _ found _ => by cases found; rfl, fun _ found _ => by cases found; rfl⟩ addressed
  · rw [ModsBrowserOnline.handle_sameMods handled modId, same modId]
  · exact ModsBrowserOnline.handle_ok_of_present reply captured
      fun modId named => (same modId).trans (safe modId named)

def exploreMods : Object ModsBrowserOnline.ModDetailsType :=
  let repository : ModsBrowserOnline.RepositoryMod := ⟨⟨none, none, none, none⟩, ⟨0, 0, 0, 0, 0⟩⟩
  (Object.empty.set "installed" ⟨repository, some ⟨none, some Object.empty, some 4⟩⟩).set
    "available" ⟨repository, none⟩

theorem online_replies_keep_mods_interleaved :
    ∃ final, run ModsBrowserOnline.handle (View.init exploreMods)
        [.reply (.enableMod "installed" false true), .reply (.deleteMod "installed" true), .render,
          .reply (.updateModRating "available" 5 true)] = .ok final ∧
      final.Keeps (ModsBrowserOnline.SameMods exploreMods) :=
  online_replies_keep_mods _ _ fun reply member modId named => by
    simp only [List.mem_cons, Event.reply.injEq, reduceCtorEq, List.mem_nil_iff, or_false,
      false_or] at member
    rcases member with rfl | rfl | rfl <;> cases named <;> decide

def enabledMod : ModsBrowserLocal.ModDetailsType :=
  ⟨none, some (Object.empty.set "disabled" (.boolean false)), false, some 0⟩

def twoInstalledMods : Object ModsBrowserLocal.ModDetailsType :=
  (Object.empty.set "first" enabledMod).set "second" enabledMod

def disableBoth : List Reply := [.enableMod "first" false true, .enableMod "second" false true]

theorem renderEach_applies_replyEffects_disableBoth :
    ∃ final, run ModsBrowserLocal.handle (View.init twoInstalledMods) (renderEach disableBoth) =
        .ok final ∧
      ∃ map, final = View.init map ∧ ∀ name, map.get name =
        disableBoth.foldl (fun entry reply => ModsBrowserLocal.replyEffect name reply entry)
          (twoInstalledMods.get name) :=
  ⟨_, rfl, renderEach_applies_replyEffects.1 _ _ _ rfl⟩

/-- Two replies before a re-render: the second callback reads the map the first one read,
and its update replaces the first. A reply about a deleted mod throws. -/
theorem replies_lose_update_and_throw :
    (∃ final, run ModsBrowserLocal.handle (View.init twoInstalledMods)
        (disableBoth.map .reply ++ [.render]) = .ok final ∧
      final.state ≠ some (disableBoth.foldl (fun map reply => update ModsBrowserLocal.handle reply map)
        twoInstalledMods)) ∧
    run ModsBrowserLocal.handle (View.init twoInstalledMods)
        [.reply (.deleteMod "first" true), .render, .reply (.enableMod "first" true true)] =
      .error (.reading "config") :=
  ⟨⟨_, rfl, by decide⟩, rfl⟩

end Windhawk.Webview
