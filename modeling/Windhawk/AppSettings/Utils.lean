import Windhawk.AppSettings.Backends

/-! `AppSettingsUtilsBase` with its portable and non-portable subclasses, and what
`getAppSettings` reads after `updateAppSettings` on either backend. -/

set_option autoImplicit false

namespace Windhawk.AppSettingsUtils

open Js

namespace AppSettingsUtilsBase

variable {σ : Type} (backend : AppSettingsBackend σ)

def getAppSettings (store : σ) : AppSettings := AppSettingsCodec.parse backend store

def updateAppSettings (store : σ) (appSettings : PartialAppSettings) : σ :=
  AppSettingsCodec.serialize backend store appSettings

end AppSettingsUtilsBase

namespace AppSettingsUtilsPortable

def getAppSettings (store : IniAppStore) : AppSettings :=
  AppSettingsUtilsBase.getAppSettings IniAppSettingsBackend.backend store

/-- Refuses a `disableRunUIScheduledTask` that is neither `undefined` nor `null` before
anything is written. -/
def updateAppSettings (store : IniAppStore) (appSettings : PartialAppSettings) :
    Except String IniAppStore :=
  match appSettings disableRunUIScheduledTaskField with
  | some (some _) => .error "Cannot set disableRunUIScheduledTask in portable mode"
  | _ => .ok (AppSettingsUtilsBase.updateAppSettings IniAppSettingsBackend.backend store appSettings)

end AppSettingsUtilsPortable

/-- What the non-portable `updateAppSettings` does outside the settings store. -/
inductive SideEffect where
  | setInstallerLanguage (language : String)
  | enableScheduledTask (taskName : String) (enable : Bool)
  deriving DecidableEq, Repr

namespace AppSettingsUtilsNonPortable

def getAppSettings (store : RegistryAppStore) : AppSettings :=
  AppSettingsUtilsBase.getAppSettings RegistryAppSettingsBackend.backend store

/-- The side effects, in the order they are started, and the store after the write. The
installer language and the scheduled tasks live outside the settings keys, and their
failures are caught. -/
def updateAppSettings (store : RegistryAppStore) (appSettings : PartialAppSettings) :
    List SideEffect × RegistryAppStore :=
  ((appSettings languageField).toList.map .setInstallerLanguage ++
      (appSettings disableUpdateCheckField).toList.map
        (fun disable => .enableScheduledTask "WindhawkUpdateTask" !disable) ++
      (appSettings disableRunUIScheduledTaskField).toList.map
        (fun disable => .enableScheduledTask "WindhawkRunUITask" !(disable = some true)),
    AppSettingsUtilsBase.updateAppSettings RegistryAppSettingsBackend.backend store appSettings)

end AppSettingsUtilsNonPortable

/-! ## Reading back an update -/

section Update

variable {σ : Type} {backend : AppSettingsBackend σ} {readable : FieldDescriptor → Bool}

open AppSettingsCodec

private theorem typedFields_fieldsToWrite {appSettings : PartialAppSettings}
    (encodable : appSettings.Encodable) (location : StorageLocation) :
    TypedFields location (fieldsToWrite appSettings location) := by
  intro field located raw found
  subst located
  rw [get_fieldsToWrite, Option.map_eq_some'] at found
  obtain ⟨value, defined, rfl⟩ := found
  exact serializeField_stores (encodable field value defined)

private theorem rawField_writeIfDefined (laws : FieldStore backend readable) (store : σ)
    {appSettings : PartialAppSettings} (encodable : appSettings.Encodable)
    (location : StorageLocation) (field : AppField) (isReadable : readable field.1 = true) :
    backend.rawField
        (if (fieldsToWrite appSettings location).keys.length > 0 then
          backend.writeAllFields store location (fieldsToWrite appSettings location)
        else store) field =
      if field.1.location = location then
        ((appSettings field).map (serializeField field.1.type)).or (backend.rawField store field)
      else backend.rawField store field := by
  split
  · rw [laws.rawField_writeAllFields _ _ _ (typedFields_fieldsToWrite encodable location) _
      isReadable]
    split
    · rename_i here; subst here; rw [get_fieldsToWrite]
    · rfl
  · rename_i empty
    split
    · rename_i here
      subst here
      rw [← get_fieldsToWrite, get_fieldsToWrite_of_empty empty, Option.none_or]
    · rfl

theorem rawField_serialize (laws : FieldStore backend readable) (store : σ)
    {appSettings : PartialAppSettings} (encodable : appSettings.Encodable) (field : AppField)
    (isReadable : readable field.1 = true) :
    backend.rawField (serialize backend store appSettings) field =
      ((appSettings field).map (serializeField field.1.type)).or (backend.rawField store field) := by
  unfold serialize
  simp only [rawField_writeIfDefined laws _ encodable _ field isReadable]
  cases field.1.location <;> simp

/-- After an update a readable field holds what the update gave it, as the store gives it
back; a field the backend does not read keeps its default. -/
theorem getAppSettings_updateAppSettings (laws : FieldStore backend readable) (store : σ)
    {appSettings : PartialAppSettings} (encodable : appSettings.Encodable) (field : AppField) :
    AppSettingsUtilsBase.getAppSettings backend
        (AppSettingsUtilsBase.updateAppSettings backend store appSettings) field =
      if readable field.1 then
        ((appSettings field).map field.1.type.storedValue).getD
          (AppSettingsUtilsBase.getAppSettings backend store field)
      else getDefaultValue field.1 := by
  unfold AppSettingsUtilsBase.getAppSettings AppSettingsUtilsBase.updateAppSettings parse
  cases isReadable : readable field.1 with
  | false => simp [laws.rawField_unreadable _ field isReadable]
  | true =>
      rw [rawField_serialize laws store encodable field isReadable]
      cases defined : appSettings field with
      | none => rfl
      | some value =>
          exact parseField_serializeField (encodable field value defined)

end Update

theorem FieldType.storedValue_eq {type : FieldType} (notNullable : type ≠ .booleanNullable)
    (value : type.Value) : type.storedValue value = value := by
  cases type <;> first | rfl | exact absurd rfl notNullable

theorem eq_disableRunUIScheduledTask (field : AppField)
    (special : field.1.type = .booleanNullable ∨ field.1.nonPortableOnly = true) :
    field = disableRunUIScheduledTaskField := by
  obtain ⟨descriptor, member⟩ := field
  exact Subtype.ext ((by decide : ∀ descriptor ∈ APP_SETTINGS_FIELDS,
    descriptor.type = .booleanNullable ∨ descriptor.nonPortableOnly = true →
      descriptor = disableRunUIScheduledTaskField.1) descriptor member special)

theorem AppSettingsUtilsPortable.getAppSettings_disableRunUIScheduledTask (store : IniAppStore) :
    AppSettingsUtilsPortable.getAppSettings store disableRunUIScheduledTaskField = none := by
  unfold AppSettingsUtilsPortable.getAppSettings AppSettingsUtilsBase.getAppSettings
    AppSettingsCodec.parse
  rw [IniAppSettingsBackend.fieldStore.rawField_unreadable store disableRunUIScheduledTaskField rfl]
  rfl

theorem AppSettingsUtilsPortable.updateAppSettings_eq_ok (store : IniAppStore)
    {appSettings : PartialAppSettings}
    (allowed : ∀ disable, appSettings disableRunUIScheduledTaskField ≠ some (some disable)) :
    AppSettingsUtilsPortable.updateAppSettings store appSettings =
      .ok (AppSettingsUtilsBase.updateAppSettings IniAppSettingsBackend.backend store
        appSettings) := by
  unfold AppSettingsUtilsPortable.updateAppSettings
  split
  · rename_i disable found; exact absurd found (allowed disable)
  · rfl

theorem AppSettingsUtilsPortable.getAppSettings_updateAppSettings (store : IniAppStore)
    {appSettings : PartialAppSettings} (encodable : appSettings.Encodable) {field : AppField}
    (other : field ≠ disableRunUIScheduledTaskField) :
    AppSettingsUtilsPortable.getAppSettings
        (AppSettingsUtilsBase.updateAppSettings IniAppSettingsBackend.backend store appSettings)
          field =
      (appSettings field).getD (AppSettingsUtilsPortable.getAppSettings store field) := by
  have readable : field.1.nonPortableOnly = false := by
    simpa using fun only => other (eq_disableRunUIScheduledTask field (.inr only))
  unfold AppSettingsUtilsPortable.getAppSettings
  rw [AppSettingsUtils.getAppSettings_updateAppSettings IniAppSettingsBackend.fieldStore store
    encodable]
  simp only [readable, Bool.not_false, if_true]
  cases appSettings field with
  | none => rfl
  | some value =>
      exact FieldType.storedValue_eq
        (fun nullable => other (eq_disableRunUIScheduledTask field (.inl nullable))) value

theorem AppSettingsUtilsNonPortable.getAppSettings_updateAppSettings (store : RegistryAppStore)
    {appSettings : PartialAppSettings} (encodable : appSettings.Encodable) (field : AppField) :
    AppSettingsUtilsNonPortable.getAppSettings
        (AppSettingsUtilsNonPortable.updateAppSettings store appSettings).2 field =
      ((appSettings field).map field.1.type.storedValue).getD
        (AppSettingsUtilsNonPortable.getAppSettings store field) := by
  unfold AppSettingsUtilsNonPortable.getAppSettings AppSettingsUtilsNonPortable.updateAppSettings
  rw [AppSettingsUtils.getAppSettings_updateAppSettings RegistryAppSettingsBackend.fieldStore store
    encodable]
  have readable : field.1.portableOnly = false :=
    (by decide : ∀ field ∈ APP_SETTINGS_FIELDS, field.portableOnly = false) field.1 field.2
  simp [readable]

/-- `getAppSettings()` after `updateAppSettings(p)`, on both backends. -/
theorem updateAppSettings_reads_back :
    (∀ (store : IniAppStore) (appSettings : PartialAppSettings), appSettings.Encodable →
      (∀ disable, appSettings disableRunUIScheduledTaskField ≠ some (some disable)) →
      ∃ updated, AppSettingsUtilsPortable.updateAppSettings store appSettings = .ok updated ∧
        ∀ field, AppSettingsUtilsPortable.getAppSettings updated field =
          if field = disableRunUIScheduledTaskField then
            AppSettingsUtilsPortable.getAppSettings store field
          else (appSettings field).getD (AppSettingsUtilsPortable.getAppSettings store field)) ∧
    (∀ store : IniAppStore,
      AppSettingsUtilsPortable.getAppSettings store disableRunUIScheduledTaskField = none) ∧
    (∀ (store : IniAppStore) (appSettings : PartialAppSettings) (disable : Bool),
      appSettings disableRunUIScheduledTaskField = some (some disable) →
      AppSettingsUtilsPortable.updateAppSettings store appSettings =
        .error "Cannot set disableRunUIScheduledTask in portable mode") ∧
    (∀ (store : RegistryAppStore) (appSettings : PartialAppSettings), appSettings.Encodable →
      ∀ field, AppSettingsUtilsNonPortable.getAppSettings
          (AppSettingsUtilsNonPortable.updateAppSettings store appSettings).2 field =
        ((appSettings field).map field.1.type.storedValue).getD
          (AppSettingsUtilsNonPortable.getAppSettings store field)) := by
  refine ⟨fun store appSettings encodable allowed =>
      ⟨_, AppSettingsUtilsPortable.updateAppSettings_eq_ok store allowed, fun field => ?_⟩,
    AppSettingsUtilsPortable.getAppSettings_disableRunUIScheduledTask,
    fun store appSettings disable found => by
      rw [AppSettingsUtilsPortable.updateAppSettings, found],
    fun store appSettings encodable =>
      AppSettingsUtilsNonPortable.getAppSettings_updateAppSettings store encodable⟩
  by_cases same : field = disableRunUIScheduledTaskField
  · subst same
    rw [if_pos rfl, AppSettingsUtilsPortable.getAppSettings_disableRunUIScheduledTask,
      AppSettingsUtilsPortable.getAppSettings_disableRunUIScheduledTask]
  · rw [if_neg same, AppSettingsUtilsPortable.getAppSettings_updateAppSettings store encodable same]

def languageUpdate : PartialAppSettings :=
  Function.update (Function.update (fun _ => none) languageField (some "de"))
    disableRunUIScheduledTaskField (some none)

theorem updateAppSettings_reads_back_language :
    languageUpdate.Encodable ∧
      (∀ disable, languageUpdate disableRunUIScheduledTaskField ≠ some (some disable)) ∧
      (∃ updated, AppSettingsUtilsPortable.updateAppSettings (fun _ => Object.empty)
          languageUpdate = .ok updated ∧
        AppSettingsUtilsPortable.getAppSettings updated languageField = "de") ∧
      AppSettingsUtilsNonPortable.getAppSettings
          (AppSettingsUtilsNonPortable.updateAppSettings (fun _ => Object.empty) languageUpdate).2
          disableRunUIScheduledTaskField = some false := by
  have encodable : languageUpdate.Encodable := by decide
  have allowed : ∀ disable, languageUpdate disableRunUIScheduledTaskField ≠ some (some disable) := by
    decide
  obtain ⟨updated, accepted, readBack⟩ :=
    updateAppSettings_reads_back.1 (fun _ => Object.empty) languageUpdate encodable allowed
  refine ⟨encodable, allowed, ⟨updated, accepted, ?_⟩, ?_⟩
  · rw [readBack]; decide
  · rw [updateAppSettings_reads_back.2.2.2 _ _ encodable]; decide

end Windhawk.AppSettingsUtils
