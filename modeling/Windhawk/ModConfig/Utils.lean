import Windhawk.ModConfig.Backends

/-! `ModConfigUtilsBase`, the operations on one mod's config and settings that both
`ModConfigUtilsPortable` and `ModConfigUtilsNonPortable` inherit, and what a sequence of
them does to the config record `ModConfigCodec.parse` reads back. -/

set_option autoImplicit false

namespace Windhawk.ModConfigUtils

open Js

structure ModSettingsConfig where
  initialSettings : ModSettings
  previousInitialSettings : Option ModSettings

def ModConfigCodec.serialize {σ : Type} (backend : ModStorageBackend σ) (store : σ)
    (modId : String) (config : PartialModConfig) : σ :=
  backend.writeAllConfigFields store modId (ModConfigCodec.serializeFields config)

namespace ModConfigUtilsBase

variable {σ : Type} (backend : ModStorageBackend σ)

def getModConfig (store : σ) (modId : String) : Option ModConfig :=
  ModConfigCodec.parse (backend.readAllConfigFields store modId)

/-- `setModConfig`; `settingsChangeTime` is the clock when the settings get written. -/
def setModConfig (store : σ) (modId : String) (config : PartialModConfig)
    (settingsConfig : Option ModSettingsConfig) (settingsChangeTime : Int) : σ :=
  let configExisted := backend.configExists store modId
  let store := ModConfigCodec.serialize backend store modId config
  match settingsConfig with
  | none => store
  | some settingsConfig =>
      if settingsConfig.previousInitialSettings.isNone && !configExisted then
        backend.writeAllSettings store modId settingsConfig.initialSettings settingsChangeTime
      else
        let merged := mergeModSettings
          ((Object.empty.spread (settingsConfig.previousInitialSettings.getD Object.empty)).spread
            (backend.readAllSettings store modId))
          settingsConfig.initialSettings
        if merged.existingSettingsChanged then
          backend.writeAllSettings store modId merged.mergedSettings settingsChangeTime
        else store

def getModSettings (store : σ) (modId : String) : ModSettings :=
  backend.readAllSettings store modId

def setModSettings (store : σ) (modId : String) (settings : ModSettings)
    (settingsChangeTime : Int) : σ :=
  backend.writeAllSettings store modId settings settingsChangeTime

def enableMod (store : σ) (modId : String) (enable : Bool) : σ :=
  backend.writeConfigField store modId "Disabled" (.num (if enable then 0 else 1))

def enableLogging (store : σ) (modId : String) (enable : Bool) : σ :=
  backend.writeConfigField store modId "LoggingEnabled" (.num (if enable then 1 else 0))

def deleteMod (store : σ) (modId : String) : σ :=
  backend.deleteConfig store modId

end ModConfigUtilsBase

/-! ## The config record under a sequence of operations -/

/-- The operations on one mod that leave out `setModConfig`'s settings merge. -/
inductive ModConfigOp where
  | setModConfig (config : PartialModConfig)
  | enableMod (enable : Bool)
  | enableLogging (enable : Bool)
  | setModSettings (settings : ModSettings) (settingsChangeTime : Int)
  | deleteMod

def ModConfigOp.run {σ : Type} (backend : ModStorageBackend σ) (modId : String) (store : σ) :
    ModConfigOp → σ
  | .setModConfig config => ModConfigUtilsBase.setModConfig backend store modId config none 0
  | .enableMod enable => ModConfigUtilsBase.enableMod backend store modId enable
  | .enableLogging enable => ModConfigUtilsBase.enableLogging backend store modId enable
  | .setModSettings settings settingsChangeTime =>
      ModConfigUtilsBase.setModSettings backend store modId settings settingsChangeTime
  | .deleteMod => ModConfigUtilsBase.deleteMod backend store modId

/-- What each operation does to the config record: the fields `setModConfig` defines are
replaced, `enableMod` sets `disabled`, `enableLogging` sets `loggingEnabled`, the settings
leave it alone and `deleteMod` empties it. -/
def ModConfigOp.apply (config : ModConfig) : ModConfigOp → ModConfig
  | .setModConfig changes => fun field => (changes field).getD (config field)
  | .enableMod enable => Function.update config disabledField (!enable)
  | .enableLogging enable => Function.update config loggingEnabledField enable
  | .setModSettings _ _ => config
  | .deleteMod => ModConfig.empty

def ModConfigOp.Encodable : ModConfigOp → Prop
  | .setModConfig changes => ∀ field : ConfigField, ∀ value ∈ changes field, field.1.type.Encodable value
  | _ => True

instance : DecidablePred ModConfigOp.Encodable := fun op =>
  match op with
  | .setModConfig changes =>
      inferInstanceAs (Decidable (∀ field : ConfigField, ∀ value ∈ changes field, _))
  | .enableMod _ | .enableLogging _ | .setModSettings _ _ | .deleteMod => isTrue trivial

/-- The config record `ModConfigCodec.parse` builds from the stored fields, before its
`LibraryFileName` check; every field is empty when the backend has no entry for the mod. -/
def abstractConfig {σ : Type} (backend : ModStorageBackend σ) (store : σ) (modId : String) :
    ModConfig :=
  ModConfigCodec.parseFields ((backend.readAllConfigFields store modId).getD Object.empty)

section Refinement

variable {σ : Type} {backend : ModStorageBackend σ}

private theorem serializeField_stores :
    ∀ (type : FieldType) (value : type.Value), type.Stores (ModConfigCodec.serializeField type value)
  | .string, _ => trivial
  | .boolean, value => by cases value <;> exact ⟨by decide, by decide⟩
  | .stringArray, _ => trivial

private theorem typedFields_serializeFields (changes : PartialModConfig) :
    TypedFields (ModConfigCodec.serializeFields changes) := by
  intro field value found
  simp only [ModConfigCodec.serializeFields, get_collectFields, Option.map_eq_some'] at found
  obtain ⟨original, _, rfl⟩ := found
  exact serializeField_stores _ original

private theorem rawField_writeConfigField (laws : ConfigStore backend) (store : σ)
    (modId : String) (target field : ConfigField) (value : Scalar)
    (kind : target.1.type.Stores value) :
    backend.rawField (backend.writeConfigField store modId target.1.storageName value) modId field =
      if field = target then some value else backend.rawField store modId field := by
  have typed : TypedFields (Object.empty.set target.1.storageName value) := by
    intro other found written
    have same : other = target := by
      by_contra different
      have := fun equal => different (storageName_injective equal)
      simp_all
    subst same
    simp_all
  rw [ModStorageBackend.writeConfigField, laws.rawField_writeAllConfigFields _ _ _ typed]
  by_cases same : field = target
  · subst same; simp
  · have different : field.1.storageName ≠ target.1.storageName :=
      fun equal => same (storageName_injective equal)
    simp [same, different]

theorem abstractConfig_run (laws : ConfigStore backend) (store : σ) (modId : String)
    (op : ModConfigOp) (encodable : op.Encodable) :
    abstractConfig backend (op.run backend modId store) modId =
      op.apply (abstractConfig backend store modId) := by
  funext field
  show ModConfigCodec.parseField _ (backend.rawField _ modId field) =
    op.apply (fun field => ModConfigCodec.parseField _ (backend.rawField store modId field)) field
  cases op with
  | setModConfig changes =>
      simp only [ModConfigOp.run, ModConfigUtilsBase.setModConfig, ModConfigCodec.serialize,
        ModConfigOp.apply]
      rw [laws.rawField_writeAllConfigFields _ _ _ (typedFields_serializeFields changes)]
      simp only [ModConfigCodec.serializeFields, get_collectFields]
      cases found : changes field with
      | none => rfl
      | some value =>
          exact ModConfigCodec.parseField_serializeField _ value (encodable field value found)
  | enableMod enable =>
      simp only [ModConfigOp.run, ModConfigUtilsBase.enableMod, ModConfigOp.apply]
      rw [show "Disabled" = disabledField.1.storageName from rfl,
        rawField_writeConfigField laws store modId disabledField field
          (.num (if enable then 0 else 1)) (by cases enable <;> exact ⟨by decide, by decide⟩)]
      by_cases same : field = disabledField
      · subst same; cases enable <;> rfl
      · simp [same]
  | enableLogging enable =>
      simp only [ModConfigOp.run, ModConfigUtilsBase.enableLogging, ModConfigOp.apply]
      rw [show "LoggingEnabled" = loggingEnabledField.1.storageName from rfl,
        rawField_writeConfigField laws store modId loggingEnabledField field
          (.num (if enable then 1 else 0)) (by cases enable <;> exact ⟨by decide, by decide⟩)]
      by_cases same : field = loggingEnabledField
      · subst same; cases enable <;> rfl
      · simp [same]
  | setModSettings settings settingsChangeTime =>
      simp only [ModConfigOp.run, ModConfigUtilsBase.setModSettings, ModConfigOp.apply,
        laws.rawField_writeAllSettings]
  | deleteMod =>
      simp only [ModConfigOp.run, ModConfigUtilsBase.deleteMod, ModConfigOp.apply,
        laws.rawField_deleteConfig, ModConfigCodec.parseField_none]
      rfl

theorem abstractConfig_runAll (laws : ConfigStore backend) (modId : String) :
    ∀ (ops : List ModConfigOp) (store : σ), (∀ op ∈ ops, op.Encodable) →
      abstractConfig backend (ops.foldl (ModConfigOp.run backend modId) store) modId =
        ops.foldl ModConfigOp.apply (abstractConfig backend store modId)
  | [], _, _ => rfl
  | op :: rest, store, encodable => by
      rw [List.foldl_cons, List.foldl_cons,
        abstractConfig_runAll laws modId rest _ (fun op member => encodable op (.tail _ member)),
        abstractConfig_run laws store modId op (encodable op (.head _))]

/-- Both backends refine the effect of every sequence of operations whose string arrays
survive the pipe-delimited encoding. -/
theorem backends_refine_configOps (modId : String) (ops : List ModConfigOp)
    (encodable : ∀ op ∈ ops, op.Encodable) :
    (∀ store : IniStore,
      abstractConfig IniStorageBackend.backend
          (ops.foldl (ModConfigOp.run IniStorageBackend.backend modId) store) modId =
        ops.foldl ModConfigOp.apply (abstractConfig IniStorageBackend.backend store modId)) ∧
    (∀ store : RegistryStore,
      abstractConfig RegistryStorageBackend.backend
          (ops.foldl (ModConfigOp.run RegistryStorageBackend.backend modId) store) modId =
        ops.foldl ModConfigOp.apply (abstractConfig RegistryStorageBackend.backend store modId)) :=
  ⟨fun store => abstractConfig_runAll IniStorageBackend.configStore modId ops store encodable,
    fun store => abstractConfig_runAll RegistryStorageBackend.configStore modId ops store encodable⟩

theorem backends_refine_configOps_include :
    (∀ op ∈ [.setModConfig (Function.update (fun _ => none)
        ⟨⟨"include", "Include", .stringArray⟩, by decide⟩ (some ["notepad.exe", "mspaint.exe"])),
        .enableMod false], ModConfigOp.Encodable op) ∧
      ∀ store : IniStore,
        abstractConfig IniStorageBackend.backend
            ([.setModConfig (Function.update (fun _ => none)
                ⟨⟨"include", "Include", .stringArray⟩, by decide⟩ (some ["notepad.exe", "mspaint.exe"])),
              .enableMod false].foldl (ModConfigOp.run IniStorageBackend.backend "m")
              store) "m" =
          ([.setModConfig (Function.update (fun _ => none)
                ⟨⟨"include", "Include", .stringArray⟩, by decide⟩ (some ["notepad.exe", "mspaint.exe"])),
              .enableMod false].foldl ModConfigOp.apply
            (abstractConfig IniStorageBackend.backend store "m")) :=
  ⟨by decide, (backends_refine_configOps "m" _ (by decide)).1⟩

/-- An include list of one empty pattern is written as the empty string, which reads
back as no pattern at all. -/
theorem setModConfig_empty_pattern_lost :
    abstractConfig IniStorageBackend.backend
        ([ModConfigOp.setModConfig (Function.update (fun _ => none)
            ⟨⟨"include", "Include", .stringArray⟩, by decide⟩ (some [""]))].foldl
          (ModConfigOp.run IniStorageBackend.backend "m") (fun _ => Object.empty)) "m" ≠
      [ModConfigOp.setModConfig (Function.update (fun _ => none)
          ⟨⟨"include", "Include", .stringArray⟩, by decide⟩ (some [""]))].foldl
        ModConfigOp.apply (abstractConfig IniStorageBackend.backend (fun _ => Object.empty) "m") :=
  fun same => absurd (congrFun same ⟨⟨"include", "Include", .stringArray⟩, by decide⟩) (by decide)

end Refinement

/-! ## Settings an update writes back

`setModConfig` merges the new defaults into `{...previousInitialSettings, ...stored}`, and
writes the whole merge when a new setting was added. The stored settings then get back
every key of the previous defaults that the user had removed. -/

def previousArraySettings : ModSettings :=
  ⟨[("arr[0]", .str "a"), ("arr[1]", .str "b")], by decide⟩

def storedArraySettings : ModSettings := ⟨[("arr[0]", .str "x")], by decide⟩

def newArraySettings : ModSettings :=
  ⟨[("arr[0]", .str "a"), ("newOption", .num 1)], by decide⟩

/-- An installed mod whose settings the user edited, then updated to the new version. -/
def storedArrayUpdate {σ : Type} (backend : ModStorageBackend σ) (store : σ) : σ × σ :=
  let installed := backend.writeConfigField store "m" "LibraryFileName" (.str "m.dll")
  let edited := ModConfigUtilsBase.setModSettings backend installed "m" storedArraySettings 1
  (edited, ModConfigUtilsBase.setModConfig backend edited "m" (fun _ => none)
    (some ⟨newArraySettings, some previousArraySettings⟩) 2)

/-- On both backends the update stores `arr[1]` again, in the group `arr[0]` that the
stored settings already have. -/
theorem setModConfig_restores_removed_element :
    (IniStorageBackend.configExists (storedArrayUpdate IniStorageBackend.backend
        fun _ => Object.empty).1 "m" = true ∧
      IniStorageBackend.readAllSettings (storedArrayUpdate IniStorageBackend.backend
        fun _ => Object.empty).1 "m" = storedArraySettings ∧
      (IniStorageBackend.readAllSettings (storedArrayUpdate IniStorageBackend.backend
        fun _ => Object.empty).2 "m").get "arr[1]" = some (.str "b")) ∧
    (RegistryStorageBackend.configExists (storedArrayUpdate RegistryStorageBackend.backend
        fun _ => none).1 "m" = true ∧
      RegistryStorageBackend.readAllSettings (storedArrayUpdate RegistryStorageBackend.backend
        fun _ => none).1 "m" = storedArraySettings ∧
      (RegistryStorageBackend.readAllSettings (storedArrayUpdate RegistryStorageBackend.backend
        fun _ => none).2 "m").get "arr[1]" = some (.str "b")) := by
  decide

end Windhawk.ModConfigUtils
