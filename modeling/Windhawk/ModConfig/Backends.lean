import Windhawk.Js.Storage
import Windhawk.ModConfig.Codec
import Windhawk.ModConfig.MergeSettings

/-! The storage backends of `modConfigUtils.ts`. `IniStorageBackend` keeps a mod in the
file `Engine/Mods/<modId>.ini`; `RegistryStorageBackend` in the key `Engine\Mods\<modId>`,
with the settings in its `Settings` subkey. Either store is a map from mod ids. -/

set_option autoImplicit false

namespace Windhawk.ModConfigUtils

open Js

/-- `ModStorageBackend` over a store of type `σ`. `writeAllSettings` takes the value of
`getSettingsChangeTime()`, which reads the clock. -/
structure ModStorageBackend (σ : Type) where
  readAllConfigFields : σ → String → Option (Object Scalar)
  writeAllConfigFields : σ → String → Object Scalar → σ
  configExists : σ → String → Bool
  readAllSettings : σ → String → ModSettings
  writeAllSettings : σ → String → ModSettings → Int → σ
  deleteConfig : σ → String → σ

def ModStorageBackend.writeConfigField {σ : Type} (backend : ModStorageBackend σ) (store : σ)
    (modId field : String) (value : Scalar) : σ :=
  backend.writeAllConfigFields store modId (Object.empty.set field value)

/-! ## `IniStorageBackend` -/

/-- The files `<modId>.ini`; `ini.fromFileOrDefault` reads a missing file as `{}`. -/
def IniStore : Type := String → IniFile

namespace IniStorageBackend

def readField (type : FieldType) (value : String) : Scalar :=
  if type = .boolean then Scalar.ofParseInt (parseInt value) else .str value

def readAllConfigFields (store : IniStore) (modId : String) : Option (Object Scalar) :=
  match (store modId).get "Mod" with
  | none => none
  | some mod => some (collectFields fun field => (mod.get field.1.storageName).map (readField field.1.type))

def writeAllConfigFields (store : IniStore) (modId : String) (fields : Object Scalar) : IniStore :=
  let modConfig := store modId
  let mod := ((modConfig.get "Mod").getD Object.empty).assignEntries fields Scalar.toString
  Function.update store modId (modConfig.assign "Mod" mod)

def configExists (store : IniStore) (modId : String) : Bool :=
  match (store modId).get "Mod" >>= (·.get "LibraryFileName") with
  | some libraryFileName => libraryFileName != ""
  | none => false

def readAllSettings (store : IniStore) (modId : String) : ModSettings :=
  (((store modId).get "Settings").getD Object.empty).map Scalar.str

def writeAllSettings (store : IniStore) (modId : String) (settings : ModSettings)
    (settingsChangeTime : Int) : IniStore :=
  let settingsSection := Object.empty.assignEntries settings Scalar.toString
  let modConfig := (store modId).assign "Settings" settingsSection
  let mod := ((modConfig.get "Mod").getD Object.empty).assign "SettingsChangeTime"
    (numberToString settingsChangeTime)
  Function.update store modId (modConfig.assign "Mod" mod)

/-- Removes `<modId>.ini`. The writable copy and the mod's storage directory, which the
other operations never read, are not modelled. -/
def deleteConfig (store : IniStore) (modId : String) : IniStore :=
  Function.update store modId Object.empty

def backend : ModStorageBackend IniStore :=
  ⟨readAllConfigFields, writeAllConfigFields, configExists, readAllSettings, writeAllSettings,
    deleteConfig⟩

end IniStorageBackend

/-! ## `RegistryStorageBackend` -/

/-- The key `Engine\Mods\<modId>`: its values, and its `Settings` subkey when present. -/
structure ModKey where
  values : Object RegValue
  settings : Option (Object RegValue)

def ModKey.empty : ModKey := ⟨Object.empty, none⟩

/-- The mod keys under `Engine\Mods`, by mod id. -/
def RegistryStore : Type := String → Option ModKey

namespace RegistryStorageBackend

def readField (key : ModKey) (field : ConfigField) : Option Scalar :=
  if field.1.type = .boolean then
    (key.values.get field.1.storageName >>= RegValue.dword?).map Scalar.num
  else (key.values.get field.1.storageName >>= RegValue.sz?).map Scalar.str

def readAllConfigFields (store : RegistryStore) (modId : String) : Option (Object Scalar) :=
  (store modId).map fun key => collectFields (readField key)

def writeAllConfigFields (store : RegistryStore) (modId : String) (fields : Object Scalar) :
    RegistryStore :=
  let key := (store modId).getD ModKey.empty
  Function.update store modId (some { key with values := key.values.spread (fields.map RegValue.ofScalar) })

def configExists (store : RegistryStore) (modId : String) : Bool :=
  match store modId >>= (·.values.get "LibraryFileName") >>= RegValue.sz? with
  | some libraryFileName => libraryFileName != ""
  | none => false

/-- One value of the `Settings` subkey as `readAllSettings` stores it: a DWORD `| 0`. -/
def readSetting (value : RegValue) : Scalar :=
  match value with
  | .dword value => .num (toInt32 value)
  | .sz value => .str value

def readAllSettings (store : RegistryStore) (modId : String) : ModSettings :=
  match store modId >>= (·.settings) with
  | none => Object.empty
  | some settings => Object.empty.assignEntries settings readSetting

def writeSetting (value : Scalar) : RegValue :=
  match value with
  | .num value => setValueDWORD (toUint32 value)
  | .nan => setValueDWORD 0
  | .str value => .sz value

/-- `deleteTree` empties the `Settings` subkey (creating it, and the mod key, if needed)
before every setting is written; then `SettingsChangeTime` is set on the mod key. -/
def writeAllSettings (store : RegistryStore) (modId : String) (settings : ModSettings)
    (settingsChangeTime : Int) : RegistryStore :=
  let key := (store modId).getD ModKey.empty
  let settingsKey := Object.empty.spread (settings.map writeSetting)
  Function.update store modId
    (some ⟨key.values.set "SettingsChangeTime" (setValueDWORD settingsChangeTime), some settingsKey⟩)

/-- `deleteTree` and `deleteKey` on the mod key. The key under `ModsWritable` and the mod's
storage directory, which the other operations never read, are not modelled. -/
def deleteConfig (store : RegistryStore) (modId : String) : RegistryStore :=
  Function.update store modId none

def backend : ModStorageBackend RegistryStore :=
  ⟨readAllConfigFields, writeAllConfigFields, configExists, readAllSettings, writeAllSettings,
    deleteConfig⟩

end RegistryStorageBackend

/-! ## The field store both backends implement -/

def FieldType.Stores : FieldType → Scalar → Prop
  | .boolean, .num value => 0 ≤ value ∧ value < 2 ^ 32
  | .string, .str _ => True
  | .stringArray, .str _ => True
  | _, _ => False

def ModStorageBackend.rawField {σ : Type} (backend : ModStorageBackend σ) (store : σ)
    (modId : String) (field : ConfigField) : Option Scalar :=
  ((backend.readAllConfigFields store modId).getD Object.empty).get field.1.storageName

def TypedFields (fields : Object Scalar) : Prop :=
  ∀ (field : ConfigField) (value : Scalar), fields.get field.1.storageName = some value →
    field.1.type.Stores value

/-- A backend as a store of config fields: a write of typed fields is read back unchanged
and leaves the other fields alone, writing the settings leaves every field alone, and
deleting the mod leaves no field. -/
structure ConfigStore {σ : Type} (backend : ModStorageBackend σ) : Prop where
  rawField_writeAllConfigFields : ∀ store modId fields, TypedFields fields → ∀ field,
    backend.rawField (backend.writeAllConfigFields store modId fields) modId field =
      (fields.get field.1.storageName).or (backend.rawField store modId field)
  rawField_writeAllSettings : ∀ store modId settings settingsChangeTime field,
    backend.rawField (backend.writeAllSettings store modId settings settingsChangeTime) modId field =
      backend.rawField store modId field
  rawField_deleteConfig : ∀ store modId field,
    backend.rawField (backend.deleteConfig store modId) modId field = none

private theorem storageName_ne_settingsChangeTime (field : ConfigField) :
    field.1.storageName ≠ "SettingsChangeTime" :=
  (by decide : ∀ field ∈ CONFIG_FIELDS, field.storageName ≠ "SettingsChangeTime") field.1 field.2

namespace IniStorageBackend

theorem rawField_eq (store : IniStore) (modId : String) (field : ConfigField) :
    backend.rawField store modId field =
      ((((store modId).get "Mod").getD Object.empty).get field.1.storageName).map
        (readField field.1.type) := by
  unfold ModStorageBackend.rawField
  cases modSection : (store modId).get "Mod" <;>
    simp [backend, readAllConfigFields, modSection]

private theorem readField_toString {field : ConfigField} {value : Scalar}
    (kind : field.1.type.Stores value) : readField field.1.type value.toString = value := by
  unfold readField
  revert kind
  cases field.1.type <;> cases value <;> simp [FieldType.Stores, Scalar.toString]

theorem configStore : ConfigStore backend where
  rawField_writeAllConfigFields store modId fields typed field := by
    have readBack : (fields.get field.1.storageName).map
        (fun value => readField field.1.type value.toString) = fields.get field.1.storageName := by
      cases found : fields.get field.1.storageName with
      | none => rfl
      | some value => simp [readField_toString (typed field value found)]
    rw [rawField_eq, rawField_eq]
    simp only [backend, writeAllConfigFields, Function.update_same, Object.get_assign]
    simp only [true_and, ne_eq, show ¬("Mod" = "__proto__") by decide, not_false_eq_true, if_true,
      Option.getD_some, Object.get_assignEntries, storageName_ne_proto, if_false]
    simp [Option.map_or', Option.map_map, Function.comp_def, readBack]
  rawField_writeAllSettings store modId settings settingsChangeTime field := by
    rw [rawField_eq, rawField_eq]
    simp [backend, writeAllSettings, Object.get_assign, storageName_ne_settingsChangeTime]
  rawField_deleteConfig store modId field := by
    rw [rawField_eq]
    simp [backend, deleteConfig]

end IniStorageBackend

namespace RegistryStorageBackend

theorem rawField_eq (store : RegistryStore) (modId : String) (field : ConfigField) :
    backend.rawField store modId field = readField ((store modId).getD ModKey.empty) field := by
  unfold ModStorageBackend.rawField
  cases found : store modId <;> simp [found, backend, readAllConfigFields, readField, ModKey.empty]

private theorem readField_spread {key : ModKey} {fields : Object Scalar} {field : ConfigField}
    (typed : TypedFields fields) :
    readField { key with values := key.values.spread (fields.map RegValue.ofScalar) } field =
      (fields.get field.1.storageName).or (readField key field) := by
  unfold readField
  cases found : fields.get field.1.storageName with
  | none => simp [found]
  | some value =>
      have kind := typed field value found
      revert kind
      cases field.1.type <;> cases value <;>
        simp [found, FieldType.Stores, RegValue.ofScalar, RegValue.sz?]
      exact fun low high => dword_setValueDWORD low high

theorem configStore : ConfigStore backend where
  rawField_writeAllConfigFields store modId fields typed field := by
    rw [rawField_eq, rawField_eq]
    simp only [backend, writeAllConfigFields, Function.update_same, Option.getD_some]
    exact readField_spread typed
  rawField_writeAllSettings store modId settings settingsChangeTime field := by
    rw [rawField_eq, rawField_eq]
    simp only [backend, writeAllSettings, Function.update_same, Option.getD_some]
    unfold readField
    simp [storageName_ne_settingsChangeTime]
  rawField_deleteConfig store modId field := by
    rw [rawField_eq]
    simp [backend, deleteConfig, readField, ModKey.empty]

end RegistryStorageBackend

end Windhawk.ModConfigUtils
