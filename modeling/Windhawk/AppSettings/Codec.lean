import Mathlib.Data.Fintype.Basic
import Windhawk.PipeDelimited

/-! `appSettingsUtils.ts`: the field descriptors of the app settings, each kept in the app's
or the engine's location, the backend interface, and `AppSettingsCodec`, which turns the
raw fields of both locations into `AppSettings` and back. -/

set_option autoImplicit false

namespace Windhawk.AppSettingsUtils

open Js

/-! ## Field descriptors -/

inductive FieldType where
  | string
  | boolean
  | number
  | booleanNullable
  | stringArray
  deriving DecidableEq, Repr

@[reducible] def FieldType.Value : FieldType → Type
  | .string => String
  | .boolean => Bool
  | .number => Int
  | .booleanNullable => Option Bool
  | .stringArray => List String

instance (type : FieldType) : DecidableEq type.Value := by
  cases type <;> unfold FieldType.Value <;> infer_instance

inductive StorageLocation where
  | app
  | engine
  deriving DecidableEq, Repr

/-- `FieldDescriptor`; the optional flags read `false` when absent. -/
structure FieldDescriptor where
  name : String
  storageName : String
  type : FieldType
  location : StorageLocation
  defaultValue : Option type.Value
  portableOnly : Bool
  nonPortableOnly : Bool
  deriving DecidableEq

def APP_SETTINGS_FIELDS : List FieldDescriptor := [
  ⟨"language", "Language", .string, .app, some "en", false, false⟩,
  ⟨"disableUpdateCheck", "DisableUpdateCheck", .boolean, .app, none, false, false⟩,
  ⟨"disableRunUIScheduledTask", "DisableRunUIScheduledTask", .booleanNullable, .app, none, false,
    true⟩,
  ⟨"devModeOptOut", "DevModeOptOut", .boolean, .app, none, false, false⟩,
  ⟨"devModeUsedAtLeastOnce", "DevModeUsedAtLeastOnce", .boolean, .app, none, false, false⟩,
  ⟨"hideTrayIcon", "HideTrayIcon", .boolean, .app, none, false, false⟩,
  ⟨"alwaysCompileModsLocally", "AlwaysCompileModsLocally", .boolean, .app, none, false, false⟩,
  ⟨"dontAutoShowToolkit", "DontAutoShowToolkit", .boolean, .app, none, false, false⟩,
  ⟨"modTasksDialogDelay", "ModTasksDialogDelay", .number, .app, some 2000, false, false⟩,
  ⟨"safeMode", "SafeMode", .boolean, .app, none, false, false⟩,
  ⟨"loggingVerbosity", "LoggingVerbosity", .number, .app, none, false, false⟩,
  ⟨"loggingVerbosity", "LoggingVerbosity", .number, .engine, none, false, false⟩,
  ⟨"include", "Include", .stringArray, .engine, none, false, false⟩,
  ⟨"exclude", "Exclude", .stringArray, .engine, none, false, false⟩,
  ⟨"injectIntoCriticalProcesses", "InjectIntoCriticalProcesses", .boolean, .engine, none, false,
    false⟩,
  ⟨"injectIntoIncompatiblePrograms", "InjectIntoIncompatiblePrograms", .boolean, .engine, none,
    false, false⟩,
  ⟨"injectIntoGames", "InjectIntoGames", .boolean, .engine, none, false, false⟩]

def AppField : Type := {field : FieldDescriptor // field ∈ APP_SETTINGS_FIELDS}

instance : DecidableEq AppField :=
  inferInstanceAs (DecidableEq {field : FieldDescriptor // field ∈ APP_SETTINGS_FIELDS})

instance : Fintype AppField :=
  inferInstanceAs (Fintype {field : FieldDescriptor // field ∈ APP_SETTINGS_FIELDS})

/-- `AppSettings`: a value for each field; those of the engine location sit under `engine`. -/
def AppSettings : Type := (field : AppField) → field.1.type.Value

/-- `Partial<AppSettings>`, down to the fields of `engine`: `none` is a field left
`undefined`. -/
def PartialAppSettings : Type := (field : AppField) → Option field.1.type.Value

def languageField : AppField := ⟨⟨"language", "Language", .string, .app, some "en", false, false⟩,
  by decide⟩

def disableUpdateCheckField : AppField :=
  ⟨⟨"disableUpdateCheck", "DisableUpdateCheck", .boolean, .app, none, false, false⟩, by decide⟩

def disableRunUIScheduledTaskField : AppField :=
  ⟨⟨"disableRunUIScheduledTask", "DisableRunUIScheduledTask", .booleanNullable, .app, none, false,
    true⟩, by decide⟩

theorem AppField.ext_storage {field other : AppField} (location : field.1.location = other.1.location)
    (storageName : field.1.storageName = other.1.storageName) : field = other := by
  have unique : (APP_SETTINGS_FIELDS.map fun field => (field.location, field.storageName)).Nodup := by
    decide
  exact Subtype.ext (List.inj_on_of_nodup_map unique field.2 other.2
    (Prod.ext location storageName))

theorem storageName_ne_proto (field : AppField) : field.1.storageName ≠ "__proto__" :=
  (by decide : ∀ field ∈ APP_SETTINGS_FIELDS, field.storageName ≠ "__proto__") field.1 field.2

/-! ## The backend interface -/

structure AppSettingsBackend (σ : Type) where
  readAllFields : σ → StorageLocation → Option (Object Scalar)
  writeAllFields : σ → StorageLocation → Object Scalar → σ

/-- The raw value the codec finds for a field: `(readAllFields(location) || {})[storageName]`. -/
def AppSettingsBackend.rawField {σ : Type} (backend : AppSettingsBackend σ) (store : σ)
    (field : AppField) : Option Scalar :=
  ((backend.readAllFields store field.1.location).getD Object.empty).get field.1.storageName

/-- `for (const field of APP_SETTINGS_FIELDS)` over the fields of one location that `keep`
lets through, setting `result[field.storageName]` to every value that is defined; the
codec and both backends build their field objects this way. -/
def collectFields (location : StorageLocation) (keep : FieldDescriptor → Bool)
    (value : AppField → Option Scalar) : Object Scalar :=
  Object.empty.assignEach
    (APP_SETTINGS_FIELDS.attach.filter fun field => field.1.location = location ∧ keep field.1)
    (·.1.storageName) value

theorem get_collectFields (keep : FieldDescriptor → Bool) (value : AppField → Option Scalar)
    (field : AppField) :
    (collectFields field.1.location keep value).get field.1.storageName =
      if keep field.1 then value field else none := by
  unfold collectFields
  by_cases kept : keep field.1
  · have unique : ((APP_SETTINGS_FIELDS.attach.filter fun other =>
        other.1.location = field.1.location ∧ keep other.1).map (·.1.storageName)).Nodup := by
      refine List.Nodup.map_on (fun first inFirst second inSecond same => ?_)
        ((List.nodup_attach.mpr (by decide)).filter _)
      simp only [List.mem_filter, decide_eq_true_eq] at inFirst inSecond
      exact AppField.ext_storage (inFirst.2.1.trans inSecond.2.1.symm) same
    have located : field ∈ APP_SETTINGS_FIELDS.attach.filter fun other =>
        other.1.location = field.1.location ∧ keep other.1 :=
      List.mem_filter.mpr ⟨List.mem_attach _ field, by simp [kept]⟩
    rw [Object.get_assignEach _ value _ _ unique (fun field _ => storageName_ne_proto field) field
      located, if_pos kept, Object.get_empty, Option.or_none]
  · have absent : field.1.storageName ∉ (APP_SETTINGS_FIELDS.attach.filter fun other =>
        other.1.location = field.1.location ∧ keep other.1).map (·.1.storageName) := by
      intro member
      obtain ⟨other, inside, same⟩ := List.mem_map.mp member
      have located := List.mem_filter.mp inside
      simp only [decide_eq_true_eq] at located
      rw [AppField.ext_storage located.2.1 same] at located
      exact kept located.2.2
    rw [Object.get_assignEach_of_not_mem _ value _ _ _ absent, if_neg kept, Object.get_empty]

/-! ## `AppSettingsCodec` -/

def FieldType.fallbackDefault : (type : FieldType) → type.Value
  | .string => ""
  | .boolean => false
  | .booleanNullable => none
  | .number => 0
  | .stringArray => []

def getDefaultValue (field : FieldDescriptor) : field.type.Value :=
  field.defaultValue.getD field.type.fallbackDefault

namespace AppSettingsCodec

/-- `rawValue as string`. The backends hold strings in the fields read this way
(`FieldType.Stores`), so no other value reaches the cast. -/
def rawString : Scalar → String
  | .str value => value
  | _ => ""

def rawNumber : Scalar → Int
  | .num value => value
  | _ => 0

def parseField : (type : FieldType) → Scalar → type.Value
  | .string, rawValue => rawString rawValue
  | .boolean, rawValue => rawValue.truthy
  | .booleanNullable, rawValue => some rawValue.truthy
  | .number, rawValue => rawNumber rawValue
  | .stringArray, rawValue => splitPipeDelimited (rawString rawValue)

def parse {σ : Type} (backend : AppSettingsBackend σ) (store : σ) : AppSettings := fun field =>
  match backend.rawField store field with
  | some rawValue => parseField field.1.type rawValue
  | none => getDefaultValue field.1

def serializeField : (type : FieldType) → type.Value → Scalar
  | .string, value => .str value
  | .boolean, value => .num (if value then 1 else 0)
  | .booleanNullable, value => .num (if value = some true then 1 else 0)
  | .number, value => .num value
  | .stringArray, values => .str (join values '|')

/-- `appFieldsToWrite` or `engineFieldsToWrite`: the turns of `serialize`'s loop over the
fields of one location, each of which assigns into that location's object. -/
def fieldsToWrite (appSettings : PartialAppSettings) (location : StorageLocation) : Object Scalar :=
  collectFields location (fun _ => true)
    (fun field => (appSettings field).map (serializeField field.1.type))

def serialize {σ : Type} (backend : AppSettingsBackend σ) (store : σ)
    (appSettings : PartialAppSettings) : σ :=
  let appFieldsToWrite := fieldsToWrite appSettings .app
  let engineFieldsToWrite := fieldsToWrite appSettings .engine
  let store :=
    if appFieldsToWrite.keys.length > 0 then backend.writeAllFields store .app appFieldsToWrite
    else store
  if engineFieldsToWrite.keys.length > 0 then backend.writeAllFields store .engine engineFieldsToWrite
  else store

end AppSettingsCodec

/-! ## What the codec reads back -/

/-- The values that come back from storage as they were written: every string, boolean
and nullable boolean, the string arrays that survive the pipe-delimited encoding, and the
numbers in `[0, 2^31)`. -/
def FieldType.Encodable : (type : FieldType) → type.Value → Prop
  | .stringArray, values => PipeSafe values
  | .number, value => 0 ≤ value ∧ value < 2 ^ 31
  | .string, _ | .boolean, _ | .booleanNullable, _ => True

instance FieldType.decidableEncodable :
    (type : FieldType) → (value : type.Value) → Decidable (type.Encodable value)
  | .stringArray, values => inferInstanceAs (Decidable (PipeSafe values))
  | .number, _ => inferInstanceAs (Decidable (_ ∧ _))
  | .string, _ | .boolean, _ | .booleanNullable, _ => isTrue trivial

def PartialAppSettings.Encodable (appSettings : PartialAppSettings) : Prop :=
  ∀ field : AppField, ∀ value ∈ appSettings field, field.1.type.Encodable value

instance (appSettings : PartialAppSettings) : Decidable appSettings.Encodable :=
  inferInstanceAs (Decidable (∀ field : AppField, ∀ value ∈ appSettings field, _))

/-- What a written value reads back as: itself, except that `null` is written as 0 and
comes back `false`. -/
def FieldType.storedValue : (type : FieldType) → type.Value → type.Value
  | .booleanNullable, value => some (value = some true)
  | .string, value => value
  | .boolean, value => value
  | .number, value => value
  | .stringArray, value => value

def FieldType.Stores : FieldType → Scalar → Prop
  | .string, .str _ | .stringArray, .str _ => True
  | .boolean, .num value | .booleanNullable, .num value | .number, .num value =>
      0 ≤ value ∧ value < 2 ^ 32
  | _, _ => False

def TypedFields (location : StorageLocation) (fields : Object Scalar) : Prop :=
  ∀ field : AppField, field.1.location = location → ∀ value : Scalar,
    fields.get field.1.storageName = some value → field.1.type.Stores value

namespace AppSettingsCodec

theorem serializeField_stores {type : FieldType} {value : type.Value}
    (encodable : type.Encodable value) : type.Stores (serializeField type value) := by
  cases type with
  | string | stringArray => trivial
  | boolean => cases value <;> exact ⟨by decide, by decide⟩
  | booleanNullable => by_cases high : value = some true <;> simp [high, serializeField, FieldType.Stores]
  | number => exact ⟨encodable.1, encodable.2.trans (by decide)⟩

theorem parseField_serializeField {type : FieldType} {value : type.Value}
    (encodable : type.Encodable value) :
    parseField type (serializeField type value) = type.storedValue value := by
  cases type with
  | string | number => rfl
  | boolean => cases value <;> rfl
  | booleanNullable => by_cases high : value = some true <;> simp [high, parseField, serializeField,
      FieldType.storedValue, Scalar.truthy]
  | stringArray => exact (splitDelimited_join_iff value).mpr encodable

@[simp] theorem get_fieldsToWrite (appSettings : PartialAppSettings) (field : AppField) :
    (fieldsToWrite appSettings field.1.location).get field.1.storageName =
      (appSettings field).map (serializeField field.1.type) := by
  simp [fieldsToWrite, get_collectFields]

theorem get_fieldsToWrite_of_empty {appSettings : PartialAppSettings} {location : StorageLocation}
    (empty : ¬(fieldsToWrite appSettings location).keys.length > 0) (name : String) :
    (fieldsToWrite appSettings location).get name = none := by
  rw [Nat.not_lt, Nat.le_zero, List.length_eq_zero] at empty
  cases found : (fieldsToWrite appSettings location).get name with
  | none => rfl
  | some _ =>
      have member := (Object.mem_keys_iff (fieldsToWrite appSettings location) name).mpr
        (by simp [found])
      rw [empty] at member
      cases member

end AppSettingsCodec

end Windhawk.AppSettingsUtils
