import Windhawk.Js.Storage
import Windhawk.AppSettings.Codec

/-! The storage backends of `appSettingsUtils.ts`. `IniAppSettingsBackend` keeps each
location in the `Settings` section of a `settings.ini` (the app's, and `engine/settings.ini`);
`RegistryAppSettingsBackend` in the key `<regSubKey>\Settings` or
`<regSubKey>\Engine\Settings`. -/

set_option autoImplicit false

namespace Windhawk.AppSettingsUtils

open Js

/-- A backend as a store of fields: the fields it does not read are never there, and a
write of typed fields to a location is read back unchanged and leaves the rest alone. -/
structure FieldStore {σ : Type} (backend : AppSettingsBackend σ)
    (readable : FieldDescriptor → Bool) : Prop where
  rawField_unreadable : ∀ store (field : AppField), readable field.1 = false →
    backend.rawField store field = none
  rawField_writeAllFields : ∀ store location fields, TypedFields location fields →
    ∀ field : AppField, readable field.1 = true →
      backend.rawField (backend.writeAllFields store location fields) field =
        if field.1.location = location then
          (fields.get field.1.storageName).or (backend.rawField store field)
        else backend.rawField store field

/-! ## `IniAppSettingsBackend` -/

/-- The two `settings.ini` files; `ini.fromFileOrDefault` reads a missing file as `{}`. -/
def IniAppStore : Type := StorageLocation → IniFile

namespace IniAppSettingsBackend

/-- The conversion of `readAllFields`: strings as they are, the other types through
`parseInt`, with `NaN` read as 0. -/
def readField (type : FieldType) (value : String) : Scalar :=
  if type = .string ∨ type = .stringArray then .str value else .num ((parseInt value).getD 0)

def readAllFields (store : IniAppStore) (location : StorageLocation) : Option (Object Scalar) :=
  match (store location).get "Settings" with
  | none => some Object.empty
  | some settings =>
      some (collectFields location (fun field => !field.nonPortableOnly)
        fun field => (settings.get field.1.storageName).map (readField field.1.type))

def writeAllFields (store : IniAppStore) (location : StorageLocation) (fields : Object Scalar) :
    IniAppStore :=
  let iniFileParsed := store location
  let settings := ((iniFileParsed.get "Settings").getD Object.empty).assignEntries fields
    Scalar.toString
  Function.update store location (iniFileParsed.assign "Settings" settings)

def backend : AppSettingsBackend IniAppStore := ⟨readAllFields, writeAllFields⟩

end IniAppSettingsBackend

/-! ## `RegistryAppSettingsBackend` -/

/-- The keys `<regSubKey>\Settings` and `<regSubKey>\Engine\Settings`; `createKey` opens a
missing key as an empty one. -/
def RegistryAppStore : Type := StorageLocation → Object RegValue

namespace RegistryAppSettingsBackend

/-- The read of one field: `RT_REG_SZ` for the strings, `RT_REG_DWORD` for the others. -/
def readField (key : Object RegValue) (field : AppField) : Option Scalar :=
  if field.1.type = .string ∨ field.1.type = .stringArray then
    (key.get field.1.storageName >>= RegValue.sz?).map Scalar.str
  else (key.get field.1.storageName >>= RegValue.dword?).map Scalar.num

def readAllFields (store : RegistryAppStore) (location : StorageLocation) :
    Option (Object Scalar) :=
  some (collectFields location (fun field => !field.portableOnly) (readField (store location)))

def writeAllFields (store : RegistryAppStore) (location : StorageLocation)
    (fields : Object Scalar) : RegistryAppStore :=
  Function.update store location ((store location).spread (fields.map RegValue.ofScalar))

def backend : AppSettingsBackend RegistryAppStore := ⟨readAllFields, writeAllFields⟩

end RegistryAppSettingsBackend

/-! ## The field store both backends implement -/

namespace IniAppSettingsBackend

theorem rawField_eq (store : IniAppStore) (field : AppField) :
    backend.rawField store field =
      if field.1.nonPortableOnly then none
      else ((((store field.1.location).get "Settings").getD Object.empty).get
        field.1.storageName).map (readField field.1.type) := by
  unfold AppSettingsBackend.rawField
  cases settings : (store field.1.location).get "Settings" <;>
    by_cases only : field.1.nonPortableOnly <;>
    simp [backend, readAllFields, settings, get_collectFields, only]

private theorem readField_toString {type : FieldType} {value : Scalar} (kind : type.Stores value) :
    readField type value.toString = value := by
  cases type <;> cases value <;>
    simp_all [FieldType.Stores, readField, Scalar.toString, parseInt_numberToString]

theorem fieldStore : FieldStore backend (fun field => !field.nonPortableOnly) where
  rawField_unreadable store field unreadable := by
    simp only [Bool.not_eq_false'] at unreadable
    simp [rawField_eq, unreadable]
  rawField_writeAllFields store location fields typed field readable := by
    simp only [Bool.not_eq_true'] at readable
    rw [rawField_eq, rawField_eq]
    by_cases here : field.1.location = location
    · subst here
      have readBack : (fields.get field.1.storageName).map
          (fun value => readField field.1.type value.toString) = fields.get field.1.storageName := by
        cases found : fields.get field.1.storageName with
        | none => rfl
        | some value => simp [readField_toString (typed field rfl value found)]
      simp only [backend, writeAllFields, Function.update_same, Object.get_assign, readable]
      simp [show ¬("Settings" = "__proto__") by decide, Object.get_assignEntries,
        storageName_ne_proto, Option.map_or', Option.map_map, Function.comp_def, readBack]
    · simp [backend, writeAllFields, Function.update_noteq (Ne.symm here), here]

end IniAppSettingsBackend

namespace RegistryAppSettingsBackend

theorem rawField_eq (store : RegistryAppStore) (field : AppField) :
    backend.rawField store field = readField (store field.1.location) field := by
  have everyField : field.1.portableOnly = false :=
    (by decide : ∀ field ∈ APP_SETTINGS_FIELDS, field.portableOnly = false) field.1 field.2
  simp [AppSettingsBackend.rawField, backend, readAllFields, get_collectFields, everyField]

private theorem readField_spread {key : Object RegValue} {fields : Object Scalar}
    {field : AppField} (typed : TypedFields field.1.location fields) :
    readField (key.spread (fields.map RegValue.ofScalar)) field =
      (fields.get field.1.storageName).or (readField key field) := by
  unfold readField
  cases found : fields.get field.1.storageName with
  | none => simp [found]
  | some value =>
      have kind := typed field rfl value found
      revert kind
      cases field.1.type <;> cases value <;>
        simp [found, FieldType.Stores, RegValue.ofScalar, RegValue.sz?] <;>
        exact fun low high => dword_setValueDWORD low high

theorem fieldStore : FieldStore backend (fun field => !field.portableOnly) where
  rawField_unreadable store field unreadable := by
    have everyField : field.1.portableOnly = false :=
      (by decide : ∀ field ∈ APP_SETTINGS_FIELDS, field.portableOnly = false) field.1 field.2
    simp [everyField] at unreadable
  rawField_writeAllFields store location fields typed field _ := by
    rw [rawField_eq, rawField_eq]
    by_cases here : field.1.location = location
    · subst here
      simp only [backend, writeAllFields, Function.update_same, if_true]
      exact readField_spread typed
    · simp [backend, writeAllFields, Function.update_noteq (Ne.symm here), here]

end RegistryAppSettingsBackend

end Windhawk.AppSettingsUtils
