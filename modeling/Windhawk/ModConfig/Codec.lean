import Mathlib.Data.Fintype.Basic
import Windhawk.PipeDelimited

/-! `modConfigUtils.ts`: the field descriptors of a mod's config, the pipe-delimited
encoding of its string arrays, and `ModConfigCodec`, which turns the raw fields a
storage backend holds into a `ModConfig` and back. -/

set_option autoImplicit false

namespace Windhawk.ModConfigUtils

open Js

/-! ## Field descriptors -/

inductive FieldType where
  | string
  | boolean
  | stringArray
  deriving DecidableEq, Repr

@[reducible] def FieldType.Value : FieldType → Type
  | .string => String
  | .boolean => Bool
  | .stringArray => List String

instance (type : FieldType) : DecidableEq type.Value := by
  cases type <;> unfold FieldType.Value <;> infer_instance

structure FieldDescriptor where
  name : String
  storageName : String
  type : FieldType
  deriving DecidableEq, Repr

def CONFIG_FIELDS : List FieldDescriptor := [
  ⟨"libraryFileName", "LibraryFileName", .string⟩,
  ⟨"disabled", "Disabled", .boolean⟩,
  ⟨"loggingEnabled", "LoggingEnabled", .boolean⟩,
  ⟨"debugLoggingEnabled", "DebugLoggingEnabled", .boolean⟩,
  ⟨"include", "Include", .stringArray⟩,
  ⟨"exclude", "Exclude", .stringArray⟩,
  ⟨"includeCustom", "IncludeCustom", .stringArray⟩,
  ⟨"excludeCustom", "ExcludeCustom", .stringArray⟩,
  ⟨"includeExcludeCustomOnly", "IncludeExcludeCustomOnly", .boolean⟩,
  ⟨"patternsMatchCriticalSystemProcesses", "PatternsMatchCriticalSystemProcesses", .boolean⟩,
  ⟨"architecture", "Architecture", .stringArray⟩,
  ⟨"version", "Version", .string⟩]

def ConfigField : Type := {field : FieldDescriptor // field ∈ CONFIG_FIELDS}

instance : DecidableEq ConfigField :=
  inferInstanceAs (DecidableEq {field : FieldDescriptor // field ∈ CONFIG_FIELDS})

instance : Fintype ConfigField :=
  inferInstanceAs (Fintype {field : FieldDescriptor // field ∈ CONFIG_FIELDS})

/-- `ModConfig`: a value of its type for each field of `CONFIG_FIELDS`. -/
def ModConfig : Type := (field : ConfigField) → field.1.type.Value

/-- `Partial<ModConfig>`: `none` is a field left `undefined`. -/
def PartialModConfig : Type := (field : ConfigField) → Option field.1.type.Value

def disabledField : ConfigField := ⟨⟨"disabled", "Disabled", .boolean⟩, by decide⟩

def loggingEnabledField : ConfigField := ⟨⟨"loggingEnabled", "LoggingEnabled", .boolean⟩, by decide⟩

theorem storageNames_nodup : (CONFIG_FIELDS.map (·.storageName)).Nodup := by decide

theorem storageName_injective {field other : ConfigField}
    (same : field.1.storageName = other.1.storageName) : field = other :=
  Subtype.ext (List.inj_on_of_nodup_map storageNames_nodup field.2 other.2 same)

/-! ## The loop over `CONFIG_FIELDS` -/

/-- `for (const field of CONFIG_FIELDS)`, defining `result[field.storageName]` for every
field that has a value; the codec and both backends build their field objects this way. -/
def collectFields (value : ConfigField → Option Scalar) : Object Scalar :=
  Object.empty.assignEach CONFIG_FIELDS.attach (·.1.storageName) value

theorem storageName_ne_proto (field : ConfigField) : field.1.storageName ≠ "__proto__" :=
  (by decide : ∀ field ∈ CONFIG_FIELDS, field.storageName ≠ "__proto__") field.1 field.2

@[simp] theorem get_collectFields (value : ConfigField → Option Scalar) (field : ConfigField) :
    (collectFields value).get field.1.storageName = value field := by
  have unique : (CONFIG_FIELDS.attach.map (·.1.storageName)).Nodup := by
    simpa [List.map_attach] using storageNames_nodup
  simpa using Object.get_assignEach (fun field : ConfigField => field.1.storageName) value
    CONFIG_FIELDS.attach Object.empty unique (fun field _ => storageName_ne_proto field) field (List.mem_attach _ field)

/-! ## `ModConfigCodec` -/

namespace ModConfigCodec

/-- `(rawValue ?? '') as string`. The backends hold strings in the fields read this way
(`Backends.readAllConfigFields_typed`), so no other value reaches the cast. -/
def rawString : Option Scalar → String
  | some (.str value) => value
  | _ => ""

def parseField : (type : FieldType) → Option Scalar → type.Value
  | .string, rawValue => rawString rawValue
  | .boolean, rawValue => rawValue.any Scalar.truthy
  | .stringArray, rawValue => splitPipeDelimited (rawString rawValue)

def parseFields (rawFields : Object Scalar) : ModConfig :=
  fun field => parseField field.1.type (rawFields.get field.1.storageName)

/-- `ModConfigCodec.parse` on what `backend.readAllConfigFields(modId)` returned. -/
def parse (rawFields : Option (Object Scalar)) : Option ModConfig :=
  match rawFields with
  | none => none
  | some rawFields =>
      match rawFields.get "LibraryFileName" with
      | some (.str libraryFileName) =>
          if libraryFileName = "" then none else some (parseFields rawFields)
      | _ => none

def serializeField : (type : FieldType) → type.Value → Scalar
  | .string, value => .str value
  | .boolean, value => .num (if value then 1 else 0)
  | .stringArray, values => .str (Js.join values '|')

def serializeFields (config : PartialModConfig) : Object Scalar :=
  collectFields fun field => (config field).map (serializeField field.1.type)

end ModConfigCodec

/-! ## Round trip through the codec -/

/-- The values `serializeField` writes so that `parseField` reads them back: every string
and boolean, and the string arrays that survive the pipe-delimited encoding. -/
def FieldType.Encodable : (type : FieldType) → type.Value → Prop
  | .stringArray, values => PipeSafe values
  | .string, _ => True
  | .boolean, _ => True

instance FieldType.decidableEncodable :
    (type : FieldType) → (value : type.Value) → Decidable (type.Encodable value)
  | .stringArray, values => inferInstanceAs (Decidable (PipeSafe values))
  | .string, _ => isTrue trivial
  | .boolean, _ => isTrue trivial

def FieldType.emptyValue : (type : FieldType) → type.Value
  | .string => ""
  | .boolean => false
  | .stringArray => []

/-- The config `parse`'s loop builds when no field is stored. -/
def ModConfig.empty : ModConfig := fun field => field.1.type.emptyValue

namespace ModConfigCodec

theorem parseField_serializeField (type : FieldType) (value : type.Value)
    (encodable : type.Encodable value) :
    parseField type (some (serializeField type value)) = value := by
  cases type with
  | string => rfl
  | boolean => cases value <;> rfl
  | stringArray => exact (splitDelimited_join_iff value).mpr encodable

@[simp] theorem parseField_none (type : FieldType) : parseField type none = type.emptyValue := by
  cases type <;> rfl

@[simp] theorem parseFields_empty : parseFields Object.empty = ModConfig.empty := by
  funext field
  exact parseField_none field.1.type

end ModConfigCodec

end Windhawk.ModConfigUtils
