import Windhawk.Js.Builtins

/-! `mergeModSettings` from `modConfigUtils.ts`: the settings a mod update adds to the
settings already stored. Array elements are grouped by `getNamePrefix`; the prefixes seen
are kept in an object literal, whose lookups also reach `Object.prototype`. -/

set_option autoImplicit false

namespace Windhawk.ModConfigUtils

open Js

abbrev ModSettings := Object Scalar

/-! ## `getNamePrefix` -/

def isLineTerminator (c : Char) : Bool :=
  c == '\n' || c == '\r' || c == '\u2028' || c == '\u2029'

def indexSuffixMatches : List Char → Bool
  | '[' :: rest =>
      match rest.dropWhile Char.isDigit with
      | ']' :: tail =>
          !(rest.takeWhile Char.isDigit).isEmpty && tail.all (fun c => !isLineTerminator c)
      | _ => false
  | _ => false

/-- `replace(/\[\d+\].*$/, '[0]')` on a list of characters: the leftmost match is cut
off together with the rest, and `[0]` put in its place. -/
def replaceIndexSuffix : List Char → List Char
  | [] => []
  | c :: rest => if indexSuffixMatches (c :: rest) then "[0]".data else c :: replaceIndexSuffix rest

def getNamePrefix (name : String) : String := ⟨replaceIndexSuffix name.data⟩

example : getNamePrefix "color[12].shade[3]" = "color[0]" := by decide

example : getNamePrefix "a[1]\nb[2]" = "a[1]\nb[0]" := by decide

/-! ## Object literals as sets -/

/-- The properties an object literal inherits from `Object.prototype`. All of them are
truthy: functions, and the prototype object itself for `__proto__`. -/
def objectPrototypeNames : List String :=
  ["constructor", "__defineGetter__", "__defineSetter__", "hasOwnProperty", "__lookupGetter__",
    "__lookupSetter__", "isPrototypeOf", "propertyIsEnumerable", "toString", "valueOf",
    "__proto__", "toLocaleString"]

/-- `!!object[key]` on an object literal of booleans: an own property's value, otherwise
whether the key is inherited. -/
def truthyProperty (object : Object Bool) (key : String) : Bool :=
  match object.get key with
  | some value => value
  | none => objectPrototypeNames.contains key

/-! ## `mergeModSettings` -/

structure MergeResult where
  mergedSettings : ModSettings
  existingSettingsChanged : Bool

def existingNamePrefixes (existingSettings : ModSettings) : Object Bool :=
  existingSettings.keys.foldl (fun prefixes name => prefixes.assign (getNamePrefix name) true)
    Object.empty

def mergeEntry (prefixes : Object Bool) (result : MergeResult) (entry : String × Scalar) :
    MergeResult :=
  if !truthyProperty prefixes (getNamePrefix entry.1) then
    ⟨result.mergedSettings.assign entry.1 entry.2, true⟩
  else result

def mergeModSettings (existingSettings newSettings : ModSettings) : MergeResult :=
  newSettings.entries.foldl (mergeEntry (existingNamePrefixes existingSettings))
    ⟨Object.empty.spread existingSettings, false⟩

/-! ## What the merge computes -/

private theorem get_foldl_assign_true (prefixOf : String → String) :
    ∀ (names : List String) (target : Object Bool) (key : String),
      (names.foldl (fun prefixes name => prefixes.assign (prefixOf name) true) target).get key =
        if key ≠ "__proto__" ∧ key ∈ names.map prefixOf then some true else target.get key
  | [], target, key => by simp
  | name :: rest, target, key => by
      rw [List.foldl_cons, get_foldl_assign_true prefixOf rest, Object.get_assign]
      by_cases hit : key = prefixOf name <;> by_cases proto : key = "__proto__" <;> simp_all

theorem truthyProperty_existingNamePrefixes (existingSettings : ModSettings) (key : String) :
    truthyProperty (existingNamePrefixes existingSettings) key = true ↔
      key ∈ existingSettings.keys.map getNamePrefix ∨ key ∈ objectPrototypeNames := by
  unfold truthyProperty existingNamePrefixes
  rw [get_foldl_assign_true]
  by_cases proto : key = "__proto__"
  · subst proto; simp [objectPrototypeNames]
  · by_cases seen : key ∈ existingSettings.keys.map getNamePrefix <;> simp [proto, seen]

theorem foldl_mergeEntry (prefixes : Object Bool) :
    ∀ (entries : List (String × Scalar)) (result : MergeResult),
      entries.foldl (mergeEntry prefixes) result =
        ⟨(entries.filter (fun entry => !truthyProperty prefixes (getNamePrefix entry.1))).foldl
            (fun object entry => object.assign entry.1 entry.2) result.mergedSettings,
          result.existingSettingsChanged ||
            entries.any (fun entry => !truthyProperty prefixes (getNamePrefix entry.1))⟩
  | [], ⟨mergedSettings, changed⟩ => by simp
  | entry :: rest, result => by
      rw [List.foldl_cons, foldl_mergeEntry prefixes rest]
      by_cases seen : truthyProperty prefixes (getNamePrefix entry.1) <;> simp [mergeEntry, seen]

/-- A new setting the merge adds: its prefix is neither the prefix of an existing name nor
a property of `Object.prototype`. -/
def Fresh (existingSettings : ModSettings) (name : String) : Prop :=
  getNamePrefix name ∉ existingSettings.keys.map getNamePrefix ∧
    getNamePrefix name ∉ objectPrototypeNames

instance (existingSettings : ModSettings) (name : String) :
    Decidable (Fresh existingSettings name) :=
  inferInstanceAs (Decidable (_ ∧ _))

private theorem not_fresh_proto (existingSettings : ModSettings) :
    ¬Fresh existingSettings "__proto__" := fun fresh => fresh.2 (by decide)

private theorem get_eq_none_of_fresh {existingSettings : ModSettings} {name : String}
    (fresh : Fresh existingSettings name) : existingSettings.get name = none := by
  by_contra present
  have member : name ∈ existingSettings.keys :=
    (Object.mem_keys_iff _ _).mpr (Option.ne_none_iff_isSome.mp present)
  exact fresh.1 (List.mem_map_of_mem getNamePrefix member)

private theorem truthyProperty_eq_not_fresh (existingSettings : ModSettings) (name : String) :
    truthyProperty (existingNamePrefixes existingSettings) (getNamePrefix name) =
      !decide (Fresh existingSettings name) := by
  rw [Bool.eq_iff_iff, truthyProperty_existingNamePrefixes]
  simp [Fresh, or_iff_not_imp_left]

/-- What `mergeModSettings` computes, for every pair of settings objects. -/
theorem mergeModSettings_spec (existingSettings newSettings : ModSettings) :
    (∀ name, (mergeModSettings existingSettings newSettings).mergedSettings.get name =
        if Fresh existingSettings name then newSettings.get name else existingSettings.get name) ∧
      ((mergeModSettings existingSettings newSettings).existingSettingsChanged = true ↔
        ∃ name ∈ newSettings.keys, Fresh existingSettings name) := by
  rw [mergeModSettings, foldl_mergeEntry]
  simp only [truthyProperty_eq_not_fresh, Bool.not_not]
  constructor
  · intro name
    have unique : ((newSettings.entries.filter fun entry =>
        decide (Fresh existingSettings entry.1)).map (·.1)).Nodup :=
      newSettings.unique.sublist ((List.filter_sublist _).map _)
    have assigned := Object.get_foldl_assign (fun value : Scalar => value) _
      (Object.empty.spread existingSettings) unique name
    simp only [Object.lookup_filter (fun key => decide (Fresh existingSettings key)),
      Object.get_spread, Object.get_empty, Option.or_none, Option.map_id'] at assigned
    rw [assigned]
    by_cases proto : name = "__proto__"
    · simp [proto, not_fresh_proto]
    · by_cases fresh : Fresh existingSettings name
      · rw [get_eq_none_of_fresh fresh]
        simp [proto, fresh, Object.get]
      · simp [proto, fresh]
  · simp [List.any_eq_true, Object.keys]

/-- A new setting named after a property of `Object.prototype` is never added, even when
nothing is stored yet. -/
theorem mergeModSettings_drops_constructor :
    (mergeModSettings Object.empty ⟨[("constructor", .str "blue")], by decide⟩).mergedSettings.get
        "constructor" = none ∧
      (mergeModSettings Object.empty
        ⟨[("constructor", .str "blue")], by decide⟩).existingSettingsChanged = false := by
  decide

end Windhawk.ModConfigUtils
