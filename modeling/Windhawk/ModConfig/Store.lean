import Windhawk.ModConfig.Utils

/-! The store of every installed mod. Both backends keep each file or key apart, so a call
reads and writes the entry its mod id names alone. A run of calls on any mods, with the
settings merge of `setModConfig` included, leaves each mod's config record as the calls on
the ids naming its file or key make it. -/

set_option autoImplicit false

namespace Windhawk.ModConfigUtils

open Js

/-! ## Each mod apart -/

/-- A backend whose store holds each mod under its id: a read of a mod looks at the mod's
entry alone, and a write to a mod changes the mod's entry alone. -/
structure Pointwise {α : Type} (backend : ModStorageBackend (String → α)) : Prop where
  readAllConfigFields_congr : ∀ {store store' : String → α} {modId : String},
    store modId = store' modId →
      backend.readAllConfigFields store modId = backend.readAllConfigFields store' modId
  configExists_congr : ∀ {store store' : String → α} {modId : String},
    store modId = store' modId → backend.configExists store modId = backend.configExists store' modId
  readAllSettings_congr : ∀ {store store' : String → α} {modId : String},
    store modId = store' modId →
      backend.readAllSettings store modId = backend.readAllSettings store' modId
  writeAllConfigFields_frame : ∀ store modId fields other, other ≠ modId →
    backend.writeAllConfigFields store modId fields other = store other
  writeAllSettings_frame : ∀ store modId settings settingsChangeTime other, other ≠ modId →
    backend.writeAllSettings store modId settings settingsChangeTime other = store other
  deleteConfig_frame : ∀ store modId other, other ≠ modId →
    backend.deleteConfig store modId other = store other

theorem IniStorageBackend.pointwise : Pointwise (α := IniFile) IniStorageBackend.backend where
  readAllConfigFields_congr same := by simp only [backend, readAllConfigFields, same]
  configExists_congr same := by simp only [backend, configExists, same]
  readAllSettings_congr same := by simp only [backend, readAllSettings, same]
  writeAllConfigFields_frame _ _ _ _ different := Function.update_noteq different _ _
  writeAllSettings_frame _ _ _ _ _ different := Function.update_noteq different _ _
  deleteConfig_frame _ _ _ different := Function.update_noteq different _ _

theorem RegistryStorageBackend.pointwise :
    Pointwise (α := Option ModKey) RegistryStorageBackend.backend where
  readAllConfigFields_congr same := by simp only [backend, readAllConfigFields, same]
  configExists_congr same := by simp only [backend, configExists, same]
  readAllSettings_congr same := by simp only [backend, readAllSettings, same]
  writeAllConfigFields_frame _ _ _ _ different := Function.update_noteq different _ _
  writeAllSettings_frame _ _ _ _ _ different := Function.update_noteq different _ _
  deleteConfig_frame _ _ _ different := Function.update_noteq different _ _

theorem setModConfig_cases {σ : Type} (backend : ModStorageBackend σ) (store : σ)
    (modId : String) (config : PartialModConfig) (settingsConfig : Option ModSettingsConfig)
    (settingsChangeTime : Int) :
    ModConfigUtilsBase.setModConfig backend store modId config settingsConfig settingsChangeTime =
        ModConfigCodec.serialize backend store modId config ∨
      ∃ settings, ModConfigUtilsBase.setModConfig backend store modId config settingsConfig
          settingsChangeTime =
        backend.writeAllSettings (ModConfigCodec.serialize backend store modId config) modId
          settings settingsChangeTime := by
  unfold ModConfigUtilsBase.setModConfig
  cases settingsConfig with
  | none => exact .inl rfl
  | some settingsConfig =>
      simp only
      split_ifs
      · exact .inr ⟨_, rfl⟩
      · exact .inr ⟨_, rfl⟩
      · exact .inl rfl

/-! ## Calls on any mods -/

/-- A call of a `ModConfigUtils` method that writes, on any mod: `setModConfig` with its
settings and the clock they are written with, when it has any. -/
inductive ModConfigCall where
  | setModConfig (modId : String) (config : PartialModConfig)
      (settingsConfig : Option ModSettingsConfig) (settingsChangeTime : Int)
  | setModSettings (modId : String) (settings : ModSettings) (settingsChangeTime : Int)
  | enableMod (modId : String) (enable : Bool)
  | enableLogging (modId : String) (enable : Bool)
  | deleteMod (modId : String)

namespace ModConfigCall

def modId : ModConfigCall → String
  | .setModConfig modId .. | .setModSettings modId .. | .enableMod modId _
  | .enableLogging modId _ | .deleteMod modId => modId

def run {σ : Type} (backend : ModStorageBackend σ) (store : σ) : ModConfigCall → σ
  | .setModConfig modId config settingsConfig settingsChangeTime =>
      ModConfigUtilsBase.setModConfig backend store modId config settingsConfig settingsChangeTime
  | .setModSettings modId settings settingsChangeTime =>
      ModConfigUtilsBase.setModSettings backend store modId settings settingsChangeTime
  | .enableMod modId enable => ModConfigUtilsBase.enableMod backend store modId enable
  | .enableLogging modId enable => ModConfigUtilsBase.enableLogging backend store modId enable
  | .deleteMod modId => ModConfigUtilsBase.deleteMod backend store modId

def op : ModConfigCall → ModConfigOp
  | .setModConfig _ config _ _ => .setModConfig config
  | .setModSettings _ settings settingsChangeTime => .setModSettings settings settingsChangeTime
  | .enableMod _ enable => .enableMod enable
  | .enableLogging _ enable => .enableLogging enable
  | .deleteMod _ => .deleteMod

end ModConfigCall

section Calls

variable {σ : Type} {backend : ModStorageBackend σ}

theorem abstractConfig_writeAllSettings (laws : ConfigStore backend) (store : σ)
    (modId : String) (settings : ModSettings) (settingsChangeTime : Int) :
    abstractConfig backend (backend.writeAllSettings store modId settings settingsChangeTime)
        modId =
      abstractConfig backend store modId := by
  funext field
  show ModConfigCodec.parseField _ (backend.rawField _ modId field) =
    ModConfigCodec.parseField _ (backend.rawField store modId field)
  rw [laws.rawField_writeAllSettings]

theorem abstractConfig_run_call (laws : ConfigStore backend) (store : σ)
    (call : ModConfigCall) (encodable : call.op.Encodable) :
    abstractConfig backend (call.run backend store) call.modId =
      call.op.apply (abstractConfig backend store call.modId) := by
  cases call with
  | setModConfig modId config settingsConfig settingsChangeTime =>
      have serialized := abstractConfig_run laws store modId (.setModConfig config) encodable
      dsimp only [ModConfigCall.run, ModConfigCall.modId, ModConfigCall.op]
      rcases setModConfig_cases backend store modId config settingsConfig settingsChangeTime with
        same | ⟨settings, same⟩
      · rw [same]
        exact serialized
      · rw [same, abstractConfig_writeAllSettings laws]
        exact serialized
  | _ => exact abstractConfig_run laws store _ _ encodable

end Calls

section PointwiseCalls

variable {α : Type} {backend : ModStorageBackend (String → α)}

theorem ModConfigCall.run_frame (pointwise : Pointwise backend) (store : String → α)
    (call : ModConfigCall) {other : String} (different : other ≠ call.modId) :
    call.run backend store other = store other := by
  cases call with
  | setModConfig modId config settingsConfig settingsChangeTime =>
      have serialized : ModConfigCodec.serialize backend store modId config other = store other :=
        pointwise.writeAllConfigFields_frame _ _ _ _ different
      dsimp only [ModConfigCall.run, ModConfigCall.modId] at different ⊢
      rcases setModConfig_cases backend store modId config settingsConfig settingsChangeTime with
        same | ⟨settings, same⟩
      · rw [same, serialized]
      · rw [same, pointwise.writeAllSettings_frame _ _ _ _ _ different, serialized]
  | setModSettings => exact pointwise.writeAllSettings_frame _ _ _ _ _ different
  | enableMod => exact pointwise.writeAllConfigFields_frame _ _ _ _ different
  | enableLogging => exact pointwise.writeAllConfigFields_frame _ _ _ _ different
  | deleteMod => exact pointwise.deleteConfig_frame _ _ _ different

theorem abstractConfig_congr (pointwise : Pointwise backend) {store store' : String → α}
    {modId : String} (same : store modId = store' modId) :
    abstractConfig backend store modId = abstractConfig backend store' modId := by
  unfold abstractConfig
  rw [pointwise.readAllConfigFields_congr same]

/-- Calls on any mods, in order: each mod's config record ends as the calls on it make it,
and the calls on other mods never touch it. -/
theorem abstractConfig_runCalls (laws : ConfigStore backend) (pointwise : Pointwise backend)
    (modId : String) :
    ∀ (calls : List ModConfigCall) (store : String → α), (∀ call ∈ calls, call.op.Encodable) →
      abstractConfig backend (calls.foldl (ModConfigCall.run backend) store) modId =
        ((calls.filter (·.modId = modId)).map ModConfigCall.op).foldl ModConfigOp.apply
          (abstractConfig backend store modId)
  | [], _, _ => rfl
  | call :: rest, store, encodable => by
      rw [List.foldl_cons, abstractConfig_runCalls laws pointwise modId rest _
        (fun call member => encodable call (.tail _ member))]
      by_cases addressed : call.modId = modId
      · subst addressed
        rw [List.filter_cons_of_pos (by simp), List.map_cons, List.foldl_cons,
          abstractConfig_run_call laws store call (encodable call (.head _))]
      · rw [List.filter_cons_of_neg (by simpa using addressed),
          abstractConfig_congr pointwise
            (ModConfigCall.run_frame pointwise store call (Ne.symm addressed))]

end PointwiseCalls

/-! ## The files and keys mod ids name

The INI backend keeps a mod in `path.join(engineModsPath, modId + '.ini')`, the registry
backend in the key `regSubKey + '\\' + modId`. Windows compares file and key names ignoring
case, and `path.join` resolves `..` segments, so several ids can name one file or key. The
stores above hold one entry per file or key; `resolve` gives the entry an id names. -/

/-- `backend` with each mod id first resolved to the file or key it names. -/
def ModStorageBackend.resolving {σ : Type} (backend : ModStorageBackend σ)
    (resolve : String → String) : ModStorageBackend σ :=
  ⟨fun store => backend.readAllConfigFields store ∘ resolve,
    fun store => backend.writeAllConfigFields store ∘ resolve,
    fun store => backend.configExists store ∘ resolve,
    fun store => backend.readAllSettings store ∘ resolve,
    fun store => backend.writeAllSettings store ∘ resolve,
    fun store => backend.deleteConfig store ∘ resolve⟩

def ModConfigCall.resolve (resolve : String → String) : ModConfigCall → ModConfigCall
  | .setModConfig modId config settingsConfig settingsChangeTime =>
      .setModConfig (resolve modId) config settingsConfig settingsChangeTime
  | .setModSettings modId settings settingsChangeTime =>
      .setModSettings (resolve modId) settings settingsChangeTime
  | .enableMod modId enable => .enableMod (resolve modId) enable
  | .enableLogging modId enable => .enableLogging (resolve modId) enable
  | .deleteMod modId => .deleteMod (resolve modId)

section Resolving

variable {σ : Type} (backend : ModStorageBackend σ) (resolve : String → String)

@[simp] theorem ModConfigCall.modId_resolve (call : ModConfigCall) :
    (call.resolve resolve).modId = resolve call.modId := by
  cases call <;> rfl

@[simp] theorem ModConfigCall.op_resolve (call : ModConfigCall) :
    (call.resolve resolve).op = call.op := by
  cases call <;> rfl

theorem ModConfigCall.run_resolving (store : σ) (call : ModConfigCall) :
    call.run (backend.resolving resolve) store = (call.resolve resolve).run backend store := by
  cases call <;> rfl

theorem foldl_run_resolving (calls : List ModConfigCall) (store : σ) :
    calls.foldl (ModConfigCall.run (backend.resolving resolve)) store =
      (calls.map (ModConfigCall.resolve resolve)).foldl (ModConfigCall.run backend) store := by
  induction calls generalizing store with
  | nil => rfl
  | cons call rest ih => rw [List.foldl_cons, ModConfigCall.run_resolving, ih]; rfl

theorem abstractConfig_runCalls_resolving {α : Type} {backend : ModStorageBackend (String → α)}
    (laws : ConfigStore backend) (pointwise : Pointwise backend) (calls : List ModConfigCall)
    (encodable : ∀ call ∈ calls, call.op.Encodable) (store : String → α) (modId : String) :
    abstractConfig (backend.resolving resolve)
        (calls.foldl (ModConfigCall.run (backend.resolving resolve)) store) modId =
      ((calls.filter (resolve ·.modId = resolve modId)).map ModConfigCall.op).foldl
        ModConfigOp.apply (abstractConfig (backend.resolving resolve) store modId) := by
  show abstractConfig backend _ (resolve modId) = _
  rw [foldl_run_resolving, abstractConfig_runCalls laws pointwise (resolve modId) _ store
    (by simpa using encodable), List.filter_map, List.map_map]
  simp only [Function.comp_def, ModConfigCall.modId_resolve, ModConfigCall.op_resolve]
  rfl

end Resolving

/-- Mod ids that name one file `<modId>.ini` in `Engine\Mods` and one key under it: no path
separator, and not `''`, `'.'` or `'..'`. Other ids name a file in a subfolder, or a folder
or key above or below a mod's, which the stores, one entry per file or key, do not
represent. -/
def PlainModId (modId : String) : Prop :=
  '\\' ∉ modId.data ∧ '/' ∉ modId.data ∧ modId ≠ "" ∧ modId ≠ "." ∧ modId ≠ ".."

instance : DecidablePred PlainModId := fun _ => inferInstanceAs (Decidable (_ ∧ _))

end Windhawk.ModConfigUtils
