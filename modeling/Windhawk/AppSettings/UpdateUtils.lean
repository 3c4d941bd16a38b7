import Windhawk.Js.Builtins
import Mathlib.Data.List.Chain

/-! `UpdateUtils` of `appSettingsUtils.ts`, which downloads the latest installer and starts it,
on the extension host's event loop. A step is one macrotask with the microtasks it runs: a
call of `startUpdate` or `cancelUpdate`, or an event of the environment (`fetch` settling, a
chunk or an error of the response body, the end or an error of the file stream, the installer
process spawning or failing to). The environment's events come in any order, and a listener
keeps reacting after the promise it settles has settled. Over every run one update runs at a
time and each `startUpdate` it takes on returns once, `cancelUpdate` succeeds exactly while
the installer is being downloaded, and the installer starts only right after its download
reported 100%. -/

set_option autoImplicit false

namespace Windhawk.SelfUpdate

open Js

/-! ## State -/

structure UpdateResult where
  succeeded : Bool
  error : Option String
  deriving DecidableEq, Repr

structure AbortController where
  aborted : Bool
  deriving DecidableEq, Repr

/-- The response `fetch` resolves with, as far as `_downloadInstaller` reads it:
`contentLength` is `response.headers.get('content-length')`, and `hasBody` says that
`response.body` is not null. -/
structure Response where
  ok : Bool
  status : Nat
  statusText : String
  contentLength : Option String
  hasBody : Bool
  deriving DecidableEq, Repr

/-- The locals that the body's listeners of one `_downloadInstaller` call close over, the
update (the `startUpdate` call) whose callbacks they call, and whether the promise they settle
has settled. -/
structure Download where
  session : Nat
  totalSize : Option Int
  downloadedSize : Int
  lastReportedProgress : Int
  hasError : Bool
  settled : Bool
  deriving DecidableEq, Repr

/-- Where the `startUpdate` call `session` waits: on `fetch` in `_downloadInstaller`, on the
promise over the body whose listeners are `downloads[download]`, or on `_installUpdate` until
the installer spawns or fails to. -/
inductive Phase where
  | idle
  | fetching (session : Nat)
  | downloading (session download : Nat)
  | installing (session : Nat)
  deriving DecidableEq, Repr

def Phase.session? : Phase → Option Nat
  | .idle => none
  | .fetching session | .downloading session _ | .installing session => some session

def Phase.downloadsInstaller : Phase → Bool
  | .fetching _ | .downloading _ _ => true
  | _ => false

/-- What others see of the object: the callbacks it calls, the installer it spawns, and what
its public methods return. `started` marks a `startUpdate` call the object takes on, with
`os.tmpdir()` and the random hexadecimal name that its folder gets. -/
inductive Output where
  | started (session : Nat) (tmpdir randomHex : String)
  | onProgress (session : Nat) (progress : Int)
  | onInstalling (session : Nat)
  | spawn (session : Nat) (command : String) (args : List String)
  | startUpdateReturned (session : Option Nat) (result : UpdateResult)
  | cancelUpdateReturned (result : Bool)
  deriving DecidableEq, Repr

/-- The object's fields, where its `startUpdate` call waits, the body listeners it attached,
and its outputs so far. -/
structure UpdateUtils where
  isPortable : Bool
  appRootPath : String
  isUpdating : Bool
  downloadAbortController : Option AbortController
  tempFolderPath : Option String
  tempInstallerPath : Option String
  phase : Phase
  sessions : Nat
  downloads : List Download
  log : List Output

namespace UpdateUtils

def init (isPortable : Bool) (appRootPath : String) : UpdateUtils :=
  ⟨isPortable, appRootPath, false, none, none, none, .idle, 0, [], []⟩

def emit (utils : UpdateUtils) (output : Output) : UpdateUtils :=
  { utils with log := utils.log ++ [output] }

/-! ## The methods -/

/-- `_cleanup()`. The installer and the folder it deletes, ignoring errors, are not
modelled. -/
def cleanup (utils : UpdateUtils) : UpdateUtils :=
  { utils with
    isUpdating := false, downloadAbortController := none, tempInstallerPath := none,
    tempFolderPath := none }

def returnResult (utils : UpdateUtils) (session : Nat) (result : UpdateResult) : UpdateUtils :=
  { utils.cleanup with phase := .idle }.emit (.startUpdateReturned (some session) result)

def fail (utils : UpdateUtils) (session : Nat) (message : String) : UpdateUtils :=
  utils.returnResult session
    ⟨false, some (if message = "" then "Unknown error occurred" else message)⟩

def installerArgs (isPortable : Bool) (appRootPath : String) : List String :=
  if isPortable then ["/PORTABLE", "/AUTO_UPDATE", "/LANG=1033", "/D=" ++ appRootPath]
  else ["/AUTO_UPDATE"]

/-- `_installUpdate()` up to the `await` of its promise; `installerExists` is what
`fs.existsSync` finds. -/
def installUpdate (utils : UpdateUtils) (session : Nat) (installerExists : Bool) :
    UpdateUtils :=
  match utils.tempInstallerPath with
  | some tempInstallerPath =>
      if tempInstallerPath ≠ "" ∧ installerExists then
        { utils.emit (.spawn session tempInstallerPath
            (installerArgs utils.isPortable utils.appRootPath)) with phase := .installing session }
      else utils.fail session "Installer file not found"
  | none => utils.fail session "Installer file not found"

def downloadSettled (utils : UpdateUtils) (session : Nat) (outcome : Except String Unit)
    (installerExists : Bool) : UpdateUtils :=
  let utils := { utils with downloadAbortController := none }
  match outcome with
  | .error message => utils.fail session message
  | .ok () => (utils.emit (.onInstalling session)).installUpdate session installerExists

/-- `path.join(directory, name)`, for a directory with no trailing separator. -/
def pathJoin (directory name : String) : String := directory ++ "\\" ++ name

/-- `startUpdate(callbacks)` up to its first `await`, the one on `fetch` in
`_downloadInstaller`. `tmpdir` is `os.tmpdir()`, `randomHex` the hexadecimal of the random
bytes that name the folder, `mkdirError` what `mkdirSync` throws, if it does. -/
def startUpdate (utils : UpdateUtils) (tmpdir randomHex : String) (mkdirError : Option String) :
    UpdateUtils :=
  if utils.isUpdating then
    utils.emit (.startUpdateReturned none ⟨false, some "Update is already in progress"⟩)
  else
    let session := utils.sessions
    let tempFolderPath := pathJoin tmpdir ("windhawk_update_" ++ randomHex)
    let utils := { utils with
      isUpdating := true, sessions := session + 1, downloadAbortController := some ⟨false⟩,
      tempFolderPath := some tempFolderPath }.emit (.started session tmpdir randomHex)
    match mkdirError with
    | some message => { utils with downloadAbortController := none }.fail session message
    | none =>
        { utils with
          tempInstallerPath := some (pathJoin tempFolderPath "windhawk_setup.exe"),
          phase := .fetching session }

def cancelUpdate (utils : UpdateUtils) : UpdateUtils :=
  match utils.isUpdating, utils.downloadAbortController with
  | true, some controller =>
      { utils with downloadAbortController := some { controller with aborted := true } }.emit
        (.cancelUpdateReturned true)
  | _, _ => utils.emit (.cancelUpdateReturned false)

def contentLengthOrZero : Option String → String
  | some value => if value = "" then "0" else value
  | none => "0"

def fetchResolved (utils : UpdateUtils) (session : Nat) (response : Response) : UpdateUtils :=
  if response.ok then
    if response.hasBody then
      { utils with
        downloads := utils.downloads ++
          [⟨session, parseInt (contentLengthOrZero response.contentLength), 0, -1, false, false⟩]
        phase := .downloading session utils.downloads.length }
    else utils.downloadSettled session (.error "Response body is null") false
  else
    utils.downloadSettled session (.error ("Failed to download update: " ++
      if response.statusText = "" then numberToString response.status else response.statusText))
      false

/-- The `'data'` listener of `downloads[download]`. `floorPercent` stands for
`Math.floor((downloadedSize / totalSize) * 100)`, which JavaScript computes in floating
point. -/
def data (floorPercent : Int → Int → Int) (utils : UpdateUtils) (download length : Nat) :
    UpdateUtils :=
  match utils.downloads[download]? with
  | none => utils
  | some listeners =>
      let downloadedSize := listeners.downloadedSize + length
      let progress := match listeners.totalSize with
        | some totalSize => if totalSize > 0 then floorPercent downloadedSize totalSize else 0
        | none => 0
      if progress ≠ listeners.lastReportedProgress then
        { utils with
          downloads := utils.downloads.set download
            { listeners with downloadedSize := downloadedSize, lastReportedProgress := progress } }.emit
          (.onProgress listeners.session progress)
      else
        { utils with
          downloads := utils.downloads.set download
            { listeners with downloadedSize := downloadedSize } }

/-- `resolve()` or `reject(error)` on the promise of `downloads[download]`: the first one
settles it and resumes the `startUpdate` call that awaits it; later ones do nothing. -/
def settle (utils : UpdateUtils) (download : Nat) (outcome : Except String Unit)
    (installerExists : Bool) : UpdateUtils :=
  match utils.downloads[download]? with
  | some listeners =>
      if listeners.settled then utils
      else
        { utils with
          downloads := utils.downloads.set download { listeners with settled := true } }.downloadSettled
          listeners.session outcome installerExists
  | none => utils

def fileStreamFinish (utils : UpdateUtils) (download : Nat) (installerExists : Bool) :
    UpdateUtils :=
  match utils.downloads[download]? with
  | some listeners =>
      if listeners.hasError then utils
      else (utils.emit (.onProgress listeners.session 100)).settle download (.ok ()) installerExists
  | none => utils

def streamError (utils : UpdateUtils) (download : Nat) (message : String) : UpdateUtils :=
  match utils.downloads[download]? with
  | some listeners =>
      { utils with
        downloads := utils.downloads.set download { listeners with hasError := true } }.settle
        download (.error message) false
  | none => utils

def installerError (utils : UpdateUtils) (session : Nat) (message : String) : UpdateUtils :=
  utils.fail session ("Failed to start installer: " ++ message)

def installerSpawn (utils : UpdateUtils) (session : Nat) : UpdateUtils :=
  utils.returnResult session ⟨true, none⟩

/-! ## The event loop -/

inductive Event where
  | startUpdate (tmpdir randomHex : String) (mkdirError : Option String)
  | cancelUpdate
  | fetchRejected (message : String)
  | fetchResolved (response : Response)
  | data (download length : Nat)
  | fileStreamFinish (download : Nat) (installerExists : Bool)
  | fileStreamError (download : Nat) (message : String)
  | bodyError (download : Nat) (message : String)
  | installerError (message : String)
  | installerSpawn

/-- One macrotask and the microtasks it runs. A settlement of a promise nobody waits for
does nothing. -/
def handle (floorPercent : Int → Int → Int) (utils : UpdateUtils) : Event → UpdateUtils
  | .startUpdate tmpdir randomHex mkdirError => utils.startUpdate tmpdir randomHex mkdirError
  | .cancelUpdate => utils.cancelUpdate
  | .fetchRejected message =>
      match utils.phase with
      | .fetching session => utils.downloadSettled session (.error message) false
      | _ => utils
  | .fetchResolved response =>
      match utils.phase with
      | .fetching session => utils.fetchResolved session response
      | _ => utils
  | .data download length => utils.data floorPercent download length
  | .fileStreamFinish download installerExists => utils.fileStreamFinish download installerExists
  | .fileStreamError download message | .bodyError download message =>
      utils.streamError download message
  | .installerError message =>
      match utils.phase with
      | .installing session => utils.installerError session message
      | _ => utils
  | .installerSpawn =>
      match utils.phase with
      | .installing session => utils.installerSpawn session
      | _ => utils

end UpdateUtils

/-! ## What every run keeps -/

def Output.mark : Output → Option (Bool × Nat)
  | .started session _ _ => some (true, session)
  | .startUpdateReturned (some session) _ => some (false, session)
  | _ => none

def bracket : Nat → List (Bool × Nat)
  | 0 => []
  | count + 1 => bracket count ++ [(true, count), (false, count)]

def notFound (session : Nat) : Output :=
  .startUpdateReturned (some session) ⟨false, some "Installer file not found"⟩

/-- Two consecutive outputs: `onInstalling` comes right after its update reported 100%, and
right before that update spawns the installer or fails to find it; `spawn` comes right after
`onInstalling`. -/
def Follows (before after : Output) : Prop :=
  (∀ session, after = .onInstalling session → before = .onProgress session 100) ∧
  (∀ session command args, after = .spawn session command args →
    before = .onInstalling session) ∧
  (∀ session, before = .onInstalling session →
    (∃ command args, after = .spawn session command args) ∨ after = notFound session)

def SucceedsAfterSpawn (log : List Output) : Prop :=
  ∀ session, Output.startUpdateReturned (some session) ⟨true, none⟩ ∈ log →
    ∃ command args, Output.spawn session command args ∈ log

/-- Every installer spawned in `log` is `windhawk_setup.exe` in the folder that its own update
created in the temporary directory, started with the arguments for the given mode. -/
def SpawnsOwnInstaller (isPortable : Bool) (appRootPath : String) (log : List Output) : Prop :=
  ∀ session command args, Output.spawn session command args ∈ log →
    args = UpdateUtils.installerArgs isPortable appRootPath ∧ ∃ tmpdir randomHex,
      Output.started session tmpdir randomHex ∈ log ∧ command =
        UpdateUtils.pathJoin (UpdateUtils.pathJoin tmpdir ("windhawk_update_" ++ randomHex))
          "windhawk_setup.exe"

/-- What holds of the object after any run. -/
structure UpdateUtils.Invariant (utils : UpdateUtils) : Prop where
  isUpdating_eq : utils.isUpdating = utils.phase.session?.isSome
  controller_eq : utils.downloadAbortController.isSome = utils.phase.downloadsInstaller
  idle_clean : utils.phase = .idle → utils.tempFolderPath = none ∧ utils.tempInstallerPath = none
  settled_iff : ∀ download listeners, utils.downloads[download]? = some listeners →
    (listeners.settled = false ↔ utils.phase = .downloading listeners.session download)
  session_eq : ∀ session, utils.phase.session? = some session → session + 1 = utils.sessions
  marks_eq : utils.log.filterMap Output.mark =
    match utils.phase.session? with
    | some session => bracket session ++ [(true, session)]
    | none => bracket utils.sessions
  follows : utils.log.Chain' Follows
  last_ne : ∀ session, utils.log.getLast? ≠ some (.onInstalling session)
  spawned : ∀ session, utils.phase = .installing session →
    ∃ command args, Output.spawn session command args ∈ utils.log
  succeeded : SucceedsAfterSpawn utils.log
  installer_path : ∀ path, utils.tempInstallerPath = some path → ∃ session tmpdir randomHex,
    utils.phase.session? = some session ∧ Output.started session tmpdir randomHex ∈ utils.log ∧
    path = UpdateUtils.pathJoin (UpdateUtils.pathJoin tmpdir ("windhawk_update_" ++ randomHex))
      "windhawk_setup.exe"
  spawns_own : SpawnsOwnInstaller utils.isPortable utils.appRootPath utils.log

def Output.Opens : Output → Prop
  | .onInstalling _ | .spawn _ _ _ => False
  | _ => True

section Log

variable {log : List Output}

theorem follows_push (follows : log.Chain' Follows)
    (lastNe : ∀ session, log.getLast? ≠ some (.onInstalling session)) (output : Output)
    (opens : output.Opens) :
    (log ++ [output]).Chain' Follows ∧
      ∀ session, (log ++ [output]).getLast? ≠ some (.onInstalling session) := by
  refine ⟨follows.append (List.chain'_singleton _) fun before last after head => ?_,
    fun session => ?_⟩
  · obtain rfl : after = output := by simpa using head.symm
    refine ⟨fun session same => ?_, fun session command args same => ?_, fun session same => ?_⟩
    · subst same; exact opens.elim
    · subst same; exact opens.elim
    · exact absurd (same ▸ Option.mem_def.mp last) (lastNe session)
  · cases output <;> simp_all [Output.Opens]

theorem follows_install (follows : log.Chain' Follows)
    (lastNe : ∀ session, log.getLast? ≠ some (.onInstalling session)) {session : Nat}
    (last : Output) (installs : (∃ command args, last = .spawn session command args) ∨
      last = notFound session) :
    (log ++ [Output.onProgress session 100] ++ [Output.onInstalling session] ++ [last]).Chain'
        Follows ∧
      ∀ other, (log ++ [Output.onProgress session 100] ++ [Output.onInstalling session] ++
        [last]).getLast? ≠ some (.onInstalling other) := by
  have reported := (follows_push follows lastNe (.onProgress session 100) trivial).1
  have installing := reported.append (List.chain'_singleton (Output.onInstalling session))
    fun before last after head => by
      simp at last head
      subst last head
      exact ⟨by simp, by simp, by simp⟩
  refine ⟨installing.append (List.chain'_singleton last) fun before last' after head => ?_,
    fun other => ?_⟩
  · simp at last' head
    subst last' head
    refine ⟨fun _ same => ?_, fun _ _ _ same => ?_, fun _ same => ?_⟩
    · rcases installs with ⟨_, _, rfl⟩ | rfl <;> simp [notFound] at same
    · rcases installs with ⟨_, _, rfl⟩ | rfl <;> simp_all [notFound]
    · cases same; exact installs
  · rcases installs with ⟨_, _, rfl⟩ | rfl <;> simp [notFound]

theorem SucceedsAfterSpawn.push (succeeds : SucceedsAfterSpawn log) (output : Output)
    (notSuccess : ∀ session, output ≠ .startUpdateReturned (some session) ⟨true, none⟩) :
    SucceedsAfterSpawn (log ++ [output]) := by
  intro session member
  rcases List.mem_append.mp member with earlier | added
  · obtain ⟨command, args, spawn⟩ := succeeds session earlier
    exact ⟨command, args, List.mem_append_left _ spawn⟩
  · exact absurd (List.mem_singleton.mp added).symm (notSuccess session)

variable {isPortable : Bool} {appRootPath : String}

theorem SpawnsOwnInstaller.push (spawns : SpawnsOwnInstaller isPortable appRootPath log)
    (output : Output) (notSpawn : ∀ session command args, output ≠ .spawn session command args) :
    SpawnsOwnInstaller isPortable appRootPath (log ++ [output]) := by
  intro session command args member
  rcases List.mem_append.mp member with earlier | added
  · obtain ⟨same, tmpdir, randomHex, started, path⟩ := spawns session command args earlier
    exact ⟨same, tmpdir, randomHex, List.mem_append_left _ started, path⟩
  · exact absurd (List.mem_singleton.mp added).symm (notSpawn session command args)

theorem SpawnsOwnInstaller.push_spawn (spawns : SpawnsOwnInstaller isPortable appRootPath log)
    {session : Nat} {tmpdir randomHex : String}
    (started : Output.started session tmpdir randomHex ∈ log) :
    SpawnsOwnInstaller isPortable appRootPath (log ++ [.spawn session
      (UpdateUtils.pathJoin (UpdateUtils.pathJoin tmpdir ("windhawk_update_" ++ randomHex))
        "windhawk_setup.exe") (UpdateUtils.installerArgs isPortable appRootPath)]) := by
  intro other command args member
  rcases List.mem_append.mp member with earlier | added
  · obtain ⟨same, tmpdir, randomHex, started, path⟩ := spawns other command args earlier
    exact ⟨same, tmpdir, randomHex, List.mem_append_left _ started, path⟩
  · cases List.mem_singleton.mp added
    exact ⟨rfl, tmpdir, randomHex, List.mem_append_left _ started, rfl⟩

end Log

theorem getElem?_set_keeps {downloads : List Download} {download : Nat}
    {listeners updated : Download} (found : downloads[download]? = some listeners)
    (settled : updated.settled = listeners.settled) (session : updated.session = listeners.session)
    (index : Nat) (after : Download) (found' : (downloads.set download updated)[index]? = some after) :
    ∃ before, downloads[index]? = some before ∧ after.settled = before.settled ∧
      after.session = before.session := by
  rw [List.getElem?_set] at found'
  split_ifs at found' with same
  · subst same; cases found'; exact ⟨listeners, found, settled, session⟩
  · exact ⟨after, found', rfl, rfl⟩

namespace UpdateUtils

theorem invariant_init (isPortable : Bool) (appRootPath : String) :
    (init isPortable appRootPath).Invariant where
  isUpdating_eq := rfl
  controller_eq := rfl
  idle_clean _ := ⟨rfl, rfl⟩
  settled_iff _ _ found := by simp [init] at found
  session_eq _ active := nomatch active
  marks_eq := rfl
  follows := List.chain'_nil
  last_ne _ := by simp [init]
  spawned _ installing := nomatch installing
  succeeded _ member := by simp [init] at member
  installer_path _ found := nomatch found
  spawns_own _ _ _ member := by simp [init] at member

section Invariant

variable {utils : UpdateUtils}

theorem Invariant.idle_of_not_isUpdating (inv : utils.Invariant)
    (notUpdating : utils.isUpdating = false) : utils.phase = .idle := by
  have updating := inv.isUpdating_eq
  cases phase : utils.phase <;> simp_all [Phase.session?]

theorem Invariant.settled_of_not_downloading (inv : utils.Invariant)
    (notDownloading : ∀ session download, utils.phase ≠ .downloading session download)
    (download : Nat) (listeners : Download) (found : utils.downloads[download]? = some listeners) :
    listeners.settled = true := by
  have := inv.settled_iff download listeners found
  simp_all

theorem Invariant.settled_of_set (inv : utils.Invariant) {session download : Nat}
    (current : utils.phase = .downloading session download) (downloads : List Download)
    (others : ∀ index, index ≠ download → downloads[index]? = utils.downloads[index]?)
    (settledAt : ∀ listeners, downloads[download]? = some listeners → listeners.settled = true)
    (index : Nat) (listeners : Download) (found : downloads[index]? = some listeners) :
    listeners.settled = true := by
  by_cases same : index = download
  · exact settledAt listeners (same ▸ found)
  · rw [others index same] at found
    simpa [current, Ne.symm same] using inv.settled_iff index listeners found

theorem Invariant.returned {session : Nat} {result : UpdateResult}
    (settled : ∀ (download : Nat) (listeners : Download),
      utils.downloads[download]? = some listeners → listeners.settled = true)
    (sessions : session + 1 = utils.sessions)
    (marks : utils.log.filterMap Output.mark = bracket session ++ [(true, session)])
    (follows : (utils.log ++ [Output.startUpdateReturned (some session) result]).Chain' Follows)
    (succeeded : SucceedsAfterSpawn utils.log)
    (spawnsOwn : SpawnsOwnInstaller utils.isPortable utils.appRootPath utils.log)
    (spawned : result = ⟨true, none⟩ →
      ∃ command args, Output.spawn session command args ∈ utils.log) :
    (utils.returnResult session result).Invariant where
  isUpdating_eq := rfl
  controller_eq := rfl
  idle_clean _ := ⟨rfl, rfl⟩
  settled_iff download listeners found := by
    simp [settled download listeners found, UpdateUtils.returnResult, emit, cleanup]
  session_eq _ active := nomatch active
  marks_eq := by
    show (utils.log ++ [_]).filterMap Output.mark = bracket utils.sessions
    simp [List.filterMap_append, marks, ← sessions, bracket, Output.mark]
  follows := follows
  last_ne _ := by simp [UpdateUtils.returnResult, emit]
  spawned _ installing := nomatch installing
  succeeded other member := by
    simp only [UpdateUtils.returnResult, emit, cleanup, List.mem_append, List.mem_singleton,
      Output.startUpdateReturned.injEq, Option.some.injEq, reduceCtorEq, or_false] at member ⊢
    rcases member with earlier | ⟨rfl, rfl⟩
    · exact succeeded other earlier
    · exact spawned rfl
  installer_path _ found := nomatch found
  spawns_own := spawnsOwn.push _ nofun

theorem Invariant.frame (inv : utils.Invariant) {controller : Option AbortController}
    {downloads : List Download} {log : List Output}
    (controllerSome : controller.isSome = utils.downloadAbortController.isSome)
    (kept : ∀ (download : Nat) (listeners : Download), downloads[download]? = some listeners →
      ∃ before, utils.downloads[download]? = some before ∧ listeners.settled = before.settled ∧
        listeners.session = before.session)
    (grown : log = utils.log ∨
      ∃ output : Output, log = utils.log ++ [output] ∧ output.Opens ∧ output.mark = none) :
    { utils with downloadAbortController := controller, downloads := downloads, log := log }.Invariant := by
  have grows : ∀ {output}, output ∈ utils.log → output ∈ log := fun member => by
    rcases grown with same | ⟨_, same, -⟩ <;> simp [same, member]
  exact {
    isUpdating_eq := inv.isUpdating_eq
    controller_eq := controllerSome ▸ inv.controller_eq
    idle_clean := inv.idle_clean
    settled_iff := fun download listeners found => by
      obtain ⟨before, found', settled, session⟩ := kept download listeners found
      rw [settled, session]
      exact inv.settled_iff download before found'
    session_eq := inv.session_eq
    marks_eq := by
      rcases grown with same | ⟨output, same, -, unmarked⟩
      · simp [same, inv.marks_eq]
      · simp [same, inv.marks_eq, List.filterMap_append, unmarked]
    follows := by
      rcases grown with same | ⟨output, same, opens, -⟩
      · exact same ▸ inv.follows
      · exact same ▸ (follows_push inv.follows inv.last_ne _ opens).1
    last_ne := by
      rcases grown with same | ⟨output, same, opens, -⟩
      · exact same ▸ inv.last_ne
      · exact same ▸ (follows_push inv.follows inv.last_ne _ opens).2
    spawned := fun session installing => by
      obtain ⟨command, args, member⟩ := inv.spawned session installing
      exact ⟨command, args, grows member⟩
    succeeded := by
      rcases grown with same | ⟨output, same, -, unmarked⟩ <;> rw [same]
      · exact inv.succeeded
      · exact inv.succeeded.push _ fun _ success => by subst success; simp [Output.mark] at unmarked
    installer_path := fun path found => by
      obtain ⟨session, tmpdir, randomHex, active, started, located⟩ := inv.installer_path path found
      exact ⟨session, tmpdir, randomHex, active, grows started, located⟩
    spawns_own := by
      rcases grown with same | ⟨output, same, opens, -⟩ <;> rw [same]
      · exact inv.spawns_own
      · exact inv.spawns_own.push _ fun _ _ _ spawn => by subst spawn; exact opens }

theorem Invariant.returnWaiting (inv : utils.Invariant) {session : Nat}
    (active : utils.phase.session? = some session)
    (notDownloading : ∀ session download, utils.phase ≠ .downloading session download)
    (result : UpdateResult)
    (spawned : result = ⟨true, none⟩ →
      ∃ command args, Output.spawn session command args ∈ utils.log) :
    (utils.returnResult session result).Invariant :=
  Invariant.returned (inv.settled_of_not_downloading notDownloading) (inv.session_eq session active)
    (by rw [inv.marks_eq, active])
    (follows_push inv.follows inv.last_ne (.startUpdateReturned (some session) result)
      trivial).1 inv.succeeded inv.spawns_own
    spawned

theorem Invariant.emit_plain (inv : utils.Invariant) {output : Output} (opens : output.Opens)
    (unmarked : output.mark = none) : (utils.emit output).Invariant :=
  inv.frame rfl (fun _ listeners found => ⟨listeners, found, rfl, rfl⟩) (.inr ⟨_, rfl, opens, unmarked⟩)

/-! ### One lemma per method and listener -/

theorem Invariant.startUpdate (inv : utils.Invariant) (tmpdir randomHex : String)
    (mkdirError : Option String) :
    (utils.startUpdate tmpdir randomHex mkdirError).Invariant := by
  unfold UpdateUtils.startUpdate
  split_ifs with updating
  · exact inv.emit_plain trivial rfl
  have idle := inv.idle_of_not_isUpdating (by simpa using updating)
  have settled := inv.settled_of_not_downloading (by simp [idle])
  let started := Output.started utils.sessions tmpdir randomHex
  have follows := follows_push inv.follows inv.last_ne started trivial
  have marks : (utils.log ++ [started]).filterMap Output.mark =
      bracket utils.sessions ++ [(true, utils.sessions)] := by
    simp [started, List.filterMap_append, inv.marks_eq, idle, Phase.session?, Output.mark]
  have succeeded := inv.succeeded.push started fun _ => by simp [started]
  have spawnsOwn := inv.spawns_own.push started nofun
  cases mkdirError with
  | some message =>
      exact Invariant.returned settled rfl marks
        (follows_push follows.1 follows.2 (.startUpdateReturned (some utils.sessions) _)
          trivial).1
        succeeded spawnsOwn (fun same => by simp at same)
  | none =>
      exact {
        isUpdating_eq := rfl
        controller_eq := rfl
        idle_clean := fun fetching => nomatch fetching
        settled_iff := fun download listeners found => by simp [settled download listeners found]
        session_eq := fun _ active => by cases active; rfl
        marks_eq := marks
        follows := follows.1
        last_ne := follows.2
        spawned := fun _ installing => nomatch installing
        succeeded := succeeded
        installer_path := fun path found => by
          cases found
          exact ⟨_, tmpdir, randomHex, rfl, List.mem_append_right _ (List.mem_singleton_self _), rfl⟩
        spawns_own := spawnsOwn }

theorem Invariant.cancelUpdate (inv : utils.Invariant) : utils.cancelUpdate.Invariant := by
  unfold UpdateUtils.cancelUpdate
  split
  · rename_i controller found
    exact inv.frame (by rw [found]; rfl) (fun _ listeners found => ⟨listeners, found, rfl, rfl⟩)
      (.inr ⟨_, rfl, trivial, rfl⟩)
  · exact inv.emit_plain trivial rfl

theorem Invariant.fetchResolved (inv : utils.Invariant) {session : Nat}
    (fetching : utils.phase = .fetching session) (response : Response) :
    (utils.fetchResolved session response).Invariant := by
  have active : utils.phase.session? = some session := by rw [fetching]; rfl
  have notDownloading : ∀ session download, utils.phase ≠ .downloading session download := by
    simp [fetching]
  have settled := inv.settled_of_not_downloading notDownloading
  unfold UpdateUtils.fetchResolved
  split_ifs with ok body
  · refine {
      isUpdating_eq := by rw [inv.isUpdating_eq, active]; rfl
      controller_eq := by rw [inv.controller_eq, fetching]; rfl
      idle_clean := fun downloading => nomatch downloading
      settled_iff := fun download listeners found => ?_
      session_eq := fun _ same => by cases same; exact inv.session_eq session active
      marks_eq := by rw [inv.marks_eq, active]; rfl
      follows := inv.follows
      last_ne := inv.last_ne
      spawned := fun _ installing => nomatch installing
      succeeded := inv.succeeded
      installer_path := fun path found => ?_
      spawns_own := inv.spawns_own }
    · by_cases earlier : download < utils.downloads.length
      · rw [List.getElem?_append_left earlier] at found
        simp [settled download listeners found, Nat.ne_of_gt earlier]
      · obtain ⟨offset, rfl⟩ := Nat.exists_eq_add_of_le (Nat.le_of_not_lt earlier)
        rw [List.getElem?_append_right (Nat.le_add_right _ _)] at found
        cases offset with
        | zero => simp at found; subst found; simp
        | succ => simp at found
    · obtain ⟨other, tmpdir, randomHex, same, started, located⟩ := inv.installer_path path found
      rw [active] at same
      cases same
      exact ⟨_, tmpdir, randomHex, rfl, started, located⟩
  all_goals
    exact inv.returnWaiting active notDownloading _ fun same => by simp [UpdateUtils.fail] at same

theorem Invariant.data (inv : utils.Invariant) (floorPercent : Int → Int → Int)
    (download length : Nat) : (utils.data floorPercent download length).Invariant := by
  unfold UpdateUtils.data
  split
  · exact inv
  · rename_i listeners found
    dsimp only
    split_ifs
    · exact inv.frame rfl (getElem?_set_keeps found rfl rfl) (.inr ⟨_, rfl, trivial, rfl⟩)
    · exact inv.frame rfl (getElem?_set_keeps found rfl rfl) (.inl rfl)

theorem fail_of_ne (utils : UpdateUtils) (session : Nat) {message : String}
    (nonEmpty : message ≠ "") :
    utils.fail session message = utils.returnResult session ⟨false, some message⟩ := by
  simp [UpdateUtils.fail, nonEmpty]

theorem installUpdate_elim {motive : UpdateUtils → Prop} {utils : UpdateUtils} {session : Nat}
    {installerExists : Bool}
    (spawns : ∀ tempInstallerPath, utils.tempInstallerPath = some tempInstallerPath →
      motive { utils.emit (.spawn session tempInstallerPath
        (installerArgs utils.isPortable utils.appRootPath)) with phase := .installing session })
    (fails : motive (utils.returnResult session ⟨false, some "Installer file not found"⟩)) :
    motive (utils.installUpdate session installerExists) := by
  unfold installUpdate
  split
  · rename_i tempInstallerPath found
    split_ifs
    · exact spawns _ found
    · rwa [fail_of_ne _ _ (by decide)]
  · rwa [fail_of_ne _ _ (by decide)]

theorem Invariant.fileStreamFinish (inv : utils.Invariant) (download : Nat)
    (installerExists : Bool) : (utils.fileStreamFinish download installerExists).Invariant := by
  unfold UpdateUtils.fileStreamFinish
  split
  · rename_i listeners found
    split_ifs with hasError
    · exact inv
    unfold UpdateUtils.settle
    simp only [emit, found]
    split_ifs with settled
    · exact inv.emit_plain trivial rfl
    have current := (inv.settled_iff download listeners found).mp (by simpa using settled)
    have active : utils.phase.session? = some listeners.session := by rw [current]; rfl
    have allSettled := inv.settled_of_set current
      (utils.downloads.set download { listeners with settled := true })
      (fun _ other => List.getElem?_set_ne (Ne.symm other))
      (fun _ found' => by
        rw [List.getElem?_set_self (List.getElem?_eq_some_iff.mp found).1] at found'
        cases found'; rfl)
    have marks := inv.marks_eq
    rw [active] at marks
    dsimp only at marks
    have succeeded := (inv.succeeded.push (.onProgress listeners.session 100) nofun).push
      (.onInstalling listeners.session) nofun
    have spawnsOwn := (inv.spawns_own.push (.onProgress listeners.session 100) nofun).push
      (.onInstalling listeners.session) nofun
    unfold UpdateUtils.downloadSettled
    dsimp only
    refine installUpdate_elim (fun tempInstallerPath assigned => ?_) ?_
    · have launched := follows_install inv.follows inv.last_ne
        (.spawn listeners.session tempInstallerPath
          (installerArgs utils.isPortable utils.appRootPath)) (.inl ⟨_, _, rfl⟩)
      obtain ⟨other, tmpdir, randomHex, same, started, rfl⟩ := inv.installer_path _ assigned
      rw [active] at same
      cases same
      exact {
        isUpdating_eq := by
          show utils.isUpdating = true
          rw [inv.isUpdating_eq, active]; rfl
        controller_eq := rfl
        idle_clean := fun installing => nomatch installing
        settled_iff := fun index listeners found => by simp [allSettled index listeners found]
        session_eq := fun _ same => by cases same; exact inv.session_eq _ active
        marks_eq := by simp [emit, List.filterMap_append, Output.mark, marks, Phase.session?]
        follows := launched.1
        last_ne := launched.2
        spawned := fun _ same => by
          cases same; exact ⟨_, _, List.mem_append_right _ (List.mem_singleton_self _)⟩
        succeeded := succeeded.push _ nofun
        installer_path := fun path found => ⟨_, tmpdir, randomHex, rfl, by simp [emit, started],
          (Option.some.inj (assigned.symm.trans found)).symm⟩
        spawns_own := spawnsOwn.push_spawn (by simp [started]) }
    · exact Invariant.returned allSettled (inv.session_eq _ active)
        (by simp [emit, List.filterMap_append, Output.mark, marks])
        (follows_install inv.follows inv.last_ne _ (.inr rfl)).1
        succeeded spawnsOwn (fun same => by simp at same)
  · exact inv

theorem Invariant.streamError (inv : utils.Invariant) (download : Nat) (message : String) :
    (utils.streamError download message).Invariant := by
  unfold UpdateUtils.streamError
  split
  · rename_i listeners found
    have inRange := (List.getElem?_eq_some_iff.mp found).1
    unfold UpdateUtils.settle
    simp only [List.getElem?_set_self inRange]
    split_ifs with settled
    · exact inv.frame rfl (getElem?_set_keeps found rfl rfl) (.inl rfl)
    have current := (inv.settled_iff download listeners found).mp (by simpa using settled)
    have active : utils.phase.session? = some listeners.session := by rw [current]; rfl
    exact Invariant.returned
      (inv.settled_of_set current _ (fun _ other => by simp [List.getElem?_set_ne (Ne.symm other)])
        (fun _ found' => by simp [List.getElem?_set_self inRange] at found'; rw [← found']))
      (inv.session_eq _ active) (by rw [inv.marks_eq, active])
      (follows_push inv.follows inv.last_ne (.startUpdateReturned (some listeners.session) _)
        trivial).1
      inv.succeeded inv.spawns_own (fun same => by simp at same)
  · exact inv

theorem Invariant.handle (inv : utils.Invariant) (floorPercent : Int → Int → Int) :
    ∀ event, (utils.handle floorPercent event).Invariant
  | .startUpdate tmpdir randomHex mkdirError => inv.startUpdate tmpdir randomHex mkdirError
  | .cancelUpdate => inv.cancelUpdate
  | .fetchRejected message => by
      dsimp only [UpdateUtils.handle]
      split
      · rename_i session fetching
        exact inv.returnWaiting (by rw [fetching]; rfl) (by simp [fetching]) _
          fun same => by simp [UpdateUtils.fail] at same
      · exact inv
  | .fetchResolved response => by
      dsimp only [UpdateUtils.handle]
      split
      · exact inv.fetchResolved ‹_› response
      · exact inv
  | .data download length => inv.data floorPercent download length
  | .fileStreamFinish download installerExists => inv.fileStreamFinish download installerExists
  | .fileStreamError download message | .bodyError download message =>
      inv.streamError download message
  | .installerError message => by
      dsimp only [UpdateUtils.handle]
      split
      · rename_i session installing
        exact inv.returnWaiting (by rw [installing]; rfl) (by simp [installing]) _
          fun same => by simp [UpdateUtils.installerError, UpdateUtils.fail] at same
      · exact inv
  | .installerSpawn => by
      dsimp only [UpdateUtils.handle]
      split
      · rename_i session installing
        exact inv.returnWaiting (by rw [installing]; rfl) (by simp [installing]) _
          fun _ => inv.spawned session installing
      · exact inv

end Invariant

theorem Invariant.foldl (floorPercent : Int → Int → Int) :
    ∀ (events : List Event) {utils : UpdateUtils}, utils.Invariant →
      (events.foldl (UpdateUtils.handle floorPercent) utils).Invariant
  | [], _, inv => inv
  | event :: rest, _, inv => Invariant.foldl floorPercent rest (inv.handle floorPercent event)

theorem invariant_run (floorPercent : Int → Int → Int) (isPortable : Bool) (appRootPath : String)
    (events : List Event) :
    (events.foldl (handle floorPercent) (init isPortable appRootPath)).Invariant :=
  Invariant.foldl floorPercent events (invariant_init isPortable appRootPath)

theorem handle_readonly (floorPercent : Int → Int → Int) (utils : UpdateUtils) (event : Event) :
    (utils.handle floorPercent event).isPortable = utils.isPortable ∧
      (utils.handle floorPercent event).appRootPath = utils.appRootPath := by
  cases event <;>
    simp only [handle, startUpdate, cancelUpdate, fetchResolved, data, fileStreamFinish,
      streamError, settle, downloadSettled, installUpdate] <;>
    repeat' split
  all_goals exact ⟨rfl, rfl⟩

theorem foldl_readonly (floorPercent : Int → Int → Int) :
    ∀ (events : List Event) (utils : UpdateUtils),
      (events.foldl (handle floorPercent) utils).isPortable = utils.isPortable ∧
        (events.foldl (handle floorPercent) utils).appRootPath = utils.appRootPath
  | [], _ => ⟨rfl, rfl⟩
  | event :: rest, utils =>
      have step := handle_readonly floorPercent utils event
      have run := foldl_readonly floorPercent rest (utils.handle floorPercent event)
      ⟨run.1.trans step.1, run.2.trans step.2⟩

/-! ## Over every run -/

/-- Over every run from a new object, the updates the object takes on and their results
alternate: each `startUpdate` call it takes on returns exactly once, before it takes on the
next, and `isUpdating()` is true exactly in between. While no update runs, the fields are as
the constructor left them. -/
theorem startUpdate_calls_alternate (floorPercent : Int → Int → Int) (isPortable : Bool)
    (appRootPath : String) (events : List Event) :
    let utils := events.foldl (handle floorPercent) (init isPortable appRootPath)
    (utils.isUpdating = false ∧ utils.log.filterMap Output.mark = bracket utils.sessions ∧
        utils.downloadAbortController = none ∧ utils.tempFolderPath = none ∧
        utils.tempInstallerPath = none) ∨
      (utils.isUpdating = true ∧ ∃ session, utils.sessions = session + 1 ∧
        utils.log.filterMap Output.mark = bracket session ++ [(true, session)]) := by
  intro utils
  have inv : utils.Invariant := invariant_run floorPercent isPortable appRootPath events
  have controller := inv.controller_eq
  have marks := inv.marks_eq
  cases phase : utils.phase with
  | idle =>
      refine .inl ⟨?_, ?_, ?_, inv.idle_clean phase⟩
      · rw [inv.isUpdating_eq, phase]; rfl
      · rw [marks, phase]; rfl
      · simpa [phase, Phase.downloadsInstaller] using controller
  | fetching session | downloading session _ | installing session =>
      have active : utils.phase.session? = some session := by rw [phase]; rfl
      refine .inr ⟨by rw [inv.isUpdating_eq, active]; rfl, session,
        (inv.session_eq session active).symm, by rw [marks, active]⟩

/-- Over every run, `cancelUpdate()` returns true exactly while the installer is being
downloaded: from the call of `fetch` until the promise over the response's body settles. -/
theorem cancelUpdate_returns_downloading (floorPercent : Int → Int → Int) (isPortable : Bool)
    (appRootPath : String) (events : List Event) :
    let utils := events.foldl (handle floorPercent) (init isPortable appRootPath)
    utils.cancelUpdate.log = utils.log ++ [.cancelUpdateReturned utils.phase.downloadsInstaller] := by
  intro utils
  have inv : utils.Invariant := invariant_run floorPercent isPortable appRootPath events
  have returned : (utils.isUpdating && utils.downloadAbortController.isSome) =
      utils.phase.downloadsInstaller := by
    rw [inv.controller_eq, inv.isUpdating_eq]; cases utils.phase <;> rfl
  rw [← returned]
  unfold UpdateUtils.cancelUpdate
  cases updating : utils.isUpdating <;> cases found : utils.downloadAbortController <;> rfl

/-- Over every run, the installer starts only in order: `onInstalling` of an update comes
only right after its report of 100% and right before it spawns the installer or returns that
the installer was not found, the installer is spawned only right after `onInstalling`, and an
update returns success only after it spawned the installer. -/
theorem installer_launch_order (floorPercent : Int → Int → Int) (isPortable : Bool)
    (appRootPath : String) (events : List Event) :
    let utils := events.foldl (handle floorPercent) (init isPortable appRootPath)
    utils.log.Chain' Follows ∧
      ∀ session, Output.startUpdateReturned (some session) ⟨true, none⟩ ∈ utils.log →
        ∃ command args, Output.spawn session command args ∈ utils.log :=
  have inv : (events.foldl (handle floorPercent) (init isPortable appRootPath)).Invariant :=
    invariant_run floorPercent isPortable appRootPath events
  ⟨inv.follows, inv.succeeded⟩

/-- Over every run, every installer the object spawns is `windhawk_setup.exe` in the random
folder that the same update created in the temporary directory, started with the arguments for
the mode the object was constructed with. -/
theorem installer_spawned_from_own_folder (floorPercent : Int → Int → Int) (isPortable : Bool)
    (appRootPath : String) (events : List Event) :
    SpawnsOwnInstaller isPortable appRootPath
      (events.foldl (handle floorPercent) (init isPortable appRootPath)).log := by
  have spawns := (invariant_run floorPercent isPortable appRootPath events).spawns_own
  obtain ⟨portable, root⟩ := foldl_readonly floorPercent events (init isPortable appRootPath)
  rwa [portable, root] at spawns

end UpdateUtils

end Windhawk.SelfUpdate
