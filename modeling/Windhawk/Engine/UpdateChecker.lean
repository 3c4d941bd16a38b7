import Windhawk.Js.Builtins

/-! The asynchronous `UpdateChecker` of `update_checker.cpp` (the constructor was given
`onUpdateCheckDone`): the primary POST request is in flight when the constructor returns.
Its completion runs `OnRequestDone` on a transport thread, which may retry with a GET
request; any number of `Abort` calls run on other threads. Every statement of
`OnRequestDone` and of `Abort` is one step, and `m_httpSimpleGetRequestMutex` is taken by
a step that waits while another thread holds it. The transport completes every request
that was sent once, aborted or not, and never a request whose creation or `SendRequest`
failed. -/

set_option autoImplicit false

namespace Windhawk.UpdateChecker

/-! ## Requests -/

def ERROR_WINHTTP_INVALID_HEADER : Nat := 12153

/-- `HRESULT_FROM_WIN32` on an error code: its low 16 bits, `FACILITY_WIN32` and the
failure bit, whose bits do not overlap, as a signed `HRESULT`. -/
def HRESULT_FROM_WIN32 (error : Nat) : Int :=
  if error = 0 then 0 else Js.toInt32 (error % 2 ^ 16 + 7 * 2 ^ 16 + 2 ^ 31)

structure RequestResult where
  hrError : Int
  httpStatusCode : Nat
  deriving DecidableEq, Repr

def ShouldRetryWithAGetRequest (result : RequestResult) : Bool :=
  result.hrError == HRESULT_FROM_WIN32 ERROR_WINHTTP_INVALID_HEADER && result.httpStatusCode == 405

/-- The fallback request `m_httpSimpleGetRequest`: constructed, sent and in flight, or
completed by the transport. -/
inductive RequestState where
  | created
  | inFlight
  | completed
  deriving DecidableEq, Repr

structure GetRequest where
  state : RequestState
  aborted : Bool
  deriving DecidableEq, Repr

/-! ## Threads -/

/-- The next statement of `OnRequestDone`; `waiting` until the primary request completes. -/
inductive RequestDonePc where
  | waiting
  | testRetry  -- if (ShouldRetryWithAGetRequest() && !m_aborted)
  | lockGuard  -- std::lock_guard<std::mutex> guard(m_httpSimpleGetRequestMutex)
  | testAborted  -- if (!m_aborted) under the mutex
  | makeRequest  -- m_httpSimpleGetRequest = std::make_unique<CWinHTTPSimple>(...)
  | sendRequest  -- THROW_IF_FAILED(m_httpSimpleGetRequest->SendRequest(...))
  | resetRequest  -- m_httpSimpleGetRequest.reset() in the catch
  | callDoneLocked  -- m_onUpdateCheckDone() in the catch
  | returnLocked  -- return, which releases the guard
  | releaseGuard  -- the end of the guard's scope after reading m_aborted set
  | callDone  -- the final m_onUpdateCheckDone()
  | returned
  deriving DecidableEq, Repr

/-- The next statement of one `Abort` call; `idle` until the call is made. -/
inductive AbortPc where
  | idle
  | setAborted  -- m_aborted = true
  | abortPrimary  -- m_httpSimple.Abort()
  | lockGuard  -- std::lock_guard<std::mutex> guard(m_httpSimpleGetRequestMutex)
  | abortRequest  -- if (m_httpSimpleGetRequest) m_httpSimpleGetRequest->Abort()
  | releaseGuard  -- the end of the guard's scope
  | returned
  deriving DecidableEq, Repr

inductive Holder where
  | requestDone
  | abort (call : Nat)
  deriving DecidableEq, Repr

/-- The shared state. `abortedRead` and `doneCalls` are ghost variables: the value of
`m_aborted` that `OnRequestDone` read under the mutex, and how many times
`m_onUpdateCheckDone` has been called. -/
structure State where
  primary : Option RequestResult
  primaryAborted : Bool
  aborted : Bool
  getRequest : Option GetRequest
  mutex : Option Holder
  requestDone : RequestDonePc
  aborts : Nat → AbortPc
  abortedRead : Option Bool
  doneCalls : Nat

def init : State := ⟨none, false, false, none, none, .waiting, fun _ => .idle, none, 0⟩

/-! ## Steps -/

/-- A step of some thread: the transport completing the primary request with any result or
the fallback request (whose callback calls `m_onUpdateCheckDone`), the next statement of
`OnRequestDone` (`succeeds` says whether the fallback request's construction or
`SendRequest` succeeds), a new `Abort` call from another thread, or the next statement of
one. -/
inductive Action where
  | completePrimary (result : RequestResult)
  | requestDone (succeeds : Bool)
  | completeGetRequest
  | callAbort (call : Nat)
  | abort (call : Nat)
  deriving DecidableEq, Repr

/-- One statement of `OnRequestDone`; `none` when it cannot run (waiting for the primary
request or for the mutex, or returned). -/
def requestDoneStep (s : State) (succeeds : Bool) : Option State :=
  match s.requestDone with
  | .waiting | .returned => none
  | .testRetry =>
      s.primary.map fun result =>
        { s with requestDone :=
            if ShouldRetryWithAGetRequest result && !s.aborted then .lockGuard else .callDone }
  | .lockGuard =>
      if s.mutex = none then some { s with mutex := some .requestDone, requestDone := .testAborted }
      else none
  | .testAborted =>
      some { s with abortedRead := some s.aborted,
                    requestDone := if !s.aborted then .makeRequest else .releaseGuard }
  | .makeRequest =>
      some (if succeeds then
          { s with getRequest := some ⟨.created, false⟩, requestDone := .sendRequest }
        else { s with requestDone := .resetRequest })
  | .sendRequest =>
      some (if succeeds then
          { s with getRequest := s.getRequest.map ({ · with state := .inFlight }),
                   requestDone := .returnLocked }
        else { s with requestDone := .resetRequest })
  | .resetRequest => some { s with getRequest := none, requestDone := .callDoneLocked }
  | .callDoneLocked => some { s with doneCalls := s.doneCalls + 1, requestDone := .returnLocked }
  | .returnLocked => some { s with mutex := none, requestDone := .returned }
  | .releaseGuard => some { s with mutex := none, requestDone := .callDone }
  | .callDone => some { s with doneCalls := s.doneCalls + 1, requestDone := .returned }

def abortStep (s : State) (call : Nat) : Option State :=
  let moveTo (pc : AbortPc) : Nat → AbortPc := Function.update s.aborts call pc
  match s.aborts call with
  | .idle | .returned => none
  | .setAborted => some { s with aborted := true, aborts := moveTo .abortPrimary }
  | .abortPrimary => some { s with primaryAborted := true, aborts := moveTo .lockGuard }
  | .lockGuard =>
      if s.mutex = none then some { s with mutex := some (.abort call), aborts := moveTo .abortRequest }
      else none
  | .abortRequest =>
      some { s with getRequest := s.getRequest.map ({ · with aborted := true }),
                    aborts := moveTo .releaseGuard }
  | .releaseGuard => some { s with mutex := none, aborts := moveTo .returned }

def step (s : State) : Action → Option State
  | .completePrimary result =>
      if s.primary = none then some { s with primary := some result, requestDone := .testRetry }
      else none
  | .requestDone succeeds => requestDoneStep s succeeds
  | .completeGetRequest =>
      match s.getRequest with
      | some request =>
          if request.state = .inFlight then
            some { s with getRequest := some { request with state := .completed },
                          doneCalls := s.doneCalls + 1 }
          else none
      | none => none
  | .callAbort call =>
      if s.aborts call = .idle then some { s with aborts := Function.update s.aborts call .setAborted }
      else none
  | .abort call => abortStep s call

inductive Reachable : State → Prop where
  | init : Reachable init
  | step {s s' : State} (action : Action) : Reachable s → step s action = some s' → Reachable s'

def run (s : State) : List Action → Option State
  | [] => some s
  | action :: rest => (step s action).bind fun s' => run s' rest

theorem reachable_run {s s' : State} (reachable : Reachable s) :
    ∀ {actions : List Action}, run s actions = some s' → Reachable s'
  | [], ran => by cases ran; exact reachable
  | action :: rest, ran => by
      simp only [run, Option.bind_eq_some] at ran
      obtain ⟨next, stepped, ran⟩ := ran
      exact reachable_run (.step action reachable stepped) ran

/-! ## The invariant -/

namespace RequestDonePc

def Locked : RequestDonePc → Bool
  | .testAborted | .makeRequest | .sendRequest | .resetRequest | .callDoneLocked | .returnLocked
  | .releaseGuard => true
  | _ => false

def ReadClear : RequestDonePc → Bool
  | .makeRequest | .sendRequest | .resetRequest | .callDoneLocked | .returnLocked => true
  | _ => false

/-- The primary request, the state of the fallback request and the calls of
`m_onUpdateCheckDone` so far, in every phase of `OnRequestDone`. Until it returns nothing
has been called; from `returnLocked` on, the call was made, or the fallback request is in
flight and owes it. -/
def Progress : RequestDonePc → Option RequestResult → Option RequestState → Nat → Prop
  | .waiting, primary, request, doneCalls => primary = none ∧ request = none ∧ doneCalls = 0
  | .testRetry, primary, request, doneCalls | .callDoneLocked, primary, request, doneCalls
  | .releaseGuard, primary, request, doneCalls | .callDone, primary, request, doneCalls =>
      primary.isSome ∧ request = none ∧ doneCalls = 0
  | .lockGuard, primary, request, doneCalls | .testAborted, primary, request, doneCalls
  | .makeRequest, primary, request, doneCalls =>
      (∃ result, primary = some result ∧ ShouldRetryWithAGetRequest result) ∧ request = none ∧
        doneCalls = 0
  | .sendRequest, primary, request, doneCalls =>
      primary.isSome ∧ request = some .created ∧ doneCalls = 0
  | .resetRequest, primary, request, doneCalls =>
      primary.isSome ∧ (request = none ∨ request = some .created) ∧ doneCalls = 0
  | .returnLocked, primary, request, doneCalls | .returned, primary, request, doneCalls =>
      primary.isSome ∧
        (request = some .inFlight ∧ doneCalls = 0 ∨ request ≠ some .inFlight ∧
          request ≠ some .created ∧ doneCalls = 1)

end RequestDonePc

namespace AbortPc

def Locked : AbortPc → Bool
  | .abortRequest | .releaseGuard => true
  | _ => false

def Started : AbortPc → Bool
  | .idle | .setAborted => false
  | _ => true

def BeforeLock : AbortPc → Bool
  | .idle | .setAborted | .abortPrimary | .lockGuard => true
  | _ => false

def AbortedRequest : AbortPc → Bool
  | .releaseGuard | .returned => true
  | _ => false

theorem beforeLock_of_not_started {pc : AbortPc} (notStarted : pc.Started = false) :
    pc.BeforeLock = true := by
  cases pc <;> simp_all [Started, BeforeLock]

theorem not_abortedRequest_of_beforeLock {pc : AbortPc} (before : pc.BeforeLock = true) :
    pc.AbortedRequest = false := by
  cases pc <;> simp_all [AbortedRequest, BeforeLock]

end AbortPc

def State.requestState (s : State) : Option RequestState := s.getRequest.map (·.state)

structure Invariant (s : State) : Prop where
  progress : s.requestDone.Progress s.primary s.requestState s.doneCalls
  mutex_requestDone : s.mutex = some .requestDone ↔ s.requestDone.Locked
  mutex_abort : ∀ call, s.mutex = some (.abort call) ↔ (s.aborts call).Locked
  aborted_of_started : ∀ call, (s.aborts call).Started → s.aborted = true
  readClear : s.requestDone.ReadClear →
    s.abortedRead = some false ∧ ∀ call, (s.aborts call).BeforeLock
  abortedRequest : ∀ call, (s.aborts call).AbortedRequest → ∀ r ∈ s.getRequest, r.aborted

theorem RequestDonePc.locked_of_readClear {pc : RequestDonePc} (clear : pc.ReadClear) :
    pc.Locked := by
  cases pc <;> first | rfl | cases clear

theorem RequestDonePc.progress_primary_none {pc : RequestDonePc} {request : Option RequestState}
    {doneCalls : Nat} (progress : pc.Progress none request doneCalls) :
    pc = .waiting ∧ request = none ∧ doneCalls = 0 := by
  cases pc <;> simp_all [RequestDonePc.Progress]

theorem RequestDonePc.progress_inFlight {pc : RequestDonePc} {primary : Option RequestResult}
    {doneCalls : Nat} (progress : pc.Progress primary (some .inFlight) doneCalls) :
    (pc = .returnLocked ∨ pc = .returned) ∧ primary.isSome ∧ doneCalls = 0 := by
  cases pc <;> simp_all [RequestDonePc.Progress]

theorem RequestDonePc.progress_doneCalls_le {pc : RequestDonePc} {primary : Option RequestResult}
    {request : Option RequestState} {doneCalls : Nat}
    (progress : pc.Progress primary request doneCalls) : doneCalls ≤ 1 := by
  cases pc <;> simp only [RequestDonePc.Progress] at progress <;> omega

/-! ## Every step keeps the invariant -/

private theorem mutex_abort_release (s : State) (held : s.mutex = some .requestDone)
    (mutex_abort : ∀ call, s.mutex = some (.abort call) ↔ (s.aborts call).Locked) :
    ∀ call, (none : Option Holder) = some (.abort call) ↔ (s.aborts call).Locked := fun call => by
  simp [← mutex_abort call, held]

theorem requestDoneStep_invariant {s s' : State} {succeeds : Bool} (inv : Invariant s)
    (stepped : requestDoneStep s succeeds = some s') : Invariant s' := by
  obtain ⟨progress, mutex_requestDone, mutex_abort, aborted_of_started, readClear,
    abortedRequest⟩ := inv
  unfold requestDoneStep at stepped
  cases pc : s.requestDone <;> rw [pc] at progress mutex_requestDone readClear <;>
    simp only [pc] at stepped
  case waiting | returned => cases stepped
  case testRetry =>
    obtain ⟨result, found, rfl⟩ := Option.map_eq_some'.mp stepped
    obtain ⟨-, request, done⟩ := progress
    split
    · case isTrue retry =>
        exact ⟨⟨⟨result, found, ((Bool.and_eq_true _ _).mp retry).1⟩, request, done⟩,
          mutex_requestDone, mutex_abort, aborted_of_started, nofun, abortedRequest⟩
    · exact ⟨⟨by simp [found], request, done⟩, mutex_requestDone, mutex_abort,
        aborted_of_started, nofun, abortedRequest⟩
  case lockGuard =>
    split at stepped
    · cases stepped
      rename_i free
      refine ⟨progress, ?_, ?_, aborted_of_started, nofun, abortedRequest⟩
      · simp [RequestDonePc.Locked]
      · intro call; simp [← mutex_abort call, free]
    · cases stepped
  case testAborted =>
    cases stepped
    obtain ⟨⟨result, found, _⟩, request, done⟩ := progress
    cases aborted : s.aborted <;> rw [aborted] at aborted_of_started
    · refine ⟨⟨⟨result, found, ‹_›⟩, request, done⟩, mutex_requestDone, mutex_abort,
        aborted_of_started, fun _ => ⟨rfl, fun call => ?_⟩, abortedRequest⟩
      cases started : (s.aborts call).Started
      · exact AbortPc.beforeLock_of_not_started started
      · exact absurd (aborted_of_started call started) Bool.false_ne_true
    · exact ⟨⟨by simp [found], request, done⟩, mutex_requestDone, mutex_abort,
        aborted_of_started, nofun, abortedRequest⟩
  case makeRequest =>
    obtain ⟨⟨result, found, _⟩, request, done⟩ := progress
    cases succeeds <;> cases stepped
    · exact ⟨⟨by simp [found], .inl request, done⟩, mutex_requestDone, mutex_abort,
        aborted_of_started, readClear, abortedRequest⟩
    · refine ⟨⟨by simp [found], rfl, done⟩, mutex_requestDone, mutex_abort, aborted_of_started,
        readClear, fun call past => ?_⟩
      have before := AbortPc.not_abortedRequest_of_beforeLock ((readClear rfl).2 call)
      exact absurd (before.symm.trans past) Bool.false_ne_true
  case sendRequest =>
    obtain ⟨primary, request, done⟩ := progress
    cases succeeds <;> cases stepped
    · exact ⟨⟨primary, .inr request, done⟩, mutex_requestDone, mutex_abort, aborted_of_started,
        readClear, abortedRequest⟩
    · refine ⟨⟨primary, .inl ⟨?_, done⟩⟩, mutex_requestDone, mutex_abort, aborted_of_started,
        readClear, fun call past r found => ?_⟩
      · obtain ⟨original, inside, _⟩ := Option.map_eq_some'.mp request
        show (s.getRequest.map _).map _ = _
        rw [inside]
        rfl
      · obtain ⟨original, inside, rfl⟩ := Option.map_eq_some'.mp found
        exact abortedRequest call past original inside
  case resetRequest =>
    obtain ⟨primary, -, done⟩ := progress
    cases stepped
    exact ⟨⟨primary, rfl, done⟩, mutex_requestDone, mutex_abort, aborted_of_started, readClear,
      nofun⟩
  case callDoneLocked =>
    obtain ⟨primary, request, done⟩ := progress
    cases stepped
    exact ⟨⟨primary, .inr ⟨request ▸ nofun, request ▸ nofun, by rw [done]⟩⟩,
      mutex_requestDone, mutex_abort, aborted_of_started, readClear, abortedRequest⟩
  case returnLocked | releaseGuard =>
    cases stepped
    exact ⟨progress, by simp [RequestDonePc.Locked], mutex_abort_release s
      (mutex_requestDone.mpr rfl) mutex_abort, aborted_of_started, nofun, abortedRequest⟩
  case callDone =>
    obtain ⟨primary, request, done⟩ := progress
    cases stepped
    exact ⟨⟨primary, .inr ⟨request ▸ nofun, request ▸ nofun, by rw [done]⟩⟩,
      mutex_requestDone, mutex_abort, aborted_of_started, nofun, abortedRequest⟩

private theorem mutex_abort_move {s : State} {call : Nat} {pc : AbortPc}
    (mutex_abort : ∀ call, s.mutex = some (.abort call) ↔ (s.aborts call).Locked)
    (sameLock : pc.Locked = (s.aborts call).Locked) :
    ∀ other, s.mutex = some (.abort other) ↔ (Function.update s.aborts call pc other).Locked := by
  intro other
  by_cases same : other = call
  · subst same; simp [sameLock, mutex_abort]
  · simp [same, mutex_abort]

private theorem forall_update {aborts : Nat → AbortPc} {call : Nat} {pc : AbortPc}
    {holds : AbortPc → Bool} (before : ∀ call, holds (aborts call)) (moved : holds pc) :
    ∀ other, holds (Function.update aborts call pc other) := by
  intro other
  by_cases same : other = call
  · subst same; simpa using moved
  · simpa [same] using before other

private theorem abortedRequest_update {aborts : Nat → AbortPc} {call other : Nat} {pc : AbortPc}
    (past : (Function.update aborts call pc other).AbortedRequest)
    (fresh : pc.AbortedRequest = false) :
    (aborts other).AbortedRequest := by
  by_cases same : other = call
  · subst same; simp [fresh] at past
  · simpa [same] using past

theorem abortStep_invariant {s s' : State} {call : Nat} (inv : Invariant s)
    (stepped : abortStep s call = some s') : Invariant s' := by
  obtain ⟨progress, mutex_requestDone, mutex_abort, aborted_of_started, readClear,
    abortedRequest⟩ := inv
  unfold abortStep at stepped
  cases pc : s.aborts call <;> simp only [pc] at stepped
  case idle | returned => cases stepped
  case setAborted =>
    cases stepped
    exact ⟨progress, mutex_requestDone, mutex_abort_move mutex_abort (by rw [pc]; rfl),
      fun _ _ => rfl, fun clear => ⟨(readClear clear).1, forall_update (readClear clear).2 rfl⟩,
      fun other past => abortedRequest other (abortedRequest_update past rfl)⟩
  case abortPrimary =>
    cases stepped
    exact ⟨progress, mutex_requestDone, mutex_abort_move mutex_abort (by rw [pc]; rfl),
      fun _ _ => aborted_of_started call (by rw [pc]; rfl),
      fun clear => ⟨(readClear clear).1, forall_update (readClear clear).2 rfl⟩,
      fun other past => abortedRequest other (abortedRequest_update past rfl)⟩
  case lockGuard =>
    split at stepped
    · cases stepped
      rename_i free
      have unlocked : s.requestDone.Locked = false := by simpa [free] using mutex_requestDone
      refine ⟨progress, by simpa [free] using mutex_requestDone, fun other => ?_,
        fun _ _ => aborted_of_started call (by rw [pc]; rfl), fun clear => ?_,
        fun other past => abortedRequest other (abortedRequest_update past rfl)⟩
      · by_cases same : other = call
        · subst same; simp [AbortPc.Locked]
        · simp [same, Ne.symm same, ← mutex_abort other, free]
      · simp [RequestDonePc.locked_of_readClear clear] at unlocked
    · cases stepped
  case abortRequest =>
    cases stepped
    have held : s.mutex = some (.abort call) := (mutex_abort call).mpr (by rw [pc]; rfl)
    have unchanged : (s.getRequest.map fun r => { r with aborted := true }).map (·.state) =
        s.requestState := by
      unfold State.requestState; cases s.getRequest <;> rfl
    refine ⟨?_, mutex_requestDone, mutex_abort_move mutex_abort (by rw [pc]; rfl),
      fun _ _ => aborted_of_started call (by rw [pc]; rfl), fun clear => ?_,
      fun _ _ r inside => ?_⟩
    · show RequestDonePc.Progress _ _ ((s.getRequest.map _).map _) _
      rw [unchanged]
      exact progress
    · have := mutex_requestDone.mpr (RequestDonePc.locked_of_readClear clear)
      simp [held] at this
    · obtain ⟨original, _, rfl⟩ := Option.map_eq_some'.mp inside
      rfl
  case releaseGuard =>
    cases stepped
    have held : s.mutex = some (.abort call) := (mutex_abort call).mpr (by rw [pc]; rfl)
    have unlocked : s.requestDone.Locked = false := by simpa [held] using mutex_requestDone
    refine ⟨progress, by simpa using unlocked, fun other => ?_,
      fun _ _ => aborted_of_started call (by rw [pc]; rfl), fun clear => ?_,
      fun other past => abortedRequest other ?_⟩
    · by_cases same : other = call
      · subst same; simp [AbortPc.Locked]
      · simp [same, ← mutex_abort other, held, Ne.symm same]
    · simp [RequestDonePc.locked_of_readClear clear] at unlocked
    · by_cases same : other = call
      · subst same; rw [pc]; rfl
      · simpa [same] using past

theorem init_invariant : Invariant init :=
  ⟨⟨rfl, rfl, rfl⟩, by simp [init, RequestDonePc.Locked], fun _ => by simp [init, AbortPc.Locked],
    nofun, nofun, nofun⟩

theorem step_invariant {s s' : State} {action : Action} (inv : Invariant s)
    (stepped : step s action = some s') : Invariant s' := by
  cases action with
  | requestDone succeeds => exact requestDoneStep_invariant inv stepped
  | abort call => exact abortStep_invariant inv stepped
  | _ => ?_
  all_goals obtain ⟨progress, mutex_requestDone, mutex_abort, aborted_of_started, readClear,
    abortedRequest⟩ := inv
  case completePrimary result =>
      simp only [step] at stepped
      split at stepped
      · cases stepped
        rename_i waiting
        rw [waiting] at progress
        obtain ⟨pc, request, done⟩ := RequestDonePc.progress_primary_none progress
        rw [pc] at mutex_requestDone readClear
        exact ⟨⟨rfl, request, done⟩, mutex_requestDone, mutex_abort, aborted_of_started, nofun,
          abortedRequest⟩
      · cases stepped
  case completeGetRequest =>
      simp only [step] at stepped
      split at stepped
      · rename_i request found
        split at stepped
        · cases stepped
          rename_i inFlight
          have requestState : s.requestState = some .inFlight := by
            simp [State.requestState, found, inFlight]
          rw [requestState] at progress
          obtain ⟨pc, primary, done⟩ := RequestDonePc.progress_inFlight progress
          refine ⟨?_, mutex_requestDone, mutex_abort, aborted_of_started, readClear,
            fun call past r inside => ?_⟩
          · show RequestDonePc.Progress _ _ (some .completed) _
            rcases pc with pc | pc <;> rw [pc] <;> exact ⟨primary, .inr ⟨nofun, nofun, by rw [done]⟩⟩
          · cases inside
            exact abortedRequest call past request found
        · cases stepped
      · cases stepped
  case callAbort call =>
      simp only [step] at stepped
      split at stepped
      · cases stepped
        rename_i idle
        refine ⟨progress, mutex_requestDone, mutex_abort_move mutex_abort (by rw [idle]; rfl),
          fun other started => ?_, fun clear => ⟨(readClear clear).1, forall_update
            (readClear clear).2 rfl⟩, fun other past => abortedRequest other
            (abortedRequest_update past rfl)⟩
        by_cases same : other = call
        · subst same; simp [AbortPc.Started] at started
        · exact aborted_of_started other (by simpa [same] using started)
      · cases stepped

theorem reachable_invariant {s : State} (reachable : Reachable s) : Invariant s := by
  induction reachable with
  | init => exact init_invariant
  | step _ _ stepped inv => exact step_invariant inv stepped

/-! ## Where a fallback request comes from -/

/-- Only a successful `make_unique` in `OnRequestDone` brings a fallback request into
being. -/
theorem makeRequest_of_creates {s s' : State} {action : Action} (stepped : step s action = some s')
    (absent : s.getRequest = none) (present : s'.getRequest ≠ none) :
    action = .requestDone true ∧ s.requestDone = .makeRequest := by
  cases action with
  | completePrimary result =>
      simp only [step] at stepped
      split at stepped <;> cases stepped
      exact absurd absent present
  | requestDone succeeds =>
      unfold step requestDoneStep at stepped
      cases pc : s.requestDone <;> simp only [pc] at stepped
      case waiting | returned => cases stepped
      case testRetry =>
        obtain ⟨_, _, rfl⟩ := Option.map_eq_some'.mp stepped
        exact absurd absent present
      case lockGuard =>
        split at stepped <;> cases stepped
        exact absurd absent present
      case makeRequest =>
        cases succeeds <;> cases stepped
        · exact absurd absent present
        · exact ⟨rfl, rfl⟩
      case sendRequest =>
        cases succeeds <;> cases stepped <;> simp [absent] at present
      all_goals (cases stepped; simp [absent] at present)
  | completeGetRequest =>
      simp [step, absent] at stepped
  | callAbort call =>
      simp only [step] at stepped
      split at stepped <;> cases stepped
      exact absurd absent present
  | abort call =>
      unfold step abortStep at stepped
      cases pc : s.aborts call <;> simp only [pc] at stepped
      case idle | returned => cases stepped
      case lockGuard => split at stepped <;> cases stepped; exact absurd absent present
      all_goals (cases stepped; simp [absent] at present)

/-! ## What every interleaving guarantees -/

/-- The update check is over: `OnRequestDone` returned and no fallback request is still
in flight. -/
def Finished (s : State) : Prop := s.requestDone = .returned ∧ s.requestState ≠ some .inFlight

instance (s : State) : Decidable (Finished s) := inferInstanceAs (Decidable (_ ∧ _))

/-! ## Progress

`OnRequestDone` is never stuck: in every reachable state it can run its next statement, or
the transport can complete the request it waits for, or the `Abort` call holding the mutex
can release it. Each of these moves it down its statement list, so the check ends. -/

theorem run_append (s : State) (first second : List Action) :
    run s (first ++ second) = (run s first).bind fun s' => run s' second := by
  induction first generalizing s with
  | nil => rfl
  | cons action rest ih =>
      simp only [List.cons_append, run]
      cases step s action with
      | none => rfl
      | some s' => exact ih s'

theorem run_singleton (s : State) (action : Action) : run s [action] = step s action := by
  simp [run]

/-- A step of `OnRequestDone`, of the transport or of an `Abort` call already made, where
the transport reports `result` for the primary request and creating and sending the
fallback request succeeds exactly when `succeeds`. -/
def Action.Continues (result : RequestResult) (succeeds : Bool) : Action → Prop
  | .completePrimary reported => reported = result
  | .requestDone outcome => outcome = succeeds
  | .completeGetRequest | .abort _ => True
  | .callAbort _ => False

/-- The statements `OnRequestDone` has left, on its longest path. -/
def RequestDonePc.remaining : RequestDonePc → Nat
  | .waiting => 9
  | .testRetry => 8
  | .lockGuard => 7
  | .testAborted => 6
  | .makeRequest => 5
  | .sendRequest => 4
  | .resetRequest => 3
  | .callDoneLocked | .releaseGuard => 2
  | .returnLocked | .callDone => 1
  | .returned => 0

theorem requestDoneStep_remaining {s s' : State} {succeeds : Bool}
    (stepped : requestDoneStep s succeeds = some s') :
    s'.requestDone.remaining < s.requestDone.remaining := by
  unfold requestDoneStep at stepped
  cases pc : s.requestDone <;> simp only [pc] at stepped
  case waiting | returned => cases stepped
  case testRetry =>
    obtain ⟨_, _, rfl⟩ := Option.map_eq_some'.mp stepped
    split <;> simp [RequestDonePc.remaining]
  case lockGuard => split at stepped <;> cases stepped; simp [RequestDonePc.remaining]
  case testAborted => cases stepped; split <;> simp [RequestDonePc.remaining]
  all_goals cases succeeds <;> cases stepped <;> simp [RequestDonePc.remaining]

theorem Invariant.requestDoneStep_isSome {s : State} (inv : Invariant s) (succeeds : Bool)
    (running : s.requestDone ≠ .waiting ∧ s.requestDone ≠ .returned)
    (free : s.requestDone = .lockGuard → s.mutex = none) :
    (requestDoneStep s succeeds).isSome := by
  have progress := inv.progress
  unfold requestDoneStep
  cases pc : s.requestDone <;> rw [pc] at progress running free
  case waiting | returned => simp at running
  case testRetry => simpa using progress.1
  case lockGuard => simp [free rfl]
  all_goals cases succeeds <;> rfl

theorem Invariant.release {s : State} (inv : Invariant s) {call : Nat}
    (held : s.mutex = some (.abort call)) :
    ∃ actions, (∀ action ∈ actions, action = .abort call) ∧ ∃ s', run s actions = some s' ∧
      s'.mutex = none ∧ s'.requestDone = s.requestDone := by
  have locked := (inv.mutex_abort call).mp held
  cases pc : s.aborts call <;> rw [pc] at locked <;> cases locked
  case abortRequest =>
    refine ⟨[.abort call, .abort call], by simp, ?_⟩
    simp [run, step, abortStep, pc]
  case releaseGuard =>
    refine ⟨[.abort call], by simp, ?_⟩
    simp [run, step, abortStep, pc]

theorem Invariant.stepRequestDone {s : State} (inv : Invariant s) (succeeds : Bool)
    (notWaiting : s.requestDone ≠ .waiting) (running : s.requestDone ≠ .returned)
    (free : s.requestDone = .lockGuard → s.mutex = none) :
    ∃ s', run s [.requestDone succeeds] = some s' ∧
      s'.requestDone.remaining < s.requestDone.remaining := by
  obtain ⟨s', stepped⟩ := Option.isSome_iff_exists.mp
    (inv.requestDoneStep_isSome succeeds ⟨notWaiting, running⟩ free)
  exact ⟨s', by rw [run_singleton]; exact stepped, requestDoneStep_remaining stepped⟩

theorem advance {s : State} (reachable : Reachable s) (result : RequestResult) (succeeds : Bool)
    (running : s.requestDone ≠ .returned) :
    ∃ actions s', (∀ action ∈ actions, action.Continues result succeeds) ∧
      run s actions = some s' ∧ s'.requestDone.remaining < s.requestDone.remaining := by
  have inv := reachable_invariant reachable
  by_cases waiting : s.requestDone = .waiting
  · have primary : s.primary = none := by
      have progress := inv.progress
      rw [waiting] at progress
      exact progress.1
    exact ⟨[.completePrimary result], { s with primary := some result, requestDone := .testRetry },
      by simp [Action.Continues], by simp [run_singleton, step, primary],
      by simp [waiting, RequestDonePc.remaining]⟩
  by_cases blocked : s.requestDone = .lockGuard ∧ s.mutex ≠ none
  · obtain ⟨guard, held⟩ := blocked
    obtain ⟨holder, holding⟩ := Option.ne_none_iff_exists'.mp held
    cases holder with
    | requestDone =>
        have locked := inv.mutex_requestDone.mp holding
        rw [guard] at locked
        cases locked
    | abort call =>
        obtain ⟨releasing, aborting, released, ran, free, same⟩ := inv.release holding
        obtain ⟨s', stepped, smaller⟩ := (reachable_invariant (reachable_run reachable ran)).stepRequestDone
          succeeds (same ▸ waiting) (same ▸ running) fun _ => free
        refine ⟨releasing ++ [.requestDone succeeds], s',
          List.forall_mem_append.mpr ⟨fun action earlier => aborting action earlier ▸ trivial,
            by simp [Action.Continues]⟩,
          by rw [run_append, ran]; exact stepped, same ▸ smaller⟩
  · obtain ⟨s', stepped, smaller⟩ := inv.stepRequestDone succeeds waiting running
      fun guard => not_not.mp (not_and.mp blocked guard)
    exact ⟨[.requestDone succeeds], s', by simp [Action.Continues], stepped, smaller⟩

theorem finish_of_returned {s : State} (returned : s.requestDone = .returned)
    (result : RequestResult) (succeeds : Bool) :
    ∃ actions final, (∀ action ∈ actions, action.Continues result succeeds) ∧
      run s actions = some final ∧ Finished final := by
  by_cases finished : Finished s
  · exact ⟨[], s, nofun, rfl, finished⟩
  have inFlight : s.requestState = some .inFlight := by
    by_contra settled
    exact finished ⟨returned, settled⟩
  obtain ⟨request, found, state⟩ := Option.map_eq_some'.mp inFlight
  refine ⟨[.completeGetRequest],
    { s with getRequest := some { request with state := .completed }, doneCalls := s.doneCalls + 1 },
    by simp [Action.Continues], ?_, returned, by simp [State.requestState]⟩
  rw [run_singleton]
  simp [step, found, state]

theorem reaches_finished (result : RequestResult) (succeeds : Bool) :
    ∀ (bound : Nat) (s : State), Reachable s → s.requestDone.remaining ≤ bound →
      ∃ actions final, (∀ action ∈ actions, action.Continues result succeeds) ∧
        run s actions = some final ∧ Finished final
  | bound, s, reachable, within => by
      by_cases returned : s.requestDone = .returned
      · exact finish_of_returned returned result succeeds
      obtain ⟨actions, s', continues, ran, smaller⟩ := advance reachable result succeeds returned
      match bound with
      | 0 => omega
      | bound + 1 =>
          obtain ⟨rest, final, continues', ran', finished⟩ :=
            reaches_finished result succeeds bound s' (reachable_run reachable ran) (by omega)
          exact ⟨actions ++ rest, final, List.forall_mem_append.mpr ⟨continues, continues'⟩,
            by rw [run_append, ran]; exact ran', finished⟩

/-- `m_onUpdateCheckDone` runs at most once, and exactly once when the check is over; from
every reachable state, whatever the transport reports for the primary request and whether or
not the fallback request can be created and sent, steps of `OnRequestDone`, of the transport
and of the `Abort` calls already made end the check; a fallback request is created only after
`ShouldRetryWithAGetRequest` held and `m_aborted` was read clear under the mutex, which is
still held; and once an `Abort` call has returned, every fallback request there is has been
aborted. -/
theorem callsDoneOnce_and_abortStopsFallback :
    (∀ s, Reachable s → s.doneCalls ≤ 1) ∧
    (∀ s, Reachable s → Finished s → s.doneCalls = 1) ∧
    (∀ s result succeeds, Reachable s → ∃ actions final,
      (∀ action ∈ actions, action.Continues result succeeds) ∧ run s actions = some final ∧
        Finished final) ∧
    (∀ s s' action, Reachable s → step s action = some s' → s.getRequest = none →
      s'.getRequest ≠ none →
        (∃ result, s.primary = some result ∧ ShouldRetryWithAGetRequest result = true) ∧
          s.mutex = some .requestDone ∧ s.abortedRead = some false) ∧
    (∀ s call, Reachable s → s.aborts call = .returned → ∀ r ∈ s.getRequest, r.aborted = true) := by
  refine ⟨fun s reachable => ?_, fun s reachable ⟨returned, settled⟩ => ?_,
    fun s result succeeds reachable => reaches_finished result succeeds _ s reachable le_rfl,
    fun s s' action reachable stepped absent present => ?_,
    fun s call reachable returned => (reachable_invariant reachable).abortedRequest call
      (by rw [returned]; rfl)⟩
  · exact RequestDonePc.progress_doneCalls_le (reachable_invariant reachable).progress
  · have progress := (reachable_invariant reachable).progress
    rw [returned] at progress
    obtain ⟨-, ⟨inFlight, -⟩ | ⟨-, -, done⟩⟩ := progress
    · exact absurd inFlight settled
    · exact done
  · obtain ⟨-, making⟩ := makeRequest_of_creates stepped absent present
    have inv := reachable_invariant reachable
    have progress := inv.progress
    rw [making] at progress
    exact ⟨progress.1, inv.mutex_requestDone.mpr (by rw [making]; rfl),
      (inv.readClear (by rw [making]; rfl)).1⟩

def abortDuringFallback : List Action := [
  .completePrimary ⟨HRESULT_FROM_WIN32 ERROR_WINHTTP_INVALID_HEADER, 405⟩,
  .requestDone true, .requestDone true, .requestDone true, .requestDone true,
  .callAbort 0, .abort 0, .abort 0,
  .requestDone true, .requestDone true,
  .abort 0, .abort 0, .abort 0,
  .completeGetRequest]

theorem callsDoneOnce_and_abortStopsFallback_schedule :
    ∃ s s' final, run init (abortDuringFallback.take 4) = some s ∧
      step s (.requestDone true) = some s' ∧ s.getRequest = none ∧ s'.getRequest ≠ none ∧
      s.abortedRead = some false ∧
      run init abortDuringFallback = some final ∧ Finished final ∧ final.doneCalls = 1 ∧
      final.aborts 0 = .returned ∧ (∀ r ∈ final.getRequest, r.aborted = true) ∧
      ∃ actions ended, (∀ action ∈ actions, action.Continues ⟨0, 200⟩ false) ∧
        run s actions = some ended ∧ Finished ended := by
  obtain ⟨s, s', final, beforeMake, made, absent, present, ran, finished, returned⟩ :
      ∃ s s' final, run init (abortDuringFallback.take 4) = some s ∧
        step s (.requestDone true) = some s' ∧ s.getRequest = none ∧ s'.getRequest ≠ none ∧
        run init abortDuringFallback = some final ∧ Finished final ∧
        final.aborts 0 = .returned :=
    ⟨_, _, _, rfl, rfl, rfl, nofun, rfl, by decide, rfl⟩
  have reachable := reachable_run .init ran
  have reachableBefore := reachable_run .init beforeMake
  exact ⟨s, s', final, beforeMake, made, absent, present,
    (callsDoneOnce_and_abortStopsFallback.2.2.2.1 s s' _ reachableBefore made absent present).2.2,
    ran, finished, callsDoneOnce_and_abortStopsFallback.2.1 final reachable finished, returned,
    callsDoneOnce_and_abortStopsFallback.2.2.2.2 final 0 reachable returned,
    callsDoneOnce_and_abortStopsFallback.2.2.1 s ⟨0, 200⟩ false reachableBefore⟩

end Windhawk.UpdateChecker
