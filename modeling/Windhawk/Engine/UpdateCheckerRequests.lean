import Windhawk.Engine.UpdateChecker

/-! The requests of `update_checker.cpp` and how their outcome is read: the options
`GetUpdateCheckerOptions` builds, the requests the constructor sends when it is given no
`onUpdateCheckDone`, and `HandleResponse`. The primary request posts the local usage data
when there is any; the fallback request is always a plain request with no body. -/

set_option autoImplicit false

namespace Windhawk.UpdateChecker

/-! ## Request options -/

def kUpdateCheckerUrl : String := "https://update.windhawk.net/versions.json"

/-- The fields of `CWinHTTPSimpleOptions` the update checker sets. `sVerb` is `none` where
the options keep their default verb; `lpOptional` is the request body, with its size. -/
structure CWinHTTPSimpleOptions where
  sURL : String
  sUserAgent : String
  sVerb : Option String
  lpOptional : Option String
  deriving DecidableEq, Repr

/-- What the build and the machine supply: `VER_FILE_VERSION_WSTR` and
`GetNativeMachine()`. -/
structure Host where
  fileVersion : String
  nativeMachine : Nat

structure Flags where
  portable : Bool

def GetUpdateCheckerOptions (host : Host) (flags : Flags) (postData : Option String) :
    CWinHTTPSimpleOptions :=
  let body := postData.filter (·.length > 0)
  { sURL := kUpdateCheckerUrl
    sUserAgent := "Windhawk/" ++ host.fileVersion ++ " (" ++ toString host.nativeMachine ++
      (if flags.portable then "; portable" else "") ++ ")"
    sVerb := body.map fun _ => "POST"
    lpOptional := body }

structure Request where
  options : CWinHTTPSimpleOptions
  headers : List String
  async : Bool
  deriving DecidableEq, Repr

def primaryRequest (host : Host) (flags : Flags) (postedData : String) (async : Bool) :
    Request :=
  ⟨GetUpdateCheckerOptions host flags (some postedData),
    if postedData ≠ "" then ["Content-Type: application/json"] else [], async⟩

def fallbackRequest (host : Host) (flags : Flags) (async : Bool) : Request :=
  ⟨GetUpdateCheckerOptions host flags none, [], async⟩

def synchronousRequests (host : Host) (flags : Flags) (postedData : String)
    (primary : RequestResult) : List Request :=
  primaryRequest host flags postedData false ::
    if ShouldRetryWithAGetRequest primary then [fallbackRequest host flags false] else []

/-- The primary request posts the usage data as JSON when there is any and is a plain
request otherwise; the fallback request has no body and no header, and goes to the same
place with the same user agent. -/
theorem primaryRequest_fallbackRequest (host : Host) (flags : Flags) (postedData : String)
    (async : Bool) :
    ((primaryRequest host flags postedData async).options.sVerb =
        if postedData = "" then none else some "POST") ∧
      ((primaryRequest host flags postedData async).options.lpOptional =
        if postedData = "" then none else some postedData) ∧
      ((primaryRequest host flags postedData async).headers =
        if postedData = "" then [] else ["Content-Type: application/json"]) ∧
      (fallbackRequest host flags async).options =
        { (primaryRequest host flags postedData async).options with
          sVerb := none, lpOptional := none } ∧
      (fallbackRequest host flags async).headers = [] := by
  by_cases empty : postedData = ""
  · subst empty; exact ⟨rfl, rfl, rfl, rfl, rfl⟩
  · have posted : postedData.length > 0 := by
      obtain ⟨_ | ⟨first, rest⟩⟩ := postedData
      · exact absurd rfl empty
      · simp [String.length]
    simp [primaryRequest, fallbackRequest, GetUpdateCheckerOptions, empty, posted]

/-! ## Reading the outcome -/

def E_FAIL : Int := Js.toInt32 0x80004005

def SUCCEEDED (hr : Int) : Bool := hr ≥ 0

structure Completed where
  result : RequestResult
  response : String

structure Result (Status : Type) where
  hrError : Int
  httpStatusCode : Nat
  updateStatus : Option Status
  deriving DecidableEq

section HandleResponse

variable {Status : Type} (UpdateContentWithOnlineData : String → Except String Status)

/-- `HandleResponse`, given `UserProfile::UpdateContentWithOnlineData`, whose exception is
`.error`, the primary request and the fallback request if there is one. -/
def HandleResponse (primary : Completed) (getRequest : Option Completed) : Result Status :=
  let httpSimple := getRequest.getD primary
  let result : Result Status :=
    ⟨httpSimple.result.hrError, httpSimple.result.httpStatusCode, none⟩
  if SUCCEEDED result.hrError then
    match UpdateContentWithOnlineData httpSimple.response with
    | .ok updateStatus => { result with updateStatus := some updateStatus }
    | .error _ => { result with hrError := E_FAIL }
  else result

/-- The synchronous exchange: the primary request, then one GET request with no body
exactly when the server refused the method with 405, and the outcome read from the last
request sent. -/
theorem synchronousRequests_spec (host : Host) (flags : Flags) (postedData : String)
    (primary : Completed) (getRequest : Completed) :
    (ShouldRetryWithAGetRequest primary.result = true →
      synchronousRequests host flags postedData primary.result =
          [primaryRequest host flags postedData false, fallbackRequest host flags false] ∧
        HandleResponse UpdateContentWithOnlineData primary (some getRequest) =
          HandleResponse UpdateContentWithOnlineData getRequest none) ∧
    (ShouldRetryWithAGetRequest primary.result = false →
      synchronousRequests host flags postedData primary.result =
        [primaryRequest host flags postedData false]) := by
  refine ⟨fun retry => ⟨by simp [synchronousRequests, retry], rfl⟩, fun noRetry => ?_⟩
  simp [synchronousRequests, noRetry]

end HandleResponse

example :
    let host : Host := ⟨"1.5", 34404⟩
    let primary : Completed := ⟨⟨HRESULT_FROM_WIN32 ERROR_WINHTTP_INVALID_HEADER, 405⟩, ""⟩
    synchronousRequests host ⟨false⟩ "\x7b\x7d" primary.result =
        [⟨⟨kUpdateCheckerUrl, "Windhawk/1.5 (34404)", some "POST", some "\x7b\x7d"⟩,
            ["Content-Type: application/json"], false⟩,
          ⟨⟨kUpdateCheckerUrl, "Windhawk/1.5 (34404)", none, none⟩, [], false⟩] ∧
      HandleResponse (fun response : String => (.ok response.length : Except String Nat)) primary
          (some ⟨⟨0, 200⟩, "\x7b\x7d"⟩) = ⟨0, 200, some 2⟩ := by
  decide

end Windhawk.UpdateChecker
