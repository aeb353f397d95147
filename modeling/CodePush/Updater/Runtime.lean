import CodePush.Updater.State

/-!
# The updater's C interface

`fcb_init`, the download of a patch, and the launch, as in `updater/src/lib.rs`.
A device has one runtime at a time and cache directories that outlive it. What
the HTTP client returns, and whether a call is cancelled, is input.
-/

set_option autoImplicit false

namespace CodePush.Updater

open CodePush.Core CodePush.Foundation CodePush.Foundation.Action

/-!
## Data
-/

structure PatchCheck where
  patchNumber : Nat
  manifestUrl : String
  payloadUrl : String
  manifestHash : String
  payloadHash : String
  deriving Repr, DecidableEq

structure CheckResponse where
  patchAvailable : Bool
  patch : Option PatchCheck
  deriving Repr, DecidableEq

structure CheckRequest where
  serverUrl : String
  orgId : Option String
  appId : String
  releaseVersion : String
  platform : String
  arch : String
  channel : String
  currentPatchNumber : Nat
  clientId : String
  deriving Repr, DecidableEq

/-- The baseline artifact is its content. The texts kept alive for C callers are left out. -/
structure Runtime where
  appId : String
  channel : String
  releaseVersion : String
  platform : String
  arch : String
  cacheDir : String
  publicKeyB64 : String
  serverUrl : String
  orgId : Option String
  clientId : String
  baselineArtifact : Option Bytes
  lastCheck : Option CheckResponse
  lastError : String
  deriving Repr, DecidableEq

def Runtime.new : Runtime where
  appId := ""
  channel := "stable"
  releaseVersion := ""
  platform := "android"
  arch := "arm64-v8a"
  cacheDir := ".fcb/cache"
  publicKeyB64 := ""
  serverUrl := ""
  orgId := none
  clientId := "default"
  baselineArtifact := none
  lastCheck := none
  lastError := ""

/-- `runtime_config.json`. -/
structure RuntimeConfig where
  appId : String
  channel : String
  releaseVersion : String
  platform : String
  arch : String
  serverUrl : String
  orgId : Option String
  clientId : String
  deriving Repr, DecidableEq

/-- `downloads/<release>/<number>/<platform>/<arch>`. -/
structure DownloadKey where
  releaseVersion : String
  patchNumber : Nat
  platform : String
  arch : String
  deriving Repr, DecidableEq

structure DownloadDir where
  manifest : Option Bytes
  payload : Option Bytes
  part : Option Bytes
  progress : Option String
  deriving Repr, DecidableEq

structure Cache where
  disk : Disk
  config : Option RuntimeConfig
  downloads : DownloadKey → DownloadDir

def Cache.empty : Cache where
  disk := Disk.empty
  config := none
  downloads := fun _ => { manifest := none, payload := none, part := none, progress := none }

structure Device where
  runtime : Runtime
  caches : String → Cache

def Device.new : Device where
  runtime := Runtime.new
  caches := fun _ => Cache.empty

/-- The cache directory of the runtime. -/
def Device.cache (device : Device) : Cache := device.caches device.runtime.cacheDir

def Device.setCache (device : Device) (cache : Cache) : Device :=
  { device with
    caches := fun dir => if dir = device.runtime.cacheDir then cache else device.caches dir }

/-- The results of `Client` calls during one operation. -/
structure Server where
  check : CheckRequest → Result CheckResponse
  download : String → Nat → Result (Bytes × Bool)
  postsEvents : Bool

inductive CancelPoint where
  | start | manifest | manifestDone | payload | payloadDone | install
  deriving Repr, DecidableEq

/-- File operations on the download directory. -/
inductive DownloadIo where
  | createDir | writeManifest | truncatePart | writePart | writeProgress | readPart | renamePayload
  deriving Repr, DecidableEq

/-- Everything outside the device that one call meets. -/
structure Session where
  env : Environment
  server : Server
  cancelled : CancelPoint → Bool
  files : DownloadIo → Result Unit
  persists : Bool

abbrev DeviceOp (α : Type) := Action Error Device α

/-- An updater operation on the runtime's cache directory. -/
def onCache {α : Type} (op : Op α) : DeviceOp α := fun device =>
  let (result, disk) := op device.cache.disk
  (result, device.setCache { device.cache with disk })

/-!
## Initialisation
-/

/-- `read_cstr`: a null pointer reads as the empty string. -/
def readCstr : Option Bytes → Result String
  | none => .ok ""
  | some bytes => stringFromUtf8 bytes

/-- `str::lines`. -/
def lines (text : String) : List String :=
  let parts := text.toList.splitOn '\n'
  let parts := if parts.getLast? = some [] then parts.dropLast else parts
  parts.map fun line => String.ofList (if line.getLast? = some '\r' then line.dropLast else line)

/-- The position of the last window `03 21 00`. -/
def lastKeyHeader (der : Bytes) : Option Nat :=
  (List.range der.length).reverse.find? fun pos => (der.drop pos).take 3 = [0x03, 0x21, 0x00]

def publicKeyDerToRawB64 (lib : Primitives) (der : Bytes) : Result String :=
  if der.length = 32 then .ok (lib.encodeBase64 der)
  else
    match lastKeyHeader der with
    | some pos =>
        if der.length ≥ pos + 3 + 32 then .ok (lib.encodeBase64 ((der.drop (pos + 3)).take 32))
        else err "public_key_pem must contain a 32-byte Ed25519 public key"
    | none => err "public_key_pem must contain a 32-byte Ed25519 public key"

def normalizePublicKeyB64 (lib : Primitives) (value : String) : Result String :=
  if (splitAtMarker "-----BEGIN".toList value.toList).isSome then do
    let body := String.join (((lines value).filter fun line =>
      !"-----".toList.isPrefixOf line.toList).map trim)
    let der ← mapErr "invalid public_key_pem" (lib.decodeBase64 body)
    publicKeyDerToRawB64 lib der
  else do
    let raw ← mapErr "invalid public_key_pem" (lib.decodeBase64 (trim value))
    publicKeyDerToRawB64 lib raw

structure InitParams where
  appId : Option Bytes
  channel : Option Bytes
  releaseVersion : Option Bytes
  platform : Option Bytes
  arch : Option Bytes
  cacheDir : Option Bytes
  publicKeyPem : Option Bytes
  deriving Repr, DecidableEq

/-- `runtime.set_error`; the runtime keeps the fields that were already set. -/
def Runtime.setError (runtime : Runtime) (error : Error) : Runtime :=
  { runtime with
    lastError :=
      match error with
      | .message text => text
      | .io text => text
      | .json text => text
      | .http text => text
      | .panic _ => "panic across FFI boundary" }

/-- One `match read_cstr(..)` of `fcb_init`: an empty text leaves the field alone. -/
def initField (field : Option Bytes) (set : String → Runtime → Result Runtime) (runtime : Runtime) :
    Except Runtime Runtime :=
  match readCstr field with
  | .error error => .error (runtime.setError error)
  | .ok value =>
      if value.isEmpty then .ok runtime
      else
        match set value runtime with
        | .ok runtime => .ok runtime
        | .error error => .error (runtime.setError error)

/-- The fields in the order `fcb_init` reads them; a failure keeps the earlier ones. -/
def initRuntime (lib : Primitives) (params : InitParams) (runtime : Runtime) :
    Except Runtime Runtime := do
  let runtime := { runtime with lastCheck := none }
  let runtime ← initField params.cacheDir (fun value runtime => .ok { runtime with cacheDir := value }) runtime
  let runtime ← initField params.appId (fun value runtime => .ok { runtime with appId := value }) runtime
  let runtime ← initField params.channel (fun value runtime => .ok { runtime with channel := value }) runtime
  let runtime ← initField params.releaseVersion
    (fun value runtime => .ok { runtime with releaseVersion := value }) runtime
  let runtime ← initField params.platform (fun value runtime => .ok { runtime with platform := value }) runtime
  let runtime ← initField params.arch (fun value runtime => .ok { runtime with arch := value }) runtime
  initField params.publicKeyPem (fun value runtime => do
    let key ← normalizePublicKeyB64 lib value
    .ok { runtime with publicKeyB64 := key }) runtime

def Runtime.config (runtime : Runtime) : RuntimeConfig where
  appId := runtime.appId
  channel := runtime.channel
  releaseVersion := runtime.releaseVersion
  platform := runtime.platform
  arch := runtime.arch
  serverUrl := runtime.serverUrl
  orgId := runtime.orgId
  clientId := runtime.clientId

/-- `let _ = persist_runtime_config(runtime)`. -/
def persistRuntimeConfig (persists : Bool) (device : Device) : Device :=
  if persists then device.setCache { device.cache with config := some device.runtime.config }
  else device

def hydrateRuntimeConfig (config : Option RuntimeConfig) (runtime : Runtime) : Runtime :=
  match config with
  | none => runtime
  | some config =>
      { runtime with
        appId := if runtime.appId.isEmpty then config.appId else runtime.appId
        releaseVersion :=
          if runtime.releaseVersion.isEmpty then config.releaseVersion else runtime.releaseVersion
        serverUrl := if runtime.serverUrl.isEmpty then config.serverUrl else runtime.serverUrl
        channel := if config.channel.isEmpty then runtime.channel else config.channel
        platform := if config.platform.isEmpty then runtime.platform else config.platform
        arch := if config.arch.isEmpty then runtime.arch else config.arch
        orgId :=
          match runtime.orgId, config.orgId with
          | none, some value => if isBlank value then none else some value
          | orgId, _ => orgId
        clientId :=
          if runtime.clientId = "default" ∧ !config.clientId.isEmpty then config.clientId
          else runtime.clientId }

def fcbInit (lib : Primitives) (session : Session) (params : InitParams) (device : Device) :
    Int × Device :=
  match initRuntime lib params device.runtime with
  | .error runtime => (-1, { device with runtime })
  | .ok runtime => (0, persistRuntimeConfig session.persists { device with runtime })

/-- The setters forget the last check; all but one then save the configuration. -/
def fcbSet (persists : Bool) (text : Option Bytes) (set : String → Runtime → Result Runtime)
    (device : Device) : Int × Device :=
  match readCstr text with
  | .error error => (-1, { device with runtime := device.runtime.setError error })
  | .ok value =>
      match set value device.runtime with
      | .error error => (-1, { device with runtime := device.runtime.setError error })
      | .ok runtime =>
          (0, persistRuntimeConfig persists { device with runtime := { runtime with lastCheck := none } })

def fcbSetServerUrl (session : Session) (serverUrl : Option Bytes) : Device → Int × Device :=
  fcbSet session.persists serverUrl fun value runtime =>
    if value.isEmpty then err "server_url is empty" else .ok { runtime with serverUrl := value }

def fcbSetOrgId (session : Session) (orgId : Option Bytes) : Device → Int × Device :=
  fcbSet session.persists orgId fun value runtime =>
    .ok { runtime with orgId := if isBlank value then none else some value }

def fcbSetClientId (session : Session) (clientId : Option Bytes) : Device → Int × Device :=
  fcbSet session.persists clientId fun value runtime =>
    if value.isEmpty then err "client_id is empty" else .ok { runtime with clientId := value }

/-- `content` is what the file at the path holds. -/
def fcbSetBaselineArtifactPath (path : Option Bytes) (content : Bytes) : Device → Int × Device :=
  fcbSet false path fun value runtime =>
    .ok { runtime with baselineArtifact := if value.isEmpty then none else some content }

/-!
## Download and install
-/

def ensureConfigured (runtime : Runtime) : Result Unit :=
  if runtime.serverUrl.isEmpty then err "server_url is not configured"
  else if runtime.appId.isEmpty then err "app_id is empty"
  else if runtime.releaseVersion.isEmpty then err "release_version is empty"
  else .ok ()

def ensureNotCancelled (session : Session) (point : CancelPoint) : Result Unit :=
  if session.cancelled point then err "operation cancelled" else .ok ()

def ensureHash (lib : Primitives) (label : String) (bytes : Bytes) (expected : String) :
    Result Unit :=
  let actual := lib.sha256Hex bytes
  if actual ≠ expected then err s!"{label} sha256 mismatch: expected {expected}, got {actual}"
  else .ok ()

def attemptOn {α : Type} (result : Result α) : DeviceOp α := Action.attempt result

/-- The check that a download makes when none was made before. -/
def checkForUpdate (session : Session) : DeviceOp CheckResponse := do
  let device ← get
  attemptOn (ensureConfigured device.runtime)
  let state ← onCache (loadState session.env)
  attemptOn (session.server.check
    { serverUrl := device.runtime.serverUrl, orgId := device.runtime.orgId
      appId := device.runtime.appId, releaseVersion := device.runtime.releaseVersion
      platform := device.runtime.platform, arch := device.runtime.arch
      channel := device.runtime.channel, currentPatchNumber := state.currentPatchNumber
      clientId := device.runtime.clientId })

/-- `trim().parse::<u64>().ok()`. -/
def parseProgress (text : String) : Option Nat :=
  let chars := (trim text).toList
  let digits := if chars.head? = some '+' then chars.tail else chars
  if digits.isEmpty || !digits.all Char.isDigit then none
  else
    let value := digits.foldl (fun value digit => value * 10 + (digit.toNat - 48)) 0
    if value < 2 ^ 64 then some value else none

/-- The offset to resume from. -/
def resumeOffset (dir : DownloadDir) : Nat :=
  let partLen := (dir.part.getD []).length
  match dir.progress.bind parseProgress with
  | some progress => min progress partLen
  | none => partLen

def updateDownload (key : DownloadKey) (update : DownloadDir → DownloadDir) (device : Device) : Device :=
  device.setCache { device.cache with
    downloads := fun other =>
      if other = key then update (device.cache.downloads other) else device.cache.downloads other }

/-- `download_resumable_payload`: the new content of the partial file. -/
def downloadResumablePayload (session : Session) (url : String) (key : DownloadKey) :
    DeviceOp Bytes := do
  let device ← get
  let dir := device.cache.downloads key
  let offset := resumeOffset dir
  -- A partial file longer than the recorded progress is cut back first.
  if offset < (dir.part.getD []).length then
    attemptOn (session.files .truncatePart)
    modify (updateDownload key ({ · with part := dir.part.map (·.take offset) }))
  let (bytes, append) ← attemptOn (session.server.download url offset)
  attemptOn (ensureNotCancelled session .payload)
  attemptOn (session.files .writePart)
  let part := if append && decide (offset > 0) then (dir.part.getD []).take offset ++ bytes else bytes
  modify (updateDownload key ({ · with part := some part }))
  attemptOn (session.files .writeProgress)
  modify (updateDownload key ({ · with progress := some s!"{part.length}" }))
  pure part

/-- The manifest and payload files of a download, once their hashes were checked. -/
def downloadPatchFiles (lib : Primitives) (session : Session) (runtime : Runtime)
    (patch : PatchCheck) : DeviceOp (Bytes × Bytes) := do
  let key : DownloadKey :=
    { releaseVersion := runtime.releaseVersion, patchNumber := patch.patchNumber
      platform := runtime.platform, arch := runtime.arch }
  attemptOn (session.files .createDir)
  attemptOn (ensureNotCancelled session .manifest)
  let (manifestBytes, _) ← attemptOn (session.server.download patch.manifestUrl 0)
  attemptOn (ensureNotCancelled session .manifestDone)
  attemptOn (ensureHash lib "manifest" manifestBytes patch.manifestHash)
  attemptOn (session.files .writeManifest)
  modify (updateDownload key ({ · with manifest := some manifestBytes }))
  let payloadBytes ← downloadResumablePayload session patch.payloadUrl key
  attemptOn (session.files .readPart)
  attemptOn (ensureNotCancelled session .payloadDone)
  attemptOn (ensureHash lib "payload" payloadBytes patch.payloadHash)
  attemptOn (session.files .renamePayload)
  modify (updateDownload key
    ({ · with payload := some payloadBytes, part := none, progress := none }))
  pure (manifestBytes, payloadBytes)

/-- The response a download goes by: the last check's, or a new one's. -/
def lastOrNewCheck (session : Session) (runtime : Runtime) : DeviceOp CheckResponse :=
  match runtime.lastCheck with
  | some response => pure response
  | none => checkForUpdate session

/-- The part of `download_and_install` before the install. -/
def downloadPatch (lib : Primitives) (session : Session) : DeviceOp (Option InstallRequest) := do
  let device ← get
  let runtime := device.runtime
  attemptOn (ensureConfigured runtime)
  attemptOn (ensureNotCancelled session .start)
  if runtime.publicKeyB64.isEmpty then throw (.message "public_key is not configured")
  else do
    let response ← lastOrNewCheck session runtime
    match response.patch with
    | none =>
        if response.patchAvailable then
          throw (.message "server response marked patch_available but omitted patch")
        else pure none
    | some patch => do
        let (manifestFile, payloadFile) ← downloadPatchFiles lib session runtime patch
        attemptOn (ensureNotCancelled session .install)
        pure (some
          { manifestFile, payloadFile, publicKeyB64 := runtime.publicKeyB64
            baseline := runtime.baselineArtifact })

def downloadAndInstall (lib : Primitives) (session : Session) : DeviceOp Bool := do
  match ← downloadPatch lib session with
  | none => pure false
  | some request => do
      onCache (installPayloadWithBaseline lib session.env request)
      pure true

/-!
## Launch
-/

/-- `let _ = flush_rollback_events(runtime)`: the log is cleared once all was posted. -/
def flushRollbackEvents (session : Session) (device : Device) : Device :=
  let runtime := device.runtime
  if runtime.serverUrl.isEmpty || runtime.appId.isEmpty || runtime.releaseVersion.isEmpty then device
  else if session.server.postsEvents then
    device.setCache { device.cache with disk := { device.cache.disk with events := [] } }
  else device

/-- `let _ = post_launch_failure_event(..)` completes the runtime from the cache. -/
def completeRuntime (device : Device) : Device :=
  { device with runtime := hydrateRuntimeConfig device.cache.config device.runtime }

def cIntMax : Nat := 2 ^ 31 - 1

/-- The launch itself is saved before the number is checked against the C range. -/
def fcbGetLaunchPatch (session : Session) (device : Device) : Result (Option InstalledPatch) × Device :=
  match onCache (launchPatch session.env) device with
  | (.error error, device) =>
      (.error error, { device with runtime := device.runtime.setError error })
  | (.ok launched, device) =>
      let device := flushRollbackEvents session device
      if (launched.map (·.patchNumber)).getD 0 > cIntMax then
        let error := .message "patch number exceeds c_int range"
        (.error error, { device with runtime := device.runtime.setError error })
      else (.ok launched, device)

/-- An operation whose result is only a status. -/
def statusOf {α : Type} (op : DeviceOp α) (code : α → Int) (device : Device) : Int × Device :=
  match op device with
  | (.ok value, device) => (code value, device)
  | (.error error, device) => (-1, { device with runtime := device.runtime.setError error })

def fcbCheckForUpdate (session : Session) : Device → Int × Device :=
  statusOf (do
    let response ← checkForUpdate session
    modify fun device => { device with runtime := { device.runtime with lastCheck := some response } }
    pure response.patchAvailable) fun available => if available then 1 else 0

def fcbDownloadAndInstall (lib : Primitives) (session : Session) : Device → Int × Device :=
  statusOf (downloadAndInstall lib session) fun installed => if installed then 1 else 0

def fcbIsNewPatchReadyToInstall (session : Session) : Device → Int × Device :=
  statusOf (onCache (readyPatch session.env)) fun patch => if patch.isSome then 1 else 0

def fcbMarkLaunchSuccess (session : Session) : Device → Int × Device :=
  statusOf (onCache (markSuccess session.env)) fun _ => 0

/-- A text that cannot be read is recorded as `unknown`. -/
def readReason (text : Option Bytes) : String :=
  match readCstr text with
  | .ok text => text
  | .error _ => "unknown"

def reportFailure (session : Session) (patchNumber : Int) (reason : String) (device : Device) :
    Int × Device :=
  if patchNumber < 0 then
    (-1, { device with runtime :=
      device.runtime.setError (.message "patch_number must be non-negative") })
  else
    statusOf (do
      onCache (markFailure session.env patchNumber.toNat reason)
      modify completeRuntime) (fun _ => 0) device

def fcbMarkLaunchFailure (session : Session) (patchNumber : Int) (reason : Option Bytes) :
    Device → Int × Device :=
  reportFailure session patchNumber (readReason reason)

def fcbReportInterpretFailure (session : Session) (patchNumber : Int)
    (functionId error : Option Bytes) : Device → Int × Device :=
  reportFailure session patchNumber
    s!"interpret_failure:{readReason functionId}:{readReason error}"

def fcbDrainRollbackEvents (session : Session) : Device → Int × Device :=
  statusOf (onCache (do
    let events ← rollbackEvents session.env
    clearRollbackEvents session.env
    pure events)) fun events => min events.length cIntMax

/-- A number of the state, unless it exceeds the C range. -/
def fcbPatchNumber (session : Session) (number : State → Nat) (label : String) :
    Device → Int × Device :=
  statusOf (do
    let state ← onCache (loadState session.env)
    if number state > cIntMax then throw (.message s!"{label} exceeds c_int range")
    else pure (number state)) fun number => number

def fcbCurrentPatchNumber (session : Session) : Device → Int × Device :=
  fcbPatchNumber session (·.currentPatchNumber) "current_patch_number"

def fcbActivePatchNumber (session : Session) : Device → Int × Device :=
  fcbPatchNumber session (fun state =>
    match state.lastLaunch with
    | some launch => launch.patchNumber
    | none => state.pendingPatchNumber.getD state.currentPatchNumber) "active patch_number"

def fcbLastKnownGoodPatchNumber (session : Session) : Device → Int × Device :=
  fcbPatchNumber session (·.lastKnownGoodPatchNumber.getD 0) "last_known_good_patch_number"

/-!
## Runs of the interface
-/

/-- `restart` is the end of the process: the runtime is gone, the caches stay. -/
inductive DeviceCall where
  | restart
  | init (params : InitParams)
  | setServerUrl (serverUrl : Option Bytes)
  | setOrgId (orgId : Option Bytes)
  | setClientId (clientId : Option Bytes)
  | setBaselineArtifactPath (path : Option Bytes) (content : Bytes)
  | checkForUpdate
  | downloadAndInstall
  | getLaunchPatch
  | isNewPatchReady
  | markLaunchSuccess
  | markLaunchFailure (patchNumber : Int) (reason : Option Bytes)
  | reportInterpretFailure (patchNumber : Int) (functionId error : Option Bytes)
  | drainRollbackEvents
  | currentPatchNumber
  | activePatchNumber
  | lastKnownGoodPatchNumber
  deriving Repr, DecidableEq

structure DeviceInput where
  session : Session
  call : DeviceCall

inductive DeviceAnswer where
  | status (code : Int)
  | launch (patch : Option InstalledPatch)
  deriving Repr, DecidableEq

def deviceStep (lib : Primitives) (input : DeviceInput) (device : Device) : DeviceAnswer × Device :=
  let session := input.session
  let status := fun answered : Int × Device => (DeviceAnswer.status answered.1, answered.2)
  match input.call with
  | .restart => (.status 0, { device with runtime := Runtime.new })
  | .init params => status (fcbInit lib session params device)
  | .setServerUrl serverUrl => status (fcbSetServerUrl session serverUrl device)
  | .setOrgId orgId => status (fcbSetOrgId session orgId device)
  | .setClientId clientId => status (fcbSetClientId session clientId device)
  | .setBaselineArtifactPath path content => status (fcbSetBaselineArtifactPath path content device)
  | .checkForUpdate => status (fcbCheckForUpdate session device)
  | .downloadAndInstall => status (fcbDownloadAndInstall lib session device)
  | .getLaunchPatch =>
      match fcbGetLaunchPatch session device with
      | (.ok patch, device) => (.launch patch, device)
      | (.error _, device) => (.status (-1), device)
  | .isNewPatchReady => status (fcbIsNewPatchReadyToInstall session device)
  | .markLaunchSuccess => status (fcbMarkLaunchSuccess session device)
  | .markLaunchFailure patchNumber reason =>
      status (fcbMarkLaunchFailure session patchNumber reason device)
  | .reportInterpretFailure patchNumber functionId error =>
      status (fcbReportInterpretFailure session patchNumber functionId error device)
  | .drainRollbackEvents => status (fcbDrainRollbackEvents session device)
  | .currentPatchNumber => status (fcbCurrentPatchNumber session device)
  | .activePatchNumber => status (fcbActivePatchNumber session device)
  | .lastKnownGoodPatchNumber => status (fcbLastKnownGoodPatchNumber session device)

end CodePush.Updater
