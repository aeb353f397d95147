import CodePush.Foundation.Interleaving
import CodePush.Updater.Resume

/-!
# The updater's calls in atomic steps

Checks and downloads of several threads share the runtime, behind a lock, and the flag that
`fcb_cancel_pending_operations` sets. A check does not hold the lock while it waits for the
server; a download does so from its start to its end. Both clear the flag before they ask
for the lock.
-/

set_option autoImplicit false

namespace CodePush.Updater

open CodePush.Core CodePush.Foundation CodePush.Foundation.Action

/-!
## Steps
-/

/-- `start` and `clear` both clear `CANCEL_PENDING`: the first step of a call, and the check
inside a download. `flight` is a check's time at the server. -/
inductive UpdaterOperation where
  | start | clear | cancel | load | lock | unlock | flight
  | work (update : Device → Device)
  | install (update : Device → Device)

/-- `CANCEL_PENDING`, whether `RUNTIME` is locked, and the device with its runtime. -/
structure Shared where
  cancelPending : Bool
  locked : Bool
  device : Device

def UpdaterOperation.effect : UpdaterOperation → Shared → Shared
  | .start, shared => { shared with cancelPending := false }
  | .clear, shared => { shared with cancelPending := false }
  | .cancel, shared => { shared with cancelPending := true }
  | .load, shared => shared
  | .lock, shared => { shared with locked := true }
  | .unlock, shared => { shared with locked := false }
  | .flight, shared => shared
  | .work update, shared => { shared with device := update shared.device }
  | .install update, shared => { shared with device := update shared.device }

abbrev UpdaterSteps (α : Type) := Steps UpdaterOperation Error Shared α

/-- What a call does with the runtime and its cache directory. -/
def onDevice {α : Type} (op : DeviceOp α) : UpdaterSteps α :=
  Steps.atomic (.work fun device => (op device).2) fun shared => (op shared.device).1

def ensureNotCancelledSteps : UpdaterSteps Unit :=
  Steps.atomic .load fun shared =>
    if shared.cancelPending then err "operation cancelled" else .ok ()

/-- `read_body_with_cancel` -/
def readBodySteps : (out : Bytes) → (reads : List (Except String Bytes)) → UpdaterSteps Bytes
  | out, [] => do
      ensureNotCancelledSteps
      pure out
  | out, read :: reads => do
      ensureNotCancelledSteps
      match read with
      | .error text => throw (.io text)
      | .ok chunk =>
          if chunk.isEmpty then pure out
          else if maxBodyBytes < out.length + chunk.length then
            throw (.message "response body exceeds 64 MiB limit")
          else readBodySteps (out ++ chunk) reads

def downloadAttemptsSteps (http : Http) (url : String) :
    (attempts : List Nat) → (effectiveOffset : Nat) → (lastError : Option Error) →
      UpdaterSteps (Bytes × Bool)
  | [], _, lastError => throw (lastError.getD (.panic "retry loop should retain last error"))
  | attempt :: attempts, effectiveOffset, lastError => do
      ensureNotCancelledSteps
      match http.get url attempt (if effectiveOffset > 0 then some effectiveOffset else none) with
      | .answered status reads text =>
          if status = 416 ∧ effectiveOffset > 0 then downloadAttemptsSteps http url attempts 0 lastError
          else if status = 206 then do
            let bytes ← readBodySteps [] reads
            pure (bytes, true)
          else if 200 ≤ status ∧ status < 300 then do
            let bytes ← readBodySteps [] reads
            pure (bytes, false)
          else if shouldRetryStatus status && canRetry attempt then
            downloadAttemptsSteps http url attempts effectiveOffset lastError
          else throw (.message s!"server returned HTTP {status}: {text}")
      | .failed text =>
          if canRetry attempt then
            downloadAttemptsSteps http url attempts effectiveOffset (some (.http text))
          else throw (.http text)

/-- `download_bytes_from_with_cancel` -/
def downloadBytesSteps (http : Http) (url : String) (offset : Nat) : UpdaterSteps (Bytes × Bool) :=
  if isRemote url then downloadAttemptsSteps http url (List.range (retryDelays + 1)) offset none
  else do
    ensureNotCancelledSteps
    Steps.attempt ((http.readFile url).map (·, false))

/-- `resume_offset`, and the partial file up to it. -/
def resumePart (session : Session) (key : DownloadKey) : DeviceOp (Nat × Bytes) := do
  let device ← get
  let dir := device.cache.downloads key
  let offset := resumeOffset dir
  if offset < (dir.part.getD []).length then
    attemptOn (session.files .truncatePart)
    modify (updateDownload key ({ · with part := dir.part.map (·.take offset) }))
  pure (offset, (dir.part.getD []).take offset)

def writePart (session : Session) (key : DownloadKey) (part : Bytes) : DeviceOp Unit := do
  attemptOn (session.files .writePart)
  modify (updateDownload key ({ · with part := some part }))
  attemptOn (session.files .writeProgress)
  modify (updateDownload key ({ · with progress := some s!"{part.length}" }))

def downloadResumablePayloadSteps (session : Session) (http : Http) (url : String) (key : DownloadKey) :
    UpdaterSteps Bytes := do
  let (offset, kept) ← onDevice (resumePart session key)
  let (bytes, append) ← downloadBytesSteps http url offset
  ensureNotCancelledSteps
  let part := if append && decide (offset > 0) then kept ++ bytes else bytes
  onDevice (writePart session key part)
  pure part

def downloadPatchFilesSteps (lib : Primitives) (session : Session) (http : Http) (runtime : Runtime)
    (patch : PatchCheck) : UpdaterSteps (Bytes × Bytes) := do
  let key := downloadKey runtime patch
  Steps.attempt (session.files .createDir)
  ensureNotCancelledSteps
  let (manifestBytes, _) ← Steps.attempt (downloadBytesFrom http (fun _ => false) patch.manifestUrl 0)
  ensureNotCancelledSteps
  Steps.attempt (ensureHash lib "manifest" manifestBytes patch.manifestHash)
  Steps.attempt (session.files .writeManifest)
  onDevice (modify (updateDownload key ({ · with manifest := some manifestBytes })))
  let payloadBytes ← downloadResumablePayloadSteps session http patch.payloadUrl key
  Steps.attempt (session.files .readPart)
  ensureNotCancelledSteps
  Steps.attempt (ensureHash lib "payload" payloadBytes patch.payloadHash)
  Steps.attempt (session.files .renamePayload)
  onDevice (modify (updateDownload key
    ({ · with payload := some payloadBytes, part := none, progress := none })))
  pure (manifestBytes, payloadBytes)

def checkRequestFromRuntime (session : Session) : DeviceOp CheckRequest := do
  let device ← get
  attemptOn (ensureConfigured device.runtime)
  let state ← onCache (loadState session.env)
  pure
    { serverUrl := device.runtime.serverUrl, orgId := device.runtime.orgId
      appId := device.runtime.appId, releaseVersion := device.runtime.releaseVersion
      platform := device.runtime.platform, arch := device.runtime.arch
      channel := device.runtime.channel, currentPatchNumber := state.currentPatchNumber
      clientId := device.runtime.clientId }

/-- `check_for_update_singleflight`; which call's request is answered is input. -/
def singleflightSteps (session : Session) (request : CheckRequest) : UpdaterSteps CheckResponse :=
  Steps.atomic .flight fun _ => session.server.check request

/-- The check inside a download clears the flag once more. -/
def checkForUpdateSteps (session : Session) : UpdaterSteps CheckResponse := do
  Steps.atomic .clear fun _ => .ok ()
  let request ← onDevice (checkRequestFromRuntime session)
  singleflightSteps session request

def lastOrNewCheckSteps (session : Session) (runtime : Runtime) : UpdaterSteps CheckResponse :=
  match runtime.lastCheck with
  | some response => pure response
  | none => checkForUpdateSteps session

def downloadAndInstallSteps (lib : Primitives) (session : Session) (http : Http) : UpdaterSteps Bool := do
  let runtime ← onDevice (do
    let device ← get
    attemptOn (ensureConfigured device.runtime)
    pure device.runtime)
  ensureNotCancelledSteps
  if runtime.publicKeyB64.isEmpty then throw (.message "public_key is not configured")
  else do
    let response ← lastOrNewCheckSteps session runtime
    match response.patch with
    | none =>
        if response.patchAvailable then
          throw (.message "server response marked patch_available but omitted patch")
        else pure false
    | some patch => do
        let (manifestFile, payloadFile) ← downloadPatchFilesSteps lib session http runtime patch
        ensureNotCancelledSteps
        let request : InstallRequest :=
          { manifestFile, payloadFile, publicKeyB64 := runtime.publicKeyB64
            baseline := runtime.baselineArtifact }
        let install := onCache (installPayloadWithBaseline lib session.env request)
        Steps.atomic (.install fun device => (install device).2) fun shared => (install shared.device).1
        pure true

/-!
## Calls
-/

abbrev UpdaterProcess := Process UpdaterOperation Shared Int

def setErrorSteps (error : Error) : UpdaterProcess :=
  .step (.work fun device => { device with runtime := device.runtime.setError error }) fun _ =>
    .step .unlock fun _ => .done (-1)

def fcbDownloadAndInstallSteps (lib : Primitives) (session : Session) (http : Http) : UpdaterProcess :=
  .step .start fun _ => .step .lock fun _ =>
    Process.bind (downloadAndInstallSteps lib session http) fun
      | .ok installed => .step .unlock fun _ => .done (if installed then 1 else 0)
      | .error error => setErrorSteps error

def fcbCheckForUpdateSteps (session : Session) : UpdaterProcess :=
  .step .start fun _ => .step .lock fun _ =>
    Process.bind (onDevice (checkRequestFromRuntime session)) fun
      | .error error => setErrorSteps error
      | .ok request => .step .unlock fun _ =>
          Process.bind (singleflightSteps session request) fun
            | .error error => .step .lock fun _ => setErrorSteps error
            | .ok response => .step .lock fun _ =>
                .step (.work fun device =>
                  { device with runtime := { device.runtime with lastCheck := some response } }) fun _ =>
                  .step .unlock fun _ => .done (if response.patchAvailable then 1 else 0)

def fcbCancelPendingOperations : UpdaterProcess := .step .cancel fun _ => .done 0

/-!
## A call alone
-/

/-- Without a cancel, the steps do with the device what the operation does. -/
def Follows {α : Type} (steps : UpdaterSteps α) (op : DeviceOp α) : Prop :=
  ∀ locked device, Steps.run UpdaterOperation.effect steps ⟨false, locked, device⟩ =
    ((op device).1, ⟨false, locked, (op device).2⟩)

namespace Follows

variable {α β : Type}

theorem bind {steps : UpdaterSteps α} {op : DeviceOp α} {next : α → UpdaterSteps β} {rest : α → DeviceOp β}
    (first : Follows steps op) (later : ∀ value, Follows (next value) (rest value)) :
    Follows (steps >>= next) (op >>= rest) := by
  intro locked device
  rw [Steps.run_bind, Action.run_bind, Action.run_bind, first locked device]
  rcases op device with ⟨error | value, after⟩
  · rfl
  · exact later value locked after

theorem onDevice (op : DeviceOp α) : Follows (onDevice op) op := fun _ _ => rfl

theorem attempt (result : Result α) : Follows (Steps.attempt result) (attemptOn result) := fun _ _ => rfl

theorem pure (value : α) : Follows (Pure.pure value) (Pure.pure value) := fun _ _ => rfl

theorem throw (error : Error) : Follows (MonadExcept.throw error : UpdaterSteps α) (MonadExcept.throw error) :=
  fun _ _ => rfl

/-- The flag is not set. -/
theorem poll {next : Unit → UpdaterSteps α} {op : DeviceOp α} (later : Follows (next ()) op) :
    Follows (ensureNotCancelledSteps >>= next) op := fun locked device => later locked device

theorem ensureNotCancelled {next : Unit → UpdaterSteps α} {rest : Unit → DeviceOp α}
    (later : Follows (next ()) (rest ())) :
    Follows (ensureNotCancelledSteps >>= next) (attemptOn (.ok ()) >>= rest) := later.poll

theorem result {steps : UpdaterSteps α} {value : Result α} {next : α → UpdaterSteps β}
    {convert : α → β} (follows : Follows steps (attemptOn value))
    (later : ∀ found, next found = Pure.pure (convert found)) :
    Follows (steps >>= next) (attemptOn (value.map convert)) := by
  intro locked device
  rw [Steps.run_bind, Action.run_bind, follows locked device]
  cases value with
  | error error => rfl
  | ok found =>
      show Steps.run UpdaterOperation.effect (next found) _ = _
      rw [later]
      rfl

end Follows

theorem readBodySteps_follows (out : Bytes) (reads : List (Except String Bytes)) (poll : Nat) :
    Follows (readBodySteps out reads) (attemptOn (readBodyWithCancel (fun _ => false) poll out reads)) := by
  induction reads generalizing out poll with
  | nil => exact fun _ _ => rfl
  | cons read reads ih =>
      apply Follows.poll
      unfold readBodyWithCancel
      cases read with
      | error text => exact .throw _
      | ok chunk =>
          dsimp only
          rw [if_neg Bool.false_ne_true]
          split
          · exact .pure _
          · split
            · exact .throw _
            · exact ih _ _

theorem downloadAttemptsSteps_follows (http : Http) (url : String) (attempts : List Nat)
    (effectiveOffset poll : Nat) (lastError : Option Error) :
    Follows (downloadAttemptsSteps http url attempts effectiveOffset lastError)
      (attemptOn (downloadAttempts http (fun _ => false) url attempts effectiveOffset poll lastError)) := by
  induction attempts generalizing effectiveOffset poll lastError with
  | nil => exact .throw _
  | cons attempt attempts ih =>
      apply Follows.poll
      unfold downloadAttempts
      rw [if_neg Bool.false_ne_true]
      cases http.get url attempt (if effectiveOffset > 0 then some effectiveOffset else none) with
      | answered status reads text =>
          dsimp only
          split
          · exact ih _ _ _
          · split
            · exact (readBodySteps_follows [] reads _).result fun _ => rfl
            · split
              · exact (readBodySteps_follows [] reads _).result fun _ => rfl
              · split
                · exact ih _ _ _
                · exact .throw _
      | failed text =>
          dsimp only
          split
          · exact ih _ _ _
          · exact .throw _

theorem downloadBytesSteps_follows (http : Http) (url : String) (offset : Nat) :
    Follows (downloadBytesSteps http url offset)
      (attemptOn (downloadBytesFrom http (fun _ => false) url offset)) := by
  unfold downloadBytesSteps downloadBytesFrom
  split
  · exact downloadAttemptsSteps_follows _ _ _ _ _ _
  · rw [if_neg Bool.false_ne_true]
    exact .poll (.attempt _)

/-- The session of a call that is alone: its server is the one that the steps ask. -/
def Session.alone (session : Session) (http : Http) : Session :=
  { session with
    server := { session.server with download := downloadBytesFrom http fun _ => false }
    cancelled := fun _ => false }

section Alone

variable (lib : Primitives) (session : Session) (http : Http)

theorem downloadResumablePayload_parts (url : String) (key : DownloadKey) :
    downloadResumablePayload session url key = (do
      let (offset, kept) ← resumePart session key
      let (bytes, append) ← attemptOn (session.server.download url offset)
      attemptOn (ensureNotCancelled session .payload)
      let part := if append && decide (offset > 0) then kept ++ bytes else bytes
      writePart session key part
      pure part) := by
  unfold downloadResumablePayload resumePart writePart
  simp only [bind_assoc]
  congr 1
  funext device
  split
  · simp only [bind_assoc, pure_bind]
  · simp only [pure_bind]

theorem downloadResumablePayloadSteps_follows (url : String) (key : DownloadKey) :
    Follows (downloadResumablePayloadSteps session http url key)
      (downloadResumablePayload (session.alone http) url key) := by
  rw [downloadResumablePayload_parts]
  refine (Follows.onDevice _).bind ?_
  rintro ⟨offset, kept⟩
  refine (downloadBytesSteps_follows http url offset).bind ?_
  rintro ⟨bytes, append⟩
  apply Follows.ensureNotCancelled
  exact (Follows.onDevice _).bind fun _ => .pure _

theorem downloadPatchFilesSteps_follows (runtime : Runtime) (patch : PatchCheck) :
    Follows (downloadPatchFilesSteps lib session http runtime patch)
      (downloadPatchFiles lib (session.alone http) runtime patch) := by
  refine (Follows.attempt _).bind fun _ => ?_
  apply Follows.ensureNotCancelled
  refine (Follows.attempt _).bind ?_
  rintro ⟨manifestBytes, _⟩
  apply Follows.ensureNotCancelled
  refine (Follows.attempt _).bind fun _ => ?_
  refine (Follows.attempt _).bind fun _ => ?_
  refine (Follows.onDevice _).bind fun _ => ?_
  refine (downloadResumablePayloadSteps_follows session http _ _).bind fun payloadBytes => ?_
  refine (Follows.attempt _).bind fun _ => ?_
  apply Follows.ensureNotCancelled
  refine (Follows.attempt _).bind fun _ => ?_
  refine (Follows.attempt _).bind fun _ => ?_
  exact (Follows.onDevice _).bind fun _ => .pure _

theorem checkForUpdate_parts :
    checkForUpdate session = (do
      let request ← checkRequestFromRuntime session
      attemptOn (session.server.check request)) := by
  unfold checkForUpdate checkRequestFromRuntime
  simp only [bind_assoc, pure_bind]

theorem checkForUpdateSteps_follows :
    Follows (checkForUpdateSteps session) (checkForUpdate (session.alone http)) := by
  rw [checkForUpdate_parts]
  intro locked device
  exact ((Follows.onDevice (checkRequestFromRuntime session)).bind fun _ _ _ => rfl) locked device

theorem lastOrNewCheckSteps_follows (runtime : Runtime) :
    Follows (lastOrNewCheckSteps session runtime) (lastOrNewCheck (session.alone http) runtime) := by
  unfold lastOrNewCheckSteps lastOrNewCheck
  cases runtime.lastCheck with
  | none => exact checkForUpdateSteps_follows session http
  | some response => exact .pure _

theorem downloadAndInstall_parts :
    downloadAndInstall lib session = (do
      let runtime ← (do
        let device ← get
        attemptOn (ensureConfigured device.runtime)
        pure device.runtime)
      attemptOn (ensureNotCancelled session .start)
      if runtime.publicKeyB64.isEmpty then throw (.message "public_key is not configured")
      else do
        let response ← lastOrNewCheck session runtime
        match response.patch with
        | none =>
            if response.patchAvailable then
              throw (.message "server response marked patch_available but omitted patch")
            else pure false
        | some patch => do
            let (manifestFile, payloadFile) ← downloadPatchFiles lib session runtime patch
            attemptOn (ensureNotCancelled session .install)
            onCache (installPayloadWithBaseline lib session.env
              { manifestFile, payloadFile, publicKeyB64 := runtime.publicKeyB64
                baseline := runtime.baselineArtifact })
            pure true) := by
  unfold downloadAndInstall downloadPatch
  simp only [bind_assoc, pure_bind]
  congr 1
  funext device
  congr 1
  funext _
  congr 1
  funext _
  split
  · rfl
  · simp only [bind_assoc]
    congr 1
    funext response
    cases response.patch with
    | none =>
        dsimp only
        split
        · rfl
        · rfl
    | some patch => simp only [bind_assoc, pure_bind]

theorem downloadAndInstallSteps_follows :
    Follows (downloadAndInstallSteps lib session http) (downloadAndInstall lib (session.alone http)) := by
  rw [downloadAndInstall_parts]
  refine (Follows.onDevice _).bind fun runtime => ?_
  apply Follows.ensureNotCancelled
  dsimp only
  split
  · exact .throw _
  · refine Follows.bind (lastOrNewCheckSteps_follows session http runtime) fun response => ?_
    split
    · split
      · exact .throw _
      · exact .pure _
    · refine (downloadPatchFilesSteps_follows lib session http _ _).bind ?_
      rintro ⟨manifestFile, payloadFile⟩
      apply Follows.ensureNotCancelled
      refine Follows.bind (?_ : Follows _ (onCache _)) fun _ => .pure _
      exact fun _ _ => rfl

/-- A download without others is the one that runs on the device. -/
theorem fcbDownloadAndInstallSteps_run (pending : Bool) (device : Device) :
    (fcbDownloadAndInstallSteps lib session http).run UpdaterOperation.effect ⟨pending, false, device⟩ =
      ((fcbDownloadAndInstall lib (session.alone http) device).1,
        ⟨false, false, (fcbDownloadAndInstall lib (session.alone http) device).2⟩) := by
  have follows : Process.run UpdaterOperation.effect (downloadAndInstallSteps lib session http)
      { cancelPending := false, locked := true, device } = _ :=
    downloadAndInstallSteps_follows lib session http true device
  unfold fcbDownloadAndInstallSteps fcbDownloadAndInstall statusOf
  refine (Process.run_bind _ _ _ _).trans ?_
  simp only [UpdaterOperation.effect]
  rw [follows]
  rcases downloadAndInstall lib (session.alone http) device with ⟨error | installed, after⟩
  · rfl
  · rfl

/-- So is a check. -/
theorem fcbCheckForUpdateSteps_run (pending : Bool) (device : Device) :
    (fcbCheckForUpdateSteps session).run UpdaterOperation.effect ⟨pending, false, device⟩ =
      ((fcbCheckForUpdate session device).1, ⟨false, false, (fcbCheckForUpdate session device).2⟩) := by
  unfold fcbCheckForUpdateSteps fcbCheckForUpdate statusOf
  rw [checkForUpdate_parts]
  simp only [Action.run_bind]
  refine (Process.run_bind _ _ _ _).trans ?_
  simp only [UpdaterOperation.effect]
  have requested : Process.run UpdaterOperation.effect (onDevice (checkRequestFromRuntime session))
      { cancelPending := false, locked := true, device } =
        ((checkRequestFromRuntime session device).1,
          ⟨false, true, (checkRequestFromRuntime session device).2⟩) := rfl
  rw [requested]
  unfold singleflightSteps Steps.atomic
  rcases checkRequestFromRuntime session device with ⟨error | request, after⟩
  · rfl
  · dsimp only
    cases session.server.check request with
    | error error => rfl
    | ok response => rfl

end Alone

end CodePush.Updater
