import CodePush.Updater.Runtime
import CodePush.Updater.Durability
import CodePush.Updater.InstallSteps

/-!
# What a device installs and launches

A download is bound to what the check announced by two hashes, and to the
publisher by a signature. Nothing binds it, or a later launch, to the identity
that `fcb_init` was given.
-/

set_option autoImplicit false

namespace CodePush.Updater

open CodePush.Core CodePush.Foundation CodePush.Foundation.Action

/-!
## Downloads leave the updater alone
-/

/-- Same runtime, and the same state in every cache directory. -/
structure Device.Same (before after : Device) : Prop where
  runtime : after.runtime = before.runtime
  states : ∀ dir, (after.caches dir).disk.state = (before.caches dir).disk.state

@[simp] theorem Device.setCache_runtime (device : Device) (cache : Cache) :
    (device.setCache cache).runtime = device.runtime := rfl

@[simp] theorem Device.cache_setCache (device : Device) (cache : Cache) :
    (device.setCache cache).cache = cache := by
  simp [Device.setCache, Device.cache]

theorem Device.caches_setCache_of_ne {device : Device} {cache : Cache} {dir : String}
    (other : dir ≠ device.runtime.cacheDir) :
    (device.setCache cache).caches dir = device.caches dir := by
  simp [Device.setCache, other]

namespace Device.Same

theorem refl (device : Device) : device.Same device := ⟨rfl, fun _ => rfl⟩

theorem trans {first second third : Device} (one : first.Same second) (two : second.Same third) :
    first.Same third :=
  ⟨two.runtime.trans one.runtime, fun dir => (two.states dir).trans (one.states dir)⟩

theorem cache {before after : Device} (same : before.Same after) :
    after.cache.disk.state = before.cache.disk.state := by
  unfold Device.cache
  rw [same.runtime]
  exact same.states _

theorem setCache (device : Device) {cache : Cache}
    (same : cache.disk.state = device.cache.disk.state) : device.Same (device.setCache cache) := by
  refine ⟨rfl, ?_⟩
  intro dir
  by_cases own : dir = device.runtime.cacheDir
  · subst own
    simpa [Device.cache, Device.setCache] using same
  · rw [caches_setCache_of_ne own]

theorem updateDownload (device : Device) (key : DownloadKey) (update : DownloadDir → DownloadDir) :
    device.Same (updateDownload key update device) :=
  setCache device rfl

end Device.Same

theorem ensures_onCache {α : Type} {op : Op α} {device : Device}
    {returns : α → Device → Prop} {fails : Error → Device → Prop}
    (inner : Ensures op device.cache.disk
      (fun value disk => returns value (device.setCache { device.cache with disk }))
      (fun error disk => fails error (device.setCache { device.cache with disk }))) :
    Ensures (onCache op) device returns fails := by
  unfold Ensures at inner ⊢
  unfold onCache
  split at inner
  case h_1 value disk ended =>
    rw [ended]
    exact inner
  case h_2 error disk ended =>
    rw [ended]
    exact inner

private theorem attemptOn_ensures {α : Type} {result : Result α} {device : Device}
    {returns : α → Device → Prop} {fails : Error → Device → Prop}
    (holds : ∀ value, result = .ok value → returns value device)
    (failed : ∀ error, fails error device) :
    Ensures (attemptOn result) device returns fails :=
  ensures_attempt holds (fun error _ => failed error)

/-- A check reads the state and asks the server; it writes no download. -/
theorem checkForUpdate_ensures (session : Session) (device : Device) :
    Ensures (checkForUpdate session) device
      (fun response after => (device.Same after ∧ after.cache.downloads = device.cache.downloads) ∧
        ∃ request, session.server.check request = .ok response)
      (fun _ after => device.Same after) := by
  refine ensures_bind (ensures_get ?_)
  refine ensures_bind (attemptOn_ensures ?_ (fun _ => .refl device))
  intro _ _
  refine ensures_bind (ensures_onCache ((loadState_ensures session.env _).mono ?_ ?_))
  · rintro state disk ⟨_, same⟩
    refine attemptOn_ensures ?_ (fun _ => .setCache device same.state)
    intro response checked
    exact ⟨⟨.setCache device same.state, by rw [Device.cache_setCache]⟩, _, checked⟩
  · rintro _ disk ⟨same, _⟩
    exact .setCache device same.state

/-- Writes to the download directory are no concern of the updater's state. -/
private theorem updateDownload_ensures {key : DownloadKey} {update : DownloadDir → DownloadDir}
    {device : Device} {returns : PUnit → Device → Prop} {fails : Error → Device → Prop}
    (holds : ∀ after, device.Same after → returns () after) :
    Ensures (modify (updateDownload key update) : DeviceOp PUnit) device returns fails :=
  ensures_modify (holds _ (.updateDownload device key update))

@[simp] theorem updateDownload_downloads {device : Device} {key : DownloadKey}
    {update : DownloadDir → DownloadDir} :
    (updateDownload key update device).cache.downloads key = update (device.cache.downloads key) := by
  simp [updateDownload]

/-- What the server sends, behind the part of an earlier download if it goes on from there. -/
def completed (session : Session) (url : String) (dir : DownloadDir) : Option Bytes :=
  match session.server.download url (resumeOffset dir) with
  | .ok (bytes, append) =>
      some (if append && decide (resumeOffset dir > 0) then (dir.part.getD []).take (resumeOffset dir) ++ bytes
        else bytes)
  | .error _ => none

/-- What follows the truncation, from any device that the truncation may leave. -/
theorem downloaded_ensures {session : Session} {url : String} {key : DownloadKey} {device start : Device}
    (same : device.Same start) (dir : DownloadDir) :
    Ensures (do
      let (bytes, append) ← attemptOn (session.server.download url (resumeOffset dir))
      attemptOn (ensureNotCancelled session .payload)
      attemptOn (session.files .writePart)
      let part := if append && decide (resumeOffset dir > 0) then
        (dir.part.getD []).take (resumeOffset dir) ++ bytes else bytes
      modify (updateDownload key ({ · with part := some part }))
      attemptOn (session.files .writeProgress)
      modify (updateDownload key ({ · with progress := some s!"{part.length}" }))
      pure part : DeviceOp Bytes) start
      (fun part after => device.Same after ∧ completed session url dir = some part)
      (fun _ after => device.Same after) := by
  refine ensures_bind (attemptOn_ensures ?_ (fun _ => same))
  rintro ⟨bytes, append⟩ answered
  refine ensures_bind (attemptOn_ensures (fun _ _ => ?_) (fun _ => same))
  refine ensures_bind (attemptOn_ensures (fun _ _ => ?_) (fun _ => same))
  refine ensures_bind (updateDownload_ensures fun written kept => ?_)
  refine ensures_bind (attemptOn_ensures (fun _ _ => ?_) (fun _ => same.trans kept))
  refine ensures_bind (updateDownload_ensures fun noted noting => ?_)
  refine ensures_pure ⟨(same.trans kept).trans noting, ?_⟩
  unfold completed
  rw [answered]

theorem downloadResumablePayload_ensures (session : Session) (url : String) (key : DownloadKey)
    (device : Device) :
    Ensures (downloadResumablePayload session url key) device
      (fun part after => device.Same after ∧ completed session url (device.cache.downloads key) = some part)
      (fun _ after => device.Same after) := by
  refine ensures_bind (ensures_get ?_)
  dsimp only
  split
  · refine ensures_bind (attemptOn_ensures (fun _ _ => ?_) (fun _ => .refl device))
    refine ensures_bind (updateDownload_ensures fun cut same => ?_)
    exact downloaded_ensures same _
  · exact downloaded_ensures (.refl device) _

theorem ensureHash_eq_ok {lib : Primitives} {label : String} {bytes : Bytes} {expected : String}
    (checked : ensureHash lib label bytes expected = .ok ()) : lib.sha256Hex bytes = expected := by
  unfold ensureHash at checked
  dsimp only at checked
  split at checked
  case isTrue => cases checked
  case isFalse same => exact Decidable.not_not.mp same

/-- `downloads/<release>/<number>/<platform>/<arch>` of the patch. -/
def downloadKey (runtime : Runtime) (patch : PatchCheck) : DownloadKey :=
  { releaseVersion := runtime.releaseVersion, patchNumber := patch.patchNumber
    platform := runtime.platform, arch := runtime.arch }

/-- Two files that the server sent for an announced patch, with the announced hashes. -/
structure Received (lib : Primitives) (session : Session) (patch : PatchCheck) (dir : DownloadDir)
    (manifestFile payloadFile : Bytes) : Prop where
  manifest : ∃ append, session.server.download patch.manifestUrl 0 = .ok (manifestFile, append)
  payload : completed session patch.payloadUrl dir = some payloadFile
  manifestHash : lib.sha256Hex manifestFile = patch.manifestHash
  payloadHash : lib.sha256Hex payloadFile = patch.payloadHash

theorem downloadPatchFiles_ensures (lib : Primitives) (session : Session) (runtime : Runtime)
    (patch : PatchCheck) (device : Device) :
    Ensures (downloadPatchFiles lib session runtime patch) device
      (fun files after => device.Same after ∧
        Received lib session patch (device.cache.downloads (downloadKey runtime patch)) files.1 files.2)
      (fun _ after => device.Same after) := by
  have same := Device.Same.refl device
  refine ensures_bind (attemptOn_ensures (fun _ _ => ?_) (fun _ => same))
  refine ensures_bind (attemptOn_ensures (fun _ _ => ?_) (fun _ => same))
  refine ensures_bind (attemptOn_ensures ?_ (fun _ => same))
  rintro ⟨manifestBytes, append⟩ sent
  refine ensures_bind (attemptOn_ensures (fun _ _ => ?_) (fun _ => same))
  refine ensures_bind (attemptOn_ensures (fun _ manifestChecked => ?_) (fun _ => same))
  refine ensures_bind (attemptOn_ensures (fun _ _ => ?_) (fun _ => same))
  have describing := Device.Same.updateDownload device (downloadKey runtime patch)
    ({ · with manifest := some manifestBytes })
  refine ensures_bind (ensures_modify ?_)
  refine ensures_bind ((downloadResumablePayload_ensures session patch.payloadUrl (downloadKey runtime patch) _).mono
    ?_ ?_)
  · rintro payloadBytes fetched ⟨kept, received⟩
    change completed session patch.payloadUrl ((updateDownload (downloadKey runtime patch) _ device).cache.downloads
      (downloadKey runtime patch)) = some payloadBytes at received
    rw [updateDownload_downloads] at received
    have same := describing.trans kept
    refine ensures_bind (attemptOn_ensures (fun _ _ => ?_) (fun _ => same))
    refine ensures_bind (attemptOn_ensures (fun _ _ => ?_) (fun _ => same))
    refine ensures_bind (attemptOn_ensures (fun _ payloadChecked => ?_) (fun _ => same))
    refine ensures_bind (attemptOn_ensures (fun _ _ => ?_) (fun _ => same))
    refine ensures_bind (updateDownload_ensures fun renamed moved => ?_)
    exact ensures_pure ⟨same.trans moved, ⟨append, sent⟩, received, ensureHash_eq_ok manifestChecked,
      ensureHash_eq_ok payloadChecked⟩
  · intro _ after kept
    exact describing.trans kept

/-- The response that `lastOrNewCheck` finds. -/
def Announced (session : Session) (runtime : Runtime) (response : CheckResponse) : Prop :=
  runtime.lastCheck = some response ∨
    runtime.lastCheck = none ∧ ∃ request, session.server.check request = .ok response

theorem lastOrNewCheck_ensures (session : Session) (device : Device) :
    Ensures (lastOrNewCheck session device.runtime) device
      (fun response after => (device.Same after ∧ after.cache.downloads = device.cache.downloads) ∧
        Announced session device.runtime response)
      (fun _ after => device.Same after) := by
  unfold lastOrNewCheck
  cases checked : device.runtime.lastCheck with
  | some response => exact ensures_pure ⟨⟨.refl device, rfl⟩, .inl checked⟩
  | none =>
      refine (checkForUpdate_ensures session device).mono ?_ (fun _ _ same => same)
      rintro response after ⟨same, asked⟩
      exact ⟨same, .inr ⟨checked, asked⟩⟩

/-- A download hands on the files that the server sent for what it announced. -/
structure Downloaded (lib : Primitives) (session : Session) (device : Device)
    (request : InstallRequest) : Prop where
  key : request.publicKeyB64 = device.runtime.publicKeyB64
  baseline : request.baseline = device.runtime.baselineArtifact
  announced : ∃ response patch, Announced session device.runtime response ∧ response.patch = some patch ∧
    Received lib session patch (device.cache.downloads (downloadKey device.runtime patch))
      request.manifestFile request.payloadFile

theorem downloadPatch_ensures (lib : Primitives) (session : Session) (device : Device) :
    Ensures (downloadPatch lib session) device
      (fun found after => device.Same after ∧
        ∀ request, found = some request → Downloaded lib session device request)
      (fun _ after => device.Same after) := by
  refine ensures_bind (ensures_get ?_)
  refine ensures_bind (attemptOn_ensures (fun _ _ => ?_) (fun _ => .refl device))
  refine ensures_bind (attemptOn_ensures (fun _ _ => ?_) (fun _ => .refl device))
  dsimp only
  split
  · exact ensures_throw (.refl device)
  refine ensures_bind ((lastOrNewCheck_ensures session device).mono ?_ (fun _ _ same => same))
  rintro response checked ⟨⟨same, downloads⟩, announced⟩
  cases offered : response.patch with
  | none =>
      dsimp only
      split
      · exact ensures_throw same
      · exact ensures_pure ⟨same, by intro request absent; cases absent⟩
  | some patch =>
      refine ensures_bind ((downloadPatchFiles_ensures lib session _ patch checked).mono ?_ ?_)
      · rintro ⟨manifestFile, payloadFile⟩ fetched ⟨kept, received⟩
        rw [downloads] at received
        have same := same.trans kept
        refine ensures_bind (attemptOn_ensures (fun _ _ => ?_) (fun _ => same))
        refine ensures_pure ⟨same, ?_⟩
        intro request found
        cases found
        exact ⟨rfl, rfl, response, patch, announced, offered, received⟩
      · intro _ after kept
        exact same.trans kept

theorem acceptPatch_eq_ok {lib : Primitives} {env : Environment} {request : InstallRequest}
    {manifest : PatchManifest} (accepted : acceptPatch lib env request = .ok manifest) :
    lib.parseManifest request.manifestFile = .ok manifest ∧
      verifyPatchManifest lib manifest request.publicKeyB64 = .ok () ∧
      lib.sha256Hex request.payloadFile = manifest.payload.hash := by
  unfold acceptPatch at accepted
  obtain ⟨_, _, accepted⟩ := except_bind_eq_ok.mp accepted
  obtain ⟨parsed, parses, accepted⟩ := except_bind_eq_ok.mp accepted
  obtain ⟨_, verified, accepted⟩ := except_bind_eq_ok.mp accepted
  obtain ⟨_, _, accepted⟩ := except_bind_eq_ok.mp accepted
  obtain ⟨hashed, accepted⟩ := except_guard_eq_ok.mp accepted
  obtain ⟨_, _, accepted⟩ := except_bind_eq_ok.mp accepted
  cases accepted
  exact ⟨parses, verified, Decidable.not_not.mp hashed⟩

/-!
## What an install is bound to
-/

/-- A patch was installed from a download. -/
structure InstalledFrom (lib : Primitives) (session : Session) (before after : Device)
    (request : InstallRequest) (manifest : PatchManifest) : Prop where
  found : (downloadPatch lib session before).1 = .ok (some request)
  downloaded : Downloaded lib session before request
  accepted : acceptPatch lib session.env request = .ok manifest
  runtime : after.runtime = before.runtime
  recorded : ∃ artifactPath, after.cache.disk.state = before.cache.disk.state.install
    manifest.releaseVersion (installedRecord session.env manifest artifactPath)
  stored : after.cache.disk.Stores manifest.patchNumber request.manifestFile request.payloadFile
  others : ∀ dir, dir ≠ before.runtime.cacheDir →
    (after.caches dir).disk.state = (before.caches dir).disk.state

theorem downloadAndInstall_ensures (lib : Primitives) (session : Session) (device : Device) :
    Ensures (downloadAndInstall lib session) device
      (fun installed after =>
        if installed then ∃ request manifest, InstalledFrom lib session device after request manifest
        else device.Same after)
      (fun _ after => device.Same after) := by
  refine ensures_bind (((downloadPatch_ensures lib session device).and (ensures_self _ _)).mono ?_
    (fun _ _ failed => failed.1))
  rintro found fetched ⟨⟨same, downloaded⟩, ended⟩
  cases found with
  | none => exact ensures_pure same
  | some request =>
      have installs := (install_ensures lib session.env request fetched.cache.disk).and
        (install_stores lib session.env request fetched.cache.disk)
      refine ensures_bind (ensures_onCache (installs.mono ?_ ?_))
      · rintro _ disk ⟨⟨_, manifest, artifactPath, accepted, recorded⟩, parsed, again, stored⟩
        cases accepted.symm.trans again
        refine ensures_pure ?_
        refine ⟨request, manifest, congrArg Prod.fst ended, downloaded request rfl, accepted,
          same.runtime, ⟨artifactPath, ?_⟩, ?_, ?_⟩
        · simpa only [Device.cache_setCache, same.cache] using recorded
        · simpa only [Device.cache_setCache] using stored
        · intro dir other
          rw [Device.caches_setCache_of_ne (same.runtime.symm ▸ other)]
          exact same.states dir
      · rintro _ disk ⟨⟨unchanged, _⟩, _⟩
        exact same.trans (.setCache fetched unchanged)

/-- A patch is installed only from the files that the server sent, if they have the announced
hashes, the runtime's key signed the manifest and the manifest names the payload. These files are
then in the directory of the manifest's number, and the patch is recorded under the manifest's own
release and number. Otherwise the state stays as it was. -/
theorem installs_only_announced_and_signed (lib : Primitives) (session : Session) (device : Device) :
    let result := (downloadAndInstall lib session device).1
    let after := (downloadAndInstall lib session device).2
    (result = .ok true → ∃ response patch manifestFile payloadFile manifest artifactPath,
      Announced session device.runtime response ∧ response.patch = some patch ∧
      Received lib session patch (device.cache.downloads (downloadKey device.runtime patch))
        manifestFile payloadFile ∧
      lib.parseManifest manifestFile = .ok manifest ∧
      verifyPatchManifest lib manifest device.runtime.publicKeyB64 = .ok () ∧
      lib.sha256Hex payloadFile = manifest.payload.hash ∧
      after.cache.disk.Stores manifest.patchNumber manifestFile payloadFile ∧
      after.cache.disk.state = device.cache.disk.state.install manifest.releaseVersion
        (installedRecord session.env manifest artifactPath)) ∧
    (result ≠ .ok true → after.cache.disk.state = device.cache.disk.state) := by
  intro result after
  have ensured := downloadAndInstall_ensures lib session device
  constructor
  · intro installed
    have ended : downloadAndInstall lib session device = (.ok true, after) := Prod.ext installed rfl
    obtain ⟨request, manifest, install⟩ := ensured.of_ok ended
    obtain ⟨_, downloaded, accepted, _, ⟨artifactPath, recorded⟩, stored, _⟩ := install
    obtain ⟨key, _, response, patch, announced, offered, received⟩ := downloaded
    obtain ⟨parsed, verified, hashed⟩ := acceptPatch_eq_ok accepted
    rw [key] at verified
    exact ⟨response, patch, request.manifestFile, request.payloadFile, manifest, artifactPath,
      announced, offered, received, parsed, verified, hashed, stored, recorded⟩
  · intro notInstalled
    cases ended : result with
    | error error =>
        have same : device.Same after := ensured.of_error (Prod.ext ended rfl)
        exact same.cache
    | ok installed =>
        cases installed with
        | true => exact absurd ended notInstalled
        | false =>
            have same : device.Same after := ensured.of_ok (Prod.ext ended rfl)
            exact same.cache

def sampleCheck : CheckResponse where
  patchAvailable := true
  patch := some
    { patchNumber := 7, manifestUrl := "manifest", payloadUrl := "payload"
      manifestHash := "3caa09d0d71949d4373ee03762a563f0d9c716b2bb3eb15fd540943fa3296c69"
      payloadHash := "01b8fd045d7888a2c9b237f73f132a1301a5db76dcf0cd768f84f0288ec49f3f" }

def sampleServer : Server where
  check := fun _ => .ok sampleCheck
  download := fun url _ =>
    if url = "manifest" then .ok (sampleManifestFile 1, false)
    else if url = "payload" then .ok (samplePayload, false)
    else .error (.http "404")
  postsEvents := false

def sampleSession : Session where
  env := sampleEnv
  server := sampleServer
  cancelled := fun _ => false
  files := fun _ => .ok ()
  persists := true

def sampleRuntime : Runtime :=
  { Runtime.new with
    appId := "notes", releaseVersion := "2.0.0", platform := "ios", arch := "x86_64"
    publicKeyB64 := sampleKey.1, serverUrl := "http://localhost:8080"
    lastCheck := some sampleCheck }

def sampleDevice : Device := { Device.new with runtime := sampleRuntime }

theorem sample_install_announced_and_signed :
    let result := (downloadAndInstall sampleLib sampleSession sampleDevice).1
    let after := (downloadAndInstall sampleLib sampleSession sampleDevice).2
    result = .ok true ∧ ∃ response patch manifestFile payloadFile manifest artifactPath,
      Announced sampleSession sampleDevice.runtime response ∧ response.patch = some patch ∧
      Received sampleLib sampleSession patch
        (sampleDevice.cache.downloads (downloadKey sampleDevice.runtime patch)) manifestFile payloadFile ∧
      sampleLib.parseManifest manifestFile = .ok manifest ∧
      verifyPatchManifest sampleLib manifest sampleDevice.runtime.publicKeyB64 = .ok () ∧
      sampleLib.sha256Hex payloadFile = manifest.payload.hash ∧
      after.cache.disk.Stores manifest.patchNumber manifestFile payloadFile ∧
      after.cache.disk.state = sampleDevice.cache.disk.state.install manifest.releaseVersion
        (installedRecord sampleEnv manifest artifactPath) := by
  intro result after
  have installed : result = .ok true := by decide
  exact ⟨installed,
    (installs_only_announced_and_signed sampleLib sampleSession sampleDevice).1 installed⟩

/-- A device of another app, release, platform and architecture, to which patch 7
was announced, installs patch 1 of `counter` 1.0.0 for android/arm64. -/
theorem foreign_patch_installed :
    sampleDevice.runtime.lastCheck = some sampleCheck ∧
    sampleServer.download "manifest" 0 = .ok (sampleManifestFile 1, false) ∧
    sampleLib.parseManifest (sampleManifestFile 1) = .ok (sampleManifest 1) ∧
    verifyPatchManifest sampleLib (sampleManifest 1) sampleDevice.runtime.publicKeyB64 = .ok () ∧
    (downloadAndInstall sampleLib sampleSession sampleDevice).1 = .ok true ∧
    (downloadAndInstall sampleLib sampleSession sampleDevice).2.cache.disk.state.installed =
      [installedRecord sampleEnv (sampleManifest 1) none] ∧
    (sampleManifest 1).appId ≠ sampleDevice.runtime.appId ∧
    (sampleManifest 1).releaseVersion ≠ sampleDevice.runtime.releaseVersion ∧
    (sampleManifest 1).platform ≠ sampleDevice.runtime.platform ∧
    (sampleManifest 1).arch ≠ sampleDevice.runtime.arch ∧
    sampleCheck.patch.map (·.patchNumber) ≠ some (sampleManifest 1).patchNumber := by
  refine ⟨rfl, by decide +kernel, by decide, by decide, by decide,
    by decide, by decide, by decide, by decide, by decide,
    by decide⟩

end CodePush.Updater
