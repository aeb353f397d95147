import CodePush.Updater.RuntimeProperties

/-!
# Where launched patches come from

A run of the interface goes through any number of processes, initialisations and
cache directories. On the side it accumulates, for each directory and patch number,
the manifest that the last install of that number was accepted with. Every patch
that is launched has such an origin; its release is the origin's, not the runtime's.
-/

set_option autoImplicit false

namespace CodePush.Updater

open CodePush.Core CodePush.Foundation CodePush.Foundation.Action

/-!
## Calls that install nothing
-/

/-- No cache directory has a record that it did not have before. -/
def Device.Keeps (before after : Device) : Prop :=
  ∀ dir, ∀ patch ∈ (after.caches dir).disk.state.installed,
    patch ∈ (before.caches dir).disk.state.installed

namespace Device.Keeps

theorem refl (device : Device) : device.Keeps device := fun _ _ member => member

theorem trans {first second third : Device} (one : first.Keeps second) (two : second.Keeps third) :
    first.Keeps third :=
  fun dir patch member => one dir patch (two dir patch member)

theorem of_same {before after : Device} (same : before.Same after) : before.Keeps after := by
  intro dir patch member
  rw [same.states dir] at member
  exact member

theorem setRuntime {before after : Device} (kept : before.Keeps after) (runtime : Runtime) :
    before.Keeps { after with runtime } := kept

theorem setCache (device : Device) {cache : Cache}
    (kept : cache.disk.state.installed = device.cache.disk.state.installed) :
    device.Keeps (device.setCache cache) := by
  intro dir patch member
  by_cases own : dir = device.runtime.cacheDir
  · subst own
    simpa [Device.cache, Device.setCache, kept] using member
  · rw [caches_setCache_of_ne own] at member
    exact member

theorem persistRuntimeConfig (persists : Bool) (device : Device) :
    device.Keeps (persistRuntimeConfig persists device) := by
  unfold Updater.persistRuntimeConfig
  split
  · exact setCache device rfl
  · exact refl device

theorem flushRollbackEvents (session : Session) (device : Device) :
    device.Keeps (flushRollbackEvents session device) := by
  unfold Updater.flushRollbackEvents
  dsimp only
  split
  · exact refl device
  · split
    · exact setCache device rfl
    · exact refl device

theorem statusOf {α : Type} {op : DeviceOp α} {device : Device} (code : α → Int)
    (kept : Ensures op device (fun _ after => device.Keeps after) (fun _ after => device.Keeps after)) :
    device.Keeps (statusOf op code device).2 := by
  unfold Ensures at kept
  unfold Updater.statusOf
  split at kept
  case h_1 ended =>
    rw [ended]
    exact kept
  case h_2 ended =>
    rw [ended]
    exact kept.setRuntime _

theorem onCache {α : Type} {op : Op α} {device : Device}
    (kept : Ensures op device.cache.disk
      (fun _ disk => disk.state.installed = device.cache.disk.state.installed)
      (fun _ disk => disk.state.installed = device.cache.disk.state.installed)) :
    Ensures (onCache op) device (fun _ after => device.Keeps after)
      (fun _ after => device.Keeps after) :=
  ensures_onCache (kept.mono (fun _ _ same => setCache device same)
    (fun _ _ same => setCache device same))

theorem fcbSet (persists : Bool) (text : Option Bytes) (set : String → Runtime → Result Runtime)
    (device : Device) : device.Keeps (fcbSet persists text set device).2 := by
  unfold Updater.fcbSet
  split
  · exact refl device
  · split
    · exact refl device
    · exact persistRuntimeConfig persists _

theorem fcbInit (lib : Primitives) (session : Session) (params : InitParams) (device : Device) :
    device.Keeps (fcbInit lib session params device).2 := by
  unfold Updater.fcbInit
  split
  · exact refl device
  · exact persistRuntimeConfig session.persists _

theorem fcbCheckForUpdate (session : Session) (device : Device) :
    device.Keeps (fcbCheckForUpdate session device).2 := by
  apply statusOf
  apply ensures_bind
  refine (checkForUpdate_ensures session device).mono ?_ (fun _ _ same => of_same same)
  intro response after checked
  exact ensures_bind (ensures_modify (ensures_pure ((of_same checked.1.1).setRuntime _)))

theorem reportFailure (session : Session) (patchNumber : Int) (reason : String) (device : Device) :
    device.Keeps (reportFailure session patchNumber reason device).2 := by
  unfold Updater.reportFailure
  split
  · exact refl device
  · apply statusOf
    apply ensures_bind
    refine (onCache ?_).mono ?_ (fun _ _ kept => kept)
    · refine (markFailure_ensures session.env _ reason _).mono ?_ ?_
      · intro _ after marked
        rw [marked.1]
        rfl
      · intro _ after same
        rw [same.state]
    · intro _ after kept
      exact ensures_modify (kept.setRuntime _)

theorem fcbPatchNumber (session : Session) (number : State → Nat) (label : String)
    (device : Device) : device.Keeps (fcbPatchNumber session number label device).2 := by
  apply statusOf
  apply ensures_bind
  refine (onCache ?_).mono ?_ (fun _ _ kept => kept)
  · refine (loadState_ensures session.env _).mono ?_ ?_
    · intro _ after loaded
      rw [loaded.2.state]
    · intro _ after failed
      rw [failed.1.state]
  · intro state after kept
    split
    · exact ensures_throw kept
    · exact ensures_pure kept

theorem fcbDrainRollbackEvents (session : Session) (device : Device) :
    device.Keeps (fcbDrainRollbackEvents session device).2 := by
  apply statusOf
  apply onCache
  apply ensures_bind
  refine (rollbackEvents_ensures session.env _).mono ?_ ?_
  · intro events read same
    apply ensures_bind
    refine (clearRollbackEvents_ensures session.env read).mono ?_ ?_
    · intro _ after cleared
      apply ensures_pure
      rw [cleared.state, same.state]
    · intro _ after cleared
      rw [cleared.state, same.state]
  · intro _ after same
    rw [same.state]

theorem fcbMarkLaunchSuccess (session : Session) (device : Device) :
    device.Keeps (fcbMarkLaunchSuccess session device).2 := by
  apply statusOf
  apply onCache
  refine (markSuccess_ensures session.env _).mono ?_ ?_
  · intro _ after marked
    obtain ⟨last, _, _, _, succeeded⟩ := State.markSuccess_eq_ok marked.1
    rw [succeeded]
    rfl
  · intro _ after same
    rw [same.state]

theorem fcbIsNewPatchReadyToInstall (session : Session) (device : Device) :
    device.Keeps (fcbIsNewPatchReadyToInstall session device).2 := by
  apply statusOf
  apply onCache
  refine (readyPatch_ensures session.env _).mono ?_ ?_
  · intro _ after same
    rw [same.state]
  · intro _ after same
    rw [same.state]

end Device.Keeps

/-!
## Launches
-/

theorem fcbGetLaunchPatch_spec (session : Session) (device : Device) :
    device.Keeps (fcbGetLaunchPatch session device).2 ∧
      ∀ patch, (fcbGetLaunchPatch session device).1 = .ok (some patch) →
        patch ∈ device.cache.disk.state.installed := by
  have launched : Ensures (onCache (launchPatch session.env)) device
      (fun found after => device.Keeps after ∧
        ∀ patch, found = some patch → patch ∈ device.cache.disk.state.installed)
      (fun _ after => device.Keeps after) := by
    apply ensures_onCache
    refine (launchPatch_ensures session.env _).mono ?_ ?_
    · intro found disk answered
      have after : disk.state = (device.cache.disk.state.launch session.env.now).1 :=
        congrArg Prod.fst answered.1
      have answer : found = (device.cache.disk.state.launch session.env.now).2 :=
        congrArg Prod.snd answered.1
      constructor
      · apply Device.Keeps.setCache
        rw [after, State.launch_installed]
      · intro patch present
        exact State.launched_installed (answer.symm.trans present)
    · intro _ disk failed
      exact Device.Keeps.setCache device (congrArg State.installed failed.1.state)
  unfold Ensures at launched
  unfold fcbGetLaunchPatch
  split at launched
  case h_1 found after ended =>
    have kept := launched.1.trans (.flushRollbackEvents session after)
    rw [ended]
    dsimp only
    split
    · exact ⟨kept.setRuntime _, by simp⟩
    · exact ⟨kept, fun patch present => launched.2 patch (Except.ok.inj present)⟩
  case h_2 error after ended =>
    rw [ended]
    exact ⟨launched.setRuntime _, by simp⟩

/-!
## Origins
-/

/-- For each cache directory and patch number, the manifest last installed. -/
abbrev Origins := String → Nat → Option PatchManifest

/-- The manifest of the patch that a download hands to the install. -/
def downloadedManifest (lib : Primitives) (session : Session) (device : Device) :
    Option PatchManifest :=
  match (downloadPatch lib session device).1 with
  | .ok (some request) => (acceptPatch lib session.env request).toOption
  | _ => none

def Origins.record (origins : Origins) (cacheDir : String) (manifest : PatchManifest) : Origins :=
  fun dir patchNumber =>
    if dir = cacheDir ∧ patchNumber = manifest.patchNumber then some manifest
    else origins dir patchNumber

@[simp] theorem Origins.record_self (origins : Origins) (cacheDir : String)
    (manifest : PatchManifest) :
    origins.record cacheDir manifest cacheDir manifest.patchNumber = some manifest := by
  simp [record]

theorem Origins.record_other {origins : Origins} {cacheDir dir : String} {manifest : PatchManifest}
    {patchNumber : Nat} (other : ¬(dir = cacheDir ∧ patchNumber = manifest.patchNumber)) :
    origins.record cacheDir manifest dir patchNumber = origins dir patchNumber := by
  simp [record, other]

/-- Only a download that reports an install adds an origin. -/
def Origins.track (lib : Primitives) (origins : Origins) (before : Device) (input : DeviceInput)
    (answer : DeviceAnswer) (_ : Device) : Origins :=
  match input.call, answer, downloadedManifest lib input.session before with
  | .downloadAndInstall, .status 1, some manifest => origins.record before.runtime.cacheDir manifest
  | _, _, _ => origins

/-- The manifest passed the checks of an install, which made the record from it. -/
def IsOrigin (lib : Primitives) (manifest : PatchManifest) (patch : InstalledPatch) : Prop :=
  ∃ env request artifactPath, acceptPatch lib env request = .ok manifest ∧
    patch = installedRecord env manifest artifactPath

/-- Every record of every cache directory has an origin. -/
def Originated (lib : Primitives) (device : Device) (origins : Origins) : Prop :=
  ∀ dir, ∀ patch ∈ (device.caches dir).disk.state.installed,
    ∃ manifest, origins dir patch.patchNumber = some manifest ∧ IsOrigin lib manifest patch

namespace Originated

variable {lib : Primitives} {device after : Device} {origins : Origins}

theorem new (lib : Primitives) (origins : Origins) : Originated lib Device.new origins := by
  intro dir patch member
  cases member

theorem keeps (originated : Originated lib device origins) (kept : device.Keeps after) :
    Originated lib after origins :=
  fun dir patch member => originated dir patch (kept dir patch member)

theorem install {session : Session} {request : InstallRequest} {manifest : PatchManifest}
    (originated : Originated lib device origins)
    (installed : InstalledFrom lib session device after request manifest) :
    Originated lib after (origins.record device.runtime.cacheDir manifest) := by
  intro dir patch member
  by_cases own : dir = device.runtime.cacheDir
  · subst own
    obtain ⟨artifactPath, recorded⟩ := installed.recorded
    unfold Device.cache at recorded
    rw [installed.runtime] at recorded
    rw [recorded] at member
    rcases State.mem_of_mem_install member with ⟨old, other⟩ | rfl
    · obtain ⟨origin, known, made⟩ := originated _ patch old
      rw [Origins.record_other (fun same => other same.2)]
      exact ⟨origin, known, made⟩
    · refine ⟨manifest, ?_, session.env, request, artifactPath, installed.accepted, rfl⟩
      exact origins.record_self _ manifest
  · rw [installed.others dir own] at member
    rw [Origins.record_other (fun same => own same.1)]
    exact originated dir patch member

theorem download (originated : Originated lib device origins) (session : Session) :
    Originated lib (fcbDownloadAndInstall lib session device).2
      (origins.track lib device ⟨session, .downloadAndInstall⟩
        (.status (fcbDownloadAndInstall lib session device).1)
        (fcbDownloadAndInstall lib session device).2) := by
  have ensured := downloadAndInstall_ensures lib session device
  unfold Ensures at ensured
  unfold fcbDownloadAndInstall statusOf
  split at ensured
  case h_1 installed after ended =>
    rw [ended]
    cases installed with
    | false => exact originated.keeps (.of_same ensured)
    | true =>
        obtain ⟨request, manifest, install⟩ := ensured
        have known : downloadedManifest lib session device = some manifest := by
          simp [downloadedManifest, install.found, install.accepted, Except.toOption]
        simp only [Origins.track, known]
        exact originated.install install
  case h_2 error after ended =>
    rw [ended]
    exact originated.keeps ((Device.Keeps.of_same ensured).setRuntime _)

theorem step (originated : Originated lib device origins) (input : DeviceInput) :
    Originated lib (deviceStep lib input device).2
      (origins.track lib device input (deviceStep lib input device).1
        (deviceStep lib input device).2) := by
  obtain ⟨session, call⟩ := input
  cases call with
  | downloadAndInstall => exact originated.download session
  | restart => exact originated.keeps (.refl device)
  | init params => exact originated.keeps (.fcbInit lib session params device)
  | setServerUrl serverUrl => exact originated.keeps (.fcbSet _ _ _ device)
  | setOrgId orgId => exact originated.keeps (.fcbSet _ _ _ device)
  | setClientId clientId => exact originated.keeps (.fcbSet _ _ _ device)
  | setBaselineArtifactPath path content => exact originated.keeps (.fcbSet _ _ _ device)
  | checkForUpdate => exact originated.keeps (.fcbCheckForUpdate session device)
  | getLaunchPatch =>
      have kept := (fcbGetLaunchPatch_spec session device).1
      unfold deviceStep
      dsimp only
      split
      case h_1 ended =>
        rw [ended] at kept
        exact originated.keeps kept
      case h_2 ended =>
        rw [ended] at kept
        exact originated.keeps kept
  | isNewPatchReady => exact originated.keeps (.fcbIsNewPatchReadyToInstall session device)
  | markLaunchSuccess => exact originated.keeps (.fcbMarkLaunchSuccess session device)
  | markLaunchFailure patchNumber reason => exact originated.keeps (.reportFailure _ _ _ device)
  | reportInterpretFailure patchNumber functionId error =>
      exact originated.keeps (.reportFailure _ _ _ device)
  | drainRollbackEvents => exact originated.keeps (.fcbDrainRollbackEvents session device)
  | currentPatchNumber => exact originated.keeps (.fcbPatchNumber _ _ _ device)
  | activePatchNumber => exact originated.keeps (.fcbPatchNumber _ _ _ device)
  | lastKnownGoodPatchNumber => exact originated.keeps (.fcbPatchNumber _ _ _ device)

end Originated

/-- A device and the origins, along a run. -/
def originStep (lib : Primitives) : DeviceInput → Device × Origins → DeviceAnswer × (Device × Origins) :=
  accompanied (deviceStep lib) (Origins.track lib)

theorem originStep_originated (lib : Primitives) (inputs : List DeviceInput) :
    let reached := runFrom (originStep lib) (Device.new, fun _ _ => none) inputs
    Originated lib reached.1 reached.2 :=
  (guarded_true (originStep lib) _ inputs).invariant
    (fun state => Originated lib state.1 state.2)
    (fun _ input originated _ => originated.step input) (.new lib _)

/-!
## The release of a launched patch
-/

/-- The answer of a launch depends on the cache directory alone. -/
theorem fcbGetLaunchPatch_of_disk {session : Session} {device other : Device}
    (same : other.cache.disk = device.cache.disk) :
    (fcbGetLaunchPatch session other).1 = (fcbGetLaunchPatch session device).1 := by
  unfold fcbGetLaunchPatch onCache
  rw [same]
  rcases launchPatch session.env device.cache.disk with ⟨error | launched, disk⟩
  · rfl
  · dsimp only
    split
    · rfl
    · rfl

theorem fcbInit_disk (lib : Primitives) (session : Session) (params : InitParams) (device : Device)
    (dir : String) :
    ((fcbInit lib session params device).2.caches dir).disk = (device.caches dir).disk := by
  unfold fcbInit
  split
  · rfl
  · unfold persistRuntimeConfig
    split
    · simp only [Device.setCache, Device.cache]
      split
      case isTrue own => rw [own]
      case isFalse => rfl
    · rfl

/-- Every launched patch was installed into the runtime's cache directory with an
accepted manifest. An initialisation that stays in the directory, with whatever
release, does not change what is launched. -/
theorem launched_patches_have_origins (lib : Primitives) (inputs : List DeviceInput)
    (session : Session) :
    let reached := runFrom (originStep lib) (Device.new, fun _ _ => none) inputs
    let device := reached.1
    let origins := reached.2 device.runtime.cacheDir
    (∀ patch, (fcbGetLaunchPatch session device).1 = .ok (some patch) →
      ∃ manifest, origins patch.patchNumber = some manifest ∧ IsOrigin lib manifest patch) ∧
    ∀ initSession params,
      let initialised := (fcbInit lib initSession params device).2
      initialised.runtime.cacheDir = device.runtime.cacheDir →
      (fcbGetLaunchPatch session initialised).1 = (fcbGetLaunchPatch session device).1 := by
  intro reached device origins
  have originated : Originated lib device reached.2 := originStep_originated lib inputs
  constructor
  · intro patch launched
    have member := (fcbGetLaunchPatch_spec session device).2 patch launched
    exact originated _ patch member
  · intro initSession params initialised stays
    apply fcbGetLaunchPatch_of_disk
    unfold Device.cache
    rw [stays]
    exact fcbInit_disk lib initSession params device device.runtime.cacheDir

def sampleInit (releaseVersion : String) : InitParams where
  appId := some (stringBytes "counter")
  channel := none
  releaseVersion := some (stringBytes releaseVersion)
  platform := some (stringBytes "android")
  arch := some (stringBytes "arm64")
  cacheDir := none
  publicKeyPem := some (stringBytes sampleKey.1)

/-- Release 1.0.0 installs patch 1. -/
def sampleRun : List DeviceInput :=
  [⟨sampleSession, .init (sampleInit "1.0.0")⟩,
    ⟨sampleSession, .setServerUrl (some (stringBytes "http://localhost:8080"))⟩,
    ⟨sampleSession, .downloadAndInstall⟩]

/-- Then the app is updated to release 2.0.0. -/
def sampleUpgrade : List DeviceInput :=
  sampleRun ++ [⟨sampleSession, .restart⟩, ⟨sampleSession, .init (sampleInit "2.0.0")⟩]

theorem sample_launch_has_origin :
    let reached := runFrom (originStep sampleLib) (Device.new, fun _ _ => none) sampleRun
    let origins := reached.2 reached.1.runtime.cacheDir
    let record := installedRecord sampleEnv (sampleManifest 1) none
    (fcbGetLaunchPatch sampleSession reached.1).1 = .ok (some record) ∧
    ∃ manifest, origins record.patchNumber = some manifest ∧ IsOrigin sampleLib manifest record := by
  intro reached origins record
  have launched : (fcbGetLaunchPatch sampleSession reached.1).1 = .ok (some record) := by
    decide
  exact ⟨launched, (launched_patches_have_origins sampleLib sampleRun sampleSession).1 record launched⟩

theorem upgraded_app_launches_old_patch :
    ¬ ∀ (lib : Primitives) (inputs : List DeviceInput) (session : Session) (patch : InstalledPatch)
        (manifest : PatchManifest),
      let reached := runFrom (originStep lib) (Device.new, fun _ _ => none) inputs
      (fcbGetLaunchPatch session reached.1).1 = .ok (some patch) →
      reached.2 reached.1.runtime.cacheDir patch.patchNumber = some manifest →
      manifest.releaseVersion = reached.1.runtime.releaseVersion := by
  intro bound
  have released := bound sampleLib sampleUpgrade sampleSession
    (installedRecord sampleEnv (sampleManifest 1) none) (sampleManifest 1)
    (by decide) (by decide)
  revert released
  decide

end CodePush.Updater
