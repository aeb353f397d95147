import CodePush.Updater.Durability
import CodePush.Updater.InstallSteps

/-!
# Failed installs

`install_payload_with_baseline` writes into the directory of the patch number before it computes
and checks the artifact. If it fails after that, the files of a patch of the same number that
was installed before are those of the new one.
-/

set_option autoImplicit false

namespace CodePush.Updater

open CodePush.Core CodePush.Foundation

/-- The state file is the same, and so are the files of all installed patches. -/
structure Disk.Untouched (before after : Disk) : Prop where
  stateFile : after.stateFile = before.stateFile
  files : ∀ patch ∈ before.state.installed,
    after.files patch.patchNumber = before.files patch.patchNumber

/-- What an accepted install overwrites, as far as it comes, was there before, if the patch is
an installed one; and if it comes to the pruning, that removes nothing. -/
structure SparesFiles (lib : Primitives) (env : Environment) (request : InstallRequest)
    (disk : Disk) (manifest : PatchManifest) : Prop where
  sameManifest : env.io .writeManifest = .ok () → disk.state.isInstalled manifest.patchNumber = true →
    (disk.files manifest.patchNumber).manifest = some request.manifestFile
  samePayload : env.io .writeManifest = .ok () → env.io .writePayload = .ok () →
    disk.state.isInstalled manifest.patchNumber = true →
    (disk.files manifest.patchNumber).payload = some request.payloadFile
  sameArtifact : env.io .writeManifest = .ok () → env.io .writePayload = .ok () → ∀ artifact,
    prepare lib env request disk manifest = .ok (some artifact) →
    disk.state.isInstalled manifest.patchNumber = true →
    (disk.files manifest.patchNumber).artifact = some artifact
  nothingPruned : env.io .writeManifest = .ok () → env.io .writePayload = .ok () → ∀ artifact,
    prepare lib env request disk manifest = .ok artifact →
    ∀ number ∈ disk.state.prunedBy manifest.releaseVersion
      (installedRecord env manifest (artifactPath manifest artifact)),
      env.io (.removePatchDir number) = .ok () → disk.files number = .blank

/-- Whether the files of the patch are the ones that the install writes. -/
theorem forall_installed_iff {disk after : Disk} {patchNumber : Nat}
    (others : ∀ number, number ≠ patchNumber → after.files number = disk.files number) :
    (∀ patch ∈ disk.state.installed, after.files patch.patchNumber = disk.files patch.patchNumber) ↔
      (disk.state.isInstalled patchNumber = true → after.files patchNumber = disk.files patchNumber) := by
  constructor
  · intro same installed
    obtain ⟨patch, member, rfl⟩ := State.isInstalled_iff.mp installed
    exact same patch member
  · intro own patch member
    by_cases same : patch.patchNumber = patchNumber
    · rw [same]
      exact own (State.isInstalled_iff.mpr ⟨patch, member, same⟩)
    · exact others _ same

/-- A pruned patch is an installed one, other than the new one. -/
theorem State.mem_prunedBy {state : State} {releaseVersion : String} {patch : InstalledPatch}
    {number : Nat} (pruned : number ∈ state.prunedBy releaseVersion patch) :
    state.isInstalled number = true ∧ number ≠ patch.patchNumber := by
  have other : number ≠ patch.patchNumber := by
    rintro rfl
    exact State.not_prunedBy_of_keeps (by simp [State.keepsOnPrune, State.addInstalled]) pruned
  obtain ⟨old, removed, rfl⟩ := List.mem_map.mp pruned
  rcases State.mem_addInstalled.mp ((pruneInstalled_spec _ _ _).1 old removed).1 with ⟨member, _⟩ | rfl
  · exact ⟨State.isInstalled_iff.mpr ⟨old, member, rfl⟩, other⟩
  · exact absurd rfl other

namespace Disk

variable {disk : Disk} {patchNumber number : Nat} {request : InstallRequest}

theorem files_described : (disk.described patchNumber request).files number =
    if number = patchNumber then { disk.files number with manifest := some request.manifestFile }
    else disk.files number := by
  unfold described
  rw [files_updateDir, files_updateDir]
  split
  · rfl
  · rfl

theorem files_filled : (disk.filled patchNumber request).files number =
    if number = patchNumber then
      { disk.files number with
        manifest := some request.manifestFile, payload := some request.payloadFile }
    else disk.files number := by
  unfold filled
  rw [files_updateDir, files_described]
  split
  · rfl
  · rfl

theorem files_withArtifact (artifact : Option Bytes) :
    (disk.withArtifact patchNumber artifact).files number =
      if number = patchNumber then
        { disk.files number with artifact := artifact.or (disk.files number).artifact }
      else disk.files number := by
  cases artifact with
  | none =>
      split
      · rfl
      · rfl
  | some artifact => simp only [withArtifact, files_updateDir, Option.some_or]

end Disk

namespace PatchDir

variable {dir : PatchDir} {manifest payload : Bytes} {artifact : Option Bytes}

theorem manifest_same_iff : { dir with manifest := some manifest } = dir ↔
    dir.manifest = some manifest := by
  obtain ⟨ownManifest, ownPayload, ownArtifact⟩ := dir
  simp [eq_comm]

theorem filled_same_iff : { dir with manifest := some manifest, payload := some payload } = dir ↔
    dir.manifest = some manifest ∧ dir.payload = some payload := by
  obtain ⟨ownManifest, ownPayload, ownArtifact⟩ := dir
  simp [eq_comm]

theorem patched_same_iff :
    PatchDir.mk (some manifest) (some payload) (artifact.or dir.artifact) = dir ↔
      dir.manifest = some manifest ∧ dir.payload = some payload ∧
        ∀ written, artifact = some written → dir.artifact = some written := by
  obtain ⟨ownManifest, ownPayload, ownArtifact⟩ := dir
  cases artifact with
  | none => simp [eq_comm]
  | some artifact => simp [eq_comm]

end PatchDir

/-- What the directories hold when the state is saved. -/
theorem Disk.files_cleaned (disk : Disk) (env : Environment) (request : InstallRequest)
    (manifest : PatchManifest) (artifact : Option Bytes) (number : Nat) :
    (disk.cleaned env request manifest artifact).files number =
      if number ∈ disk.state.prunedBy manifest.releaseVersion
          (installedRecord env manifest (artifactPath manifest artifact)) ∧
          env.io (.removePatchDir number) = .ok () then .blank
      else if number = manifest.patchNumber then
        ⟨some request.manifestFile, some request.payloadFile,
          artifact.or (disk.files number).artifact⟩
      else disk.files number := by
  unfold Disk.cleaned State.prunedBy
  rw [Disk.files_withoutDirs, Disk.files_withArtifact, Disk.files_filled]
  split
  · rfl
  · split
    · rfl
    · rfl

/-- After a failure, everything is as before exactly if the install has spared the files. -/
theorem FailedInstall.untouched_iff {lib : Primitives} {env : Environment} {request : InstallRequest}
    {disk after : Disk} (failed : FailedInstall lib env request disk after) :
    disk.Untouched after ↔ ∀ manifest, acceptPatch lib env request = .ok manifest →
      env.io .createPatchDir = .ok () → SparesFiles lib env request disk manifest := by
  have files : disk.Untouched after ↔ ∀ patch ∈ disk.state.installed,
      after.files patch.patchNumber = disk.files patch.patchNumber :=
    ⟨fun untouched => untouched.files, fun same => ⟨failed.stateFile, same⟩⟩
  rw [files]
  cases failed with
  | refused refused =>
      refine iff_of_true (fun _ _ => rfl) fun manifest accepted created => ?_
      exact absurd created (refused manifest accepted)
  | @undescribed manifest accepted created described =>
      refine iff_of_true ?_ fun other accepts _ => ?_
      · intro patch _
        rw [Disk.files_updateDir]
        split
        · rfl
        · rfl
      · exact ⟨fun written => absurd written described, fun written => absurd written described,
          fun written => absurd written described, fun written => absurd written described⟩
  | @unfilled manifest accepted created described filled =>
      have own : (disk.described manifest.patchNumber request).files manifest.patchNumber =
          disk.files manifest.patchNumber ↔
          (disk.files manifest.patchNumber).manifest = some request.manifestFile := by
        rw [Disk.files_described, if_pos rfl]
        exact PatchDir.manifest_same_iff
      rw [forall_installed_iff (fun number other => by rw [Disk.files_described, if_neg other]), own]
      constructor
      · intro same other accepts _
        rw [accepted] at accepts
        cases accepts
        exact ⟨fun _ => same, fun _ written => absurd written filled,
          fun _ written => absurd written filled, fun _ written => absurd written filled⟩
      · intro spares
        exact (spares manifest accepted created).sameManifest described
  | @unprepared manifest accepted created described filled unprepared =>
      have own : (disk.filled manifest.patchNumber request).files manifest.patchNumber =
          disk.files manifest.patchNumber ↔
          (disk.files manifest.patchNumber).manifest = some request.manifestFile ∧
            (disk.files manifest.patchNumber).payload = some request.payloadFile := by
        rw [Disk.files_filled, if_pos rfl]
        exact PatchDir.filled_same_iff
      rw [forall_installed_iff (fun number other => by rw [Disk.files_filled, if_neg other]), own]
      constructor
      · intro same other accepts _
        rw [accepted] at accepts
        cases accepts
        exact ⟨fun _ installed => (same installed).1, fun _ _ installed => (same installed).2,
          fun _ _ artifact prepared => absurd prepared (unprepared _),
          fun _ _ artifact prepared => absurd prepared (unprepared artifact)⟩
      · intro spares installed
        have spared := spares manifest accepted created
        exact ⟨spared.sameManifest described installed, spared.samePayload described filled installed⟩
  | @unsaved manifest artifact accepted created described filled prepared unsaved =>
      have cleaned := fun number => Disk.files_cleaned disk env request manifest artifact number
      constructor
      · intro same other accepts _
        rw [accepted] at accepts
        cases accepts
        have own : disk.state.isInstalled manifest.patchNumber = true →
            (disk.files manifest.patchNumber).manifest = some request.manifestFile ∧
            (disk.files manifest.patchNumber).payload = some request.payloadFile ∧
            ∀ written, artifact = some written →
              (disk.files manifest.patchNumber).artifact = some written := by
          intro installed
          obtain ⟨patch, member, number⟩ := State.isInstalled_iff.mp installed
          have kept := same patch member
          rw [number, cleaned, if_neg (fun pruned => (State.mem_prunedBy pruned.1).2 rfl),
            if_pos rfl] at kept
          exact PatchDir.patched_same_iff.mp kept
        refine ⟨fun _ installed => (own installed).1, fun _ _ installed => (own installed).2.1, ?_, ?_⟩
        · intro _ _ written computed installed
          rw [prepared] at computed
          exact (own installed).2.2 written (Except.ok.inj computed)
        · intro _ _ other computed number pruned removed
          rw [prepared] at computed
          cases computed
          obtain ⟨patch, member, rfl⟩ := State.isInstalled_iff.mp (State.mem_prunedBy pruned).1
          have kept := same patch member
          rw [cleaned, if_pos ⟨pruned, removed⟩] at kept
          exact kept.symm
      · intro spares patch member
        have spared := spares manifest accepted created
        rw [cleaned]
        split
        case isTrue gone =>
          exact (spared.nothingPruned described filled artifact prepared _ gone.1 gone.2).symm
        case isFalse =>
          split
          case isTrue number =>
            have installed : disk.state.isInstalled manifest.patchNumber = true :=
              State.isInstalled_iff.mpr ⟨patch, member, number⟩
            rw [number]
            refine PatchDir.patched_same_iff.mpr ⟨spared.sameManifest described installed,
              spared.samePayload described filled installed, ?_⟩
            rintro written rfl
            exact spared.sameArtifact described filled written prepared installed
          case isFalse => rfl

/-- An install that fails leaves the state file and the files of the installed patches alone
exactly if it is refused, or spares the files. -/
theorem failed_install_atomic_iff (lib : Primitives) (calls : List Call) (env : Environment)
    (request : InstallRequest) (error : Error) (after : Disk)
    (failed : installPayloadWithBaseline lib env request (runFrom (perform lib) Disk.empty calls) =
      (.error error, after)) :
    (runFrom (perform lib) Disk.empty calls).Untouched after ↔
      ∀ manifest, acceptPatch lib env request = .ok manifest → env.io .createPatchDir = .ok () →
        SparesFiles lib env request (runFrom (perform lib) Disk.empty calls) manifest :=
  ((install_ends lib env request (intact_run lib calls)).of_error failed).untouched_iff

/-- A payload that does not have the announced hash is refused. -/
theorem refused_install_untouched :
    (installPayloadWithBaseline sampleLib sampleEnv { sampleInstall 1 with payloadFile := [] }
      sampleDisk).1 = err "payload sha256 mismatch" ∧
    sampleDisk.Untouched (installPayloadWithBaseline sampleLib sampleEnv
      { sampleInstall 1 with payloadFile := [] } sampleDisk).2 := by
  have refused : (installPayloadWithBaseline sampleLib sampleEnv
      { sampleInstall 1 with payloadFile := [] } sampleDisk).1 = err "payload sha256 mismatch" := by
    decide
  refine ⟨refused, ?_⟩
  have ended : ∀ (outcome : Result Unit × Disk) (text : String), outcome.1 = err text →
      outcome = (.error (.message text), outcome.2) := fun _ _ same => Prod.ext same rfl
  refine (failed_install_atomic_iff sampleLib sampleHistory sampleEnv _ _ _
    (ended _ _ refused)).mpr ?_
  intro manifest accepted
  have rejects : acceptPatch sampleLib sampleEnv { sampleInstall 1 with payloadFile := [] } =
      err "payload sha256 mismatch" := by decide
  rw [rejects] at accepted
  cases accepted

/-- The Ed25519 signature of the patch below. -/
def diffSignature : String × Bytes :=
  ("jOFsErlgi+AymNta3STD8vzc+021Cn1c1/rbrCsuVyUXAj6AYHAicwE3ZfcxU1S9TjSjPEM4VWcHBOvCl9TICA==",
    [140, 225, 108, 18, 185, 96, 139, 224, 50, 152, 219, 90, 221, 36, 195, 242, 252, 220, 251, 77,
    181, 10, 125, 92, 215, 250, 219, 172, 43, 46, 87, 37, 23, 2, 62, 128, 96, 112, 34, 115, 1, 55,
    101, 247, 49, 83, 84, 189, 78, 52, 163, 60, 67, 56, 85, 103, 7, 4, 235, 194, 151, 212, 200, 8])

/-- A diff against an artifact that the device does not have. -/
def diffManifest : PatchManifest :=
  { sampleManifest 1 with
    backend := "snapshot_replace"
    payload :=
      { (sampleManifest 1).payload with
        kind := "binary_diff"
        diffAlgorithm := some "fcb-simple-v1"
        baseHash := some "0000000000000000000000000000000000000000000000000000000000000000"
        outputHash := some "0000000000000000000000000000000000000000000000000000000000000000" }
    signature := { algorithm := "ed25519", keyId := "dev", value := diffSignature.1 } }

/-- Unlike the sample files, it starts with the schema version. -/
def diffManifestFile : Bytes := stringBytes diffManifest.toValue.print

def diffLib : Primitives :=
  { sampleLib with
    parseManifest := fun bytes =>
      if bytes[2]? = some 115 then .ok diffManifest else sampleLib.parseManifest bytes
    decodeBase64 := fun text =>
      if text = diffSignature.1 then .ok diffSignature.2 else sampleLib.decodeBase64 text
    encodeBase64 := fun bytes =>
      if bytes = diffSignature.2 then diffSignature.1 else sampleLib.encodeBase64 bytes
    verify := fun key message signature =>
      if key = sampleKey.2 ∧ signature = diffSignature.2 then .ok ()
      else sampleLib.verify key message signature }

def diffInstall : InstallRequest :=
  { sampleInstall 1 with manifestFile := diffManifestFile }

/-- Patch 1 is installed when a diff with the same number fails; its manifest is overwritten. -/
theorem failed_diff_overwrites_manifest :
    ¬ ∀ (lib : Primitives) (calls : List Call) (env : Environment) (request : InstallRequest)
        (error : Error) (after : Disk),
      installPayloadWithBaseline lib env request (runFrom (perform lib) Disk.empty calls) =
        (.error error, after) →
      (runFrom (perform lib) Disk.empty calls).Untouched after := by
  intro atomic
  have failed : (installPayloadWithBaseline diffLib sampleEnv diffInstall
      (runFrom (perform diffLib) Disk.empty sampleHistory)).1 =
        err "no installed patch artifact matches base_hash and no baseline artifact provided" := by
    decide +kernel
  have ended : ∀ (outcome : Result Unit × Disk) (text : String), outcome.1 = err text →
      outcome = (.error (.message text), outcome.2) := fun _ _ same => Prod.ext same rfl
  have untouched := atomic diffLib sampleHistory sampleEnv diffInstall _ _ (ended _ _ failed)
  have installed : installedRecord sampleEnv (sampleManifest 1) none ∈
      (runFrom (perform diffLib) Disk.empty sampleHistory).state.installed := by decide
  have kept := congrArg (fun dir => dir.manifest.bind (·[2]?)) (untouched.files _ installed)
  revert kept
  decide +kernel

end CodePush.Updater
