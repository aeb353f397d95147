import CodePush.Updater.StateProperties

/-!
# Where an install stops

An install writes the files of its patch before it knows whether it will succeed. This module
says how far a failed install has come, and what it has left in the patch directories.
-/

set_option autoImplicit false

namespace CodePush.Updater

open CodePush.Core CodePush.Foundation CodePush.Foundation.Action

/-!
## Patch directories
-/

/-- What a patch directory holds; a missing one holds nothing. -/
def Disk.files (disk : Disk) (number : Nat) : PatchDir := (disk.patches number).getD .blank

theorem Disk.files_updateDir (disk : Disk) (patchNumber number : Nat) (update : PatchDir → PatchDir) :
    (disk.updateDir patchNumber update).files number =
      if number = patchNumber then update (disk.files number) else disk.files number := by
  unfold Disk.files Disk.updateDir
  dsimp only
  split
  · rfl
  · rfl

/-- The directory with its manifest and its payload. -/
def Disk.described (disk : Disk) (patchNumber : Nat) (request : InstallRequest) : Disk :=
  (disk.updateDir patchNumber id).updateDir patchNumber
    ({ · with manifest := some request.manifestFile })

def Disk.filled (disk : Disk) (patchNumber : Nat) (request : InstallRequest) : Disk :=
  (disk.described patchNumber request).updateDir patchNumber
    ({ · with payload := some request.payloadFile })

def Disk.withArtifact (disk : Disk) (patchNumber : Nat) : Option Bytes → Disk
  | none => disk
  | some artifact => disk.updateDir patchNumber ({ · with artifact := some artifact })

/-- The directories that the pruning loop removes, unless the removal fails. -/
def Disk.withoutDirs (env : Environment) : List InstalledPatch → Disk → Disk
  | [], disk => disk
  | old :: others, disk =>
      match env.io (.removePatchDir old.patchNumber) with
      | .ok _ => Disk.withoutDirs env others (disk.removeDir old.patchNumber)
      | .error _ => Disk.withoutDirs env others disk

theorem removePatchDirs_eq (env : Environment) (old : List InstalledPatch) (disk : Disk) :
    removePatchDirs env old disk = (.ok (), disk.withoutDirs env old) := by
  induction old generalizing disk with
  | nil => rfl
  | cons patch old ih =>
      unfold removePatchDirs Disk.withoutDirs
      rw [Action.run_bind]
      cases removed : env.io (.removePatchDir patch.patchNumber) with
      | ok value => exact ih _
      | error error => exact ih disk

theorem Disk.withoutDirs_stateFile (env : Environment) (old : List InstalledPatch) (disk : Disk) :
    (disk.withoutDirs env old).stateFile = disk.stateFile := by
  induction old generalizing disk with
  | nil => rfl
  | cons patch old ih =>
      unfold Disk.withoutDirs
      split
      · exact ih _
      · exact ih disk

/-- A directory is gone exactly if it is one of those and its removal did not fail. -/
theorem Disk.files_withoutDirs (env : Environment) (old : List InstalledPatch) (disk : Disk)
    (number : Nat) : (disk.withoutDirs env old).files number =
      if number ∈ old.map (·.patchNumber) ∧ env.io (.removePatchDir number) = .ok () then .blank
      else disk.files number := by
  induction old generalizing disk with
  | nil => simp [Disk.withoutDirs]
  | cons patch old ih =>
      have dropped : (disk.removeDir patch.patchNumber).files number =
          if number = patch.patchNumber then .blank else disk.files number := by
        unfold Disk.files Disk.removeDir
        dsimp only
        split
        · rfl
        · rfl
      unfold Disk.withoutDirs
      by_cases same : number = patch.patchNumber
      · subst same
        cases removed : env.io (.removePatchDir patch.patchNumber) with
        | ok value => simp [ih, dropped, removed]
        | error error => simp [ih, removed]
      · split
        · simp [ih, dropped, same]
        · simp [ih, same]

theorem Disk.patches_withoutDirs (env : Environment) {old : List InstalledPatch} (disk : Disk) {number : Nat}
    (kept : number ∉ old.map (·.patchNumber)) : (disk.withoutDirs env old).patches number = disk.patches number := by
  induction old generalizing disk with
  | nil => rfl
  | cons patch old ih =>
      rw [List.map_cons, List.mem_cons, not_or] at kept
      unfold Disk.withoutDirs
      split
      · rw [ih _ kept.2]
        exact if_neg kept.1
      · exact ih disk kept.2

/-!
## The parts of an install
-/

/-- Whether the state file can be read. -/
def Disk.readable (disk : Disk) (env : Environment) : Result Unit :=
  match disk.stateFile with
  | .missing => .ok ()
  | .corrupt _ | .saved _ => env.io .readState

/-- The state file was not damaged. -/
def Disk.Intact (disk : Disk) : Prop := ∀ parseError, disk.stateFile ≠ .corrupt parseError

theorem loadState_intact (env : Environment) {disk : Disk} (intact : disk.Intact) :
    Ensures (loadState env) disk
      (fun state after => disk.readable env = .ok () ∧ state = disk.state ∧ after = disk)
      (fun _ after => disk.readable env ≠ .ok () ∧ after = disk) := by
  refine ensures_bind (ensures_get ?_)
  unfold Disk.readable Disk.state
  cases found : disk.stateFile with
  | missing => exact ensures_pure ⟨rfl, rfl, rfl⟩
  | corrupt parseError => exact absurd found (intact parseError)
  | saved state =>
      refine ensures_bind (ensures_attempt (fun _ read => ?_) (fun error read => ?_))
      · exact ensures_pure ⟨read, rfl, rfl⟩
      · refine ⟨?_, rfl⟩
        show env.io .readState ≠ .ok ()
        rw [read]
        exact fun same => nomatch same

/-- The artifact of a patch; `none` for a backend without one. -/
def artifactFor (lib : Primitives) (env : Environment) (request : InstallRequest) (disk : Disk)
    (manifest : PatchManifest) : Result (Option Bytes) :=
  if manifest.backend = "snapshot_replace" then do
    let artifact ← snapshotReplaceChainedDiff lib env disk.patches manifest request.payloadFile
      disk.state.installed request.baseline
    env.io .writeArtifact
    .ok (some artifact)
  else .ok none

/-- The diff only reads artifacts. -/
theorem snapshotReplaceChainedDiff_congr (lib : Primitives) (env : Environment)
    {one two : Nat → Option PatchDir}
    (same : ∀ number, (one number).bind (·.artifact) = (two number).bind (·.artifact))
    (manifest : PatchManifest) (payload : Bytes) (installed : List InstalledPatch)
    (baseline : Option Bytes) :
    snapshotReplaceChainedDiff lib env one manifest payload installed baseline =
      snapshotReplaceChainedDiff lib env two manifest payload installed baseline := by
  have artifacts : ∀ (expectedHash : String) (patches : List InstalledPatch),
      findArtifact lib env one expectedHash patches = findArtifact lib env two expectedHash patches := by
    intro expectedHash patches
    induction patches with
    | nil => rfl
    | cons patch older ih => simp only [findArtifact, same, ih]
  unfold snapshotReplaceChainedDiff findDiffBase
  simp only [artifacts]

theorem Disk.filled_artifact (disk : Disk) (patchNumber : Nat) (request : InstallRequest)
    (number : Nat) :
    ((disk.filled patchNumber request).patches number).bind (·.artifact) =
      (disk.patches number).bind (·.artifact) := by
  unfold Disk.filled Disk.described Disk.updateDir
  dsimp only
  split
  · cases disk.patches number with
    | none => rfl
    | some dir => rfl
  · rfl

theorem artifactFor_filled (lib : Primitives) (env : Environment) (request : InstallRequest)
    (disk : Disk) (manifest : PatchManifest) :
    artifactFor lib env request (disk.filled manifest.patchNumber request) manifest =
      artifactFor lib env request disk manifest := by
  unfold artifactFor
  have state : (disk.filled manifest.patchNumber request).state = disk.state := rfl
  rw [state, snapshotReplaceChainedDiff_congr lib env (disk.filled_artifact manifest.patchNumber request)]

/-- The path that the record of an installed patch keeps. -/
def artifactPath (manifest : PatchManifest) (artifact : Option Bytes) : Option String :=
  artifact.map fun _ => s!"patches/{manifest.patchNumber}/libapp.so"

theorem artifactOf_ensures_exact (lib : Primitives) (env : Environment) (request : InstallRequest)
    (manifest : PatchManifest) (disk : Disk) :
    Ensures (artifactOf lib env request manifest disk.state) disk
      (fun path after => ∃ artifact, artifactFor lib env request disk manifest = .ok artifact ∧
        path = artifactPath manifest artifact ∧ after = disk.withArtifact manifest.patchNumber artifact)
      (fun _ after => (∀ artifact, artifactFor lib env request disk manifest ≠ .ok artifact) ∧
        after = disk) := by
  unfold artifactOf artifactFor
  split
  case isTrue =>
    refine ensures_bind (ensures_get ?_)
    refine ensures_bind (ensures_attempt (fun artifact computed => ?_) (fun error failed => ?_))
    · refine ensures_bind (ensures_attempt (fun _ written => ?_) (fun error failed => ?_))
      · refine ensures_bind (ensures_modify ?_)
        refine ensures_pure ⟨some artifact, ?_, rfl, rfl⟩
        simp only [computed, written, bind, Except.bind]
      · refine ⟨fun artifact done => ?_, rfl⟩
        simp [computed, failed, bind, Except.bind] at done
    · refine ⟨fun artifact done => ?_, rfl⟩
      simp [failed, bind, Except.bind] at done
  case isFalse => exact ensures_pure ⟨none, rfl, rfl, rfl⟩

/-- What an install has to get before it saves the state, once its files are written. -/
def prepare (lib : Primitives) (env : Environment) (request : InstallRequest) (disk : Disk)
    (manifest : PatchManifest) : Result (Option Bytes) := do
  disk.readable env
  artifactFor lib env request disk manifest

/-- The directories at the time the state is saved. -/
def Disk.cleaned (disk : Disk) (env : Environment) (request : InstallRequest)
    (manifest : PatchManifest) (artifact : Option Bytes) : Disk :=
  ((disk.filled manifest.patchNumber request).withArtifact manifest.patchNumber artifact).withoutDirs
    env (disk.state.addInstalled manifest.releaseVersion
      (installedRecord env manifest (artifactPath manifest artifact))).pruned.1

/-!
## Failed installs
-/

/-- The disk that an install leaves behind when it fails. -/
inductive FailedInstall (lib : Primitives) (env : Environment) (request : InstallRequest)
    (disk : Disk) : Disk → Prop where
  | refused :
      (∀ manifest, acceptPatch lib env request = .ok manifest → env.io .createPatchDir ≠ .ok ()) →
      FailedInstall lib env request disk disk
  | undescribed {manifest : PatchManifest} :
      acceptPatch lib env request = .ok manifest → env.io .createPatchDir = .ok () →
      env.io .writeManifest ≠ .ok () →
      FailedInstall lib env request disk (disk.updateDir manifest.patchNumber id)
  | unfilled {manifest : PatchManifest} :
      acceptPatch lib env request = .ok manifest → env.io .createPatchDir = .ok () →
      env.io .writeManifest = .ok () → env.io .writePayload ≠ .ok () →
      FailedInstall lib env request disk (disk.described manifest.patchNumber request)
  | unprepared {manifest : PatchManifest} :
      acceptPatch lib env request = .ok manifest → env.io .createPatchDir = .ok () →
      env.io .writeManifest = .ok () → env.io .writePayload = .ok () →
      (∀ artifact, prepare lib env request disk manifest ≠ .ok artifact) →
      FailedInstall lib env request disk (disk.filled manifest.patchNumber request)
  | unsaved {manifest : PatchManifest} {artifact : Option Bytes} :
      acceptPatch lib env request = .ok manifest → env.io .createPatchDir = .ok () →
      env.io .writeManifest = .ok () → env.io .writePayload = .ok () →
      prepare lib env request disk manifest = .ok artifact → env.io .saveState ≠ .ok () →
      FailedInstall lib env request disk (disk.cleaned env request manifest artifact)

/-- And the one that a successful install leaves. -/
structure SavedInstall (lib : Primitives) (env : Environment) (request : InstallRequest)
    (disk after : Disk) (manifest : PatchManifest) (artifact : Option Bytes) : Prop where
  accepted : acceptPatch lib env request = .ok manifest
  created : env.io .createPatchDir = .ok ()
  described : env.io .writeManifest = .ok ()
  filled : env.io .writePayload = .ok ()
  prepared : prepare lib env request disk manifest = .ok artifact
  saved : env.io .saveState = .ok ()
  stateFile : after.stateFile = .saved (disk.state.install manifest.releaseVersion
    (installedRecord env manifest (artifactPath manifest artifact)))
  patches : after.patches = (disk.cleaned env request manifest artifact).patches

theorem Result.ne_ok {α : Type} {outcome : Result α} {error : Error} (failed : outcome = .error error)
    (value : α) : outcome ≠ .ok value := by
  rw [failed]
  exact fun same => nomatch same

theorem install_ends (lib : Primitives) (env : Environment) (request : InstallRequest) {disk : Disk}
    (intact : disk.Intact) :
    Ensures (installPayloadWithBaseline lib env request) disk
      (fun _ after => ∃ manifest artifact, SavedInstall lib env request disk after manifest artifact)
      (fun _ after => FailedInstall lib env request disk after) := by
  refine ensures_bind (ensures_attempt (fun manifest accepted => ?_) (fun error refused => ?_))
  · refine ensures_bind (ensures_attempt (fun _ created => ?_) (fun error failed => ?_))
    · refine ensures_bind (ensures_modify ?_)
      refine ensures_bind (ensures_attempt (fun _ described => ?_) (fun error failed => ?_))
      · refine ensures_bind (ensures_modify ?_)
        refine ensures_bind (ensures_attempt (fun _ filled => ?_) (fun error failed => ?_))
        · refine ensures_bind (ensures_modify ?_)
          have read := @loadState_intact env (disk.filled manifest.patchNumber request) intact
          refine ensures_bind (read.mono ?_ ?_)
          · rintro state loaded ⟨readable, rfl, rfl⟩
            have patched := artifactOf_ensures_exact lib env request manifest
              (disk.filled manifest.patchNumber request)
            rw [artifactFor_filled] at patched
            refine ensures_bind (patched.mono ?_ ?_)
            · rintro path middle ⟨artifact, computed, rfl, rfl⟩
              have prepared : prepare lib env request disk manifest = .ok artifact :=
                except_bind_eq_ok.mpr ⟨(), readable, computed⟩
              have removes := ensures_self (removePatchDirs env (disk.state.addInstalled
                manifest.releaseVersion (installedRecord env manifest
                  (artifactPath manifest artifact))).pruned.1)
                ((disk.filled manifest.patchNumber request).withArtifact manifest.patchNumber artifact)
              rw [removePatchDirs_eq] at removes
              refine ensures_bind (removes.mono ?_ ?_)
              · rintro _ cleaned ended
                obtain rfl : cleaned = disk.cleaned env request manifest artifact :=
                  (Prod.ext_iff.mp ended).2.symm
                refine ensures_bind (ensures_attempt (fun _ saved => ?_) (fun error failed => ?_))
                · exact ensures_modify ⟨manifest, artifact, accepted, created, described, filled,
                    prepared, saved, rfl, rfl⟩
                · exact .unsaved accepted created described filled prepared (Result.ne_ok failed ())
              · intro error after ended
                cases (Prod.ext_iff.mp ended).1
            · rintro error middle ⟨failed, rfl⟩
              refine .unprepared accepted created described filled fun artifact prepared => ?_
              obtain ⟨_, _, computed⟩ := except_bind_eq_ok.mp prepared
              exact failed artifact computed
          · rintro error loaded ⟨failed, rfl⟩
            refine .unprepared accepted created described filled fun artifact prepared => ?_
            obtain ⟨_, readable, _⟩ := except_bind_eq_ok.mp prepared
            exact failed readable
        · exact .unfilled accepted created described (Result.ne_ok failed ())
      · exact .undescribed accepted created (Result.ne_ok failed ())
    · refine .refused fun other accepts => ?_
      exact Result.ne_ok failed ()
  · refine .refused fun manifest accepts => ?_
    rw [refused] at accepts
    cases accepts

/-- The directory of the patch has these two files. -/
def Disk.Stores (disk : Disk) (number : Nat) (manifestFile payloadFile : Bytes) : Prop :=
  ∃ dir, disk.patches number = some dir ∧ dir.manifest = some manifestFile ∧ dir.payload = some payloadFile

theorem Disk.filled_stores (disk : Disk) (number : Nat) (request : InstallRequest) :
    (disk.filled number request).Stores number request.manifestFile request.payloadFile := by
  refine ⟨_, if_pos rfl, ?_, rfl⟩
  simp [Disk.described, Disk.updateDir]

theorem Disk.Stores.congr {disk after : Disk} {number : Nat} {manifestFile payloadFile : Bytes}
    (stores : disk.Stores number manifestFile payloadFile) (same : after.patches number = disk.patches number) :
    after.Stores number manifestFile payloadFile := by
  unfold Disk.Stores
  rw [same]
  exact stores

theorem artifactOf_stores (lib : Primitives) (env : Environment) (request : InstallRequest)
    (manifest : PatchManifest) (state : State) {disk : Disk} {manifestFile payloadFile : Bytes}
    (stores : disk.Stores manifest.patchNumber manifestFile payloadFile) :
    Ensures (artifactOf lib env request manifest state) disk
      (fun _ after => after.Stores manifest.patchNumber manifestFile payloadFile) (fun _ _ => True) := by
  unfold artifactOf
  split
  case isTrue =>
    apply ensures_bind
    apply ensures_get
    apply ensures_bind
    refine ensures_attempt (fun artifact _ => ?_) fun _ _ => trivial
    apply ensures_bind
    refine ensures_attempt (fun _ _ => ?_) fun _ _ => trivial
    apply ensures_bind
    apply ensures_modify
    apply ensures_pure
    obtain ⟨dir, present, described, filled⟩ := stores
    refine ⟨{ dir with artifact := some artifact }, ?_, described, filled⟩
    simp [Disk.updateDir, present]
  case isFalse => exact ensures_pure stores

/-- An install leaves the files it was given in the directory of its patch, whatever the state file was. -/
theorem install_stores (lib : Primitives) (env : Environment) (request : InstallRequest) (disk : Disk) :
    Ensures (installPayloadWithBaseline lib env request) disk
      (fun _ after => ∃ manifest, acceptPatch lib env request = .ok manifest ∧
        after.Stores manifest.patchNumber request.manifestFile request.payloadFile)
      (fun _ _ => True) := by
  refine ensures_bind (ensures_attempt (fun manifest accepted => ?_) fun _ _ => trivial)
  refine ensures_bind (ensures_attempt (fun _ _ => ?_) fun _ _ => trivial)
  refine ensures_bind (ensures_modify ?_)
  refine ensures_bind (ensures_attempt (fun _ _ => ?_) fun _ _ => trivial)
  refine ensures_bind (ensures_modify ?_)
  refine ensures_bind (ensures_attempt (fun _ _ => ?_) fun _ _ => trivial)
  refine ensures_bind (ensures_modify ?_)
  have filled := disk.filled_stores manifest.patchNumber request
  refine ensures_bind ((loadState_ensures env _).mono ?_ fun _ _ _ => trivial)
  intro state loaded found
  obtain ⟨_, same⟩ := found
  have stores := filled.congr (congrFun same.patches _)
  refine ensures_bind ((artifactOf_stores lib env request manifest state stores).mono ?_ fun _ _ _ => trivial)
  intro path patched stores
  have kept : manifest.patchNumber ∉ state.prunedBy manifest.releaseVersion (installedRecord env manifest path) :=
    State.not_prunedBy_of_keeps (by simp [State.keepsOnPrune, State.addInstalled, installedRecord])
  have removes := ensures_self (removePatchDirs env (state.addInstalled manifest.releaseVersion
    (installedRecord env manifest path)).pruned.1) patched
  rw [removePatchDirs_eq] at removes
  refine ensures_bind (removes.mono ?_ fun _ _ _ => trivial)
  intro _ cleaned ended
  obtain rfl := (Prod.ext_iff.mp ended).2
  refine ensures_bind (ensures_attempt (fun _ _ => ?_) fun _ _ => trivial)
  exact ensures_modify ⟨manifest, accepted, stores.congr (patched.patches_withoutDirs env kept)⟩

/-!
## Intact state files
-/

theorem FailedInstall.stateFile {lib : Primitives} {env : Environment} {request : InstallRequest}
    {disk after : Disk} (failed : FailedInstall lib env request disk after) :
    after.stateFile = disk.stateFile := by
  cases failed with
  | refused => rfl
  | undescribed => rfl
  | unfilled => rfl
  | unprepared => rfl
  | @unsaved manifest artifact =>
      refine (Disk.withoutDirs_stateFile env _ _).trans ?_
      cases artifact with
      | none => rfl
      | some artifact => rfl

/-- From an intact state file, the operation leaves one. -/
def KeepsIntact {α : Type} (action : Op α) : Prop :=
  ∀ disk, disk.Intact → Ensures action disk (fun _ after => after.Intact) (fun _ after => after.Intact)

namespace KeepsIntact

variable {α β : Type}

theorem bind {action : Op α} {next : α → Op β} (first : KeepsIntact action)
    (rest : ∀ value, KeepsIntact (next value)) : KeepsIntact (action >>= next) :=
  fun disk intact => (first disk intact).bind fun value after intact => rest value after intact

theorem pure (value : α) : KeepsIntact (pure value : Op α) :=
  fun _ intact => ensures_pure intact

theorem attempt (outcome : Result α) : KeepsIntact (Action.attempt outcome : Op α) :=
  fun _ intact => ensures_attempt (fun _ _ => intact) (fun _ _ => intact)

theorem loadState (env : Environment) : KeepsIntact (loadState env) := by
  intro disk intact
  refine (loadState_intact env intact).mono ?_ ?_
  · rintro _ _ ⟨_, _, rfl⟩
    exact intact
  · rintro _ _ ⟨_, rfl⟩
    exact intact

theorem saveState (env : Environment) (state : State) : KeepsIntact (saveState env state) := by
  refine (attempt _).bind fun _ disk intact => ensures_modify ?_
  intro parseError same
  cases same

theorem appendRollbackEvent (env : Environment) (event : CrashRollbackEvent) :
    KeepsIntact (appendRollbackEvent env event) :=
  (attempt _).bind fun _ _ intact => ensures_modify intact

theorem saveIfChanged (env : Environment) (changed : Bool) (state : State) :
    KeepsIntact (saveIfChanged env changed state) := by
  cases changed with
  | true => exact saveState env state
  | false => exact pure ()

theorem launchPatch (env : Environment) : KeepsIntact (launchPatch env) := by
  refine (loadState env).bind fun state => ?_
  have second : KeepsIntact (launchSelected env state.isPendingSuccess.isSome state.settleLastLaunch) := by
    unfold launchSelected
    split
    · exact (saveIfChanged env _ _).bind fun _ => pure _
    · split
      · exact (saveIfChanged env _ _).bind fun _ => pure _
      · exact (saveState env _).bind fun _ => pure _
  cases state.crashRollback env.now with
  | none => exact second
  | some event => exact (appendRollbackEvent env event).bind fun _ => second

theorem install (lib : Primitives) (env : Environment) (request : InstallRequest) :
    KeepsIntact (installPayloadWithBaseline lib env request) := by
  intro disk intact
  refine (install_ends lib env request intact).mono ?_ ?_
  · rintro _ after ⟨manifest, artifact, saved⟩ parseError same
    rw [saved.stateFile] at same
    cases same
  · intro _ after failed parseError same
    rw [failed.stateFile] at same
    exact intact parseError same

theorem readyPatch (env : Environment) : KeepsIntact (readyPatch env) := by
  refine (loadState env).bind fun state => ?_
  split
  · exact pure none
  · split
    · exact pure none
    · exact pure _

end KeepsIntact

theorem Disk.Intact.perform {disk : Disk} (intact : disk.Intact) (lib : Primitives) (call : Call) :
    (perform lib call disk).2.Intact := by
  have finally' : ∀ {α : Type} {action : Op α} (onOk : α → Answer), KeepsIntact action →
      (answer onOk (action disk)).2.Intact := by
    intro α action onOk keeps
    have kept := (keeps disk intact).finally Disk.Intact
    unfold answer
    split
    case h_1 ended =>
      rw [ended] at kept
      exact kept
    case h_2 ended =>
      rw [ended] at kept
      exact kept
  obtain ⟨env, request⟩ := call
  cases request with
  | install request => exact finally' _ (.install lib env request)
  | launchPatch => exact finally' _ (.launchPatch env)
  | readyPatch => exact finally' _ (.readyPatch env)
  | markSuccess =>
      refine finally' _ ((KeepsIntact.loadState env).bind fun state => ?_)
      exact (KeepsIntact.attempt state.markSuccess).bind fun marked => .saveState env marked
  | markFailure patchNumber reason =>
      exact finally' _ ((KeepsIntact.loadState env).bind fun state => .saveState env _)

theorem intact_run (lib : Primitives) (calls : List Call) :
    (runFrom (perform lib) Disk.empty calls).Intact := by
  refine (guarded_true (perform lib) Disk.empty calls).invariant Disk.Intact ?_ ?_
  · exact fun disk call intact _ => intact.perform lib call
  · intro parseError same
    cases same

end CodePush.Updater
