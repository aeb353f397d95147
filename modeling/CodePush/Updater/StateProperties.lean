import CodePush.Updater.State
import CodePush.Foundation.Runs

/-!
# What an updater call can do

Every operation loads the state, changes it and saves it. Seen through
`Disk.state`, a call that fails leaves the state alone, and a call that succeeds
applies one change to it. `Effect` lists the changes; the run properties are
proved from it.
-/

set_option autoImplicit false

namespace CodePush.Updater

open CodePush.Core CodePush.Foundation CodePush.Foundation.Action

/-- The state that `load_state` finds. -/
def Disk.state (disk : Disk) : State :=
  match disk.stateFile with
  | .missing => State.fresh
  | .corrupt _ => State.fresh
  | .saved state => state.migrate

namespace State

theorem migrate_schema (state : State) : stateSchemaVersion ≤ state.migrate.schemaVersion := by
  unfold migrate
  split
  · exact Nat.le_refl _
  case isFalse current => exact Nat.le_of_not_lt current

theorem migrate_of_schema {state : State} (current : stateSchemaVersion ≤ state.schemaVersion) :
    state.migrate = state := by
  unfold migrate
  rw [if_neg (Nat.not_lt_of_le current)]

end State

theorem Disk.state_schema (disk : Disk) : stateSchemaVersion ≤ disk.state.schemaVersion := by
  unfold Disk.state
  split
  · exact Nat.le_refl _
  · exact Nat.le_refl _
  · exact State.migrate_schema _

/-!
## Loading and saving
-/

/-- Same state and same patch directories. -/
structure Disk.Same (before after : Disk) : Prop where
  state : after.state = before.state
  patches : after.patches = before.patches

theorem Disk.Same.refl (disk : Disk) : disk.Same disk := ⟨rfl, rfl⟩

theorem Disk.Same.trans {first second third : Disk} (one : first.Same second)
    (two : second.Same third) : first.Same third :=
  ⟨two.state.trans one.state, two.patches.trans one.patches⟩

/-- The error is the one that some file system call returned. -/
def Environment.Faulted (env : Environment) (error : Error) : Prop :=
  ∃ call, env.io call = .error error

private theorem io_ensures {env : Environment} {call : IoCall} {disk : Disk}
    {returns : Unit → Disk → Prop} {fails : Error → Disk → Prop}
    (holds : returns () disk) (failed : ∀ error, env.Faulted error → fails error disk) :
    Ensures (io env call) disk returns fails :=
  ensures_attempt (fun _ _ => holds) (fun error faulted => failed error ⟨call, faulted⟩)

private theorem appendRollbackEvent_ensures (env : Environment) (event : CrashRollbackEvent)
    (disk : Disk) :
    Ensures (appendRollbackEvent env event) disk (fun _ after => disk.Same after)
      (fun error after => disk.Same after ∧ env.Faulted error) := by
  refine ensures_bind (io_ensures ?_ (fun _ faulted => ⟨.refl disk, faulted⟩))
  exact ensures_modify ⟨rfl, rfl⟩

theorem rollbackEvents_ensures (env : Environment) (disk : Disk) :
    Ensures (rollbackEvents env) disk (fun _ after => disk.Same after)
      (fun _ after => disk.Same after) := by
  apply ensures_bind
  apply ensures_get
  split
  · exact ensures_pure (.refl disk)
  · apply ensures_bind
    exact io_ensures (ensures_pure (.refl disk)) (fun _ _ => .refl disk)

theorem clearRollbackEvents_ensures (env : Environment) (disk : Disk) :
    Ensures (clearRollbackEvents env) disk (fun _ after => disk.Same after)
      (fun _ after => disk.Same after) := by
  apply ensures_bind
  apply ensures_get
  split
  · exact ensures_pure (.refl disk)
  · apply ensures_bind
    exact io_ensures (ensures_modify ⟨rfl, rfl⟩) (fun _ _ => .refl disk)

theorem loadState_ensures (env : Environment) (disk : Disk) :
    Ensures (loadState env) disk (fun state after => state = disk.state ∧ disk.Same after)
      (fun error after => disk.Same after ∧ env.Faulted error) := by
  refine ensures_bind (ensures_get ?_)
  cases found : disk.stateFile with
  | missing => exact ensures_pure ⟨by simp [Disk.state, found], .refl disk⟩
  | corrupt parseError =>
      have fresh : disk.state = State.fresh := by simp [Disk.state, found]
      have reset : disk.Same { disk with stateFile := .missing } := ⟨fresh.symm, rfl⟩
      refine ensures_bind (io_ensures ?_ (fun _ faulted => ⟨.refl disk, faulted⟩))
      refine ensures_bind (io_ensures ?_ (fun _ faulted => ⟨.refl disk, faulted⟩))
      refine ensures_bind (ensures_modify ?_)
      refine ensures_bind ((appendRollbackEvent_ensures env _ _).mono ?_ ?_)
      · intro _ after same
        exact ensures_pure ⟨fresh.symm, reset.trans same⟩
      · rintro _ after ⟨same, faulted⟩
        exact ⟨reset.trans same, faulted⟩
  | saved state =>
      refine ensures_bind (io_ensures ?_ (fun _ faulted => ⟨.refl disk, faulted⟩))
      exact ensures_pure ⟨by simp [Disk.state, found], .refl disk⟩

private theorem saveState_ensures (env : Environment) {state : State}
    (current : stateSchemaVersion ≤ state.schemaVersion) (disk : Disk) :
    Ensures (saveState env state) disk
      (fun _ after => after.state = state ∧ after.patches = disk.patches)
      (fun error after => after = disk ∧ env.Faulted error) := by
  refine ensures_bind (io_ensures ?_ (fun _ faulted => ⟨rfl, faulted⟩))
  exact ensures_modify ⟨State.migrate_of_schema current, rfl⟩

/-!
## Patch directories during an install
-/

/-- Directories other than the one written and the ones removed are untouched, and
the one written is not lost. -/
structure Disk.FilesKept (before after : Disk) (patchNumber : Nat) (removed : List Nat) : Prop where
  others : ∀ number, number ≠ patchNumber → number ∉ removed →
    after.patches number = before.patches number
  own : patchNumber ∉ removed → (before.patches patchNumber).isSome →
    (after.patches patchNumber).isSome

namespace Disk.FilesKept

theorem refl (disk : Disk) (patchNumber : Nat) (removed : List Nat) :
    disk.FilesKept disk patchNumber removed :=
  ⟨fun _ _ _ => rfl, fun _ present => present⟩

theorem trans {first second third : Disk} {patchNumber : Nat} {removed : List Nat}
    (one : first.FilesKept second patchNumber removed)
    (two : second.FilesKept third patchNumber removed) :
    first.FilesKept third patchNumber removed :=
  ⟨fun number other kept => (two.others number other kept).trans (one.others number other kept),
    fun kept present => two.own kept (one.own kept present)⟩

theorem of_patches_eq {before after : Disk} (same : after.patches = before.patches)
    (patchNumber : Nat) (removed : List Nat) : before.FilesKept after patchNumber removed := by
  refine ⟨?_, ?_⟩
  · intro number _ _
    rw [same]
  · intro _ present
    rw [same]
    exact present

theorem updateDir (disk : Disk) (patchNumber : Nat) (update : PatchDir → PatchDir)
    (removed : List Nat) :
    disk.FilesKept (disk.updateDir patchNumber update) patchNumber removed := by
  refine ⟨?_, ?_⟩
  · intro number other _
    simp [Disk.updateDir, other]
  · intro _ _
    simp [Disk.updateDir]

theorem removeDir (disk : Disk) (patchNumber old : Nat) {removed : List Nat}
    (member : old ∈ removed) : disk.FilesKept (disk.removeDir old) patchNumber removed := by
  have kept : ∀ number, number ∉ removed → (disk.removeDir old).patches number = disk.patches number := by
    intro number absent
    have other : number ≠ old := by
      rintro rfl
      exact absent member
    simp [Disk.removeDir, other]
  refine ⟨fun number _ absent => kept number absent, ?_⟩
  intro absent present
  rw [kept patchNumber absent]
  exact present

end Disk.FilesKept

private theorem removePatchDirs_ensures (env : Environment) (patchNumber : Nat)
    (old : List InstalledPatch) (removed : List Nat)
    (among : ∀ patch ∈ old, patch.patchNumber ∈ removed) (disk : Disk)
    {fails : Error → Disk → Prop} :
    Ensures (removePatchDirs env old) disk
      (fun _ after => after.state = disk.state ∧ disk.FilesKept after patchNumber removed) fails := by
  induction old generalizing disk with
  | nil => exact ensures_pure ⟨rfl, .refl disk patchNumber removed⟩
  | cons patch old ih =>
      have rest := fun disk => ih (fun other member => among other (List.mem_cons_of_mem patch member)) disk
      apply ensures_bind
      apply ensures_ignore
      · exact rest disk
      · refine (rest (disk.removeDir patch.patchNumber)).mono ?_ (fun _ _ failed => failed)
        rintro _ after ⟨same, files⟩
        have dropped := Disk.FilesKept.removeDir disk patchNumber patch.patchNumber
          (among patch List.mem_cons_self)
        exact ⟨same, dropped.trans files⟩

private theorem artifactOf_ensures (lib : Primitives) (env : Environment) (request : InstallRequest)
    (manifest : PatchManifest) (state : State) (disk : Disk) :
    Ensures (artifactOf lib env request manifest state) disk
      (fun _ after => after.state = disk.state ∧
        ∀ removed, disk.FilesKept after manifest.patchNumber removed)
      (fun _ after => after = disk) := by
  unfold artifactOf
  split
  · refine ensures_bind (ensures_get ?_)
    refine ensures_bind (ensures_attempt (fun artifact _ => ?_) (fun _ _ => rfl))
    refine ensures_bind (io_ensures ?_ (fun _ _ => rfl))
    refine ensures_bind (ensures_modify ?_)
    exact ensures_pure ⟨rfl, fun removed => .updateDir disk manifest.patchNumber _ removed⟩
  · exact ensures_pure ⟨rfl, fun removed => .refl disk manifest.patchNumber removed⟩

/-!
## Effects
-/

namespace State

/-- The patches that an install of `patch` prunes, and the state it saves. -/
def prunedBy (state : State) (releaseVersion : String) (patch : InstalledPatch) : List Nat :=
  (state.addInstalled releaseVersion patch).pruned.1.map (·.patchNumber)

def install (state : State) (releaseVersion : String) (patch : InstalledPatch) : State :=
  let added := state.addInstalled releaseVersion patch
  { added with installed := added.pruned.2 }

def launch (state : State) (now : String) : State × Option InstalledPatch :=
  let settled := state.settleLastLaunch
  match settled.selectLaunchPatchNumber with
  | none => (settled, none)
  | some patchNumber =>
      match settled.findInstalled patchNumber with
      | none => (settled, none)
      | some patch => (settled.recordLaunch patchNumber now, some patch)

@[simp] theorem markPatchBad_schema (state : State) (patchNumber : Nat) :
    (state.markPatchBad patchNumber).schemaVersion = state.schemaVersion := rfl

@[simp] theorem settleLastLaunch_schema (state : State) :
    state.settleLastLaunch.schemaVersion = state.schemaVersion := by
  unfold settleLastLaunch
  split
  · rfl
  · dsimp only
    split <;> rfl

@[simp] theorem settleLastLaunch_installed (state : State) :
    state.settleLastLaunch.installed = state.installed := by
  unfold settleLastLaunch
  split
  · rfl
  · dsimp only
    split <;> rfl

theorem settleLastLaunch_of_not_pending {state : State} (settled : state.isPendingSuccess = none) :
    state.settleLastLaunch = state := by
  simp [settleLastLaunch, settled]

end State

/-- What a call can do to the state that the next call loads. -/
inductive Effect (lib : Primitives) (before : State) : Call → Answer → State → Prop where
  | failed {call : Call} {error : Error} :
      (call.request = .launchPatch → call.env.Faulted error) →
      Effect lib before call (.failed error) before
  | installed {call : Call} {request : InstallRequest} {manifest : PatchManifest}
      {artifactPath : Option String} :
      call.request = .install request →
      acceptPatch lib call.env request = .ok manifest →
      Effect lib before call .installed
        (before.install manifest.releaseVersion (installedRecord call.env manifest artifactPath))
  | launched {call : Call} :
      call.request = .launchPatch →
      Effect lib before call (.launched (before.launch call.env.now).2) (before.launch call.env.now).1
  | ready {call : Call} {patch : Option InstalledPatch} :
      call.request = .readyPatch → Effect lib before call (.ready patch) before
  | succeeded {call : Call} {last : LastLaunch} :
      call.request = .markSuccess →
      before.lastLaunch = some last →
      last.patchNumber ∉ before.badPatches →
      (∀ reason, last.status ≠ .failure reason) →
      Effect lib before call .marked (before.succeeded last)
  | failure {call : Call} {patchNumber : Nat} {reason : String} :
      call.request = .markFailure patchNumber reason →
      Effect lib before call .marked (before.markFailure patchNumber reason call.env.now)

/-- How an install that was accepted leaves the patch directories. -/
def InstallFiles (lib : Primitives) (env : Environment) (request : InstallRequest)
    (before after : Disk) : Prop :=
  ∃ manifest artifactPath, acceptPatch lib env request = .ok manifest ∧
    before.FilesKept after manifest.patchNumber
      (before.state.prunedBy manifest.releaseVersion (installedRecord env manifest artifactPath))

theorem install_ensures (lib : Primitives) (env : Environment) (request : InstallRequest)
    (disk : Disk) :
    Ensures (installPayloadWithBaseline lib env request) disk
      (fun _ after => InstallFiles lib env request disk after ∧
        ∃ manifest artifactPath, acceptPatch lib env request = .ok manifest ∧
          after.state =
            disk.state.install manifest.releaseVersion (installedRecord env manifest artifactPath))
      (fun _ after => after.state = disk.state ∧
        (after.patches = disk.patches ∨ InstallFiles lib env request disk after)) := by
  refine ensures_bind (ensures_attempt (fun manifest accepted => ?_) (fun _ _ => ⟨rfl, .inl rfl⟩))
  -- Until the loop, a failure leaves the state and all directories but its own.
  have early : ∀ after : Disk, after.state = disk.state →
      (∀ removed, disk.FilesKept after manifest.patchNumber removed) →
      after.state = disk.state ∧
        (after.patches = disk.patches ∨ InstallFiles lib env request disk after) :=
    fun after same files => ⟨same, .inr ⟨manifest, none, accepted, files _⟩⟩
  refine ensures_bind (io_ensures ?_ (fun _ _ => ⟨rfl, .inl rfl⟩))
  refine ensures_bind (ensures_modify ?_)
  have created : ∀ removed, disk.FilesKept (disk.updateDir manifest.patchNumber id)
      manifest.patchNumber removed := fun removed => .updateDir disk manifest.patchNumber id removed
  refine ensures_bind (io_ensures ?_ (fun _ _ => early _ rfl created))
  refine ensures_bind (ensures_modify ?_)
  have described := fun removed => (created removed).trans
    (.updateDir _ manifest.patchNumber ({ · with manifest := some request.manifestFile }) removed)
  refine ensures_bind (io_ensures ?_ (fun _ _ => early _ rfl described))
  refine ensures_bind (ensures_modify ?_)
  have written := fun removed => (described removed).trans
    (.updateDir _ manifest.patchNumber ({ · with payload := some request.payloadFile }) removed)
  refine ensures_bind ((loadState_ensures env _).mono ?_ ?_)
  · rintro state loaded ⟨found, same⟩
    have loadedState : loaded.state = disk.state := same.state
    have loadedFiles := fun removed => (written removed).trans
      (.of_patches_eq same.patches manifest.patchNumber removed)
    obtain rfl : state = disk.state := found
    refine ensures_bind ((artifactOf_ensures lib env request manifest disk.state loaded).mono ?_ ?_)
    · rintro artifactPath patched ⟨patchedState, patchedFiles⟩
      let record := installedRecord env manifest artifactPath
      let removed := disk.state.prunedBy manifest.releaseVersion record
      have among : ∀ old ∈ (disk.state.addInstalled manifest.releaseVersion record).pruned.1,
          old.patchNumber ∈ removed := fun old member => List.mem_map_of_mem member
      refine ensures_bind ((removePatchDirs_ensures env manifest.patchNumber _ removed among
        patched).mono ?_ (fun _ _ failed => failed))
      rintro _ cleaned ⟨cleanedState, cleanedFiles⟩
      have files := ((loadedFiles removed).trans (patchedFiles removed)).trans cleanedFiles
      have schema : stateSchemaVersion ≤ (disk.state.install manifest.releaseVersion record).schemaVersion :=
        Nat.le_refl _
      refine (saveState_ensures env schema cleaned).mono ?_ ?_
      · rintro _ after ⟨saved, patches⟩
        have kept := files.trans (.of_patches_eq patches manifest.patchNumber removed)
        exact ⟨⟨manifest, artifactPath, accepted, kept⟩, manifest, artifactPath, accepted, saved⟩
      · rintro _ after ⟨rfl, _⟩
        exact ⟨cleanedState.trans (patchedState.trans loadedState),
          .inr ⟨manifest, artifactPath, accepted, files⟩⟩
    · rintro _ after rfl
      exact early _ loadedState loadedFiles
  · rintro _ after ⟨same, _⟩
    exact early _ same.state fun removed => (written removed).trans
      (.of_patches_eq same.patches manifest.patchNumber removed)

private theorem saveIfChanged_ensures (env : Environment) {state : State} {changed : Bool}
    (current : stateSchemaVersion ≤ state.schemaVersion) (disk : Disk)
    (unchanged : changed = false → disk.state = state) :
    Ensures (saveIfChanged env changed state) disk
      (fun _ after => after.state = state ∧ after.patches = disk.patches)
      (fun error after => after = disk ∧ env.Faulted error) := by
  cases changed with
  | true => exact saveState_ensures env current disk
  | false => exact ensures_pure ⟨unchanged rfl, rfl⟩

theorem launchPatch_ensures (env : Environment) (disk : Disk) :
    Ensures (launchPatch env) disk
      (fun patch after => (after.state, patch) = disk.state.launch env.now ∧
        after.patches = disk.patches)
      (fun error after => disk.Same after ∧ env.Faulted error) := by
  refine ensures_bind ((loadState_ensures env disk).mono ?_ (fun _ _ failed => failed))
  rintro state loaded ⟨rfl, same⟩
  have schema : stateSchemaVersion ≤ disk.state.settleLastLaunch.schemaVersion := by
    rw [State.settleLastLaunch_schema]
    exact disk.state_schema
  -- The event log is not part of what the second half starts from.
  have second : ∀ middle, disk.Same middle →
      Ensures (launchSelected env disk.state.isPendingSuccess.isSome disk.state.settleLastLaunch)
        middle
        (fun patch after => (after.state, patch) = disk.state.launch env.now ∧
          after.patches = disk.patches)
        (fun error after => disk.Same after ∧ env.Faulted error) := by
    intro middle same
    have unchanged : disk.state.isPendingSuccess.isSome = false →
        middle.state = disk.state.settleLastLaunch := by
      intro settled
      rw [State.settleLastLaunch_of_not_pending (by simpa using settled), same.state]
    have idle := saveIfChanged_ensures env schema middle unchanged
    unfold launchSelected State.launch
    dsimp only
    cases selected : disk.state.settleLastLaunch.selectLaunchPatchNumber with
    | none =>
        refine ensures_bind (idle.mono ?_ (fun _ _ failed => ⟨failed.1 ▸ same, failed.2⟩))
        rintro _ after ⟨saved, patches⟩
        exact ensures_pure ⟨by rw [saved], patches.trans same.patches⟩
    | some patchNumber =>
        dsimp only
        cases found : disk.state.settleLastLaunch.findInstalled patchNumber with
        | none =>
            refine ensures_bind (idle.mono ?_ (fun _ _ failed => ⟨failed.1 ▸ same, failed.2⟩))
            rintro _ after ⟨saved, patches⟩
            exact ensures_pure ⟨by rw [saved], patches.trans same.patches⟩
        | some patch =>
            refine ensures_bind ((saveState_ensures env ?_ middle).mono ?_
              (fun _ _ failed => ⟨failed.1 ▸ same, failed.2⟩))
            · exact schema
            · rintro _ after ⟨saved, patches⟩
              exact ensures_pure ⟨by rw [saved], patches.trans same.patches⟩
  cases logged : disk.state.crashRollback env.now with
  | none => exact second loaded same
  | some event =>
      refine ensures_bind ((appendRollbackEvent_ensures env event loaded).mono ?_ ?_)
      · intro _ middle kept
        exact second middle (same.trans kept)
      · rintro _ middle ⟨kept, faulted⟩
        exact ⟨same.trans kept, faulted⟩

theorem readyPatch_ensures (env : Environment) (disk : Disk) :
    Ensures (readyPatch env) disk (fun _ after => disk.Same after) (fun _ after => disk.Same after) := by
  refine ensures_bind ((loadState_ensures env disk).mono ?_ (fun _ _ failed => failed.1))
  rintro state loaded ⟨rfl, same⟩
  cases disk.state.pendingPatchNumber with
  | none => exact ensures_pure same
  | some patchNumber =>
      dsimp only
      split
      · exact ensures_pure same
      · exact ensures_pure same

theorem State.markSuccess_eq_ok {state marked : State} (accepted : state.markSuccess = .ok marked) :
    ∃ last, state.lastLaunch = some last ∧ last.patchNumber ∉ state.badPatches ∧
      (∀ reason, last.status ≠ .failure reason) ∧ marked = state.succeeded last := by
  unfold State.markSuccess at accepted
  cases launched : state.lastLaunch with
  | none =>
      rw [launched] at accepted
      cases accepted
  | some last =>
      rw [launched] at accepted
      obtain ⟨good, accepted⟩ := except_guard_eq_ok.mp accepted
      split at accepted
      case h_1 => cases accepted
      case h_2 reported =>
        cases accepted
        exact ⟨last, rfl, good, fun reason failed => reported reason failed, rfl⟩

theorem markSuccess_ensures (env : Environment) (disk : Disk) :
    Ensures (markSuccess env) disk
      (fun _ after => disk.state.markSuccess = .ok after.state ∧ after.patches = disk.patches)
      (fun _ after => disk.Same after) := by
  refine ensures_bind ((loadState_ensures env disk).mono ?_ (fun _ _ failed => failed.1))
  rintro state loaded ⟨rfl, same⟩
  refine ensures_bind (ensures_attempt (fun marked accepted => ?_) (fun _ _ => same))
  have schema : stateSchemaVersion ≤ marked.schemaVersion := by
    obtain ⟨last, _, _, _, rfl⟩ := State.markSuccess_eq_ok accepted
    exact disk.state_schema
  refine (saveState_ensures env schema loaded).mono ?_ (fun _ _ failed => failed.1 ▸ same)
  rintro _ after ⟨saved, patches⟩
  exact ⟨by rw [accepted, saved], patches.trans same.patches⟩

theorem markFailure_ensures (env : Environment) (patchNumber : Nat) (reason : String)
    (disk : Disk) :
    Ensures (markFailure env patchNumber reason) disk
      (fun _ after => after.state = disk.state.markFailure patchNumber reason env.now ∧
        after.patches = disk.patches)
      (fun _ after => disk.Same after) := by
  refine ensures_bind ((loadState_ensures env disk).mono ?_ (fun _ _ failed => failed.1))
  rintro state loaded ⟨rfl, same⟩
  have schema : stateSchemaVersion ≤
      (disk.state.markFailure patchNumber reason env.now).schemaVersion := disk.state_schema
  refine (saveState_ensures env schema loaded).mono ?_ (fun _ _ failed => failed.1 ▸ same)
  rintro _ after ⟨saved, patches⟩
  exact ⟨saved, patches.trans same.patches⟩

theorem answer_ensured {α : Type} {action : Op α} {disk : Disk}
    {returns : α → Disk → Prop} {fails : Error → Disk → Prop}
    (holds : Answer → Disk → Prop) (ensured : Ensures action disk returns fails) (onOk : α → Answer)
    (returned : ∀ value after, returns value after → holds (onOk value) after)
    (failed : ∀ error after, fails error after → holds (.failed error) after) :
    holds (answer onOk (action disk)).1 (answer onOk (action disk)).2 := by
  unfold Ensures at ensured
  split at ensured
  case h_1 value after ended =>
    rw [ended]
    exact returned value after ensured
  case h_2 error after ended =>
    rw [ended]
    exact failed error after ensured

/-- Every call of the updater has one of the listed effects. -/
theorem perform_effect (lib : Primitives) (call : Call) (disk : Disk) :
    Effect lib disk.state call (perform lib call disk).1 (perform lib call disk).2.state := by
  obtain ⟨env, request⟩ := call
  have unchanged : ∀ error (after : Disk), after.state = disk.state →
      (request = .launchPatch → env.Faulted error) →
      Effect lib disk.state ⟨env, request⟩ (.failed error) after.state := by
    intro error after same faulted
    rw [same]
    exact .failed faulted
  cases request with
  | install request =>
      refine answer_ensured (fun given after => Effect lib disk.state _ given after.state)
        (install_ensures lib env request disk) _ ?_ ?_
      · rintro _ after ⟨_, manifest, artifactPath, accepted, installed⟩
        rw [installed]
        exact .installed rfl accepted
      · intro error after same
        exact unchanged error after same.1 (fun launched => by cases launched)
  | launchPatch =>
      refine answer_ensured (fun given after => Effect lib disk.state _ given after.state)
        (launchPatch_ensures env disk) _ ?_ ?_
      · rintro patch after ⟨launched, _⟩
        have state : after.state = (disk.state.launch env.now).1 := congrArg Prod.fst launched
        have found : patch = (disk.state.launch env.now).2 := congrArg Prod.snd launched
        rw [state, found]
        exact .launched rfl
      · rintro error after ⟨same, faulted⟩
        exact unchanged error after same.state (fun _ => faulted)
  | readyPatch =>
      refine answer_ensured (fun given after => Effect lib disk.state _ given after.state)
        (readyPatch_ensures env disk) _ ?_ ?_
      · intro patch after same
        rw [same.state]
        exact .ready rfl
      · intro error after same
        exact unchanged error after same.state (fun launched => by cases launched)
  | markSuccess =>
      refine answer_ensured (fun given after => Effect lib disk.state _ given after.state)
        (markSuccess_ensures env disk) _ ?_ ?_
      · rintro _ after ⟨marked, _⟩
        obtain ⟨last, launched, good, reported, same⟩ := State.markSuccess_eq_ok marked
        rw [same]
        exact .succeeded rfl launched good reported
      · intro error after same
        exact unchanged error after same.state (fun launched => by cases launched)
  | markFailure patchNumber reason =>
      refine answer_ensured (fun given after => Effect lib disk.state _ given after.state)
        (markFailure_ensures env patchNumber reason disk) _ ?_ ?_
      · rintro _ after ⟨marked, _⟩
        rw [marked]
        exact .failure rfl
      · intro error after same
        exact unchanged error after same.state (fun launched => by cases launched)

/-- Only an accepted install touches patch directories. -/
theorem perform_files (lib : Primitives) (call : Call) (disk : Disk) :
    (perform lib call disk).2.patches = disk.patches ∨
      ∃ request, call.request = .install request ∧
        InstallFiles lib call.env request disk (perform lib call disk).2 := by
  obtain ⟨env, request⟩ := call
  cases request with
  | install request =>
      refine answer_ensured (fun _ after => after.patches = disk.patches ∨
        ∃ given, Request.install request = .install given ∧ InstallFiles lib env given disk after)
        (install_ensures lib env request disk) _ ?_ ?_
      · rintro _ after ⟨files, _⟩
        exact .inr ⟨request, rfl, files⟩
      · rintro _ after ⟨_, same | files⟩
        · exact .inl same
        · exact .inr ⟨request, rfl, files⟩
  | launchPatch =>
      exact .inl (answer_ensured (fun _ after => after.patches = disk.patches)
        (launchPatch_ensures env disk) _ (fun _ _ done => done.2) (fun _ _ failed => failed.1.patches))
  | readyPatch =>
      exact .inl (answer_ensured (fun _ after => after.patches = disk.patches)
        (readyPatch_ensures env disk) _ (fun _ _ same => same.patches) (fun _ _ same => same.patches))
  | markSuccess =>
      exact .inl (answer_ensured (fun _ after => after.patches = disk.patches)
        (markSuccess_ensures env disk) _ (fun _ _ done => done.2) (fun _ _ same => same.patches))
  | markFailure patchNumber reason =>
      exact .inl (answer_ensured (fun _ after => after.patches = disk.patches)
        (markFailure_ensures env patchNumber reason disk) _ (fun _ _ done => done.2)
        (fun _ _ same => same.patches))

/-!
## Records
-/

namespace State

theorem isInstalled_iff {state : State} {patchNumber : Nat} :
    state.isInstalled patchNumber = true ↔
      ∃ patch ∈ state.installed, patch.patchNumber = patchNumber := by
  simp [isInstalled]

theorem findInstalled_of_isInstalled {state : State} {patchNumber : Nat}
    (present : state.isInstalled patchNumber = true) :
    ∃ patch, state.findInstalled patchNumber = some patch ∧ patch.patchNumber = patchNumber := by
  have found : (state.findInstalled patchNumber).isSome := by
    simpa [findInstalled, isInstalled] using present
  obtain ⟨patch, found⟩ := Option.isSome_iff_exists.mp found
  exact ⟨patch, found, by simpa using List.find?_some found⟩

theorem findInstalled_patchNumber {state : State} {patchNumber : Nat} {patch : InstalledPatch}
    (found : state.findInstalled patchNumber = some patch) : patch.patchNumber = patchNumber := by
  simpa using List.find?_some found

end State

theorem mem_sortInstalled {installed : List InstalledPatch} {patch : InstalledPatch} :
    patch ∈ sortInstalled installed ↔ patch ∈ installed :=
  List.mem_insertionSort _

private theorem mem_eraseP_of_ne_first {loose : InstalledPatch → Bool}
    {installed : List InstalledPatch} {first patch : InstalledPatch}
    (found : installed.find? loose = some first) (member : patch ∈ installed)
    (other : patch ≠ first) : patch ∈ installed.eraseP loose := by
  induction installed with
  | nil => cases member
  | cons head tail ih =>
      cases decided : loose head with
      | true =>
          rw [List.find?_cons_of_pos decided] at found
          rw [List.eraseP_cons_of_pos decided]
          rcases List.mem_cons.mp member with same | member
          · exact absurd (same.trans (Option.some.inj found)) other
          · exact member
      | false =>
          have unmet : ¬ loose head = true := by simp [decided]
          rw [List.find?_cons_of_neg unmet] at found
          rw [List.eraseP_cons_of_neg unmet]
          rcases List.mem_cons.mp member with rfl | member
          · exact List.mem_cons_self
          · exact List.mem_cons_of_mem head (ih found member)

/-- The loop removes only records that nothing keeps, and loses no other. -/
theorem pruneInstalled_spec (keeps : Nat → Bool) (rounds : Nat) (installed : List InstalledPatch) :
    (∀ old ∈ (pruneInstalled keeps rounds installed).1,
      old ∈ installed ∧ keeps old.patchNumber = false) ∧
    (∀ patch ∈ installed, patch ∈ (pruneInstalled keeps rounds installed).1 ∨
      patch ∈ (pruneInstalled keeps rounds installed).2) ∧
    (pruneInstalled keeps rounds installed).2.Sublist installed := by
  induction rounds generalizing installed with
  | zero =>
      refine ⟨?_, fun patch member => .inr member, List.Sublist.refl _⟩
      intro old member
      cases member
  | succ rounds ih =>
      unfold pruneInstalled
      split
      case isFalse =>
        refine ⟨?_, fun patch member => .inr member, List.Sublist.refl _⟩
        intro old member
        cases member
      case isTrue =>
        split
        case h_1 =>
          refine ⟨?_, fun patch member => .inr member, List.Sublist.refl _⟩
          intro old member
          cases member
        case h_2 first found =>
          obtain ⟨removed, covered, sublist⟩ := ih (installed.eraseP (!keeps ·.patchNumber))
          have loose : keeps first.patchNumber = false := by simpa using List.find?_some found
          refine ⟨?_, ?_, sublist.trans List.eraseP_sublist⟩
          · intro old member
            rcases List.mem_cons.mp member with rfl | member
            · exact ⟨List.mem_of_find?_eq_some found, loose⟩
            · obtain ⟨inside, unkept⟩ := removed old member
              exact ⟨List.mem_of_mem_eraseP inside, unkept⟩
          · intro patch member
            by_cases same : patch = first
            · exact .inl (same ▸ List.mem_cons_self)
            · rcases covered patch (mem_eraseP_of_ne_first found member same) with gone | kept
              · exact .inl (List.mem_cons_of_mem first gone)
              · exact .inr kept

namespace State

theorem mem_addInstalled {state : State} {releaseVersion : String} {patch other : InstalledPatch} :
    other ∈ (state.addInstalled releaseVersion patch).installed ↔
      (other ∈ state.installed ∧ other.patchNumber ≠ patch.patchNumber) ∨ other = patch := by
  simp [addInstalled, mem_sortInstalled]

theorem addInstalled_isInstalled {state : State} {releaseVersion : String} {patch : InstalledPatch}
    {patchNumber : Nat} :
    (state.addInstalled releaseVersion patch).isInstalled patchNumber = true ↔
      state.isInstalled patchNumber = true ∨ patchNumber = patch.patchNumber := by
  simp only [isInstalled_iff, mem_addInstalled]
  constructor
  · rintro ⟨other, ⟨member, _⟩ | rfl, rfl⟩
    · exact .inl ⟨other, member, rfl⟩
    · exact .inr rfl
  · rintro (⟨other, member, rfl⟩ | rfl)
    · by_cases same : other.patchNumber = patch.patchNumber
      · exact ⟨patch, .inr rfl, same.symm⟩
      · exact ⟨other, .inl ⟨member, same⟩, rfl⟩
    · exact ⟨patch, .inr rfl, rfl⟩

/-- What the pruning loop keeps is not pruned. -/
theorem not_prunedBy_of_keeps {state : State} {releaseVersion : String} {patch : InstalledPatch}
    {patchNumber : Nat}
    (kept : (state.addInstalled releaseVersion patch).keepsOnPrune patchNumber = true) :
    patchNumber ∉ state.prunedBy releaseVersion patch := by
  intro member
  obtain ⟨old, removed, rfl⟩ := List.mem_map.mp member
  have unkept := ((pruneInstalled_spec _ _ _).1 old removed).2
  rw [kept] at unkept
  cases unkept

/-- Records that are not pruned remain. -/
theorem install_isInstalled {state : State} {releaseVersion : String} {patch : InstalledPatch}
    {patchNumber : Nat}
    (present : state.isInstalled patchNumber = true ∨ patchNumber = patch.patchNumber)
    (kept : patchNumber ∉ state.prunedBy releaseVersion patch) :
    (state.install releaseVersion patch).isInstalled patchNumber = true := by
  obtain ⟨other, member, rfl⟩ := isInstalled_iff.mp (addInstalled_isInstalled.mpr present)
  obtain ⟨_, covered, _⟩ := pruneInstalled_spec
    (state.addInstalled releaseVersion patch).keepsOnPrune
    (state.addInstalled releaseVersion patch).installed.length
    (state.addInstalled releaseVersion patch).installed
  rcases covered other member with gone | remains
  · exact absurd (List.mem_map_of_mem gone) kept
  · exact isInstalled_iff.mpr ⟨other, remains, rfl⟩

/-- A record that an install leaves is an old one or the new one. -/
theorem mem_of_mem_install {state : State} {releaseVersion : String} {patch other : InstalledPatch}
    (member : other ∈ (state.install releaseVersion patch).installed) :
    (other ∈ state.installed ∧ other.patchNumber ≠ patch.patchNumber) ∨ other = patch := by
  obtain ⟨_, _, sublist⟩ := pruneInstalled_spec
    (state.addInstalled releaseVersion patch).keepsOnPrune _ _
  exact mem_addInstalled.mp (sublist.subset member)

theorem isInstalled_of_install {state : State} {releaseVersion : String} {patch : InstalledPatch}
    {patchNumber : Nat}
    (present : (state.install releaseVersion patch).isInstalled patchNumber = true) :
    state.isInstalled patchNumber = true ∨ patchNumber = patch.patchNumber := by
  obtain ⟨other, member, rfl⟩ := isInstalled_iff.mp present
  rcases mem_of_mem_install member with ⟨member, _⟩ | rfl
  · exact .inl (isInstalled_iff.mpr ⟨other, member, rfl⟩)
  · exact .inr rfl

/-- A launch that found a patch selected its number in the settled state. -/
theorem launch_eq_some {state : State} {now : String} {patch : InstalledPatch}
    (launched : (state.launch now).2 = some patch) :
    state.settleLastLaunch.selectLaunchPatchNumber = some patch.patchNumber ∧
      (state.launch now).1 = state.settleLastLaunch.recordLaunch patch.patchNumber now := by
  unfold launch at launched ⊢
  dsimp only at launched ⊢
  split at launched
  case h_1 => cases launched
  case h_2 patchNumber selected =>
    split at launched
    case h_1 => cases launched
    case h_2 found present =>
      cases launched
      obtain rfl := findInstalled_patchNumber present
      exact ⟨selected, rfl⟩

/-- A selected patch is always found. -/
theorem launch_of_selected {state : State} (now : String) {patchNumber : Nat}
    (selected : state.settleLastLaunch.selectLaunchPatchNumber = some patchNumber) :
    ∃ patch, (state.launch now).2 = some patch ∧ patch.patchNumber = patchNumber := by
  have candidate := List.find?_some selected
  have present : state.settleLastLaunch.isInstalled patchNumber = true := by
    simpa using (Bool.and_eq_true_iff.mp candidate).2
  obtain ⟨patch, found, number⟩ := findInstalled_of_isInstalled present
  refine ⟨patch, ?_, number⟩
  simp only [launch, selected, found]

theorem launched_installed {state : State} {now : String} {patch : InstalledPatch}
    (launched : (state.launch now).2 = some patch) : patch ∈ state.installed := by
  unfold launch at launched
  dsimp only at launched
  split at launched
  case h_1 => cases launched
  case h_2 =>
    split at launched
    case h_1 => cases launched
    case h_2 found present =>
      cases launched
      rw [← state.settleLastLaunch_installed]
      exact List.mem_of_find?_eq_some present

theorem launch_installed (state : State) (now : String) :
    (state.launch now).1.installed = state.installed := by
  rw [← state.settleLastLaunch_installed]
  unfold launch
  dsimp only
  split
  · rfl
  · split
    · rfl
    · rfl

/-- Without a patch to launch, only the settling remains. -/
theorem launch_of_not_selected {state : State} {now : String}
    (unselected : state.settleLastLaunch.selectLaunchPatchNumber = none) :
    state.launch now = (state.settleLastLaunch, none) := by
  simp only [launch, unselected]

end State

end CodePush.Updater
