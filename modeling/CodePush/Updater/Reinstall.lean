import CodePush.Updater.Downgrade
import CodePush.Updater.FailedInstall

/-!
# Installing a blocked patch again

The blocklist is consulted when a patch is launched, not when one is installed. An install of a
blocked patch takes the pending slot from the patch that held it, and may prune that one.
-/

set_option autoImplicit false

namespace CodePush.Updater

open CodePush.Core CodePush.Foundation

/-!
## What the next launch selects
-/

namespace State

variable {state : State}

/-- Whether the next launch selects the same patch after an install of a blocked one. The
install also resets the counter that would have blocked a crashing patch. -/
def KeepsLaunch (state : State) : Prop :=
  match state.exhausted with
  | some crashing => state.lastKnownGoodPatchNumber ≠ some crashing
  | none => ∀ pending, state.pendingPatchNumber = some pending → state.usable pending = true →
      state.lastKnownGoodPatchNumber = some pending

/-- A patch that is not pruned is as usable as before. -/
theorem install_usable {releaseVersion : String} {patch : InstalledPatch} {patchNumber : Nat}
    (other : patchNumber ≠ patch.patchNumber)
    (kept : patchNumber ∉ state.prunedBy releaseVersion patch) :
    (state.install releaseVersion patch).usable patchNumber = state.usable patchNumber := by
  rw [Bool.eq_iff_iff, usable_iff, usable_iff]
  constructor
  · intro usable
    refine ⟨usable.1, ?_⟩
    rcases isInstalled_of_install usable.2 with before | same
    · exact before
    · exact absurd same other
  · intro usable
    exact ⟨usable.1, install_isInstalled (.inl usable.2) kept⟩

end State

namespace Coherent

variable {state : State}

/-- After an install of a blocked patch, the last known good one is what is left. -/
theorem selects_after_blocked (coherent : Coherent state) {releaseVersion : String}
    {patch : InstalledPatch} (blocked : patch.patchNumber ∈ state.badPatches) :
    (state.install releaseVersion patch).settleLastLaunch.selectLaunchPatchNumber =
      state.lastKnownGoodPatchNumber.filter state.usable := by
  have reset : (state.install releaseVersion patch).bootAttempts = 0 := rfl
  rw [State.settleLastLaunch_select reset, (coherent.pointers.installed releaseVersion patch).select_eq]
  have pending : (state.install releaseVersion patch).pendingPatchNumber = some patch.patchNumber := rfl
  have known : (state.install releaseVersion patch).lastKnownGoodPatchNumber =
      state.lastKnownGoodPatchNumber := rfl
  have passed : (some patch.patchNumber).filter (state.install releaseVersion patch).usable = none := by
    rw [Option.filter_some, State.install_usable_self]
    simp [blocked]
  rw [pending, known, passed, Option.none_or]
  cases good : state.lastKnownGoodPatchNumber with
  | none => rfl
  | some number =>
      have other : number ≠ patch.patchNumber := by
        rintro rfl
        exact coherent.pointers.good _ good blocked
      have kept : number ∉ state.prunedBy releaseVersion patch :=
        State.not_prunedBy_of_keeps (by simp [State.keepsOnPrune, State.addInstalled, good])
      rw [Option.filter_some, Option.filter_some, State.install_usable other kept]

theorem selects_unblocked (coherent : Coherent state) :
    state.settleLastLaunch.selectLaunchPatchNumber =
      match state.exhausted with
      | some crashing => state.lastKnownGoodPatchNumber.filter fun good =>
          decide (good ≠ crashing) && state.usable good
      | none => (state.pendingPatchNumber.filter state.usable).or
          (state.lastKnownGoodPatchNumber.filter state.usable) := by
  cases used : state.exhausted with
  | some crashing => exact coherent.fallback used
  | none =>
      obtain ⟨last, same⟩ := State.settleLastLaunch_of_not_exhausted used
      have select : state.settleLastLaunch.selectLaunchPatchNumber = state.selectLaunchPatchNumber := by
        rw [same]
        rfl
      rw [select, coherent.pointers.select_eq]

/-- The patch that has used up its attempts was selected by the last launch. -/
theorem usable_exhausted (coherent : Coherent state) {crashing : Nat}
    (used : state.exhausted = some crashing) : state.usable crashing = true := by
  obtain ⟨pending, reached⟩ := State.exhausted_eq_some.mp used
  have attempts := coherent.attempts
  have positive : 0 < state.bootAttempts := by
    rw [attempts.saturatingSucc_eq] at reached
    unfold maxBootAttempts at reached
    omega
  exact State.usable_of_selected (attempts.tried crashing pending positive)

theorem keepsLaunch_iff (coherent : Coherent state) {releaseVersion : String}
    {patch : InstalledPatch} (blocked : patch.patchNumber ∈ state.badPatches) :
    (state.install releaseVersion patch).settleLastLaunch.selectLaunchPatchNumber =
        state.settleLastLaunch.selectLaunchPatchNumber ↔ state.KeepsLaunch := by
  rw [coherent.selects_after_blocked blocked, coherent.selects_unblocked]
  unfold State.KeepsLaunch
  cases used : state.exhausted with
  | some crashing =>
      have usable := coherent.usable_exhausted used
      dsimp only
      cases state.lastKnownGoodPatchNumber with
      | none => simp
      | some good =>
          by_cases same : good = crashing
          · subst same
            simp [Option.filter, usable]
          · simp [Option.filter, same]
  | none =>
      dsimp only
      cases state.pendingPatchNumber with
      | none => simp
      | some pending =>
          by_cases usable : state.usable pending = true
          · have selected : (some pending).filter state.usable = some pending := by
              simp [Option.filter, usable]
            rw [selected, Option.some_or]
            constructor
            · intro same other found _
              cases found
              exact (Option.filter_eq_some_iff.mp same).1
            · intro known
              rw [known pending rfl usable]
              exact selected
          · simp [Option.filter, usable]

end Coherent

/-!
## What happens to the pending patch
-/

/-- Records have different numbers, so none that remains has the number of one that is removed. -/
theorem pruneInstalled_apart {keeps : Nat → Bool} (rounds : Nat) {installed : List InstalledPatch}
    (unique : (installed.map (·.patchNumber)).Nodup) :
    ∀ old ∈ (pruneInstalled keeps rounds installed).1,
      ∀ patch ∈ (pruneInstalled keeps rounds installed).2, patch.patchNumber ≠ old.patchNumber := by
  induction rounds generalizing installed with
  | zero =>
      intro old member
      cases member
  | succ rounds ih =>
      unfold pruneInstalled
      split
      case isFalse =>
        intro old member
        cases member
      case isTrue =>
        split
        case h_1 =>
          intro old member
          cases member
        case h_2 first found =>
          have rest : (installed.eraseP (!keeps ·.patchNumber)).Sublist installed :=
            List.eraseP_sublist
          have later := ih (unique.sublist (rest.map _))
          intro old member patch kept
          rcases List.mem_cons.mp member with rfl | member
          · obtain ⟨loose, front, back, rfl, before⟩ := List.find?_eq_some_iff_append.mp found
            have erased : (front ++ old :: back).eraseP (!keeps ·.patchNumber) = front ++ back := by
              rw [List.eraseP_append_right _ (by simpa using before), List.eraseP_cons, loose]
              rfl
            have inside : patch ∈ front ++ back :=
              erased ▸ (pruneInstalled_spec keeps rounds _).2.2.subset kept
            rw [List.map_append, List.map_cons, List.nodup_middle] at unique
            intro same
            refine (List.nodup_cons.mp unique).1 ?_
            rw [← same, ← List.map_append]
            exact List.mem_map_of_mem inside
          · exact later old member patch kept

/-- After an install, the record of another patch is there exactly if it was not pruned. -/
theorem State.Unique.install_mem_iff {state : State} (unique : state.Unique) {releaseVersion : String}
    {patch other : InstalledPatch} (member : other ∈ state.installed)
    (apart : other.patchNumber ≠ patch.patchNumber) :
    other ∈ (state.install releaseVersion patch).installed ↔
      other.patchNumber ∉ state.prunedBy releaseVersion patch := by
  have listed : other ∈ (state.addInstalled releaseVersion patch).installed :=
    State.mem_addInstalled.mpr (.inl ⟨member, apart⟩)
  constructor
  · intro remains pruned
    obtain ⟨old, removed, number⟩ := List.mem_map.mp pruned
    exact pruneInstalled_apart _ (unique.addInstalled releaseVersion patch) old removed other remains
      number.symm
  · intro kept
    rcases (pruneInstalled_spec _ _ _).2.1 other listed with removed | remains
    · exact absurd (List.mem_map_of_mem removed) kept
    · exact remains

/-- The record and the files of a pending patch with another number are as before. -/
def Disk.SparesPending (before after : Disk) (patchNumber : Nat) : Prop :=
  ∀ pending, before.state.pendingPatchNumber = some pending → pending ≠ patchNumber →
    (∀ patch ∈ before.state.installed, patch.patchNumber = pending → patch ∈ after.state.installed) ∧
    after.files pending = before.files pending

/-- An install of a blocked patch is harmless if it does not come to saving the state; if it
does, the blocked patch must neither displace nor prune another one. -/
def HarmlessReinstall (lib : Primitives) (env : Environment) (request : InstallRequest) (disk : Disk)
    (manifest : PatchManifest) : Prop :=
  env.io .createPatchDir = .ok () → env.io .writeManifest = .ok () → env.io .writePayload = .ok () →
    ∀ artifact, prepare lib env request disk manifest = .ok artifact →
      let pruned := disk.state.prunedBy manifest.releaseVersion
        (installedRecord env manifest (artifactPath manifest artifact))
      (env.io .saveState = .ok () → disk.state.KeepsLaunch ∧
        ∀ pending ∈ pruned, disk.state.pendingPatchNumber ≠ some pending) ∧
      (env.io .saveState ≠ .ok () → ∀ pending ∈ pruned, disk.state.pendingPatchNumber = some pending →
        env.io (.removePatchDir pending) = .ok () → disk.files pending = .blank)

/-- The next launch selects what it would have selected, and another pending patch is as before. -/
def Disk.Harmless (before after : Disk) (patchNumber : Nat) : Prop :=
  after.state.settleLastLaunch.selectLaunchPatchNumber =
      before.state.settleLastLaunch.selectLaunchPatchNumber ∧
    before.SparesPending after patchNumber

/-- Where the state file is kept, only the files of the pending patch matter. -/
theorem Disk.harmless_iff_files {before after : Disk} {patchNumber : Nat}
    (stateFile : after.stateFile = before.stateFile) :
    before.Harmless after patchNumber ↔ ∀ pending, before.state.pendingPatchNumber = some pending →
      pending ≠ patchNumber → after.files pending = before.files pending := by
  have state : after.state = before.state := by
    unfold Disk.state
    rw [stateFile]
  constructor
  · rintro ⟨_, spares⟩ pending held other
    exact (spares pending held other).2
  · intro same
    refine ⟨by rw [state], ?_⟩
    intro pending held other
    refine ⟨?_, same pending held other⟩
    intro patch member _
    rw [state]
    exact member

theorem FailedInstall.harmless_iff {lib : Primitives} {env : Environment} {request : InstallRequest}
    {disk after : Disk} {patchNumber : Nat} (failed : FailedInstall lib env request disk after)
    (own : ∀ manifest, acceptPatch lib env request = .ok manifest →
      manifest.patchNumber = patchNumber) :
    disk.Harmless after patchNumber ↔ ∀ manifest, acceptPatch lib env request = .ok manifest →
      HarmlessReinstall lib env request disk manifest := by
  rw [Disk.harmless_iff_files failed.stateFile]
  cases failed with
  | refused refused =>
      refine iff_of_true (fun _ _ _ => rfl) ?_
      intro manifest accepted created
      exact absurd created (refused manifest accepted)
  | @undescribed manifest accepted created described =>
      obtain rfl := own manifest accepted
      refine iff_of_true ?_ fun other accepts _ written => absurd written described
      intro pending _ other
      rw [Disk.files_updateDir, if_neg other]
  | @unfilled manifest accepted created described filled =>
      obtain rfl := own manifest accepted
      refine iff_of_true ?_ fun other accepts _ _ written => absurd written filled
      intro pending _ other
      rw [Disk.files_described, if_neg other]
  | @unprepared manifest accepted created described filled unprepared =>
      obtain rfl := own manifest accepted
      refine iff_of_true ?_ ?_
      · intro pending _ other
        rw [Disk.files_filled, if_neg other]
      · intro other accepts _ _ _ artifact prepared
        rw [accepted] at accepts
        cases accepts
        exact absurd prepared (unprepared artifact)
  | @unsaved manifest artifact accepted created described filled prepared unsaved =>
      obtain rfl := own manifest accepted
      constructor
      · intro same other accepts _ _ _ computed computes
        rw [accepted] at accepts
        cases accepts
        rw [prepared] at computes
        cases computes
        refine ⟨fun saved => absurd saved unsaved, ?_⟩
        intro _ pending pruned held removed
        have kept := same pending held (State.mem_prunedBy pruned).2
        rw [Disk.files_cleaned, if_pos ⟨pruned, removed⟩] at kept
        exact kept.symm
      · intro harmless pending held other
        have spared := (harmless manifest accepted created described filled artifact prepared).2 unsaved
        by_cases gone : pending ∈ disk.state.prunedBy manifest.releaseVersion
            (installedRecord env manifest (artifactPath manifest artifact)) ∧
            env.io (.removePatchDir pending) = .ok ()
        · rw [Disk.files_cleaned, if_pos gone]
          exact (spared pending gone.1 held gone.2).symm
        · rw [Disk.files_cleaned, if_neg gone, if_neg other]

theorem SavedInstall.harmless_iff {lib : Primitives} {env : Environment} {request : InstallRequest}
    {disk after : Disk} {manifest : PatchManifest} {artifact : Option Bytes}
    (saved : SavedInstall lib env request disk after manifest artifact) (coherent : Coherent disk.state)
    (blocked : manifest.patchNumber ∈ disk.state.badPatches) :
    disk.Harmless after manifest.patchNumber ↔ HarmlessReinstall lib env request disk manifest := by
  have state : after.state = disk.state.install manifest.releaseVersion
      (installedRecord env manifest (artifactPath manifest artifact)) := by
    unfold Disk.state
    rw [saved.stateFile]
    exact State.migrate_of_schema (Nat.le_refl _)
  have files : ∀ number, after.files number =
      (disk.cleaned env request manifest artifact).files number := by
    intro number
    unfold Disk.files
    rw [saved.patches]
  have launches : after.state.settleLastLaunch.selectLaunchPatchNumber =
      disk.state.settleLastLaunch.selectLaunchPatchNumber ↔ disk.state.KeepsLaunch := by
    rw [state]
    exact coherent.keepsLaunch_iff blocked
  constructor
  · rintro ⟨same, spares⟩ _ _ _ computed computes
    rw [saved.prepared] at computes
    cases computes
    refine ⟨fun _ => ⟨launches.mp same, ?_⟩, fun unsaved => absurd saved.saved unsaved⟩
    intro pending pruned held
    obtain ⟨installed, other⟩ := State.mem_prunedBy pruned
    obtain ⟨patch, member, rfl⟩ := State.isInstalled_iff.mp installed
    have remains := (spares patch.patchNumber held other).1 patch member rfl
    rw [state] at remains
    exact (coherent.pointers.unique.install_mem_iff member other).mp remains pruned
  · intro harmless
    obtain ⟨keeps, unpruned⟩ := (harmless saved.created saved.described saved.filled artifact
      saved.prepared).1 saved.saved
    refine ⟨launches.mpr keeps, ?_⟩
    intro pending held other
    have kept := fun pruned => unpruned pending pruned held
    constructor
    · rintro patch member rfl
      rw [state]
      exact (coherent.pointers.unique.install_mem_iff member other).mpr kept
    · rw [files, Disk.files_cleaned, if_neg (fun both => kept both.1), if_neg other]

/-- However the install of a blocked patch ends, it is harmless exactly under the condition. -/
theorem blocked_reinstall_harmless_iff (lib : Primitives) (calls : List Call) (env : Environment)
    (request : InstallRequest) (patchNumber : Nat) :
    let reached := runFrom (perform lib) Disk.empty calls
    patchNumber ∈ reached.state.badPatches →
    (∀ manifest, acceptPatch lib env request = .ok manifest → manifest.patchNumber = patchNumber) →
    (reached.Harmless (installPayloadWithBaseline lib env request reached).2 patchNumber ↔
      ∀ manifest, acceptPatch lib env request = .ok manifest →
        HarmlessReinstall lib env request reached manifest) := by
  intro reached blocked own
  have ends := install_ends lib env request (intact_run lib calls)
  rcases ended : installPayloadWithBaseline lib env request reached with ⟨error | value, after⟩
  · exact (ends.of_error ended).harmless_iff own
  · obtain ⟨manifest, artifact, saved⟩ := ends.of_ok ended
    obtain rfl := own manifest saved.accepted
    rw [saved.harmless_iff (Coherent.run lib calls) blocked]
    constructor
    · intro harmless other accepts
      rw [saved.accepted] at accepts
      cases accepts
      exact harmless
    · intro harmless
      exact harmless manifest saved.accepted

/-- Patch 2 is current and patch 1 was reported as failing; nothing else is pending. -/
theorem current_patch_survives_reinstall :
    let reached := runFrom (perform sampleLib) Disk.empty
      [sampleCall (.install (sampleInstall 2)), sampleCall .launchPatch, sampleCall .markSuccess,
        sampleCall (.markFailure 1 "crash")]
    reached.Harmless (installPayloadWithBaseline sampleLib sampleEnv (sampleInstall 1) reached).2 1 := by
  intro reached
  have accepted : acceptPatch sampleLib sampleEnv (sampleInstall 1) = .ok (sampleManifest 1) := by
    decide
  refine (blocked_reinstall_harmless_iff sampleLib _ sampleEnv (sampleInstall 1) 1 (by decide +kernel) ?_).mpr ?_
  · intro manifest accepts
    rw [accepted] at accepts
    cases accepts
    rfl
  · intro manifest _ _ _ _ artifact _ pruned
    have idle : reached.state.pendingPatchNumber = none := by decide +kernel
    have unused : reached.state.exhausted = none := by decide +kernel
    refine ⟨fun _ => ⟨?_, ?_⟩, fun unsaved => absurd rfl unsaved⟩
    · show reached.state.KeepsLaunch
      unfold State.KeepsLaunch
      rw [unused, idle]
      intro pending held
      cases held
    · intro pending _ held
      rw [show (runFrom (perform sampleLib) Disk.empty _).state.pendingPatchNumber = none from idle] at held
      cases held

/-- Patch 1 was reported as failing and patch 2 is waiting for its first launch; installing
patch 1 again takes its place. -/
theorem reinstall_displaces_pending_patch :
    ¬ ∀ (lib : Primitives) (calls : List Call) (env : Environment) (request : InstallRequest)
        (patchNumber : Nat),
      let reached := runFrom (perform lib) Disk.empty calls
      patchNumber ∈ reached.state.badPatches →
      (∀ manifest, acceptPatch lib env request = .ok manifest → manifest.patchNumber = patchNumber) →
      reached.Harmless (installPayloadWithBaseline lib env request reached).2 patchNumber := by
  intro harmless
  have accepted : acceptPatch sampleLib sampleEnv (sampleInstall 1) = .ok (sampleManifest 1) := by
    decide
  have same := harmless sampleLib [sampleCall (.install (sampleInstall 1)),
    sampleCall (.markFailure 1 "crash"), sampleCall (.install (sampleInstall 2))] sampleEnv
    (sampleInstall 1) 1 (by decide) (by
      intro manifest accepts
      rw [accepted] at accepts
      cases accepts
      rfl)
  have selected := same.1
  revert selected
  decide

end CodePush.Updater
