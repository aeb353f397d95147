import CodePush.Updater.Blame

/-!
# Installing an older patch

`policy.allow_downgrade` is part of the signed manifest, but no step of an install reads it.
What the next launch selects stays the same only where the older patch is blocked or was the
pending one anyway.
-/

set_option autoImplicit false

namespace CodePush.Updater

open CodePush.Core CodePush.Foundation

namespace State

variable {state : State} {patchNumber : Nat}

/-- Whether the next launch selects the same patch after an install of this one, an older one
than the current patch. A blocked patch is passed over, like whatever was pending before; but
the install also resets the counter that would have blocked a crashing patch. -/
def KeepsSelection (state : State) (patchNumber : Nat) : Prop :=
  match state.exhausted with
  | some crashing => patchNumber ∈ state.badPatches ∧ crashing ≠ state.currentPatchNumber
  | none =>
      if patchNumber ∈ state.badPatches then
        ∀ pending, state.pendingPatchNumber = some pending → state.usable pending = true →
          pending = state.currentPatchNumber
      else state.pendingPatchNumber = some patchNumber ∧ state.usable patchNumber = true

theorem launch_number (state : State) (now : String) :
    (state.launch now).2.map (·.patchNumber) = state.settleLastLaunch.selectLaunchPatchNumber := by
  cases selected : state.settleLastLaunch.selectLaunchPatchNumber with
  | none =>
      rw [launch_of_not_selected selected]
      rfl
  | some tried =>
      obtain ⟨patch, found, number⟩ := launch_of_selected now selected
      rw [found, Option.map_some, number]

/-- An install keeps the current patch, and no other record becomes usable by it. -/
theorem install_usable_current {releaseVersion : String} {patch : InstalledPatch}
    (older : patch.patchNumber ≠ state.currentPatchNumber) :
    (state.install releaseVersion patch).usable state.currentPatchNumber =
      state.usable state.currentPatchNumber := by
  have kept : state.currentPatchNumber ∉ state.prunedBy releaseVersion patch :=
    not_prunedBy_of_keeps (by simp [keepsOnPrune, addInstalled])
  rw [Bool.eq_iff_iff, usable_iff, usable_iff]
  constructor
  · intro usable
    refine ⟨usable.1, ?_⟩
    rcases isInstalled_of_install usable.2 with before | same
    · exact before
    · exact absurd same.symm older
  · intro usable
    exact ⟨usable.1, install_isInstalled (.inl usable.2) kept⟩

theorem install_usable_self {releaseVersion : String} (patch : InstalledPatch) :
    (state.install releaseVersion patch).usable patch.patchNumber =
      decide (patch.patchNumber ∉ state.badPatches) := by
  have kept : patch.patchNumber ∉ state.prunedBy releaseVersion patch :=
    not_prunedBy_of_keeps (by simp [keepsOnPrune, addInstalled])
  have present : (state.install releaseVersion patch).isInstalled patch.patchNumber = true :=
    install_isInstalled (.inr rfl) kept
  rw [Bool.eq_iff_iff, usable_iff, decide_eq_true_eq]
  exact and_iff_left present

end State

namespace Coherent

variable {state : State} {current patchNumber : Nat}

/-- A current patch is the last known good one. -/
theorem knownGood (coherent : Coherent state) (positive : 0 < state.currentPatchNumber) :
    state.lastKnownGoodPatchNumber = some state.currentPatchNumber := by
  have current := coherent.pointers.current
  cases known : state.lastKnownGoodPatchNumber with
  | none =>
      rw [known, Option.getD_none] at current
      omega
  | some good =>
      rw [known, Option.getD_some] at current
      rw [current]

/-- What the next launch selects after an install. -/
theorem selects_after_install (coherent : Coherent state) {releaseVersion : String}
    {patch : InstalledPatch} (older : patch.patchNumber < state.currentPatchNumber) :
    (state.install releaseVersion patch).settleLastLaunch.selectLaunchPatchNumber =
      if patch.patchNumber ∈ state.badPatches then
        (some state.currentPatchNumber).filter state.usable
      else some patch.patchNumber := by
  have reset : (state.install releaseVersion patch).bootAttempts = 0 := rfl
  rw [State.settleLastLaunch_select reset, (coherent.pointers.installed releaseVersion patch).select_eq]
  have pending : (state.install releaseVersion patch).pendingPatchNumber = some patch.patchNumber := rfl
  have known : (state.install releaseVersion patch).lastKnownGoodPatchNumber =
      some state.currentPatchNumber := coherent.knownGood (by omega)
  rw [pending, known, Option.filter_some, Option.filter_some, Option.filter_some,
    State.install_usable_self, State.install_usable_current (Nat.ne_of_lt older)]
  by_cases blocked : patch.patchNumber ∈ state.badPatches <;> simp [blocked]

/-- What it selects without the install. -/
theorem selects_before (coherent : Coherent state) (positive : 0 < state.currentPatchNumber) :
    state.settleLastLaunch.selectLaunchPatchNumber =
      match state.exhausted with
      | some crashing => (some state.currentPatchNumber).filter fun good =>
          decide (good ≠ crashing) && state.usable good
      | none => (state.pendingPatchNumber.filter state.usable).or
          ((some state.currentPatchNumber).filter state.usable) := by
  have known := coherent.knownGood positive
  cases used : state.exhausted with
  | some crashing => rw [coherent.fallback used, known]
  | none =>
      obtain ⟨last, same⟩ := State.settleLastLaunch_of_not_exhausted used
      have select : state.settleLastLaunch.selectLaunchPatchNumber = state.selectLaunchPatchNumber := by
        rw [same]
        rfl
      rw [select, coherent.pointers.select_eq, known]

theorem keepsSelection_iff (coherent : Coherent state) {releaseVersion : String}
    {patch : InstalledPatch} (older : patch.patchNumber < state.currentPatchNumber) :
    (state.install releaseVersion patch).settleLastLaunch.selectLaunchPatchNumber =
        state.settleLastLaunch.selectLaunchPatchNumber ↔
      state.KeepsSelection patch.patchNumber := by
  rw [coherent.selects_after_install older, coherent.selects_before (by omega)]
  unfold State.KeepsSelection
  cases used : state.exhausted with
  | some crashing =>
      dsimp only
      by_cases blocked : patch.patchNumber ∈ state.badPatches
      · rw [if_pos blocked, and_iff_right blocked]
        by_cases same : crashing = state.currentPatchNumber
        · -- The crashing patch was selected, so it is usable.
          obtain ⟨pending, reached⟩ := State.exhausted_eq_some.mp used
          have attempts := coherent.attempts
          have positive : 0 < state.bootAttempts := by
            rw [attempts.saturatingSucc_eq] at reached
            unfold maxBootAttempts at reached
            omega
          have usable := State.usable_of_selected (attempts.tried crashing pending positive)
          rw [same] at usable
          simp [Option.filter, same, usable]
        · have apart : state.currentPatchNumber ≠ crashing := fun equal => same equal.symm
          simp [Option.filter, same, apart]
      · rw [if_neg blocked]
        have different : patch.patchNumber ≠ state.currentPatchNumber := Nat.ne_of_lt older
        constructor
        · intro same
          have found := Option.filter_eq_some_iff.mp same.symm
          exact absurd (Option.some.inj found.1).symm different
        · intro both
          exact absurd both.1 blocked
  | none =>
      dsimp only
      by_cases blocked : patch.patchNumber ∈ state.badPatches
      · rw [if_pos blocked, if_pos blocked]
        cases state.pendingPatchNumber with
        | none => simp
        | some pending =>
            by_cases usable : state.usable pending = true
            · by_cases same : pending = state.currentPatchNumber
              · subst same
                simp [Option.filter, usable]
              · have differs : ¬ (some state.currentPatchNumber).filter state.usable = some pending := by
                  intro found
                  exact same (Option.some.inj (Option.filter_eq_some_iff.mp found).1).symm
                simpa [Option.filter, usable, same] using differs
            · simp [Option.filter, usable]
      · rw [if_neg blocked, if_neg blocked]
        have different : patch.patchNumber ≠ state.currentPatchNumber := Nat.ne_of_lt older
        have other : ∀ filtered, (some state.currentPatchNumber).filter state.usable = filtered →
            filtered ≠ some patch.patchNumber := by
          rintro filtered rfl found
          exact different (Option.some.inj (Option.filter_eq_some_iff.mp found).1).symm
        cases state.pendingPatchNumber with
        | none =>
            rw [Option.filter_none, Option.none_or]
            constructor
            · intro same
              exact absurd same.symm (other _ rfl)
            · intro both
              cases both.1
        | some pending =>
            by_cases usable : state.usable pending = true
            · constructor
              · intro same
                simp [Option.filter, usable] at same
                subst same
                exact ⟨rfl, usable⟩
              · intro both
                cases both.1
                simp [Option.filter, usable]
            · have passed : (some pending).filter state.usable = none := by
                simp [Option.filter, usable]
              rw [passed, Option.none_or]
              constructor
              · intro same
                exact absurd same.symm (other _ rfl)
              · intro both
                cases both.1
                exact absurd both.2 usable

end Coherent

/-- After an install of a patch older than the current one, the next launch selects what it
would have selected without it exactly if `KeepsSelection`, whatever the signed policy says. -/
theorem downgrade_ignored_iff (lib : Primitives) (calls : List Call) (call : Call)
    (request : InstallRequest) (manifest : PatchManifest) (now later : String) :
    let reached := runFrom (perform lib) Disk.empty calls
    let after := (perform lib call reached).2
    call.request = .install request → acceptPatch lib call.env request = .ok manifest →
    manifest.policy.allowDowngrade = false →
    manifest.patchNumber < reached.state.currentPatchNumber →
    (perform lib call reached).1 = .installed →
    ((after.state.launch later).2.map (·.patchNumber) =
        (reached.state.launch now).2.map (·.patchNumber) ↔
      reached.state.KeepsSelection manifest.patchNumber) := by
  intro reached after asked accepted _ older installed
  have effect := perform_effect lib call reached
  rw [installed] at effect
  change Effect lib reached.state call .installed after.state at effect
  generalize after.state = finish at effect ⊢
  cases effect with
  | installed asks accepts =>
      rw [asked] at asks
      cases asks
      rw [accepted] at accepts
      cases accepts
      rw [State.launch_number, State.launch_number]
      exact (Coherent.run lib calls).keepsSelection_iff older

/-- Patch 2 is current; patch 1 was reported as failing, and installing it again changes
nothing. -/
theorem blocked_downgrade_ignored :
    let calls := [sampleCall (.install (sampleInstall 2)), sampleCall .launchPatch,
      sampleCall .markSuccess, sampleCall (.markFailure 1 "crash")]
    let reached := runFrom (perform sampleLib) Disk.empty calls
    let after := (perform sampleLib (sampleCall (.install (sampleInstall 1))) reached).2
    (after.state.launch "0").2.map (·.patchNumber) =
      (reached.state.launch "0").2.map (·.patchNumber) := by
  intro calls reached after
  refine (downgrade_ignored_iff sampleLib calls (sampleCall (.install (sampleInstall 1)))
    (sampleInstall 1) (sampleManifest 1) "0" "0" rfl (by decide +kernel) rfl (by decide +kernel)
    (by decide +kernel)).mpr ?_
  have unused : reached.state.exhausted = none := by decide +kernel
  have blocked : 1 ∈ reached.state.badPatches := by decide +kernel
  have idle : reached.state.pendingPatchNumber = none := by decide +kernel
  show reached.state.KeepsSelection 1
  unfold State.KeepsSelection
  rw [unused]
  dsimp only
  rw [if_pos blocked, idle]
  intro pending none
  cases none

/-- Patch 2 is current when patch 1 is installed, whose policy does not allow a downgrade:
it is launched next. -/
theorem older_patch_launched :
    ¬ ∀ (lib : Primitives) (calls : List Call) (call : Call) (request : InstallRequest)
        (manifest : PatchManifest) (now later : String),
      let reached := runFrom (perform lib) Disk.empty calls
      let after := (perform lib call reached).2
      call.request = .install request → acceptPatch lib call.env request = .ok manifest →
      manifest.policy.allowDowngrade = false →
      manifest.patchNumber < reached.state.currentPatchNumber →
      (perform lib call reached).1 = .installed →
      (after.state.launch later).2.map (·.patchNumber) =
        (reached.state.launch now).2.map (·.patchNumber) := by
  intro ignored
  have same := ignored sampleLib [sampleCall (.install (sampleInstall 2)), sampleCall .launchPatch,
    sampleCall .markSuccess] (sampleCall (.install (sampleInstall 1))) (sampleInstall 1)
    (sampleManifest 1) "0" "0" rfl (by decide) rfl (by decide) (by decide)
  revert same
  decide

end CodePush.Updater
