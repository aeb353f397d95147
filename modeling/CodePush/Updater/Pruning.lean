import CodePush.Updater.Coherence

/-!
# What pruning may remove

An install keeps two records and whatever is current, pending or last known good.
A patch that was launched and not yet reported on is none of these, so it stays
only if the loop finds enough other records to remove first.
-/

set_option autoImplicit false

namespace CodePush.Updater

open CodePush.Core CodePush.Foundation

/-- The current patch, the last known good one, and the one that is running. -/
def State.Tracks (state : State) (patchNumber : Nat) : Prop :=
  (state.currentPatchNumber = patchNumber ∧ patchNumber > 0) ∨
    state.lastKnownGoodPatchNumber = some patchNumber ∨
    state.isPendingSuccess = some patchNumber

/-- Every patch that the state points to is installed. -/
def State.NoDangling (state : State) : Prop :=
  ∀ patchNumber, state.Tracks patchNumber → state.isInstalled patchNumber = true

/-- Installing `patchNumber` does not prune the patch that awaits its report: apart
from the two, only patches that are older and that nothing keeps are installed. -/
def State.SparesRunning (state : State) (patchNumber : Nat) : Prop :=
  ∀ running, state.isPendingSuccess = some running →
    running = patchNumber ∨ running = state.currentPatchNumber ∨
    state.lastKnownGoodPatchNumber = some running ∨
    ∀ other ∈ state.installed, other.patchNumber ≠ patchNumber → other.patchNumber ≠ running →
      other.patchNumber < running ∧ other.patchNumber ≠ state.currentPatchNumber ∧
      state.lastKnownGoodPatchNumber ≠ some other.patchNumber

/-- The condition on a call: an install that is accepted spares the running patch. -/
def SparesRunning (lib : Primitives) (disk : Disk) (call : Call) : Prop :=
  ∀ request manifest, call.request = .install request →
    acceptPatch lib call.env request = .ok manifest →
    disk.state.SparesRunning manifest.patchNumber

/-!
## The pruning loop
-/

private theorem find?_least {loose : InstalledPatch → Bool} {installed : List InstalledPatch}
    (sorted : installed.Pairwise fun a b => a.patchNumber ≤ b.patchNumber)
    {first other : InstalledPatch} (found : installed.find? loose = some first)
    (member : other ∈ installed) (holds : loose other = true) :
    first.patchNumber ≤ other.patchNumber := by
  induction installed with
  | nil => cases member
  | cons head tail ih =>
      obtain ⟨least, sorted⟩ := List.pairwise_cons.mp sorted
      cases decided : loose head with
      | true =>
          rw [List.find?_cons_of_pos decided] at found
          cases found
          rcases List.mem_cons.mp member with rfl | member
          · exact Nat.le_refl _
          · exact least other member
      | false =>
          rw [List.find?_cons_of_neg (by simp [decided])] at found
          rcases List.mem_cons.mp member with rfl | member
          · rw [decided] at holds
            cases holds
          · exact ih sorted found member

/-- Among three records with different numbers one is neither of two given ones. -/
private theorem exists_third {installed : List InstalledPatch}
    (unique : (installed.map (·.patchNumber)).Nodup) (many : installed.length > 2) (one two : Nat) :
    ∃ other ∈ installed, other.patchNumber ≠ one ∧ other.patchNumber ≠ two := by
  by_contra absent
  have among : installed.map (·.patchNumber) ⊆ [one, two] := by
    intro number listed
    obtain ⟨other, member, rfl⟩ := List.mem_map.mp listed
    by_cases first : other.patchNumber = one
    · simp [first]
    · by_cases second : other.patchNumber = two
      · simp [second]
      · exact absurd ⟨other, member, first, second⟩ absent
  have short := (List.subperm_of_subset unique among).length_le
  simp only [List.length_map, List.length_cons, List.length_nil] at short
  omega

/-- The loop never reaches the newest loose record while it finds older ones. -/
private theorem pruneInstalled_spares {keeps : Nat → Bool} (patchNumber : Nat) {running : Nat}
    (rounds : Nat) {installed : List InstalledPatch}
    (sorted : installed.Pairwise fun a b => a.patchNumber ≤ b.patchNumber)
    (unique : (installed.map (·.patchNumber)).Nodup)
    (older : ∀ other ∈ installed, other.patchNumber ≠ patchNumber → other.patchNumber ≠ running →
      other.patchNumber < running ∧ keeps other.patchNumber = false) :
    ∀ old ∈ (pruneInstalled keeps rounds installed).1, old.patchNumber ≠ running := by
  induction rounds generalizing installed with
  | zero =>
      intro old member
      cases member
  | succ rounds ih =>
      unfold pruneInstalled
      split
      case isFalse =>
        intro old member
        cases member
      case isTrue many =>
        split
        case h_1 =>
          intro old member
          cases member
        case h_2 first found =>
          have rest : (installed.eraseP (!keeps ·.patchNumber)).Sublist installed :=
            List.eraseP_sublist
          have kept := ih (sorted.sublist rest) (unique.sublist (rest.map _))
            (fun other member => older other (rest.subset member))
          intro old member
          rcases List.mem_cons.mp member with rfl | member
          · obtain ⟨other, inside, fresh, different⟩ := exists_third unique many patchNumber running
            obtain ⟨below, loose⟩ := older other inside fresh different
            have least := find?_least sorted found inside (by simp [loose])
            omega
          · exact kept old member

/-- Under the condition, none of the tracked patches is pruned. -/
theorem State.Tracks.not_pruned {state : State} {releaseVersion : String} {patch : InstalledPatch}
    {patchNumber : Nat} (tracked : state.Tracks patchNumber) (unique : state.Unique)
    (spares : state.SparesRunning patch.patchNumber) :
    patchNumber ∉ state.prunedBy releaseVersion patch := by
  have keepsOwn : patchNumber = patch.patchNumber → patchNumber ∉ state.prunedBy releaseVersion patch := by
    intro same
    exact State.not_prunedBy_of_keeps (by simp [State.keepsOnPrune, State.addInstalled, same])
  have keepsCurrent : patchNumber = state.currentPatchNumber →
      patchNumber ∉ state.prunedBy releaseVersion patch := by
    intro same
    exact State.not_prunedBy_of_keeps (by simp [State.keepsOnPrune, State.addInstalled, same])
  have keepsKnown : state.lastKnownGoodPatchNumber = some patchNumber →
      patchNumber ∉ state.prunedBy releaseVersion patch := by
    intro same
    exact State.not_prunedBy_of_keeps (by simp [State.keepsOnPrune, State.addInstalled, same])
  rcases tracked with ⟨current, _⟩ | known | running
  · exact keepsCurrent current.symm
  · exact keepsKnown known
  · rcases spares patchNumber running with own | current | known | older
    · exact keepsOwn own
    · exact keepsCurrent current
    · exact keepsKnown known
    · intro pruned
      obtain ⟨old, removed, number⟩ := List.mem_map.mp pruned
      refine pruneInstalled_spares patch.patchNumber _ (sortInstalled_sorted _)
        (unique.addInstalled releaseVersion patch) ?_ old removed number
      -- Whatever else is installed is older and loose.
      intro other listed fresh different
      have member : other ∈ (state.addInstalled releaseVersion patch).installed := listed
      rcases State.mem_addInstalled.mp member with ⟨inside, _⟩ | rfl
      · obtain ⟨below, notCurrent, notKnown⟩ := older other inside fresh different
        refine ⟨below, ?_⟩
        simp [State.keepsOnPrune, State.addInstalled, fresh, notCurrent, notKnown.symm]
      · exact absurd rfl fresh

/-!
## Reachable states
-/

/-- What ties the four pointers together. A launch that was reported successful is
the last known good one, so reporting it again moves nothing. -/
structure Anchored (state : State) : Prop where
  pointers : PointersSound state
  known : ∀ patchNumber, state.lastKnownGoodPatchNumber = some patchNumber →
    state.isInstalled patchNumber = true
  running : ∀ patchNumber, state.isPendingSuccess = some patchNumber →
    state.isInstalled patchNumber = true
  reported : ∀ last, state.lastLaunch = some last →
    last.status = .pendingSuccess ∨ (∃ reason, last.status = .failure reason) ∨
    state.lastKnownGoodPatchNumber = some last.patchNumber

namespace Anchored

variable {state : State}

theorem fresh : Anchored State.fresh where
  pointers := .fresh
  known := fun patchNumber found => by cases found
  running := fun patchNumber found => by cases found
  reported := fun last found => by cases found

theorem unique (anchored : Anchored state) : state.Unique := anchored.pointers.unique

theorem noDangling (anchored : Anchored state) : state.NoDangling := by
  rintro patchNumber (⟨current, positive⟩ | known | running)
  · cases lastKnownGood : state.lastKnownGoodPatchNumber with
    | none =>
        have zero := anchored.pointers.current
        rw [lastKnownGood, Option.getD_none] at zero
        omega
    | some good =>
        have same := anchored.pointers.current
        rw [lastKnownGood, Option.getD_some, current] at same
        rw [same]
        exact anchored.known good lastKnownGood
  · exact anchored.known patchNumber known
  · exact anchored.running patchNumber running

theorem known_markPatchBad (anchored : Anchored state) {patchNumber other : Nat}
    (known : (state.markPatchBad patchNumber).lastKnownGoodPatchNumber = some other) :
    (state.markPatchBad patchNumber).isInstalled other = true :=
  anchored.known other (State.markPatchBad_knownGood.mp known).1

/-- A state that differs in the launch it remembers. -/
theorem replaceLaunch {after : State} (pointers : PointersSound after)
    (known : ∀ patchNumber, after.lastKnownGoodPatchNumber = some patchNumber →
      after.isInstalled patchNumber = true)
    (launch : after.lastLaunch = none ∨ ∃ last, after.lastLaunch = some last ∧
      ((∃ reason, last.status = .failure reason) ∨
        last.status = .pendingSuccess ∧ after.isInstalled last.patchNumber = true)) :
    Anchored after := by
  refine ⟨pointers, known, ?_, ?_⟩
  · intro patchNumber found
    unfold State.isPendingSuccess at found
    split at found
    case h_1 launched =>
      cases found
      rcases launch with none | ⟨last, same, ⟨reason, failed⟩ | ⟨_, present⟩⟩
      · rw [launched] at none
        cases none
      · rw [launched] at same
        cases same
        cases failed
      · rw [launched] at same
        cases same
        exact present
    case h_2 => cases found
  · intro last found
    rcases launch with none | ⟨other, same, failed | ⟨pending, _⟩⟩
    · rw [found] at none
      cases none
    · rw [found] at same
      cases same
      exact .inr (.inl failed)
    · rw [found] at same
      cases same
      exact .inl pending

theorem settled (anchored : Anchored state) : Anchored state.settleLastLaunch := by
  cases pending : state.isPendingSuccess with
  | none =>
      rw [State.settleLastLaunch_of_not_pending pending]
      exact anchored
  | some tried =>
      unfold State.settleLastLaunch
      rw [pending]
      dsimp only
      split
      · exact .replaceLaunch ((anchored.pointers.markPatchBad tried).replace rfl rfl rfl rfl)
          (fun _ known => anchored.known_markPatchBad known) (.inl rfl)
      · exact .replaceLaunch (anchored.pointers.replace rfl rfl rfl rfl) anchored.known (.inl rfl)

theorem launched (anchored : Anchored state) (now : String) : Anchored (state.launch now).1 := by
  have settled := anchored.settled
  cases selected : state.settleLastLaunch.selectLaunchPatchNumber with
  | none =>
      rw [State.launch_of_not_selected selected]
      exact settled
  | some tried =>
      obtain ⟨patch, found, rfl⟩ := State.launch_of_selected now selected
      rw [(State.launch_eq_some found).2]
      exact .replaceLaunch (settled.pointers.replace rfl rfl rfl rfl) settled.known
        (.inr ⟨_, rfl, .inr ⟨rfl, State.isInstalled_of_selected selected⟩⟩)

theorem succeeded (anchored : Anchored state) {last : LastLaunch}
    (launched : state.lastLaunch = some last) (good : last.patchNumber ∉ state.badPatches)
    (reported : ∀ reason, last.status ≠ .failure reason) : Anchored (state.succeeded last) := by
  have present : state.isInstalled last.patchNumber = true := by
    rcases anchored.reported last launched with pending | ⟨reason, failed⟩ | known
    · refine anchored.running last.patchNumber ?_
      obtain ⟨number, status, startedAt⟩ := last
      cases pending
      unfold State.isPendingSuccess
      rw [launched]
    · exact absurd failed (reported reason)
    · exact anchored.known last.patchNumber known
  refine ⟨anchored.pointers.succeeded good, ?_, ?_, ?_⟩
  · intro patchNumber known
    cases known
    exact present
  · intro patchNumber running
    cases running
  · intro again same
    cases same
    exact .inr (.inr rfl)

theorem installed (anchored : Anchored state) (releaseVersion : String) (patch : InstalledPatch)
    (spares : state.SparesRunning patch.patchNumber) :
    Anchored (state.install releaseVersion patch) := by
  have kept : ∀ patchNumber, state.Tracks patchNumber →
      (state.install releaseVersion patch).isInstalled patchNumber = true := fun _ tracked =>
    State.install_isInstalled (.inl (anchored.noDangling _ tracked))
      (tracked.not_pruned anchored.unique spares)
  refine ⟨anchored.pointers.installed releaseVersion patch, ?_, ?_, anchored.reported⟩
  · intro patchNumber known
    exact kept patchNumber (.inr (.inl known))
  · intro patchNumber running
    exact kept patchNumber (.inr (.inr running))

theorem step {lib : Primitives} {call : Call} {disk : Disk} (anchored : Anchored disk.state)
    (spares : SparesRunning lib disk call) : Anchored (perform lib call disk).2.state := by
  have effect := perform_effect lib call disk
  generalize (perform lib call disk).2.state = after at effect ⊢
  generalize (perform lib call disk).1 = answered at effect
  cases effect with
  | failed => exact anchored
  | ready => exact anchored
  | installed asked accepted => exact anchored.installed _ _ (spares _ _ asked accepted)
  | launched => exact anchored.launched call.env.now
  | succeeded asked launched good reported => exact anchored.succeeded launched good reported
  | failure asked =>
      exact .replaceLaunch ((anchored.pointers.markPatchBad _).replace rfl rfl rfl rfl)
        (fun _ known => anchored.known_markPatchBad known) (.inr ⟨_, rfl, .inl ⟨_, rfl⟩⟩)

end Anchored

/-- In a run whose installs spare the running patch, every patch that the state
points to is installed, and the next such call loses neither its record nor its
files. Only an install of that very patch writes to its directory. -/
theorem pruning_spares_tracked_patches (lib : Primitives) (calls : List Call)
    (spares : Guarded (perform lib) (SparesRunning lib) Disk.empty calls) :
    let reached := runFrom (perform lib) Disk.empty calls
    reached.state.NoDangling ∧
    ∀ call, SparesRunning lib reached call → ∀ patchNumber, reached.state.Tracks patchNumber →
      (perform lib call reached).2.state.isInstalled patchNumber = true ∧
      ((reached.patches patchNumber).isSome →
        ((perform lib call reached).2.patches patchNumber).isSome) ∧
      ((∀ request manifest, call.request = .install request →
          acceptPatch lib call.env request = .ok manifest → manifest.patchNumber ≠ patchNumber) →
        (perform lib call reached).2.patches patchNumber = reached.patches patchNumber) := by
  intro reached
  have anchored : Anchored reached.state := spares.invariant (fun disk => Anchored disk.state)
    (fun disk call anchored spares => anchored.step spares) Anchored.fresh
  refine ⟨anchored.noDangling, ?_⟩
  intro call spared patchNumber tracked
  refine ⟨?_, ?_⟩
  · have present := anchored.noDangling patchNumber tracked
    have effect := perform_effect lib call reached
    generalize (perform lib call reached).2.state = after at effect ⊢
    generalize (perform lib call reached).1 = answered at effect
    cases effect with
    | failed => exact present
    | ready => exact present
    | installed asked accepted =>
        exact State.install_isInstalled (.inl present)
          (tracked.not_pruned anchored.unique (spared _ _ asked accepted))
    | launched =>
        unfold State.isInstalled
        rw [State.launch_installed]
        exact present
    | succeeded => exact present
    | failure => exact present
  · rcases perform_files lib call reached with same | ⟨request, asked, manifest, artifactPath, accepted, files⟩
    · rw [same]
      exact ⟨fun present => present, fun _ => rfl⟩
    · have kept : patchNumber ∉ reached.state.prunedBy manifest.releaseVersion
          (installedRecord call.env manifest artifactPath) :=
        tracked.not_pruned anchored.unique (spared request manifest asked accepted)
      refine ⟨?_, ?_⟩
      · intro present
        by_cases same : patchNumber = manifest.patchNumber
        · subst same
          exact files.own kept present
        · rw [files.others patchNumber same kept]
          exact present
      · intro other
        exact files.others patchNumber (other request manifest asked accepted).symm kept

/-- Patch 1 is running when patch 2 is installed; both stay. -/
theorem sample_install_spares_running :
    let calls := sampleHistory ++ [sampleCall (.install (sampleInstall 2))]
    let reached := runFrom (perform sampleLib) Disk.empty calls
    Guarded (perform sampleLib) (SparesRunning sampleLib) Disk.empty calls ∧
    reached.state.isPendingSuccess = some 1 ∧ reached.state.NoDangling := by
  intro calls reached
  have first : SparesRunning sampleLib Disk.empty (sampleCall (.install (sampleInstall 1))) := by
    intro request manifest _ _ running pending
    cases pending
  have running : sampleDisk.state.isPendingSuccess = some 1 := by decide
  have second : SparesRunning sampleLib sampleDisk (sampleCall (.install (sampleInstall 2))) := by
    intro request manifest _ _ other pending
    rw [running] at pending
    cases pending
    have single : ∀ patch ∈ sampleDisk.state.installed, patch.patchNumber = 1 := by decide
    exact .inr (.inr (.inr fun patch member _ different => absurd (single patch member) different))
  have spares : Guarded (perform sampleLib) (SparesRunning sampleLib) Disk.empty calls := by
    refine ⟨first, ?_, second, trivial⟩
    intro request manifest asked
    cases asked
  exact ⟨spares, by decide, (pruning_spares_tracked_patches sampleLib calls spares).1⟩

/-- Patch 1 is launched and not yet reported on when patches 2 and 3 are installed:
its record is pruned. -/
theorem install_prunes_running_patch :
    ¬ ∀ (lib : Primitives) (calls : List Call),
      (runFrom (perform lib) Disk.empty calls).state.NoDangling := by
  intro noDangling
  have dangling := noDangling sampleLib
    (sampleHistory ++ [sampleCall (.install (sampleInstall 2)), sampleCall (.install (sampleInstall 3))])
    1 (.inr (.inr (by decide +kernel)))
  revert dangling
  decide +kernel

end CodePush.Updater
