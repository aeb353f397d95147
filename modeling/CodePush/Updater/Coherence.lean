import CodePush.Updater.Durability

/-!
# Coherent states

What the other invariants of the state rest on. The pointers to patches are kept apart from
the blocklist, and the counter of launches belongs to the patch that would be launched again.
-/

set_option autoImplicit false

namespace CodePush.Updater

open CodePush.Core CodePush.Foundation

/-!
## Installed patches
-/

theorem sortInstalled_sorted (installed : List InstalledPatch) :
    (sortInstalled installed).Pairwise fun a b => a.patchNumber ≤ b.patchNumber := by
  have : Std.Total fun a b : InstalledPatch => a.patchNumber ≤ b.patchNumber :=
    ⟨fun a b => Nat.le_total a.patchNumber b.patchNumber⟩
  have : IsTrans InstalledPatch fun a b => a.patchNumber ≤ b.patchNumber :=
    ⟨fun _ _ _ => Nat.le_trans⟩
  exact List.pairwise_insertionSort _ installed

/-- At most one record a patch. -/
def State.Unique (state : State) : Prop := (state.installed.map (·.patchNumber)).Nodup

theorem State.Unique.addInstalled {state : State} (unique : state.Unique) (releaseVersion : String)
    (patch : InstalledPatch) : (state.addInstalled releaseVersion patch).Unique := by
  have others : ((state.installed.filter (·.patchNumber ≠ patch.patchNumber)).map
      (·.patchNumber)).Nodup := unique.sublist (List.filter_sublist.map _)
  have fresh : patch.patchNumber ∉
      (state.installed.filter (·.patchNumber ≠ patch.patchNumber)).map (·.patchNumber) := by
    simp
  have together : ((state.installed.filter (·.patchNumber ≠ patch.patchNumber) ++ [patch]).map
      (·.patchNumber)).Nodup := by
    rw [List.map_append, List.map_singleton]
    exact List.nodup_append.mpr ⟨others, List.nodup_singleton _, by
      intro number member other single
      rw [List.mem_singleton.mp single]
      rintro rfl
      exact fresh member⟩
  exact ((List.perm_insertionSort _ _).map _).nodup_iff.mpr together

theorem State.Unique.install {state : State} (unique : state.Unique) (releaseVersion : String)
    (patch : InstalledPatch) : (state.install releaseVersion patch).Unique :=
  (unique.addInstalled releaseVersion patch).sublist ((pruneInstalled_spec _ _ _).2.2.map _)

/-!
## Marking a patch bad
-/

namespace State

variable {state : State} {patchNumber other : Nat}

theorem mem_markPatchBad :
    other ∈ (state.markPatchBad patchNumber).badPatches ↔
      other ∈ state.badPatches ∨ other = patchNumber := by
  unfold markPatchBad
  dsimp only
  split
  case isTrue marked =>
    constructor
    · exact .inl
    · rintro (member | rfl)
      · exact member
      · exact marked
  case isFalse => simp

theorem markPatchBad_grows : state.badPatches <+: (state.markPatchBad patchNumber).badPatches := by
  unfold markPatchBad
  dsimp only
  split
  · exact List.prefix_refl _
  · exact List.prefix_append _ _

theorem markPatchBad_knownGood :
    (state.markPatchBad patchNumber).lastKnownGoodPatchNumber = some other ↔
      state.lastKnownGoodPatchNumber = some other ∧ other ≠ patchNumber := by
  unfold markPatchBad
  dsimp only
  split
  case isTrue same =>
    rw [same]
    constructor
    · intro none
      cases none
    · intro both
      exact absurd (Option.some.inj both.1).symm both.2
  case isFalse different =>
    constructor
    · intro known
      refine ⟨known, ?_⟩
      rintro rfl
      exact different known
    · exact And.left

/-- The fallback of the current patch is the last known good one, since these agree. -/
theorem markPatchBad_current
    (current : state.currentPatchNumber = state.lastKnownGoodPatchNumber.getD 0) :
    (state.markPatchBad patchNumber).currentPatchNumber =
      (state.markPatchBad patchNumber).lastKnownGoodPatchNumber.getD 0 := by
  unfold markPatchBad
  dsimp only
  cases known : state.lastKnownGoodPatchNumber with
  | none =>
      rw [known] at current
      simp [current]
  | some good =>
      rw [known, Option.getD_some] at current
      by_cases same : good = patchNumber
      · simp [same, current, Option.filter]
      · simp [same, current]

/-- The patch whose launches have used up their attempts. -/
def exhausted (state : State) : Option Nat :=
  state.isPendingSuccess.filter fun _ => saturatingSucc state.bootAttempts ≥ maxBootAttempts

theorem exhausted_eq_some : state.exhausted = some patchNumber ↔
    state.isPendingSuccess = some patchNumber ∧
      saturatingSucc state.bootAttempts ≥ maxBootAttempts := by
  simp [exhausted, Option.filter_eq_some_iff]

theorem crashRollback_eq (now : String) : state.crashRollback now = state.exhausted.map fun tried =>
    { eventType := .crashRollback, patchNumber := tried
      bootAttempts := saturatingSucc state.bootAttempts
      lastKnownGoodPatchNumber := state.lastKnownGoodPatchNumber, timestamp := now
      reason := none } := by
  unfold crashRollback exhausted
  cases state.isPendingSuccess with
  | none => rfl
  | some tried => by_cases used : saturatingSucc state.bootAttempts ≥ maxBootAttempts <;> simp [used]

theorem settleLastLaunch_of_exhausted (used : state.exhausted = some patchNumber) :
    state.settleLastLaunch = { state.markPatchBad patchNumber with lastLaunch := none } := by
  obtain ⟨pending, reached⟩ := exhausted_eq_some.mp used
  simp only [settleLastLaunch, pending, if_pos reached]

/-- Otherwise a launch only forgets the one before. -/
theorem settleLastLaunch_of_not_exhausted (left : state.exhausted = none) :
    ∃ last, state.settleLastLaunch = { state with lastLaunch := last } := by
  unfold settleLastLaunch
  cases pending : state.isPendingSuccess with
  | none => exact ⟨state.lastLaunch, rfl⟩
  | some tried =>
      have few : ¬ saturatingSucc state.bootAttempts ≥ maxBootAttempts := by
        intro reached
        have used := exhausted_eq_some.mpr ⟨pending, reached⟩
        rw [left] at used
        cases used
      exact ⟨none, by simp only [if_neg few]⟩

theorem recordLaunch_attempts {now : String} (few : state.bootAttempts + 1 < maxBootAttempts) :
    (state.recordLaunch patchNumber now).bootAttempts = state.bootAttempts + 1 := by
  unfold maxBootAttempts at few
  unfold recordLaunch saturatingSucc
  dsimp only
  omega

theorem settleLastLaunch_not_pending : state.settleLastLaunch.isPendingSuccess = none := by
  cases pending : state.isPendingSuccess with
  | none => rw [settleLastLaunch_of_not_pending pending, pending]
  | some tried =>
      unfold settleLastLaunch
      rw [pending]
      rfl

theorem settleLastLaunch_grows : state.badPatches <+: state.settleLastLaunch.badPatches := by
  cases used : state.exhausted with
  | none =>
      obtain ⟨last, same⟩ := settleLastLaunch_of_not_exhausted used
      have kept : state.settleLastLaunch.badPatches = state.badPatches := by rw [same]
      exact kept ▸ List.prefix_refl _
  | some tried =>
      rw [settleLastLaunch_of_exhausted used]
      exact markPatchBad_grows

/-- Installed and not blocked. -/
def usable (state : State) (patchNumber : Nat) : Bool :=
  decide (patchNumber ∉ state.badPatches) && state.isInstalled patchNumber

theorem usable_iff : state.usable patchNumber = true ↔
    patchNumber ∉ state.badPatches ∧ state.isInstalled patchNumber = true := by
  simp [usable]

theorem usable_of_selected (selected : state.selectLaunchPatchNumber = some patchNumber) :
    state.usable patchNumber = true := List.find?_some selected

theorem isInstalled_of_selected (selected : state.selectLaunchPatchNumber = some patchNumber) :
    state.isInstalled patchNumber = true := (usable_iff.mp (usable_of_selected selected)).2

theorem not_bad_of_selected (selected : state.selectLaunchPatchNumber = some patchNumber) :
    patchNumber ∉ state.badPatches := (usable_iff.mp (usable_of_selected selected)).1

end State

/-!
## The pointers
-/

/-- The blocklist, and the pointers that it is kept apart from. -/
structure PointersSound (state : State) : Prop where
  distinct : state.badPatches.Nodup
  good : ∀ patchNumber, state.lastKnownGoodPatchNumber = some patchNumber →
    patchNumber ∉ state.badPatches
  sorted : state.installed.Pairwise fun a b => a.patchNumber < b.patchNumber
  current : state.currentPatchNumber = state.lastKnownGoodPatchNumber.getD 0

namespace PointersSound

variable {state after : State}

theorem fresh : PointersSound State.fresh where
  distinct := List.nodup_nil
  good := fun patchNumber known => by cases known
  sorted := List.Pairwise.nil
  current := rfl

theorem replace (sound : PointersSound state) (bad : after.badPatches = state.badPatches)
    (known : after.lastKnownGoodPatchNumber = state.lastKnownGoodPatchNumber)
    (installed : after.installed = state.installed)
    (current : after.currentPatchNumber = state.currentPatchNumber) : PointersSound after where
  distinct := bad ▸ sound.distinct
  good := by
    rw [bad, known]
    exact sound.good
  sorted := installed ▸ sound.sorted
  current := by
    rw [current, known]
    exact sound.current

theorem markPatchBad (sound : PointersSound state) (patchNumber : Nat) :
    PointersSound (state.markPatchBad patchNumber) where
  distinct := by
    unfold State.markPatchBad
    dsimp only
    split
    case isTrue => exact sound.distinct
    case isFalse absent =>
      have apart : ∀ member ∈ state.badPatches, member ≠ patchNumber := by
        rintro member listed rfl
        exact absent listed
      simpa [List.nodup_append] using ⟨sound.distinct, apart⟩
  good := by
    intro other known
    obtain ⟨known, different⟩ := State.markPatchBad_knownGood.mp known
    rw [State.mem_markPatchBad]
    rintro (member | same)
    · exact sound.good other known member
    · exact different same
  sorted := sound.sorted
  current := State.markPatchBad_current sound.current

theorem settled (sound : PointersSound state) : PointersSound state.settleLastLaunch := by
  cases used : state.exhausted with
  | none =>
      obtain ⟨last, same⟩ := State.settleLastLaunch_of_not_exhausted used
      rw [same]
      exact sound.replace rfl rfl rfl rfl
  | some tried =>
      rw [State.settleLastLaunch_of_exhausted used]
      exact (sound.markPatchBad tried).replace rfl rfl rfl rfl

theorem launched (sound : PointersSound state) (now : String) : PointersSound (state.launch now).1 := by
  cases selected : state.settleLastLaunch.selectLaunchPatchNumber with
  | none =>
      rw [State.launch_of_not_selected selected]
      exact sound.settled
  | some tried =>
      obtain ⟨patch, found, _⟩ := State.launch_of_selected now selected
      rw [(State.launch_eq_some found).2]
      exact sound.settled.replace rfl rfl rfl rfl

theorem succeeded (sound : PointersSound state) {last : LastLaunch}
    (good : last.patchNumber ∉ state.badPatches) : PointersSound (state.succeeded last) where
  distinct := sound.distinct
  good := by
    intro patchNumber known
    cases known
    exact good
  sorted := sound.sorted
  current := rfl

theorem unique (sound : PointersSound state) : state.Unique := by
  unfold State.Unique
  rw [List.Nodup, List.pairwise_map]
  exact sound.sorted.imp Nat.ne_of_lt

theorem installed (sound : PointersSound state) (releaseVersion : String) (patch : InstalledPatch) :
    PointersSound (state.install releaseVersion patch) where
  distinct := sound.distinct
  good := sound.good
  sorted := by
    have unique := sound.unique.install releaseVersion patch
    unfold State.Unique at unique
    rw [List.Nodup, List.pairwise_map] at unique
    have kept : (state.install releaseVersion patch).installed.Sublist
        (state.addInstalled releaseVersion patch).installed := (pruneInstalled_spec _ _ _).2.2
    have ordered := (sortInstalled_sorted _).sublist kept
    exact (ordered.and unique).imp fun both => Nat.lt_of_le_of_ne both.1 both.2
  current := sound.current

/-- The current patch is tried only where it is the last known good one. -/
theorem select_eq (sound : PointersSound state) : state.selectLaunchPatchNumber =
    (state.pendingPatchNumber.filter state.usable).or
      (state.lastKnownGoodPatchNumber.filter state.usable) := by
  have current := sound.current
  have select : state.selectLaunchPatchNumber = state.launchCandidates.find? state.usable := rfl
  have first : ∀ (number : Nat) (others : List Nat), (number :: others).find? state.usable =
      ((some number).filter state.usable).or (others.find? state.usable) := by
    intro number others
    by_cases usable : state.usable number = true <;> simp [Option.filter, usable]
  have known : ((if state.currentPatchNumber > 0 then [state.currentPatchNumber] else []) ++
      state.lastKnownGoodPatchNumber.toList).find? state.usable =
        state.lastKnownGoodPatchNumber.filter state.usable := by
    cases known : state.lastKnownGoodPatchNumber with
    | none =>
        rw [known, Option.getD_none] at current
        simp [current]
    | some good =>
        rw [known, Option.getD_some] at current
        rw [current]
        split
        · rw [List.singleton_append, Option.toList_some, first, first]
          cases (some good).filter state.usable <;> rfl
        · rw [List.nil_append, Option.toList_some, first]
          simp
  rw [select, State.launchCandidates, List.append_assoc]
  cases state.pendingPatchNumber with
  | none => simpa using known
  | some pending => rw [Option.toList_some, List.singleton_append, first, known]

theorem step {lib : Primitives} {call : Call} {disk : Disk} (sound : PointersSound disk.state) :
    PointersSound (perform lib call disk).2.state := by
  have effect := perform_effect lib call disk
  generalize (perform lib call disk).2.state = after at effect ⊢
  generalize (perform lib call disk).1 = answered at effect
  cases effect with
  | failed => exact sound
  | ready => exact sound
  | installed => exact sound.installed _ _
  | launched => exact sound.launched _
  | succeeded _ _ good => exact sound.succeeded good
  | failure => exact (sound.markPatchBad _).replace rfl rfl rfl rfl

end PointersSound

/-!
## The counter
-/

/-- The counter belongs to the launch that awaits its report: as long as it is positive, the
patch of that launch is the one that would be launched again. -/
structure AttemptsSound (state : State) : Prop where
  few : state.bootAttempts < maxBootAttempts
  idle : state.isPendingSuccess = none → state.bootAttempts = 0
  tried : ∀ patchNumber, state.isPendingSuccess = some patchNumber → 0 < state.bootAttempts →
    state.selectLaunchPatchNumber = some patchNumber

namespace AttemptsSound

variable {state : State}

theorem reset (zero : state.bootAttempts = 0) : AttemptsSound state where
  few := by
    rw [zero]
    decide
  idle := fun _ => zero
  tried := by
    intro patchNumber _ positive
    omega

theorem saturatingSucc_eq (sound : AttemptsSound state) :
    saturatingSucc state.bootAttempts = state.bootAttempts + 1 := by
  have few := sound.few
  unfold maxBootAttempts at few
  unfold saturatingSucc
  omega

/-- Between the two halves of a launch. -/
theorem settled (sound : AttemptsSound state) :
    state.settleLastLaunch.bootAttempts + 1 < maxBootAttempts ∧
      (state.settleLastLaunch.selectLaunchPatchNumber = none →
        state.settleLastLaunch.bootAttempts = 0) := by
  cases used : state.exhausted with
  | some tried =>
      rw [State.settleLastLaunch_of_exhausted used]
      have reset : 0 + 1 < maxBootAttempts := by decide
      exact ⟨reset, fun _ => rfl⟩
  | none =>
      obtain ⟨last, same⟩ := State.settleLastLaunch_of_not_exhausted used
      have selection : state.settleLastLaunch.selectLaunchPatchNumber =
          state.selectLaunchPatchNumber := by
        rw [same]
        rfl
      have attempts : state.settleLastLaunch.bootAttempts = state.bootAttempts := by rw [same]
      rw [selection, attempts]
      cases pending : state.isPendingSuccess with
      | none =>
          rw [sound.idle pending]
          exact ⟨by decide, fun _ => rfl⟩
      | some tried =>
          have few : ¬ state.bootAttempts + 1 ≥ maxBootAttempts := by
            intro reached
            rw [← sound.saturatingSucc_eq] at reached
            rw [State.exhausted_eq_some.mpr ⟨pending, reached⟩] at used
            cases used
          refine ⟨by omega, ?_⟩
          intro unselected
          by_contra positive
          have selected := sound.tried tried pending (by omega)
          rw [unselected] at selected
          cases selected

theorem launched (sound : AttemptsSound state) (now : String) : AttemptsSound (state.launch now).1 := by
  obtain ⟨few, unselected⟩ := sound.settled
  cases selected : state.settleLastLaunch.selectLaunchPatchNumber with
  | none =>
      rw [State.launch_of_not_selected selected]
      exact .reset (unselected selected)
  | some tried =>
      obtain ⟨patch, found, number⟩ := State.launch_of_selected now selected
      rw [(State.launch_eq_some found).2, number]
      refine ⟨State.recordLaunch_attempts few ▸ few, ?_, ?_⟩
      · intro idle
        cases idle
      · intro patchNumber pending _
        cases pending
        exact selected

theorem step {lib : Primitives} {call : Call} {disk : Disk} (sound : AttemptsSound disk.state) :
    AttemptsSound (perform lib call disk).2.state := by
  have effect := perform_effect lib call disk
  generalize (perform lib call disk).2.state = after at effect ⊢
  generalize (perform lib call disk).1 = answered at effect
  cases effect with
  | failed => exact sound
  | ready => exact sound
  | installed => exact .reset rfl
  | launched => exact sound.launched _
  | succeeded => exact .reset rfl
  | failure => exact .reset rfl

end AttemptsSound

/-!
## Runs
-/

/-- The invariant of all runs. -/
structure Coherent (state : State) : Prop where
  pointers : PointersSound state
  attempts : AttemptsSound state

namespace Coherent

variable {state : State}

theorem fresh : Coherent State.fresh := ⟨.fresh, .reset rfl⟩

theorem step {lib : Primitives} {call : Call} {disk : Disk} (coherent : Coherent disk.state) :
    Coherent (perform lib call disk).2.state := ⟨coherent.pointers.step, coherent.attempts.step⟩

theorem run (lib : Primitives) (calls : List Call) :
    Coherent (runFrom (perform lib) Disk.empty calls).state :=
  (guarded_true (perform lib) Disk.empty calls).invariant (fun disk => Coherent disk.state)
    (fun _ _ coherent _ => coherent.step) fresh

end Coherent

end CodePush.Updater
