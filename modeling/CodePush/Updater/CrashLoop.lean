import CodePush.Updater.Coherence

/-!
# How often a crashing patch is launched

`boot_attempts` counts the launches that nobody reported on. It is one counter
for all patches, so the bound on a patch's launches holds as long as the counter
is only reset by a report on the patch it counts.
-/

set_option autoImplicit false

namespace CodePush.Updater

open CodePush.Core CodePush.Foundation

/-- The call reports `patchNumber` successful, or marks it bad. -/
def settles (patchNumber : Nat) (before : State) (call : Call) (answered : Answer) (after : State) :
    Bool :=
  (decide (patchNumber ∈ after.badPatches) && decide (patchNumber ∉ before.badPatches)) ||
    (decide (answered = .marked) &&
      match call.request with
      | .markSuccess => decide (before.lastLaunch.map (·.patchNumber) = some patchNumber)
      | .markFailure other _ => decide (other = patchNumber)
      | _ => false)

/-- The launches of `patchNumber` since it was last settled. -/
def countLaunches (patchNumber count : Nat) (before : State) (call : Call) (answered : Answer)
    (after : State) : Nat :=
  let count := if settles patchNumber before call answered after then 0 else count
  match answered with
  | .launched (some patch) => if patch.patchNumber = patchNumber then count + 1 else count
  | _ => count

/-- The launches of `patchNumber` at the end of a run, since it was last settled. -/
def launchesSince (lib : Primitives) (patchNumber : Nat) (start : Disk) (calls : List Call) : Nat :=
  (runFrom (accompanied (perform lib) fun count before call answered after =>
    countLaunches patchNumber count before.state call answered after.state) (start, 0) calls).2

/-- Installs, and reports of failure on a patch that was not launched last, come
only while no launch awaits its report. -/
def CountsAttempts (lib : Primitives) (disk : Disk) (call : Call) : Prop :=
  match call.request with
  | .install request =>
      (∃ manifest, acceptPatch lib call.env request = .ok manifest) → disk.state.bootAttempts = 0
  | .markFailure patchNumber _ =>
      disk.state.bootAttempts = 0 ∨
        disk.state.lastLaunch.map (·.patchNumber) = some patchNumber
  | _ => True

/-- The counter bounds the launches of the patch that is being tried. -/
structure Attempted (patchNumber count : Nat) (state : State) : Prop extends AttemptsSound state where
  bounded : count ≤ state.bootAttempts
  started : ∀ tried, state.isPendingSuccess = some tried → 0 < state.bootAttempts
  others : ∀ tried, state.isPendingSuccess = some tried → tried ≠ patchNumber → count = 0

namespace Attempted

variable {patchNumber count : Nat} {state : State}

/-- Once the counter is reset and no launch is pending, the count has to be zero. -/
theorem of_idle (idle : state.isPendingSuccess = none) (reset : state.bootAttempts = 0) :
    Attempted patchNumber 0 state where
  toAttemptsSound := .reset reset
  bounded := Nat.zero_le _
  started := fun tried pending => by rw [idle] at pending; cases pending
  others := fun tried pending => by rw [idle] at pending; cases pending

theorem fresh (patchNumber : Nat) : Attempted patchNumber 0 State.fresh := .of_idle rfl rfl

theorem count_eq_zero (attempted : Attempted patchNumber count state)
    (reset : state.bootAttempts = 0) : count = 0 :=
  Nat.le_zero.mp (reset ▸ attempted.bounded)

theorem not_pending (attempted : Attempted patchNumber count state)
    (reset : state.bootAttempts = 0) : state.isPendingSuccess = none := by
  cases pending : state.isPendingSuccess with
  | none => rfl
  | some tried =>
      have positive := attempted.started tried pending
      omega

/-- A launch recorded on top of a settled state. -/
theorem recordLaunch {now : String} {tried : Nat} (bounded : count ≤ state.bootAttempts)
    (few : state.bootAttempts + 1 < maxBootAttempts)
    (sound : AttemptsSound (state.recordLaunch tried now))
    (others : tried ≠ patchNumber → count = 0) :
    Attempted patchNumber (if tried = patchNumber then count + 1 else count)
      (state.recordLaunch tried now) := by
  have attempts : (state.recordLaunch tried now).bootAttempts = state.bootAttempts + 1 :=
    State.recordLaunch_attempts few
  refine ⟨sound, ?_, ?_, ?_⟩
  · rw [attempts]
    split
    · omega
    · omega
  · intro _ _
    rw [attempts]
    omega
  · intro same pending different
    cases pending
    rw [if_neg different]
    exact others different

/-!
### Launches
-/

/-- The counter and the count after the first half of a launch. Only a patch that
used up its attempts is marked bad, and then it is the one that was counted. -/
private theorem settled (attempted : Attempted patchNumber count state) :
    ∃ rest, rest = (if patchNumber ∈ state.settleLastLaunch.badPatches ∧
        patchNumber ∉ state.badPatches then 0 else count) ∧
      rest ≤ state.settleLastLaunch.bootAttempts ∧
      ∀ tried, state.settleLastLaunch.selectLaunchPatchNumber = some tried →
        tried ≠ patchNumber → rest = 0 := by
  refine ⟨_, rfl, ?_⟩
  cases used : state.exhausted with
  | some tried =>
      obtain ⟨pending, _⟩ := State.exhausted_eq_some.mp used
      -- the counted patch is marked bad, so nothing remains counted
      have nothing : (if patchNumber ∈ state.settleLastLaunch.badPatches ∧
          patchNumber ∉ state.badPatches then 0 else count) = 0 := by
        by_cases same : tried = patchNumber
        · subst same
          have good := State.not_bad_of_selected
            (attempted.tried tried pending (attempted.started tried pending))
          have bad : tried ∈ state.settleLastLaunch.badPatches := by
            rw [State.settleLastLaunch_of_exhausted used]
            exact State.mem_markPatchBad.mpr (.inr rfl)
          rw [if_pos ⟨bad, good⟩]
        · rw [attempted.others tried pending same]
          exact ite_self 0
      rw [nothing]
      exact ⟨Nat.zero_le _, fun _ _ _ => rfl⟩
  | none =>
      obtain ⟨last, same⟩ := State.settleLastLaunch_of_not_exhausted used
      have unmarked : ¬ (patchNumber ∈ state.settleLastLaunch.badPatches ∧
          patchNumber ∉ state.badPatches) := by
        rw [same]
        exact fun both => both.2 both.1
      have attempts : state.settleLastLaunch.bootAttempts = state.bootAttempts := by rw [same]
      have selection : state.settleLastLaunch.selectLaunchPatchNumber =
          state.selectLaunchPatchNumber := by
        rw [same]
        rfl
      rw [if_neg unmarked, attempts, selection]
      refine ⟨attempted.bounded, ?_⟩
      intro other selected different
      cases pending : state.isPendingSuccess with
      | none => exact attempted.count_eq_zero (attempted.idle pending)
      | some tried =>
          have again := attempted.tried tried pending (attempted.started tried pending)
          rw [selected] at again
          cases again
          exact attempted.others other pending different

theorem launched (attempted : Attempted patchNumber count state) {call : Call}
    (asked : call.request = .launchPatch) (now : String) :
    Attempted patchNumber
      (countLaunches patchNumber count state call (.launched (state.launch now).2)
        (state.launch now).1)
      (state.launch now).1 := by
  obtain ⟨rest, restEq, bounded, others⟩ := attempted.settled
  obtain ⟨few, unselected⟩ := attempted.toAttemptsSound.settled
  have sound := attempted.toAttemptsSound.launched now
  have counted : ∀ after : State, after.badPatches = state.settleLastLaunch.badPatches →
      ∀ found, (if settles patchNumber state call (.launched found) after then 0 else count) = rest := by
    intro after same found
    rw [restEq]
    simp [settles, asked, same]
  cases selected : state.settleLastLaunch.selectLaunchPatchNumber with
  | none =>
      rw [State.launch_of_not_selected selected]
      have reset := unselected selected
      have zero : rest = 0 := by omega
      unfold countLaunches
      dsimp only
      rw [counted _ rfl, zero]
      exact .of_idle State.settleLastLaunch_not_pending reset
  | some tried =>
      obtain ⟨patch, found, number⟩ := State.launch_of_selected now selected
      obtain ⟨_, after⟩ := State.launch_eq_some found
      rw [after, number] at sound
      rw [found, after, number]
      unfold countLaunches
      dsimp only
      rw [counted (state.settleLastLaunch.recordLaunch tried now) rfl, number]
      exact .recordLaunch bounded few sound (others tried selected)

/-!
### Reports
-/

/-- After a report the counter starts again, so the report has to settle the patch
that was counted. -/
private theorem reset {after : State} {rest : Nat} (attempted : Attempted patchNumber count state)
    (idle : after.isPendingSuccess = none) (zero : after.bootAttempts = 0)
    (unsettled : rest = 0 ∨ rest = count)
    (settles : ∀ tried, state.isPendingSuccess = some tried → tried = patchNumber → rest = 0) :
    Attempted patchNumber rest after := by
  have nothing : rest = 0 := by
    rcases unsettled with done | same
    · exact done
    · cases pending : state.isPendingSuccess with
      | none =>
          have empty := attempted.count_eq_zero (attempted.idle pending)
          omega
      | some tried =>
          by_cases counted : tried = patchNumber
          · exact settles tried pending counted
          · have empty := attempted.others tried pending counted
            omega
  rw [nothing]
  exact .of_idle idle zero

private theorem pending_lastLaunch {tried : Nat} (pending : state.isPendingSuccess = some tried) :
    state.lastLaunch.map (·.patchNumber) = some tried := by
  unfold State.isPendingSuccess at pending
  split at pending
  case h_1 launched =>
    cases pending
    rw [launched]
    rfl
  case h_2 => cases pending

theorem countLaunches_marked (call : Call) (after : State) :
    countLaunches patchNumber count state call .marked after = 0 ∨
      countLaunches patchNumber count state call .marked after = count := by
  unfold countLaunches
  dsimp only
  split
  · exact .inl rfl
  · exact .inr rfl

/-- A call that leaves the blocklist alone and reports nothing counts nothing. -/
private theorem countLaunches_same {call : Call} {answered : Answer} {after : State}
    (same : after.badPatches = state.badPatches) (unmarked : answered ≠ .marked)
    (unlaunched : ∀ patch, answered ≠ .launched patch) :
    countLaunches patchNumber count state call answered after = count := by
  have unsettled : settles patchNumber state call answered after = false := by
    simp [settles, same, unmarked]
  unfold countLaunches
  rw [unsettled]
  cases answered with
  | launched patch => exact absurd rfl (unlaunched patch)
  | installed => rfl
  | ready patch => rfl
  | marked => rfl
  | failed error => rfl

/-- One call that keeps the counter meaningful keeps its bound. -/
theorem step {lib : Primitives} {call : Call} {disk : Disk}
    (attempted : Attempted patchNumber count disk.state) (counts : CountsAttempts lib disk call) :
    Attempted patchNumber
      (countLaunches patchNumber count disk.state call (perform lib call disk).1
        (perform lib call disk).2.state)
      (perform lib call disk).2.state := by
  have effect := perform_effect lib call disk
  unfold CountsAttempts at counts
  generalize (perform lib call disk).2.state = after at effect ⊢
  generalize (perform lib call disk).1 = answered at effect ⊢
  cases effect with
  | failed =>
      rw [countLaunches_same rfl (by simp) (by simp)]
      exact attempted
  | ready =>
      rw [countLaunches_same rfl (by simp) (by simp)]
      exact attempted
  | installed asked accepted =>
      rw [asked] at counts
      have zero := counts ⟨_, accepted⟩
      have same : ∀ release patch, (disk.state.install release patch).badPatches =
          disk.state.badPatches := fun _ _ => rfl
      rw [countLaunches_same (same _ _) (by simp) (by simp), attempted.count_eq_zero zero]
      exact .of_idle (attempted.not_pending zero) rfl
  | launched asked => exact attempted.launched asked call.env.now
  | succeeded asked launched good reported =>
      refine attempted.reset rfl rfl (countLaunches_marked call _) ?_
      rintro tried pending rfl
      have last := pending_lastLaunch pending
      simp [countLaunches, settles, asked, last]
  | failure asked =>
      rw [asked] at counts
      refine attempted.reset rfl rfl (countLaunches_marked call _) ?_
      rintro tried pending rfl
      rcases counts with zero | last
      · have positive := attempted.started tried pending
        omega
      · rw [pending_lastLaunch pending] at last
        cases last
        simp [countLaunches, settles, asked]

end Attempted

/-- In a run in which the counter is only reset by reports on the patch it counts,
no patch is launched more than `maxBootAttempts` times before it is reported
successful or marked bad. -/
theorem launchesSince_le_maxBootAttempts (lib : Primitives) (calls : List Call) (patchNumber : Nat)
    (counts : Guarded (perform lib) (CountsAttempts lib) Disk.empty calls) :
    launchesSince lib patchNumber Disk.empty calls ≤ maxBootAttempts := by
  have attempted := (counts.accompanied (fun count before call answered after =>
      countLaunches patchNumber count before.state call answered after.state) 0).invariant
    (fun state => Attempted patchNumber state.2 state.1.state)
    (fun state call attempted counts => attempted.step counts) (Attempted.fresh patchNumber)
  exact Nat.le_trans attempted.bounded (Nat.le_of_lt attempted.few)

/-- Two launches of patch 1, after which it is launched no more. -/
theorem sample_launches_bounded :
    Guarded (perform sampleLib) (CountsAttempts sampleLib) Disk.empty
      (sampleHistory ++ [sampleCall .launchPatch]) ∧
    launchesSince sampleLib 1 Disk.empty (sampleHistory ++ [sampleCall .launchPatch]) = 2 ∧
    launchesSince sampleLib 1 Disk.empty (sampleHistory ++ [sampleCall .launchPatch]) ≤
      maxBootAttempts := by
  have counts : Guarded (perform sampleLib) (CountsAttempts sampleLib) Disk.empty
      (sampleHistory ++ [sampleCall .launchPatch]) :=
    ⟨fun _ => rfl, trivial, trivial, trivial⟩
  exact ⟨counts, by decide, launchesSince_le_maxBootAttempts sampleLib _ 1 counts⟩

/-- Installing the same patch again resets its counter: it is launched a fourth time
although nobody reported on it. -/
theorem reinstall_resets_crash_loop :
    ¬ ∀ (lib : Primitives) (calls : List Call) (patchNumber : Nat),
      launchesSince lib patchNumber Disk.empty calls ≤ maxBootAttempts := by
  intro bounded
  have fourth := bounded sampleLib
    (sampleHistory ++ [sampleCall .launchPatch] ++ sampleHistory ++ [sampleCall .launchPatch]) 1
  revert fourth
  decide

end CodePush.Updater
