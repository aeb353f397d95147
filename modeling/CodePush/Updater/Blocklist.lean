import CodePush.Updater.Coherence

/-!
# The blocklist

What holds of the state after every run from an empty cache directory, and that a patch that
is on the blocklist stays there and is returned no more.
-/

set_option autoImplicit false

namespace CodePush.Updater

open CodePush.Core CodePush.Foundation CodePush.Foundation.Action

/-- What every reachable state satisfies. The current patch number 0 stands for no patch. -/
structure State.WellFormed (state : State) : Prop where
  distinct : state.badPatches.Nodup
  notCurrent : ∀ patchNumber ∈ state.badPatches, patchNumber > 0 →
    state.currentPatchNumber ≠ patchNumber
  notKnownGood : ∀ patchNumber ∈ state.badPatches,
    state.lastKnownGoodPatchNumber ≠ some patchNumber
  sorted : state.installed.Pairwise fun a b => a.patchNumber < b.patchNumber
  current : state.currentPatchNumber = state.lastKnownGoodPatchNumber.getD 0
  attempts : state.bootAttempts < maxBootAttempts

namespace Coherent

variable {state : State}

theorem wellFormed (coherent : Coherent state) : state.WellFormed where
  distinct := coherent.pointers.distinct
  notCurrent := by
    intro patchNumber bad positive same
    have current := coherent.pointers.current
    cases known : state.lastKnownGoodPatchNumber with
    | none =>
        rw [known, same, Option.getD_none] at current
        omega
    | some good =>
        rw [known, same, Option.getD_some] at current
        exact coherent.pointers.good good known (current ▸ bad)
  notKnownGood := fun patchNumber bad known => coherent.pointers.good patchNumber known bad
  sorted := coherent.pointers.sorted
  current := coherent.pointers.current
  attempts := coherent.attempts.few

end Coherent

/-- No call takes a patch off the blocklist. -/
theorem badPatches_grows (lib : Primitives) (call : Call) (disk : Disk) :
    disk.state.badPatches <+: (perform lib call disk).2.state.badPatches := by
  have effect := perform_effect lib call disk
  generalize (perform lib call disk).2.state = after at effect ⊢
  generalize (perform lib call disk).1 = answered at effect
  cases effect with
  | failed => exact List.prefix_refl _
  | ready => exact List.prefix_refl _
  | installed => exact List.prefix_refl _
  | succeeded => exact List.prefix_refl _
  | failure => exact State.markPatchBad_grows
  | launched =>
      unfold State.launch
      dsimp only
      split
      · exact State.settleLastLaunch_grows
      · split
        · exact State.settleLastLaunch_grows
        · exact State.settleLastLaunch_grows

theorem badPatches_grows_run (lib : Primitives) (calls : List Call) (disk : Disk) :
    disk.state.badPatches <+: (runFrom (perform lib) disk calls).state.badPatches := by
  induction calls generalizing disk with
  | nil => exact List.prefix_refl _
  | cons call calls ih => exact (badPatches_grows lib call disk).trans (ih _)

/-- The patch that a launch or a query returns. -/
def Answer.patch : Answer → Option InstalledPatch
  | .launched patch => patch
  | .ready patch => patch
  | _ => none

theorem readyPatch_good (env : Environment) (disk : Disk) :
    Ensures (readyPatch env) disk
      (fun found _ => ∀ patch, found = some patch → patch.patchNumber ∉ disk.state.badPatches)
      (fun _ _ => True) := by
  refine ensures_bind ((loadState_ensures env disk).mono ?_ (fun _ _ _ => trivial))
  intro state loaded found
  obtain ⟨rfl, _⟩ := found
  cases disk.state.pendingPatchNumber with
  | none =>
      apply ensures_pure
      intro patch none
      cases none
  | some patchNumber =>
      dsimp only
      split
      case isTrue =>
        apply ensures_pure
        intro patch none
        cases none
      case isFalse good =>
        apply ensures_pure
        intro patch found
        rw [State.findInstalled_patchNumber found]
        exact good

/-- A blocked patch is neither launched nor offered. -/
theorem answered_not_bad (lib : Primitives) (call : Call) (disk : Disk) {patch : InstalledPatch}
    (answered : (perform lib call disk).1.patch = some patch) :
    patch.patchNumber ∉ disk.state.badPatches := by
  obtain ⟨env, request⟩ := call
  cases request with
  | readyPatch =>
      revert answered
      refine answer_ensured (fun given _ => given.patch = some patch → _)
        (readyPatch_good env disk) _ ?_ ?_
      · intro found _ good same
        exact good patch same
      · intro error _ _ none
        cases none
  | launchPatch =>
      have effect := perform_effect lib ⟨env, .launchPatch⟩ disk
      generalize (perform lib ⟨env, .launchPatch⟩ disk).2.state = after at effect
      generalize (perform lib ⟨env, .launchPatch⟩ disk).1 = given at effect answered
      cases effect with
      | failed => cases answered
      | ready asked => cases asked
      | installed => cases answered
      | succeeded => cases answered
      | failure => cases answered
      | launched =>
          intro bad
          have selected := (State.launch_eq_some answered).1
          exact State.not_bad_of_selected selected (State.settleLastLaunch_grows.subset bad)
  | install request =>
      unfold perform answer at answered
      dsimp only at answered
      split at answered <;> cases answered
  | markSuccess =>
      unfold perform answer at answered
      dsimp only at answered
      split at answered <;> cases answered
  | markFailure patchNumber reason =>
      unfold perform answer at answered
      dsimp only at answered
      split at answered <;> cases answered

/-- The state is well formed after every run. What is on the blocklist then stays there
in all later calls, and none of them returns such a patch. -/
theorem blocklist_permanent (lib : Primitives) (calls later : List Call) (call : Call) :
    let reached := runFrom (perform lib) Disk.empty calls
    let last := runFrom (perform lib) reached later
    reached.state.WellFormed ∧
    reached.state.badPatches <+: last.state.badPatches ∧
    ∀ patch, (perform lib call last).1.patch = some patch →
      patch.patchNumber ∉ reached.state.badPatches := by
  intro reached last
  have grows := badPatches_grows_run lib later reached
  refine ⟨(Coherent.run lib calls).wellFormed, grows, ?_⟩
  intro patch answered bad
  exact answered_not_bad lib call last answered (grows.subset bad)

end CodePush.Updater
