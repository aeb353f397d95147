import CodePush.Updater.Blocklist

/-!
# Whom a crash is blamed on

A launch marks a patch bad on account of the counter alone. The counter is tied to the
answers that were given before: as many launches as it counts, with nothing between them
that could have changed the selection, returned the patch that is blamed.
-/

set_option autoImplicit false

namespace CodePush.Updater

open CodePush.Core CodePush.Foundation CodePush.Foundation.Action

/-- A call that went through and may change what is launched next. -/
def Answer.decides : Answer → Bool
  | .installed => true
  | .launched _ => true
  | .marked => true
  | _ => false

/-- The number of the patch that a launch returned. -/
def Answer.launchedNumber : Answer → Option Nat
  | .launched (some patch) => some patch.patchNumber
  | _ => none

/-- The last `count` decisive answers are launches of the patch. -/
def EndsInLaunches (answers : List Answer) (count patchNumber : Nat) : Prop :=
  ∃ older recent, answers.filter Answer.decides = older ++ recent ∧ recent.length = count ∧
    ∀ answer ∈ recent, answer.launchedNumber = some patchNumber

namespace EndsInLaunches

variable {answers : List Answer} {answer : Answer} {count patchNumber : Nat}

theorem zero (answers : List Answer) (patchNumber : Nat) : EndsInLaunches answers 0 patchNumber :=
  ⟨answers.filter Answer.decides, [], by simp, rfl, by simp⟩

theorem keep (ends : EndsInLaunches answers count patchNumber) (idle : answer.decides = false) :
    EndsInLaunches (answers ++ [answer]) count patchNumber := by
  obtain ⟨older, recent, filtered, length, launched⟩ := ends
  exact ⟨older, recent, by simp [filtered, idle], length, launched⟩

theorem launch (ends : EndsInLaunches answers count patchNumber) {patch : InstalledPatch}
    (same : patch.patchNumber = patchNumber) :
    EndsInLaunches (answers ++ [.launched (some patch)]) (count + 1) patchNumber := by
  obtain ⟨older, recent, filtered, length, launched⟩ := ends
  refine ⟨older, recent ++ [.launched (some patch)], ?_, by simp [length], ?_⟩
  · simp [filtered, Answer.decides]
  · intro answer member
    rcases List.mem_append.mp member with member | member
    · exact launched answer member
    · rw [List.mem_singleton.mp member]
      exact congrArg some same

end EndsInLaunches

/-!
## What the counter counts
-/

/-- The counter counts the launches that the answers end in. -/
structure Recounted (answers : List Answer) (state : State) : Prop where
  coherent : Coherent state
  counted : ∀ patchNumber, state.isPendingSuccess = some patchNumber →
    EndsInLaunches answers state.bootAttempts patchNumber

namespace Recounted

variable {answers : List Answer} {state : State}

/-- A launch of a patch, counted from the state between its two halves. -/
private theorem recordLaunch {patch : InstalledPatch} {now : String}
    (few : state.bootAttempts + 1 < maxBootAttempts)
    (ends : EndsInLaunches answers state.bootAttempts patch.patchNumber) (patchNumber : Nat)
    (pending : (state.recordLaunch patch.patchNumber now).isPendingSuccess = some patchNumber) :
    EndsInLaunches (answers ++ [.launched (some patch)])
      (state.recordLaunch patch.patchNumber now).bootAttempts patchNumber := by
  cases pending
  rw [State.recordLaunch_attempts few]
  exact ends.launch rfl

theorem launched (recounted : Recounted answers state) (now : String) (patchNumber : Nat)
    (pending : (state.launch now).1.isPendingSuccess = some patchNumber) :
    EndsInLaunches (answers ++ [.launched (state.launch now).2]) (state.launch now).1.bootAttempts
      patchNumber := by
  obtain ⟨⟨_, attempts⟩, counted⟩ := recounted
  obtain ⟨few, _⟩ := attempts.settled
  cases selected : state.settleLastLaunch.selectLaunchPatchNumber with
  | none =>
      rw [State.launch_of_not_selected selected] at pending
      dsimp only at pending
      rw [State.settleLastLaunch_not_pending] at pending
      cases pending
  | some tried =>
      obtain ⟨patch, found, rfl⟩ := State.launch_of_selected now selected
      rw [(State.launch_eq_some found).2] at pending ⊢
      rw [found]
      refine recordLaunch few ?_ patchNumber pending
      cases used : state.exhausted with
      | some blamed =>
          have reset : state.settleLastLaunch.bootAttempts = 0 := by
            rw [State.settleLastLaunch_of_exhausted used]
            rfl
          rw [reset]
          exact .zero answers _
      | none =>
          obtain ⟨last, same⟩ := State.settleLastLaunch_of_not_exhausted used
          have kept : state.settleLastLaunch.bootAttempts = state.bootAttempts := by rw [same]
          rw [kept]
          cases positive : state.bootAttempts with
          | zero => exact .zero answers _
          | succ before =>
              -- The counter is positive, so the same patch is launched again.
              cases running : state.isPendingSuccess with
              | none =>
                  rw [attempts.idle running] at positive
                  cases positive
              | some tried =>
                  have again := attempts.tried tried running (by omega)
                  have select : state.settleLastLaunch.selectLaunchPatchNumber =
                      state.selectLaunchPatchNumber := by
                    rw [same]
                    rfl
                  rw [select, again] at selected
                  cases selected
                  rw [← positive]
                  exact counted _ running

theorem step {lib : Primitives} {call : Call} {disk : Disk}
    (recounted : Recounted answers disk.state) :
    Recounted (answers ++ [(perform lib call disk).1]) (perform lib call disk).2.state := by
  refine ⟨recounted.coherent.step, ?_⟩
  have effect := perform_effect lib call disk
  generalize (perform lib call disk).2.state = after at effect ⊢
  generalize (perform lib call disk).1 = answered at effect ⊢
  intro patchNumber pending
  cases effect with
  | failed => exact (recounted.counted patchNumber pending).keep rfl
  | ready => exact (recounted.counted patchNumber pending).keep rfl
  | installed => exact .zero _ patchNumber
  | succeeded => exact .zero _ patchNumber
  | failure => exact .zero _ patchNumber
  | launched => exact recounted.launched call.env.now patchNumber pending

theorem run (lib : Primitives) (calls : List Call) :
    Recounted (outputsFrom (perform lib) Disk.empty calls)
      (runFrom (perform lib) Disk.empty calls).state := by
  have initially : Recounted [] Disk.empty.state :=
    ⟨Coherent.fresh, fun patchNumber pending => by cases pending⟩
  exact run_invariant (fun answers (disk : Disk) => Recounted answers disk.state)
    (fun _ _ _ recounted => recounted.step) initially calls

/-- The patch that the next launch blames was launched each time before. -/
theorem exhausted (recounted : Recounted answers state) {patchNumber : Nat}
    (used : state.exhausted = some patchNumber) :
    EndsInLaunches answers (maxBootAttempts - 1) patchNumber := by
  obtain ⟨pending, reached⟩ := State.exhausted_eq_some.mp used
  have attempts := recounted.coherent.attempts
  have all : state.bootAttempts = maxBootAttempts - 1 := by
    have few := attempts.few
    rw [attempts.saturatingSucc_eq] at reached
    omega
  rw [← all]
  exact recounted.counted patchNumber pending

end Recounted

/-!
## The launch that blames
-/

/-- The selection after the patch was marked bad: the last known good one, if usable. -/
theorem Coherent.fallback {state : State} (coherent : Coherent state) {patchNumber : Nat}
    (used : state.exhausted = some patchNumber) :
    state.settleLastLaunch.selectLaunchPatchNumber =
      state.lastKnownGoodPatchNumber.filter fun good =>
        decide (good ≠ patchNumber) && state.usable good := by
  obtain ⟨pending, reached⟩ := State.exhausted_eq_some.mp used
  have attempts := coherent.attempts
  have positive : 0 < state.bootAttempts := by
    rw [attempts.saturatingSucc_eq] at reached
    unfold maxBootAttempts at reached
    omega
  have selected := attempts.tried patchNumber pending positive
  have settled := State.settleLastLaunch_of_exhausted used
  have usable : ∀ other, state.settleLastLaunch.usable other =
      (decide (other ≠ patchNumber) && state.usable other) := by
    intro other
    rw [Bool.eq_iff_iff, State.usable_iff, Bool.and_eq_true, decide_eq_true_eq, State.usable_iff,
      settled]
    show other ∉ (state.markPatchBad patchNumber).badPatches ∧ state.isInstalled other = true ↔ _
    rw [State.mem_markPatchBad, not_or]
    constructor
    · intro here
      exact ⟨here.1.2, here.1.1, here.2⟩
    · intro here
      exact ⟨⟨here.2.1, here.1⟩, here.2.2⟩
  -- What else is pending was passed over when the patch was selected.
  have nothing : state.settleLastLaunch.pendingPatchNumber.filter
      state.settleLastLaunch.usable = none := by
    rw [Option.filter_eq_none_iff]
    intro other also
    have kept : state.pendingPatchNumber = some other ∧ other ≠ patchNumber := by
      rw [settled] at also
      unfold State.markPatchBad at also
      dsimp only at also
      split at also
      case isTrue => cases also
      case isFalse different =>
        refine ⟨also, ?_⟩
        rintro rfl
        exact different also
    rw [usable]
    intro both
    have before := coherent.pointers.select_eq
    rw [kept.1, selected] at before
    simp only [Bool.and_eq_true] at both
    simp [Option.filter, both.2] at before
    exact kept.2 before.symm
  have good : state.settleLastLaunch.lastKnownGoodPatchNumber.filter
      state.settleLastLaunch.usable = state.lastKnownGoodPatchNumber.filter fun good =>
        decide (good ≠ patchNumber) && state.usable good := by
    apply Option.ext
    intro other
    rw [Option.filter_eq_some_iff, Option.filter_eq_some_iff, usable]
    have known : state.settleLastLaunch.lastKnownGoodPatchNumber = some other ↔
        state.lastKnownGoodPatchNumber = some other ∧ other ≠ patchNumber := by
      rw [settled]
      exact State.markPatchBad_knownGood
    rw [known, Bool.and_eq_true, decide_eq_true_eq]
    tauto
  rw [coherent.pointers.settled.select_eq, nothing, good]
  rfl

theorem saveState_events (env : Environment) (state : State) (disk : Disk) :
    Ensures (saveState env state) disk (fun _ after => after.events = disk.events)
      (fun _ after => after.events = disk.events) := by
  apply ensures_bind
  exact ensures_attempt (fun _ _ => ensures_modify rfl) (fun _ _ => rfl)

theorem launchSelected_events (env : Environment) (changed : Bool) (state : State) (disk : Disk) :
    Ensures (launchSelected env changed state) disk (fun _ after => after.events = disk.events)
      (fun _ after => after.events = disk.events) := by
  have idle : Ensures (saveIfChanged env changed state >>= fun _ => pure none) disk
      (fun (_ : Option InstalledPatch) after => after.events = disk.events)
      (fun _ after => after.events = disk.events) := by
    apply ensures_bind
    unfold saveIfChanged
    split
    · exact (saveState_events env state disk).mono (fun _ _ same => ensures_pure same)
        (fun _ _ same => same)
    · exact ensures_pure (ensures_pure rfl)
  unfold launchSelected
  split
  · exact idle
  · split
    · exact idle
    · apply ensures_bind
      exact (saveState_events env _ disk).mono (fun _ _ same => ensures_pure same)
        (fun _ _ same => same)

/-- The event of a launch is the last of the log. -/
theorem launchPatch_logs (env : Environment) (disk : Disk) {event : CrashRollbackEvent}
    (logged : disk.state.crashRollback env.now = some event) :
    Ensures (launchPatch env) disk (fun _ after => after.events.getLast? = some event)
      (fun _ _ => True) := by
  refine ensures_bind ((loadState_ensures env disk).mono ?_ (fun _ _ _ => trivial))
  intro state loaded found
  obtain ⟨rfl, _⟩ := found
  rw [logged]
  apply ensures_bind
  apply ensures_bind
  refine ensures_attempt (fun _ _ => ensures_modify ?_) (fun _ _ => trivial)
  refine (launchSelected_events env _ _ _).mono ?_ (fun _ _ _ => trivial)
  intro _ after same
  rw [same]
  dsimp only
  rw [List.getLast?_drop, if_neg]
  · exact List.getLast?_concat
  · unfold maxRollbackEvents
    rw [List.length_append, List.length_singleton]
    omega

/-- A launch that marks a patch bad logs that. The decisive answers before it end in
launches of this patch, as many as there are attempts besides this one; the launch goes on
to return the last known good patch, if there is another one that is usable; and it marks
no other patch. -/
theorem crash_blamed_on_launched_patch (lib : Primitives) (calls : List Call) (call : Call)
    (found : Option InstalledPatch) (patchNumber : Nat) :
    let reached := runFrom (perform lib) Disk.empty calls
    let after := (perform lib call reached).2
    call.request = .launchPatch → (perform lib call reached).1 = .launched found →
    patchNumber ∈ after.state.badPatches → patchNumber ∉ reached.state.badPatches →
    (∃ event, after.events.getLast? = some event ∧ event.eventType = .crashRollback ∧
      event.patchNumber = patchNumber) ∧
    EndsInLaunches (outputsFrom (perform lib) Disk.empty calls) (maxBootAttempts - 1) patchNumber ∧
    found.map (·.patchNumber) = (reached.state.lastKnownGoodPatchNumber.filter fun good =>
      decide (good ≠ patchNumber) && (decide (good ∉ reached.state.badPatches) &&
        reached.state.isInstalled good)) ∧
    ∀ other ∈ after.state.badPatches, other ∉ reached.state.badPatches → other = patchNumber := by
  intro reached after asked answered marked unmarked
  have recounted := Recounted.run lib calls
  have launched : after.state = (reached.state.launch call.env.now).1 ∧
      found = (reached.state.launch call.env.now).2 := by
    have effect := perform_effect lib call reached
    rw [answered] at effect
    change Effect lib reached.state call (.launched found) after.state at effect
    generalize after.state = finish at effect ⊢
    cases effect
    exact ⟨rfl, rfl⟩
  obtain ⟨finish, rfl⟩ := launched
  have bad : after.state.badPatches = reached.state.settleLastLaunch.badPatches := by
    rw [finish]
    unfold State.launch
    dsimp only
    split
    · rfl
    · split <;> rfl
  rw [bad] at marked ⊢
  cases used : reached.state.exhausted with
  | none =>
      obtain ⟨last, same⟩ := State.settleLastLaunch_of_not_exhausted used
      rw [same] at marked
      exact absurd marked unmarked
  | some blamed =>
      have settled := State.settleLastLaunch_of_exhausted used
      have marks : ∀ other, other ∈ reached.state.settleLastLaunch.badPatches →
          other ∉ reached.state.badPatches → other = blamed := by
        intro other member absent
        rw [settled] at member
        exact (State.mem_markPatchBad.mp member).resolve_left absent
      obtain rfl := marks patchNumber marked unmarked
      refine ⟨?_, recounted.exhausted used, ?_, marks⟩
      · obtain ⟨env, request⟩ := call
        cases asked
        obtain ⟨event, logged, type, number⟩ : ∃ event,
            reached.state.crashRollback env.now = some event ∧
              event.eventType = .crashRollback ∧ event.patchNumber = patchNumber := by
          rw [State.crashRollback_eq, used]
          exact ⟨_, rfl, rfl, rfl⟩
        refine ⟨event, ?_, type, number⟩
        revert answered
        refine answer_ensured (fun given finish => given = .launched _ →
          finish.events.getLast? = some event) (launchPatch_logs env reached logged) _ ?_ ?_
        · intro _ finish last _
          exact last
        · intro error finish _ failed
          cases failed
      · have selects := recounted.coherent.fallback used
        cases selected : reached.state.settleLastLaunch.selectLaunchPatchNumber with
        | none =>
            rw [State.launch_of_not_selected selected]
            rw [selected] at selects
            exact selects
        | some tried =>
            obtain ⟨patch, launched, number⟩ := State.launch_of_selected call.env.now selected
            rw [launched, Option.map_some, number]
            rw [selected] at selects
            exact selects

/-- Patch 1 is launched twice without a report; the third launch blames it. -/
theorem sample_crash_blamed :
    let calls := sampleHistory ++ [sampleCall .launchPatch]
    let reached := runFrom (perform sampleLib) Disk.empty calls
    let after := (perform sampleLib (sampleCall .launchPatch) reached).2
    (∃ event, after.events.getLast? = some event ∧ event.eventType = .crashRollback ∧
      event.patchNumber = 1) ∧
    EndsInLaunches (outputsFrom (perform sampleLib) Disk.empty calls) 2 1 := by
  intro calls reached after
  have blamed := crash_blamed_on_launched_patch sampleLib calls (sampleCall .launchPatch) none 1 rfl
    (by decide +kernel) (by decide +kernel) (by decide)
  exact ⟨blamed.1, blamed.2.1⟩

end CodePush.Updater
