import CodePush.Updater.CancelSteps

/-!
# Cancelled downloads

A download looks at the flag before each of its parts, and ends when it finds it set. The
flag is one for all calls, and every check and every download clears it: a cancel that is
meant for a download is lost if one of them does so before the download has looked.
-/

set_option autoImplicit false

namespace CodePush.Updater

open CodePush.Core CodePush.Foundation CodePush.Foundation.Action

/-!
## Cancels
-/

inductive UpdaterCall where
  | downloadAndInstall (lib : Primitives) (session : Session) (http : Http)
  | checkForUpdate (session : Session)
  | cancelPendingOperations

def UpdaterCall.steps : UpdaterCall → UpdaterProcess
  | .downloadAndInstall lib session http => fcbDownloadAndInstallSteps lib session http
  | .checkForUpdate session => fcbCheckForUpdateSteps session
  | .cancelPendingOperations => fcbCancelPendingOperations

/-- The calls that are under way, and what they share. -/
abbrev UpdaterPool := List UpdaterProcess × Shared

def underWay (calls : List UpdaterCall) (shared : Shared) : UpdaterPool :=
  (calls.map UpdaterCall.steps, shared)

def UpdaterOperation.starts : UpdaterOperation → Bool
  | .start => true
  | _ => false

def UpdaterOperation.clears : UpdaterOperation → Bool
  | .start | .clear => true
  | _ => false

def UpdaterOperation.cancels : UpdaterOperation → Bool
  | .cancel => true
  | _ => false

def UpdaterOperation.loads : UpdaterOperation → Bool
  | .load => true
  | _ => false

def UpdaterOperation.installs : UpdaterOperation → Bool
  | .install _ => true
  | _ => false

/-- The next step of the call is such an operation. -/
def Next (which : UpdaterOperation → Bool) (state : UpdaterPool) (index : Nat) : Prop :=
  (pending state.1 index).any which = true

instance (which : UpdaterOperation → Bool) (state : UpdaterPool) (index : Nat) :
    Decidable (Next which state index) := inferInstanceAs (Decidable (_ = true))

def UpdaterOperation.locks : UpdaterOperation → Bool
  | .lock => true
  | _ => false

/-- The lock is only taken when it is free. -/
def Ready (state : UpdaterPool) (index : Nat) : Prop :=
  Next UpdaterOperation.locks state index → state.2.locked = false

instance (state : UpdaterPool) (index : Nat) : Decidable (Ready state index) :=
  inferInstanceAs (Decidable (_ → _))

/-- The call `canceller` cancels after the download has started and before it last looks at
the flag, and the download goes on to install. -/
structure InstallsCancelled (start : UpdaterPool) (before : List Nat) (canceller : Nat) (between : List Nat)
    (download : Nat) (rest : List Nat) : Prop where
  started : download ∈ before
  cancels : Next UpdaterOperation.cancels (runFrom (poolStep UpdaterOperation.effect) start before) canceller
  looks : Next UpdaterOperation.loads
    (runFrom (poolStep UpdaterOperation.effect) start (before ++ canceller :: between)) download
  installs : Next UpdaterOperation.installs (runFrom (poolStep UpdaterOperation.effect) start
    (before ++ canceller :: (between ++ download :: rest))) download

/-- A download that has started, and has yet to look at the flag. -/
structure Looking (process : UpdaterProcess) : Prop where
  started : ∀ next, process ≠ .step .start next
  ahead : process.Ahead fun operation => operation.loads = true

/-- The step clears the flag, which was set, before a download that has started has looked at it. -/
structure Wipes (state : UpdaterPool) (index : Nat) : Prop where
  clears : Next UpdaterOperation.clears state index
  pending : state.2.cancelPending = true
  looking : ∃ process ∈ state.1, Looking process

/-!
## What a download does when it finds the flag set
-/

/-- A step that finds the flag set is the last one. -/
def Obeys {α : Type} : Process UpdaterOperation Shared (Except Error α) → Prop
  | .done _ => True
  | .step operation next => operation.starts = false ∧ ∀ shared,
      (operation.loads = true → shared.cancelPending = true → ∃ error, next shared = .done (.error error)) ∧
        Obeys (next shared)

namespace Obeys

variable {α β : Type}

theorem bind {steps : UpdaterSteps α} {next : α → UpdaterSteps β} (first : Obeys steps)
    (later : ∀ value, Obeys (next value)) : Obeys (steps >>= next : UpdaterSteps β) := by
  have bound : ∀ process : Process UpdaterOperation Shared (Except Error α), Obeys process →
      Obeys (Process.bind process (ExceptT.bindCont next) : UpdaterSteps β) := by
    intro process
    induction process with
    | done result =>
        intro _
        cases result with
        | error error => exact trivial
        | ok value => exact later value
    | step operation continue' ih =>
        intro obeys
        refine ⟨obeys.1, fun shared => ⟨?_, ih shared (obeys.2 shared).2⟩⟩
        intro loads pending
        obtain ⟨error, ends⟩ := (obeys.2 shared).1 loads pending
        refine ⟨error, ?_⟩
        show Process.bind (continue' shared) _ = _
        rw [ends]
        rfl
  exact bound steps first

theorem pure (value : α) : Obeys (Pure.pure value : UpdaterSteps α) := trivial

theorem throw (error : Error) : Obeys (MonadExcept.throw error : UpdaterSteps α) := trivial

theorem attempt (result : Result α) : Obeys (Steps.attempt result : UpdaterSteps α) := trivial

theorem atomic {operation : UpdaterOperation} {answer : Shared → Result α}
    (starts : operation.starts = false) (loads : operation.loads = false) :
    Obeys (Steps.atomic operation answer : UpdaterSteps α) := by
  refine ⟨starts, fun shared => ⟨?_, trivial⟩⟩
  intro loaded
  cases loads.symm.trans loaded

theorem onDevice (op : DeviceOp α) : Obeys (onDevice op) := atomic rfl rfl

theorem ensureNotCancelled : Obeys ensureNotCancelledSteps := by
  refine ⟨rfl, fun shared => ⟨?_, trivial⟩⟩
  intro _ pending
  refine ⟨.message "operation cancelled", ?_⟩
  simp only [pending, if_true]
  rfl

end Obeys

theorem readBodySteps_obeys (out : Bytes) (reads : List (Except String Bytes)) : Obeys (readBodySteps out reads) := by
  induction reads generalizing out with
  | nil => exact Obeys.bind Obeys.ensureNotCancelled fun _ => .pure _
  | cons read reads ih =>
      refine Obeys.bind Obeys.ensureNotCancelled fun _ => ?_
      cases read with
      | error text => exact .throw _
      | ok chunk =>
          dsimp only
          split
          · exact .pure _
          · split
            · exact .throw _
            · exact ih _

theorem downloadAttemptsSteps_obeys (http : Http) (url : String) (attempts : List Nat) (effectiveOffset : Nat)
    (lastError : Option Error) : Obeys (downloadAttemptsSteps http url attempts effectiveOffset lastError) := by
  induction attempts generalizing effectiveOffset lastError with
  | nil => exact .throw _
  | cons attempt attempts ih =>
      refine Obeys.bind Obeys.ensureNotCancelled fun _ => ?_
      cases http.get url attempt (if effectiveOffset > 0 then some effectiveOffset else none) with
      | answered status reads text =>
          dsimp only
          split
          · exact ih _ _
          · split
            · exact (readBodySteps_obeys _ _).bind fun _ => .pure _
            · split
              · exact (readBodySteps_obeys _ _).bind fun _ => .pure _
              · split
                · exact ih _ _
                · exact .throw _
      | failed text =>
          dsimp only
          split
          · exact ih _ _
          · exact .throw _

theorem downloadBytesSteps_obeys (http : Http) (url : String) (offset : Nat) :
    Obeys (downloadBytesSteps http url offset) := by
  unfold downloadBytesSteps
  split
  · exact downloadAttemptsSteps_obeys _ _ _ _ _
  · exact Obeys.bind Obeys.ensureNotCancelled fun _ => .attempt _

section Download

variable (lib : Primitives) (session : Session) (http : Http)

theorem downloadResumablePayloadSteps_obeys (url : String) (key : DownloadKey) :
    Obeys (downloadResumablePayloadSteps session http url key) := by
  refine (Obeys.onDevice _).bind fun _ => ?_
  refine (downloadBytesSteps_obeys http _ _).bind fun _ => ?_
  refine Obeys.bind Obeys.ensureNotCancelled fun _ => ?_
  exact (Obeys.onDevice _).bind fun _ => .pure _

theorem downloadPatchFilesSteps_obeys (runtime : Runtime) (patch : PatchCheck) :
    Obeys (downloadPatchFilesSteps lib session http runtime patch) := by
  refine (Obeys.attempt _).bind fun _ => ?_
  refine Obeys.bind Obeys.ensureNotCancelled fun _ => ?_
  refine (Obeys.attempt _).bind fun _ => ?_
  refine Obeys.bind Obeys.ensureNotCancelled fun _ => ?_
  refine (Obeys.attempt _).bind fun _ => ?_
  refine (Obeys.attempt _).bind fun _ => ?_
  refine (Obeys.onDevice _).bind fun _ => ?_
  refine (downloadResumablePayloadSteps_obeys session http _ _).bind fun _ => ?_
  refine (Obeys.attempt _).bind fun _ => ?_
  refine Obeys.bind Obeys.ensureNotCancelled fun _ => ?_
  refine (Obeys.attempt _).bind fun _ => ?_
  refine (Obeys.attempt _).bind fun _ => ?_
  exact (Obeys.onDevice _).bind fun _ => .pure _

theorem lastOrNewCheckSteps_obeys (runtime : Runtime) : Obeys (lastOrNewCheckSteps session runtime) := by
  unfold lastOrNewCheckSteps
  split
  · exact .pure _
  · refine Obeys.bind (Obeys.atomic rfl rfl) fun _ => ?_
    exact (Obeys.onDevice _).bind fun _ => .atomic rfl rfl

theorem downloadAndInstallSteps_obeys : Obeys (downloadAndInstallSteps lib session http) := by
  refine (Obeys.onDevice _).bind fun runtime => ?_
  refine Obeys.bind Obeys.ensureNotCancelled fun _ => ?_
  split
  · exact .throw _
  · refine (lastOrNewCheckSteps_obeys session runtime).bind fun response => ?_
    split
    · split
      · exact .throw _
      · exact .pure _
    · refine (downloadPatchFilesSteps_obeys lib session http _ _).bind fun _ => ?_
      refine Obeys.bind Obeys.ensureNotCancelled fun _ => ?_
      exact Obeys.bind (.atomic rfl rfl) fun _ => .pure _

end Download

/-!
## Calls that have started
-/

/-- No start is to come, and no install once a step has found the flag set. -/
def Heeds : UpdaterProcess → Prop
  | .done _ => True
  | .step operation next => operation.starts = false ∧ ∀ shared,
      (operation.loads = true → shared.cancelPending = true →
        (next shared).Only fun operation => operation.installs = false) ∧ Heeds (next shared)

theorem Heeds.bind {α : Type} {steps : UpdaterSteps α} {ending : Except Error α → UpdaterProcess}
    (obeys : Obeys steps) (failed : ∀ error, (ending (.error error)).Only fun operation => operation.installs = false)
    (heeds : ∀ result, Heeds (ending result)) : Heeds (Process.bind steps ending) := by
  have bound : ∀ process : Process UpdaterOperation Shared (Except Error α), Obeys process →
      Heeds (Process.bind process ending) := by
    intro process
    induction process with
    | done result => exact fun _ => heeds result
    | step operation next ih =>
        intro obeys
        refine ⟨obeys.1, fun shared => ⟨?_, ih shared (obeys.2 shared).2⟩⟩
        intro loads pending
        obtain ⟨error, ends⟩ := (obeys.2 shared).1 loads pending
        show (Process.bind (next shared) ending).Only _
        rw [ends]
        exact failed error
  exact bound steps obeys

/-- A call before its start, or under way. -/
def Kept (process : UpdaterProcess) : Prop :=
  Heeds process ∨ ∃ next, process = .step .start next ∧ ∀ shared, Heeds (next shared)

theorem heeds_step {operation : UpdaterOperation} {next : Shared → UpdaterProcess}
    (starts : operation.starts = false) (loads : operation.loads = false) (later : ∀ shared, Heeds (next shared)) :
    Heeds (.step operation next) := by
  refine ⟨starts, fun shared => ⟨?_, later shared⟩⟩
  intro loaded
  cases loads.symm.trans loaded

theorem setErrorSteps_heeds (error : Error) : Heeds (setErrorSteps error) :=
  heeds_step rfl rfl fun _ => heeds_step rfl rfl fun _ => trivial

theorem setErrorSteps_only (error : Error) :
    (setErrorSteps error).Only fun operation => operation.installs = false :=
  ⟨rfl, fun _ => ⟨rfl, fun _ => trivial⟩⟩

theorem UpdaterCall.steps_kept (call : UpdaterCall) : Kept call.steps := by
  cases call with
  | downloadAndInstall lib session http =>
      refine .inr ⟨_, rfl, fun _ => heeds_step rfl rfl fun _ => ?_⟩
      refine Heeds.bind (downloadAndInstallSteps_obeys lib session http) setErrorSteps_only ?_
      intro result
      cases result with
      | error error => exact setErrorSteps_heeds error
      | ok installed => exact heeds_step rfl rfl fun _ => trivial
  | checkForUpdate session =>
      refine .inr ⟨_, rfl, fun _ => heeds_step rfl rfl fun _ => ?_⟩
      refine Heeds.bind (Obeys.onDevice _) setErrorSteps_only ?_
      intro result
      cases result with
      | error error => exact setErrorSteps_heeds error
      | ok request =>
          refine heeds_step rfl rfl fun _ => ?_
          refine Heeds.bind (Obeys.atomic rfl rfl) (fun error => ⟨rfl, fun _ => setErrorSteps_only error⟩) ?_
          intro answer
          cases answer with
          | error error => exact heeds_step rfl rfl fun _ => setErrorSteps_heeds error
          | ok response =>
              exact heeds_step rfl rfl fun _ => heeds_step rfl rfl fun _ => heeds_step rfl rfl fun _ => trivial
  | cancelPendingOperations => exact .inl (heeds_step rfl rfl fun _ => trivial)

section Runs

theorem next_step {which : UpdaterOperation → Bool} {state : UpdaterPool} {index : Nat}
    {operation : UpdaterOperation} {next : Shared → UpdaterProcess}
    (here : state.1[index]? = some (.step operation next)) :
    Next which state index ↔ which operation = true := by
  simp [Next, pending, here]

theorem not_next_of_done {which : UpdaterOperation → Bool} {state : UpdaterPool} {index : Nat} {result : Int}
    (here : state.1[index]? = some (.done result)) : ¬ Next which state index := by
  simp [Next, pending, here]

variable {start : UpdaterPool} {schedule : List Nat} {index : Nat} {process : UpdaterProcess}

theorem heeds_next {operation : UpdaterOperation} {next : Shared → UpdaterProcess}
    (heeds : Heeds (.step operation next)) (shared : Shared) : Heeds (next shared) := (heeds.2 shared).2

/-- A call that has taken a step has started. -/
theorem heeds_of_mem (taken : index ∈ schedule) (here : start.1[index]? = some process) (kept : Kept process) :
    ∃ left, (runFrom (poolStep UpdaterOperation.effect) start schedule).1[index]? = some left ∧ Heeds left := by
  induction schedule generalizing start process with
  | nil => cases taken
  | cons next schedule ih =>
      by_cases own : next = index
      · subst own
        have started : ∃ left, (poolStep UpdaterOperation.effect next start).2.1[next]? = some left ∧
            Heeds left := by
          cases process with
          | done result =>
              rw [poolStep_of_pending_none (by simp [pending, here])]
              exact ⟨_, here, trivial⟩
          | step operation continue' =>
              refine ⟨_, poolStep_own here, ?_⟩
              rcases kept with heeds | ⟨continue'', same, later⟩
              · exact heeds_next heeds start.2
              · cases same
                exact later start.2
        obtain ⟨left, found, heeds⟩ := started
        exact runFrom_keeps (fun _ _ state heeds => heeds_next heeds state) found heeds schedule
      · have elsewhere : index ∈ schedule := by simpa [Ne.symm own] using taken
        exact ih elsewhere ((poolStep_others (Ne.symm own)).trans here) kept

/-- A call that looks at the flag later is looking now. -/
theorem looking_of_later (here : start.1[index]? = some process) (heeds : Heeds process)
    (looks : Next UpdaterOperation.loads (runFrom (poolStep UpdaterOperation.effect) start schedule) index) :
    Looking process := by
  constructor
  · rintro next rfl
    cases heeds.1
  · unfold Next pending at looks
    split at looks
    case h_1 operation next later =>
      have loads : operation.loads = true := by simpa using looks
      obtain ⟨process', found, ahead⟩ :=
        Process.Ahead.of_later later (.now loads : Process.Ahead (fun operation => operation.loads = true) _)
      cases here.symm.trans found
      exact ahead
    case h_2 => cases looks

/-- A cancel stays until the download has looked, if no step wipes it out. -/
theorem cancel_stays (spared : Guarded (poolStep UpdaterOperation.effect)
      (fun state index => Ready state index ∧ ¬ Wipes state index) start schedule)
    (cancelled : start.2.cancelPending = true) (here : start.1[index]? = some process) (heeds : Heeds process)
    (looks : Next UpdaterOperation.loads (runFrom (poolStep UpdaterOperation.effect) start schedule) index) :
    (runFrom (poolStep UpdaterOperation.effect) start schedule).2.cancelPending = true := by
  induction schedule generalizing start process with
  | nil => exact cancelled
  | cons next schedule ih =>
      obtain ⟨⟨_, spares⟩, later⟩ := spared
      have stays : (poolStep UpdaterOperation.effect next start).2.2.cancelPending = true := by
        cases ready : pending start.1 next with
        | none =>
            rw [poolStep_of_pending_none ready]
            exact cancelled
        | some operation =>
            have looking := looking_of_later here heeds looks
            have wipes : operation.clears = true → False := by
              intro clears
              refine spares ⟨?_, cancelled, process, List.mem_of_getElem? here, looking⟩
              simpa [Next, ready] using clears
            rw [poolStep_state ready]
            cases operation with
            | start => exact (wipes rfl).elim
            | clear => exact (wipes rfl).elim
            | cancel => rfl
            | load | lock | unlock | flight | work | install => exact cancelled
      obtain ⟨left, found, still⟩ :=
        @poolStep_keeps _ _ _ UpdaterOperation.effect Heeds (fun _ _ state heeds => heeds_next heeds state)
          next index start process here heeds
      exact ih later stays found still looks

end Runs

/-!
## Runs
-/

/-- In every run in which no step wipes out a cancel that a download has yet to look at, no
download that was cancelled in time goes on to install. -/
theorem cancel_heeded_unless_wiped (calls : List UpdaterCall) (shared : Shared) (schedule : List Nat)
    (spared : Guarded (poolStep UpdaterOperation.effect)
      (fun state index => Ready state index ∧ ¬ Wipes state index) (underWay calls shared) schedule) :
    ∀ before canceller between download rest,
      before ++ canceller :: (between ++ download :: rest) <+: schedule →
        ¬ InstallsCancelled (underWay calls shared) before canceller between download rest := by
  rintro before canceller between download rest front ⟨started, cancels, looks, installs⟩
  have spared := spared.take front
  rw [guarded_append] at spared
  obtain ⟨_, _, spared⟩ := spared
  rw [guarded_append] at spared
  simp only [runFrom_append, runFrom] at cancels looks installs
  generalize begun : runFrom (poolStep UpdaterOperation.effect) (underWay calls shared) before = state at *
  -- The download has started before the cancel.
  have heeding : ∃ process, state.1[download]? = some process ∧ Heeds process := by
    rw [← begun]
    cases call : (underWay calls shared).1[download]? with
    | some process =>
        have listed := List.mem_of_getElem? call
        obtain ⟨call', _, rfl⟩ := List.mem_map.mp listed
        exact heeds_of_mem started call call'.steps_kept
    | none =>
        have outside : ∀ taken, (runFrom (poolStep UpdaterOperation.effect) state taken).1[download]? = none := by
          intro taken
          rw [List.getElem?_eq_none_iff] at call ⊢
          rw [runFrom_length, ← begun, runFrom_length]
          exact call
        have absent := outside (canceller :: between)
        simp only [runFrom] at absent
        simp [Next, pending, absent] at looks
  obtain ⟨process, here, heeds⟩ := heeding
  have closed : ∀ operation next shared, Heeds (.step operation next) → Heeds (next shared) :=
    fun _ _ shared heeds => heeds_next heeds shared
  obtain ⟨process', here', heeds'⟩ :=
    @poolStep_keeps _ _ _ UpdaterOperation.effect Heeds closed canceller download state process here heeds
  have cancelled : (poolStep UpdaterOperation.effect canceller state).2.2.cancelPending = true := by
    unfold Next at cancels
    cases ready : Foundation.pending state.1 canceller with
    | none => simp [ready] at cancels
    | some operation =>
        rw [poolStep_state ready]
        cases operation with
        | cancel => rfl
        | _ => simp [ready, UpdaterOperation.cancels] at cancels
  have pending := cancel_stays spared.1 cancelled here' heeds' looks
  -- It finds the flag set, and is over.
  obtain ⟨looking, there, heeds''⟩ :=
    @runFrom_keeps _ _ _ UpdaterOperation.effect Heeds closed _ _ _ here' heeds' between
  generalize runFrom (poolStep UpdaterOperation.effect) _ between = found at *
  cases looking with
  | done result => exact not_next_of_done there looks
  | step operation next =>
      have quiet := (heeds''.2 found.2).1 ((next_step there).mp looks) pending
      obtain ⟨left, later, still⟩ := @runFrom_keeps _ _ _ UpdaterOperation.effect
        (Process.Only fun operation => operation.installs = false) (fun _ _ shared only => only.2 shared)
        _ _ _ (poolStep_own there) quiet rest
      cases left with
      | done result => exact not_next_of_done later installs
      | step operation' next' => cases still.1.symm.trans ((next_step later).mp installs)

/-- A device to which the patch was announced. -/
def abcDevice : Device :=
  { Device.new with
    runtime := { sampleRuntime with lastCheck := some { patchAvailable := true, patch := some abcPatch } } }

def unlockedDevice : Shared where
  cancelPending := false
  locked := false
  device := abcDevice

/-- A download, a cancel and a check. -/
def threeCalls : List UpdaterCall :=
  [.downloadAndInstall (digestLib abcPayload abcDigest) sampleSession (fileServer (patchFiles abcPayload)),
    .cancelPendingOperations, .checkForUpdate sampleSession]

/-- The download finds the flag set. -/
theorem cancel_heeded_alone :
    Guarded (poolStep UpdaterOperation.effect) Ready (underWay threeCalls unlockedDevice)
      [0, 0, 0, 0, 1, 0] ∧
    ∀ before canceller between download rest,
      before ++ canceller :: (between ++ download :: rest) <+: [0, 0, 0, 0, 1, 0] →
        ¬ InstallsCancelled (underWay threeCalls unlockedDevice) before canceller between download rest := by
  refine ⟨by decide, ?_⟩
  apply cancel_heeded_unless_wiped
  refine ⟨⟨?_, ?_⟩, ⟨?_, ?_⟩, ⟨?_, ?_⟩, ⟨?_, ?_⟩, ⟨?_, ?_⟩, ⟨?_, ?_⟩, trivial⟩
  case refine_2 => exact fun wipes => absurd wipes.pending (by decide)
  case refine_4 | refine_6 | refine_8 | refine_10 | refine_12 =>
    exact fun wipes => absurd wipes.clears (by decide)
  all_goals decide

/-- The check starts after the cancel, and before the download looks at the flag again. -/
theorem cancel_lost_to_check :
    ¬ ∀ (calls : List UpdaterCall) (shared : Shared) (schedule : List Nat),
      Guarded (poolStep UpdaterOperation.effect) Ready (underWay calls shared) schedule →
        ∀ before canceller between download rest,
          before ++ canceller :: (between ++ download :: rest) <+: schedule →
            ¬ InstallsCancelled (underWay calls shared) before canceller between download rest := by
  intro heeded
  have legal : Guarded (poolStep UpdaterOperation.effect) Ready (underWay threeCalls unlockedDevice)
      [0, 0, 0, 0, 1, 2, 0, 0, 0, 0, 0, 0, 0, 0, 0, 0, 0, 0, 0, 0] := by
    decide
  refine heeded threeCalls unlockedDevice _ legal [0, 0, 0, 0] 1 [2, 0, 0, 0, 0, 0, 0, 0, 0, 0, 0, 0, 0, 0] 0 []
    ⟨[], rfl⟩ ?_
  constructor
  · decide
  · decide
  · decide
  · decide

end CodePush.Updater
