import CodePush.Foundation.Effects
import CodePush.Foundation.Runs

/-!
# Interleaved computations

A process is a computation in atomic steps on a shared state. A pool of processes
takes its steps in the order that a schedule gives. A process is sound when its
steps are safe whatever the others do in between, as long as they stay within what
it relies on; a pool of sound processes whose safe steps are what each relies on
takes safe steps only.
-/

set_option autoImplicit false

namespace CodePush.Foundation

/-- Each step names its operation, and goes on with the state before it. -/
inductive Process (ω σ α : Type) where
  | done (result : α)
  | step (operation : ω) (next : σ → Process ω σ α)

namespace Process

variable {ω σ α β : Type}

def bind : Process ω σ α → (α → Process ω σ β) → Process ω σ β
  | .done result, continue' => continue' result
  | .step operation next, continue' => .step operation fun state => (next state).bind continue'

instance : Monad (Process ω σ) where
  pure := .done
  bind := bind

def ended : Process ω σ α → Bool
  | .done _ => true
  | .step _ _ => false

/-- The process alone, from its first step to its last. -/
def run (effect : ω → σ → σ) : Process ω σ α → σ → α × σ
  | .done result, state => (result, state)
  | .step operation next, state => (next state).run effect (effect operation state)

theorem run_bind (effect : ω → σ → σ) (process : Process ω σ α) (next : α → Process ω σ β)
    (state : σ) :
    (process >>= next).run effect state =
      (next (process.run effect state).1).run effect (process.run effect state).2 := by
  induction process generalizing state with
  | done result => rfl
  | step operation continue' ih => exact ih state (effect operation state)

end Process

/-- A process that may fail. -/
abbrev Steps (ω ε σ α : Type) := ExceptT ε (Process ω σ) α

namespace Steps

variable {ω ε σ α β : Type}

/-- One atomic step: its answer is read from the state before it. -/
def atomic (operation : ω) (answer : σ → Except ε α) : Steps ω ε σ α :=
  Process.step operation fun state => .done (answer state)

/-- The process has ended, and not in an error. -/
def succeeded : Steps ω ε σ α → Bool
  | .done (.ok _) => true
  | _ => false

/-- No step at all. -/
def attempt (outcome : Except ε α) : Steps ω ε σ α := Process.done outcome

theorem attempt_ok_bind (value : α) (next : α → Steps ω ε σ β) :
    (attempt (.ok value) >>= next : Steps ω ε σ β) = next value := rfl

/-- The steps as one computation. -/
def run (effect : ω → σ → σ) (steps : Steps ω ε σ α) : Action ε σ α := Process.run effect steps

theorem run_bind (effect : ω → σ → σ) (steps : Steps ω ε σ α) (next : α → Steps ω ε σ β) :
    run effect (steps >>= next) = run effect steps >>= fun value => run effect (next value) := by
  funext state
  rw [Action.run_bind]
  refine (Process.run_bind effect steps (ExceptT.bindCont next) state).trans ?_
  unfold run
  rcases Process.run effect steps state with ⟨error | value, finish⟩
  · rfl
  · rfl

/-- The steps, and those of the handler after an error. -/
def orElse (steps : Steps ω ε σ α) (handler : ε → Steps ω ε σ α) : Steps ω ε σ α :=
  Process.bind steps fun
    | .ok value => .done (.ok value)
    | .error error => handler error

/-- The same steps with other errors. -/
def mapError {ε' : Type} (onError : ε → ε') (steps : Steps ω ε σ α) : Steps ω ε' σ α :=
  Process.bind steps fun outcome => .done (outcome.mapError onError)

theorem run_orElse (effect : ω → σ → σ) (steps : Steps ω ε σ α) (handler : ε → Steps ω ε σ α) (state : σ) :
    run effect (orElse steps handler) state =
      match run effect steps state with
      | (.ok value, finish) => (.ok value, finish)
      | (.error error, finish) => run effect (handler error) finish := by
  refine (Process.run_bind effect steps _ state).trans ?_
  unfold run
  rcases Process.run effect steps state with ⟨error | value, finish⟩
  · rfl
  · rfl

theorem run_mapError {ε' : Type} (effect : ω → σ → σ) (onError : ε → ε') (steps : Steps ω ε σ α) (state : σ) :
    run effect (mapError onError steps) state =
      ((run effect steps state).1.mapError onError, (run effect steps state).2) :=
  Process.run_bind effect steps _ state

end Steps

/-!
## Schedules
-/

section Pools

variable {ω σ α : Type} (effect : ω → σ → σ)

/-- The operation that a process of the pool does next. -/
def pending (pool : List (Process ω σ α)) (index : Nat) : Option ω :=
  match pool[index]? with
  | some (.step operation _) => some operation
  | _ => none

/-- One step of the process with this index; nothing happens when it is done. -/
def poolStep (index : Nat) (state : List (Process ω σ α) × σ) :
    Unit × (List (Process ω σ α) × σ) :=
  match state.1[index]? with
  | some (.step operation next) =>
      ((), state.1.set index (next state.2), effect operation state.2)
  | _ => ((), state)

variable {effect}

theorem poolStep_of_pending_none {index : Nat} {state : List (Process ω σ α) × σ}
    (idle : pending state.1 index = none) : (poolStep effect index state).2 = state := by
  unfold pending at idle
  unfold poolStep
  split at idle
  case h_1 => cases idle
  case h_2 => rfl

/-- What a step does to the state is its operation's effect. -/
theorem poolStep_state {index : Nat} {state : List (Process ω σ α) × σ} {operation : ω}
    (next : pending state.1 index = some operation) :
    (poolStep effect index state).2.2 = effect operation state.2 := by
  unfold pending at next
  unfold poolStep
  split at next
  case h_1 =>
    cases next
    rfl
  case h_2 => cases next

theorem poolStep_others {index other : Nat} {state : List (Process ω σ α) × σ}
    (different : other ≠ index) : (poolStep effect index state).2.1[other]? = state.1[other]? := by
  unfold poolStep
  split
  · exact List.getElem?_set_ne different.symm
  · rfl

theorem poolStep_length {index : Nat} {state : List (Process ω σ α) × σ} :
    (poolStep effect index state).2.1.length = state.1.length := by
  unfold poolStep
  split
  · exact List.length_set
  · rfl

/-- A process that a schedule leaves out is where it was. -/
theorem runFrom_untouched {start : List (Process ω σ α) × σ} {index : Nat} {schedule : List Nat}
    (absent : index ∉ schedule) :
    (runFrom (poolStep effect) start schedule).1[index]? = start.1[index]? := by
  induction schedule generalizing start with
  | nil => rfl
  | cons next schedule ih =>
      rw [List.mem_cons, not_or] at absent
      exact (ih absent.2).trans (poolStep_others absent.1)

theorem runFrom_length {start : List (Process ω σ α) × σ} {schedule : List Nat} :
    (runFrom (poolStep effect) start schedule).1.length = start.1.length := by
  induction schedule generalizing start with
  | nil => rfl
  | cons next schedule ih => exact ih.trans poolStep_length

/-- What a step makes of the process that takes it. -/
theorem poolStep_own {index : Nat} {state : List (Process ω σ α) × σ} {operation : ω}
    {next : σ → Process ω σ α} (here : state.1[index]? = some (.step operation next)) :
    (poolStep effect index state).2.1[index]? = some (next state.2) := by
  unfold poolStep
  rw [here]
  exact List.getElem?_set_self (List.getElem?_eq_some_iff.mp here).1

/-- What is to come of a process is what was to come of it before. -/
theorem poolStep_keeps {holds : Process ω σ α → Prop}
    (closed : ∀ operation next state, holds (.step operation next) → holds (next state))
    {index other : Nat} {state : List (Process ω σ α) × σ} {process : Process ω σ α}
    (here : state.1[other]? = some process) (holding : holds process) :
    ∃ left, (poolStep effect index state).2.1[other]? = some left ∧ holds left := by
  by_cases own : other = index
  · subst own
    cases process with
    | done result =>
        rw [poolStep_of_pending_none (by simp [pending, here])]
        exact ⟨_, here, holding⟩
    | step operation next => exact ⟨_, poolStep_own here, closed operation next state.2 holding⟩
  · exact ⟨process, (poolStep_others own).trans here, holding⟩

theorem runFrom_keeps {holds : Process ω σ α → Prop}
    (closed : ∀ operation next state, holds (.step operation next) → holds (next state))
    {start : List (Process ω σ α) × σ} {index : Nat} {process : Process ω σ α}
    (here : start.1[index]? = some process) (holding : holds process) (schedule : List Nat) :
    ∃ left, (runFrom (poolStep effect) start schedule).1[index]? = some left ∧ holds left := by
  induction schedule generalizing start process with
  | nil => exact ⟨process, here, holding⟩
  | cons next schedule ih =>
      obtain ⟨left, found, still⟩ := @poolStep_keeps _ _ _ effect holds closed next index _ _ here holding
      exact ih found still

/-- Every operation that is to come is allowed. -/
def Process.Only (allowed : ω → Prop) : Process ω σ α → Prop
  | .done _ => True
  | .step operation next => allowed operation ∧ ∀ state, (next state).Only allowed

/-- Such an operation is to come, if the others leave the right state behind. -/
inductive Process.Ahead (wanted : ω → Prop) : Process ω σ α → Prop where
  | now {operation : ω} {next : σ → Process ω σ α} (found : wanted operation) :
      Ahead wanted (.step operation next)
  | later {operation : ω} {next : σ → Process ω σ α} (state : σ) (ahead : Ahead wanted (next state)) :
      Ahead wanted (.step operation next)

/-- What is ahead after some steps was ahead before them. -/
theorem Process.Ahead.of_later {wanted : ω → Prop} {start : List (Process ω σ α) × σ} {index : Nat}
    {schedule : List Nat} {later : Process ω σ α}
    (there : (runFrom (poolStep effect) start schedule).1[index]? = some later)
    (ahead : later.Ahead wanted) : ∃ process, start.1[index]? = some process ∧ process.Ahead wanted := by
  induction schedule generalizing start with
  | nil => exact ⟨later, there, ahead⟩
  | cons next schedule ih =>
      obtain ⟨left, found, still⟩ := ih there
      by_cases own : index = next
      · subst own
        rcases here : start.1[index]? with _ | ⟨result⟩ | ⟨operation, continue'⟩
        · rw [poolStep_of_pending_none (by simp [pending, here]), here] at found
          cases found
        · rw [poolStep_of_pending_none (by simp [pending, here]), here] at found
          cases found
          exact ⟨_, rfl, still⟩
        · rw [poolStep_own here] at found
          cases found
          exact ⟨_, rfl, .later start.2 still⟩
      · rw [poolStep_others own] at found
        exact ⟨left, found, still⟩

end Pools

/-!
## Rely and guarantee
-/

section Soundness

variable {ω σ α β ε : Type}

/-- From `start` on, whatever the others do within `rely`, each step that is
`allowed` is `safe`, and the process `ends` as it should. -/
def Process.Sound (effect : ω → σ → σ) (rely : σ → σ → Prop) (allowed safe : ω → σ → Prop)
    (ends : α → σ → Prop) : Process ω σ α → σ → Prop
  | .done result, start => ends result start
  | .step operation next, start => ∀ state, rely start state → allowed operation state →
      safe operation state ∧ (next state).Sound effect rely allowed safe ends (effect operation state)

variable {effect : ω → σ → σ} {rely : σ → σ → Prop} {allowed safe : ω → σ → Prop}
  {ends : α → σ → Prop} {ends' : β → σ → Prop}

theorem Process.Sound.bind {process : Process ω σ α} {next : α → Process ω σ β} {start : σ}
    (first : process.Sound effect rely allowed safe ends start)
    (rest : ∀ result state, ends result state → (next result).Sound effect rely allowed safe ends' state) :
    (process >>= next).Sound effect rely allowed safe ends' start := by
  induction process generalizing start with
  | done result => exact rest result start first
  | step operation continue' ih =>
      intro state others permitted
      exact ⟨(first state others permitted).1, ih state (first state others permitted).2⟩

theorem Process.Sound.mono {ends₂ : α → σ → Prop} {process : Process ω σ α} {start : σ}
    (sound : process.Sound effect rely allowed safe ends start)
    (weaker : ∀ result state, ends result state → ends₂ result state) :
    process.Sound effect rely allowed safe ends₂ start := by
  induction process generalizing start with
  | done result => exact weaker result start sound
  | step operation next ih =>
      intro state others permitted
      exact ⟨(sound state others permitted).1, ih state (sound state others permitted).2⟩

/-- Postconditions of processes that may fail are about their values. -/
def Steps.Sound (effect : ω → σ → σ) (rely : σ → σ → Prop) (allowed safe : ω → σ → Prop)
    (returns : α → σ → Prop) (steps : Steps ω ε σ α) (start : σ) : Prop :=
  Process.Sound effect rely allowed safe
    (fun result state => ∀ value, result = Except.ok value → returns value state) steps start

namespace Steps.Sound

variable {returns : α → σ → Prop} {returns' : β → σ → Prop} {start : σ}

theorem bind {steps : Steps ω ε σ α} {next : α → Steps ω ε σ β}
    (first : Steps.Sound effect rely allowed safe returns steps start)
    (rest : ∀ value state, returns value state →
      Steps.Sound effect rely allowed safe returns' (next value) state) :
    Steps.Sound effect rely allowed safe returns' (steps >>= next) start := by
  refine Process.Sound.bind first ?_
  intro result state ended
  cases result with
  | error error =>
      intro value failed
      cases failed
  | ok value => exact rest value state (ended value rfl)

theorem atomic {operation : ω} {answer : σ → Except ε α}
    (step : ∀ state, rely start state → allowed operation state → safe operation state ∧
      ∀ value, answer state = .ok value → returns value (effect operation state)) :
    Steps.Sound effect rely allowed safe returns (Steps.atomic operation answer) start := step

theorem attempt {outcome : Except ε α} (holds : ∀ value, outcome = .ok value → returns value start) :
    Steps.Sound effect rely allowed safe returns (Steps.attempt outcome) start := holds

theorem pure {value : α} (holds : returns value start) :
    Steps.Sound effect rely allowed safe returns (Pure.pure value : Steps ω ε σ α) start := by
  intro _ same
  cases same
  exact holds

theorem throw {error : ε} :
    Steps.Sound effect rely allowed safe returns (MonadExcept.throw error : Steps ω ε σ α) start := by
  intro _ failed
  cases failed

theorem orElse {steps : Steps ω ε σ α} {handler : ε → Steps ω ε σ α}
    (first : Steps.Sound effect rely allowed safe returns steps start)
    (handles : ∀ error state, Steps.Sound effect rely allowed safe returns (handler error) state) :
    Steps.Sound effect rely allowed safe returns (Steps.orElse steps handler) start := by
  apply Process.Sound.bind first
  intro result state ended
  cases result with
  | error error => exact handles error state
  | ok value => exact ended

theorem mapError {ε' : Type} {onError : ε → ε'} {steps : Steps ω ε σ α}
    (first : Steps.Sound effect rely allowed safe returns steps start) :
    Steps.Sound effect rely allowed safe returns (Steps.mapError onError steps) start := by
  apply Process.Sound.bind first
  intro result state ended
  cases result with
  | error error =>
      intro value failed
      cases failed
  | ok value =>
      intro _ same
      cases same
      exact ended value rfl

end Steps.Sound

theorem Process.Sound.stable {process : Process ω σ α} {start state : σ}
    (transitive : ∀ one two three, rely one two → rely two three → rely one three)
    (stays : ∀ result, ends result start → ends result state)
    (sound : process.Sound effect rely allowed safe ends start) (others : rely start state) :
    process.Sound effect rely allowed safe ends state := by
  cases process with
  | done result => exact stays result sound
  | step operation next =>
      intro later rest permitted
      exact sound later (transitive _ _ _ others rest) permitted

/-- Every step of the process is safe. -/
abbrev Process.Safe (effect : ω → σ → σ) (rely : σ → σ → Prop) (allowed safe : ω → σ → Prop) :
    Process ω σ α → σ → Prop := Process.Sound effect rely allowed safe fun _ _ => True

/-- One step keeps a process safe: its own if it was allowed, another's if it is
within what the process relies on. -/
theorem Process.Safe.poolStep {process : Process ω σ α} {other index : Nat}
    {state : List (Process ω σ α) × σ}
    (reflexive : ∀ one, rely one one)
    (transitive : ∀ one two three, rely one two → rely two three → rely one three)
    (here : state.1[other]? = some process)
    (sound : process.Safe effect rely allowed safe state.2)
    (permitted : ∀ operation, pending state.1 index = some operation → allowed operation state.2)
    (within : index ≠ other → rely state.2 (poolStep effect index state).2.2) :
    ∃ left, (Foundation.poolStep effect index state).2.1[other]? = some left ∧
      left.Safe effect rely allowed safe (Foundation.poolStep effect index state).2.2 := by
  by_cases own : index = other
  · subst own
    cases process with
    | done result =>
        have idle : pending state.1 index = none := by simp [pending, here]
        rw [poolStep_of_pending_none idle]
        exact ⟨_, here, sound⟩
    | step operation next =>
        have ready : pending state.1 index = some operation := by simp [pending, here]
        have bound : index < state.1.length := (List.getElem?_eq_some_iff.mp here).1
        refine ⟨next state.2, ?_, ?_⟩
        · unfold Foundation.poolStep
          rw [here]
          exact List.getElem?_set_self bound
        · rw [poolStep_state ready]
          exact (sound state.2 (reflexive _) (permitted operation ready)).2
  · refine ⟨process, ?_, Process.Sound.stable transitive (fun _ _ => trivial) sound (within own)⟩
    rw [poolStep_others fun same => own same.symm]
    exact here

/-- The next step of a safe process is safe. -/
theorem Process.Safe.pending {process : Process ω σ α} {index : Nat}
    {state : List (Process ω σ α) × σ} {operation : ω} (reflexive : ∀ one, rely one one)
    (here : state.1[index]? = some process)
    (sound : process.Safe effect rely allowed safe state.2)
    (ready : pending state.1 index = some operation) (permitted : allowed operation state.2) :
    safe operation state.2 := by
  unfold Foundation.pending at ready
  rw [here] at ready
  cases process with
  | done result => cases ready
  | step operation' next =>
      cases ready
      exact (sound state.2 (reflexive _) permitted).1

/-- In a pool of safe processes whose safe steps are what each relies on, allowed
steps lead to such a pool. -/
theorem pool_invariant {start : List (Process ω σ α) × σ} {schedule : List Nat}
    (reflexive : ∀ one, rely one one)
    (transitive : ∀ one two three, rely one two → rely two three → rely one three)
    (guaranteed : ∀ operation state, allowed operation state → safe operation state →
      rely state (effect operation state))
    (sound : ∀ process ∈ start.1, process.Safe effect rely allowed safe start.2)
    (permitted : Guarded (poolStep effect) (fun state index =>
      ∀ operation, pending state.1 index = some operation → allowed operation state.2) start schedule) :
    rely start.2 (runFrom (poolStep effect) start schedule).2 := by
  refine (permitted.invariant (fun state => rely start.2 state.2 ∧
    ∀ process ∈ state.1, process.Safe effect rely allowed safe state.2) ?_ ⟨reflexive _, sound⟩).1
  intro state index invariant permitted
  obtain ⟨reached, sound⟩ := invariant
  have step : rely state.2 (poolStep effect index state).2.2 := by
    rcases ready : pending state.1 index with _ | operation
    · rw [poolStep_of_pending_none ready]
      exact reflexive _
    · rw [poolStep_state ready]
      rcases here : state.1[index]? with _ | process
      · simp [pending, here] at ready
      · have safe := (sound _ (List.mem_of_getElem? here)).pending reflexive here ready
          (permitted operation ready)
        exact guaranteed _ _ (permitted operation ready) safe
  refine ⟨transitive _ _ _ reached step, ?_⟩
  intro process member
  obtain ⟨other, found⟩ := List.mem_iff_getElem?.mp member
  have bound : other < state.1.length := by
    have inside := (List.getElem?_eq_some_iff.mp found).1
    rw [poolStep_length] at inside
    exact inside
  obtain ⟨left, found', kept⟩ := Process.Safe.poolStep reflexive transitive
    (List.getElem?_eq_getElem bound) (sound _ (List.getElem_mem bound)) permitted fun _ => step
  cases found.symm.trans found'
  exact kept

/-- Since the first step of the process, the steps of the others have kept to what it
relies on. -/
def LeftAlone (effect : ω → σ → σ) (rely : σ → σ → Prop) (start : List (Process ω σ α) × σ)
    (schedule : List Nat) (index : Nat) : Prop :=
  ∃ before window, schedule = before ++ index :: window ∧ index ∉ before ∧
    let begun := runFrom (poolStep effect) start before
    ∀ taken next, taken ++ [next] <+: index :: window → next ≠ index →
      rely (runFrom (poolStep effect) begun taken).2 (runFrom (poolStep effect) begun (taken ++ [next])).2

/-- A process is safe for as long as the others keep to what it relies on. -/
theorem window_invariant {start : List (Process ω σ α) × σ} {index : Nat} {schedule : List Nat}
    (reflexive : ∀ one, rely one one)
    (transitive : ∀ one two three, rely one two → rely two three → rely one three)
    {process : Process ω σ α} (here : start.1[index]? = some process)
    (sound : process.Safe effect rely (fun _ _ => True) safe start.2)
    (undisturbed : ∀ taken next, taken ++ [next] <+: schedule → next ≠ index →
      rely (runFrom (poolStep effect) start taken).2 (runFrom (poolStep effect) start (taken ++ [next])).2) :
    ∃ left, (runFrom (poolStep effect) start schedule).1[index]? = some left ∧
      left.Safe effect rely (fun _ _ => True) safe (runFrom (poolStep effect) start schedule).2 := by
  induction schedule generalizing start process with
  | nil => exact ⟨process, here, sound⟩
  | cons next schedule ih =>
      obtain ⟨left, found, kept⟩ := Process.Safe.poolStep reflexive transitive here sound
        (fun _ _ => trivial) (fun other => undisturbed [] next ⟨schedule, rfl⟩ other)
      refine ih found kept ?_
      intro taken later front other
      exact undisturbed (next :: taken) later (List.cons_prefix_cons.mpr ⟨rfl, front⟩) other

/-- The next step of a process that was left alone is safe. -/
theorem LeftAlone.next_safe {start : List (Process ω σ α) × σ} {schedule : List Nat} {index : Nat}
    {operation : ω} (alone : LeftAlone effect rely start schedule index)
    (reflexive : ∀ one, rely one one)
    (transitive : ∀ one two three, rely one two → rely two three → rely one three)
    (sound : ∀ process ∈ start.1, ∀ state, process.Safe effect rely (fun _ _ => True) safe state)
    (ready : pending (runFrom (poolStep effect) start schedule).1 index = some operation) :
    safe operation (runFrom (poolStep effect) start schedule).2 := by
  obtain ⟨before, window, rfl, fresh, alone⟩ := alone
  rw [runFrom_append] at ready ⊢
  generalize reached : runFrom (poolStep effect) start before = begun at alone ready ⊢
  have here : begun.1[index]? = start.1[index]? := by
    rw [← reached]
    exact runFrom_untouched fresh
  cases found : start.1[index]? with
  | none =>
      have length : (runFrom (poolStep effect) begun (index :: window)).1.length = start.1.length := by
        rw [runFrom_length, ← reached, runFrom_length]
      have outside : (runFrom (poolStep effect) begun (index :: window)).1[index]? = none := by
        rw [List.getElem?_eq_none_iff] at found ⊢
        omega
      simp [pending, outside] at ready
  | some process =>
      obtain ⟨left, still, safe⟩ := window_invariant reflexive transitive (here.trans found)
        (sound process (List.mem_of_getElem? found) begun.2) alone
      exact safe.pending reflexive still ready trivial

end Soundness

end CodePush.Foundation
