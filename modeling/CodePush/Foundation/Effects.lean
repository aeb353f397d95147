import CodePush.Foundation.Except

/-!
# Stateful computations that may fail

Postconditions for `ExceptT` over a state: one for the result and one for the
error, since a failed computation leaves behind the state it had reached. And
relations between states that a computation cannot see across.
-/

set_option autoImplicit false

namespace CodePush.Foundation

abbrev Action (ε σ α : Type) := ExceptT ε (StateM σ) α

namespace Action

variable {ε σ α β : Type}

/-- A source of failure outside the state. -/
def attempt (outcome : Except ε α) : Action ε σ α := fun state => (outcome, state)

/-- A failure that the program ignores. -/
def ignore {δ : Type} (outcome : Except δ α) (effect : σ → σ) : Action ε σ Unit := fun state =>
  match outcome with
  | .ok _ => (.ok (), effect state)
  | .error _ => (.ok (), state)

theorem run_bind (action : Action ε σ α) (next : α → Action ε σ β) (start : σ) :
    (action >>= next) start =
      match action start with
      | (.ok value, middle) => next value middle
      | (.error error, finish) => (.error error, finish) := by
  simp only [bind, ExceptT.bind, ExceptT.mk, StateT.bind, ExceptT.bindCont]
  cases action start with
  | mk outcome middle => cases outcome <;> rfl

/-!
What a computation that returned went through.
-/

private theorem ended_iff {left right : Except ε α} {start finish : σ} :
    ((left, start) : Id (Except ε α × σ)) = (right, finish) ↔ left = right ∧ start = finish :=
  Prod.ext_iff

theorem bind_eq_ok {action : Action ε σ α} {next : α → Action ε σ β} {start finish : σ} {result : β} :
    (action >>= next) start = (.ok result, finish) ↔
      ∃ value middle, action start = (.ok value, middle) ∧ next value middle = (.ok result, finish) := by
  rw [run_bind]
  constructor
  · intro ended
    rcases first : action start with ⟨error | value, middle⟩
    · rw [first] at ended
      cases ended
    · rw [first] at ended
      exact ⟨value, middle, rfl, ended⟩
  · rintro ⟨value, middle, first, ended⟩
    rw [first]
    exact ended

theorem pure_eq_ok {value result : α} {start finish : σ} :
    (pure value : Action ε σ α) start = (.ok result, finish) ↔ result = value ∧ finish = start := by
  refine ended_iff.trans ?_
  simp [eq_comm]

theorem throw_ne_ok {error : ε} {result : α} {start finish : σ} :
    ¬ (throw error : Action ε σ α) start = (.ok result, finish) := by
  intro ended
  cases (ended_iff.mp ended).1

theorem attempt_eq_ok {outcome : Except ε α} {result : α} {start finish : σ} :
    attempt outcome start = (.ok result, finish) ↔ outcome = .ok result ∧ finish = start := by
  refine ended_iff.trans ?_
  simp [eq_comm]

theorem get_eq_ok {start finish result : σ} :
    (get : Action ε σ σ) start = (.ok result, finish) ↔ result = start ∧ finish = start := by
  refine ended_iff.trans ?_
  simp [eq_comm]

theorem modify_eq_ok {update : σ → σ} {result : PUnit} {start finish : σ} :
    (modify update : Action ε σ PUnit) start = (.ok result, finish) ↔ finish = update start := by
  refine ended_iff.trans ?_
  simp [eq_comm]

/-- From `start`, the computation ends in a result that satisfies `returns` or in
an error that satisfies `fails`. -/
def Ensures (action : Action ε σ α) (start : σ) (returns : α → σ → Prop) (fails : ε → σ → Prop) :
    Prop :=
  match action start with
  | (.ok value, finish) => returns value finish
  | (.error error, finish) => fails error finish

variable {action : Action ε σ α} {next : α → Action ε σ β} {start : σ}
  {returns : α → σ → Prop} {returns' : β → σ → Prop} {fails : ε → σ → Prop}

theorem ensures_pure {value : α} (holds : returns value start) :
    Ensures (pure value : Action ε σ α) start returns fails := holds

theorem ensures_throw {error : ε} (holds : fails error start) :
    Ensures (throw error : Action ε σ α) start returns fails := holds

theorem ensures_attempt {outcome : Except ε α} (holds : ∀ value, outcome = .ok value → returns value start)
    (failed : ∀ error, outcome = .error error → fails error start) :
    Ensures (attempt outcome) start returns fails := by
  cases outcome with
  | ok value => exact holds value rfl
  | error error => exact failed error rfl

theorem ensures_bind
    (first : Ensures action start (fun value middle => Ensures (next value) middle returns' fails) fails) :
    Ensures (action >>= next) start returns' fails := by
  unfold Ensures at first ⊢
  rw [run_bind]
  split at first
  case h_1 => exact first
  case h_2 => exact first

theorem ensures_get {returns : σ → σ → Prop} (holds : returns start start) :
    Ensures (get : Action ε σ σ) start returns fails := holds

theorem ensures_modify {update : σ → σ} {returns : PUnit → σ → Prop}
    (holds : returns () (update start)) :
    Ensures (modify update : Action ε σ PUnit) start returns fails := holds

theorem ensures_ignore {δ : Type} {outcome : Except δ α} {effect : σ → σ}
    {returns : Unit → σ → Prop} (failed : returns () start) (holds : returns () (effect start)) :
    Ensures (ignore outcome effect : Action ε σ Unit) start returns fails := by
  unfold ignore
  cases outcome with
  | error => exact failed
  | ok => exact holds

theorem Ensures.mono {returns₂ : α → σ → Prop} {fails₂ : ε → σ → Prop}
    (ensured : Ensures action start returns fails)
    (weaker : ∀ value finish, returns value finish → returns₂ value finish)
    (weakerError : ∀ error finish, fails error finish → fails₂ error finish) :
    Ensures action start returns₂ fails₂ := by
  unfold Ensures at ensured ⊢
  split at ensured
  case h_1 value finish _ => exact weaker value finish ensured
  case h_2 error finish _ => exact weakerError error finish ensured

/-- What the first part ensures is what the second may start from. -/
theorem Ensures.bind {returns₂ : β → σ → Prop} (ensured : Ensures action start returns fails)
    (rest : ∀ value finish, returns value finish → Ensures (next value) finish returns₂ fails) :
    Ensures (action >>= next) start returns₂ fails :=
  ensures_bind (ensured.mono rest fun _ _ failed => failed)

/-- The rule for three steps, before a fourth. -/
theorem Ensures.bind_triple {γ δ : Type} {second : α → Action ε σ β} {third : β → Action ε σ γ}
    {fourth : γ → Action ε σ δ} {returns₂ : γ → σ → Prop} {returns₃ : δ → σ → Prop}
    (ensured : Ensures (action >>= fun value => second value >>= third) start returns₂ fails)
    (rest : ∀ value finish, returns₂ value finish → Ensures (fourth value) finish returns₃ fails) :
    Ensures (action >>= fun value => second value >>= fun other => third other >>= fourth) start
      returns₃ fails := by
  have together := ensured.bind rest
  simpa only [bind_assoc] using together

theorem ensures_self (action : Action ε σ α) (start : σ) :
    Ensures action start (fun value finish => action start = (.ok value, finish))
      (fun error finish => action start = (.error error, finish)) := by
  unfold Ensures
  split
  case h_1 ended => exact ended
  case h_2 ended => exact ended

theorem Ensures.and {returns₂ : α → σ → Prop} {fails₂ : ε → σ → Prop}
    (first : Ensures action start returns fails) (second : Ensures action start returns₂ fails₂) :
    Ensures action start (fun value finish => returns value finish ∧ returns₂ value finish)
      (fun error finish => fails error finish ∧ fails₂ error finish) := by
  unfold Ensures at first second ⊢
  split at first
  case h_1 ended =>
    rw [ended] at second
    exact ⟨first, second⟩
  case h_2 ended =>
    rw [ended] at second
    exact ⟨first, second⟩

theorem Ensures.of_ok {value : α} {finish : σ} (ensured : Ensures action start returns fails)
    (ended : action start = (.ok value, finish)) : returns value finish := by
  unfold Ensures at ensured
  rw [ended] at ensured
  exact ensured

theorem Ensures.of_error {error : ε} {finish : σ} (ensured : Ensures action start returns fails)
    (ended : action start = (.error error, finish)) : fails error finish := by
  unfold Ensures at ensured
  rw [ended] at ensured
  exact ensured

/-- Where it is decided beforehand whether an action returns. -/
theorem Ensures.isOk_iff {decided : Prop} {left : ε → σ → Prop}
    (ensured : Ensures action start (fun _ _ => decided) (fun error finish => ¬ decided ∧ left error finish)) :
    (action start).1.isOk = true ↔ decided := by
  rcases ended : action start with ⟨error | value, finish⟩
  · exact iff_of_false Bool.false_ne_true (ensured.of_error ended).1
  · exact iff_of_true rfl (ensured.of_ok ended)

/-- Only what a computation does from its start counts. -/
theorem Ensures.congr {other : Action ε σ α} (ensured : Ensures other start returns fails)
    (same : action start = other start) : Ensures action start returns fails := by
  unfold Ensures at ensured ⊢
  rw [same]
  exact ensured

/-- What holds of the outcome and the state together. -/
theorem Ensures.outcome (holds : Except ε α → σ → Prop)
    (ensured : Ensures action start (fun value finish => holds (.ok value) finish)
      (fun error finish => holds (.error error) finish)) :
    holds (action start).1 (action start).2 := by
  unfold Ensures at ensured
  split at ensured
  case h_1 ended =>
    rw [ended]
    exact ensured
  case h_2 ended =>
    rw [ended]
    exact ensured

/-- What holds however the computation ends. -/
theorem Ensures.finally (holds : σ → Prop)
    (ensured : Ensures action start (fun _ finish => holds finish) (fun _ finish => holds finish)) :
    holds (action start).2 :=
  Ensures.outcome (fun _ => holds) ensured

attribute [irreducible] Ensures

/-!
What a computation cannot tell apart: from related states it ends in one outcome, and
in related states.
-/

def Respects (related : σ → σ → Prop) (action : Action ε σ α) : Prop :=
  ∀ left right, related left right →
    (action left).1 = (action right).1 ∧ related (action left).2 (action right).2

section Respects

variable {related : σ → σ → Prop}

theorem respects_pure {value : α} : Respects related (pure value : Action ε σ α) :=
  fun _ _ same => ⟨rfl, same⟩

theorem respects_throw {error : ε} : Respects related (throw error : Action ε σ α) :=
  fun _ _ same => ⟨rfl, same⟩

theorem respects_attempt {outcome : Except ε α} :
    Respects related (attempt outcome : Action ε σ α) :=
  fun _ _ same => ⟨rfl, same⟩

theorem respects_modify {update : σ → σ}
    (kept : ∀ left right, related left right → related (update left) (update right)) :
    Respects related (modify update : Action ε σ PUnit) :=
  fun left right same => ⟨rfl, kept left right same⟩

theorem Respects.bind (first : Respects related action) (rest : ∀ value, Respects related (next value)) :
    Respects related (action >>= next) := by
  intro left right same
  obtain ⟨outcomes, states⟩ := first left right same
  rw [run_bind, run_bind]
  rcases ended : action left with ⟨outcome, left'⟩
  rcases ended' : action right with ⟨outcome', right'⟩
  rw [ended, ended'] at outcomes states
  obtain rfl : outcome = outcome' := outcomes
  cases outcome with
  | ok value => exact rest value left' right' states
  | error error => exact ⟨rfl, states⟩

/-- The value of an outcome outside the state is known in what follows. -/
theorem respects_attempt_bind {outcome : Except ε α}
    (rest : ∀ value, outcome = .ok value → Respects related (next value)) :
    Respects related ((attempt outcome : Action ε σ α) >>= next) := by
  intro left right same
  rw [run_bind, run_bind]
  cases outcome with
  | ok value => exact rest value rfl left right same
  | error error => exact ⟨rfl, same⟩

/-- What is read from the state goes on alike from related states. -/
theorem respects_get {next : σ → Action ε σ β}
    (seen : ∀ left right, related left right → next left = next right)
    (rest : ∀ state, Respects related (next state)) :
    Respects related ((get : Action ε σ σ) >>= next) := by
  intro left right same
  have read := rest left left right same
  rw [run_bind, run_bind]
  change (next left left).1 = (next right right).1 ∧ related (next left left).2 (next right right).2
  rw [← seen left right same]
  exact read

theorem Respects.map {convert : α → β} (inner : Respects related action) :
    Respects related (convert <$> action) := by
  rw [map_eq_pure_bind]
  exact inner.bind fun _ => respects_pure

theorem respects_mapM {convert : α → Action ε σ β} (items : List α)
    (each : ∀ item, Respects related (convert item)) : Respects related (items.mapM convert) := by
  induction items with
  | nil => exact respects_pure
  | cons item items ih =>
      rw [List.mapM_cons]
      refine (each item).bind fun value => ih.bind fun values => ?_
      exact respects_pure

end Respects

/-!
## Views

What a computation leaves as it is, whether it returns or fails.
-/

/-- The computation does not change what `view` shows of the state. -/
def Keeps {τ : Type} (view : σ → τ) (action : Action ε σ α) : Prop := ∀ start, view (action start).2 = view start

section Keeps

variable {τ : Type} {view : σ → τ}

theorem keeps_pure {value : α} : Keeps view (pure value : Action ε σ α) := fun _ => rfl

theorem keeps_throw {error : ε} : Keeps view (throw error : Action ε σ α) := fun _ => rfl

theorem keeps_attempt {outcome : Except ε α} : Keeps view (attempt outcome : Action ε σ α) := fun _ => rfl

theorem keeps_get : Keeps view (get : Action ε σ σ) := fun _ => rfl

theorem keeps_modify {update : σ → σ} (kept : ∀ state, view (update state) = view state) :
    Keeps view (modify update : Action ε σ PUnit) := kept

theorem Keeps.bind (first : Keeps view action) (rest : ∀ value, Keeps view (next value)) :
    Keeps view (action >>= next) := by
  intro start
  have kept := first start
  rw [run_bind]
  rcases ended : action start with ⟨outcome, after⟩
  rw [ended] at kept
  cases outcome with
  | ok value => exact (rest value after).trans kept
  | error error => exact kept

theorem Keeps.ensures (keeps : Keeps view action) (start : σ) :
    Ensures action start (fun _ after => view after = view start) (fun _ after => view after = view start) := by
  apply (ensures_self action start).mono
  · intro value after ended
    have kept := keeps start
    rw [ended] at kept
    exact kept
  · intro error after ended
    have kept := keeps start
    rw [ended] at kept
    exact kept

end Keeps

end Action

end CodePush.Foundation
