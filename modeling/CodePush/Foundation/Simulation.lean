import CodePush.Foundation.Effects

/-!
# Runs of programs with variables

Computations that read and write variables, change a world, and throw; a loop is given a
number of rounds, and a run that needs more of them has no result. Two such computations,
possibly with different variables, are compared by what they return and by the worlds that
they leave behind.
-/

set_option autoImplicit false

namespace CodePush.Foundation

/-- A thrown value, or a loop that was given too few rounds. -/
inductive Fault (ν : Type) where
  | thrown (value : ν)
  | timeout
  deriving DecidableEq

structure Frame (κ ν ω : Type) where
  vars : κ → ν
  world : ω

abbrev Run (κ ν ω α : Type) := Action (Fault ν) (Frame κ ν ω) α

namespace Run

variable {κ ν ω α β : Type}

def read (key : κ) : Run κ ν ω ν := fun frame => (.ok (frame.vars key), frame)

def write [DecidableEq κ] (key : κ) (value : ν) : Run κ ν ω Unit := fun frame =>
  (.ok (), { frame with vars := Function.update frame.vars key value })

/-- An operation on the world. -/
def perform (operation : ω → Except ν ν × ω) : Run κ ν ω ν := fun frame =>
  match operation frame.world with
  | (.ok value, world) => (.ok value, { frame with world })
  | (.error value, world) => (.error (.thrown value), { frame with world })

/-- The variable has another value during `body`. -/
def withVar [DecidableEq κ] (key : κ) (value : ν) (body : Run κ ν ω α) : Run κ ν ω α := fun frame =>
  match body { frame with vars := Function.update frame.vars key value } with
  | (outcome, after) =>
      (outcome, { after with vars := Function.update after.vars key (frame.vars key) })

def raise (value : ν) : Run κ ν ω α := throw (.thrown value)

def catching (body : Run κ ν ω α) (handler : ν → Run κ ν ω α) : Run κ ν ω α := fun frame =>
  match body frame with
  | (.error (.thrown value), after) => handler value after
  | ended => ended

/-- The finalizer runs however the body ends, and may give a result of its own. -/
def finishing (body : Run κ ν ω α) (finalizer : Run κ ν ω (Option α)) : Run κ ν ω α := fun frame =>
  match body frame with
  | (.error .timeout, after) => (.error .timeout, after)
  | (outcome, after) =>
      match finalizer after with
      | (.ok none, finish) => (outcome, finish)
      | (.ok (some value), finish) => (.ok value, finish)
      | (.error fault, finish) => (.error fault, finish)

/-- Rounds until one of them has a result. -/
def cycle (round : Run κ ν ω (Option α)) : Nat → Run κ ν ω α
  | 0 => throw .timeout
  | rounds + 1 => do
      match ← round with
      | some value => pure value
      | none => cycle round rounds

end Run

/-- What is made of the result does not need the variable. -/
theorem Run.withVar_map {κ ν ω α β : Type} [DecidableEq κ] {key : κ} {value : ν} {body : Run κ ν ω α}
    (convert : α → β) :
    (Run.withVar key value do
      let result ← body
      pure (convert result)) =
      (do
        let result ← Run.withVar key value body
        pure (convert result)) := by
  funext frame
  rw [Action.run_bind]
  unfold Run.withVar
  rw [Action.run_bind]
  rcases body { frame with vars := Function.update frame.vars key value } with ⟨fault | result, after⟩
  · rfl
  · rfl

theorem Action.run_bind_ok {ε σ α β : Type} {action : Action ε σ α} {next : α → Action ε σ β}
    {start middle : σ} {value : α} (ended : action start = (.ok value, middle)) :
    (action >>= next) start = next value middle := by
  rw [Action.run_bind, ended]

/-!
## Simulation
-/

section Simulation

variable {κ κ' ν ω α α' β β' : Type}

/-- From states related by `before`, both computations end alike, in states related by
`after`: with results related by `same`, or with the same fault. -/
def Simulates (before after : Frame κ ν ω → Frame κ' ν ω → Prop) (same : α → β → Prop)
    (first : Run κ ν ω α) (second : Run κ' ν ω β) : Prop :=
  ∀ left right, before left right →
    match first left, second right with
    | (.ok value, left'), (.ok other, right') => same value other ∧ after left' right'
    | (.error fault, left'), (.error other, right') => fault = other ∧ after left' right'
    | _, _ => False

namespace Simulates

variable {before middle after : Frame κ ν ω → Frame κ' ν ω → Prop} {same : α → β → Prop}
  {same' : α' → β' → Prop} {first : Run κ ν ω α} {second : Run κ' ν ω β}

/-- The two ways in which both can end. -/
theorem ends (simulated : Simulates before after same first second) {left : Frame κ ν ω}
    {right : Frame κ' ν ω} (start : before left right) :
    (∃ value other left' right', first left = (.ok value, left') ∧ second right = (.ok other, right') ∧
      same value other ∧ after left' right') ∨
    (∃ fault left' right', first left = (.error fault, left') ∧ second right = (.error fault, right') ∧
      after left' right') := by
  have ended := simulated left right start
  rcases firstEnd : first left with ⟨outcome, left'⟩
  rcases secondEnd : second right with ⟨outcome', right'⟩
  rw [firstEnd, secondEnd] at ended
  cases outcome with
  | ok value =>
      cases outcome' with
      | ok other => exact .inl ⟨value, other, left', right', rfl, rfl, ended⟩
      | error fault => exact ended.elim
  | error fault =>
      cases outcome' with
      | ok other => exact ended.elim
      | error other =>
          obtain ⟨rfl, related⟩ := ended
          exact .inr ⟨fault, left', right', rfl, rfl, related⟩

theorem pure {value : α} {other : β} (related : same value other) :
    Simulates before before same (Pure.pure value) (Pure.pure other) :=
  fun _ _ start => ⟨related, start⟩

theorem throw (fault : Fault ν) : Simulates before before same (throw fault) (throw fault) :=
  fun _ _ start => ⟨rfl, start⟩

theorem mono {before' after' : Frame κ ν ω → Frame κ' ν ω → Prop} {weaker : α → β → Prop}
    (simulated : Simulates before after same first second)
    (start : ∀ left right, before' left right → before left right)
    (finish : ∀ left right, after left right → after' left right)
    (weaken : ∀ value other, same value other → weaker value other) :
    Simulates before' after' weaker first second := by
  intro left right related
  rcases simulated.ends (start left right related) with
    ⟨value, other, left', right', firstEnd, secondEnd, results, states⟩ |
      ⟨fault, left', right', firstEnd, secondEnd, states⟩
  · rw [firstEnd, secondEnd]
    exact ⟨weaken value other results, finish left' right' states⟩
  · rw [firstEnd, secondEnd]
    exact ⟨rfl, finish left' right' states⟩

theorem weaken {weaker : α → β → Prop} (simulated : Simulates before after same first second)
    (results : ∀ value other, same value other → weaker value other) :
    Simulates before after weaker first second :=
  simulated.mono (fun _ _ start => start) (fun _ _ finish => finish) results

theorem bind {next : α → Run κ ν ω α'} {next' : β → Run κ' ν ω β'}
    (simulated : Simulates before middle same first second)
    (faults : ∀ left right, middle left right → after left right)
    (rest : ∀ value other, same value other → Simulates middle after same' (next value) (next' other)) :
    Simulates before after same' (first >>= next) (second >>= next') := by
  intro left right start
  rw [Action.run_bind, Action.run_bind]
  rcases simulated.ends start with
    ⟨value, other, left', right', firstEnd, secondEnd, results, states⟩ |
      ⟨fault, left', right', firstEnd, secondEnd, states⟩
  · rw [firstEnd, secondEnd]
    exact rest value other results left' right' states
  · rw [firstEnd, secondEnd]
    exact ⟨rfl, faults left' right' states⟩

/-- The rule for steps that keep the relation. -/
theorem andThen {next : α → Run κ ν ω α'} {next' : β → Run κ' ν ω β'}
    (simulated : Simulates before before same first second)
    (rest : ∀ value other, same value other → Simulates before before same' (next value) (next' other)) :
    Simulates before before same' (first >>= next) (second >>= next') :=
  simulated.bind (fun _ _ start => start) rest

theorem catching {handler : ν → Run κ ν ω α} {handler' : ν → Run κ' ν ω β}
    (simulated : Simulates before before same first second)
    (handled : ∀ value left left', first left = (.error (.thrown value), left') →
      Simulates before before same (handler value) (handler' value)) :
    Simulates before before same (Run.catching first handler) (Run.catching second handler') := by
  intro left right start
  unfold Run.catching
  rcases simulated.ends start with
    ⟨value, other, left', right', firstEnd, secondEnd, results, states⟩ |
      ⟨fault, left', right', firstEnd, secondEnd, states⟩
  · rw [firstEnd, secondEnd]
    exact ⟨results, states⟩
  · rw [firstEnd, secondEnd]
    cases fault with
    | thrown value => exact handled value left left' firstEnd left' right' states
    | timeout => exact ⟨rfl, states⟩

theorem finishing {finalizer : Run κ ν ω (Option α)} {finalizer' : Run κ' ν ω (Option β)}
    (simulated : Simulates before before same first second)
    (finished : Simulates before before (fun value other => value = none ∧ other = none) finalizer
      finalizer') :
    Simulates before before same (Run.finishing first finalizer)
      (Run.finishing second finalizer') := by
  intro left right start
  unfold Run.finishing
  rcases simulated.ends start with
    ⟨value, other, left', right', firstEnd, secondEnd, results, states⟩ |
      ⟨fault, left', right', firstEnd, secondEnd, states⟩
  · rw [firstEnd, secondEnd]
    rcases finished.ends states with
      ⟨_, _, left'', right'', finalEnd, finalEnd', ⟨rfl, rfl⟩, finish⟩ |
        ⟨fault, left'', right'', finalEnd, finalEnd', finish⟩
    · simp only [finalEnd, finalEnd']
      exact ⟨results, finish⟩
    · simp only [finalEnd, finalEnd']
      exact ⟨trivial, finish⟩
  · rw [firstEnd, secondEnd]
    cases fault with
    | timeout => exact ⟨rfl, states⟩
    | thrown value =>
        rcases finished.ends states with
          ⟨_, _, left'', right'', finalEnd, finalEnd', ⟨rfl, rfl⟩, finish⟩ |
            ⟨fault, left'', right'', finalEnd, finalEnd', finish⟩
        · simp only [finalEnd, finalEnd']
          exact ⟨trivial, finish⟩
        · simp only [finalEnd, finalEnd']
          exact ⟨trivial, finish⟩

/-- Loops of which each round does the same. -/
theorem cycle {round : Run κ ν ω (Option α)} {round' : Run κ' ν ω (Option β)}
    (simulated : Simulates before before (Option.Rel same) round round') (rounds : Nat) :
    Simulates before before same (Run.cycle round rounds) (Run.cycle round' rounds) := by
  induction rounds with
  | zero => exact .throw .timeout
  | succ rounds ih =>
      apply simulated.andThen
      intro result other related
      cases related with
      | none => exact ih
      | some related => exact .pure related

theorem perform (operation : ω → Except ν ν × ω)
    (worlds : ∀ left right, before left right → left.world = right.world)
    (kept : ∀ left right world, before left right →
      before { left with world := world } { right with world := world }) :
    Simulates before before Eq (Run.perform operation : Run κ ν ω ν)
      (Run.perform operation : Run κ' ν ω ν) := by
  intro left right start
  unfold Run.perform
  rw [worlds left right start]
  rcases operation right.world with ⟨outcome, world⟩
  cases outcome with
  | ok value => exact ⟨rfl, kept left right world start⟩
  | error value => exact ⟨rfl, kept left right world start⟩

end Simulates

end Simulation

end CodePush.Foundation
