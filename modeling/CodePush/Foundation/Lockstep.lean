import CodePush.Foundation.Simulation

/-!
# Machines that follow a computation

A deterministic machine and a computation with variables, compared as they run: the machine comes to where
the computation comes to, halts with what the computation throws, and runs on where the computation was
given too few rounds. When this is known for every number of rounds, the computation says exactly when the
machine halts, and with what.
-/

set_option autoImplicit false

namespace CodePush.Foundation

/-- What one step of a machine comes to. -/
inductive Move (σ ρ : Type) where
  | next (state : σ)
  | halted (result : ρ)
  | stuck
  deriving Repr, DecidableEq

section Machines

variable {σ ρ : Type} (step : σ → Move σ ρ)

/-- The machine gets from one state to another in a number of steps. -/
inductive Takes : Nat → σ → σ → Prop where
  | none (state : σ) : Takes 0 state state
  | more {steps : Nat} {start middle finish : σ} (moved : step start = .next middle)
      (rest : Takes steps middle finish) : Takes (steps + 1) start finish

def Halts (start : σ) (result : ρ) : Prop :=
  ∃ steps finish, Takes step steps start finish ∧ step finish = .halted result

/-- The machine comes to a state that it has no step for. -/
def Sticks (start : σ) : Prop := ∃ steps finish, Takes step steps start finish ∧ step finish = .stuck

variable {step} {steps more : Nat} {start middle finish other : σ} {result result' : ρ}

theorem Takes.one (moved : step start = .next finish) : Takes step 1 start finish := .more moved (.none finish)

theorem Takes.trans (first : Takes step steps start middle) (rest : Takes step more middle finish) :
    Takes step (more + steps) start finish := by
  induction first with
  | none => exact rest
  | more moved _ ih => exact .more moved (ih rest)

/-- No run is longer than one to a state that has no next one. -/
theorem Takes.le_of_stopped (taken : Takes step steps start finish) (stopped : ∀ next, step finish ≠ .next next)
    (others : Takes step more start other) : more ≤ steps := by
  induction taken generalizing more other with
  | none =>
      cases others with
      | none => exact Nat.le_refl 0
      | more moved _ => exact absurd moved (stopped _)
  | more moved _ ih =>
      cases others with
      | none => exact Nat.zero_le _
      | more moved' rest =>
          cases moved.symm.trans moved'
          exact Nat.succ_le_succ (ih stopped rest)

theorem Takes.unique (taken : Takes step steps start finish) (others : Takes step steps start other) :
    finish = other := by
  induction taken with
  | none =>
      cases others
      rfl
  | more moved _ ih =>
      cases others with
      | more moved' rest =>
          cases moved.symm.trans moved'
          exact ih rest

theorem Takes.halts (taken : Takes step steps start middle) (halts : Halts step middle result) :
    Halts step start result := by
  obtain ⟨more, finish, rest, halted⟩ := halts
  exact ⟨more + steps, finish, taken.trans rest, halted⟩

/-- Two runs that stop have stopped in the same state. -/
theorem Takes.stopped_unique (taken : Takes step steps start finish) (others : Takes step more start other)
    (stopped : ∀ next, step finish ≠ .next next) (stopped' : ∀ next, step other ≠ .next next) :
    finish = other := by
  have atMost := taken.le_of_stopped stopped others
  have atLeast := others.le_of_stopped stopped' taken
  obtain rfl := Nat.le_antisymm atMost atLeast
  exact taken.unique others

theorem Halts.unique (halts : Halts step start result) (halts' : Halts step start result') : result = result' := by
  obtain ⟨steps, finish, taken, halted⟩ := halts
  obtain ⟨more, other, others, halted'⟩ := halts'
  obtain rfl := taken.stopped_unique others (by simp [halted]) (by simp [halted'])
  cases halted.symm.trans halted'
  rfl

end Machines

/-!
## Following a computation
-/

section Follows

variable {σ ρ κ ν ω α β : Type}

/-- The machine comes to a state that is `after` the result of the computation. -/
def Follows (step : σ → Move σ ρ) (threw : ν → ω → ρ) (rounds : Nat) (run : Run κ ν ω α) (frame : Frame κ ν ω)
    (start : σ) (after : α → Frame κ ν ω → σ → Prop) : Prop :=
  match run frame with
  | (.ok value, left) => ∃ steps finish, Takes step steps start finish ∧ after value left finish
  | (.error (.thrown value), left) => Halts step start (threw value left.world)
  | (.error .timeout, _) => ∃ steps finish, rounds ≤ steps ∧ Takes step steps start finish

namespace Follows

variable {step : σ → Move σ ρ} {threw : ν → ω → ρ} {rounds fewer steps : Nat} {run : Run κ ν ω α}
  {frame : Frame κ ν ω} {start middle : σ} {after after' : α → Frame κ ν ω → σ → Prop}
  {behind : β → Frame κ ν ω → σ → Prop}

theorem pure {value : α} (holds : after value frame start) :
    Follows step threw rounds (Pure.pure value) frame start after := ⟨0, start, .none start, holds⟩

theorem raise {value : ν} (halted : step start = .halted (threw value frame.world)) :
    Follows step threw rounds (Run.raise value : Run κ ν ω α) frame start after := ⟨0, start, .none start, halted⟩

theorem read {key : κ} {after : ν → Frame κ ν ω → σ → Prop} (holds : after (frame.vars key) frame start) :
    Follows step threw rounds (Run.read key) frame start after := ⟨0, start, .none start, holds⟩

theorem write [DecidableEq κ] {key : κ} {value : ν} {after : Unit → Frame κ ν ω → σ → Prop}
    (holds : after () { frame with vars := Function.update frame.vars key value } start) :
    Follows step threw rounds (Run.write key value) frame start after := ⟨0, start, .none start, holds⟩

theorem mono (follows : Follows step threw rounds run frame start after)
    (weaker : ∀ value left finish, after value left finish → after' value left finish) :
    Follows step threw rounds run frame start after' := by
  unfold Follows at follows ⊢
  split at follows
  case h_1 =>
    obtain ⟨steps, finish, taken, holds⟩ := follows
    exact ⟨steps, finish, taken, weaker _ _ _ holds⟩
  case h_2 => exact follows
  case h_3 => exact follows

theorem sooner (follows : Follows step threw rounds run frame start after) (few : fewer ≤ rounds) :
    Follows step threw fewer run frame start after := by
  unfold Follows at follows ⊢
  split at follows
  case h_1 => exact follows
  case h_2 => exact follows
  case h_3 =>
    obtain ⟨steps, finish, enough, taken⟩ := follows
    exact ⟨steps, finish, Nat.le_trans few enough, taken⟩

/-- The steps that lead to where the computation starts. -/
theorem later (taken : Takes step steps start middle) (follows : Follows step threw rounds run frame middle after) :
    Follows step threw (rounds + steps) run frame start after := by
  unfold Follows at follows ⊢
  split at follows
  case h_1 =>
    obtain ⟨more, finish, rest, holds⟩ := follows
    exact ⟨more + steps, finish, taken.trans rest, holds⟩
  case h_2 => exact taken.halts follows
  case h_3 =>
    obtain ⟨more, finish, enough, rest⟩ := follows
    exact ⟨more + steps, finish, Nat.add_le_add_right enough steps, taken.trans rest⟩

/-- A step that the computation does not see. -/
theorem silent (moved : step start = .next middle) (follows : Follows step threw rounds run frame middle after) :
    Follows step threw rounds run frame start after :=
  (later (.one moved) follows).sooner (Nat.le_succ rounds)

theorem bind {next : α → Run κ ν ω β} (first : Follows step threw rounds run frame start after)
    (rest : ∀ value left finish, after value left finish →
      Follows step threw rounds (next value) left finish behind) :
    Follows step threw rounds (run >>= next) frame start behind := by
  unfold Follows at first
  rcases ended : run frame with ⟨outcome, left⟩
  rw [ended] at first
  cases outcome with
  | ok value =>
      obtain ⟨steps, finish, taken, holds⟩ := first
      have follows := (later taken (rest value left finish holds)).sooner (Nat.le_add_right rounds steps)
      unfold Follows at follows ⊢
      rwa [Action.run_bind_ok ended]
  | error fault =>
      unfold Follows
      rw [Action.run_bind, ended]
      cases fault with
      | thrown value => exact first
      | timeout => exact first

/-- A step behind the computation. -/
theorem extend (follows : Follows step threw rounds run frame start after)
    (moves : ∀ value left finish, after value left finish → ∃ last, step finish = .next last ∧ after' value left last) :
    Follows step threw rounds run frame start after' := by
  unfold Follows at follows ⊢
  split at follows
  case h_1 value left ended =>
    obtain ⟨steps, finish, taken, holds⟩ := follows
    obtain ⟨last, moved, reached⟩ := moves value left finish holds
    exact ⟨1 + steps, last, taken.trans (.one moved), reached⟩
  case h_2 => exact follows
  case h_3 => exact follows

/-- An operation that the machine performs in one step. -/
theorem perform {operation : ω → Except ν ν × ω} {after : ν → Frame κ ν ω → σ → Prop}
    (returned : ∀ value world, operation frame.world = (.ok value, world) →
      ∃ finish, step start = .next finish ∧ after value { frame with world } finish)
    (thrown : ∀ value world, operation frame.world = (.error value, world) →
      step start = .halted (threw value world)) :
    Follows step threw rounds (Run.perform operation) frame start after := by
  unfold Follows Run.perform
  rcases ended : operation frame.world with ⟨outcome, world⟩
  cases outcome with
  | ok value =>
      obtain ⟨finish, moved, holds⟩ := returned value world ended
      exact ⟨1, finish, .one moved, holds⟩
  | error value => exact ⟨0, start, .none start, thrown value world ended⟩

/-- The variable has its old value afterwards. -/
theorem withVar [DecidableEq κ] {key : κ} {value : ν}
    (follows : Follows step threw rounds run { frame with vars := Function.update frame.vars key value } start
      fun result left => after result { left with vars := Function.update left.vars key (frame.vars key) }) :
    Follows step threw rounds (Run.withVar key value run) frame start after := by
  unfold Follows at follows ⊢
  unfold Run.withVar
  rcases ended : run { frame with vars := Function.update frame.vars key value } with ⟨outcome, left⟩
  rw [ended] at follows
  cases outcome with
  | ok result => exact follows
  | error fault =>
      cases fault with
      | thrown value => exact follows
      | timeout => exact follows

/-- A loop of which the machine comes back to the invariant after each round, with a step of its own. -/
theorem cycle {round : Run κ ν ω (Option α)} (invariant : Frame κ ν ω → σ → Prop)
    (turn : ∀ frame start, invariant frame start →
      Follows step threw rounds round frame start fun result left finish =>
        match result with
        | some value => after value left finish
        | none => ∃ again, step finish = .next again ∧ invariant left again)
    (few : fewer ≤ rounds) (holds : invariant frame start) :
    Follows step threw fewer (Run.cycle round fewer) frame start after := by
  induction fewer generalizing frame start with
  | zero => exact ⟨0, start, Nat.le_refl 0, .none start⟩
  | succ fewer ih =>
      apply ((turn frame start holds).sooner few).bind
      intro result left finish ended
      cases result with
      | some value => exact .pure ended
      | none =>
          obtain ⟨again, moved, holds⟩ := ended
          exact later (.one moved) (ih (Nat.le_of_succ_le few) holds)

/-- A machine that goes on where the first one does goes the same way. -/
theorem extended {step' : σ → Move σ ρ} (follows : Follows step threw rounds run frame start after)
    (agrees : ∀ state, step state ≠ .stuck → step' state = step state) :
    Follows step' threw rounds run frame start after := by
  have takes : ∀ {steps start finish}, Takes step steps start finish → Takes step' steps start finish := by
    intro steps start finish taken
    induction taken with
    | none state => exact .none state
    | more moved _ ih => exact .more ((agrees _ (by simp [moved])).trans moved) ih
  unfold Follows at follows ⊢
  split at follows
  case h_1 =>
    obtain ⟨steps, finish, taken, holds⟩ := follows
    exact ⟨steps, finish, takes taken, holds⟩
  case h_2 =>
    obtain ⟨steps, finish, taken, halted⟩ := follows
    exact ⟨steps, finish, takes taken, (agrees _ (by simp [halted])).trans halted⟩
  case h_3 =>
    obtain ⟨steps, finish, enough, taken⟩ := follows
    exact ⟨steps, finish, enough, takes taken⟩

end Follows

/-!
## What the machine halts with
-/

/-- What a computation that ended comes to. -/
def conclusion (returned : α → ω → ρ) (threw : ν → ω → ρ) : Except (Fault ν) α × Frame κ ν ω → Option ρ
  | (.ok value, left) => some (returned value left.world)
  | (.error (.thrown value), left) => some (threw value left.world)
  | (.error .timeout, _) => none

variable {step : σ → Move σ ρ} {returned : α → ω → ρ} {threw : ν → ω → ρ} {rounds : Nat} {run : Run κ ν ω α}
  {frame : Frame κ ν ω} {start : σ}

theorem Follows.ends (follows : Follows step threw rounds run frame start fun value left finish =>
      step finish = .halted (returned value left.world)) :
    (∃ result, conclusion returned threw (run frame) = some result ∧ Halts step start result) ∨
      (conclusion returned threw (run frame) = none ∧
        ∃ steps finish, rounds ≤ steps ∧ Takes step steps start finish) := by
  unfold Follows at follows
  rcases ended : run frame with ⟨outcome, left⟩
  rw [ended] at follows
  cases outcome with
  | ok value => exact .inl ⟨_, rfl, follows⟩
  | error fault =>
      cases fault with
      | thrown value => exact .inl ⟨_, rfl, follows⟩
      | timeout => exact .inr ⟨rfl, follows⟩

/-- The machine halts with what the computation ends in, if it ends for any number of rounds. -/
theorem halts_iff {run : Nat → Run κ ν ω α} {result : ρ}
    (follows : ∀ rounds, Follows step threw rounds (run rounds) frame start fun value left finish =>
      step finish = .halted (returned value left.world)) :
    Halts step start result ↔ ∃ rounds, conclusion returned threw (run rounds frame) = some result := by
  constructor
  · intro halts
    obtain ⟨steps, finish, taken, halted⟩ := halts
    rcases (follows (steps + 1)).ends with found | lacking
    · obtain ⟨result', ends, halts'⟩ := found
      obtain rfl := Halts.unique ⟨steps, finish, taken, halted⟩ halts'
      exact ⟨steps + 1, ends⟩
    · obtain ⟨_, more, other, enough, others⟩ := lacking
      have atMost := taken.le_of_stopped (by simp [halted]) others
      omega
  · intro found
    obtain ⟨rounds, ends⟩ := found
    rcases (follows rounds).ends with found | lacking
    · obtain ⟨result', ends', halts⟩ := found
      cases ends.symm.trans ends'
      exact halts
    · rw [lacking.1] at ends
      cases ends

/-- Where the computation goes on, so does the machine. -/
theorem never_sticks {run : Nat → Run κ ν ω α}
    (follows : ∀ rounds, Follows step threw rounds (run rounds) frame start fun value left finish =>
      step finish = .halted (returned value left.world)) : ¬ Sticks step start := by
  intro sticks
  obtain ⟨steps, finish, taken, stuck⟩ := sticks
  rcases (follows (steps + 1)).ends with found | lacking
  · obtain ⟨result, _, more, other, others, halted⟩ := found
    obtain rfl := taken.stopped_unique others (by simp [stuck]) (by simp [halted])
    cases stuck.symm.trans halted
  · obtain ⟨_, more, other, enough, others⟩ := lacking
    have atMost := taken.le_of_stopped (by simp [stuck]) others
    omega

end Follows

end CodePush.Foundation
