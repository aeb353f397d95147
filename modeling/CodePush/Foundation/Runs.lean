import Mathlib

/-!
# Runs of a machine

A machine answers each input with an output and a new state. A run feeds it a
list of inputs; a guard restricts which inputs may be fed in which state.
-/

set_option autoImplicit false

namespace CodePush.Foundation

variable {σ ι ο : Type}

/-- The state that a list of inputs leads to. -/
def runFrom (step : ι → σ → ο × σ) (start : σ) : List ι → σ
  | [] => start
  | input :: inputs => runFrom step (step input start).2 inputs

/-- What a list of inputs is answered with. -/
def outputsFrom (step : ι → σ → ο × σ) (start : σ) : List ι → List ο
  | [] => []
  | input :: inputs => (step input start).1 :: outputsFrom step (step input start).2 inputs

/-- Every input is fed in a state that the guard allows. -/
def Guarded (step : ι → σ → ο × σ) (guard : σ → ι → Prop) (start : σ) : List ι → Prop
  | [] => True
  | input :: inputs => guard start input ∧ Guarded step guard (step input start).2 inputs

instance Guarded.decidable (step : ι → σ → ο × σ) (guard : σ → ι → Prop)
    [decidableGuard : ∀ state input, Decidable (guard state input)] (start : σ) :
    (inputs : List ι) → Decidable (Guarded step guard start inputs)
  | [] => inferInstanceAs (Decidable True)
  | input :: inputs =>
      match decidableGuard start input, Guarded.decidable step guard (step input start).2 inputs with
      | isTrue here, isTrue later => isTrue ⟨here, later⟩
      | isFalse here, _ => isFalse fun both => here both.1
      | _, isFalse later => isFalse fun both => later both.2

theorem runFrom_append (step : ι → σ → ο × σ) (start : σ) (first second : List ι) :
    runFrom step start (first ++ second) = runFrom step (runFrom step start first) second := by
  induction first generalizing start with
  | nil => rfl
  | cons input inputs ih => exact ih (step input start).2

theorem guarded_append {step : ι → σ → ο × σ} {guard : σ → ι → Prop} {start : σ}
    {first second : List ι} :
    Guarded step guard start (first ++ second) ↔
      Guarded step guard start first ∧ Guarded step guard (runFrom step start first) second := by
  induction first generalizing start with
  | nil => simp [Guarded, runFrom]
  | cons input inputs ih => simp [Guarded, runFrom, ih, and_assoc]

theorem Guarded.and {step : ι → σ → ο × σ} {one two : σ → ι → Prop} {start : σ}
    {inputs : List ι} (first : Guarded step one start inputs)
    (second : Guarded step two start inputs) :
    Guarded step (fun state input => one state input ∧ two state input) start inputs := by
  induction inputs generalizing start with
  | nil => trivial
  | cons input inputs ih => exact ⟨⟨first.1, second.1⟩, ih first.2 second.2⟩

theorem Guarded.mono {step : ι → σ → ο × σ} {one two : σ → ι → Prop} {start : σ} {inputs : List ι}
    (allowed : Guarded step one start inputs) (weaker : ∀ state input, one state input → two state input) :
    Guarded step two start inputs := by
  induction inputs generalizing start with
  | nil => trivial
  | cons input inputs ih => exact ⟨weaker start input allowed.1, ih allowed.2⟩

theorem Guarded.take {step : ι → σ → ο × σ} {guard : σ → ι → Prop} {start : σ} {inputs taken : List ι}
    (allowed : Guarded step guard start inputs) (front : taken <+: inputs) :
    Guarded step guard start taken := by
  obtain ⟨rest, rfl⟩ := front
  exact (guarded_append.mp allowed).1

/-- What allowed steps preserve holds at the end of every allowed run. -/
theorem Guarded.invariant {step : ι → σ → ο × σ} {guard : σ → ι → Prop}
    (holds : σ → Prop)
    (preserved : ∀ state input, holds state → guard state input → holds (step input state).2)
    {start : σ} {inputs : List ι} (allowed : Guarded step guard start inputs)
    (initially : holds start) : holds (runFrom step start inputs) := by
  induction inputs generalizing start with
  | nil => exact initially
  | cons input inputs ih => exact ih allowed.2 (preserved start input initially allowed.1)

/-- What every step preserves of the outputs so far and the state. -/
theorem run_invariant {step : ι → σ → ο × σ} (holds : List ο → σ → Prop)
    (preserved : ∀ outputs state input, holds outputs state →
      holds (outputs ++ [(step input state).1]) (step input state).2)
    {start : σ} (initially : holds [] start) (inputs : List ι) :
    holds (outputsFrom step start inputs) (runFrom step start inputs) := by
  have later : ∀ (inputs : List ι) (outputs : List ο) (state : σ), holds outputs state →
      holds (outputs ++ outputsFrom step state inputs) (runFrom step state inputs) := by
    intro inputs
    induction inputs with
    | nil =>
        intro outputs state here
        simpa [outputsFrom, runFrom] using here
    | cons input inputs ih =>
        intro outputs state here
        have next := ih _ _ (preserved outputs state input here)
        simpa [outputsFrom, runFrom] using next
  simpa using later inputs [] start initially

/-- Where the guard says exactly which steps preserve a property, it says exactly
which runs do. -/
theorem kept_iff_guarded {step : ι → σ → ο × σ} {guard : σ → ι → Prop} (holds : σ → Prop)
    (exactly : ∀ state input, holds state → (holds (step input state).2 ↔ guard state input))
    {start : σ} {inputs : List ι} (initially : holds start) :
    (∀ taken, taken <+: inputs → holds (runFrom step start taken)) ↔
      Guarded step guard start inputs := by
  induction inputs generalizing start with
  | nil =>
      refine iff_of_true ?_ trivial
      intro taken front
      cases List.prefix_nil.mp front
      exact initially
  | cons input inputs ih =>
      constructor
      · intro kept
        have first : holds (step input start).2 := kept [input] ⟨inputs, rfl⟩
        refine ⟨(exactly start input initially).mp first, (ih first).mp ?_⟩
        intro taken front
        exact kept (input :: taken) (List.cons_prefix_cons.mpr ⟨rfl, front⟩)
      · rintro ⟨here, later⟩ taken front
        have first := (exactly start input initially).mpr here
        cases taken with
        | nil => exact initially
        | cons other taken =>
            obtain ⟨rfl, rest⟩ := List.cons_prefix_cons.mp front
            exact (ih first).mpr later taken rest

/-- Two runs whose steps answer alike from related states, and lead to related ones. -/
theorem Guarded.related {step : ι → σ → ο × σ} {guard : σ → ι → Prop} (related : σ → σ → Prop)
    (alike : ∀ left right input, related left right → guard left input →
      (step input left).1 = (step input right).1 ∧ related (step input left).2 (step input right).2)
    {left right : σ} {inputs : List ι} (allowed : Guarded step guard left inputs)
    (initially : related left right) :
    outputsFrom step left inputs = outputsFrom step right inputs ∧
      related (runFrom step left inputs) (runFrom step right inputs) := by
  induction inputs generalizing left right with
  | nil => exact ⟨rfl, initially⟩
  | cons input inputs ih =>
      obtain ⟨answer, next⟩ := alike left right input initially allowed.1
      obtain ⟨answers, last⟩ := ih allowed.2 next
      refine ⟨?_, last⟩
      rw [outputsFrom, outputsFrom, answer, answers]

/-- An unguarded run is allowed by the trivial guard. -/
theorem guarded_true (step : ι → σ → ο × σ) (start : σ) (inputs : List ι) :
    Guarded step (fun _ _ => True) start inputs := by
  induction inputs generalizing start with
  | nil => trivial
  | cons input inputs ih => exact ⟨trivial, ih _⟩

/-- The same machine with a value on the side that a run accumulates. -/
def accompanied {γ : Type} (step : ι → σ → ο × σ) (track : γ → σ → ι → ο → σ → γ) :
    ι → σ × γ → ο × (σ × γ) := fun input state =>
  let answered := step input state.1
  (answered.1, answered.2, track state.2 state.1 input answered.1 answered.2)

theorem Guarded.accompanied {γ : Type} {step : ι → σ → ο × σ} {guard : σ → ι → Prop}
    (track : γ → σ → ι → ο → σ → γ) {start : σ} {inputs : List ι}
    (allowed : Guarded step guard start inputs) (value : γ) :
    Guarded (accompanied step track) (fun state input => guard state.1 input) (start, value)
      inputs := by
  induction inputs generalizing start value with
  | nil => trivial
  | cons input inputs ih => exact ⟨allowed.1, ih allowed.2 _⟩

end CodePush.Foundation
