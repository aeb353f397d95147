import Mathlib

/-!
# Fallible computations

Inversion of successful `Except` computations: what a sequence or a guard that
returned a value went through.
-/

set_option autoImplicit false

namespace CodePush.Foundation

variable {ε α β : Type}

theorem except_bind_eq_ok {source : Except ε α} {next : α → Except ε β} {result : β} :
    (source >>= next) = .ok result ↔ ∃ value, source = .ok value ∧ next value = .ok result := by
  cases source with
  | error error => simp [bind, Except.bind]
  | ok value => simp [bind, Except.bind]

@[simp] theorem except_ok_bind (value : α) (next : α → Except ε β) :
    (.ok value >>= next) = next value := rfl

@[simp] theorem except_map_ok (value : α) (convert : α → β) :
    (.ok value : Except ε α).map convert = .ok (convert value) := rfl

theorem except_map_eq_ok {source : Except ε α} {convert : α → β} {result : β} :
    source.map convert = .ok result ↔ ∃ value, source = .ok value ∧ convert value = result := by
  cases source <;> simp [Except.map]

theorem except_guard_eq_ok {condition : Prop} [Decidable condition] {error : ε}
    {next : Except ε α} {result : α} :
    (if condition then .error error else next) = .ok result ↔ ¬ condition ∧ next = .ok result := by
  by_cases holds : condition <;> simp [holds]

/-- Every item has its result. -/
theorem except_mapM_eq_ok {convert : α → Except ε β} {items : List α} {results : List β}
    (mapped : items.mapM convert = .ok results) :
    List.Forall₂ (fun item result => convert item = .ok result) items results := by
  induction items generalizing results with
  | nil =>
      cases mapped
      exact .nil
  | cons item items ih =>
      rw [List.mapM_cons] at mapped
      obtain ⟨result, here, mapped⟩ := except_bind_eq_ok.mp mapped
      obtain ⟨rest, later, mapped⟩ := except_bind_eq_ok.mp mapped
      cases mapped
      exact .cons here (ih later)

end CodePush.Foundation
