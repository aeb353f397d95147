import Mathlib

/-!
# Splits of a list

A list is dealt out to three: each item goes to exactly one of them, and each keeps the
order.
-/

set_option autoImplicit false

namespace CodePush.Foundation

variable {α : Type}

inductive Splits : List α → List α → List α → List α → Prop where
  | nil : Splits [] [] [] []
  | first {item : α} {items one two three : List α} (rest : Splits items one two three) :
      Splits (item :: items) (item :: one) two three
  | second {item : α} {items one two three : List α} (rest : Splits items one two three) :
      Splits (item :: items) one (item :: two) three
  | third {item : α} {items one two three : List α} (rest : Splits items one two three) :
      Splits (item :: items) one two (item :: three)

namespace Splits

variable {items one two three : List α}

/-- Nothing is lost and nothing is added. -/
theorem perm (splits : Splits items one two three) : List.Perm (one ++ (two ++ three)) items := by
  induction splits with
  | nil => exact .nil
  | first _ ih => exact ih.cons _
  | second _ ih => exact List.perm_middle.trans (ih.cons _)
  | third _ ih =>
      rw [← List.append_assoc]
      apply List.perm_middle.trans
      rw [List.append_assoc]
      exact ih.cons _

theorem mem_iff (splits : Splits items one two three) {item : α} :
    item ∈ items ↔ item ∈ one ∨ item ∈ two ∨ item ∈ three := by
  rw [← splits.perm.mem_iff, List.mem_append, List.mem_append]

/-- Items that differ stay in one list each. -/
theorem disjoint (splits : Splits items one two three) (distinct : items.Nodup) :
    one.Disjoint (two ++ three) ∧ two.Disjoint three := by
  have dealt := splits.perm.nodup_iff.mpr distinct
  obtain ⟨_, rest, apart⟩ := List.nodup_append'.mp dealt
  exact ⟨apart, (List.nodup_append'.mp rest).2.2⟩

end Splits

end CodePush.Foundation
