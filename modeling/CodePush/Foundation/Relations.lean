import Mathlib

/-!
# Tables as lists of rows

Inserting the rows of a query into a table that checks them, and joins in which every row
has one partner.
-/

set_option autoImplicit false

namespace CodePush.Foundation

variable {α β ρ κ : Type}

/-!
## Inserts
-/

section Insert

variable [DecidableEq κ] (key : ρ → κ) (allowed : ρ → Bool)

/-- The constraints of a table allow a further row. -/
def Admits (table : List ρ) (row : ρ) : Prop := allowed row = true ∧ key row ∉ table.map key

instance (table : List ρ) (row : ρ) : Decidable (Admits key allowed table row) :=
  inferInstanceAs (Decidable (_ ∧ _))

/-- `insert or ignore`: a row that the table does not allow is skipped. -/
def insertOrIgnore (table rows : List ρ) : List ρ :=
  rows.foldl (fun table row => if Admits key allowed table row then table ++ [row] else table) table

/-- `insert`: a row that the table does not allow is an error. -/
def insertRows (table rows : List ρ) : Option (List ρ) :=
  rows.foldlM (fun table row => if Admits key allowed table row then some (table ++ [row]) else none) table

variable {key allowed}

/-- Rows with different keys are skipped only for what they hold. -/
theorem insertOrIgnore_eq {table rows : List ρ}
    (distinct : ((table ++ rows.filter allowed).map key).Nodup) :
    insertOrIgnore key allowed table rows = table ++ rows.filter allowed := by
  induction rows generalizing table with
  | nil => rw [List.filter_nil, List.append_nil]; rfl
  | cons row rows ih =>
      unfold insertOrIgnore at ih ⊢
      rw [List.foldl_cons]
      cases holds : allowed row with
      | false =>
          have refused : ¬ Admits key allowed table row := fun admits => by cases holds.symm.trans admits.1
          rw [List.filter_cons_of_neg (by simp [holds])] at distinct ⊢
          rw [if_neg refused]
          exact ih distinct
      | true =>
          rw [List.filter_cons_of_pos holds] at distinct ⊢
          have fresh : key row ∉ table.map key := by
            rw [List.map_append, List.map_cons] at distinct
            intro member
            exact (List.nodup_append.mp distinct).2.2 _ member _ List.mem_cons_self rfl
          rw [if_pos ⟨holds, fresh⟩, ih]
          · rw [List.append_assoc]; rfl
          · rw [List.append_assoc]
            exact distinct

/-- Allowed rows with different keys are all inserted. -/
theorem insertRows_eq {table rows : List ρ} (holds : ∀ row ∈ rows, allowed row = true)
    (distinct : ((table ++ rows).map key).Nodup) :
    insertRows key allowed table rows = some (table ++ rows) := by
  induction rows generalizing table with
  | nil => rw [List.append_nil]; rfl
  | cons row rows ih =>
      have fresh : key row ∉ table.map key := by
        rw [List.map_append, List.map_cons] at distinct
        intro member
        exact (List.nodup_append.mp distinct).2.2 _ member _ List.mem_cons_self rfl
      unfold insertRows at ih ⊢
      rw [List.foldlM_cons, if_pos ⟨holds row List.mem_cons_self, fresh⟩]
      have rest := @ih (table ++ [row]) (fun other member => holds other (List.mem_cons_of_mem _ member))
        (by rw [List.append_assoc]; exact distinct)
      rw [List.append_assoc] at rest
      exact rest

end Insert

/-!
## Joins
-/

/-- `left join right on ..`, the inner join. -/
def joinOn (matched : α → β → Bool) (left : List α) (right : List β) : List (α × β) :=
  left.flatMap fun one => (right.filter (matched one)).map (one, ·)

/-- In a join in which every row has one partner, what is selected is one row for each. -/
theorem joinOn_map_eq {γ : Type} {matched : α → β → Bool} {left : List α} {right : List β}
    {select : α × β → γ} {selected : α → γ}
    (unique : ∀ one ∈ left, ∃ partner, right.filter (matched one) = [partner] ∧
      select (one, partner) = selected one) :
    (joinOn matched left right).map select = left.map selected := by
  unfold joinOn
  induction left with
  | nil => rfl
  | cons one left ih =>
      obtain ⟨partner, alone, same⟩ := unique one List.mem_cons_self
      rw [List.flatMap_cons, List.map_append, List.map_cons, alone,
        ih fun other member => unique other (List.mem_cons_of_mem _ member), ← same]
      rfl

/-- A row is alone in matching if the matching rows share a key, and keys are not repeated. -/
theorem filter_eq_singleton {matched : ρ → Bool} (key : ρ → κ) {rows : List ρ} {row : ρ}
    (distinct : ((rows.filter matched).map key).Nodup) (member : row ∈ rows) (holds : matched row = true)
    (same : ∀ other ∈ rows, matched other = true → key other = key row) : rows.filter matched = [row] := by
  have inside : row ∈ rows.filter matched := List.mem_filter.mpr ⟨member, holds⟩
  obtain ⟨front, back, split⟩ := List.append_of_mem inside
  rw [split] at distinct ⊢
  rw [List.map_append, List.map_cons, List.nodup_middle, List.nodup_cons] at distinct
  have empty : front ++ back = [] := by
    rw [List.eq_nil_iff_forall_not_mem]
    intro other listed
    have kept : other ∈ rows.filter matched := by
      rw [split]
      rcases List.mem_append.mp listed with first | last
      · exact List.mem_append_left _ first
      · exact List.mem_append_right _ (List.mem_cons_of_mem _ last)
    obtain ⟨present, holds'⟩ := List.mem_filter.mp kept
    refine distinct.1 ?_
    rw [← same other present holds', ← List.map_append]
    exact List.mem_map_of_mem listed
  obtain ⟨rfl, rfl⟩ := List.append_eq_nil_iff.mp empty
  rfl

end CodePush.Foundation
