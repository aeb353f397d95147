import Mathlib

/-!
# Tables with keys

What a query over a table sees: tables that agree on the rows it selects give the same
rows, and rows with distinct sort keys come out in one order.
-/

set_option autoImplicit false

namespace CodePush.Foundation

variable {κ ρ α : Type}

theorem filter_entries_perm [DecidableEq κ] {left right : AList fun _ : κ => ρ}
    {selected : (_ : κ) × ρ → Bool}
    (same : ∀ key row, selected ⟨key, row⟩ = true →
      (left.lookup key = some row ↔ right.lookup key = some row)) :
    (left.entries.filter selected).Perm (right.entries.filter selected) := by
  have distinct : ∀ table : AList fun _ : κ => ρ, (table.entries.filter selected).Nodup := fun table =>
    table.nodupKeys.nodup.filter _
  rw [List.perm_ext_iff_of_nodup (distinct left) (distinct right)]
  rintro ⟨key, row⟩
  simp only [List.mem_filter, ← AList.mem_lookup_iff, Option.mem_def]
  constructor
  · rintro ⟨found, kept⟩
    exact ⟨(same key row kept).mp found, kept⟩
  · rintro ⟨found, kept⟩
    exact ⟨(same key row kept).mpr found, kept⟩

/-- A sort whose order tells the rows apart does not depend on how they were listed. -/
theorem insertionSort_eq_of_perm {before : α → α → Prop} [DecidableRel before] {left right : List α}
    (total : ∀ one other, before one other ∨ before other one)
    (trans : ∀ one other third, before one other → before other third → before one third)
    (same : left.Perm right)
    (apart : ∀ one ∈ left, ∀ other ∈ left, before one other → before other one → one = other) :
    left.insertionSort before = right.insertionSort before := by
  have : Std.Total before := ⟨total⟩
  have : IsTrans α before := ⟨trans⟩
  have sorted : (left.insertionSort before).Perm (right.insertionSort before) :=
    ((List.perm_insertionSort before left).trans same).trans (List.perm_insertionSort before right).symm
  refine List.Perm.eq_of_pairwise ?_ (List.pairwise_insertionSort before left)
    (List.pairwise_insertionSort before right) sorted
  intro one other first second
  refine apart one ((List.perm_insertionSort before left).subset first) other ?_
  exact same.symm.subset ((List.perm_insertionSort before right).subset second)

/-- `order by rank, name`. -/
def RankedBefore (rank : α → Nat) (name : α → String) (left right : α) : Prop :=
  rank left < rank right ∨ (rank left = rank right ∧ name left ≤ name right)

section Ranked

variable (rank : α → Nat) (name : α → String)

theorem rankedBefore_total (left right : α) :
    RankedBefore rank name left right ∨ RankedBefore rank name right left := by
  unfold RankedBefore
  rcases Nat.lt_trichotomy (rank left) (rank right) with low | same | high
  · exact .inl (.inl low)
  · rcases String.le_total (name left) (name right) with first | second
    · exact .inl (.inr ⟨same, first⟩)
    · exact .inr (.inr ⟨same.symm, second⟩)
  · exact .inr (.inl high)

variable {rank name}

theorem rankedBefore_trans {left middle right : α} (first : RankedBefore rank name left middle)
    (second : RankedBefore rank name middle right) : RankedBefore rank name left right := by
  unfold RankedBefore at first second ⊢
  rcases first with low | ⟨same, names⟩
  · rcases second with low' | ⟨same', _⟩
    · exact .inl (Nat.lt_trans low low')
    · exact .inl (same' ▸ low)
  · rcases second with low' | ⟨same', names'⟩
    · exact .inl (same ▸ low')
    · exact .inr ⟨same.trans same', String.le_trans names names'⟩

/-- Rows that come before each other have one rank and one name. -/
theorem rankedBefore_antisymm {left right : α} (first : RankedBefore rank name left right)
    (second : RankedBefore rank name right left) :
    rank left = rank right ∧ name left = name right := by
  unfold RankedBefore at first second
  rcases first with low | ⟨same, names⟩
  · omega
  · rcases second with low | ⟨_, names'⟩
    · omega
    · exact ⟨same, String.le_antisymm names names'⟩

end Ranked

/-- What is found first comes before everything else that could be found. -/
theorem find?_before {before : α → α → Prop} {wanted : α → Bool} {list : List α}
    (sorted : list.Pairwise before) {first : α} (found : list.find? wanted = some first) :
    ∀ other ∈ list, wanted other = true → other = first ∨ before first other := by
  induction list with
  | nil => cases found
  | cons head tail ih =>
      obtain ⟨ahead, sorted⟩ := List.pairwise_cons.mp sorted
      intro other member wants
      rw [List.find?_cons] at found
      split at found
      case h_1 =>
        obtain rfl := Option.some.inj found
        rcases List.mem_cons.mp member with same | later
        · exact .inl same
        · exact .inr (ahead other later)
      case h_2 unwanted =>
        rcases List.mem_cons.mp member with rfl | later
        · cases unwanted.symm.trans wants
        · exact ih sorted found other later wants

/-- In a strictly ordered list, what stands ahead of an item is what the order puts above it. -/
theorem exists_split_iff {above : α → α → Prop} (asymm : ∀ one other, above one other → ¬ above other one)
    {list : List α} (sorted : list.Pairwise above) {holds passes : α → Prop} :
    (∃ front item back, list = front ++ item :: back ∧ holds item ∧ ∀ other ∈ front, passes other) ↔
      ∃ item ∈ list, holds item ∧ ∀ other ∈ list, above other item → passes other := by
  constructor
  · rintro ⟨front, item, back, rfl, here, ahead⟩
    refine ⟨item, List.mem_append_right _ List.mem_cons_self, here, ?_⟩
    intro other member higher
    have behind := (List.pairwise_cons.mp (List.pairwise_append.mp sorted).2.1).1
    rcases List.mem_append.mp member with first | later
    · exact ahead other first
    · rcases List.mem_cons.mp later with rfl | last
      · exact absurd higher (asymm other other higher)
      · exact absurd higher (asymm item other (behind other last))
  · rintro ⟨item, member, here, above⟩
    obtain ⟨front, back, rfl⟩ := List.append_of_mem member
    refine ⟨front, item, back, rfl, here, ?_⟩
    intro other first
    exact above other (List.mem_append_left _ first)
      ((List.pairwise_append.mp sorted).2.2 other first item List.mem_cons_self)

theorem lookup_insert_congr [DecidableEq κ] {left right : AList fun _ : κ => ρ} {key other : κ} {row : ρ}
    (same : right.lookup other = left.lookup other) :
    (right.insert key row).lookup other = (left.insert key row).lookup other := by
  by_cases here : other = key
  · subst here
    rw [AList.lookup_insert, AList.lookup_insert]
  · rw [AList.lookup_insert_ne here, AList.lookup_insert_ne here, same]

end CodePush.Foundation
