import CodePush.Foundation.Runs

/-!
# Interning

A pool keeps one entry for items that count as the same, and hands out its index. What counts as the
same need not be equality: it may join different items, and an item need not be the same as itself.
-/

set_option autoImplicit false

namespace CodePush.Foundation

section Interning

variable {α : Type} (same : α → α → Bool)

/-- The first entry that counts as the item, or the item at the end of the pool. -/
def intern (item : α) (pool : List α) : Nat × List α :=
  match pool.findIdx? (same · item) with
  | some index => (index, pool)
  | none => (pool.length, pool ++ [item])

/-- The pool after the items were interned in their order. -/
def poolOf (items : List α) : List α := runFrom (intern same) [] items

variable {same} {item : α} {pool items more : List α}

theorem intern_cases (item : α) (pool : List α) :
    (∃ index entry, intern same item pool = (index, pool) ∧ pool[index]? = some entry ∧
      same entry item = true) ∨
    (intern same item pool = (pool.length, pool ++ [item]) ∧ ∀ entry ∈ pool, same entry item = false) := by
  unfold intern
  split
  case h_1 index found =>
    left
    obtain ⟨inside, taken, _⟩ := List.findIdx?_eq_some_iff_getElem.mp found
    exact ⟨index, pool[index], rfl, List.getElem?_eq_getElem inside, taken⟩
  case h_2 absent =>
    right
    exact ⟨rfl, List.findIdx?_eq_none_iff.mp absent⟩

theorem poolOf_concat (items : List α) (item : α) :
    poolOf same (items ++ [item]) = (intern same item (poolOf same items)).2 := by
  unfold poolOf
  rw [runFrom_append]
  rfl

/-!
## What every pool is like
-/

theorem prefix_intern (item : α) (pool : List α) : pool <+: (intern same item pool).2 := by
  rcases intern_cases item pool with ⟨index, entry, taken, _⟩ | ⟨added, _⟩
  · exact taken.symm ▸ List.prefix_refl pool
  · rw [added]
    exact List.prefix_append pool [item]

theorem prefix_poolOf (items more : List α) : poolOf same items <+: poolOf same (items ++ more) := by
  induction more using List.reverseRecOn with
  | nil =>
      exact (List.append_nil items).symm ▸ List.prefix_refl _
  | append_singleton more item ih =>
      rw [← List.append_assoc, poolOf_concat]
      exact ih.trans (prefix_intern item _)

theorem intern_inside (item : α) (pool : List α) :
    (intern same item pool).1 < (intern same item pool).2.length := by
  rcases intern_cases item pool with ⟨index, entry, taken, held, _⟩ | ⟨added, _⟩
  · rw [taken]
    exact (List.getElem?_eq_some_iff.mp held).1
  · rw [added]
    simp

theorem mem_of_mem_poolOf {entry : α} (member : entry ∈ poolOf same items) : entry ∈ items := by
  induction items using List.reverseRecOn with
  | nil => exact member
  | append_singleton items item ih =>
      rw [poolOf_concat] at member
      rcases intern_cases item (poolOf same items) with ⟨index, _, taken, _⟩ | ⟨added, _⟩
      · rw [taken] at member
        exact List.mem_append_left _ (ih member)
      · rw [added, List.mem_append] at member
        cases member with
        | inl earlier => exact List.mem_append_left _ (ih earlier)
        | inr last => exact List.mem_append_right _ last

/-- No entry counts as a later one. -/
theorem poolOf_apart (items : List α) :
    (poolOf same items).Pairwise fun entry later => same entry later = false := by
  induction items using List.reverseRecOn with
  | nil => exact .nil
  | append_singleton items item ih =>
      rw [poolOf_concat]
      rcases intern_cases item (poolOf same items) with ⟨index, _, taken, _⟩ | ⟨added, absent⟩
      · rw [taken]
        exact ih
      · rw [added, List.pairwise_append]
        refine ⟨ih, List.pairwise_singleton _ _, ?_⟩
        intro entry member other last
        rw [List.mem_singleton.mp last]
        exact absent entry member

/-!
## Exact pools
-/

variable (same)

/-- Every index that was handed out holds its item at the end. -/
def Indexed (items : List α) : Prop :=
  ∀ before item after, items = before ++ item :: after →
    (poolOf same items)[(intern same item (poolOf same before)).1]? = some item

/-- Of the items, just equal ones count as the same. -/
def Told (items : List α) : Prop := items.Pairwise fun item later => same item later = true ↔ item = later

variable {same}

theorem getElem?_of_prefix {first second : List α} {index : Nat} {entry : α} (front : first <+: second)
    (held : first[index]? = some entry) : second[index]? = some entry := by
  obtain ⟨rest, rfl⟩ := front
  rw [List.getElem?_append_left (List.getElem?_eq_some_iff.mp held).1]
  exact held

/-- An index that was handed out is one of the final pool. -/
theorem index_inside (same : α → α → Bool) {before after : List α} (split : items = before ++ item :: after) :
    (intern same item (poolOf same before)).1 < (poolOf same items).length := by
  have shape : items = (before ++ [item]) ++ after := by rw [split, List.append_cons]
  have grown : poolOf same (before ++ [item]) <+: poolOf same items := by
    rw [shape]
    exact prefix_poolOf _ _
  rw [poolOf_concat] at grown
  exact Nat.lt_of_lt_of_le (intern_inside item _) grown.length_le

theorem Indexed.mem (indexed : Indexed same items) (member : item ∈ items) : item ∈ poolOf same items := by
  obtain ⟨before, after, split⟩ := List.append_of_mem member
  exact List.mem_of_getElem? (indexed before item after split)

theorem indexed_concat (items : List α) (item : α) :
    Indexed same (items ++ [item]) ↔ Indexed same items ∧
      (intern same item (poolOf same items)).2[(intern same item (poolOf same items)).1]? = some item := by
  constructor
  · intro indexed
    constructor
    · intro before earlier after split
      have held := indexed before earlier (after ++ [item]) (by rw [split]; simp)
      have inside := index_inside same split
      have longer : poolOf same items <+: poolOf same (items ++ [item]) := prefix_poolOf items [item]
      obtain ⟨rest, whole⟩ := longer
      rw [← whole, List.getElem?_append_left inside] at held
      exact held
    · have held := indexed items item [] rfl
      rw [poolOf_concat] at held
      exact held
  · intro ⟨indexed, last⟩ before earlier after split
    induction after using List.reverseRecOn with
    | nil =>
        obtain ⟨rfl, rfl⟩ := List.append_singleton_inj.mp split
        rw [poolOf_concat]
        exact last
    | append_singleton after _ _ =>
        rw [← List.cons_append, ← List.append_assoc] at split
        obtain ⟨rfl, rfl⟩ := List.append_singleton_inj.mp split
        exact getElem?_of_prefix (prefix_poolOf _ _) (indexed before earlier after rfl)

theorem told_concat (items : List α) (item : α) :
    Told same (items ++ [item]) ↔ Told same items ∧ ∀ earlier ∈ items, same earlier item = true ↔ earlier = item := by
  unfold Told
  rw [List.pairwise_append]
  simp

theorem exact_of_told (told : Told same items) : Indexed same items ∧ (poolOf same items).Nodup := by
  induction items using List.reverseRecOn with
  | nil =>
      constructor
      · intro before item after split
        cases before <;> cases split
      · exact List.nodup_nil
  | append_singleton items item ih =>
      obtain ⟨earlier, last⟩ := (told_concat items item).mp told
      obtain ⟨indexed, distinct⟩ := ih earlier
      rw [indexed_concat, poolOf_concat]
      rcases intern_cases item (poolOf same items) with ⟨index, entry, taken, held, counts⟩ | ⟨added, absent⟩
      · rw [taken]
        have equal := (last entry (mem_of_mem_poolOf (List.mem_of_getElem? held))).mp counts
        rw [← equal]
        exact ⟨⟨indexed, held⟩, distinct⟩
      · rw [added]
        refine ⟨⟨indexed, by simp⟩, ?_⟩
        rw [List.nodup_append]
        refine ⟨distinct, List.nodup_singleton item, ?_⟩
        intro entry member other isLast equal
        rw [List.mem_singleton.mp isLast] at equal
        subst equal
        have counts := (last entry (mem_of_mem_poolOf member)).mpr rfl
        rw [absent entry member] at counts
        cases counts

theorem told_of_exact (symmetric : ∀ one other, same one other = same other one) (indexed : Indexed same items)
    (distinct : (poolOf same items).Nodup) : Told same items := by
  induction items using List.reverseRecOn with
  | nil => exact .nil
  | append_singleton items item ih =>
      rw [indexed_concat] at indexed
      obtain ⟨indexed, held⟩ := indexed
      have before : (poolOf same items).Nodup := distinct.sublist (prefix_poolOf items [item]).sublist
      rw [told_concat]
      refine ⟨ih indexed before, ?_⟩
      intro earlier member
      have present := indexed.mem member
      rw [poolOf_concat] at distinct
      rcases intern_cases item (poolOf same items) with ⟨index, entry, taken, found, counts⟩ | ⟨added, absent⟩
      · rw [taken] at held
        obtain rfl := Option.some.inj (found.symm.trans held)
        constructor
        · intro alike
          by_contra other
          have : Std.Symm fun one other => same one other = false := ⟨fun one other apart => by
            rw [symmetric]
            exact apart⟩
          have apart := (poolOf_apart items).forall present (List.mem_of_getElem? found) other
          rw [apart] at alike
          cases alike
        · intro equal
          rw [equal]
          exact counts
      · rw [absent earlier present]
        rw [added, List.nodup_append] at distinct
        constructor
        · intro alike
          cases alike
        · intro equal
          exact absurd equal (distinct.2.2 earlier present item (by simp))

theorem length_poolOf [DecidableEq α] (indexed : Indexed same items) (distinct : (poolOf same items).Nodup) :
    (poolOf same items).length = items.dedup.length := by
  apply List.Perm.length_eq
  rw [List.perm_ext_iff_of_nodup distinct (List.nodup_dedup items)]
  intro item
  rw [List.mem_dedup]
  exact ⟨mem_of_mem_poolOf, indexed.mem⟩

end Interning

end CodePush.Foundation
