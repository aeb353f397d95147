import Mathlib

/-!
# Codes that tell where they end

A code word in front of a longer text determines its value and the rest of the text, for
every text that may follow it.
-/

set_option autoImplicit false

namespace CodePush.Foundation

variable {α β : Type}

/-- Before texts that start as `ends` says, a code word determines its value and the
rest. -/
def Determines (ends : List β → Prop) (code : α → List β) : Prop :=
  ∀ ⦃one other : α⦄ ⦃rest rest' : List β⦄, ends rest → ends rest' →
    code one ++ rest = code other ++ rest' → one = other ∧ rest = rest'

namespace Determines

variable {ends : List β → Prop} {code : α → List β}

theorem injective (determines : Determines ends code) (last : ends []) {one other : α}
    (same : code one = code other) : one = other :=
  (determines last last (by rw [same])).1

/-- A word of letters is over where something else stands. -/
theorem of_letters {letter : β → Bool} (distinct : ∀ one other, code one = code other → one = other)
    (letters : ∀ value, ∀ symbol ∈ code value, letter symbol = true) :
    Determines (fun rest => ∀ symbol, rest.head? = some symbol → letter symbol = false) code := by
  intro one other rest rest' stops stops' same
  have word : ∀ value rest, (∀ symbol, rest.head? = some symbol → letter symbol = false) →
      (code value ++ rest).takeWhile letter = code value := by
    intro value rest stops
    rw [List.takeWhile_append_of_pos (letters value)]
    cases rest with
    | nil => simp
    | cons symbol rest => simp [stops symbol rfl]
  have words : code one = code other := by
    rw [← word one rest stops, ← word other rest' stops', same]
  obtain rfl := distinct one other words
  exact ⟨rfl, List.append_cancel_left same⟩

/-- A list of words is over where a symbol stands that starts none. -/
theorem flatMap (determines : Determines (fun _ => True) code) {stop : β}
    (starts : ∀ value, ∃ symbol rest, code value = symbol :: rest ∧ symbol ≠ stop) :
    Determines (fun rest => rest.head? = some stop) (fun values : List α => values.flatMap code) := by
  intro values
  induction values with
  | nil =>
      intro others rest rest' stops _ same
      cases others with
      | nil => exact ⟨rfl, same⟩
      | cons other others =>
          obtain ⟨symbol, word, starts, apart⟩ := starts other
          have first : rest = (code other ++ others.flatMap code) ++ rest' := by simpa using same
          rw [first, starts] at stops
          exact absurd (Option.some.inj stops) apart
  | cons value values ih =>
      intro others rest rest' stops stops' same
      cases others with
      | nil =>
          obtain ⟨symbol, word, starts, apart⟩ := starts value
          have first : (code value ++ values.flatMap code) ++ rest = rest' := by simpa using same
          rw [← first, starts] at stops'
          exact absurd (Option.some.inj stops') apart
      | cons other others =>
          simp only [List.flatMap_cons, List.append_assoc] at same
          obtain ⟨rfl, later⟩ := determines trivial trivial same
          obtain ⟨rfl, rfl⟩ := ih stops stops' later
          exact ⟨rfl, rfl⟩

end Determines

/-- A text is cut at its last mark in one way. -/
theorem cut_last {mark : β} {front front' word word' : List β} (plain : mark ∉ word)
    (plain' : mark ∉ word') (same : front ++ mark :: word = front' ++ mark :: word') :
    front = front' ∧ word = word' := by
  obtain ⟨between, rfl, rest⟩ | ⟨between, rfl, rest⟩ := List.append_eq_append_iff.mp same
  · cases between with
    | nil => simpa using rest
    | cons symbol between =>
        refine absurd ?_ plain
        rw [(List.cons.inj rest).2]
        simp
  · cases between with
    | nil => simpa using rest.symm
    | cons symbol between =>
        refine absurd ?_ plain'
        rw [(List.cons.inj rest).2]
        simp

/-- A text is cut at its first mark in one way. -/
theorem cut_first {mark : β} {word word' back back' : List β} (plain : mark ∉ word) (plain' : mark ∉ word')
    (same : word ++ mark :: back = word' ++ mark :: back') : word = word' ∧ back = back' := by
  have marked : mark ∉ word.reverse ∧ mark ∉ word'.reverse := by
    rw [List.mem_reverse, List.mem_reverse]
    exact ⟨plain, plain'⟩
  have reversed := congrArg List.reverse same
  simp only [List.reverse_append, List.reverse_cons, List.append_assoc, List.singleton_append] at reversed
  obtain ⟨backs, words⟩ := cut_last marked.1 marked.2 reversed
  exact ⟨List.reverse_inj.mp words, List.reverse_inj.mp backs⟩

end CodePush.Foundation
