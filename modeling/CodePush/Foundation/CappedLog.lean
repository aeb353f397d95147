import Mathlib

/-!
# Logs of bounded size

A log keeps its newest entries only, and is emptied from time to time. A history keeps all
entries that were ever appended, how many of them there were when the log was last emptied,
and which have been handed over.
-/

set_option autoImplicit false

namespace CodePush.Foundation

variable {α : Type}

/-- The newest entries, at most `cap` of them. -/
def newest (cap : Nat) (log : List α) : List α := log.drop (log.length - cap)

theorem length_newest (cap : Nat) (log : List α) : (newest cap log).length = min cap log.length := by
  unfold newest
  rw [List.length_drop]
  omega

/-- What was dropped before makes no difference to what is dropped next. -/
theorem newest_concat (cap : Nat) (log : List α) (entry : α) :
    newest cap (newest cap log ++ [entry]) = newest cap (log ++ [entry]) := by
  have inside : log.length - cap ≤ log.length := Nat.sub_le _ _
  have moved : newest cap log ++ [entry] = (log ++ [entry]).drop (log.length - cap) := by
    rw [List.drop_append_of_le_length inside]
    rfl
  have length : (newest cap log ++ [entry]).length = min cap log.length + 1 := by
    rw [List.length_append, length_newest, List.length_singleton]
  calc
    newest cap (newest cap log ++ [entry])
      = (newest cap log ++ [entry]).drop (min cap log.length + 1 - cap) := by
        rw [newest, length]
    _ = (log ++ [entry]).drop (log.length - cap + (min cap log.length + 1 - cap)) := by
        rw [moved, List.drop_drop]
    _ = newest cap (log ++ [entry]) := by
        rw [newest, List.length_append, List.length_singleton]
        congr 1
        omega

structure LogHistory (α : Type) where
  appended : List α
  cleared : Nat
  accepted : List Nat

namespace LogHistory

def start : LogHistory α where
  appended := []
  cleared := 0
  accepted := []

def append (history : LogHistory α) (entries : List α) : LogHistory α :=
  { history with appended := history.appended ++ entries }

/-- What a log of this size holds. -/
def content (cap : Nat) (history : LogHistory α) : List α :=
  newest cap (history.appended.drop history.cleared)

/-- The oldest entries of the log have been handed over. -/
def hand (cap count : Nat) (history : LogHistory α) : LogHistory α :=
  { history with
    accepted := history.accepted ++ (List.range count).map
      (history.appended.length - (history.content cap).length + ·) }

def clear (history : LogHistory α) : LogHistory α :=
  { history with cleared := history.appended.length }

variable {cap : Nat} {history : LogHistory α}

@[simp] theorem content_hand (count : Nat) : (history.hand cap count).content cap = history.content cap := rfl

@[simp] theorem content_clear : history.clear.content cap = [] := by
  simp [content, clear, newest]

theorem content_append_singleton (within : history.cleared ≤ history.appended.length) (entry : α) :
    (history.append [entry]).content cap = newest cap (history.content cap ++ [entry]) := by
  unfold content append
  rw [newest_concat, List.drop_append_of_le_length within]

/-- The log after each of the entries was appended in turn. -/
theorem content_append (within : history.cleared ≤ history.appended.length) (entries : List α) :
    (history.append entries).content cap =
      entries.foldl (fun log entry => newest cap (log ++ [entry])) (history.content cap) := by
  induction entries generalizing history with
  | nil => simp [append]
  | cons entry entries ih =>
      have within' : (history.append [entry]).cleared ≤ (history.append [entry]).appended.length := by
        simp only [append, List.length_append]
        omega
      have rest := ih within'
      rw [content_append_singleton within] at rest
      rw [List.foldl_cons, ← rest]
      simp [append, content, List.append_assoc]

/-- No entry is lost: one that the log was emptied of had been handed over, or had been
displaced by as many later ones as the log holds. -/
structure Accounted (cap : Nat) (history : LogHistory α) : Prop where
  within : history.cleared ≤ history.appended.length
  kept : ∀ index < history.cleared,
    index ∈ history.accepted ∨ index + cap < history.appended.length

namespace Accounted

theorem start : Accounted cap (LogHistory.start : LogHistory α) where
  within := Nat.le_refl 0
  kept := fun index before => absurd before (Nat.not_lt_zero index)

theorem append (accounted : Accounted cap history) (entries : List α) :
    Accounted cap (history.append entries) where
  within := by
    have within := accounted.within
    simp only [LogHistory.append, List.length_append]
    omega
  kept := by
    intro index before
    rcases accounted.kept index before with handed | displaced
    · exact .inl handed
    · refine .inr ?_
      simp only [LogHistory.append, List.length_append]
      omega

theorem hand (accounted : Accounted cap history) (count : Nat) :
    Accounted cap (history.hand cap count) where
  within := accounted.within
  kept := by
    intro index before
    rcases accounted.kept index before with handed | displaced
    · exact .inl (List.mem_append_left _ handed)
    · exact .inr displaced

/-- The log is emptied once all of it was handed over. -/
theorem clear (accounted : Accounted cap history) :
    Accounted cap (history.hand cap (history.content cap).length).clear where
  within := Nat.le_refl _
  kept := by
    intro index before
    have inside : index < history.appended.length := before
    have length : (history.content cap).length =
        min cap (history.appended.length - history.cleared) := by
      rw [content, length_newest, List.length_drop]
    by_cases earlier : index < history.cleared
    · exact (accounted.hand _).kept index earlier
    · by_cases displaced : index + cap < history.appended.length
      · exact .inr displaced
      · refine .inl (List.mem_append_right _ (List.mem_map.mpr ?_))
        refine ⟨index - (history.appended.length - (history.content cap).length), ?_, ?_⟩
        · rw [List.mem_range]
          omega
        · omega

/-- Where each entry is. -/
theorem located (accounted : Accounted cap history) {index : Nat} {entry : α}
    (appended : history.appended[index]? = some entry) :
    (∃ position, (history.content cap)[position]? = some entry ∧
        position + history.appended.length = index + (history.content cap).length) ∨
      index ∈ history.accepted ∨ index + cap < history.appended.length := by
  obtain ⟨inside, _⟩ := List.getElem?_eq_some_iff.mp appended
  by_cases earlier : index < history.cleared
  · exact .inr (accounted.kept index earlier)
  · by_cases displaced : index + cap < history.appended.length
    · exact .inr (.inr displaced)
    · left
      have whole : history.content cap = history.appended.drop
          (history.cleared + (history.appended.length - history.cleared - cap)) := by
        rw [content, newest, List.length_drop, List.drop_drop]
      refine ⟨index - (history.cleared + (history.appended.length - history.cleared - cap)), ?_, ?_⟩
      · rw [whole, List.getElem?_drop, ← appended]
        congr 1
        omega
      · rw [whole, List.length_drop]
        omega

end Accounted

end LogHistory

end CodePush.Foundation
