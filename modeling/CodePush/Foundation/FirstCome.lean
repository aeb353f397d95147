import CodePush.Foundation.Runs

/-!
# First come, first served

A board holds at most one value under each name. A claim puts its value on a free name, and
is accepted there from then on with that value only.
-/

set_option autoImplicit false

namespace CodePush.Foundation.FirstCome

variable {ν κ : Type} [DecidableEq ν] [DecidableEq κ]

/-- A name and the value that is claimed for it. -/
abbrev Claim (ν κ : Type) := ν × κ

def claim (request : Claim ν κ) (board : ν → Option κ) : Bool × (ν → Option κ) :=
  match board request.1 with
  | some value => (value = request.2, board)
  | none => (true, fun name => if name = request.1 then some request.2 else board name)

def boardAfter (requests : List (Claim ν κ)) : ν → Option κ := runFrom claim (fun _ => none) requests

/-- The answer to a claim that is made after others. -/
def acceptedAfter (requests : List (Claim ν κ)) (request : Claim ν κ) : Bool :=
  (claim request (boardAfter requests)).1

theorem boardAfter_concat (requests : List (Claim ν κ)) (request : Claim ν κ) :
    boardAfter (requests ++ [request]) = (claim request (boardAfter requests)).2 := by
  unfold boardAfter
  rw [runFrom_append]
  rfl

/-- A name holds the value of the first claim to it. -/
theorem boardAfter_eq (requests : List (Claim ν κ)) (name : ν) :
    boardAfter requests name = (requests.find? (·.1 = name)).map (·.2) := by
  induction requests using List.reverseRecOn with
  | nil => rfl
  | append_singleton requests request ih =>
      rw [boardAfter_concat, List.find?_append]
      unfold claim
      by_cases same : request.1 = name
      · subst same
        rw [ih]
        cases found : requests.find? (·.1 = request.1) with
        | some earlier => simp [ih, found]
        | none => simp
      · cases boardAfter requests request.1 with
        | some value => simp [ih, same]
        | none => simp [ih, same, Ne.symm same]

theorem accepted_iff (requests : List (Claim ν κ)) (request : Claim ν κ) :
    acceptedAfter requests request = true ↔
      ∀ first, requests.find? (·.1 = request.1) = some first → first.2 = request.2 := by
  unfold acceptedAfter claim
  rw [boardAfter_eq]
  cases requests.find? (·.1 = request.1) with
  | some first => simp
  | none => simp

/-- The first claim to a name is accepted. -/
theorem first_accepted {requests : List (Claim ν κ)} {name : ν} {first : Claim ν κ}
    (found : requests.find? (·.1 = name) = some first) :
    ∃ front back, requests = front ++ first :: back ∧ first.1 = name ∧ acceptedAfter front first = true := by
  obtain ⟨here, front, back, split, others⟩ := List.find?_eq_some_iff_append.mp found
  have same : first.1 = name := of_decide_eq_true here
  refine ⟨front, back, split, same, (accepted_iff front first).mpr ?_⟩
  intro earlier before
  have member := List.mem_of_find?_eq_some before
  have named := List.find?_some before
  have named : earlier.1 = first.1 := of_decide_eq_true named
  have other := others earlier member
  rw [decide_eq_true (named.trans same)] at other
  cases other

/-- A claim is refused exactly when an earlier one to the name was accepted with another value. -/
theorem refused_iff (requests : List (Claim ν κ)) (request : Claim ν κ) :
    acceptedAfter requests request = false ↔
      ∃ front earlier back, requests = front ++ earlier :: back ∧ earlier.1 = request.1 ∧
        acceptedAfter front earlier = true ∧ earlier.2 ≠ request.2 := by
  rw [← Bool.not_eq_true, accepted_iff]
  constructor
  · intro refused
    obtain ⟨first, refused⟩ := not_forall.mp refused
    obtain ⟨found, other⟩ := Classical.not_imp.mp refused
    obtain ⟨front, back, split, same, accepted⟩ := first_accepted found
    exact ⟨front, first, back, split, same, accepted, other⟩
  · intro earlier all
    obtain ⟨front, earlier, back, rfl, same, accepted, other⟩ := earlier
    rw [List.find?_append, List.find?_cons, decide_eq_true same] at all
    cases before : front.find? (·.1 = request.1) with
    | none =>
        rw [before] at all
        exact other (all earlier rfl)
    | some first =>
        rw [before] at all
        have value := (accepted_iff front earlier).mp accepted first (by rw [same]; exact before)
        exact other (value.symm.trans (all first rfl))

/-- Claims to other names make no difference. -/
theorem accepted_filter (requests : List (Claim ν κ)) (request : Claim ν κ) :
    acceptedAfter (requests.filter (·.1 = request.1)) request = acceptedAfter requests request := by
  rw [Bool.eq_iff_iff, accepted_iff, accepted_iff, List.find?_filter]
  simp

end CodePush.Foundation.FirstCome
