import CodePush.Foundation.Runs
import CodePush.Updater.Runtime

/-!
# Single-flight checks

Calls of `check_for_update_singleflight` with one request share one request to the server:
the call that enters its flight into the map leads, and the others wait for its result.
The leader makes the result known before it takes its flight out of the map, so that a call
may join a flight whose request has been answered already.
-/

set_option autoImplicit false

namespace CodePush.Updater

open CodePush.Core CodePush.Foundation

/-!
## Calls
-/

/-- A call, and what the request to the server would be answered with that it makes as a leader. -/
structure CheckCall where
  request : CheckRequest
  response : Except String CheckResponse
  deriving DecidableEq

/-- How far a call has come. A flight is named by the call that has created it; that a
result came from a flight is only recorded. -/
inductive CheckPhase where
  | idle | started | leading | performing | performed | published
  | waiting (flight : Nat)
  | returned (flight : Nat) (result : Except String CheckResponse)
  deriving DecidableEq

/-- `CHECK_FLIGHTS`, the slot of each flight, and the calls. -/
structure Flights where
  phase : Nat → CheckPhase
  entries : AList fun _ : CheckRequest => Nat
  slots : Nat → Option (Except String CheckResponse)

def Flights.none : Flights where
  phase := fun _ => .idle
  entries := ∅
  slots := fun _ => Option.none

def Flights.move (index : Nat) (phase : CheckPhase) (state : Flights) : Flights :=
  { state with phase := Function.update state.phase index phase }

/-- The next step of a call: under the lock of the map, under the lock of a slot, or the
start or the end of `perform_check_request`. -/
def flightStep (calls : Nat → CheckCall) (index : Nat) (state : Flights) : Unit × Flights :=
  match state.phase index with
  | .idle => ((), state.move index .started)
  | .started =>
      match state.entries.lookup (calls index).request with
      | some flight => ((), state.move index (.waiting flight))
      | none =>
          ((), { state.move index .leading with
            entries := state.entries.insert (calls index).request index })
  | .leading => ((), state.move index .performing)
  | .performing => ((), state.move index .performed)
  | .performed =>
      ((), { state.move index .published with
        slots := Function.update state.slots index (some (calls index).response) })
  | .published =>
      ((), { state.move index (.returned index (calls index).response) with
        entries := state.entries.erase (calls index).request })
  | .waiting flight =>
      match state.slots flight with
      | some result => ((), state.move index (.returned flight result))
      | none => ((), state)
  | .returned _ _ => ((), state)

/-- The call has an entry in the map. -/
def CheckPhase.leads : CheckPhase → Bool
  | .leading | .performing | .performed | .published => true
  | _ => false

/-- The call has got its result from the server. -/
def CheckPhase.finished (own : Nat) : CheckPhase → Bool
  | .performed | .published => true
  | .returned flight _ => flight = own
  | _ => false

/-- The call has filled its slot. -/
def CheckPhase.filled (own : Nat) : CheckPhase → Bool
  | .published => true
  | .returned flight _ => flight = own
  | _ => false

theorem CheckPhase.finished_of_filled {own : Nat} {phase : CheckPhase} (filled : phase.filled own = true) :
    phase.finished own = true := by
  cases phase with
  | published => rfl
  | returned => exact filled
  | _ => cases filled

/-- A call that has its result, and no entry in the map, has returned it. -/
theorem CheckPhase.over_of_finished {own : Nat} {phase : CheckPhase} (finished : phase.finished own = true)
    (removed : phase.leads = false) : ∃ result, phase = .returned own result := by
  cases phase with
  | returned flight result =>
      obtain rfl : flight = own := by simpa [CheckPhase.finished] using finished
      exact ⟨result, rfl⟩
  | performed => cases removed
  | published => cases removed
  | _ => cases finished

/-- The call has created a flight. -/
def CheckPhase.created (own : Nat) (phase : CheckPhase) : Bool := phase.leads || phase.filled own

/-- The flight that the call has joined, or has its result from. -/
def CheckPhase.joined : CheckPhase → Option Nat
  | .waiting flight => some flight
  | .returned flight _ => some flight
  | _ => none

/-- The map, the slots and the calls fit together. -/
structure Tidy (calls : Nat → CheckCall) (state : Flights) : Prop where
  entry : ∀ request flight, state.entries.lookup request = some flight ↔
    (state.phase flight).leads = true ∧ (calls flight).request = request
  slot : ∀ index, state.slots index =
    if (state.phase index).filled index then some (calls index).response else none
  joined : ∀ index flight, (state.phase index).joined = some flight →
    (state.phase flight).created flight = true ∧ (calls flight).request = (calls index).request
  answer : ∀ index flight result, state.phase index = .returned flight result →
    (state.phase flight).filled flight = true ∧ result = (calls flight).response

section Steps

variable {calls : Nat → CheckCall} {state : Flights}

theorem Tidy.start : Tidy calls .none := by
  constructor
  · intro request flight
    simp [Flights.none, CheckPhase.leads]
  · intro index
    rfl
  · intro index flight found
    cases found
  · intro index flight result found
    cases found

/-- Two calls with one request do not both lead. -/
theorem Tidy.unique (tidy : Tidy calls state) {one other : Nat} (leads : (state.phase one).leads = true)
    (leads' : (state.phase other).leads = true) (same : (calls one).request = (calls other).request) :
    one = other := by
  have first := (tidy.entry _ one).mpr ⟨leads, same⟩
  have second := (tidy.entry _ other).mpr ⟨leads', rfl⟩
  exact Option.some.inj (first.symm.trans second)

theorem Tidy.joined_move (tidy : Tidy calls state) {index : Nat} {phase : CheckPhase}
    (grows : (state.phase index).created index = true → phase.created index = true)
    (joined : ∀ flight, phase.joined = some flight →
      ((state.move index phase).phase flight).created flight = true ∧
        (calls flight).request = (calls index).request) :
    ∀ other flight, ((state.move index phase).phase other).joined = some flight →
      ((state.move index phase).phase flight).created flight = true ∧
        (calls flight).request = (calls other).request := by
  intro other flight found
  by_cases own : other = index
  · subst own
    exact joined flight (by simpa [Flights.move] using found)
  · have old := tidy.joined other flight (by simpa [Flights.move, own] using found)
    by_cases left : flight = index
    · subst left
      exact ⟨by simpa [Flights.move] using grows old.1, old.2⟩
    · simpa [Flights.move, left] using old

theorem Tidy.answer_move (tidy : Tidy calls state) {index : Nat} {phase : CheckPhase}
    (grows : (state.phase index).filled index = true → phase.filled index = true)
    (answer : ∀ flight result, phase = .returned flight result →
      ((state.move index phase).phase flight).filled flight = true ∧ result = (calls flight).response) :
    ∀ other flight result, (state.move index phase).phase other = .returned flight result →
      ((state.move index phase).phase flight).filled flight = true ∧ result = (calls flight).response := by
  intro other flight result found
  by_cases own : other = index
  · subst own
    exact answer flight result (by simpa [Flights.move] using found)
  · have old := tidy.answer other flight result (by simpa [Flights.move, own] using found)
    by_cases left : flight = index
    · subst left
      exact ⟨by simpa [Flights.move] using grows old.1, old.2⟩
    · simpa [Flights.move, left] using old

/-- A step that does not touch the map or the slots, of a call that leads after it if it has
led before it. -/
theorem Tidy.move (tidy : Tidy calls state) {index : Nat} {phase : CheckPhase}
    (leads : phase.leads = (state.phase index).leads) (filled : phase.filled index = (state.phase index).filled index)
    (joined : ∀ flight, phase.joined = some flight →
      (state.phase flight).created flight = true ∧ (calls flight).request = (calls index).request)
    (answer : ∀ flight result, phase = .returned flight result →
      (state.phase flight).filled flight = true ∧ result = (calls flight).response) :
    Tidy calls (state.move index phase) := by
  have same : ∀ other, ((state.move index phase).phase other).leads = (state.phase other).leads ∧
      ((state.move index phase).phase other).filled other = (state.phase other).filled other := by
    intro other
    unfold Flights.move
    by_cases own : other = index
    · subst own
      simp [leads, filled]
    · simp [own]
  have created : ∀ other, ((state.move index phase).phase other).created other =
      (state.phase other).created other := by
    intro other
    unfold CheckPhase.created
    rw [(same other).1, (same other).2]
  constructor
  · intro request flight
    rw [(same flight).1]
    exact tidy.entry request flight
  · intro other
    rw [(same other).2]
    exact tidy.slot other
  · refine tidy.joined_move (by simp [CheckPhase.created, leads, filled]) ?_
    intro flight found
    rw [created]
    exact joined flight found
  · refine tidy.answer_move (fun before => by rw [filled, before]) ?_
    intro flight result found
    rw [(same flight).2]
    exact answer flight result found

/-- The call enters its flight. -/
theorem Tidy.enter (tidy : Tidy calls state) {index : Nat} (here : state.phase index = .started)
    (absent : state.entries.lookup (calls index).request = none) :
    Tidy calls { state.move index .leading with
      entries := state.entries.insert (calls index).request index } := by
  constructor
  · intro request flight
    have old := tidy.entry request flight
    by_cases same : request = (calls index).request
    · subst same
      rw [absent] at old
      simp only [Flights.move, AList.lookup_insert, Option.some.injEq]
      by_cases own : flight = index
      · subst own
        simp [CheckPhase.leads]
      · simpa [own, Ne.symm own] using old
    · simp only [Flights.move, AList.lookup_insert_ne same]
      by_cases own : flight = index
      · subst own
        simpa [here, CheckPhase.leads, Ne.symm same] using old
      · simpa [own] using old
  · intro other
    have old := tidy.slot other
    by_cases own : other = index
    · subst own
      simpa [Flights.move, here, CheckPhase.filled] using old
    · simpa [Flights.move, own] using old
  · exact tidy.joined_move (fun _ => rfl) (fun _ found => by cases found)
  · exact tidy.answer_move (fun before => by rw [here] at before; cases before) (fun _ _ found => by cases found)

/-- The leader makes its result known. -/
theorem Tidy.publish (tidy : Tidy calls state) {index : Nat} (here : state.phase index = .performed) :
    Tidy calls { state.move index .published with
      slots := Function.update state.slots index (some (calls index).response) } := by
  constructor
  · intro request flight
    have old := tidy.entry request flight
    by_cases own : flight = index
    · subst own
      simpa [Flights.move, here, CheckPhase.leads] using old
    · simpa [Flights.move, own] using old
  · intro other
    have old := tidy.slot other
    by_cases own : other = index
    · subst own
      simp [Flights.move, CheckPhase.filled]
    · simpa [Flights.move, own] using old
  · exact tidy.joined_move (fun _ => rfl) (fun _ found => by cases found)
  · exact tidy.answer_move (fun before => by rw [here] at before; cases before) (fun _ _ found => by cases found)

/-- The leader takes its flight out of the map. -/
theorem Tidy.leave (tidy : Tidy calls state) {index : Nat} (here : state.phase index = .published) :
    Tidy calls { state.move index (.returned index (calls index).response) with
      entries := state.entries.erase (calls index).request } := by
  have own_ : state.entries.lookup (calls index).request = some index :=
    (tidy.entry _ index).mpr ⟨by rw [here]; rfl, rfl⟩
  constructor
  · intro request flight
    have old := tidy.entry request flight
    by_cases same : request = (calls index).request
    · subst same
      rw [own_] at old
      simp only [Flights.move, AList.lookup_erase]
      by_cases own : flight = index
      · subst own
        simp [CheckPhase.leads]
      · simpa [own, Ne.symm own] using old
    · simp only [Flights.move, AList.lookup_erase_ne same]
      by_cases own : flight = index
      · subst own
        simpa [here, CheckPhase.leads, Ne.symm same] using old
      · simpa [own] using old
  · intro other
    have old := tidy.slot other
    by_cases own : other = index
    · subst own
      simpa [Flights.move, here, CheckPhase.filled] using old
    · simpa [Flights.move, own] using old
  · refine tidy.joined_move (fun _ => by simp [CheckPhase.created, CheckPhase.filled]) ?_
    rintro _ ⟨⟩
    exact ⟨by simp [Flights.move, CheckPhase.created, CheckPhase.filled], rfl⟩
  · refine tidy.answer_move (fun _ => by simp [CheckPhase.filled]) ?_
    rintro _ _ ⟨⟩
    exact ⟨by simp [Flights.move, CheckPhase.filled], rfl⟩

theorem Tidy.step (tidy : Tidy calls state) (index : Nat) : Tidy calls (flightStep calls index state).2 := by
  unfold flightStep
  cases here : state.phase index with
  | idle => exact tidy.move (by rw [here]; rfl) (by rw [here]; rfl) (by simp [CheckPhase.joined]) (by simp)
  | started =>
      dsimp only
      cases found : state.entries.lookup (calls index).request with
      | some flight =>
          obtain ⟨leads, request⟩ := (tidy.entry _ flight).mp found
          refine tidy.move (by rw [here]; rfl) (by rw [here]; rfl) ?_ (by simp)
          rintro _ ⟨⟩
          exact ⟨by simp [CheckPhase.created, leads], request⟩
      | none => exact tidy.enter here found
  | leading => exact tidy.move (by rw [here]; rfl) (by rw [here]; rfl) (by simp [CheckPhase.joined]) (by simp)
  | performing =>
      exact tidy.move (by rw [here]; rfl) (by rw [here]; rfl) (by simp [CheckPhase.joined]) (by simp)
  | performed => exact tidy.publish here
  | published => exact tidy.leave here
  | waiting flight =>
      dsimp only
      have slot := tidy.slot flight
      cases filled : state.slots flight with
      | none => exact tidy
      | some result =>
          rw [filled] at slot
          split at slot
          case isTrue done =>
            have joined := tidy.joined index flight (by rw [here]; rfl)
            have other : flight ≠ index := by
              rintro rfl
              rw [here] at done
              cases done
            refine tidy.move (by rw [here]; rfl) (by simp [here, CheckPhase.filled, other]) ?_ ?_
            · rintro _ ⟨⟩
              exact joined
            · rintro _ _ ⟨⟩
              exact ⟨done, Option.some.inj slot⟩
          case isFalse => cases slot
  | returned flight result => exact tidy

/-- A call that waits has a result to wait for. -/
theorem Tidy.awaited (tidy : Tidy calls state) {index flight : Nat}
    (waits : state.phase index = .waiting flight) :
    state.slots flight = some (calls flight).response ∨
      state.phase flight ∈ [.leading, .performing, .performed] := by
  obtain ⟨created, _⟩ := tidy.joined index flight (by rw [waits]; rfl)
  have slot := tidy.slot flight
  cases here : state.phase flight with
  | idle | started | waiting => simp [here, CheckPhase.created, CheckPhase.leads, CheckPhase.filled] at created
  | leading | performing | performed => simp
  | published => simp [slot, here, CheckPhase.filled]
  | returned => simp [slot, here, CheckPhase.created, CheckPhase.leads, CheckPhase.filled] at created ⊢; exact created

/-!
## Flights that are over
-/

/-- The flight is over, and the call has not joined it. -/
structure Missed (index flight : Nat) (state : Flights) : Prop where
  ended : ∃ result, state.phase flight = .returned flight result
  apart : (state.phase index).joined ≠ some flight

theorem Missed.step {index flight : Nat} (missed : Missed index flight state) (tidy : Tidy calls state)
    (next : Nat) : Missed index flight (flightStep calls next state).2 := by
  obtain ⟨⟨result, ended⟩, apart⟩ := missed
  have different : index ≠ flight := by
    rintro rfl
    rw [ended] at apart
    exact apart rfl
  have moved : ∀ phase entries slots, next ≠ flight →
      (next = index → phase.joined ≠ some flight) →
      Missed index flight { state.move next phase with entries, slots } := by
    intro phase entries slots other free
    refine ⟨⟨result, by simpa [Flights.move, Ne.symm other] using ended⟩, ?_⟩
    by_cases own : index = next
    · subst own
      simpa [Flights.move] using free rfl
    · simpa [Flights.move, own] using apart
  by_cases own : next = flight
  · subst own
    unfold flightStep
    rw [ended]
    exact ⟨⟨result, ended⟩, apart⟩
  · unfold flightStep
    cases here : state.phase next with
    | idle | leading | performing | performed =>
        exact moved _ _ _ own fun _ found => by cases found
    | started =>
        dsimp only
        cases found : state.entries.lookup (calls next).request with
        | some other =>
            refine moved _ _ _ own fun _ joined => ?_
            cases joined
            have leads := ((tidy.entry _ flight).mp found).1
            rw [ended] at leads
            cases leads
        | none => exact moved _ _ _ own fun _ joined => by cases joined
    | published =>
        refine moved _ _ _ own fun _ joined => ?_
        cases joined
        exact own rfl
    | waiting other =>
        dsimp only
        cases state.slots other with
        | none => exact ⟨⟨result, ended⟩, apart⟩
        | some result =>
            refine moved _ _ _ own fun same joined => apart ?_
            subst same
            rw [here]
            exact joined
    | returned => exact ⟨⟨result, ended⟩, apart⟩

end Steps

theorem runs_tidy (calls : Nat → CheckCall) (schedule : List Nat) :
    Tidy calls (runFrom (flightStep calls) .none schedule) :=
  (guarded_true (flightStep calls) .none schedule).invariant (Tidy calls)
    (fun _ index tidy _ => tidy.step index) .start

/-- Requests that are under way differ. A call returns what the leader of a flight for its
request was answered; if that was so before the call started, the flight was still in the map
then. A leader takes its own flight out, and no call waits in vain. -/
theorem checks_share_flights (calls : Nat → CheckCall) (schedule : List Nat) :
    let reached := runFrom (flightStep calls) .none
    let last := reached schedule
    (∀ one other, last.phase one = .performing → last.phase other = .performing →
      (calls one).request = (calls other).request → one = other) ∧
    (∀ index flight result, last.phase index = .returned flight result →
      (calls flight).request = (calls index).request ∧ (calls flight).response = result ∧
        (last.phase flight).finished flight = true ∧
        ∀ taken, taken <+: schedule → (reached taken).phase index = .idle →
          ((reached taken).phase flight).finished flight = true →
            (reached taken).entries.lookup (calls index).request = some flight) ∧
    (∀ index, last.phase index = .published → last.entries.lookup (calls index).request = some index) ∧
    ∀ index flight, last.phase index = .waiting flight →
      last.slots flight = some (calls flight).response ∨
        last.phase flight ∈ [.leading, .performing, .performed] := by
  intro reached last
  have tidy : Tidy calls last := runs_tidy calls schedule
  refine ⟨?_, ?_, ?_, fun index flight waits => tidy.awaited waits⟩
  · intro one other performs performs' same
    exact tidy.unique (by rw [performs]; rfl) (by rw [performs']; rfl) same
  · intro index flight result returned
    obtain ⟨created, request⟩ := tidy.joined index flight (by rw [returned]; rfl)
    obtain ⟨filled, answer⟩ := tidy.answer index flight result returned
    refine ⟨request, answer.symm, CheckPhase.finished_of_filled filled, ?_⟩
    rintro taken ⟨rest, rfl⟩ idle finished
    by_contra removed
    have before : Tidy calls (reached taken) := runs_tidy calls taken
    have left : ((reached taken).phase flight).leads = false := by
      rw [Bool.eq_false_iff]
      exact fun leads => removed ((before.entry _ flight).mpr ⟨leads, request⟩)
    have missed : Missed index flight (reached taken) :=
      ⟨CheckPhase.over_of_finished finished left, by rw [idle]; exact fun found => by cases found⟩
    have later := (guarded_true (flightStep calls) (reached taken) rest).invariant
      (fun state => Tidy calls state ∧ Missed index flight state)
      (fun _ next both _ => ⟨both.1.step next, both.2.step both.1 next⟩) ⟨before, missed⟩
    rw [← runFrom_append] at later
    have apart : (last.phase index).joined ≠ some flight := later.2.apart
    rw [returned] at apart
    exact apart rfl
  · intro index published
    exact (tidy.entry _ index).mpr ⟨by rw [published]; rfl, rfl⟩

/-- Every call is for the same request. -/
def sameCalls (_ : Nat) : CheckCall where
  request := { serverUrl := "http://localhost:8080", orgId := none, appId := "notes"
               releaseVersion := "2.0.0", platform := "ios", arch := "x86_64", channel := "stable"
               currentPatchNumber := 0, clientId := "default" }
  response := .ok { patchAvailable := false, patch := none }

/-- The request of the first call has been answered when the second call starts. -/
theorem late_call_joins :
    ¬ ∀ (calls : Nat → CheckCall) (schedule : List Nat) (index flight : Nat)
      (result : Except String CheckResponse),
      (runFrom (flightStep calls) .none schedule).phase index = .returned flight result →
      ∀ taken, taken <+: schedule → (runFrom (flightStep calls) .none taken).phase index = .idle →
        ((runFrom (flightStep calls) .none taken).phase flight).finished flight = false := by
  intro fresh
  have returned : (runFrom (flightStep sameCalls) .none [0, 0, 0, 0, 1, 1, 0, 1]).phase 1 =
      .returned 0 (sameCalls 0).response := by decide
  have idle : (runFrom (flightStep sameCalls) .none [0, 0, 0, 0]).phase 1 = .idle := by decide
  have late := fresh sameCalls [0, 0, 0, 0, 1, 1, 0, 1] 1 0 _ returned [0, 0, 0, 0] ⟨[1, 1, 0, 1], rfl⟩ idle
  exact absurd late (by decide)

end CodePush.Updater
