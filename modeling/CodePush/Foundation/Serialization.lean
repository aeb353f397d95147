import CodePush.Foundation.Interleaving

/-!
# Processes that write once

What is seen of a state is a view of it. A process that writes once changes the view in
one of its steps at most, and what it makes of the view does not depend on what it read. A
pool of such processes ends in the view that they lead to one after the other, in the order of
their writes.
-/

set_option autoImplicit false

namespace CodePush.Foundation

variable {ω σ α β δ ε : Type}

/-- Whatever the others do within `rely`, the process stays within it, and none of its steps
changes the view but one, which does it by `write`. `wrote` says that this step is not ahead. -/
def Process.Commits (effect : ω → σ → σ) (rely : σ → σ → Prop) (view : σ → δ) (write : δ → δ)
    (ends : Bool → α → σ → Prop) : Bool → Process ω σ α → σ → Prop
  | wrote, .done result, start => ends wrote result start
  | wrote, .step operation next, start => ∀ state, rely start state →
      rely state (effect operation state) ∧
        ((view (effect operation state) = view state ∧
            (next state).Commits effect rely view write ends wrote (effect operation state)) ∨
          (wrote = false ∧ view (effect operation state) = write (view state) ∧
            (next state).Commits effect rely view write ends true (effect operation state)))

/-- The process ends with its write behind it. -/
abbrev Process.WritesOnce (effect : ω → σ → σ) (rely : σ → σ → Prop) (view : σ → δ) (write : δ → δ) :
    Bool → Process ω σ α → σ → Prop :=
  Process.Commits effect rely view write fun wrote _ _ => wrote = true

/-- The process changes nothing, and reads only what related states share. -/
def Process.Steady (effect : ω → σ → σ) (same : σ → σ → Prop) : Process ω σ α → Prop
  | .done _ => True
  | .step operation next => (∀ state, effect operation state = state) ∧
      (∀ one other, same one other → next one = next other) ∧
      ∀ state, (next state).Steady effect same

variable {effect : ω → σ → σ} {rely same : σ → σ → Prop} {view : σ → δ} {write : δ → δ}
  {ends : Bool → α → σ → Prop} {ends' : Bool → β → σ → Prop} {wrote : Bool}

/-!
## Rules
-/

namespace Process.Commits

theorem bind {process : Process ω σ α} {next : α → Process ω σ β} {start : σ}
    (first : process.Commits effect rely view write ends wrote start)
    (rest : ∀ wrote result state, ends wrote result state →
      (next result).Commits effect rely view write ends' wrote state) :
    (process >>= next).Commits effect rely view write ends' wrote start := by
  induction process generalizing start wrote with
  | done result => exact rest wrote result start first
  | step operation continue' ih =>
      intro state others
      obtain ⟨within, unseen | ⟨pending, written, later⟩⟩ := first state others
      · exact ⟨within, .inl ⟨unseen.1, ih state unseen.2⟩⟩
      · exact ⟨within, .inr ⟨pending, written, ih state later⟩⟩

theorem mono {ends₂ : Bool → α → σ → Prop} {process : Process ω σ α} {start : σ}
    (commits : process.Commits effect rely view write ends wrote start)
    (weaker : ∀ wrote result state, ends wrote result state → ends₂ wrote result state) :
    process.Commits effect rely view write ends₂ wrote start := by
  induction process generalizing start wrote with
  | done result => exact weaker wrote result start commits
  | step operation next ih =>
      intro state others
      obtain ⟨within, unseen | ⟨pending, written, later⟩⟩ := commits state others
      · exact ⟨within, .inl ⟨unseen.1, ih state unseen.2⟩⟩
      · exact ⟨within, .inr ⟨pending, written, ih state later⟩⟩

theorem read {operation : ω} {next : σ → Process ω σ α} {start : σ}
    (reflexive : ∀ one, rely one one) (still : ∀ state, effect operation state = state)
    (rest : ∀ state, rely start state → (next state).Commits effect rely view write ends wrote state) :
    (Process.step operation next).Commits effect rely view write ends wrote start := by
  intro state others
  rw [still]
  exact ⟨reflexive state, .inl ⟨rfl, rest state others⟩⟩

/-- What others do in the meantime makes no difference. -/
theorem stable {process : Process ω σ α} {start state : σ}
    (transitive : ∀ one two three, rely one two → rely two three → rely one three)
    (stays : ∀ result, ends wrote result start → ends wrote result state)
    (commits : process.Commits effect rely view write ends wrote start) (others : rely start state) :
    process.Commits effect rely view write ends wrote state := by
  cases process with
  | done result => exact stays result commits
  | step operation next =>
      intro later rest
      exact commits later (transitive _ _ _ others rest)

end Process.Commits

namespace Process.Steady

theorem bind {process : Process ω σ α} {next : α → Process ω σ β}
    (first : process.Steady effect same) (rest : ∀ result, (next result).Steady effect same) :
    (process >>= next).Steady effect same := by
  induction process with
  | done result => exact rest result
  | step operation continue' ih =>
      obtain ⟨still, alike, later⟩ := first
      refine ⟨still, ?_, fun state => ih state (later state)⟩
      intro one other related
      change (continue' one >>= next) = (continue' other >>= next)
      rw [alike one other related]

theorem run {process : Process ω σ α} (steady : process.Steady effect same) {one other : σ}
    (related : same one other) :
    (process.run effect one).1 = (process.run effect other).1 ∧ (process.run effect one).2 = one ∧
      (process.run effect other).2 = other := by
  induction process with
  | done result => exact ⟨rfl, rfl, rfl⟩
  | step operation next ih =>
      obtain ⟨still, alike, later⟩ := steady
      have rest := ih one (later one)
      simp only [Process.run, still]
      rw [← alike one other related]
      exact rest

/-- Among others that keep what it reads, it ends as it would alone. -/
theorem commits {process : Process ω σ α} (steady : process.Steady effect same)
    (reflexive : ∀ one, rely one one)
    (transitive : ∀ one two three, rely one two → rely two three → rely one three)
    (shared : ∀ one other, rely one other → same one other) {origin start : σ}
    (others : rely origin start) :
    process.Commits effect rely view write
      (fun wrote' result state => wrote' = wrote ∧ result = (process.run effect origin).1 ∧
        rely origin state) wrote start := by
  induction process generalizing start with
  | done result => exact ⟨rfl, rfl, others⟩
  | step operation next ih =>
      obtain ⟨still, alike, later⟩ := steady
      apply Process.Commits.read reflexive still
      intro state within
      have reached : rely origin state := transitive _ _ _ others within
      have ended : ((Process.step operation next).run effect origin).1 =
          ((next origin).run effect origin).1 := by
        rw [Process.run, still]
      rw [← alike _ _ (shared _ _ reached), ended]
      exact ih origin (later origin) reached

end Process.Steady

namespace Steps

variable {start : σ}

theorem commits_bind {ends : Bool → Except ε α → σ → Prop} {ends' : Bool → Except ε β → σ → Prop}
    {steps : Steps ω ε σ α} {next : α → Steps ω ε σ β}
    (first : Process.Commits effect rely view write ends wrote steps start)
    (rest : ∀ wrote value state, ends wrote (.ok value) state →
      Process.Commits effect rely view write ends' wrote (next value) state)
    (failed : ∀ wrote error state, ends wrote (.error error) state → ends' wrote (.error error) state) :
    Process.Commits effect rely view write ends' wrote (steps >>= next : Steps ω ε σ β) start := by
  apply Process.Commits.bind first
  intro wrote result state ended
  cases result with
  | error error => exact failed wrote error state ended
  | ok value => exact rest wrote value state ended

section Single

variable {ends : Bool → Except ε α → σ → Prop}

theorem commits_attempt {outcome : Except ε α} (ended : ends wrote outcome start) :
    Process.Commits effect rely view write ends wrote (attempt outcome : Steps ω ε σ α) start := ended

theorem commits_pure {value : α} (ended : ends wrote (.ok value) start) :
    Process.Commits effect rely view write ends wrote (pure value : Steps ω ε σ α) start := ended

theorem commits_throw {error : ε} (ended : ends wrote (.error error) start) :
    Process.Commits effect rely view write ends wrote (throw error : Steps ω ε σ α) start := ended

theorem commits_read {operation : ω} {answer : σ → Except ε α} (reflexive : ∀ one, rely one one)
    (still : ∀ state, effect operation state = state)
    (ended : ∀ state, rely start state → ends wrote (answer state) state) :
    Process.Commits effect rely view write ends wrote (Steps.atomic operation answer) start :=
  Process.Commits.read reflexive still ended

theorem commits_write {operation : ω} {answer : σ → Except ε α}
    (step : ∀ state, rely start state → rely state (effect operation state) ∧
      view (effect operation state) = write (view state) ∧
        ends true (answer state) (effect operation state)) :
    Process.Commits effect rely view write ends false (Steps.atomic operation answer) start := by
  intro state others
  obtain ⟨within, written, ended⟩ := step state others
  exact ⟨within, .inr ⟨rfl, written, ended⟩⟩

end Single

theorem commits_mapError {ε' : Type} {onError : ε → ε'} {ends : Bool → Except ε' α → σ → Prop}
    {steps : Steps ω ε σ α}
    (first : Process.Commits effect rely view write
      (fun wrote result state => ends wrote (result.mapError onError) state) wrote steps start) :
    Process.Commits effect rely view write ends wrote (Steps.mapError onError steps) start :=
  Process.Commits.bind first fun _ _ _ ended => ended

theorem steady_bind {steps : Steps ω ε σ α} {next : α → Steps ω ε σ β}
    (first : Process.Steady effect same steps) (rest : ∀ value, Process.Steady effect same (next value)) :
    Process.Steady effect same (steps >>= next : Steps ω ε σ β) := by
  apply Process.Steady.bind first
  intro result
  cases result with
  | error error => trivial
  | ok value => exact rest value

theorem steady_atomic {operation : ω} {answer : σ → Except ε α}
    (still : ∀ state, effect operation state = state)
    (alike : ∀ one other, same one other → answer one = answer other) :
    Process.Steady effect same (Steps.atomic operation answer) := by
  refine ⟨still, ?_, fun _ => trivial⟩
  intro one other related
  dsimp only
  rw [alike one other related]

end Steps

/-!
## Orders
-/

section Orders

variable (reflexive : ∀ one, rely one one)
  (transitive : ∀ one two three, rely one two → rely two three → rely one three)

include reflexive transitive in
/-- Alone, the process writes once. -/
theorem Process.WritesOnce.run {process : Process ω σ α} {start : σ}
    (once : process.WritesOnce effect rely view write wrote start) :
    rely start (process.run effect start).2 ∧
      view (process.run effect start).2 = if wrote then view start else write (view start) := by
  induction process generalizing start wrote with
  | done result =>
      refine ⟨reflexive start, ?_⟩
      rw [show wrote = true from once]
      rfl
  | step operation next ih =>
      obtain ⟨within, ⟨unseen, later⟩ | ⟨rfl, written, later⟩⟩ := once start (reflexive start)
      · obtain ⟨reached, seen⟩ := ih start later
        refine ⟨transitive _ _ _ within reached, ?_⟩
        rw [Process.run, seen, unseen]
      · obtain ⟨reached, seen⟩ := ih start later
        refine ⟨transitive _ _ _ within reached, ?_⟩
        rw [Process.run, seen, written]
        rfl

include reflexive transitive in
/-- The processes that write have an order in which their writes lead to the view. -/
theorem pool_writes {schedule : List Nat} {start : List (Process ω σ α) × σ}
    {writes : Nat → δ → δ} {wrote : Nat → Bool}
    (once : ∀ index (process : Process ω σ α), start.1[index]? = some process →
      process.WritesOnce effect rely view (writes index) (wrote index) start.2)
    (ended : ∀ process ∈ (runFrom (poolStep effect) start schedule).1, process.ended = true) :
    ∃ order : List Nat, order.Nodup ∧
      (∀ index, index ∈ order ↔ index < start.1.length ∧ wrote index = false) ∧
      rely start.2 (runFrom (poolStep effect) start schedule).2 ∧
      view (runFrom (poolStep effect) start schedule).2 =
        order.foldl (fun seen index => writes index seen) (view start.2) := by
  induction schedule generalizing start wrote with
  | nil =>
      refine ⟨[], List.nodup_nil, ?_, reflexive _, rfl⟩
      intro index
      refine iff_of_false List.not_mem_nil ?_
      rintro ⟨inside, pending⟩
      have done := ended start.1[index] (List.getElem_mem inside)
      have behind := once index start.1[index] (List.getElem?_eq_getElem inside)
      cases here : start.1[index] with
      | done result =>
          rw [here] at behind
          exact Bool.false_ne_true (pending.symm.trans behind)
      | step operation next =>
          rw [here] at done
          cases done
  | cons index schedule ih =>
      cases ready : pending start.1 index with
      | none =>
          have idle : (poolStep effect index start).2 = start := poolStep_of_pending_none ready
          rw [runFrom, idle] at ended ⊢
          exact ih once ended
      | some operation =>
          rcases here : start.1[index]? with _ | ⟨result⟩ | ⟨operation', next⟩
          · simp [pending, here] at ready
          · simp [pending, here] at ready
          · obtain rfl : operation' = operation := by simpa [pending, here] using ready
            have stepped : (poolStep effect index start).2 =
                (start.1.set index (next start.2), effect operation' start.2) := by
              unfold poolStep
              rw [here]
            have inside : index < start.1.length := (List.getElem?_eq_some_iff.mp here).1
            obtain ⟨within, progress⟩ := once index _ here start.2 (reflexive start.2)
            -- The others are where they were.
            have others : ∀ other process, other ≠ index →
                (start.1.set index (next start.2))[other]? = some process →
                process.WritesOnce effect rely view (writes other) (wrote other)
                  (effect operation' start.2) := by
              intro other process different found
              rw [List.getElem?_set_ne (Ne.symm different)] at found
              exact (once other process found).stable transitive (fun _ behind => behind) within
            rw [runFrom, stepped] at ended ⊢
            rcases progress with ⟨unseen, later⟩ | ⟨ahead, written, later⟩
            · obtain ⟨order, distinct, members, reached, seen⟩ := @ih _ wrote
                (fun other process found => by
                  by_cases own : other = index
                  · subst own
                    rw [List.getElem?_set_self inside] at found
                    cases found
                    exact later
                  · exact others other process own found) ended
              refine ⟨order, distinct, ?_, transitive _ _ _ within reached, ?_⟩
              · simpa only [List.length_set] using members
              · rw [seen, unseen]
            · obtain ⟨order, distinct, members, reached, seen⟩ := @ih _
                (Function.update wrote index true)
                (fun other process found => by
                  by_cases own : other = index
                  · subst own
                    rw [List.getElem?_set_self inside] at found
                    cases found
                    rw [Function.update_self]
                    exact later
                  · rw [Function.update_of_ne own]
                    exact others other process own found) ended
              have fresh : index ∉ order := by
                intro member
                have behind := ((members index).mp member).2
                rw [Function.update_self] at behind
                cases behind
              refine ⟨index :: order, List.nodup_cons.mpr ⟨fresh, distinct⟩, ?_,
                transitive _ _ _ within reached, ?_⟩
              · intro other
                by_cases own : other = index
                · subst own
                  exact iff_of_true List.mem_cons_self ⟨inside, ahead⟩
                · rw [List.mem_cons, members other, Function.update_of_ne own, List.length_set]
                  simp [own]
              · rw [seen, written, List.foldl_cons]

end Orders

section Serial

variable {γ : Type} {steps : γ → Process ω σ α} {writes : γ → δ → δ} {wrote : γ → Bool} {start : σ}

/-- The steps of a call without any others in between. -/
def alone (effect : ω → σ → σ) (steps : γ → Process ω σ α) (call : γ) (state : σ) : α × σ :=
  (steps call).run effect state

/-- What a call makes of the view. -/
def viewAfter (writes : γ → δ → δ) (wrote : γ → Bool) (seen : δ) (call : γ) : δ :=
  if wrote call then seen else writes call seen

variable (reflexive : ∀ one, rely one one)
  (transitive : ∀ one two three, rely one two → rely two three → rely one three)
  (once : ∀ call, (steps call).WritesOnce effect rely view (writes call) (wrote call) start)

include reflexive transitive once in
theorem runFrom_alone (calls : List γ) {state : σ} (within : rely start state) :
    rely start (runFrom (alone effect steps) state calls) ∧
      view (runFrom (alone effect steps) state calls) =
        calls.foldl (viewAfter writes wrote) (view state) := by
  induction calls generalizing state with
  | nil => exact ⟨within, rfl⟩
  | cons call calls ih =>
      have here : (steps call).WritesOnce effect rely view (writes call) (wrote call) state :=
        (once call).stable transitive (fun _ behind => behind) within
      obtain ⟨later, seen⟩ := Process.WritesOnce.run reflexive transitive here
      obtain ⟨reached, viewed⟩ := ih (transitive _ _ _ within later)
      refine ⟨reached, ?_⟩
      rw [List.foldl_cons, viewAfter, ← seen]
      exact viewed

theorem filterMap_getElem?_range (calls : List γ) :
    (List.range calls.length).filterMap (calls[·]?) = calls := by
  induction calls with
  | nil => rfl
  | cons call calls ih =>
      rw [List.length_cons, List.range_succ_eq_map, List.filterMap_cons_some (List.getElem?_cons_zero ..),
        List.filterMap_map]
      exact congrArg (call :: ·) ih

/-- The indices of an order, and the others behind them. -/
theorem foldl_viewAfter_order (calls : List γ) (order others : List Nat) (seen : δ)
    (pending : ∀ index ∈ order, ∃ call, calls[index]? = some call ∧ wrote call = false)
    (idle : ∀ index ∈ others, ∀ call, calls[index]? = some call → wrote call = true) :
    ((order ++ others).filterMap (calls[·]?)).foldl (viewAfter writes wrote) seen =
      order.foldl (fun seen index => ((calls[index]?).elim id writes) seen) seen := by
  induction order generalizing seen with
  | nil =>
      induction others with
      | nil => rfl
      | cons index others ih =>
          have rest := ih fun other member => idle other (List.mem_cons_of_mem _ member)
          cases found : calls[index]? with
          | none => simpa [List.filterMap_cons, found] using rest
          | some call =>
              have behind := idle index List.mem_cons_self call found
              simpa [List.filterMap_cons, found, viewAfter, behind] using rest
  | cons index order ih =>
      obtain ⟨call, found, ahead⟩ := pending index List.mem_cons_self
      have rest := ih (writes call seen) fun other member => pending other (List.mem_cons_of_mem _ member)
      simpa [List.filterMap_cons, found, viewAfter, ahead] using rest

include reflexive transitive once in
/-- Calls whose processes write once leave the view as if they had been made one after the
other. -/
theorem serialized {calls : List γ} {schedule : List Nat}
    (ended : ∀ process ∈ (runFrom (poolStep effect) (calls.map steps, start) schedule).1,
      process.ended = true) :
    ∃ order : List γ, order.Perm calls ∧
      rely start (runFrom (poolStep effect) (calls.map steps, start) schedule).2 ∧
      view (runFrom (poolStep effect) (calls.map steps, start) schedule).2 =
        view (runFrom (alone effect steps) start order) := by
  have each : ∀ (index : Nat) (process : Process ω σ α), (calls.map steps)[index]? = some process →
      process.WritesOnce effect rely view ((calls[index]?).elim id writes)
        ((calls[index]?).elim true wrote) start := by
    intro index process found
    rw [List.getElem?_map] at found
    obtain ⟨call, here, rfl⟩ := Option.map_eq_some_iff.mp found
    rw [here]
    exact once call
  obtain ⟨order, distinct, members, within, seen⟩ :=
    @pool_writes _ _ _ _ _ _ view reflexive transitive schedule (calls.map steps, start) _ _ each ended
  rw [List.length_map] at members
  let others := (List.range calls.length).filter fun index => (calls[index]?).elim true wrote
  have pending : ∀ index ∈ order, ∃ call, calls[index]? = some call ∧ wrote call = false := by
    intro index member
    obtain ⟨inside, ahead⟩ := (members index).mp member
    rw [List.getElem?_eq_getElem inside] at ahead ⊢
    exact ⟨_, rfl, ahead⟩
  have idle : ∀ index ∈ others, ∀ call, calls[index]? = some call → wrote call = true := by
    intro index member call found
    have behind := (List.mem_filter.mp member).2
    rw [found] at behind
    exact behind
  have whole : (order ++ others).Perm (List.range calls.length) := by
    rw [List.perm_ext_iff_of_nodup]
    · intro index
      rw [List.mem_append, members, List.mem_filter, List.mem_range]
      cases (calls[index]?).elim true wrote with
      | true => simp
      | false => simp
    · refine List.nodup_append.mpr ⟨distinct, List.nodup_range.filter _, ?_⟩
      rintro index ahead other behind rfl
      have one := ((members index).mp ahead).2
      have two := (List.mem_filter.mp behind).2
      cases one.symm.trans two
    · exact List.nodup_range
  refine ⟨(order ++ others).filterMap (calls[·]?), ?_, within, ?_⟩
  · have listed := whole.filterMap (calls[·]?)
    rwa [filterMap_getElem?_range] at listed
  · rw [seen, (runFrom_alone reflexive transitive once _ (reflexive start)).2,
      foldl_viewAfter_order calls order others _ pending idle]

end Serial

attribute [irreducible] Process.Commits

end CodePush.Foundation
