import CodePush.Server.Concurrency
import CodePush.Server.RoleProperties

/-!
# The first setup under concurrent requests

A setup counts the users before its transaction creates the first one. Two setups that
both count none go on to create a user each, unless they choose the same name.
-/

set_option autoImplicit false

namespace CodePush.Server

open CodePush.Core CodePush.Foundation CodePush.Foundation.Action

/-!
## Requests
-/

/-- A transaction takes place in one step. -/
inductive SetupOperation where
  | countUsers
  | createFirstUser (env : Environment) (request : SetupRequest) (hash : String)

def SetupOperation.effect : SetupOperation → Database → Database
  | .countUsers, db => db
  | .createFirstUser env request hash, db => (transaction (setupFirstUser env request hash) db).2

abbrev SetupSteps (α : Type) := Steps SetupOperation HttpError Database α

def setupDoneSteps (env : Environment) : SetupSteps Bool :=
  match env.sql .countUsers with
  | .ok _ => Steps.atomic .countUsers fun db => .ok (!db.users.entries.isEmpty)
  | .error text => throw (internalError (.message text))

def createFirstUserSteps (env : Environment) (request : SetupRequest) (hash : String) :
    SetupSteps String :=
  Steps.atomic (.createFirstUser env request hash) fun db =>
    (transaction (setupFirstUser env request hash) db).1.mapError internalError

def setupSteps (env : Environment) (body : Except String SetupRequest) : SetupSteps Reply := do
  let done ← setupDoneSteps env
  if done then throw { status := 409, message := "setup already completed" }
  else do
    let request ← Steps.attempt (match body with
      | .ok value => .ok value
      | .error message => .error { status := 400, message })
    if isBlank request.username || request.password.utf8ByteSize < 8 then
      throw { status := 400, message := "username and password with at least 8 chars are required" }
    else
      match env.generateFromPassword request.password with
      | .error message => throw { status := 500, message }
      | .ok hash => do
          let token ← createFirstUserSteps env request hash
          pure (.token token)

theorem createFirstUserSteps_run (env : Environment) (request : SetupRequest) (hash : String) :
    Steps.run SetupOperation.effect (createFirstUserSteps env request hash) =
      answering (transaction (setupFirstUser env request hash)) internalError := by
  funext db
  unfold createFirstUserSteps answering
  change ((transaction (setupFirstUser env request hash) db).1.mapError internalError,
    (transaction (setupFirstUser env request hash) db).2) = _
  rcases transaction (setupFirstUser env request hash) db with ⟨error | token, after⟩
  · rfl
  · rfl

/-- A setup without others is the one that its request runs. -/
theorem setupSteps_run (env : Environment) (body : Except String SetupRequest) :
    Steps.run SetupOperation.effect (setupSteps env body) = setup env body := by
  funext db
  unfold setupSteps setup setupDoneSteps
  rw [Steps.run_bind, Action.run_bind, Action.run_bind]
  unfold exec answering Action.attempt
  cases env.sql .countUsers with
  | error text => rfl
  | ok =>
      show Steps.run SetupOperation.effect (ite _ _ _) db = (ite _ _ _ : Handler Reply) db
      split
      · rfl
      rw [Steps.run_bind, Action.run_bind, Action.run_bind]
      cases body with
      | error message => rfl
      | ok request =>
          show Steps.run SetupOperation.effect (ite _ _ _) db = (ite _ _ _ : Handler Reply) db
          split
          · rfl
          cases env.generateFromPassword request.password with
          | error message => rfl
          | ok hash =>
              dsimp only
              rw [Steps.run_bind, createFirstUserSteps_run]
              rfl

structure SetupCall where
  env : Environment
  body : Except String SetupRequest

/-- The requests that are under way, and the database. -/
abbrev Setups := List (Process SetupOperation Database (Except HttpError Reply)) × Database

def setups (calls : List SetupCall) (db : Database) : Setups :=
  (calls.map fun call => setupSteps call.env call.body, db)

/-- At most one setup has succeeded, and what it left behind is all that there is of it. -/
structure SetUpOnce (start : Database) (state : Setups) : Prop where
  succeeded : state.1.countP Steps.succeeded ≤ 1
  users : state.2.users.entries.length ≤ 1
  owners : state.2.ownerCount defaultOrgID ≤ start.ownerCount defaultOrgID + 1
  tokens : state.2.cliTokens.length ≤ start.cliTokens.length + 1

def setupStatements : List Statement :=
  [.begin, .insertUser, .insertOrganization, .insertMembership, .insertToken, .commit]

/-- Nothing stops the transaction: its name is not taken, and its token is new. -/
structure Admits (env : Environment) (request : SetupRequest) (db : Database) : Prop where
  runs : ∀ statement ∈ setupStatements, env.sql statement = .ok ()
  named : db.userNamed request.username = none
  token : ∃ token, env.randomToken = .ok token ∧
    db.cliTokens.any (·.tokenHash = env.sha256Hex (stringBytes token)) = false

/-- The transaction goes through although there is a user by now. -/
def SetupOperation.ComesSecond : SetupOperation → Database → Prop
  | .countUsers, _ => False
  | .createFirstUser env request _, db => db.users.entries ≠ [] ∧ Admits env request db

/-- The next step of the setup is a transaction that comes second. -/
def Overtakes (state : Setups) (index : Nat) : Prop :=
  ∃ operation, pending state.1 index = some operation ∧ operation.ComesSecond state.2

/-!
## The transaction
-/

/-- What a setup adds. -/
structure SetUp (before after : Database) : Prop where
  users : after.users.entries.length = before.users.entries.length + 1
  owners : after.ownerCount defaultOrgID ≤ before.ownerCount defaultOrgID + 1
  tokens : after.cliTokens.length = before.cliTokens.length + 1

section Transaction

variable {env : Environment} {request : SetupRequest} {db : Database}

theorem exec_runs {statement : Statement} {returns : Unit → Database → Prop}
    {fails : StoreError → Database → Prop} (holds : env.sql statement = .ok () → returns () db)
    (failed : ∀ error, env.sql statement ≠ .ok () → fails error db) :
    Ensures (exec env statement) db returns fails := by
  unfold exec
  cases ran : env.sql statement with
  | error text =>
      exact ensures_attempt (fun _ ended => by cases ended)
        (fun error _ => failed error (by rw [ran]; exact fun same => by cases same))
  | ok => exact ensures_attempt (fun _ _ => holds ran) (fun _ ended => by cases ended)

theorem le_foldl_max (numbers : List Int) (start : Int) :
    start ≤ numbers.foldl max start ∧ ∀ number ∈ numbers, number ≤ numbers.foldl max start := by
  induction numbers generalizing start with
  | nil => exact ⟨le_refl start, fun _ member => absurd member List.not_mem_nil⟩
  | cons head numbers ih =>
      obtain ⟨first, rest⟩ := ih (max start head)
      refine ⟨le_trans (le_max_left start head) first, ?_⟩
      intro number member
      rcases List.mem_cons.mp member with rfl | member
      · exact le_trans (le_max_right start number) first
      · exact rest number member

/-- The row id of a new user is not in use. -/
theorem newUser_fresh (db : Database) : db.users.keys.foldl max 0 + 1 ∉ db.users := by
  intro member
  have bound := (le_foldl_max db.users.keys 0).2 _ (AList.mem_keys.mp member)
  omega

theorem ownerCount_insert_le (db : Database) (key : String × Int) (member : MembershipRow)
    (org : String) (absent : db.memberships.lookup key = none) :
    ({ db with memberships := db.memberships.insert key member } : Database).ownerCount org ≤
      db.ownerCount org + 1 := by
  have fresh : key ∉ db.memberships := AList.lookup_eq_none.mp absent
  unfold Database.ownerCount
  rw [AList.entries_insert_of_notMem fresh, List.filter_cons]
  split
  · simp
  · omega

/-- The transaction goes through if nothing stops it. -/
theorem setupFirstUser_ensures (env : Environment) (request : SetupRequest) (hash : String)
    (db : Database) :
    Ensures (setupFirstUser env request hash) db (fun _ after => Admits env request db ∧ SetUp db after)
      (fun _ _ => ¬ Admits env request db) := by
  have stopped : ∀ statement ∈ setupStatements, env.sql statement ≠ .ok () → ¬ Admits env request db :=
    fun statement member failed admits => failed (admits.runs statement member)
  refine ensures_bind (exec_runs (fun began => ?_) (fun _ => stopped _ (by decide)))
  apply ensures_bind
  refine ensures_bind (exec_runs (fun inserted => ?_) (fun _ => stopped _ (by decide)))
  refine ensures_bind (ensures_get ?_)
  dsimp only
  split
  case isTrue taken =>
    apply ensures_throw
    intro admits
    rw [admits.named] at taken
    cases taken
  case isFalse free =>
    refine ensures_bind (ensures_modify (ensures_pure ?_))
    refine ensures_bind (exec_runs (fun organized => ?_) (fun _ => stopped _ (by decide)))
    have users : (db.users.insert (db.users.keys.foldl max 0 + 1)
        { username := request.username, passwordHash := hash }).entries.length =
          db.users.entries.length + 1 := by
      rw [AList.entries_insert_of_notMem (newUser_fresh db)]
      rfl
    refine Ensures.bind (@ensures_modify _ _ _ _ _ (fun _ (named : Database) =>
      named.users.entries.length = db.users.entries.length + 1 ∧ named.memberships = db.memberships ∧
        named.cliTokens = db.cliTokens) ?_) ?_
    · split
      · exact ⟨users, rfl, rfl⟩
      · exact ⟨users, rfl, rfl⟩
    rintro _ named ⟨users, memberships, tokens⟩
    refine ensures_bind (exec_runs (fun joined => ?_) (fun _ => stopped _ (by decide)))
    refine Ensures.bind (@ensures_modify _ _ _ _ _ (fun _ (owned : Database) =>
      owned.users.entries.length = db.users.entries.length + 1 ∧
        owned.ownerCount defaultOrgID ≤ db.ownerCount defaultOrgID + 1 ∧
        owned.cliTokens = db.cliTokens) ?_) ?_
    · have owners : named.ownerCount defaultOrgID = db.ownerCount defaultOrgID := by
        unfold Database.ownerCount
        rw [memberships]
      split
      case isTrue => exact ⟨users, by omega, tokens⟩
      case isFalse absent =>
        have added := ownerCount_insert_le named _ { role := .owner, createdAt := env.now } defaultOrgID
          (Option.not_isSome_iff_eq_none.mp absent)
        exact ⟨users, by omega, tokens⟩
    rintro _ owned ⟨users, owners, tokens⟩
    apply ensures_bind
    refine ensures_bind (ensures_attempt (fun token drawn => ?_) (fun error failed => ?_))
    case refine_2 =>
      rintro ⟨_, _, token, drawn, _⟩
      rw [drawn] at failed
      cases failed
    have drawn : env.randomToken = .ok token := by
      cases random : env.randomToken with
      | error text =>
          rw [random] at drawn
          cases drawn
      | ok drawn' =>
          rw [random] at drawn
          cases drawn
          rfl
    refine ensures_bind (exec_runs (fun recorded => ?_) (fun _ => stopped _ (by decide)))
    refine ensures_bind (ensures_get ?_)
    rw [tokens]
    split
    case isTrue used =>
      apply ensures_throw
      rintro ⟨_, _, token', drawn', fresh⟩
      cases drawn.symm.trans drawn'
      rw [used] at fresh
      cases fresh
    case isFalse fresh =>
      refine ensures_bind (ensures_modify (ensures_pure ?_))
      refine ensures_bind (exec_runs (fun committed => ensures_pure ?_) (fun _ => stopped _ (by decide)))
      refine ⟨⟨?_, Option.not_isSome_iff_eq_none.mp free, token, drawn, Bool.eq_false_iff.mpr fresh⟩, users,
        owners, ?_⟩
      · simp [setupStatements, began, inserted, organized, joined, recorded, committed]
      · rw [List.length_append, tokens]
        rfl

/-- A transaction adds a user, or leaves everything as it was. -/
theorem createFirstUser_effect (env : Environment) (request : SetupRequest) (hash : String)
    (db : Database) :
    ((∃ token, (transaction (setupFirstUser env request hash) db).1 = .ok token) ∧ Admits env request db ∧
        SetUp db (transaction (setupFirstUser env request hash) db).2) ∨
      ((∃ error, (transaction (setupFirstUser env request hash) db).1 = .error error) ∧
        ¬ Admits env request db ∧ (transaction (setupFirstUser env request hash) db).2 = db) := by
  have ensured := setupFirstUser_ensures env request hash db
  unfold transaction
  rcases ended : setupFirstUser env request hash db with ⟨error | token, after⟩
  · exact .inr ⟨⟨error, rfl⟩, ensured.of_error ended, rfl⟩
  · exact .inl ⟨⟨token, rfl⟩, ensured.of_ok ended⟩

end Transaction

/-!
## Steps
-/

/-- A process of the pool succeeds by its transaction only. -/
def Earned : Process SetupOperation Database (Except HttpError Reply) → Prop
  | .done _ => True
  | .step operation next => ∀ db,
      (Steps.succeeded (next db) = true → ∃ env request hash, operation = .createFirstUser env request hash ∧
        Admits env request db) ∧ Earned (next db)

/-- Neither has a success that is not earned. -/
structure Unanswered (steps : SetupSteps Reply) : Prop where
  pending : Steps.succeeded steps = false
  earned : Earned steps

theorem unanswered_throw (error : HttpError) : Unanswered (throw error : SetupSteps Reply) := ⟨rfl, trivial⟩

/-- What the transaction is answered with ends the setup. -/
theorem answered_ends (outcome : Except StoreError String) :
    let left : SetupSteps Reply := Process.bind (.done (outcome.mapError internalError))
      (ExceptT.bindCont fun token => pure (Reply.token token))
    (Steps.succeeded left = true → ∃ token, outcome = .ok token) ∧ Earned left := by
  cases outcome with
  | error error => exact ⟨fun succeeded => Bool.noConfusion succeeded, trivial⟩
  | ok token => exact ⟨fun _ => ⟨token, rfl⟩, trivial⟩

theorem createFirstUserSteps_unanswered (env : Environment) (request : SetupRequest) (hash : String) :
    Unanswered (createFirstUserSteps env request hash >>= fun token => pure (.token token)) := by
  refine ⟨rfl, ?_⟩
  intro db
  obtain ⟨success, earned⟩ := answered_ends (transaction (setupFirstUser env request hash) db).1
  refine ⟨fun succeeded => ⟨env, request, hash, rfl, ?_⟩, earned⟩
  obtain ⟨token, accepted⟩ := success succeeded
  rcases createFirstUser_effect env request hash db with ⟨_, admits, _⟩ | ⟨⟨error, failed⟩, _⟩
  · exact admits
  · cases failed.symm.trans accepted

theorem setupSteps_unanswered (env : Environment) (body : Except String SetupRequest) :
    Unanswered (setupSteps env body) := by
  unfold setupSteps setupDoneSteps
  cases env.sql .countUsers with
  | error text => exact unanswered_throw _
  | ok =>
      refine ⟨rfl, ?_⟩
      intro db
      have later : ∀ steps : SetupSteps Reply, Unanswered steps →
          (Steps.succeeded steps = true → ∃ env request hash,
            SetupOperation.countUsers = .createFirstUser env request hash ∧ Admits env request db) ∧
          Earned steps := by
        rintro steps ⟨pending, earned⟩
        refine ⟨fun succeeded => ?_, earned⟩
        cases pending.symm.trans succeeded
      apply later
      change Unanswered (ite _ _ _)
      split
      · exact unanswered_throw _
      cases body with
      | error message => exact unanswered_throw _
      | ok request =>
          change Unanswered (ite _ _ _)
          split
          · exact unanswered_throw _
          cases env.generateFromPassword request.password with
          | error message => exact unanswered_throw _
          | ok hash => exact createFirstUserSteps_unanswered env request hash

/-- What the setups so far have added: each that has succeeded, a user. -/
structure Grown (start : Database) (state : Setups) : Prop where
  succeeded : state.1.countP Steps.succeeded ≤ state.2.users.entries.length
  owners : state.2.ownerCount defaultOrgID ≤ start.ownerCount defaultOrgID + state.2.users.entries.length
  tokens : state.2.cliTokens.length = start.cliTokens.length + state.2.users.entries.length
  earned : ∀ process ∈ state.1, Earned process

theorem Grown.setUpOnce_iff {start : Database} {state : Setups} (grown : Grown start state) :
    SetUpOnce start state ↔ state.2.users.entries.length ≤ 1 := by
  constructor
  · exact fun once => once.users
  · intro users
    have tokens := grown.tokens
    exact ⟨grown.succeeded.trans users, users, grown.owners.trans (by omega), by omega⟩

theorem Grown.step {start : Database} {state : Setups} (grown : Grown start state) (index : Nat) :
    Grown start (poolStep SetupOperation.effect index state).2 := by
  rcases here : state.1[index]? with _ | ⟨result⟩ | ⟨operation, next⟩
  · rw [poolStep_of_pending_none (by simp [pending, here])]
    exact grown
  · rw [poolStep_of_pending_none (by simp [pending, here])]
    exact grown
  · have inside : index < state.1.length := (List.getElem?_eq_some_iff.mp here).1
    have stepped : (poolStep SetupOperation.effect index state).2 =
        (state.1.set index (next state.2), operation.effect state.2) := by
      unfold poolStep
      rw [here]
    obtain ⟨success, later⟩ := grown.earned _ (List.mem_of_getElem? here) state.2
    have earned : ∀ process ∈ state.1.set index (next state.2), Earned process := by
      intro process member
      rcases List.mem_or_eq_of_mem_set member with old | rfl
      · exact grown.earned process old
      · exact later
    have counted : (state.1.set index (next state.2)).countP Steps.succeeded ≤
        state.1.countP Steps.succeeded + if Steps.succeeded (next state.2) then 1 else 0 := by
      rw [List.countP_set inside]
      omega
    rw [stepped]
    cases operation with
    | countUsers =>
        have unsuccessful : Steps.succeeded (next state.2) = false := by
          rw [Bool.eq_false_iff]
          intro succeeded
          obtain ⟨_, _, _, other, _⟩ := success succeeded
          cases other
        rw [unsuccessful] at counted
        exact ⟨counted.trans grown.succeeded, grown.owners, grown.tokens, earned⟩
    | createFirstUser env request hash =>
        rcases createFirstUser_effect env request hash state.2 with ⟨_, _, added⟩ | ⟨_, stopped, same⟩
        · have users := added.users
          have owners := added.owners
          have tokens := added.tokens
          have bounds := grown.succeeded
          have before := grown.owners
          have before' := grown.tokens
          refine ⟨?_, ?_, ?_, earned⟩
          · change (state.1.set index (next state.2)).countP Steps.succeeded ≤
              (transaction (setupFirstUser env request hash) state.2).2.users.entries.length
            split at counted
            · omega
            · omega
          · change (transaction (setupFirstUser env request hash) state.2).2.ownerCount defaultOrgID ≤ _ +
              (transaction (setupFirstUser env request hash) state.2).2.users.entries.length
            omega
          · change (transaction (setupFirstUser env request hash) state.2).2.cliTokens.length = _ +
              (transaction (setupFirstUser env request hash) state.2).2.users.entries.length
            omega
        · have unsuccessful : Steps.succeeded (next state.2) = false := by
            rw [Bool.eq_false_iff]
            intro succeeded
            obtain ⟨_, _, _, own, admits⟩ := success succeeded
            cases own
            exact stopped admits
          rw [unsuccessful] at counted
          change Grown start (_, (transaction (setupFirstUser env request hash) state.2).2)
          rw [same]
          exact ⟨counted.trans grown.succeeded, grown.owners, grown.tokens, earned⟩

/-- Exactly a transaction that comes second creates a second user. -/
theorem poolStep_users_iff {state : Setups} (index : Nat) (few : state.2.users.entries.length ≤ 1) :
    (poolStep SetupOperation.effect index state).2.2.users.entries.length ≤ 1 ↔ ¬ Overtakes state index := by
  cases ready : pending state.1 index with
  | none =>
      rw [poolStep_of_pending_none ready]
      refine iff_of_true few ?_
      rintro ⟨operation, next, _⟩
      cases ready.symm.trans next
  | some operation =>
      rw [poolStep_state ready]
      have overtakes : Overtakes state index ↔ operation.ComesSecond state.2 := by
        simp [Overtakes, ready]
      rw [overtakes]
      cases operation with
      | countUsers => exact iff_of_true few id
      | createFirstUser env request hash =>
          change (transaction (setupFirstUser env request hash) state.2).2.users.entries.length ≤ 1 ↔
            ¬ (state.2.users.entries ≠ [] ∧ Admits env request state.2)
          rw [← List.length_pos_iff]
          rcases createFirstUser_effect env request hash state.2 with ⟨_, admits, added⟩ | ⟨_, stopped, same⟩
          · have users := added.users
            constructor
            · rintro within ⟨present, _⟩
              omega
            · intro spared
              by_contra many
              exact spared ⟨by omega, admits⟩
          · rw [same]
            exact iff_of_true few fun both => stopped both.2

/-!
## Setups that are left alone
-/

def KeepsUsers (before after : Database) : Prop := after.users = before.users

/-- As long as the others create no users. -/
abbrev FirstSetup {α : Type} (returns : α → Database → Prop) (steps : SetupSteps α) (db : Database) : Prop :=
  Steps.Sound SetupOperation.effect KeepsUsers (fun _ _ => True)
    (fun operation db => ¬ operation.ComesSecond db) returns steps db

attribute [local irreducible] Process.Sound in
theorem setupSteps_first (env : Environment) (body : Except String SetupRequest) (db : Database) :
    FirstSetup (fun _ _ => True) (setupSteps env body) db := by
  have counts : FirstSetup (fun done state => done = !state.users.entries.isEmpty) (setupDoneSteps env) db := by
    unfold setupDoneSteps
    cases env.sql .countUsers with
    | error text => exact .throw
    | ok =>
        apply Steps.Sound.atomic
        intro state _ _
        exact ⟨fun second => second, fun done found => (Except.ok.inj found).symm⟩
  refine Steps.Sound.bind counts ?_
  rintro done state found
  split
  · exact .throw
  case isFalse first =>
    have none : state.users.entries = [] := by simpa [found] using first
    refine Steps.Sound.bind (?_ : FirstSetup (fun _ after => after = state) _ state) ?_
    · exact .attempt fun _ _ => rfl
    rintro request _ rfl
    split
    · exact .throw
    · split
      · exact .throw
      · refine Steps.Sound.bind (?_ : FirstSetup (fun _ _ => True) _ _) (fun _ _ _ => .pure trivial)
        apply Steps.Sound.atomic
        intro later kept _
        refine ⟨?_, fun _ _ => trivial⟩
        rintro ⟨present, _⟩
        apply present
        rw [show later.users = _ from kept]
        exact none

/-!
## Runs
-/

/-- As long as no transaction comes second, there is one setup at most; and none comes second of
which the others, since its count, have created no user. -/
theorem setup_once_iff_not_overtaken (start : Database) (none : start.users = ∅) (calls : List SetupCall)
    (schedule : List Nat) :
    ((∀ taken, taken <+: schedule →
        SetUpOnce start (runFrom (poolStep SetupOperation.effect) (setups calls start) taken)) ↔
      Guarded (poolStep SetupOperation.effect) (fun state index => ¬ Overtakes state index)
        (setups calls start) schedule) ∧
    ∀ taken index, LeftAlone SetupOperation.effect KeepsUsers (setups calls start) taken index →
      ¬ Overtakes (runFrom (poolStep SetupOperation.effect) (setups calls start) taken) index := by
  constructor
  · have grown : ∀ taken, Grown start
        (runFrom (poolStep SetupOperation.effect) (setups calls start) taken) := by
      intro taken
      refine (guarded_true (poolStep SetupOperation.effect) (setups calls start) taken).invariant (Grown start)
        (fun state index grown _ => grown.step index) ?_
      have earned : ∀ process ∈ (setups calls start).1, Unanswered process := by
        intro process member
        obtain ⟨call, _, rfl⟩ := List.mem_map.mp member
        exact setupSteps_unanswered call.env call.body
      have fresh : start.users.entries.length = 0 := by
        rw [none]
        rfl
      refine ⟨?_, Nat.le_add_right _ _, ?_, fun process member => (earned process member).earned⟩
      · rw [List.countP_eq_zero.mpr]
        · exact Nat.zero_le _
        · intro process member
          rw [(earned process member).pending]
          exact Bool.false_ne_true
      · change start.cliTokens.length = start.cliTokens.length + start.users.entries.length
        omega
    have users : (setups calls start).2.users.entries.length ≤ 1 := by
      change start.users.entries.length ≤ 1
      rw [none]
      exact Nat.zero_le 1
    rw [← kept_iff_guarded (fun state : Setups => state.2.users.entries.length ≤ 1)
      (fun _ index few => poolStep_users_iff index few) users]
    exact forall₂_congr fun taken _ => (grown taken).setUpOnce_iff
  · rintro taken index alone ⟨operation, ready, second⟩
    have sound : ∀ process ∈ (setups calls start).1, ∀ state, process.Safe SetupOperation.effect KeepsUsers
        (fun _ _ => True) (fun operation db => ¬ operation.ComesSecond db) state := by
      intro process member state
      obtain ⟨call, _, rfl⟩ := List.mem_map.mp member
      exact Process.Sound.mono (setupSteps_first call.env call.body state) fun _ _ _ => trivial
    exact alone.next_safe (fun _ => rfl) (fun _ _ _ first second => second.trans first) sound ready second

/-- Two administrators set the server up. -/
def bothSetups : List SetupCall :=
  [{ env := sampleEnv setupToken.1
     body := .ok { username := "alice", password := samplePassword.1, tokenName := "" } },
    { env := sampleEnv userToken.1
      body := .ok { username := "bob", password := samplePassword.1, tokenName := "" } }]

/-- One after the other, the second one is refused. -/
theorem setups_in_turn :
    (Database.migrated 0).users = ∅ ∧ ∀ taken, taken <+: [0, 0, 1] → SetUpOnce (Database.migrated 0)
      (runFrom (poolStep SetupOperation.effect) (setups bothSetups (Database.migrated 0)) taken) := by
  refine ⟨rfl, ?_⟩
  refine (setup_once_iff_not_overtaken (Database.migrated 0) rfl bothSetups [0, 0, 1]).1.mpr ?_
  refine ⟨?_, ?_, ?_, trivial⟩
  · rintro ⟨operation, ready, second⟩
    cases ready
    exact second
  · rintro ⟨operation, ready, second⟩
    cases ready
    exact second.1 rfl
  · rintro ⟨operation, ready, second⟩
    cases ready
    exact second

/-- Both count no users before either creates one. -/
theorem concurrent_setups_both_succeed :
    ¬ ∀ (start : Database), start.users = ∅ → ∀ (calls : List SetupCall) (schedule : List Nat),
      SetUpOnce start (runFrom (poolStep SetupOperation.effect) (setups calls start) schedule) := by
  intro once
  have users := (once (Database.migrated 0) rfl bothSetups [0, 1, 0, 1]).users
  have two : (runFrom (poolStep SetupOperation.effect) (setups bothSetups (Database.migrated 0))
      [0, 1, 0, 1]).2.users.entries.length = 2 := by decide
  omega

end CodePush.Server
