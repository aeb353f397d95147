import CodePush.Server.Concurrency
import CodePush.Server.OwnerProperties

/-!
# Owners under concurrent requests

An update or a removal reads the role and the number of owners before it writes. A
write of another request in between can make the member the only owner. Nothing
else takes the last owner away.
-/

set_option autoImplicit false

namespace CodePush.Server

open CodePush.Core CodePush.Foundation

/-!
## Requests
-/

inductive MemberWrite where
  | update (orgId : String) (userId : Int) (role : String)
  | remove (orgId : String) (userId : Int)
  deriving Repr, DecidableEq

structure MemberCall where
  env : Environment
  write : MemberWrite

def MemberCall.steps (call : MemberCall) : StoreSteps Unit :=
  match call.write with
  | .update orgId userId role => updateOrgMemberRoleSteps call.env orgId userId role
  | .remove orgId userId => removeOrgMemberSteps call.env orgId userId

/-- The requests that are under way, and the database. -/
abbrev Requests := List (Process Operation Database (Except StoreError Unit)) × Database

def requests (calls : List MemberCall) (db : Database) : Requests := (calls.map (·.steps), db)

def Operation.TakesLastOwner (org : String) : Operation → Database → Prop
  | .updateMembership orgId userId role, db => orgId = org ∧ role ≠ .owner ∧ db.OnlyOwner org userId
  | .deleteMembership orgId userId, db => orgId = org ∧ db.OnlyOwner org userId
  | _, _ => False

/-- The request is about to write, and its member is the only owner by now. -/
def Overtaken (org : String) (state : Requests) (index : Nat) : Prop :=
  ∃ operation, pending state.1 index = some operation ∧ operation.TakesLastOwner org state.2

def SameMembers (org : String) (before after : Database) : Prop :=
  ∀ userId, after.memberships.lookup (org, userId) = before.memberships.lookup (org, userId)

/-- Since the first step of the request, the steps of the others have left the
organization's memberships alone. -/
def Undisturbed (org : String) (start : Requests) (schedule : List Nat) (index : Nat) : Prop :=
  ∃ before window, schedule = before ++ index :: window ∧ index ∉ before ∧
    let begun := runFrom (poolStep Operation.effect) start before
    ∀ taken next, taken ++ [next] <+: index :: window → next ≠ index →
      SameMembers org (runFrom (poolStep Operation.effect) begun taken).2
        (runFrom (poolStep Operation.effect) begun (taken ++ [next])).2

/-!
## Steps
-/

section Effects

variable {org : String} {db : Database}

theorem onlyOwner_congr {after : Database} {userId : Int} (same : SameMembers org db after) :
    after.OnlyOwner org userId ↔ db.OnlyOwner org userId := by
  have lookups : ∀ userId, after.memberships.lookup (org, userId) =
      db.memberships.lookup (org, userId) := same
  simp only [Database.OnlyOwner, Database.IsOwner, lookups]

theorem effect_updateMembership_others {orgId : String} {userId : Int} (role : OrgRole)
    {key : String × Int} (outside : key ≠ (orgId, userId)) :
    ((Operation.updateMembership orgId userId role).effect db).memberships.lookup key =
      db.memberships.lookup key := by
  simp only [Operation.effect]
  split
  · exact AList.lookup_insert_ne outside
  · rfl

/-- An owner who is gone was the only one. -/
theorem ownerless_of_onlyOwner {after : Database} {userId : Int} (only : db.OnlyOwner org userId)
    (gone : ¬ after.IsOwner org userId)
    (others : ∀ key, key ≠ (org, userId) →
      after.memberships.lookup key = db.memberships.lookup key) : ¬ after.HasOwner org := by
  rintro ⟨other, owner⟩
  by_cases self : other = userId
  · exact gone (self ▸ owner)
  · unfold Database.IsOwner at owner
    rw [others _ fun same => self (congrArg Prod.snd same)] at owner
    exact self (only.2 other owner)

theorem hasOwner_congr {after : Database} (same : after.memberships = db.memberships) :
    after.HasOwner org ↔ db.HasOwner org := by
  simp only [Database.HasOwner, Database.IsOwner, same]

theorem Operation.effect_hasOwner_iff (operation : Operation) (owned : db.HasOwner org) :
    (operation.effect db).HasOwner org ↔ ¬ operation.TakesLastOwner org db := by
  cases operation with
  | read => exact iff_of_true owned id
  | updateMembership orgId userId role =>
      have others : ∀ key, key ≠ (orgId, userId) →
          ((Operation.updateMembership orgId userId role).effect db).memberships.lookup key =
            db.memberships.lookup key := fun key => effect_updateMembership_others role
      constructor
      · rintro kept ⟨rfl, lower, only⟩
        refine ownerless_of_onlyOwner only ?_ others kept
        obtain ⟨old, found, _⟩ := Option.map_eq_some_iff.mp only.1
        simp [Database.IsOwner, Operation.effect, found, lower]
      · intro spared
        by_cases asOwner : role = .owner
        · by_cases held : db.OnlyOwner orgId userId
          · by_cases here : orgId = org
            · subst here
              refine ⟨userId, ?_⟩
              obtain ⟨old, found, _⟩ := Option.map_eq_some_iff.mp held.1
              simp [Database.IsOwner, Operation.effect, found, asOwner]
            · exact owned.of_others others fun same => absurd same here
          · exact owned.of_others others fun same only => held (same ▸ only)
        · exact owned.of_others others fun same only => spared ⟨same, asOwner, only⟩
  | deleteMembership orgId userId =>
      have others : ∀ key, key ≠ (orgId, userId) →
          ((Operation.deleteMembership orgId userId).effect db).memberships.lookup key =
            db.memberships.lookup key := fun key => AList.lookup_erase_ne
      constructor
      · rintro kept ⟨rfl, only⟩
        refine ownerless_of_onlyOwner only ?_ others kept
        simp [Database.IsOwner, Operation.effect]
      · intro spared
        exact owned.of_others others fun same only => spared ⟨same, only⟩
  | putApp now key app =>
      have written := (@Database.WritesApp.putApp db key now app).trans .clearPlatforms
        |>.trans (.putPlatforms app.platforms)
      exact iff_of_true ((hasOwner_congr written.memberships_eq).mpr owned) id
  | putObject key payload => exact iff_of_true owned id
  | makeDirectory path => exact iff_of_true owned id
  | insertPatch key row => exact iff_of_true owned id

theorem poolStep_hasOwner_iff {index : Nat} {state : Requests} (owned : state.2.HasOwner org) :
    (poolStep Operation.effect index state).2.2.HasOwner org ↔ ¬ Overtaken org state index := by
  rcases ready : pending state.1 index with _ | operation
  · rw [poolStep_of_pending_none ready]
    refine iff_of_true owned ?_
    rintro ⟨operation, next, _⟩
    cases ready.symm.trans next
  · rw [poolStep_state ready, operation.effect_hasOwner_iff owned]
    simp [Overtaken, ready]

theorem SameMembers.refl (db : Database) : SameMembers org db db := fun _ => rfl

theorem SameMembers.trans {one two three : Database} (first : SameMembers org one two)
    (second : SameMembers org two three) : SameMembers org one three :=
  fun userId => (second userId).trans (first userId)

end Effects

/-!
## What the guards rely on
-/

section Guards

variable {org : String} {db : Database} {env : Environment}

attribute [local irreducible] Process.Sound

/-- As long as the others leave the organization's memberships alone. -/
abbrev Guards {α : Type} (org : String) (returns : α → Database → Prop) (steps : StoreSteps α)
    (db : Database) : Prop :=
  Steps.Sound Operation.effect (SameMembers org) (fun _ _ => True)
    (fun operation db => ¬ operation.TakesLastOwner org db) returns steps db

theorem statement_guards {α : Type} {request : Statement} {operation : Operation}
    {answer : Database → Except StoreError α} {returns : α → Database → Prop}
    (step : ∀ state, SameMembers org db state → ¬ operation.TakesLastOwner org state ∧
      ∀ value, answer state = .ok value → returns value (operation.effect state)) :
    Guards org returns (statement env request operation answer) db := by
  unfold statement
  cases env.sql request with
  | error text => exact .throw
  | ok => exact .atomic fun state same _ => step state same

theorem orgRoleForUserSteps_guards {id : String} (normal : validateOrgID id = .ok id) (userId : Int) :
    Guards org (fun role state => SameMembers org db state ∧
      (state.memberships.lookup (id, userId)).map (·.role) = some role)
      (orgRoleForUserSteps env id userId) db := by
  have read : Guards org (fun value state => value = id ∧ state = db)
      (Steps.attempt (validateOrgID id)) db := by
    refine .attempt fun value same => ⟨?_, rfl⟩
    exact Except.ok.inj (same.symm.trans normal)
  refine Steps.Sound.bind read ?_
  rintro _ _ ⟨rfl, rfl⟩
  apply statement_guards
  intro state same
  refine ⟨fun taken => taken, ?_⟩
  intro role found
  refine ⟨same, ?_⟩
  show (state.memberships.lookup _).map (·.role) = some role
  cases looked : (state.memberships.lookup (_, userId)).map (·.role) with
  | none =>
      rw [looked] at found
      cases found
  | some held =>
      rw [looked] at found
      exact congrArg some (Except.ok.inj found)

theorem keepLastOwnerSteps_guards (id : String) (losesOwner : Bool) :
    Guards org (fun _ state => SameMembers org db state ∧
      (losesOwner = true → ∃ counted, SameMembers org db counted ∧ SameMembers org counted state ∧
        1 < counted.ownerCount id))
      (keepLastOwnerSteps env id losesOwner) db := by
  unfold keepLastOwnerSteps
  split
  case isTrue =>
    have counts : Guards org (fun count state => SameMembers org db state ∧ count = state.ownerCount id)
        (statement env .countOwners .read fun db => .ok (db.ownerCount id)) db := by
      apply statement_guards
      intro state same
      refine ⟨fun taken => taken, ?_⟩
      intro count found
      exact ⟨same, (Except.ok.inj found).symm⟩
    refine Steps.Sound.bind counts ?_
    rintro _ state ⟨same, rfl⟩
    split
    case isTrue => exact .throw
    case isFalse many =>
      exact .pure ⟨same, fun _ => ⟨state, same, .refl state, Nat.lt_of_not_le many⟩⟩
  case isFalse keeps => exact .pure ⟨.refl db, fun loses => absurd loses keeps⟩

/-- After the guard, no state with the same members has the member as its only owner. -/
theorem not_onlyOwner_of_guards {id : String} {userId : Int} {currentRole : OrgRole}
    {losesOwner : Bool} {read kept : Database}
    (found : (read.memberships.lookup (id, userId)).map (·.role) = some currentRole)
    (loses : currentRole = .owner → losesOwner = true)
    (many : losesOwner = true → ∃ counted, SameMembers id read counted ∧
      SameMembers id counted kept ∧ 1 < counted.ownerCount id)
    (same : SameMembers id read kept) : ¬ kept.OnlyOwner id userId := by
  intro only
  have before := (onlyOwner_congr same).mp only
  have owner : some currentRole = some OrgRole.owner := found.symm.trans before.1
  obtain ⟨counted, here, _, count⟩ := many (loses (Option.some.inj owner))
  have few := ownerCount_of_onlyOwner ((onlyOwner_congr here).mpr before)
  exact absurd count (Nat.not_lt.mpr few)

theorem updateOrgMemberRoleSteps_guards (env : Environment) (orgId : String) (userId : Int)
    (role : String) (db : Database) :
    Guards org (fun _ _ => True) (updateOrgMemberRoleSteps env orgId userId role) db := by
  have validates : Guards org (fun id state => validateOrgID orgId = .ok id ∧ state = db)
      (Steps.attempt (validateOrgID orgId)) db := .attempt fun _ normal => ⟨normal, rfl⟩
  refine Steps.Sound.bind validates ?_
  rintro id _ ⟨normal, rfl⟩
  split
  · exact .throw
  case h_2 newRole _ =>
    refine Steps.Sound.bind (orgRoleForUserSteps_guards (validateOrgID_idem normal) userId) ?_
    rintro currentRole read ⟨_, found⟩
    refine Steps.Sound.bind (keepLastOwnerSteps_guards id _) ?_
    rintro _ kept ⟨same, many⟩
    apply statement_guards
    intro state later
    refine ⟨?_, fun _ _ => trivial⟩
    rintro ⟨rfl, lower, only⟩
    refine not_onlyOwner_of_guards found ?_ many same ((onlyOwner_congr later).mp only)
    intro current
    simp [current, lower]

theorem removeOrgMemberSteps_guards (env : Environment) (orgId : String) (userId : Int)
    (db : Database) : Guards org (fun _ _ => True) (removeOrgMemberSteps env orgId userId) db := by
  have validates : Guards org (fun id state => validateOrgID orgId = .ok id ∧ state = db)
      (Steps.attempt (validateOrgID orgId)) db := .attempt fun _ normal => ⟨normal, rfl⟩
  refine Steps.Sound.bind validates ?_
  rintro id _ ⟨normal, rfl⟩
  refine Steps.Sound.bind (orgRoleForUserSteps_guards (validateOrgID_idem normal) userId) ?_
  rintro currentRole read ⟨_, found⟩
  refine Steps.Sound.bind (keepLastOwnerSteps_guards id _) ?_
  rintro _ kept ⟨same, many⟩
  apply statement_guards
  intro state later
  refine ⟨?_, fun _ _ => trivial⟩
  rintro ⟨rfl, only⟩
  refine not_onlyOwner_of_guards found ?_ many same ((onlyOwner_congr later).mp only)
  intro current
  simp [current]

theorem MemberCall.steps_guards (call : MemberCall) (db : Database) :
    Process.Safe Operation.effect (SameMembers org) (fun _ _ => True)
      (fun operation db => ¬ operation.TakesLastOwner org db) call.steps db := by
  refine Process.Sound.mono (?_ : Guards org (fun _ _ => True) call.steps db) fun _ _ _ => trivial
  obtain ⟨env, write⟩ := call
  cases write with
  | update orgId userId role => exact updateOrgMemberRoleSteps_guards env orgId userId role db
  | remove orgId userId => exact removeOrgMemberSteps_guards env orgId userId db

end Guards

/-!
## Runs
-/

/-- A request whose organization the others leave alone is not overtaken. -/
theorem not_overtaken_of_undisturbed {org : String} {calls : List MemberCall} {db : Database}
    {schedule : List Nat} {index : Nat} (undisturbed : Undisturbed org (requests calls db) schedule index) :
    ¬ Overtaken org (runFrom (poolStep Operation.effect) (requests calls db) schedule) index := by
  obtain ⟨before, window, rfl, fresh, alone⟩ := undisturbed
  rw [runFrom_append]
  generalize reached : runFrom (poolStep Operation.effect) (requests calls db) before = begun at alone ⊢
  rintro ⟨operation, ready, taken⟩
  have here : begun.1[index]? = (calls.map (·.steps))[index]? := by
    rw [← reached, runFrom_untouched fresh]
    rfl
  rcases found : (calls.map (·.steps))[index]? with _ | steps
  · have same : (runFrom (poolStep Operation.effect) begun (index :: window)).1.length =
        (calls.map (·.steps)).length := by
      rw [runFrom_length, ← reached, runFrom_length]
      rfl
    have outside : (runFrom (poolStep Operation.effect) begun (index :: window)).1[index]? = none := by
      rw [List.getElem?_eq_none_iff] at found ⊢
      omega
    simp [pending, outside] at ready
  · obtain ⟨call, _, rfl⟩ := List.mem_map.mp (List.mem_of_getElem? found)
    obtain ⟨left, still, safe⟩ := window_invariant (fun _ => .refl _) (fun _ _ _ => .trans)
      (here.trans found) (@MemberCall.steps_guards org call begun.2) alone
    exact safe.pending (fun _ => .refl _) still ready trivial taken

theorem owner_kept_iff_not_overtaken (org : String) (db : Database) (owned : db.HasOwner org)
    (calls : List MemberCall) (schedule : List Nat) :
    ((∀ taken, taken <+: schedule →
        (runFrom (poolStep Operation.effect) (requests calls db) taken).2.HasOwner org) ↔
      Guarded (poolStep Operation.effect) (fun state index => ¬ Overtaken org state index)
        (requests calls db) schedule) ∧
    ∀ taken index, Undisturbed org (requests calls db) taken index →
      ¬ Overtaken org (runFrom (poolStep Operation.effect) (requests calls db) taken) index := by
  refine ⟨?_, fun _ _ => not_overtaken_of_undisturbed⟩
  have held : (requests calls db).2.HasOwner org := owned
  exact kept_iff_guarded (fun state : Requests => state.2.HasOwner org)
    (fun _ _ owned => poolStep_hasOwner_iff owned) held

/-!
## Two owners
-/

/-- The organization has two owners, users 1 and 2. -/
def twoOwners : Database :=
  let row := { role := .owner, createdAt := 0 }
  { acmeDatabase with memberships := (acmeDatabase.memberships.insert ("acme", 1) row).insert ("acme", 2) row }

/-- Each of the two is removed. -/
def removals : List MemberCall :=
  [{ env := sampleEnv "", write := .remove "acme" 1 }, { env := sampleEnv "", write := .remove "acme" 2 }]

theorem twoOwners_hasOwner : twoOwners.HasOwner "acme" := by
  refine ⟨1, ?_⟩
  unfold Database.IsOwner
  decide

/-- Both requests read the roles before either writes, and the second counts the owners after the
first has written: it is refused. -/
theorem first_removal_keeps_owner :
    twoOwners.HasOwner "acme" ∧ ∀ taken, taken <+: [0, 1, 0, 0, 1, 1] →
      (runFrom (poolStep Operation.effect) (requests removals twoOwners) taken).2.HasOwner "acme" := by
  refine ⟨twoOwners_hasOwner, ?_⟩
  refine (owner_kept_iff_not_overtaken "acme" twoOwners twoOwners_hasOwner removals
    [0, 1, 0, 0, 1, 1]).1.mpr ?_
  refine ⟨?reads, ?readsToo, ?counts, ?removes, ?countsOne, ?refused, trivial⟩
  case reads | readsToo | counts | countsOne =>
    rintro ⟨operation, ready, takes⟩
    cases ready
    exact takes
  case removes =>
    rintro ⟨operation, ready, takes⟩
    cases ready
    have two : twoOwners.ownerCount "acme" = 2 := by decide
    have few : twoOwners.ownerCount "acme" ≤ 1 := ownerCount_of_onlyOwner takes.2
    omega
  case refused =>
    rintro ⟨operation, ready, takes⟩
    cases ready

/-- Both requests count two owners before either writes. -/
theorem concurrent_removals_leave_no_owner :
    ¬ ∀ (org : String) (db : Database), db.HasOwner org → ∀ (calls : List MemberCall) (schedule : List Nat),
      (runFrom (poolStep Operation.effect) (requests calls db) schedule).2.HasOwner org := by
  intro kept
  obtain ⟨userId, owner⟩ := kept "acme" twoOwners twoOwners_hasOwner removals [0, 1, 0, 1, 0, 1]
  obtain ⟨row, stored, owns⟩ := isOwner_iff_mem.mp owner
  have ownerless : ∀ entry ∈ (runFrom (poolStep Operation.effect) (requests removals twoOwners)
      [0, 1, 0, 1, 0, 1]).2.memberships.entries, entry.1.1 = "acme" → entry.2.role ≠ .owner := by
    decide
  exact ownerless _ stored rfl owns

end CodePush.Server
