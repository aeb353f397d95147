import CodePush.Foundation.Interleaving
import CodePush.Server.Patches

/-!
# Requests in atomic steps

The store operations whose statements may interleave with those of other requests.
A statement, a transaction and a call of the storage are one step each. Alone, each
operation is the one that its request runs.
-/

set_option autoImplicit false

namespace CodePush.Server

open CodePush.Core CodePush.Foundation

/-- What a step does to the tables and the storage. -/
inductive Operation where
  | read
  | updateMembership (orgId : String) (userId : Int) (role : OrgRole)
  | deleteMembership (orgId : String) (userId : Int)
  | putApp (now : Nat) (key : String × String) (app : App)
  | putObject (key : String) (payload : Bytes)
  | makeDirectory (path : String)
  | insertPatch (key : PatchKey) (row : PatchRow)

def Operation.effect : Operation → Database → Database
  | .read, db => db
  | .updateMembership orgId userId role, db =>
      match db.memberships.lookup (orgId, userId) with
      | some old => { db with memberships := db.memberships.insert (orgId, userId) { old with role } }
      | none => db
  | .deleteMembership orgId userId, db =>
      { db with memberships := db.memberships.erase (orgId, userId) }
  | .putApp now key app, db =>
      app.platforms.foldl (fun db entry => db.putPlatform key entry)
        ((db.putApp now key app).clearPlatforms key)
  | .putObject key payload, db => db.withObject key payload
  | .makeDirectory path, db => db.withDirectory path
  | .insertPatch key row, db => { db with patches := db.patches.insert key row }

abbrev StoreSteps (α : Type) := Steps Operation StoreError Database α

/-- A statement that fails does nothing. -/
def statement {α : Type} (env : Environment) (statement : Statement) (operation : Operation)
    (answer : Database → Except StoreError α) : StoreSteps α :=
  match env.sql statement with
  | .ok _ => Steps.atomic operation answer
  | .error text => throw (.message text)

/-- `Scan` of the first row, or `RowsAffected` that must not be zero. -/
def firstRow {α : Type} : Option α → Except StoreError α
  | some value => .ok value
  | none => .error .noRows

/-!
## Members
-/

def orgRoleForUserSteps (env : Environment) (orgId : String) (userId : Int) : StoreSteps OrgRole := do
  let orgId ← Steps.attempt (validateOrgID orgId)
  statement env .selectRole .read fun db =>
    firstRow ((db.memberships.lookup (orgId, userId)).map (·.role))

def keepLastOwnerSteps (env : Environment) (orgId : String) (losesOwner : Bool) : StoreSteps Unit :=
  if losesOwner then do
    let count ← statement env .countOwners .read fun db => .ok (db.ownerCount orgId)
    if count ≤ 1 then throw (.message "cannot remove the last owner") else pure ()
  else pure ()

def updateOrgMemberRoleSteps (env : Environment) (orgId : String) (userId : Int) (role : String) :
    StoreSteps Unit := do
  let orgId ← Steps.attempt (validateOrgID orgId)
  match normalizeOrgRole role with
  | none => throw (.message "invalid org role")
  | some role => do
      let currentRole ← orgRoleForUserSteps env orgId userId
      keepLastOwnerSteps env orgId (decide (currentRole = .owner ∧ role ≠ .owner))
      statement env .updateMembership (.updateMembership orgId userId role) fun db =>
        (firstRow (db.memberships.lookup (orgId, userId))).map fun _ => ()

def removeOrgMemberSteps (env : Environment) (orgId : String) (userId : Int) : StoreSteps Unit := do
  let orgId ← Steps.attempt (validateOrgID orgId)
  let currentRole ← orgRoleForUserSteps env orgId userId
  keepLastOwnerSteps env orgId (decide (currentRole = .owner))
  statement env .deleteMembership (.deleteMembership orgId userId) fun db =>
    (firstRow (db.memberships.lookup (orgId, userId))).map fun _ => ()

/-!
## Alone
-/

section Alone

variable {env : Environment}

theorem run_statement {α : Type} {request : Statement} {operation : Operation}
    {answer : Database → Except StoreError α} (db : Database) :
    Steps.run Operation.effect (statement env request operation answer) db =
      match exec env request db with
      | (.ok _, db) => (answer db, operation.effect db)
      | (.error error, db) => (.error error, db) := by
  unfold statement exec
  cases env.sql request with
  | error text => rfl
  | ok => rfl

theorem orgRoleForUserSteps_run (orgId : String) (userId : Int) :
    Steps.run Operation.effect (orgRoleForUserSteps env orgId userId) =
      orgRoleForUser env orgId userId := by
  unfold orgRoleForUserSteps orgRoleForUser
  rw [Steps.run_bind]
  refine congrArg (Bind.bind _) (funext fun id => funext fun db => ?_)
  rw [run_statement, Action.run_bind]
  rcases exec env .selectRole db with ⟨error | _, after⟩
  · rfl
  · show (firstRow ((after.memberships.lookup (id, userId)).map (·.role)), after) =
      (row (after.memberships.lookup (id, userId)) >>= fun member => pure member.role :
        StoreOp OrgRole) after
    cases after.memberships.lookup (id, userId) with
    | none => rfl
    | some member => rfl

theorem keepLastOwnerSteps_run (orgId : String) (losesOwner : Bool) :
    Steps.run Operation.effect (keepLastOwnerSteps env orgId losesOwner) =
      keepLastOwner env orgId losesOwner := by
  unfold keepLastOwnerSteps keepLastOwner
  split
  · rw [Steps.run_bind]
    funext db
    rw [Action.run_bind, Action.run_bind, run_statement, orgOwnerCount, Action.run_bind]
    rcases exec env .countOwners db with ⟨error | _, after⟩
    · rfl
    · show Steps.run Operation.effect (ite _ _ _) after = (ite _ _ _ : StoreOp Unit) after
      split
      · rfl
      · rfl
  · rfl

/-- The write of a request, alone. -/
theorem writeSteps_run {request : Statement} {operation : Operation} {orgId : String} {userId : Int}
    {write : MembershipRow → Database → Database}
    (writes : ∀ db old, db.memberships.lookup (orgId, userId) = some old →
      operation.effect db = write old db)
    (idle : ∀ db, db.memberships.lookup (orgId, userId) = none → operation.effect db = db) :
    Steps.run Operation.effect (statement env request operation fun db =>
        (firstRow (db.memberships.lookup (orgId, userId))).map fun _ => ()) =
      (do
        exec env request
        let old ← row ((← get).memberships.lookup (orgId, userId))
        modify (write old)) := by
  funext db
  rw [run_statement, Action.run_bind]
  rcases exec env request db with ⟨error | _, after⟩
  · rfl
  · show ((firstRow (after.memberships.lookup (orgId, userId))).map fun _ => (), operation.effect after) =
      (row (after.memberships.lookup (orgId, userId)) >>= fun old => modify (write old) :
        StoreOp PUnit) after
    rcases found : after.memberships.lookup (orgId, userId) with _ | old
    · rw [idle after found]
      rfl
    · rw [writes after old found]
      rfl

theorem updateOrgMemberRoleSteps_run (orgId : String) (userId : Int) (role : String) :
    Steps.run Operation.effect (updateOrgMemberRoleSteps env orgId userId role) =
      updateOrgMemberRole env orgId userId role := by
  unfold updateOrgMemberRoleSteps updateOrgMemberRole
  rw [Steps.run_bind]
  refine congrArg (Bind.bind _) (funext fun id => ?_)
  cases normalizeOrgRole role with
  | none => rfl
  | some role =>
      dsimp only
      rw [Steps.run_bind, orgRoleForUserSteps_run]
      refine congrArg (Bind.bind _) (funext fun currentRole => ?_)
      rw [Steps.run_bind, keepLastOwnerSteps_run]
      refine congrArg (Bind.bind _) (funext fun _ => writeSteps_run ?_ ?_)
      · intro db old found
        simp [Operation.effect, found]
      · intro db absent
        simp [Operation.effect, absent]

theorem removeOrgMemberSteps_run (orgId : String) (userId : Int) :
    Steps.run Operation.effect (removeOrgMemberSteps env orgId userId) =
      removeOrgMember env orgId userId := by
  unfold removeOrgMemberSteps removeOrgMember
  rw [Steps.run_bind]
  refine congrArg (Bind.bind _) (funext fun id => ?_)
  rw [Steps.run_bind, orgRoleForUserSteps_run]
  refine congrArg (Bind.bind _) (funext fun currentRole => ?_)
  rw [Steps.run_bind, keepLastOwnerSteps_run]
  refine congrArg (Bind.bind _) (funext fun _ => writeSteps_run ?_ ?_)
  · intro db old _
    rfl
  · intro db absent
    have missing : (id, userId) ∉ db.memberships.keys := AList.lookup_eq_none.mp absent
    have same : db.memberships.erase (id, userId) = db.memberships :=
      AList.ext (List.kerase_of_notMem_keys missing)
    rw [Operation.effect, same]

end Alone

end CodePush.Server
