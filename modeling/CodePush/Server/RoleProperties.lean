import CodePush.Server.StoreProperties
import CodePush.Foundation.Runs

/-!
# Who may change roles

Three of the routes that write memberships ask for an owner first. The fourth
creates an organization, and its insert also updates one that exists.
-/

set_option autoImplicit false

namespace CodePush.Server

open CodePush.Core CodePush.Foundation CodePush.Foundation.Action

namespace Database

def Exists (db : Database) (org : String) : Prop := (db.organizations.lookup org).isSome = true

def IsOwner (db : Database) (org : String) (userId : Int) : Prop :=
  (db.memberships.lookup (org, userId)).map (·.role) = some .owner

/-- Zero without a membership. -/
def rank (db : Database) (org : String) (userId : Int) : Nat :=
  ((db.memberships.lookup (org, userId)).map fun member => roleRank member.role).getD 0

end Database

/-!
## Handlers
-/

theorem userHasOrgRole_ensures (env : Environment) (orgId : String) (userId : Int)
    (minRole : OrgRole) (db : Database) :
    Ensures (userHasOrgRole env orgId userId minRole) db
      (fun allowed after => after = db ∧ (allowed = true → ∃ id role, validateOrgID orgId = .ok id ∧
        (db.memberships.lookup (id, userId)).map (·.role) = some role ∧
        roleRank minRole ≤ roleRank role))
      (fun _ after => after = db) := by
  have read := orgRoleForUser_ensures env orgId userId db
  unfold Ensures userHasOrgRole
  rcases ended : orgRoleForUser env orgId userId db with ⟨error | role, after⟩
  · have same : after = db := read.of_error ended
    dsimp only
    cases notFound error with
    | true =>
        refine ⟨same, ?_⟩
        intro allowed
        cases allowed
    | false => exact same
  · obtain ⟨same, id, normal, found⟩ := read.of_ok ended
    refine ⟨same, ?_⟩
    intro allowed
    exact ⟨id, role, normal, found, of_decide_eq_true allowed⟩

theorem requireOrgRole_ensures (env : Environment) (org : String) (minRole : OrgRole)
    (userId : Int) (db : Database) :
    Ensures (requireOrgRole env org minRole userId) db
      (fun _ after => after = db ∧ ∃ id role, validateOrgID org = .ok id ∧
        (db.memberships.lookup (id, userId)).map (·.role) = some role ∧
        roleRank minRole ≤ roleRank role)
      (fun _ after => after = db) := by
  unfold requireOrgRole
  split
  · exact ensures_throw rfl
  apply ensures_bind
  apply answering_ensures
  refine (userHasOrgRole_ensures env org userId minRole db).mono ?_ (fun _ _ same => same)
  intro allowed after checked
  cases allowed with
  | false => exact ensures_throw checked.1
  | true => exact ensures_pure ⟨checked.1, checked.2 rfl⟩

theorem owner_of_roleRank {role : OrgRole} (high : roleRank .owner ≤ roleRank role) :
    role = .owner := by
  cases role with
  | owner => rfl
  | admin => simp [roleRank] at high
  | member => simp [roleRank] at high

theorem memberId_ensures (text : String) (db : Database) :
    Ensures (memberId text) db (fun _ after => after = db) (fun _ after => after = db) := by
  unfold memberId
  split
  · split
    · exact ensures_throw rfl
    · exact ensures_pure rfl
  · exact ensures_throw rfl

theorem requireSession_ensures (env : Environment) (cookie : String) (db : Database) :
    Ensures (requireSession env cookie) db
      (fun _ after => after = db) (fun _ after => after.memberships = db.memberships) := by
  unfold requireSession
  split
  · exact ensures_throw rfl
  apply ensures_bind
  apply answering_ensures
  refine ensures_bind (exec_ensures ?_ (fun _ => rfl))
  refine ensures_bind (ensures_get ?_)
  refine ensures_bind (row_ensures (fun session _ => ?_) rfl)
  refine ensures_bind (row_ensures (fun user _ => ?_) rfl)
  apply ensures_pure
  split
  · apply ensures_bind
    exact ensures_ignore (ensures_throw rfl) (ensures_throw rfl)
  · exact ensures_pure rfl

/-- Every change of a membership in an organization that exists was made by one of
its owners. -/
def OwnersDecide (before after : Database) (userId : Int) : Prop :=
  ∀ org member, after.memberships.lookup (org, member) ≠ before.memberships.lookup (org, member) →
    before.Exists org → before.IsOwner org userId

namespace OwnersDecide

variable {before after : Database} {userId : Int}

theorem of_memberships (same : after.memberships = before.memberships) :
    OwnersDecide before after userId := by
  intro org member changed
  rw [same] at changed
  exact absurd rfl changed

theorem of_withinOrg {id : String} (owner : before.IsOwner id userId)
    (within : before.WithinOrg after id) : OwnersDecide before after userId := by
  intro org member changed _
  by_cases same : org = id
  · rw [same]
    exact owner
  · exact absurd (within org member same) changed

end OwnersDecide

/-- The organization that a create request asks for. -/
def AdminRequest.creates (request : AdminRequest) (id : String) : Prop :=
  ∃ org, request = .createOrg (.ok org) ∧ validateOrgID org.id = .ok id

theorem adminCreateOrg_ensures (env : Environment) (userId : Int)
    (body : Except String OrganizationBody) (db : Database)
    (allowed : ∀ id, (AdminRequest.createOrg body).creates id → db.Exists id → db.IsOwner id userId) :
    Ensures (adminCreateOrg env userId body) db (fun _ after => OwnersDecide db after userId)
      (fun _ after => OwnersDecide db after userId) := by
  apply ensures_bind
  apply parsedBody_ensures
  case failed =>
    intro _ _
    exact .of_memberships rfl
  intro org parsed
  apply ensures_bind
  apply answering_ensures
  refine (putOrganization_ensures env org db).mono ?_ (fun _ _ same => .of_memberships (by rw [same]))
  intro _ put same
  apply ensures_bind
  apply answering_ensures
  refine (addOrgMember_ensures env org.id _ put).mono ?_ (fun _ _ kept => .of_memberships (by rw [kept, same]))
  intro _ after added
  apply ensures_pure
  obtain ⟨id, creator, normal, requested, others⟩ := added
  intro organization member changed existed
  -- The only membership that differs is the creator's own, in the organization asked for.
  have key : (organization, member) = (id, creator) := by
    by_contra other
    rw [others _ other, same] at changed
    exact changed rfl
  cases key
  exact allowed id ⟨org, by rw [parsed], normal⟩ existed

/-- A handler that an owner's role guards, and that stays within the organization. -/
theorem ownerRoute_ensures {env : Environment} {org : String} {userId : Int} {db : Database}
    {route : Handler Reply}
    (within : Ensures route db
      (fun _ after => ∃ id, validateOrgID org = .ok id ∧ db.WithinOrg after id)
      (fun _ after => after = db)) :
    Ensures (do
      requireOrgRole env org .owner userId
      route) db (fun _ after => OwnersDecide db after userId)
      (fun _ after => OwnersDecide db after userId) := by
  apply ensures_bind
  refine (requireOrgRole_ensures env org .owner userId db).mono ?_ ?_
  · intro _ checked passed
    obtain ⟨same, id, role, normal, found, high⟩ := passed
    subst same
    have owner : checked.IsOwner id userId := by
      rw [owner_of_roleRank high] at found
      exact found
    refine within.mono ?_ (fun _ _ same => .of_memberships (by rw [same]))
    intro _ after written
    obtain ⟨id', normal', inside⟩ := written
    cases normal.symm.trans normal'
    exact .of_withinOrg owner inside
  · intro _ after same
    exact .of_memberships (by rw [same])

theorem adminAddOrgMember_ensures (env : Environment) (org : String)
    (body : Except String OrgMemberRequest) (db : Database) :
    Ensures (adminAddOrgMember env org body) db
      (fun _ after => ∃ id, validateOrgID org = .ok id ∧ db.WithinOrg after id)
      (fun _ after => after = db) := by
  apply ensures_bind
  refine parsedBody_ensures ?_ (fun _ _ => rfl)
  intro request _
  apply ensures_bind
  apply answering_ensures
  refine (addOrgMember_ensures env org request db).mono ?_ (fun _ _ same => same)
  intro _ after added
  obtain ⟨id, userId, normal, _, others⟩ := added
  apply ensures_pure
  refine ⟨id, normal, ?_⟩
  intro other member outside
  exact others _ (fun same => outside (congrArg Prod.fst same))

theorem adminUpdateOrgMember_ensures (env : Environment) (org userId : String)
    (body : Except String String) (db : Database) :
    Ensures (adminUpdateOrgMember env org userId body) db
      (fun _ after => ∃ id, validateOrgID org = .ok id ∧ db.WithinOrg after id)
      (fun _ after => after = db) := by
  apply ensures_bind
  refine (memberId_ensures userId db).mono ?_ (fun _ _ same => same)
  intro member read same
  subst same
  apply ensures_bind
  refine parsedBody_ensures ?_ (fun _ _ => rfl)
  intro role _
  apply ensures_bind
  apply answering_ensures
  refine (updateOrgMemberRole_ensures env org member role read).mono ?_ (fun _ _ same => same)
  intro _ after written
  exact ensures_pure written

theorem adminRemoveOrgMember_ensures (env : Environment) (org userId : String) (db : Database) :
    Ensures (adminRemoveOrgMember env org userId) db
      (fun _ after => ∃ id, validateOrgID org = .ok id ∧ db.WithinOrg after id)
      (fun _ after => after = db) := by
  apply ensures_bind
  refine (memberId_ensures userId db).mono ?_ (fun _ _ same => same)
  intro member read same
  subst same
  apply ensures_bind
  apply answering_ensures
  refine (removeOrgMember_ensures env org member read).mono ?_ (fun _ _ same => same)
  intro _ after written
  exact ensures_pure written

theorem adminListOrgs_ensures (env : Environment) (userId : Int) (db : Database) :
    Ensures (adminListOrgs env userId) db (fun _ after => after = db) (fun _ after => after = db) := by
  apply ensures_bind
  apply answering_ensures
  refine ensures_bind (exec_ensures ?_ (fun _ => rfl))
  refine ensures_bind (ensures_get ?_)
  exact ensures_pure (ensures_pure rfl)

theorem adminListOrgMembers_ensures (env : Environment) (org : String) (db : Database) :
    Ensures (adminListOrgMembers env org) db (fun _ after => after = db)
      (fun _ after => after = db) := by
  apply ensures_bind
  apply answering_ensures
  refine ensures_bind (ensures_attempt (fun id _ => ?_) (fun _ _ => rfl))
  refine ensures_bind (exec_ensures ?_ (fun _ => rfl))
  refine ensures_bind (ensures_get ?_)
  exact ensures_pure (ensures_pure rfl)

theorem handleAdmin_ensures (env : Environment) (userId : Int) (request : AdminRequest)
    (db : Database)
    (allowed : ∀ id, request.creates id → db.Exists id → db.IsOwner id userId) :
    Ensures (handleAdmin env userId request) db (fun _ after => OwnersDecide db after userId)
      (fun _ after => OwnersDecide db after userId) := by
  have reads : ∀ (error : Bool) (after : Database), after = db → OwnersDecide db after userId :=
    fun _ after same => .of_memberships (by rw [same])
  cases request with
  | listOrgs =>
      exact (adminListOrgs_ensures env userId db).mono (fun _ => reads true) (fun _ => reads false)
  | createOrg body => exact adminCreateOrg_ensures env userId body db allowed
  | listMembers org =>
      apply ensures_bind
      refine (requireOrgRole_ensures env org .member userId db).mono ?_ (fun _ => reads false)
      intro _ checked passed
      rw [passed.1]
      exact (adminListOrgMembers_ensures env org db).mono (fun _ => reads true) (fun _ => reads false)
  | addMember org body => exact ownerRoute_ensures (adminAddOrgMember_ensures env org body db)
  | updateMember org member body =>
      exact ownerRoute_ensures (adminUpdateOrgMember_ensures env org member body db)
  | removeMember org member => exact ownerRoute_ensures (adminRemoveOrgMember_ensures env org member db)

/-!
## Runs
-/

/-- The user that a request is made by, as `requireSession` finds it. -/
def caller (env : Environment) (cookie : String) (db : Database) : Option Int :=
  (requireSession env cookie db).1.toOption

/-- An admin request to create an organization that exists comes from one of its owners. -/
def CreatesOwnOrNew (db : Database) (call : Call) : Prop :=
  ∀ cookie request userId id, call.request = .admin cookie request →
    caller call.env cookie db = some userId → request.creates id → db.Exists id →
    db.IsOwner id userId

/-- The role of a user in an organization that exists was created or raised. -/
def Escalates (before after : Database) (org : String) (member : Int) : Prop :=
  before.Exists org ∧ before.rank org member < after.rank org member

theorem serve_admin_ensures {call : Call} {db : Database} {cookie : String}
    {request : AdminRequest} (asked : call.request = .admin cookie request)
    (allowed : CreatesOwnOrNew db call) :
    (serve call db).2.memberships = db.memberships ∨
      ∃ userId, caller call.env cookie db = some userId ∧
        OwnersDecide db (serve call db).2 userId := by
  unfold serve
  rw [asked]
  apply Ensures.finally fun after => after.memberships = db.memberships ∨
    ∃ userId, caller call.env cookie db = some userId ∧ OwnersDecide db after userId
  apply ensures_bind
  refine ((requireSession_ensures call.env cookie db).and (ensures_self _ _)).mono ?_
    (fun _ _ failed => .inl failed.1)
  intro userId after found
  obtain ⟨same, ended⟩ := found
  subst same
  have called : caller call.env cookie after = some userId := by
    simp [caller, ended, Except.toOption]
  refine (handleAdmin_ensures call.env userId request after ?_).mono ?_ ?_
  · intro id creates
    exact allowed cookie request userId id asked called creates
  · intro _ _ decided
    exact .inr ⟨userId, called, decided⟩
  · intro _ _ decided
    exact .inr ⟨userId, called, decided⟩

/-- A raised role is a changed membership. -/
theorem Escalates.changed {before after : Database} {org : String} {member : Int}
    (raised : Escalates before after org member) :
    after.memberships.lookup (org, member) ≠ before.memberships.lookup (org, member) := by
  intro same
  have higher := raised.2
  unfold Database.rank at higher
  rw [same] at higher
  exact Nat.lt_irrefl _ higher

/-- In a run whose create requests come from owners or name new organizations, an
admin request raises a role in an existing organization only if its caller owns it. -/
theorem roles_raised_only_by_owners (db : Database) (calls : List Call)
    (allowed : Guarded serve CreatesOwnOrNew db calls) (before after : List Call) (call : Call)
    (split : calls = before ++ call :: after) (cookie : String) (request : AdminRequest)
    (asked : call.request = .admin cookie request) (org : String) (member : Int) :
    let reached := runFrom serve db before
    Escalates reached (serve call reached).2 org member →
      ∃ userId, caller call.env cookie reached = some userId ∧ reached.IsOwner org userId := by
  intro reached raised
  rw [split] at allowed
  have here : CreatesOwnOrNew reached call := (guarded_append.mp allowed).2.1
  rcases serve_admin_ensures asked here with same | ⟨userId, called, decided⟩
  · exact absurd (by rw [same]) raised.changed
  · exact ⟨userId, called, decided org member raised.changed raised.1⟩

/-!
## Two users
-/

def samplePassword : String × String :=
  ("correct horse", "$2a$10$N9qo8uLOickgx2ZMRZoMye7hLCKuEIm4BcKHuoCJsBy/5Q0NErxWS")

/-- Random tokens and their SHA-256. -/
def setupToken : String × String :=
  ("aOphhbN4WE_xEZjAthOCawILVR2vTaU9hd22kpsQnCo",
    "998b40a9ce37da0408ea74dde83e823a2e78512ec6f8268db0fe964c40468e4d")

def userToken : String × String :=
  ("nsl-C7itlNDRPNmvSxAHw_YMWkH0n70GGvRQMuvqjG4",
    "fc7f45473a52954588e5d4710e9061accffc476a432d34cf5eae2ccf6d7e5b9d")

/-- The libraries at the inputs below; the two tokens differ in their first letter. -/
def sampleEnv (token : String) : Environment where
  now := 0
  sha256Hex := fun bytes => if bytes.head? = some 97 then setupToken.2 else userToken.2
  decodeBase64 := fun _ => none
  generateFromPassword := fun _ => .ok samplePassword.2
  compareHashAndPassword := fun _ password => decide (password = samplePassword.1)
  randomToken := .ok token
  sql := fun _ => .ok ()
  sqlAgain := fun _ => .ok ()
  storageKind := .s3
  storage := fun _ => .ok ()
  failedPut := .nothing

def sampleCall (token : String) (request : Request) : Call where
  env := sampleEnv token
  request := request

/-- The first user sets the server up, a second one is added, and one of them logs in. -/
def sampleHistory (username : String) : List Call :=
  [sampleCall setupToken.1 (.setup (.ok
      { username := "admin", password := samplePassword.1, tokenName := "" })),
    sampleCall "" (.operatorAddsUser { username := "reader", passwordHash := samplePassword.2 }),
    sampleCall userToken.1 (.login (.ok { username, password := samplePassword.1 }))]

def sampleDatabase (username : String) : Database :=
  runFrom serve (Database.migrated 0) (sampleHistory username)

def createAcme : Call :=
  sampleCall "" (.admin userToken.1 (.createOrg (.ok { id := "acme", name := "Acme" })))

def addReader : Call :=
  sampleCall "" (.admin userToken.1 (.addMember "acme" (.ok
    { username := "reader", userId := 0, role := "member" })))

/-- The owner of a new organization adds a member. -/
theorem sample_role_raised_by_owner :
    Escalates (runFrom serve (sampleDatabase "admin") [createAcme])
      (serve addReader (runFrom serve (sampleDatabase "admin") [createAcme])).2 "acme" 2 ∧
    ∃ userId, caller (sampleEnv "") userToken.1 (runFrom serve (sampleDatabase "admin") [createAcme]) = some userId ∧
      (runFrom serve (sampleDatabase "admin") [createAcme]).IsOwner "acme" userId := by
  have raised : Escalates (runFrom serve (sampleDatabase "admin") [createAcme])
      (serve addReader (runFrom serve (sampleDatabase "admin") [createAcme])).2 "acme" 2 := by
    unfold Escalates Database.Exists
    decide
  have allowed : Guarded serve CreatesOwnOrNew (sampleDatabase "admin") [createAcme, addReader] := by
    refine ⟨?_, ?_, trivial⟩
    · intro cookie request userId id asked _ creates existed
      cases asked
      obtain ⟨org, named, normal⟩ := creates
      cases named
      have id_eq : id = "acme" := by
        have checked : validateOrgID "acme" = .ok "acme" := by decide
        exact (Except.ok.inj (checked.symm.trans normal)).symm
      subst id_eq
      have absent : ((sampleDatabase "admin").organizations.lookup "acme").isSome = false := by decide
      exact absurd (absent.symm.trans existed) Bool.false_ne_true
    · intro cookie request userId id asked _ creates
      cases asked
      obtain ⟨org, named, _⟩ := creates
      cases named
  exact ⟨raised, roles_raised_only_by_owners (sampleDatabase "admin") [createAcme, addReader] allowed
    [createAcme] [] addReader rfl userToken.1 _ rfl "acme" 2 raised⟩

def createUnnamed : Call :=
  sampleCall "" (.admin userToken.1 (.createOrg (.ok { id := "", name := "" })))

/-- A user without any membership creates the organization with no id, and owns
the default organization. -/
theorem create_org_seizes_default :
    ¬ ∀ (calls before after : List Call) (call : Call) (cookie : String) (request : AdminRequest)
        (org : String) (member : Int),
      calls = before ++ call :: after → call.request = .admin cookie request →
      let reached := runFrom serve (Database.migrated 0) before
      Escalates reached (serve call reached).2 org member →
      ∃ userId, caller call.env cookie reached = some userId ∧ reached.IsOwner org userId := by
  intro secure
  have raised : Escalates (sampleDatabase "reader") (serve createUnnamed (sampleDatabase "reader")).2 defaultOrgID 2 := by
    unfold Escalates Database.Exists
    decide
  have owned : ∃ userId, caller (sampleEnv "") userToken.1 (sampleDatabase "reader") = some userId ∧
      (sampleDatabase "reader").IsOwner defaultOrgID userId :=
    secure ((sampleHistory "reader") ++ [createUnnamed]) (sampleHistory "reader") [] createUnnamed userToken.1
      (.createOrg (.ok { id := "", name := "" })) defaultOrgID 2 rfl rfl raised
  obtain ⟨userId, called, owner⟩ := owned
  have reader : caller (sampleEnv "") userToken.1 (sampleDatabase "reader") = some 2 := by decide
  cases reader.symm.trans called
  unfold Database.IsOwner at owner
  revert owner
  decide

end CodePush.Server
