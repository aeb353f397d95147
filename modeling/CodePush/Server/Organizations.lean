import CodePush.Core.Manifest
import CodePush.Foundation.Effects

/-!
# Organizations, members and sessions of the server

The tables and handlers behind `/api/auth` and `/api/admin/orgs`, as in
`server/auth.go`, `server/handlers.go` and `server/store.go`. Every SQL statement
may fail; a failed request keeps the writes it made before. Foreign keys are not
enforced on the server's connection.
-/

set_option autoImplicit false

namespace CodePush.Server

open CodePush.Core CodePush.Foundation

/-!
## Tables
-/

inductive OrgRole where
  | member | admin | owner
  deriving Repr, DecidableEq

structure User where
  username : String
  passwordHash : String
  deriving Repr, DecidableEq

/-- `expiresAt` is `none` where the stored text is not a time. -/
structure SessionRow where
  userId : Int
  expiresAt : Option Nat
  deriving Repr, DecidableEq

structure OrganizationRow where
  name : String
  createdAt : Nat
  deriving Repr, DecidableEq

structure MembershipRow where
  role : OrgRole
  createdAt : Nat
  deriving Repr, DecidableEq

/-- A token's number is its place in the table: rows are only ever added. -/
structure CliToken where
  orgId : String
  name : String
  tokenHash : String
  createdAt : Nat
  revokedAt : Option Nat
  deriving Repr, DecidableEq

structure AppRow where
  name : String
  channel : String
  publicKey : String
  createdAt : Nat
  updatedAt : Nat
  deriving Repr, DecidableEq

structure PlatformRow where
  enabled : Bool
  backend : String
  deriving Repr, DecidableEq

structure ReleaseKey where
  orgId : String
  appId : String
  releaseVersion : String
  platform : String
  arch : String
  deriving Repr, DecidableEq

structure ReleaseRow where
  channel : String
  backend : String
  artifactHash : String
  artifactSize : UInt64
  manifestJson : Json
  createdAt : Nat
  deriving Repr

structure PatchKey where
  orgId : String
  appId : String
  releaseVersion : String
  platform : String
  arch : String
  patchNumber : Int64
  deriving Repr, DecidableEq

structure PatchRow where
  channel : String
  activeChannel : Option String
  activeRollout : Int64
  active : Bool
  payloadKey : String
  payloadHash : String
  manifestJson : Json
  deriving Repr

/-- Tables are keyed by their primary keys; the tables of an app's platforms start
with its organization and its id. The events that devices report are left out. The
storage of payloads is among the tables; it has the directories above its objects, and
those that a failed upload has made. -/
structure Database where
  users : AList (fun _ : Int => User)
  sessions : AList (fun _ : String => SessionRow)
  organizations : AList (fun _ : String => OrganizationRow)
  memberships : AList (fun _ : String × Int => MembershipRow)
  cliTokens : List CliToken
  apps : AList (fun _ : String × String => AppRow)
  platforms : AList (fun _ : (String × String) × String => PlatformRow)
  abis : AList (fun _ : (String × String) × String × String => Nat)
  releases : AList (fun _ : ReleaseKey => ReleaseRow)
  patches : AList (fun _ : PatchKey => PatchRow)
  objects : AList (fun _ : String => Bytes)
  directories : List String

def defaultOrgID : String := "default"

/-- A new database after the migrations. -/
def Database.migrated (now : Nat) : Database where
  users := ∅
  sessions := ∅
  organizations := (∅ : AList fun _ : String => OrganizationRow).insert defaultOrgID
    { name := "Default", createdAt := now }
  memberships := ∅
  cliTokens := []
  apps := ∅
  platforms := ∅
  abis := ∅
  releases := ∅
  patches := ∅
  objects := ∅
  directories := []

/-!
## Statements
-/

inductive Statement where
  | countUsers | insertUser | selectUser | selectSession | insertSession | deleteSession
  | selectOrganization | selectOrganizations | insertOrganization
  | selectRole | countOwners | selectMembers | insertMembership | updateMembership
  | deleteMembership | selectTokens | insertToken | revokeToken | begin | commit
  | selectApp | selectApps | selectPlatforms | selectAbis | insertApp | deleteAbis | deletePlatforms
  | insertPlatform | insertAbi | deletePatches | deleteReleases | deleteEvents | deleteApp
  | selectReleases | insertRelease | selectPatch | selectPatches | insertPatch
  deriving Repr, DecidableEq

inductive StorageCall where
  | get (key : String)
  | put (key : String)
  deriving Repr, DecidableEq

inductive StoreError where
  | noRows
  | message (text : String)
  deriving Repr, DecidableEq

def StoreError.text : StoreError → String
  | .noRows => "sql: no rows in result set"
  | .message text => text

def notFound (error : StoreError) : Bool := decide (error = .noRows)

/-- The file system's errors for a path below a file and for reading a directory name
the path. -/
inductive StorageKind where
  | localFS (notDirectory isDirectory : String → String)
  | s3

/-- What a `Put` has done that reports an error. -/
inductive PutLeft where
  | nothing
  | directory (path : String)
  | object
  deriving Repr, DecidableEq

/-- The clock, the libraries and the outcome of each statement and each call of the
storage, during one request. A request may read an app twice; `sqlAgain` has the outcomes
of the second time. -/
structure Environment where
  now : Nat
  sha256Hex : Bytes → String
  decodeBase64 : String → Option Bytes
  generateFromPassword : String → Except String String
  compareHashAndPassword : String → String → Bool
  randomToken : Except String String
  sql : Statement → Except String Unit
  sqlAgain : Statement → Except String Unit
  storageKind : StorageKind
  storage : StorageCall → Except String Unit
  failedPut : PutLeft

def Environment.again (env : Environment) : Environment := { env with sql := env.sqlAgain }

abbrev StoreOp (α : Type) := Action StoreError Database α

def exec (env : Environment) (statement : Statement) : StoreOp Unit :=
  Action.attempt (match env.sql statement with
    | .ok _ => .ok ()
    | .error text => .error (.message text))

/-- `QueryRow(..).Scan(..)`. -/
def row {α : Type} : Option α → StoreOp α
  | some value => pure value
  | none => throw .noRows

def refuse {α : Type} (text : String) : StoreOp α := throw (.message text)

/-!
## Store
-/

def validateOrgID (orgId : String) : Except StoreError String :=
  let orgId := trim orgId
  if orgId.isEmpty then .ok defaultOrgID
  else if orgId.toList.all fun char =>
      ('a' ≤ char && char ≤ 'z') || ('0' ≤ char && char ≤ '9') || char == '-' || char == '_' then
    .ok orgId
  else .error (.message "invalid org id")

def normalizeOrgRole (role : String) : Option OrgRole :=
  let role := trim role
  if role = "" ∨ role = "member" then some .member
  else if role = "admin" then some .admin
  else if role = "owner" then some .owner
  else none

def roleRank : OrgRole → Nat
  | .owner => 3
  | .admin => 2
  | .member => 1

structure OrganizationBody where
  id : String
  name : String
  deriving Repr, DecidableEq

structure OrgMemberRequest where
  username : String
  userId : Int
  role : String
  deriving Repr, DecidableEq

structure Organization where
  id : String
  name : String
  createdAt : Nat
  deriving Repr, DecidableEq

structure OrgMember where
  orgId : String
  userId : Int
  username : String
  role : OrgRole
  createdAt : Nat
  deriving Repr, DecidableEq

def putOrganization (env : Environment) (org : OrganizationBody) : StoreOp Unit := do
  let id ← Action.attempt (validateOrgID org.id)
  let name := if org.name.isEmpty then id else org.name
  exec env .insertOrganization
  modify fun db =>
    let row := match db.organizations.lookup id with
      | some old => { old with name }
      | none => { name, createdAt := env.now }
    { db with organizations := db.organizations.insert id row }

def getOrganization (env : Environment) (orgId : String) : StoreOp Organization := do
  let orgId ← Action.attempt (validateOrgID orgId)
  exec env .selectOrganization
  let org ← row ((← get).organizations.lookup orgId)
  pure { id := orgId, name := org.name, createdAt := org.createdAt }

def orgRoleForUser (env : Environment) (orgId : String) (userId : Int) : StoreOp OrgRole := do
  let orgId ← Action.attempt (validateOrgID orgId)
  exec env .selectRole
  let member ← row ((← get).memberships.lookup (orgId, userId))
  pure member.role

/-- The result of `orgRoleForUser`, with a missing membership as a `false`. -/
def userHasOrgRole (env : Environment) (orgId : String) (userId : Int) (minRole : OrgRole) :
    StoreOp Bool := fun db =>
  match orgRoleForUser env orgId userId db with
  | (.ok role, db) => (.ok (decide (roleRank role ≥ roleRank minRole)), db)
  | (.error error, db) => if notFound error then (.ok false, db) else (.error error, db)

/-- `select id from users where username = ?`; user names are unique. -/
def Database.userNamed (db : Database) (username : String) : Option Int :=
  (db.users.entries.find? (·.2.username = username)).map (·.1)

/-- The user that a member request names. -/
def requestedUser (env : Environment) (request : OrgMemberRequest) : StoreOp Int :=
  if request.userId = 0 then
    if isBlank request.username then refuse "missing username or user_id"
    else do
      exec env .selectUser
      row ((← get).userNamed request.username)
  else pure request.userId

def addOrgMember (env : Environment) (orgId : String) (request : OrgMemberRequest) :
    StoreOp Unit := do
  let orgId ← Action.attempt (validateOrgID orgId)
  match normalizeOrgRole request.role with
  | none => refuse "invalid org role"
  | some role => do
      let userId ← requestedUser env request
      let _ ← getOrganization env orgId
      exec env .insertMembership
      modify fun db =>
        let row := match db.memberships.lookup (orgId, userId) with
          | some old => { old with role }
          | none => { role, createdAt := env.now }
        { db with memberships := db.memberships.insert (orgId, userId) row }

def Database.ownerCount (db : Database) (orgId : String) : Nat :=
  (db.memberships.entries.filter fun entry => entry.1.1 = orgId ∧ entry.2.role = .owner).length

def orgOwnerCount (env : Environment) (orgId : String) : StoreOp Nat := do
  exec env .countOwners
  pure ((← get).ownerCount orgId)

/-- The guard of both writes that may take an owner away. -/
def keepLastOwner (env : Environment) (orgId : String) (losesOwner : Bool) : StoreOp Unit :=
  if losesOwner then do
    let count ← orgOwnerCount env orgId
    if count ≤ 1 then refuse "cannot remove the last owner" else pure ()
  else pure ()

def updateOrgMemberRole (env : Environment) (orgId : String) (userId : Int) (role : String) :
    StoreOp Unit := do
  let orgId ← Action.attempt (validateOrgID orgId)
  match normalizeOrgRole role with
  | none => refuse "invalid org role"
  | some role => do
      let currentRole ← orgRoleForUser env orgId userId
      keepLastOwner env orgId (decide (currentRole = .owner ∧ role ≠ .owner))
      exec env .updateMembership
      let old ← row ((← get).memberships.lookup (orgId, userId))
      modify fun db =>
        { db with memberships := db.memberships.insert (orgId, userId) { old with role } }

def removeOrgMember (env : Environment) (orgId : String) (userId : Int) : StoreOp Unit := do
  let orgId ← Action.attempt (validateOrgID orgId)
  let currentRole ← orgRoleForUser env orgId userId
  keepLastOwner env orgId (decide (currentRole = .owner))
  exec env .deleteMembership
  let _ ← row ((← get).memberships.lookup (orgId, userId))
  modify fun db => { db with memberships := db.memberships.erase (orgId, userId) }

/-- `order by organizations.id`. -/
def listOrganizationsForUser (env : Environment) (userId : Int) : StoreOp (List Organization) := do
  exec env .selectOrganizations
  let db ← get
  let orgs := db.organizations.entries.filter fun org =>
    (db.memberships.lookup (org.1, userId)).isSome
  let orgs := orgs.map fun org => { id := org.1, name := org.2.name, createdAt := org.2.createdAt }
  pure (orgs.insertionSort fun (left right : Organization) => left.id ≤ right.id)

/-- `order by users.username`. -/
def listOrgMembers (env : Environment) (orgId : String) : StoreOp (List OrgMember) := do
  let orgId ← Action.attempt (validateOrgID orgId)
  exec env .selectMembers
  let db ← get
  let members := db.memberships.entries.filterMap fun entry =>
    if entry.1.1 = orgId then
      (db.users.lookup entry.1.2).map fun user =>
        { orgId, userId := entry.1.2, username := user.username, role := entry.2.role
          createdAt := entry.2.createdAt }
    else none
  pure (members.insertionSort fun (left right : OrgMember) => left.username ≤ right.username)

/-!
## Handlers
-/

structure HttpError where
  status : Nat
  message : String
  deriving Repr, DecidableEq

abbrev Handler (α : Type) := Action HttpError Database α

def answering {α : Type} (op : StoreOp α) (onError : StoreError → HttpError) : Handler α := fun db =>
  match op db with
  | (.ok value, db) => (.ok value, db)
  | (.error error, db) => (.error (onError error), db)

def failWith {α : Type} (status : Nat) (message : String) : Handler α := throw { status, message }

def internalError (error : StoreError) : HttpError := { status := 500, message := error.text }

def badRequest (error : StoreError) : HttpError := { status := 400, message := error.text }

/-- `c.BodyParser(&body)`. -/
def parsedBody {β : Type} (body : Except String β) : Handler β :=
  Action.attempt (match body with
    | .ok value => .ok value
    | .error message => .error { status := 400, message })

inductive Reply where
  | ok
  | token (text : String)
  | organizations (orgs : List Organization)
  | members (members : List OrgMember)
  deriving Repr, DecidableEq

/-- Its result is what `c.Locals` keeps: the user. -/
def requireSession (env : Environment) (cookie : String) : Handler Int := do
  if cookie.isEmpty then failWith 401 "login required"
  else do
    let id := env.sha256Hex (stringBytes cookie)
    let session ← answering (do
      exec env .selectSession
      let db ← get
      let session ← row (db.sessions.lookup id)
      let _ ← row (db.users.lookup session.userId)
      pure session) fun _ => { status := 401, message := "login required" }
    if session.expiresAt.all (env.now > ·) then do
      Action.ignore (env.sql .deleteSession) fun db => { db with sessions := db.sessions.erase id }
      failWith 401 "session expired"
    else pure session.userId

def requireOrgRole (env : Environment) (org : String) (minRole : OrgRole) (userId : Int) :
    Handler Unit := do
  if userId = 0 then failWith 401 "login required"
  else do
    let allowed ← answering (userHasOrgRole env org userId minRole) internalError
    if allowed then pure () else failWith 404 "org not found"

def adminListOrgs (env : Environment) (userId : Int) : Handler Reply := do
  let orgs ← answering (listOrganizationsForUser env userId) internalError
  pure (.organizations orgs)

def adminCreateOrg (env : Environment) (userId : Int) (body : Except String OrganizationBody) :
    Handler Reply := do
  let org ← parsedBody body
  answering (putOrganization env org) badRequest
  answering (addOrgMember env org.id { username := "", userId, role := "owner" }) internalError
  pure .ok

def adminListOrgMembers (env : Environment) (org : String) : Handler Reply := do
  let members ← answering (listOrgMembers env org) internalError
  pure (.members members)

/-- A missing row is a 404 with the handler's own text. -/
def orNotFound (message : String) (error : StoreError) : HttpError :=
  if notFound error then { status := 404, message } else badRequest error

def adminAddOrgMember (env : Environment) (org : String) (body : Except String OrgMemberRequest) :
    Handler Reply := do
  let request ← parsedBody body
  answering (addOrgMember env org request) (orNotFound "user or org not found")
  pure .ok

/-- `strconv.ParseInt(text, 10, 64)`. -/
def parseInt (text : String) : Option Int :=
  let chars := text.toList
  let negative := chars.head? = some '-'
  let digits := if negative ∨ chars.head? = some '+' then chars.tail else chars
  if digits.isEmpty || !digits.all Char.isDigit then none
  else
    let magnitude : Nat := digits.foldl (fun value digit => value * 10 + (digit.toNat - 48)) 0
    let value : Int := if negative then -magnitude else magnitude
    if -2 ^ 63 ≤ value ∧ value < 2 ^ 63 then some value else none

def memberId (text : String) : Handler Int :=
  match parseInt text with
  | some userId => if userId ≤ 0 then failWith 400 "invalid user id" else pure userId
  | none => failWith 400 "invalid user id"

/-- The body of an update is the new role. -/
def adminUpdateOrgMember (env : Environment) (org userId : String) (body : Except String String) :
    Handler Reply := do
  let userId ← memberId userId
  let role ← parsedBody body
  answering (updateOrgMemberRole env org userId role) (orNotFound "member not found")
  pure .ok

def adminRemoveOrgMember (env : Environment) (org userId : String) : Handler Reply := do
  let userId ← memberId userId
  answering (removeOrgMember env org userId) (orNotFound "member not found")
  pure .ok

/-!
## Users and sessions
-/

structure SetupRequest where
  username : String
  password : String
  tokenName : String
  deriving Repr, DecidableEq

structure LoginRequest where
  username : String
  password : String
  deriving Repr, DecidableEq

/-- A transaction that fails leaves the tables as they were. -/
def transaction {α : Type} (op : StoreOp α) : StoreOp α := fun db =>
  match op db with
  | (.ok value, after) => (.ok value, after)
  | (.error error, _) => (.error error, db)

def insertUser (env : Environment) (user : User) : StoreOp Int := do
  exec env .insertUser
  let db ← get
  if (db.userNamed user.username).isSome then refuse "UNIQUE constraint failed: users.username"
  else do
    let userId := db.users.keys.foldl max 0 + 1
    modify fun db => { db with users := db.users.insert userId user }
    pure userId

/-- The number and the text of a new token. -/
def insertToken (env : Environment) (orgId name : String) : StoreOp (Nat × String) := do
  let token ← Action.attempt (match env.randomToken with
    | .ok token => .ok token
    | .error text => .error (.message text))
  exec env .insertToken
  let tokenHash := env.sha256Hex (stringBytes token)
  let db ← get
  if db.cliTokens.any (·.tokenHash = tokenHash) then
    refuse "UNIQUE constraint failed: cli_tokens.token_hash"
  else do
    modify fun db =>
      let row := { orgId, name, tokenHash, createdAt := env.now, revokedAt := none }
      { db with cliTokens := db.cliTokens ++ [row] }
    pure (db.cliTokens.length + 1, token)

def setupFirstUser (env : Environment) (request : SetupRequest) (hash : String) : StoreOp String := do
  exec env .begin
  let userId ← insertUser env { username := request.username, passwordHash := hash }
  exec env .insertOrganization
  modify fun db =>
    if (db.organizations.lookup defaultOrgID).isSome then db
    else { db with organizations :=
      db.organizations.insert defaultOrgID { name := "Default", createdAt := env.now } }
  exec env .insertMembership
  modify fun db =>
    if (db.memberships.lookup (defaultOrgID, userId)).isSome then db
    else { db with memberships :=
      db.memberships.insert (defaultOrgID, userId) { role := .owner, createdAt := env.now } }
  let name := if request.tokenName.isEmpty then "default" else request.tokenName
  let token ← insertToken env defaultOrgID name
  exec env .commit
  pure token.2

def setup (env : Environment) (body : Except String SetupRequest) : Handler Reply := do
  answering (exec env .countUsers) internalError
  let db ← get
  if !db.users.entries.isEmpty then failWith 409 "setup already completed"
  else do
    let request ← parsedBody body
    if isBlank request.username || request.password.utf8ByteSize < 8 then
      failWith 400 "username and password with at least 8 chars are required"
    else do
      match env.generateFromPassword request.password with
      | .error message => failWith 500 message
      | .ok hash => do
          let token ← answering (transaction (setupFirstUser env request hash)) internalError
          pure (.token token)

/-- A session lasts seven days. -/
def sessionSeconds : Nat := 7 * 24 * 60 * 60

def login (env : Environment) (body : Except String LoginRequest) : Handler Reply := do
  let request ← parsedBody body
  let found ← answering (do
    exec env .selectUser
    let db ← get
    let userId ← row (db.userNamed request.username)
    let user ← row (db.users.lookup userId)
    pure (userId, user)) fun _ => { status := 401, message := "invalid credentials" }
  if !env.compareHashAndPassword found.2.passwordHash request.password then
    failWith 401 "invalid credentials"
  else do
    match env.randomToken with
    | .error message => failWith 500 message
    | .ok token => do
        let id := env.sha256Hex (stringBytes token)
        answering (do
          exec env .insertSession
          let db ← get
          if (db.sessions.lookup id).isSome then refuse "UNIQUE constraint failed: sessions.id"
          else
            let session := { userId := found.1, expiresAt := some (env.now + sessionSeconds) }
            modify fun db => { db with sessions := db.sessions.insert id session }) internalError
        pure .ok

def logout (env : Environment) (cookie : String) : Handler Reply := do
  if cookie.isEmpty then pure .ok
  else do
    Action.ignore (env.sql .deleteSession) fun db =>
      { db with sessions := db.sessions.erase (env.sha256Hex (stringBytes cookie)) }
    pure .ok

/-!
## Requests
-/

/-- The admin routes that reach the tables above. The others write to the tables of
apps, releases, patches and tokens only. -/
inductive AdminRequest where
  | listOrgs
  | createOrg (body : Except String OrganizationBody)
  | listMembers (org : String)
  | addMember (org : String) (body : Except String OrgMemberRequest)
  | updateMember (org userId : String) (body : Except String String)
  | removeMember (org userId : String)
  deriving DecidableEq

def handleAdmin (env : Environment) (userId : Int) : AdminRequest → Handler Reply
  | .listOrgs => adminListOrgs env userId
  | .createOrg body => adminCreateOrg env userId body
  | .listMembers org => do
      requireOrgRole env org .member userId
      adminListOrgMembers env org
  | .addMember org body => do
      requireOrgRole env org .owner userId
      adminAddOrgMember env org body
  | .updateMember org member body => do
      requireOrgRole env org .owner userId
      adminUpdateOrgMember env org member body
  | .removeMember org member => do
      requireOrgRole env org .owner userId
      adminRemoveOrgMember env org member

/-- Users other than the first are put into the database by its operator, as the
server's own tests do. -/
inductive Request where
  | setup (body : Except String SetupRequest)
  | login (body : Except String LoginRequest)
  | logout (cookie : String)
  | admin (cookie : String) (request : AdminRequest)
  | operatorAddsUser (user : User)
  deriving DecidableEq

def handle (env : Environment) : Request → Handler Reply
  | .setup body => setup env body
  | .login body => login env body
  | .logout cookie => logout env cookie
  | .admin cookie request => do
      let userId ← requireSession env cookie
      handleAdmin env userId request
  | .operatorAddsUser user => do
      let _ ← answering (insertUser env user) internalError
      pure .ok

/-- A request and what it meets. -/
structure Call where
  env : Environment
  request : Request

def serve (call : Call) (db : Database) : Except HttpError Reply × Database :=
  handle call.env call.request db

end CodePush.Server
