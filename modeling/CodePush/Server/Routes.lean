import CodePush.Server.Patches

/-!
# The routes of the server

Tokens, the guards in front of the handlers and the table of routes, as in
`server/auth.go` and `server/main.go`. Each operation on an organization is mounted
twice under `/api/admin`: with the organization in its path, and without one, where
it acts on the default organization.
-/

set_option autoImplicit false

namespace CodePush.Server

open CodePush.Core CodePush.Foundation

/-!
## Tokens
-/

structure TokenResponse where
  id : Nat
  orgId : String
  name : String
  token : String
  createdAt : Nat
  deriving Repr, DecidableEq

def createTokenInOrg (env : Environment) (orgId name : String) : StoreOp TokenResponse := do
  let orgId ← Action.attempt (validateOrgID orgId)
  let _ ← getOrganization env orgId
  let name := if isBlank name then "token" else name
  let token ← insertToken env orgId name
  pure { id := token.1, orgId, name, token := token.2, createdAt := env.now }

/-- A body that does not parse leaves the name empty. -/
def adminCreateTokenForOrg (env : Environment) (orgId : String) (body : Except String String) :
    Handler TokenResponse :=
  answering (createTokenInOrg env orgId (body.toOption.getD "")) internalError

/-- `order by id desc`; the texts of the tokens are not stored. -/
def Database.tokensOf (db : Database) (orgId : String) : List TokenResponse :=
  let rows := db.cliTokens.zipIdx.filter fun row => row.1.orgId = orgId ∧ row.1.revokedAt.isNone
  (rows.map fun row =>
    { id := row.2 + 1, orgId, name := row.1.name, token := "", createdAt := row.1.createdAt }).reverse

def adminListTokensForOrg (env : Environment) (orgId : String) : Handler (List TokenResponse) := do
  let orgId ← answering (Action.attempt (validateOrgID orgId)) badRequest
  answering (do
    exec env .selectTokens
    pure ((← get).tokensOf orgId)) internalError

/-- `update cli_tokens set revoked_at = .. where org_id = ? and id = ? and revoked_at is null`. -/
def Database.revokeToken (db : Database) (now : Nat) (orgId : String) (id : Int) : Option Database :=
  if id ≤ 0 then none
  else
    let index := (id - 1).toNat
    match db.cliTokens[index]? with
    | some row =>
        if row.orgId = orgId ∧ row.revokedAt.isNone then
          some { db with cliTokens := db.cliTokens.set index { row with revokedAt := some now } }
        else none
    | none => none

def adminRevokeTokenForOrg (env : Environment) (orgId id : String) : Handler Reply :=
  match parseInt id with
  | none => failWith 400 "invalid token id"
  | some id => do
      let orgId ← answering (Action.attempt (validateOrgID orgId)) badRequest
      answering (exec env .revokeToken) internalError
      match (← get).revokeToken env.now orgId id with
      | none => failWith 404 "token not found"
      | some revoked => do
          modify fun _ => revoked
          pure .ok

/-- The text after `Bearer `. -/
def bearerToken (authorization : String) : Option String :=
  if "Bearer ".toList.isPrefixOf authorization.toList then
    some (String.ofList (authorization.toList.drop 7))
  else none

/-- Its result is the organization that it leaves behind: that of the first token in
force with the hash. -/
def requireBearer (env : Environment) (authorization : String) : Handler String :=
  match bearerToken authorization with
  | none => failWith 401 "bearer token required"
  | some token => do
      let tokenHash := env.sha256Hex (stringBytes token)
      answering (exec env .selectTokens) internalError
      let live := (← get).cliTokens.filter (·.revokedAt.isNone)
      match live.find? (·.tokenHash = tokenHash) with
      | none => failWith 401 "invalid bearer token"
      | some row => pure (if row.orgId.isEmpty then defaultOrgID else row.orgId)

/-!
## Admin routes
-/

/-- The operations that are mounted twice. The statistics of a patch, which are read
from the events, are left out. -/
inductive OrgOperation where
  | listApps
  | createApp (body : Except String App)
  | getApp (id : String)
  | updateApp (id : String) (body : Except String App)
  | deleteApp (id : String)
  | listReleases (id : String)
  | listPatches (id : String)
  | promote (body : Except String PromotePatchRequest)
  | rollback (body : Except String PromotePatchRequest)
  | createToken (body : Except String String)
  | listTokens
  | revokeToken (id : String)

/-- What a route answers with. -/
inductive Answer where
  | reply (reply : Reply)
  | app (app : App)
  | apps (apps : List App)
  | resolution (resolution : Resolution)
  | releases (releases : List ReleaseManifest)
  | patches (patches : List PatchManifest)
  | createdToken (token : TokenResponse)
  | tokens (tokens : List TokenResponse)

/-- The role that the route with the organization in its path demands. -/
def OrgOperation.minRole : OrgOperation → OrgRole
  | .listApps | .getApp _ | .listReleases _ | .listPatches _ | .listTokens => .member
  | .createApp _ | .updateApp _ _ | .deleteApp _ | .promote _ | .rollback _ | .createToken _
  | .revokeToken _ => .owner

/-- The handler with the organization that its route gives it. -/
def OrgOperation.handle (env : Environment) (orgId : String) : OrgOperation → Handler Answer
  | .listApps => .apps <$> adminListAppsForOrg env orgId
  | .createApp body => .reply <$> adminCreateAppForOrg env orgId body
  | .getApp id => .app <$> adminGetAppForOrg env orgId id
  | .updateApp id body => .reply <$> adminUpdateAppForOrg env orgId id body
  | .deleteApp id => .reply <$> adminDeleteAppForOrg env orgId id
  | .listReleases id => .releases <$> adminListReleasesForOrg env orgId id
  | .listPatches id => .patches <$> adminListPatchesForOrg env orgId id
  | .promote body => .reply <$> promotePatch env (some orgId) body
  | .rollback body => .reply <$> rollbackPatch env (some orgId) body
  | .createToken body => .createdToken <$> adminCreateTokenForOrg env orgId body
  | .listTokens => .tokens <$> adminListTokensForOrg env orgId
  | .revokeToken id => .reply <$> adminRevokeTokenForOrg env orgId id

/-- `/api/admin/orgs/:org/..` asks for the operation's role; `/api/admin/..` does not. -/
def serveOperation (env : Environment) (userId : Int) (operation : OrgOperation) :
    Option String → Handler Answer
  | some org => do
      requireOrgRole env org operation.minRole userId
      operation.handle env org
  | none => operation.handle env defaultOrgID

/-!
## Bearer routes
-/

inductive BearerRequest where
  | createApp (body : Except String App)
  | resolveApp (selector : String)
  | getApp (id : String)
  | createRelease (body : Except String Json)
  | createPatch (body : Except String Json)
  | promote (body : Except String PromotePatchRequest)
  | rollback (body : Except String PromotePatchRequest)

def BearerRequest.handle (env : Environment) (orgId : String) : BearerRequest → Handler Answer
  | .createApp body => .reply <$> Server.createApp env (some orgId) body
  | .resolveApp selector => .resolution <$> Server.resolveApp env (some orgId) selector
  | .getApp id => .app <$> getAppByID env (some orgId) id
  | .createRelease body => .reply <$> Server.createRelease env (some orgId) body
  | .createPatch body => .reply <$> Server.createPatch env (some orgId) body
  | .promote body => .reply <$> promotePatch env (some orgId) body
  | .rollback body => .reply <$> rollbackPatch env (some orgId) body

def serveBearer (env : Environment) (authorization : String) (request : BearerRequest) :
    Handler Answer := do
  let orgId ← requireBearer env authorization
  request.handle env orgId

/-!
## All routes
-/

/-- The requests that can change the tables, and their companions that read. Health,
metrics and the routes of devices write nothing but events. -/
inductive RouteRequest where
  | request (request : Request)
  | operation (cookie : String) (org : Option String) (operation : OrgOperation)
  | bearer (authorization : String) (request : BearerRequest)

structure RouteCall where
  env : Environment
  request : RouteRequest

def route (env : Environment) : RouteRequest → Handler Answer
  | .request request => .reply <$> handle env request
  | .operation cookie org operation => do
      let userId ← requireSession env cookie
      serveOperation env userId operation org
  | .bearer authorization request => serveBearer env authorization request

def serveRoute (call : RouteCall) (db : Database) : Except HttpError Answer × Database :=
  route call.env call.request db

end CodePush.Server
