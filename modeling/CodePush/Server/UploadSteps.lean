import CodePush.Server.Concurrency

/-!
# An upload in atomic steps

Each statement of an upload is one step, and so is each transaction and each call of
the storage. Alone, the steps are the upload that its request runs.
-/

set_option autoImplicit false

namespace CodePush.Server

open CodePush.Core CodePush.Foundation

/-!
## Apps
-/

def getOrganizationSteps (env : Environment) (orgId : String) : StoreSteps Organization := do
  let orgId ← Steps.attempt (validateOrgID orgId)
  statement env .selectOrganization .read fun db =>
    (firstRow (db.organizations.lookup orgId)).map fun org =>
      { id := orgId, name := org.name, createdAt := org.createdAt }

/-- The rows of the app's platforms, which have no ABIs yet. -/
def Database.platformRows (db : Database) (key : String × String) : List AppPlatform :=
  let rows := db.platforms.entries.filter fun entry => entry.1.1 = key
  let listed := rows.map fun entry =>
    ({ platform := entry.1.2, enabled := entry.2.enabled, backend := entry.2.backend, abi := [] } : AppPlatform)
  listed.insertionSort fun left right => platformBefore left.platform right.platform

def Database.platformAbis (db : Database) (key : String × String) (platform : String) : List String :=
  let abis := db.abis.entries.filter fun abi => abi.1.1 = key ∧ abi.1.2.1 = platform
  let names := (abis.map fun abi => (abi.2, abi.1.2.2)).insertionSort fun left right =>
    left.1 < right.1 ∨ (left.1 = right.1 ∧ left.2 ≤ right.2)
  names.map (·.2)

/-- One statement for each platform. -/
def platformAbisSteps (env : Environment) (key : String × String) :
    List AppPlatform → StoreSteps (List AppPlatform)
  | [] => pure []
  | platform :: platforms => do
      let abi ← statement env .selectAbis .read fun db => .ok (db.platformAbis key platform.platform)
      let rest ← platformAbisSteps env key platforms
      pure ({ platform with abi } :: rest)

def listAppPlatformsSteps (env : Environment) (key : String × String) : StoreSteps (List AppPlatform) := do
  let platforms ← statement env .selectPlatforms .read fun db => .ok (db.platformRows key)
  platformAbisSteps env key platforms

def getAppInOrgSteps (env : Environment) (orgId id : String) : StoreSteps App := do
  let orgId ← Steps.attempt (validateOrgID orgId)
  let app ← statement env .selectApp .read fun db => firstRow (db.apps.lookup (orgId, id))
  let platforms ← listAppPlatformsSteps env (orgId, id)
  pure (app.toApp orgId id platforms)

/-- The first failure of a list of statements. -/
def executed (env : Environment) : List Statement → Except StoreError Unit
  | [] => .ok ()
  | statement :: statements =>
      match env.sql statement with
      | .ok _ => executed env statements
      | .error text => .error (.message text)

def transactionSteps (env : Environment) (statements : List Statement) (operation : Operation) :
    StoreSteps Unit :=
  match executed env statements with
  | .ok _ => Steps.atomic operation fun _ => .ok ()
  | .error error => throw error

def putAppStatements (app : App) : List Statement :=
  [.begin, .insertApp, .deleteAbis, .deletePlatforms, .insertPlatform] ++
    (if app.platforms.all (·.abi.isEmpty) then [] else [.insertAbi]) ++ [.commit]

def putAppInOrgSteps (env : Environment) (orgId : String) (app : App) : StoreSteps Unit := do
  let orgId ← Steps.attempt (validateOrgID orgId)
  let _ ← getOrganizationSteps env orgId
  let app := normalizeApp app
  transactionSteps env (putAppStatements app) (.putApp env.now (orgId, app.id) app)

def ensureAppInOrgSteps (env : Environment) (orgId appId : String) : StoreSteps Unit :=
  Steps.orElse (getAppInOrgSteps env orgId appId >>= fun _ => pure ()) fun error =>
    if notFound error then putAppInOrgSteps env orgId (App.new appId appId) else throw error

/-!
## Patches
-/

abbrev HandlerSteps (α : Type) := Steps Operation HttpError Database α

def lookForObjectSteps (env : Environment) (key : String) : HandlerSteps Unit :=
  match env.storage (.get key) with
  | .ok _ => Steps.atomic .read fun db => (db.opened env.storageKind key).free
  | .error message => throw { status := 500, message }

/-- What a `Put` does that reports an error. -/
def Operation.ofFailedPut (env : Environment) (key : String) (payload : Bytes) : Operation :=
  match env.failedPut, env.storageKind with
  | .directory path, .localFS _ _ => if KeyAbove path key then .makeDirectory path else .read
  | .object, _ => .putObject key payload
  | _, _ => .read

def storePayloadSteps (env : Environment) (key : String) (payload : Bytes) : HandlerSteps Unit :=
  match env.storage (.put key) with
  | .ok _ => Steps.atomic (.putObject key payload) fun _ => .ok ()
  | .error message => Steps.atomic (.ofFailedPut env key payload) fun _ => .error { status := 500, message }

def putObjectSteps (env : Environment) (key : String) (payload : Bytes) : HandlerSteps Unit := do
  lookForObjectSteps env key
  storePayloadSteps env key payload

def putPatchInOrgSteps (env : Environment) (orgId : String) (patch : PatchManifest) : StoreSteps Unit := do
  let _ ← getAppInOrgSteps env.again orgId patch.appId
  statement env .insertPatch (.insertPatch (patch.keyIn orgId) patch.row) fun _ => .ok ()

def parsedBodySteps {β : Type} (body : Except String β) : HandlerSteps β :=
  Steps.attempt (match body with
    | .ok value => .ok value
    | .error message => .error { status := 400, message })

def createPatchSteps (env : Environment) (orgId : Option String) (body : Except String Json) :
    HandlerSteps Reply := do
  let request ← parsedBodySteps (body.bind CreatePatchRequest.unmarshal)
  let payload ← Steps.attempt (checkUpload env request)
  let orgId := currentOrgID orgId
  let patch := request.manifest.uploaded orgId
  Steps.mapError internalError (ensureAppInOrgSteps env orgId patch.appId)
  putObjectSteps env patch.payload.downloadUrl payload
  Steps.mapError internalError (putPatchInOrgSteps env orgId patch)
  pure .ok

/-!
## Alone
-/

section Alone

variable {env : Environment}

theorem getOrganizationSteps_run (orgId : String) :
    Steps.run Operation.effect (getOrganizationSteps env orgId) = getOrganization env orgId := by
  unfold getOrganizationSteps getOrganization
  rw [Steps.run_bind]
  refine congrArg (Bind.bind _) (funext fun id => funext fun db => ?_)
  rw [run_statement, Action.run_bind]
  rcases exec env .selectOrganization db with ⟨error | _, after⟩
  · rfl
  · show ((firstRow (after.organizations.lookup id)).map _, after) =
      (row (after.organizations.lookup id) >>= fun org => pure _ : StoreOp Organization) after
    cases after.organizations.lookup id with
    | none => rfl
    | some org => rfl

/-- The platforms are sorted before or after they get their ABIs. -/
theorem appPlatforms_of_rows (db : Database) (key : String × String) :
    db.appPlatforms key = (db.platformRows key).map fun platform =>
      { platform with abi := db.platformAbis key platform.platform } := by
  unfold Database.appPlatforms Database.platformRows
  dsimp only
  rw [List.map_insertionSort _ (fun left right : AppPlatform => platformBefore left.platform right.platform)
    _ _ (fun _ _ _ _ => Iff.rfl), List.map_map]
  rfl

theorem platformAbisSteps_run (key : String × String) (platforms : List AppPlatform) (db : Database) :
    Steps.run Operation.effect (platformAbisSteps env key platforms) db =
      if platforms.isEmpty then (.ok [], db)
      else ((exec env .selectAbis db).1.map fun _ => platforms.map fun platform =>
        { platform with abi := db.platformAbis key platform.platform }, db) := by
  induction platforms with
  | nil => rfl
  | cons platform platforms ih =>
      rw [platformAbisSteps, Steps.run_bind, Action.run_bind, run_statement]
      unfold exec Action.attempt
      cases outcome : env.sql .selectAbis with
      | error text => rfl
      | ok =>
          dsimp only [Operation.effect]
          rw [Steps.run_bind, Action.run_bind, ih]
          cases platforms with
          | nil => rfl
          | cons next rest =>
              unfold exec Action.attempt
              rw [outcome]
              rfl

theorem listAppPlatformsSteps_run (key : String × String) :
    Steps.run Operation.effect (listAppPlatformsSteps env key) = listAppPlatforms env key := by
  funext db
  unfold listAppPlatformsSteps listAppPlatforms
  rw [Steps.run_bind, Action.run_bind, Action.run_bind, run_statement]
  rcases ended : exec env .selectPlatforms db with ⟨error | _, after⟩
  · rfl
  · show Steps.run Operation.effect (platformAbisSteps env key (after.platformRows key)) after =
      (if (after.appPlatforms key).isEmpty then pure [] else do
        exec env .selectAbis
        pure (after.appPlatforms key) : StoreOp _) after
    rw [platformAbisSteps_run, appPlatforms_of_rows]
    cases after.platformRows key with
    | nil => rfl
    | cons platform platforms =>
        show _ = (exec env .selectAbis >>= fun _ => pure _ : StoreOp (List AppPlatform)) after
        rw [Action.run_bind]
        unfold exec Action.attempt
        cases env.sql .selectAbis with
        | error text => rfl
        | ok => rfl

theorem getAppInOrgSteps_run (orgId id : String) :
    Steps.run Operation.effect (getAppInOrgSteps env orgId id) = getAppInOrg env orgId id := by
  unfold getAppInOrgSteps getAppInOrg
  rw [Steps.run_bind]
  refine congrArg (Bind.bind _) (funext fun org => funext fun db => ?_)
  rw [Steps.run_bind, Action.run_bind, Action.run_bind, run_statement]
  rcases exec env .selectApp db with ⟨error | _, after⟩
  · rfl
  · show _ = (row (after.apps.lookup (org, id)) >>= _ : StoreOp App) after
    dsimp only [Operation.effect]
    cases after.apps.lookup (org, id) with
    | none => rfl
    | some app =>
        dsimp only [firstRow]
        rw [Steps.run_bind, listAppPlatformsSteps_run]
        rfl

/-- The operation runs the statements and ends in `finish` if none fails. -/
structure Executes (env : Environment) (statements : List Statement) (op : StoreOp Unit)
    (start finish : Database) : Prop where
  outcome : (op start).1 = executed env statements
  state : executed env statements = .ok () → (op start).2 = finish

namespace Executes

variable {statements : List Statement} {next : StoreOp Unit} {start finish : Database}

theorem last (request : Statement) (db : Database) : Executes env [request] (exec env request) db db := by
  constructor
  · unfold exec executed Action.attempt
    cases env.sql request with
    | error text => rfl
    | ok => rfl
  · intro _
    rfl

theorem exec (request : Statement) (rest : Executes env statements next start finish) :
    Executes env (request :: statements) (exec env request >>= fun _ => next) start finish := by
  unfold Server.exec Action.attempt
  cases outcome : env.sql request with
  | error text =>
      constructor
      · rw [Action.run_bind, executed, outcome]
      · intro runs
        rw [executed, outcome] at runs
        cases runs
  | ok =>
      constructor
      · rw [Action.run_bind, executed, outcome]
        exact rest.outcome
      · intro runs
        rw [executed, outcome] at runs
        rw [Action.run_bind]
        exact rest.state runs

theorem modify {change : Database → Database}
    (rest : Executes env statements next (change start) finish) :
    Executes env statements (modify change >>= fun _ => next) start finish := ⟨rest.outcome, rest.state⟩

theorem insertAbis (platforms : List AppPlatform) (rest : Executes env statements next start finish) :
    Executes env ((if platforms.all (·.abi.isEmpty) then [] else [.insertAbi]) ++ statements)
      (insertAbis env platforms >>= fun _ => next) start finish := by
  unfold Server.insertAbis
  split
  case isTrue => exact ⟨rest.outcome, rest.state⟩
  case isFalse => exact rest.exec .insertAbi

/-- A transaction is one step. -/
theorem transaction {operation : Operation}
    (runs : Executes env statements next start (operation.effect start)) :
    Steps.run Operation.effect (transactionSteps env statements operation) start = transaction next start := by
  obtain ⟨outcome, state⟩ := runs
  unfold Server.transaction transactionSteps
  rcases ended : next start with ⟨error | value, after⟩
  · rw [ended] at outcome
    rw [← outcome]
    rfl
  · rw [ended] at outcome state
    obtain rfl : after = operation.effect start := state outcome.symm
    rw [← outcome]
    rfl

end Executes

theorem putAppInOrgSteps_run (orgId : String) (app : App) :
    Steps.run Operation.effect (putAppInOrgSteps env orgId app) = putAppInOrg env orgId app := by
  unfold putAppInOrgSteps putAppInOrg
  rw [Steps.run_bind]
  refine congrArg (Bind.bind _) (funext fun id => ?_)
  rw [Steps.run_bind, getOrganizationSteps_run]
  refine congrArg (Bind.bind _) (funext fun _ => funext fun db => ?_)
  apply Executes.transaction
  apply Executes.exec
  apply Executes.exec
  apply Executes.modify
  apply Executes.exec
  apply Executes.exec
  apply Executes.modify
  apply Executes.exec
  apply Executes.insertAbis
  apply Executes.modify
  exact Executes.last .commit _

theorem ensureAppInOrgSteps_run (orgId appId : String) :
    Steps.run Operation.effect (ensureAppInOrgSteps env orgId appId) = ensureAppInOrg env orgId appId := by
  funext db
  unfold ensureAppInOrgSteps ensureAppInOrg
  rw [Steps.run_orElse, Steps.run_bind, Action.run_bind, getAppInOrgSteps_run]
  rcases getAppInOrg env orgId appId db with ⟨error | app, after⟩
  · dsimp only
    split
    · rw [putAppInOrgSteps_run]
    · rfl
  · rfl

theorem answering_run {α : Type} {steps : StoreSteps α} {op : StoreOp α} (onError : StoreError → HttpError)
    (runs : Steps.run Operation.effect steps = op) :
    Steps.run Operation.effect (Steps.mapError onError steps) = answering op onError := by
  funext db
  rw [Steps.run_mapError, runs]
  unfold answering
  rcases op db with ⟨error | value, after⟩
  · rfl
  · rfl

theorem putPatchInOrgSteps_run (orgId : String) (patch : PatchManifest) :
    Steps.run Operation.effect (putPatchInOrgSteps env orgId patch) = putPatchInOrg env orgId patch := by
  unfold putPatchInOrgSteps putPatchInOrg
  rw [Steps.run_bind, getAppInOrgSteps_run]
  refine congrArg (Bind.bind _) (funext fun _ => funext fun db => ?_)
  rw [run_statement, Action.run_bind]
  rcases exec env .insertPatch db with ⟨error | _, after⟩
  · rfl
  · rfl

theorem lookForObjectSteps_run (key : String) :
    Steps.run Operation.effect (lookForObjectSteps env key) = lookForObject env key := by
  funext db
  unfold lookForObjectSteps lookForObject Action.attempt
  rw [Action.run_bind]
  cases env.storage (.get key) with
  | error message => rfl
  | ok => rfl

theorem Operation.ofFailedPut_effect (key : String) (payload : Bytes) (db : Database) :
    (Operation.ofFailedPut env key payload).effect db = db.afterFailedPut env key payload := by
  unfold Operation.ofFailedPut Database.afterFailedPut
  cases env.failedPut with
  | nothing => rfl
  | object => rfl
  | directory path =>
      cases env.storageKind with
      | s3 => rfl
      | localFS =>
          by_cases above : KeyAbove path key
          · simp only [above, if_true, Operation.effect]
          · simp only [above, if_false, Operation.effect]

theorem storePayloadSteps_run (key : String) (payload : Bytes) :
    Steps.run Operation.effect (storePayloadSteps env key payload) = storePayload env key payload := by
  funext db
  unfold storePayloadSteps storePayload
  cases env.storage (.put key) with
  | error message => exact Prod.ext rfl (Operation.ofFailedPut_effect key payload db)
  | ok => rfl

theorem putObjectSteps_run (key : String) (payload : Bytes) :
    Steps.run Operation.effect (putObjectSteps env key payload) = putObject env key payload := by
  unfold putObjectSteps putObject
  rw [Steps.run_bind, lookForObjectSteps_run]
  exact congrArg (Bind.bind _) (funext fun _ => storePayloadSteps_run key payload)

/-- An upload without others is the upload that its request runs. -/
theorem createPatchSteps_run (orgId : Option String) (body : Except String Json) :
    Steps.run Operation.effect (createPatchSteps env orgId body) = createPatch env orgId body := by
  unfold createPatchSteps createPatch
  rw [Steps.run_bind]
  refine congrArg (Bind.bind _) (funext fun request => ?_)
  rw [Steps.run_bind]
  refine congrArg (Bind.bind _) (funext fun payload => ?_)
  dsimp only
  rw [Steps.run_bind, answering_run internalError (ensureAppInOrgSteps_run _ _)]
  refine congrArg (Bind.bind _) (funext fun _ => ?_)
  rw [Steps.run_bind, putObjectSteps_run]
  refine congrArg (Bind.bind _) (funext fun _ => ?_)
  rw [Steps.run_bind, answering_run internalError (putPatchInOrgSteps_run _ _)]
  rfl

end Alone

end CodePush.Server
