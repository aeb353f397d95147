import CodePush.Server.Manifest
import CodePush.Server.Organizations

/-!
# Apps and releases on the server

The tables of apps, of their platforms and of releases, and the handlers that write
and read them, as in `server/store.go` and `server/handlers.go`. The organization of
a request is the one its token or its route gave it.
-/

set_option autoImplicit false

namespace CodePush.Server

open CodePush.Core CodePush.Foundation

/-- The organization that `requireBearer` or `requireOrgRole` left behind. -/
def currentOrgID (orgId : Option String) : String :=
  match orgId with
  | some orgId => if orgId.isEmpty then defaultOrgID else orgId
  | none => defaultOrgID

/-!
## Apps
-/

structure AppPlatform where
  platform : String
  enabled : Bool
  backend : String
  abi : List String
  deriving Repr, DecidableEq

structure App where
  id : String
  orgId : String
  name : String
  channel : String
  publicKey : String
  platforms : List AppPlatform
  createdAt : Nat
  updatedAt : Nat
  deriving Repr, DecidableEq

/-- The fields of an `App` that a request may leave out are empty there. -/
def App.new (id name : String) : App where
  id := id
  orgId := ""
  name := name
  channel := ""
  publicKey := ""
  platforms := []
  createdAt := 0
  updatedAt := 0

def defaultAppPlatforms : List AppPlatform :=
  [{ platform := "android", enabled := true, backend := "snapshot_replace"
     abi := ["arm64-v8a", "x86_64"] },
    { platform := "ios", enabled := true, backend := "bytecode", abi := [] }]

def normalizePlatform (entry : AppPlatform) : AppPlatform :=
  let platform := if entry.platform.isEmpty then "android" else entry.platform
  let backend :=
    if entry.backend.isEmpty then if platform = "ios" then "bytecode" else "snapshot_replace"
    else entry.backend
  let abi :=
    if platform = "android" ∧ entry.abi.isEmpty then ["arm64-v8a", "x86_64"]
    else if platform = "ios" then []
    else entry.abi
  { entry with platform, backend, abi }

def normalizeApp (app : App) : App :=
  { app with
    channel := if app.channel.isEmpty then "stable" else app.channel
    name := if app.name.isEmpty then app.id else app.name
    platforms :=
      if app.platforms.isEmpty then defaultAppPlatforms else app.platforms.map normalizePlatform }

/-- `order by case platform when 'android' then 0 when 'ios' then 1 else 2 end, platform`. -/
def platformBefore (left right : String) : Bool :=
  let rank := fun platform : String => if platform = "android" then 0 else if platform = "ios" then 1 else 2
  rank left < rank right ∨ (rank left = rank right ∧ left ≤ right)

/-- The rows of the app's tables, ABIs by `sort_order` and then by name. -/
def Database.appPlatforms (db : Database) (key : String × String) : List AppPlatform :=
  let rows := db.platforms.entries.filter fun entry => entry.1.1 = key
  let listed := rows.map fun entry =>
    let abis := db.abis.entries.filter fun abi => abi.1.1 = key ∧ abi.1.2.1 = entry.1.2
    let names := (abis.map fun abi => (abi.2, abi.1.2.2)).insertionSort fun left right =>
      left.1 < right.1 ∨ (left.1 = right.1 ∧ left.2 ≤ right.2)
    ({ platform := entry.1.2, enabled := entry.2.enabled, backend := entry.2.backend
       abi := names.map (·.2) } : AppPlatform)
  listed.insertionSort fun left right => platformBefore left.platform right.platform

def AppRow.toApp (app : AppRow) (orgId id : String) (platforms : List AppPlatform) : App :=
  normalizeApp
    { id, orgId, name := app.name, channel := app.channel, publicKey := app.publicKey, platforms
      createdAt := app.createdAt, updatedAt := app.updatedAt }

def listAppPlatforms (env : Environment) (key : String × String) : StoreOp (List AppPlatform) := do
  exec env .selectPlatforms
  let platforms := (← get).appPlatforms key
  if platforms.isEmpty then pure [] else do
    exec env .selectAbis
    pure platforms

def getAppInOrg (env : Environment) (orgId id : String) : StoreOp App := do
  let orgId ← Action.attempt (validateOrgID orgId)
  exec env .selectApp
  let app ← row ((← get).apps.lookup (orgId, id))
  let platforms ← listAppPlatforms env (orgId, id)
  pure (app.toApp orgId id platforms)

def Database.putApp (db : Database) (now : Nat) (key : String × String) (app : App) : Database :=
  let createdAt := match db.apps.lookup key with
    | some old => old.createdAt
    | none => now
  let row :=
    { name := app.name, channel := app.channel, publicKey := app.publicKey, createdAt
      updatedAt := now }
  { db with apps := db.apps.insert key row }

/-- `delete from table where ..`: the rows whose keys `kept` holds of. -/
def keepRows {κ ρ : Type} (kept : κ → Bool) (table : AList fun _ : κ => ρ) : AList fun _ : κ => ρ where
  entries := table.entries.filter fun row => kept row.1
  nodupKeys := table.nodupKeys.sublist List.filter_sublist

def Database.clearPlatforms (db : Database) (key : String × String) : Database :=
  { db with
    abis := keepRows (fun row => row.1 ≠ key) db.abis
    platforms := keepRows (fun row => row.1 ≠ key) db.platforms }

def Database.putPlatform (db : Database) (key : String × String) (entry : AppPlatform) : Database :=
  let row := { enabled := entry.enabled, backend := entry.backend }
  { db with
    platforms := db.platforms.insert (key, entry.platform) row
    abis := entry.abi.zipIdx.foldl
      (fun abis abi => abis.insert (key, entry.platform, abi.1) abi.2) db.abis }

/-- A platform without ABIs has no row to insert. -/
def insertAbis (env : Environment) (platforms : List AppPlatform) : StoreOp Unit :=
  if platforms.all (·.abi.isEmpty) then pure () else exec env .insertAbi

def putAppInOrg (env : Environment) (orgId : String) (app : App) : StoreOp Unit := do
  let orgId ← Action.attempt (validateOrgID orgId)
  let _ ← getOrganization env orgId
  let app := normalizeApp app
  transaction (do
    exec env .begin
    exec env .insertApp
    modify (·.putApp env.now (orgId, app.id) app)
    exec env .deleteAbis
    exec env .deletePlatforms
    modify (·.clearPlatforms (orgId, app.id))
    exec env .insertPlatform
    insertAbis env app.platforms
    modify fun db => app.platforms.foldl (fun db entry => db.putPlatform (orgId, app.id) entry) db
    exec env .commit)

def ensureAppInOrg (env : Environment) (orgId appId : String) : StoreOp Unit := fun db =>
  match getAppInOrg env orgId appId db with
  | (.ok _, db) => (.ok (), db)
  | (.error error, db) =>
      if notFound error then putAppInOrg env orgId (App.new appId appId) db
      else (.error error, db)

/-- `select id from apps where org_id = ? and name = ? order by id`. -/
def Database.appsNamed (db : Database) (orgId name : String) : List String :=
  let rows := db.apps.entries.filter fun entry => entry.1.1 = orgId ∧ entry.2.name = name
  (rows.map (·.1.2)).insertionSort (· ≤ ·)

def findAppsByNameInOrg (env : Environment) (orgId name : String) : StoreOp (List App) := do
  let orgId ← Action.attempt (validateOrgID orgId)
  exec env .selectApps
  ((← get).appsNamed orgId name).mapM (getAppInOrg env.again orgId)

/-- `order by name, id`. -/
def listAppsInOrg (env : Environment) (orgId : String) : StoreOp (List App) := do
  let orgId ← Action.attempt (validateOrgID orgId)
  exec env .selectApps
  let rows := (← get).apps.entries.filter fun entry => entry.1.1 = orgId
  let sorted := rows.insertionSort fun left right =>
    left.2.name < right.2.name ∨ (left.2.name = right.2.name ∧ left.1.2 ≤ right.1.2)
  sorted.mapM fun entry => do
    let platforms ← listAppPlatforms env entry.1
    pure (entry.2.toApp orgId entry.1.2 platforms)

def deleteAppInOrg (env : Environment) (orgId id : String) : StoreOp Unit := do
  let orgId ← Action.attempt (validateOrgID orgId)
  transaction (do
    exec env .begin
    exec env .deleteAbis
    exec env .deletePlatforms
    modify (·.clearPlatforms (orgId, id))
    exec env .deletePatches
    modify fun db => { db with
      patches := keepRows (fun key => ¬ (key.orgId = orgId ∧ key.appId = id)) db.patches }
    exec env .deleteReleases
    modify fun db => { db with
      releases := keepRows (fun key => ¬ (key.orgId = orgId ∧ key.appId = id)) db.releases }
    exec env .deleteEvents
    exec env .deleteApp
    let _ ← row ((← get).apps.lookup (orgId, id))
    modify fun db => { db with apps := db.apps.erase (orgId, id) }
    exec env .commit)

/-!
## Releases
-/

structure ReleaseManifest where
  schemaVersion : Int64
  appId : String
  releaseVersion : String
  channel : String
  platform : String
  arch : String
  backend : String
  artifactHash : String
  artifactSize : UInt64
  deriving Repr, DecidableEq

namespace ReleaseManifest

def zero : ReleaseManifest where
  schemaVersion := 0
  appId := ""
  releaseVersion := ""
  channel := ""
  platform := ""
  arch := ""
  backend := ""
  artifactHash := ""
  artifactSize := 0

def names : List String :=
  ["schema_version", "app_id", "release_version", "channel", "platform", "arch", "backend",
    "artifact_hash", "artifact_size"]

def assign (key : String) (value : Json) (release : ReleaseManifest) :
    Except String ReleaseManifest :=
  match fieldNamed names key with
  | some "schema_version" =>
      (decodeInt release.schemaVersion value).map ({ release with schemaVersion := · })
  | some "app_id" => (decodeString release.appId value).map ({ release with appId := · })
  | some "release_version" =>
      (decodeString release.releaseVersion value).map ({ release with releaseVersion := · })
  | some "channel" => (decodeString release.channel value).map ({ release with channel := · })
  | some "platform" => (decodeString release.platform value).map ({ release with platform := · })
  | some "arch" => (decodeString release.arch value).map ({ release with arch := · })
  | some "backend" => (decodeString release.backend value).map ({ release with backend := · })
  | some "artifact_hash" =>
      (decodeString release.artifactHash value).map ({ release with artifactHash := · })
  | some "artifact_size" =>
      (decodeUint64 release.artifactSize value).map ({ release with artifactSize := · })
  | _ => .ok release

def unmarshal (old : ReleaseManifest) (value : Json) : Except String ReleaseManifest :=
  decodeStruct "main.ReleaseManifest" assign old value

def marshal (release : ReleaseManifest) : Json :=
  .obj [("schema_version", .num release.schemaVersion.toInt), ("app_id", .str release.appId),
    ("release_version", .str release.releaseVersion), ("channel", .str release.channel),
    ("platform", .str release.platform), ("arch", .str release.arch),
    ("backend", .str release.backend), ("artifact_hash", .str release.artifactHash),
    ("artifact_size", .num release.artifactSize.toNat)]

def keyIn (release : ReleaseManifest) (orgId : String) : ReleaseKey where
  orgId := orgId
  appId := release.appId
  releaseVersion := release.releaseVersion
  platform := release.platform
  arch := release.arch

end ReleaseManifest

def putReleaseInOrg (env : Environment) (orgId : String) (release : ReleaseManifest) :
    StoreOp Unit := do
  let _ ← getAppInOrg env.again orgId release.appId
  exec env .insertRelease
  modify fun db =>
    let key := release.keyIn orgId
    let createdAt := match db.releases.lookup key with
      | some old => old.createdAt
      | none => env.now
    let row :=
      { channel := release.channel, backend := release.backend, artifactHash := release.artifactHash
        artifactSize := release.artifactSize, manifestJson := release.marshal, createdAt }
    { db with releases := db.releases.insert key row }

/-- The outcome of reading a stored manifest. -/
def stored {α : Type} (decoded : Except String α) : StoreOp α :=
  Action.attempt (match decoded with
    | .ok value => .ok value
    | .error text => .error (.message text))

/-- `order by created_at desc`. -/
def listReleasesInOrg (env : Environment) (orgId appId : String) : StoreOp (List ReleaseManifest) := do
  let _ ← getAppInOrg env orgId appId
  exec env .selectReleases
  let rows := (← get).releases.entries.filter fun entry => entry.1.orgId = orgId ∧ entry.1.appId = appId
  let sorted := rows.insertionSort fun left right => right.2.createdAt ≤ left.2.createdAt
  sorted.mapM fun entry => stored (ReleaseManifest.zero.unmarshal entry.2.manifestJson)

/-!
## Handlers
-/

/-- A missing row is a 404 with the handler's own text, and any other error a 500. -/
def orMissing (message : String) (error : StoreError) : HttpError :=
  if notFound error then { status := 404, message } else internalError error

/-- `createApp` and `adminCreateAppForOrg`. -/
def adminCreateAppForOrg (env : Environment) (orgId : String) (body : Except String App) :
    Handler Reply := do
  let app ← parsedBody body
  if app.id.isEmpty then failWith 400 "missing app id"
  else do
    let app := if app.name.isEmpty then { app with name := app.id } else app
    answering (putAppInOrg env orgId app) internalError
    pure .ok

def createApp (env : Environment) (orgId : Option String) (body : Except String App) :
    Handler Reply := adminCreateAppForOrg env (currentOrgID orgId) body

def adminUpdateAppForOrg (env : Environment) (orgId id : String) (body : Except String App) :
    Handler Reply := do
  let app ← parsedBody body
  let app := { app with id, name := if app.name.isEmpty then id else app.name }
  answering (putAppInOrg env orgId app) internalError
  pure .ok

def adminDeleteAppForOrg (env : Environment) (orgId id : String) : Handler Reply := do
  answering (deleteAppInOrg env orgId id) (orMissing "app not found")
  pure .ok

def adminListAppsForOrg (env : Environment) (orgId : String) : Handler (List App) :=
  answering (listAppsInOrg env orgId) internalError

def adminGetAppForOrg (env : Environment) (orgId id : String) : Handler App :=
  answering (getAppInOrg env orgId id) (orMissing "app not found")

def getAppByID (env : Environment) (orgId : Option String) (id : String) : Handler App :=
  adminGetAppForOrg env (currentOrgID orgId) id

/-- An ambiguous name is answered with a 409 and the ids. -/
inductive Resolution where
  | app (app : App)
  | ambiguous (ids : List String)
  deriving Repr, DecidableEq

/-- The answer for the apps that have the name. -/
def resolution : List App → Handler Resolution
  | [] => failWith 404 "app not found"
  | [app] => pure (.app app)
  | apps => pure (.ambiguous (apps.map (·.id)))

def resolveApp (env : Environment) (orgId : Option String) (selector : String) :
    Handler Resolution := fun db =>
  if selector.isEmpty then failWith 400 "missing app" db
  else
    match getAppInOrg env (currentOrgID orgId) selector db with
    | (.ok app, db) => (.ok (.app app), db)
    | (.error error, db) =>
        if notFound error then
          (do
            let apps ← answering (findAppsByNameInOrg env (currentOrgID orgId) selector) internalError
            resolution apps) db
        else (.error (internalError error), db)

def createRelease (env : Environment) (orgId : Option String) (body : Except String Json) :
    Handler Reply := do
  let release ← parsedBody (body.bind ReleaseManifest.zero.unmarshal)
  if release.appId.isEmpty ∨ release.releaseVersion.isEmpty ∨ release.platform.isEmpty ∨
      release.arch.isEmpty then
    failWith 400 "release manifest missing required fields"
  else do
    answering (ensureAppInOrg env (currentOrgID orgId) release.appId) internalError
    answering (putReleaseInOrg env (currentOrgID orgId) release) internalError
    pure .ok

def adminListReleasesForOrg (env : Environment) (orgId id : String) : Handler (List ReleaseManifest) :=
  answering (listReleasesInOrg env orgId id) (orMissing "app not found")

end CodePush.Server
