import CodePush.Server.Apps

/-!
# Patches on the server

Upload, promotion, rollback and delivery of patches, as in `server/handlers.go`.
The organization of a request is the one its token or its route gave it.
-/

set_option autoImplicit false

namespace CodePush.Server

open CodePush.Core CodePush.Foundation

/-!
## Patches
-/

def patchPayloadKey (appId releaseVersion platform arch : String) (patchNumber : Int64) : String :=
  s!"patches/{appId}/{releaseVersion}/{platform}/{arch}/{patchNumber.toInt}/payload.bin"

def PatchManifest.expectedKey (patch : PatchManifest) : String :=
  patchPayloadKey patch.appId patch.releaseVersion patch.platform patch.arch patch.patchNumber

def orgScopedPayloadKey (orgId key : String) : String :=
  if orgId.isEmpty ∨ orgId = defaultOrgID then key else s!"orgs/{orgId}/{key}"

def PatchManifest.keyIn (patch : PatchManifest) (orgId : String) : PatchKey where
  orgId := orgId
  appId := patch.appId
  releaseVersion := patch.releaseVersion
  platform := patch.platform
  arch := patch.arch
  patchNumber := patch.patchNumber

def PatchManifest.row (patch : PatchManifest) : PatchRow where
  channel := patch.channel
  activeChannel := if patch.activeChannel.isEmpty then none else some patch.activeChannel
  activeRollout := patch.activeRollout
  active := patch.active
  payloadKey := patch.payload.downloadUrl
  payloadHash := patch.payload.hash
  manifestJson := patch.marshal

def putPatchInOrg (env : Environment) (orgId : String) (patch : PatchManifest) : StoreOp Unit := do
  let _ ← getAppInOrg env.again orgId patch.appId
  exec env .insertPatch
  modify fun db => { db with patches := db.patches.insert (patch.keyIn orgId) patch.row }

def getPatchInOrg (env : Environment) (key : PatchKey) : StoreOp PatchManifest := do
  let _ ← getAppInOrg env key.orgId key.appId
  exec env .selectPatch
  let found ← row ((← get).patches.lookup key)
  Action.attempt (match PatchManifest.zero.unmarshal found.manifestJson with
    | .ok patch => .ok patch
    | .error text => .error (.message text))

/-- `order by release_version desc, patch_number desc`. -/
def listPatchesInOrg (env : Environment) (orgId appId : String) : StoreOp (List PatchManifest) := do
  let _ ← getAppInOrg env orgId appId
  exec env .selectPatches
  let rows := (← get).patches.entries.filter fun entry => entry.1.orgId = orgId ∧ entry.1.appId = appId
  let sorted := rows.insertionSort fun left right =>
    right.1.releaseVersion < left.1.releaseVersion ∨
      (left.1.releaseVersion = right.1.releaseVersion ∧ right.1.patchNumber ≤ left.1.patchNumber)
  sorted.mapM fun entry => stored (PatchManifest.zero.unmarshal entry.2.manifestJson)

/-!
## Storage
-/

/-- The names of a path. -/
def slashParts (text : String) : List (List Char) := text.toList.splitOn '/'

/-- The path of the key leads through the other one. -/
def KeyAbove (upper key : String) : Prop := slashParts upper <+: slashParts key ∧ upper ≠ key

instance decidableKeyAbove (upper key : String) : Decidable (KeyAbove upper key) :=
  inferInstanceAs (Decidable (slashParts upper <+: slashParts key ∧ upper ≠ key))

/-- `LocalFSStorage` keeps an object as a file in the directories that its key names. -/
def Database.IsDirectory (db : Database) (key : String) : Prop :=
  (∃ object ∈ db.objects.keys, KeyAbove key object) ∨
    ∃ path ∈ db.directories, slashParts key <+: slashParts path

instance Database.decidableIsDirectory (db : Database) (key : String) : Decidable (db.IsDirectory key) :=
  inferInstanceAs (Decidable ((∃ object ∈ db.objects.keys, KeyAbove key object) ∨
    ∃ path ∈ db.directories, slashParts key <+: slashParts path))

/-- There is a file where the key needs a directory. -/
def Database.Barred (db : Database) (key : String) : Prop := ∃ object ∈ db.objects.keys, KeyAbove object key

instance Database.decidableBarred (db : Database) (key : String) : Decidable (db.Barred key) :=
  inferInstanceAs (Decidable (∃ object ∈ db.objects.keys, KeyAbove object key))

/-- What `Get` comes to that does not fail otherwise. A directory can be opened, not read. -/
inductive Opened where
  | object (payload : Bytes)
  | directory (readError : String)
  | missing
  | failed (message : String)
  deriving Repr, DecidableEq

def Database.opened (db : Database) (kind : StorageKind) (key : String) : Opened :=
  match db.objects.lookup key, kind with
  | some payload, _ => .object payload
  | none, .s3 => .missing
  | none, .localFS notDirectory isDirectory =>
      if db.IsDirectory key then .directory (isDirectory key)
      else if db.Barred key then .failed (notDirectory key)
      else .missing

def Database.withObject (db : Database) (key : String) (payload : Bytes) : Database :=
  { db with objects := db.objects.insert key payload }

def Database.withDirectory (db : Database) (path : String) : Database :=
  { db with directories := if db.IsDirectory path then db.directories else path :: db.directories }

/-- `writeFileAtomic` makes the directories above its file first. -/
def Database.afterFailedPut (db : Database) (env : Environment) (key : String) (payload : Bytes) :
    Database :=
  match env.failedPut, env.storageKind with
  | .directory path, .localFS _ _ => if KeyAbove path key then db.withDirectory path else db
  | .object, _ => db.withObject key payload
  | _, _ => db

/-- The answer of an upload to what is there under its key. -/
def Opened.free : Opened → Except HttpError Unit
  | .object _ | .directory _ => .error { status := 409, message := "payload object already exists" }
  | .missing => .ok ()
  | .failed message => .error { status := 500, message }

/-!
## Handlers
-/

structure CreatePatchRequest where
  manifest : PatchManifest
  payloadB64 : String
  deriving Repr, DecidableEq

namespace CreatePatchRequest

def zero : CreatePatchRequest where
  manifest := .zero
  payloadB64 := ""

def assign (key : String) (value : Json) (request : CreatePatchRequest) :
    Except String CreatePatchRequest :=
  match fieldNamed ["manifest", "payload_b64"] key with
  | some "manifest" => (request.manifest.unmarshal value).map ({ request with manifest := · })
  | some "payload_b64" => (decodeString request.payloadB64 value).map ({ request with payloadB64 := · })
  | _ => .ok request

def unmarshal (value : Json) : Except String CreatePatchRequest :=
  decodeStruct "main.CreatePatchRequest" assign zero value

end CreatePatchRequest

/-- The checks of an upload, in the order they are made; the payload if all pass. -/
def checkUpload (env : Environment) (request : CreatePatchRequest) : Except HttpError Bytes :=
  let manifest := request.manifest
  let refuse := fun message : String => Except.error ({ status := 400, message } : HttpError)
  if manifest.appId.isEmpty ∨ manifest.releaseVersion.isEmpty ∨ manifest.patchNumber = 0 then
    refuse "patch manifest missing required fields"
  else
    match env.decodeBase64 request.payloadB64 with
    | none => refuse "invalid payload_b64"
    | some payload =>
        if UInt64.ofNat payload.length ≠ manifest.payload.size then refuse "payload size mismatch"
        else if env.sha256Hex payload ≠ manifest.payload.hash then refuse "payload hash mismatch"
        else if manifest.payload.downloadUrl ≠ manifest.expectedKey then
          refuse "payload download_url does not match server object key"
        else .ok payload

/-- `s.storage.Get`, and the answer to what it finds. -/
def lookForObject (env : Environment) (key : String) : Handler Unit := do
  Action.attempt (match env.storage (.get key) with
    | .ok _ => .ok ()
    | .error message => .error { status := 500, message })
  let db ← get
  Action.attempt (db.opened env.storageKind key).free

/-- `s.storage.Put`. -/
def storePayload (env : Environment) (key : String) (payload : Bytes) : Handler Unit :=
  match env.storage (.put key) with
  | .ok _ => modify (·.withObject key payload)
  | .error message => do
      modify (·.afterFailedPut env key payload)
      failWith 500 message

def putObject (env : Environment) (key : String) (payload : Bytes) : Handler Unit := do
  lookForObject env key
  storePayload env key payload

/-- What is stored for an upload. -/
def PatchManifest.uploaded (patch : PatchManifest) (orgId : String) : PatchManifest :=
  { patch.withDownloadUrl (orgScopedPayloadKey orgId patch.expectedKey) with
    active := false
    activeChannel := patch.channel
    activeRollout := patch.policy.rolloutPercentage }

def createPatch (env : Environment) (orgId : Option String) (body : Except String Json) :
    Handler Reply := do
  let request ← parsedBody (body.bind CreatePatchRequest.unmarshal)
  let payload ← Action.attempt (checkUpload env request)
  let orgId := currentOrgID orgId
  let patch := request.manifest.uploaded orgId
  answering (ensureAppInOrg env orgId patch.appId) internalError
  putObject env patch.payload.downloadUrl payload
  answering (putPatchInOrg env orgId patch) internalError
  pure .ok

structure PromotePatchRequest where
  appId : String
  releaseVersion : String
  platform : String
  arch : String
  patchNumber : Int64
  channel : String
  rolloutPercentage : Int64
  deriving Repr, DecidableEq

def patchNotFound (error : StoreError) : HttpError :=
  if notFound error then { status := 404, message := "patch not found" } else internalError error

/-- The common part of promotion and rollback. -/
def changePatch (env : Environment) (orgId : Option String)
    (body : Except String PromotePatchRequest)
    (change : PromotePatchRequest → PatchManifest → PatchManifest) : Handler Reply := do
  let request ← parsedBody body
  let orgId := currentOrgID orgId
  let patch ← answering (getPatchInOrg env
    { orgId, appId := request.appId, releaseVersion := request.releaseVersion
      platform := request.platform, arch := request.arch
      patchNumber := request.patchNumber }) patchNotFound
  answering (putPatchInOrg env orgId (change request patch)) internalError
  pure .ok

def promotePatch (env : Environment) (orgId : Option String)
    (body : Except String PromotePatchRequest) : Handler Reply :=
  changePatch env orgId body fun request patch =>
    { patch with
      active := true
      activeChannel := request.channel
      activeRollout := request.rolloutPercentage }

def rollbackPatch (env : Environment) (orgId : Option String)
    (body : Except String PromotePatchRequest) : Handler Reply :=
  changePatch env orgId body fun _ patch => { patch with active := false, activeRollout := 0 }

def adminListPatchesForOrg (env : Environment) (orgId id : String) : Handler (List PatchManifest) :=
  answering (listPatchesInOrg env orgId id) (orMissing "app not found")

structure ManifestQuery where
  orgId : String
  appId : String
  releaseVersion : String
  platform : String
  arch : String
  patchNumber : String
  deriving Repr, DecidableEq

/-- `strconv.Atoi` is `parseInt` on a 64-bit machine. -/
def patchManifest (env : Environment) (query : ManifestQuery) : Handler Json := do
  match parseInt query.patchNumber with
  | none => failWith 400 "invalid patch_number"
  | some patchNumber =>
      if patchNumber ≤ 0 then failWith 400 "invalid patch_number"
      else do
        let orgId := if query.orgId.isEmpty then defaultOrgID else query.orgId
        let patch ← answering (getPatchInOrg env
          { orgId, appId := query.appId, releaseVersion := query.releaseVersion
            platform := query.platform, arch := query.arch
            patchNumber := Int64.ofInt patchNumber }) patchNotFound
        pure (patchManifestBytes patch)

/-!
## Requests
-/

inductive PatchRequest where
  | create (orgId : Option String) (body : Except String Json)
  | promote (orgId : Option String) (body : Except String PromotePatchRequest)
  | rollback (orgId : Option String) (body : Except String PromotePatchRequest)

structure PatchCall where
  env : Environment
  request : PatchRequest

def handlePatch (env : Environment) : PatchRequest → Handler Reply
  | .create orgId body => createPatch env orgId body
  | .promote orgId body => promotePatch env orgId body
  | .rollback orgId body => rollbackPatch env orgId body

def servePatch (call : PatchCall) (db : Database) : Except HttpError Reply × Database :=
  handlePatch call.env call.request db

end CodePush.Server
