import CodePush.Server.Patches

/-!
# Delivery of patches

What devices ask the server: whether there is a patch for them, its manifest and its
payload, as in `server/handlers.go`, `server/store.go` and `server/util.go`.
-/

set_option autoImplicit false

namespace CodePush.Server

open CodePush.Core CodePush.Foundation

/-!
## Bytes on the wire
-/

/-- `encoding/json` also escapes what HTML and JavaScript treat specially. -/
def marshalChar (char : Char) : String :=
  match char.toNat with
  | 0x3c => "\\u003c"
  | 0x3e => "\\u003e"
  | 0x26 => "\\u0026"
  | 0x2028 => "\\u2028"
  | 0x2029 => "\\u2029"
  | _ => Json.escapeChar char

def marshalString (text : String) : String :=
  "\"" ++ String.join (text.toList.map marshalChar) ++ "\""

mutual

def marshalJson : Json → String
  | .null => "null"
  | .bool value => if value then "true" else "false"
  | .num value => toString value
  | .str value => marshalString value
  | .arr items => "[" ++ marshalItems items ++ "]"
  | .obj members => "\x7b" ++ marshalMembers members ++ "\x7d"

def marshalItems : List Json → String
  | [] => ""
  | [item] => marshalJson item
  | item :: items => marshalJson item ++ "," ++ marshalItems items

def marshalMembers : List (String × Json) → String
  | [] => ""
  | [(key, value)] => marshalString key ++ ":" ++ marshalJson value
  | (key, value) :: members =>
      marshalString key ++ ":" ++ marshalJson value ++ "," ++ marshalMembers members

end

/-- `json.Marshal`. -/
def wireBytes (value : Json) : Bytes := stringBytes (marshalJson value)

/-!
## Rollout
-/

/-- `fnv.New32a`. -/
def fnv32a (bytes : Bytes) : UInt32 :=
  bytes.foldl (fun hash byte => (hash ^^^ byte.toUInt32) * 16777619) 2166136261

def cohort (appId releaseVersion clientId : String) : Nat :=
  (fnv32a (stringBytes (appId ++ "|" ++ releaseVersion ++ "|" ++ clientId))).toNat % 10000

def eligible (appId releaseVersion clientId : String) (rollout : Int64) : Bool :=
  if rollout ≤ 0 then false
  else if rollout ≥ 100 then true
  else (cohort appId releaseVersion clientId : Int) < rollout.toInt * 100

def activeChannel (patch : PatchManifest) : String :=
  if patch.activeChannel.isEmpty then patch.channel else patch.activeChannel

/-!
## Selection
-/

/-- A device's question. `clientId` and the texts of the query are as they arrive. -/
structure CheckQuery where
  orgId : String
  appId : String
  releaseVersion : String
  platform : String
  arch : String
  channel : String
  clientId : String
  currentPatchNumber : String
  deriving Repr, DecidableEq

namespace CheckQuery

/-- Without an organization the default one is asked. -/
def org (query : CheckQuery) : String :=
  if query.orgId.isEmpty then defaultOrgID else query.orgId

/-- The key of the patch with the number. -/
def key (query : CheckQuery) (patchNumber : Int64) : PatchKey where
  orgId := query.org
  appId := query.appId
  releaseVersion := query.releaseVersion
  platform := query.platform
  arch := query.arch
  patchNumber := patchNumber

end CheckQuery

/-- `strconv.Atoi` with its error ignored: zero for a text that is no number, the
nearest number for one that is out of range. -/
def atoi (text : String) : Int64 :=
  let chars := text.toList
  let negative := chars.head? = some '-'
  let digits := if negative ∨ chars.head? = some '+' then chars.tail else chars
  if digits.isEmpty || !digits.all Char.isDigit then 0
  else
    let magnitude : Nat := digits.foldl (fun value digit => value * 10 + (digit.toNat - 48)) 0
    let value : Int := if negative then -magnitude else magnitude
    Int64.ofInt (max (-2 ^ 63) (min value (2 ^ 63 - 1)))

/-- `.. and active = 1 and patch_number > ? order by patch_number desc`. -/
def Database.newerPatches (db : Database) (query : CheckQuery) (current : Int64) : List PatchRow :=
  let rows := db.patches.entries.filter fun entry =>
    entry.1 = query.key entry.1.patchNumber ∧ entry.2.active ∧ current < entry.1.patchNumber
  (rows.insertionSort fun left right => right.1.patchNumber ≤ left.1.patchNumber).map (·.2)

/-- The first row that the device may have. -/
def firstEligible (query : CheckQuery) : List PatchRow → StoreOp (Option PatchManifest)
  | [] => pure none
  | row :: rows => do
      let patch ← stored (PatchManifest.zero.unmarshal row.manifestJson)
      if activeChannel patch = query.channel ∧
          eligible query.appId query.releaseVersion query.clientId patch.activeRollout then
        pure (some patch)
      else firstEligible query rows

/-- Without the app there is no patch. -/
def bestPatchInOrg (env : Environment) (query : CheckQuery) (current : Int64) :
    StoreOp (Option PatchManifest) := fun db =>
  match getAppInOrg env query.org query.appId db with
  | (.error error, db) => if notFound error then (.ok none, db) else (.error error, db)
  | (.ok _, db) =>
      (do
        exec env .selectPatches
        firstEligible query ((← get).newerPatches query current)) db

/-!
## Handlers
-/

/-- The address of a manifest is given by its query; that of a payload is signed by
the storage, and absolute. -/
structure PatchCheck where
  patchNumber : Int64
  manifestUrl : ManifestQuery
  payloadUrl : String
  manifestHash : String
  payloadHash : String
  deriving Repr, DecidableEq

/-- `manifestURL`: the default organization is not named. -/
def manifestURL (orgId : String) (patch : PatchManifest) : ManifestQuery where
  orgId := if orgId = defaultOrgID then "" else orgId
  appId := patch.appId
  releaseVersion := patch.releaseVersion
  platform := patch.platform
  arch := patch.arch
  patchNumber := toString patch.patchNumber.toInt

/-- An address of the server itself is completed with the host of the request. -/
def absoluteURL (host url : String) : String :=
  if url.toList.head? = some '/' then host ++ url else url

/-- `none` is the answer without a patch. `host` is the scheme and the host that the
request came to. -/
def checkPatch (env : Environment) (signedURL : String → Except String String) (host : String)
    (query : CheckQuery) : Handler (Option PatchCheck) := do
  let best ← answering (bestPatchInOrg env query (atoi query.currentPatchNumber)) internalError
  match best with
  | none => pure none
  | some patch => do
      let url ← Action.attempt (match signedURL patch.payload.downloadUrl with
        | .ok url => .ok url
        | .error message => .error { status := 500, message })
      pure (some {
        patchNumber := patch.patchNumber
        manifestUrl := manifestURL query.org patch
        payloadUrl := absoluteURL host url
        manifestHash := env.sha256Hex (wireBytes (patchManifestBytes patch))
        payloadHash := patch.payload.hash })

/-- An object's size is that of its data. -/
def patchPayload (env : Environment) (key : String) : Handler Bytes := do
  Action.attempt (match env.storage (.get key) with
    | .ok _ => .ok ()
    | .error message => .error { status := 400, message })
  match (← get).opened env.storageKind key with
  | .object payload => pure payload
  | .directory readError => failWith 500 readError
  | .missing => failWith 404 "payload not found"
  | .failed message => failWith 400 message

end CodePush.Server
