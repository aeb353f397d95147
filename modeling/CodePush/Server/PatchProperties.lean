import CodePush.Server.ManifestProperties
import CodePush.Server.UploadEnds
import CodePush.Foundation.Runs

/-!
# Uploaded and served manifests

Every stored manifest stands under its own key, and promotion and rollback change
only what devices are not sent. So a device is served the uploaded manifest as
`servedManifest` describes it, with the address that its organization gives it.
-/

set_option autoImplicit false

namespace CodePush.Server

open CodePush.Core CodePush.Foundation CodePush.Foundation.Action

/-- Every stored manifest stands under its own key. -/
def Keyed (db : Database) : Prop :=
  ∀ key row, db.patches.lookup key = some row →
    ∃ patch : PatchManifest, row.manifestJson = patch.marshal ∧ patch.keyIn key.orgId = key

/-- The manifest stored under the key sends these members to devices. -/
def Sends (db : Database) (key : PatchKey) (members : List (String × Json)) : Prop :=
  ∃ (row : PatchRow) (patch : PatchManifest), db.patches.lookup key = some row ∧
    row.manifestJson = patch.marshal ∧ patch.wireMembers = members

theorem Keyed.insert {db after : Database} (keyed : Keyed db) {patch : PatchManifest}
    {orgId : String} (written : after.patches = db.patches.insert (patch.keyIn orgId) patch.row) :
    Keyed after := by
  intro key row found
  rw [written] at found
  by_cases own : key = patch.keyIn orgId
  · subst own
    rw [AList.lookup_insert] at found
    cases found
    exact ⟨patch, rfl, rfl⟩
  · rw [AList.lookup_insert_ne own] at found
    exact keyed key row found

theorem Keyed.of_patches {db after : Database} (keyed : Keyed db)
    (same : after.patches = db.patches) : Keyed after := by
  intro key row found
  rw [same] at found
  exact keyed key row found

/-- A change of what devices are not sent leaves every manifest as devices see it. -/
theorem Sends.insert {db after : Database} {key stored : PatchKey} {members : List (String × Json)}
    (keyed : Keyed db) (sends : Sends db key members) {row : PatchRow}
    {patch changed : PatchManifest} (found : db.patches.lookup stored = some row)
    (decoded : PatchManifest.zero.unmarshal row.manifestJson = .ok patch)
    (wire : changed.wireMembers = patch.wireMembers)
    (sameKey : changed.keyIn stored.orgId = patch.keyIn stored.orgId)
    (written : after.patches = db.patches.insert (changed.keyIn stored.orgId) changed.row) :
    Sends after key members := by
  obtain ⟨origin, encoded, own⟩ := keyed stored row found
  have same : origin = patch := by
    rw [encoded, PatchManifest.unmarshal_marshal] at decoded
    exact Except.ok.inj decoded
  subst same
  by_cases here : key = stored
  · subst here
    obtain ⟨row', patch', found', encoded', sent⟩ := sends
    cases found.symm.trans found'
    have same : patch' = origin := by
      have both : PatchManifest.zero.unmarshal patch'.marshal = .ok origin := by
        rw [← encoded']
        exact decoded
      rw [PatchManifest.unmarshal_marshal] at both
      exact Except.ok.inj both
    subst same
    refine ⟨changed.row, changed, ?_, rfl, wire.trans sent⟩
    rw [written, sameKey, own, AList.lookup_insert]
  · obtain ⟨row', patch', found', encoded', sent⟩ := sends
    refine ⟨row', patch', ?_, encoded', sent⟩
    rw [written, sameKey, own, AList.lookup_insert_ne here]
    exact found'

/-!
## Requests
-/

theorem changePatch_sends (env : Environment) (orgId : Option String)
    (body : Except String PromotePatchRequest)
    {change : PromotePatchRequest → PatchManifest → PatchManifest}
    (wire : ∀ request patch, (change request patch).wireMembers = patch.wireMembers)
    (sameKey : ∀ request patch orgId, (change request patch).keyIn orgId = patch.keyIn orgId)
    {db : Database} (keyed : Keyed db) :
    Ensures (changePatch env orgId body change) db
      (fun _ after => Keyed after ∧ ∀ key members, Sends db key members → Sends after key members)
      (fun _ after => after.patches = db.patches) := by
  refine (changePatch_ensures env orgId body change db).mono ?_ (fun _ _ same => by rw [same])
  intro _ after changed
  obtain ⟨request, row, patch, _, stored, decoded, same⟩ := changed
  have written := congrArg Database.patches same
  refine ⟨keyed.insert written, ?_⟩
  intro key members sends
  exact sends.insert keyed stored decoded (wire request patch) (sameKey request patch _) written

theorem Sends.of_patches {db after : Database} (same : after.patches = db.patches) {key : PatchKey}
    {members : List (String × Json)} (sends : Sends db key members) : Sends after key members := by
  obtain ⟨row, patch, found, encoded, sent⟩ := sends
  exact ⟨row, patch, same ▸ found, encoded, sent⟩

/-- A promotion or a rollback. -/
def PatchRequest.Activates : PatchRequest → Prop
  | .create _ _ => False
  | .promote _ _ => True
  | .rollback _ _ => True

theorem promotePatch_ensures (env : Environment) (orgId : Option String)
    (body : Except String PromotePatchRequest) {db : Database} (keyed : Keyed db) :
    Ensures (promotePatch env orgId body) db
      (fun _ after => Keyed after ∧ ∀ key members, Sends db key members → Sends after key members)
      (fun _ after => after.patches = db.patches) := by
  unfold promotePatch
  refine changePatch_sends env orgId body ?_ ?_ keyed
  · intro request patch
    rfl
  · intro request patch orgId
    rfl

theorem rollbackPatch_ensures (env : Environment) (orgId : Option String)
    (body : Except String PromotePatchRequest) {db : Database} (keyed : Keyed db) :
    Ensures (rollbackPatch env orgId body) db
      (fun _ after => Keyed after ∧ ∀ key members, Sends db key members → Sends after key members)
      (fun _ after => after.patches = db.patches) := by
  unfold rollbackPatch
  refine changePatch_sends env orgId body ?_ ?_ keyed
  · intro request patch
    rfl
  · intro request patch orgId
    rfl

theorem activation_step (call : PatchCall) (activates : call.request.Activates) {db : Database}
    (keyed : Keyed db) :
    Keyed (servePatch call db).2 ∧
      ∀ key members, Sends db key members → Sends (servePatch call db).2 key members := by
  obtain ⟨env, request⟩ := call
  have kept : ∀ after : Database, after.patches = db.patches →
      Keyed after ∧ ∀ key members, Sends db key members → Sends after key members :=
    fun after same => ⟨keyed.of_patches same, fun _ _ sends => sends.of_patches same⟩
  apply Ensures.finally fun after =>
    Keyed after ∧ ∀ key members, Sends db key members → Sends after key members
  cases request with
  | create orgId body => cases activates
  | promote orgId body =>
      exact (promotePatch_ensures env orgId body keyed).mono
        (fun _ _ ended => ended) (fun _ after same => kept after same)
  | rollback orgId body =>
      exact (rollbackPatch_ensures env orgId body keyed).mono
        (fun _ _ ended => ended) (fun _ after same => kept after same)

theorem createPatch_ensures (env : Environment) (orgId : Option String) (body : Except String Json)
    (db : Database) :
    Ensures (createPatch env orgId body) db
      (fun _ after => ∃ request payload, body.bind CreatePatchRequest.unmarshal = .ok request ∧
        checkUpload env request = .ok payload ∧
        after.patches = db.patches.insert
          ((request.manifest.uploaded (currentOrgID orgId)).keyIn (currentOrgID orgId))
          (request.manifest.uploaded (currentOrgID orgId)).row)
      (fun _ after => after.patches = db.patches) := by
  apply (createPatch_ends env orgId body db).mono
  · intro _ after ends
    cases ends with
    | stored admitted _ listed =>
        refine ⟨_, _, admitted.parsed, admitted.checked, ?_⟩
        rw [((putPatchInOrg_ensures env _ _ _).of_ok listed).1, ← admitted.patches]
        rfl
  · intro _ after ends
    cases ends with
    | rejected | appless => rfl
    | stopped admitted refused => exact refused.patches.trans admitted.patches
    | unlisted admitted => exact admitted.patches

theorem servePatch_keyed (call : PatchCall) {db : Database} (keyed : Keyed db) :
    Keyed (servePatch call db).2 := by
  obtain ⟨env, request⟩ := call
  cases request with
  | promote orgId body =>
      have activates : (PatchRequest.promote orgId body).Activates := trivial
      exact (activation_step ⟨env, .promote orgId body⟩ activates keyed).1
  | rollback orgId body =>
      have activates : (PatchRequest.rollback orgId body).Activates := trivial
      exact (activation_step ⟨env, .rollback orgId body⟩ activates keyed).1
  | create orgId body =>
      apply Ensures.finally fun after => Keyed after
      refine (createPatch_ensures env orgId body db).mono ?_ (fun _ _ same => keyed.of_patches same)
      intro _ after created
      obtain ⟨request, payload, _, _, written⟩ := created
      exact keyed.insert written

theorem keyed_of_history {start : Database} (empty : start.patches = ∅) (history : List PatchCall) :
    Keyed (runFrom servePatch start history) := by
  refine (guarded_true servePatch start history).invariant Keyed ?_ ?_
  · intro db call keyed _
    exact servePatch_keyed call keyed
  · intro key row found
    rw [empty] at found
    cases found

/-- A run of promotions and rollbacks does not change what devices are sent. -/
theorem sends_of_activations {db : Database} (keyed : Keyed db) {later : List PatchCall}
    (activations : ∀ call ∈ later, call.request.Activates) {key : PatchKey}
    {members : List (String × Json)} (sends : Sends db key members) :
    Sends (runFrom servePatch db later) key members := by
  induction later generalizing db with
  | nil => exact sends
  | cons call later ih =>
      obtain ⟨keyed, kept⟩ := activation_step call (activations call List.mem_cons_self) keyed
      exact ih keyed (fun other member => activations other (List.mem_cons_of_mem call member))
        (kept key members sends)

/-!
## From the upload to the device
-/

/-- The body that `Client::create_patch` sends. -/
def uploadBody (manifest : Core.PatchManifest) (payloadB64 : String) : Json :=
  .obj [("manifest", manifest.toValue), ("payload_b64", .str payloadB64)]

theorem unmarshal_uploadBody {manifest : Core.PatchManifest} (fits : manifest.Fits)
    (payloadB64 : String) :
    CreatePatchRequest.unmarshal (uploadBody manifest payloadB64) =
      .ok { manifest := .ofUpload manifest, payloadB64 } := by
  simp [CreatePatchRequest.unmarshal, uploadBody, decodeStruct, decodeMembers,
    CreatePatchRequest.assign, fieldNamed_of_mem, CreatePatchRequest.zero,
    PatchManifest.unmarshal_toValue fits, decodeString]

theorem checkUpload_downloadUrl {env : Environment} {request : CreatePatchRequest} {payload : Bytes}
    (checked : checkUpload env request = .ok payload) :
    request.manifest.payload.downloadUrl = request.manifest.expectedKey := by
  unfold checkUpload at checked
  dsimp only at checked
  obtain ⟨_, checked⟩ := except_guard_eq_ok.mp checked
  split at checked
  · cases checked
  obtain ⟨_, checked⟩ := except_guard_eq_ok.mp checked
  obtain ⟨_, checked⟩ := except_guard_eq_ok.mp checked
  obtain ⟨expected, _⟩ := except_guard_eq_ok.mp checked
  exact Decidable.not_not.mp expected

theorem currentOrgID_ne_empty (orgId : Option String) : (currentOrgID orgId).isEmpty = false := by
  unfold currentOrgID
  split
  · split
    · rfl
    case isFalse named => simpa using named
  · rfl

theorem orgScopedPayloadKey_eq_self {orgId : String} (named : orgId.isEmpty = false) (key : String) :
    orgScopedPayloadKey orgId key = key ↔ orgId = defaultOrgID := by
  unfold orgScopedPayloadKey
  constructor
  · intro same
    by_contra other
    rw [if_neg (by simp [named, other])] at same
    have longer := congrArg String.length same
    simp only [toString, String.length_append] at longer
    have slash : "orgs/".length = 5 := by decide
    omega
  · intro default
    rw [if_pos (.inr default)]

/-- The query names the patch. -/
structure ManifestQuery.Names (query : ManifestQuery) (orgId : String)
    (manifest : Core.PatchManifest) : Prop where
  orgId : (if query.orgId.isEmpty then defaultOrgID else query.orgId) = orgId
  appId : query.appId = manifest.appId
  releaseVersion : query.releaseVersion = manifest.releaseVersion
  platform : query.platform = manifest.platform
  arch : query.arch = manifest.arch
  patchNumber : parseInt query.patchNumber = some (manifest.patchNumber : Int)

theorem patchManifest_sends {env : Environment} {query : ManifestQuery} {orgId : String}
    {manifest : Core.PatchManifest} (names : query.Names orgId manifest) {db : Database}
    {members : List (String × Json)}
    (sends : Sends db ((PatchManifest.ofUpload manifest).keyIn orgId) members) {json : Json}
    (served : (patchManifest env query db).1 = .ok json) : json = .obj members := by
  have ensured : Ensures (patchManifest env query) db (fun json _ => json = .obj members)
      (fun _ _ => True) := by
    unfold patchManifest
    rw [names.patchNumber]
    dsimp only
    split
    · exact ensures_throw trivial
    apply ensures_bind
    apply answering_ensures
    refine (getPatchInOrg_ensures env _ db).mono ?_ (fun _ _ _ => trivial)
    intro patch read found
    obtain ⟨_, row, stored, decoded⟩ := found
    rw [names.orgId, names.appId, names.releaseVersion, names.platform, names.arch] at stored
    obtain ⟨row', patch', stored', encoded, sent⟩ := sends
    cases stored.symm.trans stored'
    rw [encoded, PatchManifest.unmarshal_marshal] at decoded
    cases decoded
    apply ensures_pure
    rw [patchManifestBytes, sent]
  exact ensured.of_ok (Prod.ext served rfl)

/-- No text of the payload is present and empty. -/
def NoEmptyTexts (payload : Core.PayloadManifest) : Prop :=
  payload.diffAlgorithm ≠ some "" ∧ payload.baseHash ≠ some "" ∧ payload.outputHash ≠ some ""

/-- The stored upload sends what was uploaded, with the address of its organization. -/
theorem sends_upload {db after : Database} {patch : PatchManifest} {orgId : String}
    (written : after.patches =
      db.patches.insert ((patch.uploaded orgId).keyIn orgId) (patch.uploaded orgId).row) :
    Sends after (patch.keyIn orgId)
      (patch.withDownloadUrl (orgScopedPayloadKey orgId patch.expectedKey)).wireMembers := by
  refine ⟨(patch.uploaded orgId).row, patch.uploaded orgId, ?_, rfl, rfl⟩
  rw [written]
  exact AList.lookup_insert _

/-- The signature is checked over the unsigned manifest. -/
theorem verifyPatchManifest_congr {left right : Core.PatchManifest}
    (unsigned : left.unsigned = right.unsigned) (value : left.signature.value = right.signature.value)
    (lib : Primitives) (key : String) :
    verifyPatchManifest lib left key = verifyPatchManifest lib right key := by
  have algorithm : left.signature.algorithm = right.signature.algorithm :=
    congrArg (fun manifest => manifest.signature.algorithm) unsigned
  simp only [verifyPatchManifest, algorithm, unsigned, value]

/-- What a device reads of an accepted upload, after any promotions and rollbacks. -/
theorem served_manifest_read {start : Database} (empty : start.patches = ∅)
    (history : List PatchCall) {env : Environment} {orgId : Option String}
    {uploaded : Core.PatchManifest} (fits : uploaded.Fits) {payloadB64 : String}
    (created : (createPatch env orgId (.ok (uploadBody uploaded payloadB64))
      (runFrom servePatch start history)).1 = .ok .ok)
    {later : List PatchCall} (activations : ∀ call ∈ later, call.request.Activates)
    {reader : Environment} {query : ManifestQuery}
    (names : query.Names (currentOrgID orgId) uploaded) {json : Json}
    (served : (patchManifest reader query (runFrom servePatch
      (createPatch env orgId (.ok (uploadBody uploaded payloadB64))
        (runFrom servePatch start history)).2 later)).1 = .ok json) :
    ∃ members, json = .obj members ∧ Core.PatchManifest.fromMembers members =
      .ok (servedManifest uploaded
        (orgScopedPayloadKey (currentOrgID orgId) uploaded.payload.downloadUrl)) := by
  have keyed := keyed_of_history empty history
  revert keyed created served
  generalize runFrom servePatch start history = db
  intro created served keyed
  have ensured := createPatch_ensures env orgId (.ok (uploadBody uploaded payloadB64)) db
  rcases ended : createPatch env orgId (.ok (uploadBody uploaded payloadB64)) db with ⟨answer, after⟩
  rw [ended] at created served
  obtain rfl : answer = .ok .ok := created
  obtain ⟨request, payload, parsed, checked, written⟩ := ensured.of_ok ended
  have read : request = { manifest := .ofUpload uploaded, payloadB64 } := by
    rw [Except.bind, unmarshal_uploadBody fits] at parsed
    exact (Except.ok.inj parsed).symm
  subst read
  have address : uploaded.payload.downloadUrl = (PatchManifest.ofUpload uploaded).expectedKey :=
    checkUpload_downloadUrl checked
  have sends := sends_of_activations (keyed.insert written) activations (sends_upload written)
  rw [address]
  exact ⟨_, patchManifest_sends names sends served, fromMembers_served fits _⟩

/-- What a device verifies is what was uploaded exactly in the default organization
and without texts that are present and empty; then every signature verifies on the
device as it did on the upload. -/
theorem served_manifest_signed_bytes (start : Database) (empty : start.patches = ∅)
    (history : List PatchCall) (env : Environment) (orgId : Option String)
    (uploaded : Core.PatchManifest) (fits : uploaded.Fits) (payloadB64 : String)
    (created : (createPatch env orgId (.ok (uploadBody uploaded payloadB64))
      (runFrom servePatch start history)).1 = .ok .ok)
    (later : List PatchCall) (activations : ∀ call ∈ later, call.request.Activates)
    (reader : Environment) (query : ManifestQuery)
    (names : query.Names (currentOrgID orgId) uploaded) (json : Json)
    (served : (patchManifest reader query (runFrom servePatch
      (createPatch env orgId (.ok (uploadBody uploaded payloadB64))
        (runFrom servePatch start history)).2 later)).1 = .ok json) :
    ∃ members manifest, json = .obj members ∧
      Core.PatchManifest.fromMembers members = .ok manifest ∧
      (manifest.unsigned = uploaded.unsigned ↔
        currentOrgID orgId = defaultOrgID ∧ NoEmptyTexts uploaded.payload) ∧
      (manifest.unsigned = uploaded.unsigned → ∀ lib key,
        verifyPatchManifest lib manifest key = verifyPatchManifest lib uploaded key) := by
  obtain ⟨members, body, read⟩ := served_manifest_read empty history fits created activations names served
  refine ⟨members, _, body, read, ?_, ?_⟩
  · rw [servedManifest_unsigned, orgScopedPayloadKey_eq_self (currentOrgID_ne_empty orgId)]
    rfl
  · intro same lib key
    exact verifyPatchManifest_congr same rfl lib key

/-!
## An upload to two organizations
-/

/-- The payload is the text `abc`. -/
def abcUpload : Core.PatchManifest where
  schemaVersion := 1
  appId := "app"
  releaseVersion := "1"
  patchNumber := 1
  channel := "stable"
  createdAt := "2026-01-01T00:00:00Z"
  backend := "bytecode"
  platform := "ios"
  arch := "arm64"
  payload :=
    { kind := "bytecode_module", compression := "none"
      hash := "ba7816bf8f01cfea414140de5dae2223b00361a396177a9cb410ff61f20015ad"
      size := 3, downloadUrl := "patches/app/1/ios/arm64/1/payload.bin"
      diffAlgorithm := none, baseHash := none, outputHash := none }
  policy := { rolloutPercentage := 100, allowDowngrade := false }
  signature := { algorithm := "ed25519", keyId := "dev", value := "" }

theorem abcUpload_fits : abcUpload.Fits := by
  constructor
  all_goals decide

def abcEnv : Environment where
  now := 0
  sha256Hex := fun _ => abcUpload.payload.hash
  decodeBase64 := fun text => if text = "YWJj" then some [97, 98, 99] else none
  generateFromPassword := fun _ => .error "unused"
  compareHashAndPassword := fun _ _ => false
  randomToken := .error "unused"
  sql := fun _ => .ok ()
  sqlAgain := fun _ => .ok ()
  storageKind := .s3
  storage := fun _ => .ok ()
  failedPut := .nothing

/-- The server after its setup and the creation of the organization `acme`. -/
def abcDatabase : Database :=
  { Database.migrated 0 with
    organizations := (Database.migrated 0).organizations.insert "acme"
      { name := "Acme", createdAt := 0 } }

def abcQuery (orgId : String) : ManifestQuery where
  orgId := orgId
  appId := "app"
  releaseVersion := "1"
  platform := "ios"
  arch := "arm64"
  patchNumber := "1"

theorem abcQuery_names (orgId : String) (named : orgId.isEmpty = false) :
    (abcQuery orgId).Names (currentOrgID (some orgId)) abcUpload := by
  constructor
  · simp [abcQuery, currentOrgID, named]
  · rfl
  · rfl
  · rfl
  · rfl
  · show parseInt "1" = some 1
    decide

def abcCreated (orgId : String) : Except HttpError Reply × Database :=
  createPatch abcEnv (some orgId) (.ok (uploadBody abcUpload "YWJj")) abcDatabase

def abcPromotion (orgId : String) : PatchCall where
  env := abcEnv
  request := .promote (some orgId) (.ok
    { appId := "app", releaseVersion := "1", platform := "ios", arch := "arm64"
      patchNumber := 1, channel := "stable", rolloutPercentage := 100 })

def abcServed (orgId : String) : Except HttpError Json :=
  (patchManifest abcEnv (abcQuery orgId)
    (runFrom servePatch (abcCreated orgId).2 [abcPromotion orgId])).1

/-- In the default organization the promoted patch reaches the device as uploaded. -/
theorem default_org_serves_upload :
    ∃ json members manifest, abcServed "default" = .ok json ∧ json = .obj members ∧
      Core.PatchManifest.fromMembers members = .ok manifest ∧
      manifest.unsigned = abcUpload.unsigned := by
  have accepted : (abcCreated "default").1 = .ok .ok := by decide
  have activations : ∀ call ∈ [abcPromotion "default"], call.request.Activates := by
    intro call member
    cases List.mem_singleton.mp member
    trivial
  have found : (abcServed "default").toBool = true := by decide
  rcases served : abcServed "default" with error | json
  · rw [served] at found
    cases found
  · obtain ⟨members, manifest, body, read, exactly, _⟩ :=
      served_manifest_signed_bytes abcDatabase rfl [] abcEnv (some "default") abcUpload
        abcUpload_fits "YWJj" accepted [abcPromotion "default"] activations abcEnv
        (abcQuery "default") (abcQuery_names "default" (by decide)) json served
    exact ⟨json, members, manifest, rfl, body, read, exactly.mpr ⟨by decide, by unfold NoEmptyTexts; decide⟩⟩

/-- In any other organization the address differs from the signed one. -/
theorem acme_serves_other_address :
    ¬ ∀ (start : Database), start.patches = ∅ →
      ∀ (history : List PatchCall) (env : Environment) (orgId : Option String)
        (uploaded : Core.PatchManifest), uploaded.Fits → ∀ payloadB64 : String,
      (createPatch env orgId (.ok (uploadBody uploaded payloadB64))
        (runFrom servePatch start history)).1 = .ok .ok →
      ∀ later : List PatchCall, (∀ call ∈ later, call.request.Activates) →
      ∀ (reader : Environment) (query : ManifestQuery),
      query.Names (currentOrgID orgId) uploaded → ∀ json,
      (patchManifest reader query (runFrom servePatch
        (createPatch env orgId (.ok (uploadBody uploaded payloadB64))
          (runFrom servePatch start history)).2 later)).1 = .ok json →
      ∃ members manifest, json = .obj members ∧
        Core.PatchManifest.fromMembers members = .ok manifest ∧
        manifest.unsigned = uploaded.unsigned := by
  intro same
  have accepted : (abcCreated "acme").1 = .ok .ok := by decide
  have activations : ∀ call ∈ [abcPromotion "acme"], call.request.Activates := by
    intro call member
    cases List.mem_singleton.mp member
    trivial
  have names := abcQuery_names "acme" (by decide)
  have found : (abcServed "acme").toBool = true := by decide
  rcases served : abcServed "acme" with error | json
  · rw [served] at found
    cases found
  · obtain ⟨members, manifest, body, read, unsigned⟩ :=
      same abcDatabase rfl [] abcEnv (some "acme") abcUpload abcUpload_fits "YWJj" accepted
        [abcPromotion "acme"] activations abcEnv (abcQuery "acme") names json served
    obtain ⟨members', body', read'⟩ := served_manifest_read (rfl : abcDatabase.patches = ∅) []
      abcUpload_fits accepted activations names served
    cases body.symm.trans body'
    cases read.symm.trans read'
    have address := (servedManifest_unsigned.mp unsigned).1
    rw [orgScopedPayloadKey_eq_self (currentOrgID_ne_empty _)] at address
    revert address
    decide

end CodePush.Server
