import CodePush.Server.UploadSteps
import CodePush.Server.PatchStore

/-!
# Uploads under concurrent requests

An upload looks for its payload's key before it puts the payload there. Two uploads
that both find the key free put one payload after the other, and the row of the first
may name the payload of the second. Nothing else comes between a row and its payload.
-/

set_option autoImplicit false

namespace CodePush.Server

open CodePush.Core CodePush.Foundation

/-!
## Requests
-/

structure UploadCall where
  env : Environment
  orgId : Option String
  body : Except String Json

def UploadCall.steps (call : UploadCall) : HandlerSteps Reply :=
  createPatchSteps call.env call.orgId call.body

/-- The uploads that are under way, and the database. -/
abbrev Uploaders := List (Process Operation Database (Except HttpError Reply)) × Database

def uploaders (calls : List UploadCall) (db : Database) : Uploaders := (calls.map (·.steps), db)

/-- The payload has the hash and the size that the manifest of the row records. -/
def PatchRow.Records (sha256 : Bytes → String) (row : PatchRow) (payload : Bytes) : Prop :=
  ∃ patch, PatchManifest.zero.unmarshal row.manifestJson = .ok patch ∧
    sha256 payload = patch.payload.hash ∧ UInt64.ofNat payload.length = patch.payload.size

/-- Every row's payload is there, and is the one that the row records. -/
def Database.Consistent (sha256 : Bytes → String) (db : Database) : Prop :=
  ∀ key row, db.patches.lookup key = some row →
    ∃ payload, db.objects.lookup row.payloadKey = some payload ∧ row.Records sha256 payload

/-- A payload takes the place of another one. -/
def Operation.Replaces : Operation → Database → Prop
  | .putObject key payload, db => ∃ other ∈ db.objects.lookup key, other ≠ payload
  | _, _ => False

instance Operation.decidableReplaces (operation : Operation) (db : Database) :
    Decidable (operation.Replaces db) :=
  match operation with
  | .putObject key payload =>
      inferInstanceAs (Decidable (∃ other ∈ db.objects.lookup key, other ≠ payload))
  | .read | .updateMembership _ _ _ | .deleteMembership _ _ | .putApp _ _ _ | .makeDirectory _
  | .insertPatch _ _ =>
      inferInstanceAs (Decidable False)

/-- A payload takes the place of the one that a row records, or a row comes too late
for its payload. -/
def Operation.Spoils (sha256 : Bytes → String) : Operation → Database → Prop
  | .putObject key payload, db => ∃ patchKey row, db.patches.lookup patchKey = some row ∧
      row.payloadKey = key ∧ ¬ row.Records sha256 payload
  | .insertPatch _ row, db =>
      ∀ payload, db.objects.lookup row.payloadKey = some payload → ¬ row.Records sha256 payload
  | _, _ => False

/-- The next step of the upload replaces another payload. -/
def Replacing (state : Uploaders) (index : Nat) : Prop :=
  ∃ operation ∈ pending state.1 index, operation.Replaces state.2

instance decidableReplacing (state : Uploaders) (index : Nat) : Decidable (Replacing state index) :=
  inferInstanceAs (Decidable (∃ operation ∈ pending state.1 index, operation.Replaces state.2))

def Spoiling (sha256 : Bytes → String) (state : Uploaders) (index : Nat) : Prop :=
  ∃ operation ∈ pending state.1 index, operation.Spoils sha256 state.2

/-!
## Steps
-/

section Effects

variable {sha256 : Bytes → String} {db : Database}

theorem consistent_congr {after : Database} (patches : after.patches = db.patches)
    (objects : after.objects = db.objects) : after.Consistent sha256 ↔ db.Consistent sha256 := by
  simp only [Database.Consistent, patches, objects]

/-- Only the two writes of uploads are about patches and payloads. -/
def Operation.Plain : Operation → Prop
  | .putObject _ _ | .insertPatch _ _ => False
  | _ => True

theorem Operation.Plain.effect {operation : Operation} (plain : operation.Plain) :
    (operation.effect db).patches = db.patches ∧ (operation.effect db).objects = db.objects := by
  cases operation with
  | read => exact ⟨rfl, rfl⟩
  | updateMembership orgId userId role =>
      simp only [Operation.effect]
      cases db.memberships.lookup (orgId, userId) with
      | none => exact ⟨rfl, rfl⟩
      | some old => exact ⟨rfl, rfl⟩
  | deleteMembership orgId userId => exact ⟨rfl, rfl⟩
  | putApp now key app =>
      have written := (@Database.WritesApp.putApp db key now app).trans .clearPlatforms
        |>.trans (.putPlatforms app.platforms)
      exact ⟨written.patches_eq, written.objects_eq⟩
  | makeDirectory path => exact ⟨rfl, rfl⟩
  | putObject key payload => exact plain.elim
  | insertPatch key row => exact plain.elim

theorem Operation.Plain.spares {operation : Operation} (plain : operation.Plain) :
    ¬ operation.Replaces db ∧ ¬ operation.Spoils sha256 db := by
  cases operation with
  | putObject key payload => exact plain.elim
  | insertPatch key row => exact plain.elim
  | _ => exact ⟨id, id⟩

theorem putObject_consistent_iff (key : String) (payload : Bytes) (consistent : db.Consistent sha256) :
    ((Operation.putObject key payload).effect db).Consistent sha256 ↔
      ¬ (Operation.putObject key payload).Spoils sha256 db := by
  constructor
  · rintro kept ⟨patchKey, row, found, rfl, spoiled⟩
    obtain ⟨stored, object, records⟩ := kept patchKey row found
    obtain rfl : payload = stored := Option.some.inj ((AList.lookup_insert db.objects).symm.trans object)
    exact spoiled records
  · intro spared patchKey row found
    by_cases here : row.payloadKey = key
    · refine ⟨payload, ?_, ?_⟩
      · rw [here]
        exact AList.lookup_insert _
      · by_contra spoiled
        exact spared ⟨patchKey, row, found, here, spoiled⟩
    · obtain ⟨stored, object, records⟩ := consistent patchKey row found
      exact ⟨stored, (AList.lookup_insert_ne here).trans object, records⟩

theorem insertPatch_consistent_iff (key : PatchKey) (row : PatchRow) (consistent : db.Consistent sha256) :
    ((Operation.insertPatch key row).effect db).Consistent sha256 ↔
      ¬ (Operation.insertPatch key row).Spoils sha256 db := by
  constructor
  · intro kept spoiled
    obtain ⟨payload, object, records⟩ := kept key row (AList.lookup_insert _)
    exact spoiled payload object records
  · intro spared other row' found
    by_cases here : other = key
    · subst here
      obtain rfl : row = row' := Option.some.inj ((AList.lookup_insert db.patches).symm.trans found)
      by_contra spoiled
      exact spared fun payload object records => spoiled ⟨payload, object, records⟩
    · exact consistent other row' ((AList.lookup_insert_ne here).symm.trans found)

theorem Operation.Plain.consistent_iff {operation : Operation} (plain : operation.Plain)
    (consistent : db.Consistent sha256) :
    (operation.effect db).Consistent sha256 ↔ ¬ operation.Spoils sha256 db := by
  obtain ⟨patches, objects⟩ := @Operation.Plain.effect db operation plain
  exact iff_of_true ((consistent_congr patches objects).mpr consistent) plain.spares.2

theorem Operation.effect_consistent_iff (operation : Operation) (consistent : db.Consistent sha256) :
    (operation.effect db).Consistent sha256 ↔ ¬ operation.Spoils sha256 db := by
  cases operation with
  | putObject key payload => exact putObject_consistent_iff key payload consistent
  | insertPatch key row => exact insertPatch_consistent_iff key row consistent
  | read => exact Operation.Plain.consistent_iff trivial consistent
  | updateMembership orgId userId role => exact Operation.Plain.consistent_iff trivial consistent
  | deleteMembership orgId userId => exact Operation.Plain.consistent_iff trivial consistent
  | putApp now key app => exact Operation.Plain.consistent_iff trivial consistent
  | makeDirectory path => exact Operation.Plain.consistent_iff trivial consistent

end Effects

/-!
## What an upload relies on
-/

/-- No payload changes or goes away, and rows keep theirs. -/
structure Grows (sha256 : Bytes → String) (before after : Database) : Prop where
  payloads : ∀ key payload, before.objects.lookup key = some payload →
    after.objects.lookup key = some payload
  consistent : before.Consistent sha256 → after.Consistent sha256

section Uploads

attribute [local irreducible] Process.Sound

variable {sha256 : Bytes → String} {db : Database} {env : Environment}

theorem Grows.refl : Grows sha256 db db := ⟨fun _ _ found => found, id⟩

theorem Grows.trans {before middle after : Database} (first : Grows sha256 before middle)
    (second : Grows sha256 middle after) : Grows sha256 before after :=
  ⟨fun key payload found => second.payloads key payload (first.payloads key payload found),
    fun consistent => second.consistent (first.consistent consistent)⟩

theorem Operation.effect_grows {operation : Operation} (spared : ¬ operation.Replaces db)
    (safe : db.Consistent sha256 → ¬ operation.Spoils sha256 db) :
    Grows sha256 db (operation.effect db) := by
  constructor
  · intro key payload found
    cases operation with
    | putObject key' payload' =>
        by_cases here : key = key'
        · subst here
          by_cases same : payload = payload'
          · rw [same]
            exact AList.lookup_insert db.objects
          · exact absurd ⟨payload, found, same⟩ spared
        · exact (AList.lookup_insert_ne here).trans found
    | insertPatch key' row => exact found
    | read => exact found
    | updateMembership orgId userId role =>
        rw [(@Operation.Plain.effect db (.updateMembership orgId userId role) trivial).2]
        exact found
    | deleteMembership orgId userId => exact found
    | makeDirectory path => exact found
    | putApp now key' app =>
        rw [(@Operation.Plain.effect db (.putApp now key' app) trivial).2]
        exact found
  · intro consistent
    exact (operation.effect_consistent_iff consistent).mpr (safe consistent)

/-- As long as no payload changes, rows that had theirs keep them. -/
abbrev Uploading {ε α : Type} (sha256 : Bytes → String) (returns : α → Database → Prop)
    (steps : Steps Operation ε Database α) (db : Database) : Prop :=
  Steps.Sound Operation.effect (Grows sha256) (fun operation db => ¬ operation.Replaces db)
    (fun operation db => db.Consistent sha256 → ¬ operation.Spoils sha256 db) returns steps db

section Reads

variable {holds : Database → Prop}
  (stays : ∀ before after, Grows sha256 before after → holds before → holds after)

include stays

theorem read_uploading {α : Type} {request : Statement} {answer : Database → Except StoreError α}
    (start : holds db) : Uploading sha256 (fun _ => holds) (statement env request .read answer) db := by
  unfold statement
  cases env.sql request with
  | error text => exact .throw
  | ok => exact .atomic fun state grown _ => ⟨fun _ => id, fun _ _ => stays db state grown start⟩

theorem platformAbisSteps_uploading (key : String × String) (platforms : List AppPlatform)
    (start : holds db) : Uploading sha256 (fun _ => holds) (platformAbisSteps env key platforms) db := by
  induction platforms generalizing db with
  | nil => exact .pure start
  | cons platform platforms ih =>
      refine Steps.Sound.bind (read_uploading stays start) ?_
      intro abi read held
      refine Steps.Sound.bind (ih held) ?_
      intro rest left held
      exact .pure held

theorem getAppInOrgSteps_uploading (orgId id : String) (start : holds db) :
    Uploading sha256 (fun _ => holds) (getAppInOrgSteps env orgId id) db := by
  have validates : Uploading sha256 (fun _ => holds)
      (Steps.attempt (validateOrgID orgId) : StoreSteps String) db := .attempt fun _ _ => start
  refine Steps.Sound.bind validates ?_
  intro org read held
  refine Steps.Sound.bind (read_uploading stays held) ?_
  intro app read held
  have lists : Uploading sha256 (fun _ => holds) (listAppPlatformsSteps env (org, id)) read := by
    refine Steps.Sound.bind (read_uploading stays held) ?_
    intro platforms listed held
    exact platformAbisSteps_uploading stays (org, id) platforms held
  refine Steps.Sound.bind lists ?_
  intro platforms listed held
  exact .pure held

end Reads

theorem validateOrgID_uploading (orgId : String) :
    Uploading sha256 (fun _ _ => True) (Steps.attempt (validateOrgID orgId) : StoreSteps String) db :=
  .attempt fun _ _ => trivial

theorem getOrganizationSteps_uploading (orgId : String) :
    Uploading sha256 (fun _ _ => True) (getOrganizationSteps env orgId) db := by
  refine Steps.Sound.bind (validateOrgID_uploading orgId) ?_
  intro id read _
  exact read_uploading (fun _ _ _ held => held) trivial

theorem putAppInOrgSteps_uploading (orgId : String) (app : App) :
    Uploading sha256 (fun _ _ => True) (putAppInOrgSteps env orgId app) db := by
  refine Steps.Sound.bind (validateOrgID_uploading orgId) ?_
  intro org validated _
  have reads : Uploading sha256 (fun _ _ => True) (getOrganizationSteps env org) validated :=
    getOrganizationSteps_uploading org
  refine Steps.Sound.bind reads ?_
  intro _ read _
  dsimp only
  unfold transactionSteps
  cases executed env (putAppStatements (normalizeApp app)) with
  | error error => exact .throw
  | ok => exact .atomic fun _ _ _ => ⟨fun _ => id, fun _ _ => trivial⟩

theorem ensureAppInOrgSteps_uploading (orgId appId : String) :
    Uploading sha256 (fun _ _ => True) (ensureAppInOrgSteps env orgId appId) db := by
  have finds : Uploading sha256 (fun _ _ => True) (getAppInOrgSteps env orgId appId) db :=
    getAppInOrgSteps_uploading (fun _ _ _ held => held) orgId appId trivial
  have found : Uploading sha256 (fun _ _ => True)
      (getAppInOrgSteps env orgId appId >>= fun _ => pure () : StoreSteps Unit) db := by
    refine Steps.Sound.bind finds ?_
    intro _ _ _
    exact .pure trivial
  unfold ensureAppInOrgSteps
  refine Steps.Sound.orElse found ?_
  intro error state
  split
  · exact putAppInOrgSteps_uploading orgId (App.new appId appId)
  · exact .throw

/-- A payload that is put in a free place, or where it is already, spoils no row. -/
theorem putObject_spares {key : String} {payload : Bytes} (consistent : db.Consistent sha256)
    (spared : ¬ (Operation.putObject key payload).Replaces db) :
    ¬ (Operation.putObject key payload).Spoils sha256 db := by
  rintro ⟨patchKey, row, found, rfl, spoiled⟩
  obtain ⟨stored, object, records⟩ := consistent patchKey row found
  by_cases same : stored = payload
  · exact spoiled (same ▸ records)
  · exact spared ⟨stored, object, same⟩

/-- What a failed `Put` does spoils no row either. -/
theorem ofFailedPut_spares {key : String} {payload : Bytes} (consistent : db.Consistent sha256)
    (spared : ¬ (Operation.ofFailedPut env key payload).Replaces db) :
    ¬ (Operation.ofFailedPut env key payload).Spoils sha256 db := by
  revert spared
  unfold Operation.ofFailedPut
  split
  · split
    · exact fun _ => id
    · exact fun _ => id
  · exact putObject_spares consistent
  · exact fun _ => id

theorem putObjectSteps_uploading (key : String) (payload : Bytes) :
    Uploading sha256 (fun _ db => db.objects.lookup key = some payload)
      (putObjectSteps env key payload) db := by
  have looks : Uploading sha256 (fun _ _ => True) (lookForObjectSteps env key) db := by
    unfold lookForObjectSteps
    cases env.storage (.get key) with
    | error message => exact .throw
    | ok => exact .atomic fun _ _ _ => ⟨fun _ => id, fun _ _ => trivial⟩
  refine Steps.Sound.bind looks ?_
  intro _ state _
  unfold storePayloadSteps
  cases env.storage (.put key) with
  | error message =>
      apply Steps.Sound.atomic
      intro state _ spared
      exact ⟨fun consistent => ofFailedPut_spares consistent spared, fun _ ended => by cases ended⟩
  | ok =>
      apply Steps.Sound.atomic
      intro state _ spared
      exact ⟨fun consistent => putObject_spares consistent spared,
        fun _ _ => AList.lookup_insert state.objects⟩

theorem putPatchInOrgSteps_uploading (orgId : String) (patch : PatchManifest) {payload : Bytes}
    (hash : sha256 payload = patch.payload.hash)
    (size : UInt64.ofNat payload.length = patch.payload.size)
    (stored : db.objects.lookup patch.payload.downloadUrl = some payload) :
    Uploading sha256 (fun _ _ => True) (putPatchInOrgSteps env orgId patch) db := by
  have stays : ∀ before after, Grows sha256 before after →
      before.objects.lookup patch.payload.downloadUrl = some payload →
      after.objects.lookup patch.payload.downloadUrl = some payload :=
    fun _ _ grown => grown.payloads _ _
  refine Steps.Sound.bind (getAppInOrgSteps_uploading stays orgId patch.appId stored) ?_
  intro _ read stored
  unfold statement
  cases env.sql .insertPatch with
  | error text => exact .throw
  | ok =>
      apply Steps.Sound.atomic
      intro state grown _
      refine ⟨?_, fun _ _ => trivial⟩
      intro _ spoils
      exact spoils payload (stays _ _ grown stored) ⟨patch, patch.unmarshal_row, hash, size⟩

theorem createPatchSteps_uploading (orgId : Option String) (body : Except String Json)
    (own : env.sha256Hex = sha256) :
    Uploading sha256 (fun _ _ => True) (createPatchSteps env orgId body) db := by
  unfold createPatchSteps
  have parses : Uploading sha256 (fun _ _ => True)
      (parsedBodySteps (body.bind CreatePatchRequest.unmarshal)) db := .attempt fun _ _ => trivial
  refine Steps.Sound.bind parses ?_
  intro request parsed _
  have checks : Uploading sha256 (fun payload _ => Checked env request payload)
      (Steps.attempt (checkUpload env request) : HandlerSteps Bytes) parsed :=
    .attempt fun _ => checkUpload_checked
  refine Steps.Sound.bind checks ?_
  intro payload checked passes
  dsimp only
  have ensures : Uploading sha256 (fun _ _ => True) (ensureAppInOrgSteps env (currentOrgID orgId)
      (request.manifest.uploaded (currentOrgID orgId)).appId) checked := ensureAppInOrgSteps_uploading _ _
  refine Steps.Sound.bind (Steps.Sound.mapError ensures) ?_
  intro _ ensured _
  refine Steps.Sound.bind (putObjectSteps_uploading _ payload) ?_
  intro _ put stored
  have hash : sha256 payload = request.manifest.payload.hash := own ▸ passes.hash
  have rows : Uploading sha256 (fun _ _ => True) (putPatchInOrgSteps env (currentOrgID orgId)
      (request.manifest.uploaded (currentOrgID orgId))) put :=
    putPatchInOrgSteps_uploading _ _ hash passes.size stored
  refine Steps.Sound.bind (Steps.Sound.mapError rows) ?_
  intro _ _ _
  exact .pure trivial

end Uploads

/-!
## Runs
-/

section Runs

variable {sha256 : Bytes → String} {db : Database} {calls : List UploadCall} {schedule : List Nat}

theorem poolStep_consistent_iff {index : Nat} {state : Uploaders} (consistent : state.2.Consistent sha256) :
    (poolStep Operation.effect index state).2.2.Consistent sha256 ↔ ¬ Spoiling sha256 state index := by
  rcases ready : pending state.1 index with _ | operation
  · rw [poolStep_of_pending_none ready]
    refine iff_of_true consistent ?_
    rintro ⟨operation, next, _⟩
    cases ready.symm.trans next
  · rw [poolStep_state ready, operation.effect_consistent_iff consistent]
    simp [Spoiling, ready]

/-- As long as no payload is replaced by another one, the database grows. -/
theorem uploads_grow (hashed : ∀ call ∈ calls, call.env.sha256Hex = sha256)
    (apart : Guarded (poolStep Operation.effect) (fun state index => ¬ Replacing state index)
      (uploaders calls db) schedule) :
    Grows sha256 db (runFrom (poolStep Operation.effect) (uploaders calls db) schedule).2 := by
  have permitted : Guarded (poolStep Operation.effect) (fun state index =>
      ∀ operation, pending state.1 index = some operation → ¬ operation.Replaces state.2)
      (uploaders calls db) schedule := apart.mono fun _ _ spared operation ready replaces =>
    spared ⟨operation, ready, replaces⟩
  refine pool_invariant (fun _ => .refl) (fun _ _ _ => .trans)
    (fun _ _ spared safe => Operation.effect_grows spared safe) ?_ permitted
  intro process member
  obtain ⟨call, among, rfl⟩ := List.mem_map.mp member
  have uploads : Uploading sha256 (fun _ _ => True) call.steps db :=
    createPatchSteps_uploading call.orgId call.body (hashed call among)
  exact Process.Sound.mono uploads fun _ _ _ => trivial

end Runs

/-- Where no payload is replaced by another one, every row is there with its payload at
every time; more exactly, this is so just where no row's payload is replaced and no row
comes after its payload was. -/
theorem rows_consistent_iff_not_spoiled (sha256 : Bytes → String) (db : Database)
    (consistent : db.Consistent sha256) (calls : List UploadCall)
    (hashed : ∀ call ∈ calls, call.env.sha256Hex = sha256) (schedule : List Nat) :
    (Guarded (poolStep Operation.effect) (fun state index => ¬ Replacing state index)
        (uploaders calls db) schedule →
      ∀ taken, taken <+: schedule →
        (runFrom (poolStep Operation.effect) (uploaders calls db) taken).2.Consistent sha256) ∧
    ((∀ taken, taken <+: schedule →
        (runFrom (poolStep Operation.effect) (uploaders calls db) taken).2.Consistent sha256) ↔
      Guarded (poolStep Operation.effect) (fun state index => ¬ Spoiling sha256 state index)
        (uploaders calls db) schedule) := by
  constructor
  · intro apart taken front
    exact (uploads_grow hashed (apart.take front)).consistent consistent
  · have initially : (uploaders calls db).2.Consistent sha256 := consistent
    exact kept_iff_guarded (fun state : Uploaders => state.2.Consistent sha256)
      (fun _ _ consistent => poolStep_consistent_iff consistent) initially

/-!
## Two uploads of one patch
-/

def abcUploadCall : UploadCall where
  env := abcEnv
  orgId := some defaultOrgID
  body := .ok (uploadBody abcUpload "YWJj")

/-- One upload that is sent twice, in alternating steps. -/
def repeatedSchedule : List Nat := (List.replicate 10 [0, 1]).flatten

theorem abcDatabase_consistent (sha256 : Bytes → String) : abcDatabase.Consistent sha256 := by
  intro key row found
  cases found

/-- Both put the same payload. -/
theorem repeated_upload_consistent :
    (runFrom (poolStep Operation.effect) (uploaders [abcUploadCall, abcUploadCall] abcDatabase)
      repeatedSchedule).2.Consistent abcEnv.sha256Hex := by
  have apart : Guarded (poolStep Operation.effect) (fun state index => ¬ Replacing state index)
      (uploaders [abcUploadCall, abcUploadCall] abcDatabase) repeatedSchedule := by
    decide
  have hashed : ∀ call ∈ [abcUploadCall, abcUploadCall], call.env.sha256Hex = abcEnv.sha256Hex := by
    intro call member
    rcases List.mem_cons.mp member with rfl | member
    · rfl
    · cases List.mem_singleton.mp member
      rfl
  exact (rows_consistent_iff_not_spoiled abcEnv.sha256Hex abcDatabase (abcDatabase_consistent _)
    [abcUploadCall, abcUploadCall] hashed repeatedSchedule).1 apart repeatedSchedule (List.prefix_refl _)

def racingEnv : Environment :=
  { abcEnv with
    sha256Hex := fun bytes =>
      if bytes = [97, 98] then "fb8e20fc2e4c3f248c60c39bd652f3c1347298bb977b8b4d5903b85055620603"
      else abcUpload.payload.hash
    decodeBase64 := fun text => if text = "YWI=" then some [97, 98] else abcEnv.decodeBase64 text }

/-- The same patch with another payload. -/
def abUpload : Core.PatchManifest :=
  { abcUpload with
    payload := { abcUpload.payload with
      hash := "fb8e20fc2e4c3f248c60c39bd652f3c1347298bb977b8b4d5903b85055620603", size := 2 } }

def racingCalls : List UploadCall :=
  [{ abcUploadCall with env := racingEnv },
    { env := racingEnv, orgId := some defaultOrgID, body := .ok (uploadBody abUpload "YWI=") }]

/-- The second upload finds the key free before the first one puts its payload there,
and puts its own after the first one's row. -/
def racingSchedule : List Nat :=
  List.replicate 4 0 ++ List.replicate 5 1 ++ List.replicate 6 0 ++ [1]

def racingDatabase : Database :=
  (runFrom (poolStep Operation.effect) (uploaders racingCalls abcDatabase) racingSchedule).2

theorem racing_uploads_differ :
    ¬ ∀ (sha256 : Bytes → String) (db : Database), db.Consistent sha256 → ∀ calls : List UploadCall,
      (∀ call ∈ calls, call.env.sha256Hex = sha256) → ∀ schedule taken : List Nat, taken <+: schedule →
      (runFrom (poolStep Operation.effect) (uploaders calls db) taken).2.Consistent sha256 := by
  intro consistent
  have hashed : ∀ call ∈ racingCalls, call.env.sha256Hex = racingEnv.sha256Hex := by
    intro call member
    rcases List.mem_cons.mp member with rfl | member
    · rfl
    · cases List.mem_singleton.mp member
      rfl
  have kept : racingDatabase.Consistent racingEnv.sha256Hex :=
    consistent racingEnv.sha256Hex abcDatabase (abcDatabase_consistent _) racingCalls hashed
      racingSchedule racingSchedule (List.prefix_refl _)
  let key : PatchKey := { orgId := defaultOrgID, appId := "app", releaseVersion := "1", platform := "ios", arch := "arm64", patchNumber := 1 }
  have recorded : (racingDatabase.patches.lookup key).map (fun row =>
      (row.payloadKey, (PatchManifest.zero.unmarshal row.manifestJson).toOption.map (·.payload.hash))) =
      some (abcUpload.payload.downloadUrl, some abcUpload.payload.hash) := by
    decide +kernel
  have stored : racingDatabase.objects.lookup abcUpload.payload.downloadUrl = some [97, 98] := by
    decide +kernel
  obtain ⟨row, found, named⟩ := Option.map_eq_some_iff.mp recorded
  obtain ⟨address, hash⟩ := Prod.mk.inj named
  obtain ⟨payload, object, patch, decoded, own, _⟩ := kept key row found
  rw [address, stored] at object
  cases object
  rw [decoded] at hash
  have same : patch.payload.hash = abcUpload.payload.hash := Option.some.inj hash
  rw [same] at own
  revert own
  decide

end CodePush.Server
