import CodePush.Server.Objects

/-!
# How an upload ends

The answers of `createPatch` with what each of them leaves behind: an app that the upload
made, and what it stored without listing it.
-/

set_option autoImplicit false

namespace CodePush.Server

open CodePush.Core CodePush.Foundation CodePush.Foundation.Action

/-!
## Ends
-/

/-- Where the payload of an upload goes. -/
def PatchKey.storageKey (key : PatchKey) : String :=
  orgScopedPayloadKey key.orgId
    (patchPayloadKey key.appId key.releaseVersion key.platform key.arch key.patchNumber)

/-- The upload is read and checked, and its app is there or made. -/
structure Admitted (env : Environment) (orgId : Option String) (body : Except String Json)
    (db : Database) (request : CreatePatchRequest) (payload : Bytes) (ensured : Database) : Prop where
  parsed : body.bind CreatePatchRequest.unmarshal = .ok request
  checked : checkUpload env request = .ok payload
  app : ensureAppInOrg env (currentOrgID orgId) request.manifest.appId db = (.ok (), ensured)

/-- The key that an upload names. -/
def CreatePatchRequest.keyIn (request : CreatePatchRequest) (orgId : Option String) : PatchKey :=
  request.manifest.keyIn (currentOrgID orgId)

inductive UploadEnds (env : Environment) (orgId : Option String) (body : Except String Json)
    (db : Database) : Except HttpError Reply → Database → Prop where
  | rejected {error : HttpError} (bad : error.status = 400)
      (unacceptable : ∀ request payload, body.bind CreatePatchRequest.unmarshal = .ok request →
        checkUpload env request ≠ .ok payload) : UploadEnds env orgId body db (.error error) db
  | appless {request : CreatePatchRequest} {payload : Bytes} {error : StoreError}
      (parsed : body.bind CreatePatchRequest.unmarshal = .ok request)
      (checked : checkUpload env request = .ok payload)
      (fails : ensureAppInOrg env (currentOrgID orgId) request.manifest.appId db = (.error error, db)) :
      UploadEnds env orgId body db (.error (internalError error)) db
  | stopped {request : CreatePatchRequest} {payload : Bytes} {ensured after : Database} {error : HttpError}
      (admitted : Admitted env orgId body db request payload ensured)
      (refused : PutRefused env (request.keyIn orgId).storageKey payload ensured error after) :
      UploadEnds env orgId body db (.error error) after
  | unlisted {request : CreatePatchRequest} {payload : Bytes} {ensured : Database} {error : StoreError}
      (admitted : Admitted env orgId body db request payload ensured)
      (storable : Storable env (request.keyIn orgId).storageKey ensured)
      (fails : putPatchInOrg env (currentOrgID orgId) (request.manifest.uploaded (currentOrgID orgId))
        (ensured.withObject (request.keyIn orgId).storageKey payload) =
          (.error error, ensured.withObject (request.keyIn orgId).storageKey payload)) :
      UploadEnds env orgId body db (.error (internalError error))
        (ensured.withObject (request.keyIn orgId).storageKey payload)
  | stored {request : CreatePatchRequest} {payload : Bytes} {ensured after : Database}
      (admitted : Admitted env orgId body db request payload ensured)
      (storable : Storable env (request.keyIn orgId).storageKey ensured)
      (listed : putPatchInOrg env (currentOrgID orgId) (request.manifest.uploaded (currentOrgID orgId))
        (ensured.withObject (request.keyIn orgId).storageKey payload) = (.ok (), after)) :
      UploadEnds env orgId body db (.ok .ok) after

section Ends

variable {env : Environment} {orgId : Option String} {body : Except String Json} {db : Database}

/-- The upload of a key is admitted in one way. -/
theorem Admitted.unique {request request' : CreatePatchRequest} {payload payload' : Bytes}
    {ensured ensured' : Database} (first : Admitted env orgId body db request payload ensured)
    (second : Admitted env orgId body db request' payload' ensured') :
    request' = request ∧ payload' = payload ∧ ensured' = ensured := by
  cases first.parsed.symm.trans second.parsed
  cases first.checked.symm.trans second.checked
  cases first.app.symm.trans second.app
  exact ⟨rfl, rfl, rfl⟩

/-- Until it is admitted an upload writes at most an app. -/
theorem Admitted.writes {request : CreatePatchRequest} {payload : Bytes} {ensured : Database}
    (admitted : Admitted env orgId body db request payload ensured) :
    ensured = db ∨ ∃ id, validateOrgID (currentOrgID orgId) = .ok id ∧
      db.WritesApp ensured (id, request.manifest.appId) :=
  (ensureAppInOrg_ensures env _ _ db).of_ok admitted.app

theorem Admitted.storage {request : CreatePatchRequest} {payload : Bytes} {ensured : Database}
    (admitted : Admitted env orgId body db request payload ensured) :
    ensured.objects = db.objects ∧ ensured.directories = db.directories := by
  rcases admitted.writes with same | ⟨_, _, writes⟩
  · rw [same]
    exact ⟨rfl, rfl⟩
  · exact ⟨writes.objects_eq, writes.directories_eq⟩

theorem Admitted.opened {request : CreatePatchRequest} {payload : Bytes} {ensured : Database}
    (admitted : Admitted env orgId body db request payload ensured) (kind : StorageKind) (key : String) :
    ensured.opened kind key = db.opened kind key :=
  opened_congr admitted.storage.1 admitted.storage.2

theorem Admitted.patches {request : CreatePatchRequest} {payload : Bytes} {ensured : Database}
    (admitted : Admitted env orgId body db request payload ensured) : ensured.patches = db.patches :=
  (ensureAppInOrg_patches env _ _ db).of_ok admitted.app

/-- No app goes away. -/
theorem Admitted.apps {request : CreatePatchRequest} {payload : Bytes} {ensured : Database}
    (admitted : Admitted env orgId body db request payload ensured) (key : String × String)
    (found : (db.apps.lookup key).isSome) : (ensured.apps.lookup key).isSome := by
  rcases admitted.writes with same | ⟨_, _, _, _, _, rfl, _, _, _, kept⟩
  · rw [same]
    exact found
  · exact kept key found

theorem checkUpload_status {request : CreatePatchRequest} {error : HttpError}
    (refused : checkUpload env request = .error error) : error.status = 400 := by
  unfold checkUpload at refused
  dsimp only at refused
  repeat' split at refused
  all_goals cases refused
  all_goals rfl

@[simp] theorem PatchManifest.uploaded_appId (patch : PatchManifest) (org : String) :
    (patch.uploaded org).appId = patch.appId := rfl

theorem createPatch_ends (env : Environment) (orgId : Option String) (body : Except String Json)
    (db : Database) :
    Ensures (createPatch env orgId body) db
      (fun reply after => UploadEnds env orgId body db (.ok reply) after)
      (fun error after => UploadEnds env orgId body db (.error error) after) := by
  refine ensures_bind (parsedBody_ensures (fun request parsed => ?_) (fun message unread => ?_))
  case refine_2 =>
    refine .rejected rfl ?_
    intro request _ parsed
    cases unread.symm.trans parsed
  refine ensures_bind (ensures_attempt (fun payload checked => ?_) (fun error refused => ?_))
  case refine_2 =>
    refine .rejected (checkUpload_status refused) ?_
    intro _ _ parsed' checked
    cases parsed.symm.trans parsed'
    cases refused.symm.trans checked
  apply ensures_bind
  apply answering_ensures
  refine ((ensures_self (ensureAppInOrg env (currentOrgID orgId) request.manifest.appId) db).and
    (ensureAppInOrg_ensures env _ _ db)).mono ?_ ?_
  case refine_2 =>
    rintro error _ ⟨fails, rfl⟩
    exact .appless parsed checked fails
  rintro _ ensured ⟨app, _⟩
  have admitted : Admitted env orgId body db request payload ensured := ⟨parsed, checked, app⟩
  apply ensures_bind
  refine (putObject_ensures env (request.keyIn orgId).storageKey payload ensured).mono ?_
    (fun _ _ refused => .stopped admitted refused)
  rintro _ _ ⟨storable, rfl⟩
  apply ensures_bind
  apply answering_ensures
  refine ((ensures_self _ _).and (putPatchInOrg_ensures env _ _ _)).mono ?_ ?_
  · rintro _ after ⟨listed, _⟩
    exact ensures_pure (.stored admitted storable listed)
  · rintro error _ ⟨fails, rfl⟩
    exact .unlisted admitted storable fails

theorem createPatch_ended (env : Environment) (orgId : Option String) (body : Except String Json)
    (db : Database) :
    UploadEnds env orgId body db (createPatch env orgId body db).1 (createPatch env orgId body db).2 :=
  Ensures.outcome _ (createPatch_ends env orgId body db)

end Ends

/-!
## The app of an upload
-/

section Apps

variable {env : Environment} {orgId id : String} {db : Database}

/-- What is needed to read an app. -/
structure AppReadable (env : Environment) (orgId id : String) (db : Database) (org : String) : Prop where
  normal : validateOrgID orgId = .ok org
  selects : env.sql .selectApp = .ok ()
  found : (db.apps.lookup (org, id)).isSome
  platforms : env.sql .selectPlatforms = .ok ()
  abis : db.appPlatforms (org, id) ≠ [] → env.sql .selectAbis = .ok ()

theorem listAppPlatforms_ok_iff {key : String × String} :
    (∃ platforms, (listAppPlatforms env key db).1 = .ok platforms) ↔
      env.sql .selectPlatforms = .ok () ∧ (db.appPlatforms key ≠ [] → env.sql .selectAbis = .ok ()) := by
  have read : (get : StoreOp Database) db = (.ok db, db) := rfl
  unfold listAppPlatforms exec Action.attempt
  rw [run_bind]
  cases env.sql .selectPlatforms with
  | error text => simp
  | ok _ =>
      dsimp only
      rw [run_bind, read]
      dsimp only
      split
      case isTrue empty =>
        rw [List.isEmpty_iff] at empty
        refine iff_of_true ⟨_, rfl⟩ ⟨rfl, fun some => absurd empty some⟩
      case isFalse some =>
        rw [List.isEmpty_iff] at some
        rw [run_bind]
        cases env.sql .selectAbis with
        | error text => simp [some]
        | ok _ => exact iff_of_true ⟨_, rfl⟩ ⟨rfl, fun _ => rfl⟩

theorem getAppInOrg_ok_iff :
    (∃ app, (getAppInOrg env orgId id db).1 = .ok app) ↔ ∃ org, AppReadable env orgId id db org := by
  have read : (get : StoreOp Database) db = (.ok db, db) := rfl
  unfold getAppInOrg exec Action.attempt
  rw [run_bind]
  cases normal : validateOrgID orgId with
  | error error =>
      refine iff_of_false ?_ ?_
      · rintro ⟨app, ended⟩
        cases ended
      · rintro ⟨org, readable⟩
        cases normal.symm.trans readable.normal
  | ok org =>
      dsimp only
      rw [run_bind]
      cases selects : env.sql .selectApp with
      | error text =>
          refine iff_of_false ?_ ?_
          · rintro ⟨app, ended⟩
            cases ended
          · rintro ⟨org, readable⟩
            cases selects.symm.trans readable.selects
      | ok _ =>
          dsimp only
          rw [run_bind, read]
          dsimp only
          rw [run_bind]
          cases found : db.apps.lookup (org, id) with
          | none =>
              refine iff_of_false ?_ ?_
              · rintro ⟨app, ended⟩
                cases ended
              · rintro ⟨org', readable⟩
                cases normal.symm.trans readable.normal
                have some := readable.found
                rw [found] at some
                cases some
          | some app =>
              have row : (row (some app) : StoreOp AppRow) db = (.ok app, db) := rfl
              have lists := @listAppPlatforms_ok_iff env db (org, id)
              have kept := listAppPlatforms_ensures env (org, id) db
              rw [row]
              dsimp only
              rw [run_bind]
              rcases ended : listAppPlatforms env (org, id) db with ⟨error | platforms, after⟩
              · refine iff_of_false ?_ ?_
                · rintro ⟨app, ended⟩
                  cases ended
                · rintro ⟨org', readable⟩
                  cases normal.symm.trans readable.normal
                  obtain ⟨platforms, listed⟩ := lists.mpr ⟨readable.platforms, readable.abis⟩
                  rw [ended] at listed
                  cases listed
              · obtain ⟨selects', abis⟩ := lists.mp ⟨platforms, by rw [ended]⟩
                refine iff_of_true ⟨_, rfl⟩ ⟨org, normal, selects, ?_, selects', abis⟩
                rw [found]
                rfl

theorem validateOrgID_error {error : StoreError} (refused : validateOrgID orgId = .error error) :
    error ≠ .noRows := by
  unfold validateOrgID at refused
  dsimp only at refused
  split at refused
  case isTrue => cases refused
  case isFalse =>
    split at refused
    case isTrue => cases refused
    case isFalse =>
      cases refused
      exact StoreError.noConfusion

/-- Only a missing row is answered with `sql.ErrNoRows`. -/
theorem exec_ended (env : Environment) (statement : Statement) (db : Database) :
    Ensures (exec env statement) db (fun _ after => env.sql statement = .ok () ∧ after = db)
      (fun error _ => error ≠ .noRows) := by
  refine ensures_attempt ?_ ?_
  · intro _ ended
    cases succeeded : env.sql statement with
    | error text =>
        rw [succeeded] at ended
        cases ended
    | ok _ => exact ⟨rfl, rfl⟩
  · intro error ended
    cases failed : env.sql statement with
    | error text =>
        rw [failed] at ended
        cases ended
        exact StoreError.noConfusion
    | ok _ =>
        rw [failed] at ended
        cases ended

theorem listAppPlatforms_ended (env : Environment) (key : String × String) (db : Database) :
    Ensures (listAppPlatforms env key) db (fun _ _ => True) (fun error _ => error ≠ .noRows) := by
  apply ensures_bind
  refine (exec_ended env _ db).mono ?_ (fun _ _ ended => ended)
  rintro _ _ ⟨_, rfl⟩
  refine ensures_bind (ensures_get ?_)
  dsimp only
  split
  · exact ensures_pure trivial
  · apply ensures_bind
    exact (exec_ended env _ _).mono (fun _ _ _ => ensures_pure trivial) (fun _ _ ended => ended)

/-- An app is not found if its row is missing. -/
theorem getAppInOrg_noRows {after : Database} (missing : getAppInOrg env orgId id db = (.error .noRows, after)) :
    ∃ org, validateOrgID orgId = .ok org ∧ env.sql .selectApp = .ok () ∧ db.apps.lookup (org, id) = none := by
  have ends : Ensures (getAppInOrg env orgId id) db (fun _ _ => True) fun error _ => error = .noRows →
      ∃ org, validateOrgID orgId = .ok org ∧ env.sql .selectApp = .ok () ∧
        db.apps.lookup (org, id) = none := by
    refine ensures_bind (ensures_attempt (fun org normal => ?_) (fun error refused same => ?_))
    · apply ensures_bind
      refine (exec_ended env _ db).mono ?_ (fun error _ ended same => absurd same ended)
      rintro _ read ⟨selects, same⟩
      rw [same]
      refine ensures_bind (ensures_get ?_)
      cases found : db.apps.lookup (org, id) with
      | none =>
          apply ensures_bind
          exact ensures_throw fun _ => ⟨org, normal, selects, found⟩
      | some app =>
          apply ensures_bind
          refine ensures_pure (ensures_bind ?_)
          exact (listAppPlatforms_ended env _ _).mono (fun _ _ _ => ensures_pure trivial)
            (fun error _ ended same => absurd same ended)
    · exact absurd same (validateOrgID_error refused)
  exact ends.of_error missing rfl

/-- The tables with an app that an upload makes. -/
def Database.withNewApp (db : Database) (now : Nat) (org id : String) : Database :=
  let app := normalizeApp (App.new id id)
  app.platforms.foldl (fun db entry => db.putPlatform (org, id) entry)
    ((db.putApp now (org, id) app).clearPlatforms (org, id))

theorem putAppInOrg_new :
    Ensures (putAppInOrg env orgId (App.new id id)) db
      (fun _ after => ∃ org, validateOrgID orgId = .ok org ∧ after = db.withNewApp env.now org id)
      (fun _ after => after = db) := by
  refine ensures_bind (ensures_attempt (fun org normal => ?_) (fun _ _ => rfl))
  apply ensures_bind
  refine (getOrganization_ensures env org db).mono ?_ (fun _ _ same => same)
  intro organization read same
  subst same
  apply transaction_ensures
  refine ensures_bind (exec_ensures ?_ (fun _ => rfl))
  refine ensures_bind (exec_ensures ?_ (fun _ => rfl))
  refine ensures_bind (ensures_modify ?_)
  refine ensures_bind (exec_ensures ?_ (fun _ => rfl))
  refine ensures_bind (exec_ensures ?_ (fun _ => rfl))
  refine ensures_bind (ensures_modify ?_)
  refine ensures_bind (exec_ensures ?_ (fun _ => rfl))
  apply ensures_bind
  refine (insertAbis_ensures env _ _).mono ?_ (fun _ _ _ => rfl)
  intro _ cleared same
  subst same
  refine ensures_bind (ensures_modify ?_)
  exact exec_ensures ⟨org, normal, rfl⟩ (fun _ => rfl)

/-- Writing the row of a patch needs the app and one statement. -/
theorem putPatchInOrg_ok_iff {patch : PatchManifest} :
    (∃ after, putPatchInOrg env orgId patch db = (.ok (), after)) ↔
      (∃ org, AppReadable env.again orgId patch.appId db org) ∧ env.sql .insertPatch = .ok () := by
  have kept := getAppInOrg_ensures env.again orgId patch.appId db
  have readable := @getAppInOrg_ok_iff env.again orgId patch.appId db
  unfold putPatchInOrg
  rw [run_bind]
  rcases read : getAppInOrg env.again orgId patch.appId db with ⟨error | app, after⟩
  · refine iff_of_false ?_ ?_
    · rintro ⟨after, ended⟩
      cases ended
    · rintro ⟨there, _⟩
      obtain ⟨app, found⟩ := readable.mpr there
      rw [read] at found
      cases found
  · obtain rfl : after = db := kept.of_ok read
    have there := readable.mp ⟨app, by rw [read]⟩
    dsimp only
    rw [run_bind]
    unfold exec Action.attempt
    cases env.sql .insertPatch with
    | error text =>
        refine iff_of_false ?_ ?_
        · rintro ⟨after, ended⟩
          cases ended
        · rintro ⟨_, inserted⟩
          cases inserted
    | ok _ => exact iff_of_true ⟨_, rfl⟩ ⟨there, rfl⟩

/-- Nothing is made for an app that is there. -/
theorem ensureAppInOrg_there {org : String} (readable : AppReadable env orgId id db org) :
    ensureAppInOrg env orgId id db = (.ok (), db) := by
  have kept := getAppInOrg_ensures env orgId id db
  obtain ⟨app, found⟩ := getAppInOrg_ok_iff.mpr ⟨org, readable⟩
  unfold ensureAppInOrg
  rcases read : getAppInOrg env orgId id db with ⟨outcome, after⟩
  rw [read] at found
  obtain rfl : outcome = .ok app := found
  obtain rfl : after = db := kept.of_ok read
  rfl

theorem ensureAppInOrg_ends {ensured : Database}
    (ended : ensureAppInOrg env orgId id db = (.ok (), ensured)) :
    ((∃ org, AppReadable env orgId id db org) ∧ ensured = db) ∨
      ∃ org, validateOrgID orgId = .ok org ∧ env.sql .selectApp = .ok () ∧
        db.apps.lookup (org, id) = none ∧ ensured = db.withNewApp env.now org id := by
  have kept := getAppInOrg_ensures env orgId id db
  unfold ensureAppInOrg at ended
  rcases read : getAppInOrg env orgId id db with ⟨error | app, after⟩
  · obtain rfl : after = db := kept.of_error read
    rw [read] at ended
    dsimp only at ended
    by_cases missing : notFound error
    · rw [if_pos missing] at ended
      obtain rfl : error = .noRows := of_decide_eq_true missing
      obtain ⟨org, normal, selects, absent⟩ := getAppInOrg_noRows read
      obtain ⟨org', normal', same⟩ := putAppInOrg_new.of_ok ended
      cases normal.symm.trans normal'
      exact .inr ⟨org, normal, selects, absent, same⟩
    · rw [if_neg missing] at ended
      cases ended
  · obtain rfl : after = db := kept.of_ok read
    rw [read] at ended
    cases ended
    exact .inl ⟨getAppInOrg_ok_iff.mp ⟨app, by rw [read]⟩, rfl⟩

/-- A new app has a row, and platforms. -/
theorem withNewApp_lists (db : Database) (now : Nat) (org id : String) :
    ((db.withNewApp now org id).apps.lookup (org, id)).isSome ∧
      (db.withNewApp now org id).appPlatforms (org, id) ≠ [] := by
  constructor
  · have apps : (db.withNewApp now org id).apps = (db.putApp now (org, id) (normalizeApp (App.new id id))).apps :=
      rfl
    rw [apps]
    unfold Database.putApp
    rw [AList.lookup_insert]
    rfl
  · have listed : ∃ row, (db.withNewApp now org id).platforms.lookup ((org, id), "ios") = some row :=
      ⟨_, AList.lookup_insert _⟩
    obtain ⟨row, listed⟩ := listed
    unfold Database.appPlatforms
    dsimp only
    intro empty
    have none := congrArg List.length empty
    rw [List.length_insertionSort, List.length_map, List.length_nil, List.length_eq_zero_iff] at none
    have member : (⟨((org, id), "ios"), row⟩ : (_ : (String × String) × String) × PlatformRow) ∈
        (db.withNewApp now org id).platforms.entries.filter fun entry => entry.1.1 = (org, id) :=
      List.mem_filter.mpr ⟨AList.mem_lookup_iff.mp listed, decide_eq_true rfl⟩
    rw [none] at member
    cases member

end Apps

end CodePush.Server
