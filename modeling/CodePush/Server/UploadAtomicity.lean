import CodePush.Server.PatchProperties
import CodePush.Server.Routes
import CodePush.Server.UploadEnds

/-!
# Uploads that fail half-way

An upload writes an app, an object and a patch one after the other, and takes nothing back. A
failed one leaves the server as it was only if it fails before its first write.
-/

set_option autoImplicit false

namespace CodePush.Server

open CodePush.Core CodePush.Foundation CodePush.Foundation.Action

section Atomicity

variable {env : Environment} {orgId : Option String} {body : Except String Json} {db : Database}

/-- The app can be read once more, when the patch is listed: it is the stored one, or one
that was just made and has platforms. -/
structure ReadsAgain (env : Environment) (db : Database) (key : PatchKey) : Prop where
  selects : env.sqlAgain .selectApp = .ok ()
  platforms : env.sqlAgain .selectPlatforms = .ok ()
  abis : env.sqlAgain .selectAbis = .ok () ∨ ∃ org, validateOrgID key.orgId = .ok org ∧
    (db.apps.lookup (org, key.appId)).isSome ∧ db.appPlatforms (org, key.appId) = []

/-- A `Put` that reports an error has changed nothing. -/
def PutLeavesNothing (env : Environment) (key : String) (db : Database) : Prop :=
  match env.failedPut, env.storageKind with
  | .directory path, .localFS _ _ => KeyAbove path key → db.IsDirectory path
  | .object, _ => False
  | _, _ => True

/-- A failure after the first write is ruled out: what the upload stores it also lists, and
what it cannot store is for an app that is there, and left nothing. -/
def FailsFirst (env : Environment) (orgId : Option String) (body : Except String Json)
    (db : Database) : Prop :=
  ∀ request payload, body.bind CreatePatchRequest.unmarshal = .ok request →
    checkUpload env request = .ok payload →
    (ensureAppInOrg env (currentOrgID orgId) request.manifest.appId db).1 = .ok () →
    (Storable env (request.keyIn orgId).storageKey db →
      env.sql .insertPatch = .ok () ∧ ReadsAgain env db (request.keyIn orgId)) ∧
    (¬ Storable env (request.keyIn orgId).storageKey db →
      AppStored db (request.keyIn orgId) ∧
        (KeyFree env (request.keyIn orgId).storageKey db →
          PutLeavesNothing env (request.keyIn orgId).storageKey db))

theorem afterFailedPut_eq_iff {key : String} (payload : Bytes) (absent : db.objects.lookup key = none) :
    db.afterFailedPut env key payload = db ↔ PutLeavesNothing env key db := by
  unfold Database.afterFailedPut PutLeavesNothing
  cases env.failedPut with
  | nothing => exact iff_of_true rfl trivial
  | object =>
      refine iff_of_false ?_ id
      intro same
      have kept : db.withObject key payload = db := same
      have put : (db.withObject key payload).objects.lookup key = some payload := AList.lookup_insert _
      rw [kept, absent] at put
      cases put
  | directory path =>
      cases env.storageKind with
      | s3 => exact iff_of_true rfl trivial
      | localFS =>
          by_cases above : KeyAbove path key
          · by_cases made : db.IsDirectory path
            · simp [above, made, Database.withDirectory]
            · refine iff_of_false ?_ fun there => made (there above)
              intro same
              have lengths := congrArg (fun tables => tables.directories.length) same
              simp [above, made, Database.withDirectory] at lengths
          · simp [above]

section Admissions

variable {request : CreatePatchRequest} {payload : Bytes} {ensured : Database}
  (admitted : Admitted env orgId body db request payload ensured)

include admitted

theorem Admitted.keyFree_iff {key : String} : KeyFree env key ensured ↔ KeyFree env key db := by
  have alike := admitted.opened env.storageKind key
  constructor
  · rintro ⟨reads, missing⟩
    exact ⟨reads, alike.symm.trans missing⟩
  · rintro ⟨reads, missing⟩
    exact ⟨reads, alike.trans missing⟩

theorem Admitted.storable_iff {key : String} : Storable env key ensured ↔ Storable env key db := by
  constructor
  · rintro ⟨free, writes⟩
    exact ⟨admitted.keyFree_iff.mp free, writes⟩
  · rintro ⟨free, writes⟩
    exact ⟨admitted.keyFree_iff.mpr free, writes⟩

/-- The app is left as it was exactly if it was there. -/
theorem Admitted.apps_iff : ensured.apps = db.apps ↔ AppStored db (request.keyIn orgId) := by
  rcases ensureAppInOrg_ends admitted.app with ⟨⟨org, readable⟩, same⟩ | ⟨org, normal, _, absent, rfl⟩
  · exact iff_of_true (congrArg Database.apps same) ⟨org, readable.normal, readable.found⟩
  · refine iff_of_false ?_ ?_
    · intro same
      have made := (withNewApp_lists db env.now org request.manifest.appId).1
      rw [same, absent] at made
      cases made
    · rintro ⟨org', normal', found⟩
      cases normal.symm.trans normal'
      have gone : db.apps.lookup (org, (request.keyIn orgId).appId) = none := absent
      rw [gone] at found
      cases found

theorem Admitted.same_of_stored (stored : AppStored db (request.keyIn orgId)) : ensured = db := by
  rcases ensureAppInOrg_ends admitted.app with ⟨_, same⟩ | ⟨org, _, _, absent, rfl⟩
  · exact same
  · have made := (withNewApp_lists db env.now org request.manifest.appId).1
    rw [admitted.apps_iff.mpr stored, absent] at made
    cases made

/-- The request of an upload that got as far as its app. -/
theorem Admitted.failsFirst_iff :
    FailsFirst env orgId body db ↔
      (Storable env (request.keyIn orgId).storageKey db →
        env.sql .insertPatch = .ok () ∧ ReadsAgain env db (request.keyIn orgId)) ∧
      (¬ Storable env (request.keyIn orgId).storageKey db →
        AppStored db (request.keyIn orgId) ∧
          (KeyFree env (request.keyIn orgId).storageKey db →
            PutLeavesNothing env (request.keyIn orgId).storageKey db)) := by
  constructor
  · intro first
    exact first request payload admitted.parsed admitted.checked (by rw [admitted.app])
  · intro both other payload' parsed checked ensures
    cases admitted.parsed.symm.trans parsed
    exact both

/-- What is stored can be listed exactly under the condition. -/
theorem Admitted.lists_iff (key : String) :
    (∃ after, putPatchInOrg env (currentOrgID orgId) (request.manifest.uploaded (currentOrgID orgId))
      (ensured.withObject key payload) = (.ok (), after)) ↔
      env.sql .insertPatch = .ok () ∧ ReadsAgain env db (request.keyIn orgId) := by
  rw [putPatchInOrg_ok_iff, PatchManifest.uploaded_appId, and_comm]
  refine and_congr_right fun _ => ?_
  rcases ensureAppInOrg_ends admitted.app with
    ⟨⟨org, readable⟩, rfl⟩ | ⟨org, normal, selects, absent, rfl⟩
  · constructor
    · rintro ⟨org', again⟩
      refine ⟨again.selects, again.platforms, ?_⟩
      by_cases empty : ensured.appPlatforms (org', request.manifest.appId) = []
      · exact .inr ⟨org', again.normal, again.found, empty⟩
      · exact .inl (again.abis empty)
    · rintro ⟨selects, platforms, abis⟩
      refine ⟨org, readable.normal, selects, readable.found, platforms, fun listed => ?_⟩
      rcases abis with runs | ⟨org', normal, _, empty⟩
      · exact runs
      · cases readable.normal.symm.trans normal
        exact absurd empty listed
  · obtain ⟨made, listed⟩ := withNewApp_lists db env.now org request.manifest.appId
    constructor
    · rintro ⟨org', again⟩
      cases normal.symm.trans again.normal
      exact ⟨again.selects, again.platforms, .inl (again.abis listed)⟩
    · rintro ⟨selects, platforms, abis⟩
      refine ⟨org, normal, selects, made, platforms, fun _ => ?_⟩
      rcases abis with runs | ⟨org', normal', found, _⟩
      · exact runs
      · cases normal.symm.trans normal'
        have gone : db.apps.lookup (org, (request.keyIn orgId).appId) = none := absent
        rw [gone] at found
        cases found

/-- An upload that the storage stopped has changed nothing under the condition only. -/
theorem Admitted.stopped_iff {error : HttpError} {after : Database}
    (refused : PutRefused env (request.keyIn orgId).storageKey payload ensured error after) :
    after = db ↔ FailsFirst env orgId body db := by
  have full : ¬ Storable env (request.keyIn orgId).storageKey db := by
    rw [← admitted.storable_iff]
    intro storable
    cases refused with
    | taken _ there => exact Opened.not_there_of_missing storable.missing there
    | unread fails => exact fails storable.toKeyFree
    | unwritten _ fails => cases fails.symm.trans storable.writes
  have apps : after.apps = ensured.apps := by
    rcases refused.state with ⟨_, same⟩ | ⟨_, same⟩
    · rw [same]
      rfl
    · rw [same]
  rw [admitted.failsFirst_iff]
  constructor
  · intro same
    have stored : AppStored db (request.keyIn orgId) := by
      rw [← admitted.apps_iff, ← apps, same]
    refine ⟨fun storable => absurd storable full, fun _ => ⟨stored, fun free => ?_⟩⟩
    obtain rfl := admitted.same_of_stored stored
    cases refused with
    | taken _ there => exact absurd there (Opened.not_there_of_missing free.missing)
    | unread fails => exact absurd free fails
    | unwritten => exact (afterFailedPut_eq_iff payload (absent_of_missing free.missing)).mp same
  · intro both
    obtain ⟨stored, left⟩ := both.2 full
    obtain rfl := admitted.same_of_stored stored
    cases refused with
    | taken | unread => rfl
    | unwritten free => exact (afterFailedPut_eq_iff payload (absent_of_missing free.missing)).mpr (left free)

end Admissions

/-- An upload that is answered with an error leaves the database and the objects as they were
exactly if no write comes before the failure. -/
theorem failed_upload_atomic_iff (env : Environment) (orgId : Option String) (body : Except String Json)
    (db : Database) :
    (∀ error after, createPatch env orgId body db = (.error error, after) → after = db) ↔
      FailsFirst env orgId body db := by
  have ends := createPatch_ended env orgId body db
  rcases ended : createPatch env orgId body db with ⟨answer, after⟩
  rw [ended] at ends
  dsimp only at ends
  have unchanged_iff : ∀ {error : HttpError} {finish : Database},
      (∀ error' after', ((Except.error error : Except HttpError Reply), finish) = (.error error', after') →
        after' = db) ↔ finish = db := by
    intro error finish
    constructor
    · intro unchanged
      exact unchanged error finish rfl
    · intro same error' after' ended
      cases ended
      exact same
  cases ends with
  | rejected _ unacceptable =>
      rw [unchanged_iff]
      refine iff_of_true rfl ?_
      intro request payload parsed checked
      exact absurd checked (unacceptable request payload parsed)
  | appless parsed checked fails =>
      rw [unchanged_iff]
      refine iff_of_true rfl ?_
      intro request payload parsed' _ ensures
      cases parsed.symm.trans parsed'
      rw [fails] at ensures
      cases ensures
  | stopped admitted refused =>
      rw [unchanged_iff]
      exact admitted.stopped_iff refused
  | @unlisted request payload ensured error admitted storable fails =>
      rw [unchanged_iff, admitted.failsFirst_iff]
      refine iff_of_false ?_ ?_
      · intro same
        have absent := absent_of_missing (admitted.storable_iff.mp storable).missing
        have put : (ensured.withObject (request.keyIn orgId).storageKey payload).objects.lookup
            (request.keyIn orgId).storageKey = some payload := AList.lookup_insert _
        rw [same, absent] at put
        cases put
      · intro both
        obtain ⟨after, listed⟩ := (admitted.lists_iff (request.keyIn orgId).storageKey).mpr
          (both.1 (admitted.storable_iff.mp storable))
        cases fails.symm.trans listed
  | stored admitted storable listed =>
      rw [admitted.failsFirst_iff]
      refine iff_of_true ?_ ⟨fun _ => ?_, fun full => absurd (admitted.storable_iff.mp storable) full⟩
      · intro error after' ended
        cases ended
      · exact (admitted.lists_iff _).mp ⟨_, listed⟩

end Atomicity

/-- The payload is stored, and then the database fails. -/
def unlistedEnv : Environment :=
  { abcEnv with sql := fun statement => if statement = .insertPatch then .error "disk full" else .ok () }

/-- On a new server an upload whose patch cannot be written leaves its payload. -/
theorem failed_upload_leaves_payload :
    ¬ ∀ (now : Nat) (history : List RouteCall) (env : Environment) (orgId : Option String)
        (body : Except String Json) (error : HttpError) (after : Database),
      createPatch env orgId body (runFrom serveRoute (Database.migrated now) history) = (.error error, after) →
        after = runFrom serveRoute (Database.migrated now) history := by
  intro atomic
  have fails : (createPatch unlistedEnv none (.ok (uploadBody abcUpload "YWJj")) (Database.migrated 0)).1 =
      .error { status := 500, message := "disk full" } := by decide
  have same := atomic 0 [] unlistedEnv none (.ok (uploadBody abcUpload "YWJj")) _
    (createPatch unlistedEnv none (.ok (uploadBody abcUpload "YWJj")) (Database.migrated 0)).2
    (Prod.ext fails rfl)
  have left : ((createPatch unlistedEnv none (.ok (uploadBody abcUpload "YWJj"))
      (Database.migrated 0)).2.objects.lookup abcUpload.payload.downloadUrl).isSome := by decide
  rw [same] at left
  cases left

end CodePush.Server
