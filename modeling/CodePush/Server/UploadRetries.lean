import CodePush.Foundation.Runs
import CodePush.Server.PatchStore

/-!
# Uploads over a connection that loses messages

`Client::create_patch` posts an upload again when a response is lost or has a status from
500 on. An upload whose response was lost may have been stored; the next attempt then
finds its payload in the storage, and the client reports a conflict.
-/

set_option autoImplicit false

namespace CodePush.Server

open CodePush.Core CodePush.Foundation CodePush.Foundation.Action

/-!
## The client
-/

/-- The outcomes of the server's calls while it handles one attempt. -/
structure Faults where
  now : Nat
  sql : Statement → Except String Unit
  sqlAgain : Statement → Except String Unit
  storage : StorageCall → Except String Unit
  failedPut : PutLeft

/-- The libraries are the same in every attempt. -/
def Environment.meeting (lib : Environment) (faults : Faults) : Environment :=
  { lib with
    now := faults.now
    sql := faults.sql
    sqlAgain := faults.sqlAgain
    storage := faults.storage
    failedPut := faults.failedPut }

/-- What becomes of an attempt. -/
inductive Exchange where
  | requestLost
  | responseLost (faults : Faults)
  | replied (faults : Faults)

/-- What `post_json` returns; a lost attempt is an error of the HTTP library. -/
inductive PostResult where
  | ok
  | refused (status : Nat) (message : String)
  | lost
  deriving Repr, DecidableEq

/-- The client between two attempts, and the server. `responseLost` says that an attempt
has reached the server and its response was lost. -/
structure Posting where
  attempt : Nat
  responseLost : Bool
  result : Option PostResult
  db : Database

def Posting.start (db : Database) : Posting where
  attempt := 0
  responseLost := false
  result := none
  db := db

/-- An attempt without a response. -/
def Posting.unanswered (posting : Posting) : Posting :=
  if canRetry posting.attempt then { posting with attempt := posting.attempt + 1 }
  else { posting with result := some .lost }

/-- An attempt with a reply. -/
def Posting.answered (posting : Posting) (reply : Except HttpError Reply) : Posting :=
  match reply with
  | .ok _ => { posting with result := some .ok }
  | .error error =>
      if shouldRetryStatus error.status && canRetry posting.attempt then
        { posting with attempt := posting.attempt + 1 }
      else { posting with result := some (.refused error.status error.message) }

/-- One attempt of the loop in `post_json`. -/
def postStep (lib : Environment) (orgId : Option String) (body : Json) (exchange : Exchange)
    (posting : Posting) : Unit × Posting :=
  if posting.result.isSome then ((), posting)
  else
    match exchange with
    | .requestLost => ((), posting.unanswered)
    | .responseLost faults =>
        let (_, db) := createPatch (lib.meeting faults) orgId (.ok body) posting.db
        ((), { posting with db, responseLost := true }.unanswered)
    | .replied faults =>
        let (reply, db) := createPatch (lib.meeting faults) orgId (.ok body) posting.db
        ((), { posting with db }.answered reply)

/-!
## Agreement
-/

/-- The row of the upload is stored. -/
def Uploaded (orgId : Option String) (body : Json) (db : Database) : Prop :=
  ∃ request, CreatePatchRequest.unmarshal body = .ok request ∧
    db.patches.lookup (request.manifest.keyIn (currentOrgID orgId)) =
      some (request.manifest.uploaded (currentOrgID orgId)).row

/-- There is no row under the key of the upload. -/
def NotUploaded (orgId : Option String) (body : Json) (db : Database) : Prop :=
  ∀ request, CreatePatchRequest.unmarshal body = .ok request →
    db.patches.lookup (request.manifest.keyIn (currentOrgID orgId)) = none

/-- What the client is told is what the server has, and a retry after a lost response is no
conflict. -/
structure Agreement (orgId : Option String) (body : Json) (posting : Posting) : Prop where
  stored : posting.result = some .ok → Uploaded orgId body posting.db
  refused : ∀ status message, posting.result = some (.refused status message) → 400 ≤ status →
    status < 500 → NotUploaded orgId body posting.db
  conflict : posting.responseLost = true → ∀ message, posting.result ≠ some (.refused 409 message)

/-- The upload passes its checks, and its payload's object or a directory in its place is
there already. -/
def FindsPayload (env : Environment) (orgId : Option String) (body : Json) (db : Database) : Prop :=
  ∃ request payload, CreatePatchRequest.unmarshal body = .ok request ∧
    checkUpload env request = .ok payload ∧
    (ensureAppInOrg env (currentOrgID orgId) request.manifest.appId db).1 = .ok () ∧
    env.storage (.get (request.keyIn orgId).storageKey) = .ok () ∧
    (db.opened env.storageKind (request.keyIn orgId).storageKey).There

/-- After a lost response, an attempt with a reply finds the payload in the storage. -/
def Disputed (lib : Environment) (orgId : Option String) (body : Json) (posting : Posting)
    (exchange : Exchange) : Prop :=
  posting.result = none ∧ posting.responseLost = true ∧ ∃ faults, exchange = .replied faults ∧
    FindsPayload (lib.meeting faults) orgId body posting.db

/-!
## The server's reply
-/

/-- The server could accept the upload. -/
def Acceptable (env : Environment) (body : Json) : Prop :=
  ∃ request payload, CreatePatchRequest.unmarshal body = .ok request ∧
    checkUpload env request = .ok payload

/-- What a refusal tells. -/
structure Refusal (env : Environment) (orgId : Option String) (body : Json) (before after : Database)
    (error : HttpError) : Prop where
  patches : after.patches = before.patches
  conflict : error.status = 409 ↔ FindsPayload env orgId body before
  unacceptable : error.status < 500 → error.status ≠ 409 → ¬ Acceptable env body

section Reply

variable {env : Environment} {orgId : Option String} {body : Json} {before after : Database}
  {error : HttpError}

/-- The body, or its manifest, is not what the server takes. -/
theorem Refusal.rejected (bad : error.status = 400) (reason : ¬ Acceptable env body) :
    Refusal env orgId body before before error := by
  refine ⟨rfl, iff_of_false (by omega) ?_, fun _ _ => reason⟩
  rintro ⟨request, payload, parsed, checked, _⟩
  exact reason ⟨request, payload, parsed, checked⟩

/-- The server could not do what it tried. -/
theorem Refusal.failed (internal : error.status = 500) (patches : after.patches = before.patches)
    (missed : ¬ FindsPayload env orgId body before) : Refusal env orgId body before after error :=
  ⟨patches, iff_of_false (by omega) missed, fun below => by omega⟩

/-- The calls of an upload that are made before its payload is looked up have gone through. -/
theorem Admitted.findsPayload_iff {request : CreatePatchRequest} {payload : Bytes} {ensured : Database}
    (admitted : Admitted env orgId (.ok body) before request payload ensured) :
    FindsPayload env orgId body before ↔
      env.storage (.get (request.keyIn orgId).storageKey) = .ok () ∧
        (ensured.opened env.storageKind (request.keyIn orgId).storageKey).There := by
  rw [admitted.opened]
  constructor
  · rintro ⟨same, _, again, _, _, found⟩
    cases again.symm.trans admitted.parsed
    exact found
  · exact fun found => ⟨request, payload, admitted.parsed, admitted.checked, by rw [admitted.app], found⟩

theorem Admitted.not_findsPayload {request : CreatePatchRequest} {payload : Bytes} {ensured : Database}
    (admitted : Admitted env orgId (.ok body) before request payload ensured)
    (looked : KeyFree env (request.keyIn orgId).storageKey ensured) : ¬ FindsPayload env orgId body before := by
  rw [admitted.findsPayload_iff]
  exact fun found => Opened.not_there_of_missing looked.missing found.2

theorem createPatch_replies (env : Environment) (orgId : Option String) (body : Json) (db : Database) :
    Ensures (createPatch env orgId (.ok body)) db
      (fun _ after => Uploaded orgId body after ∧ Acceptable env body ∧ ¬ FindsPayload env orgId body db)
      (fun error after => Refusal env orgId body db after error) := by
  apply (createPatch_ends env orgId (.ok body) db).mono
  · intro _ after ends
    cases ends with
    | stored admitted storable listed =>
        obtain ⟨rfl, _⟩ := (putPatchInOrg_ensures env _ _ _).of_ok listed
        exact ⟨⟨_, admitted.parsed, AList.lookup_insert _⟩, ⟨_, _, admitted.parsed, admitted.checked⟩,
          admitted.not_findsPayload storable.toKeyFree⟩
  · intro error after ends
    cases ends with
    | rejected bad unacceptable =>
        refine .rejected bad ?_
        rintro ⟨request, payload, parsed, checked⟩
        exact unacceptable request payload parsed checked
    | appless parsed checked fails =>
        refine .failed rfl rfl ?_
        rintro ⟨request', payload', again, _, ensured, _⟩
        cases again.symm.trans parsed
        rw [fails] at ensured
        cases ensured
    | stopped admitted refused =>
        refine ⟨refused.patches.trans admitted.patches, ?_, fun below other => ?_⟩
        · rw [admitted.findsPayload_iff]
          exact refused.conflict_iff
        · have status := refused.status
          omega
    | unlisted admitted storable =>
        exact .failed rfl admitted.patches (admitted.not_findsPayload storable.toKeyFree)

end Reply

/-!
## Attempts
-/

section Attempts

variable {lib : Environment} {orgId : Option String} {body : Json} {posting : Posting}

/-- As long as there is no result, the row is only there if a response was lost, and then the
upload is one that the server accepts. -/
def Traced (lib : Environment) (orgId : Option String) (body : Json) (posting : Posting) : Prop :=
  posting.result = none → NotUploaded orgId body posting.db ∨
    (posting.responseLost = true ∧ Acceptable lib body)

@[simp] theorem Posting.unanswered_db : posting.unanswered.db = posting.db := by
  unfold Posting.unanswered
  split
  · rfl
  · rfl

@[simp] theorem Posting.unanswered_responseLost : posting.unanswered.responseLost = posting.responseLost := by
  unfold Posting.unanswered
  split
  · rfl
  · rfl

/-- An attempt without a response leaves the client with no result but the loss. -/
theorem Posting.unanswered_result (open_ : posting.result = none) :
    posting.unanswered.result = none ∨ posting.unanswered.result = some .lost := by
  unfold Posting.unanswered
  split
  · exact .inl open_
  · exact .inr rfl

@[simp] theorem Posting.answered_db {reply : Except HttpError Reply} :
    (posting.answered reply).db = posting.db := by
  unfold Posting.answered
  repeat' split
  all_goals rfl

@[simp] theorem Posting.answered_responseLost {reply : Except HttpError Reply} :
    (posting.answered reply).responseLost = posting.responseLost := by
  unfold Posting.answered
  repeat' split
  all_goals rfl

theorem NotUploaded.of_patches {before after : Database} (absent : NotUploaded orgId body before)
    (same : after.patches = before.patches) : NotUploaded orgId body after := by
  intro request parsed
  rw [same]
  exact absent request parsed

/-- The server's side of an attempt that reaches it. -/
theorem Traced.reached (traced : Traced lib orgId body posting) (open_ : posting.result = none)
    (faults : Faults) :
    Ensures (createPatch (lib.meeting faults) orgId (.ok body)) posting.db
      (fun _ after => Uploaded orgId body after ∧ Acceptable lib body)
      (fun _ after => NotUploaded orgId body after ∨ (posting.responseLost = true ∧ Acceptable lib body)) := by
  refine (createPatch_replies (lib.meeting faults) orgId body posting.db).mono ?_ ?_
  · rintro _ after ⟨uploaded, acceptable, _⟩
    exact ⟨uploaded, acceptable⟩
  · rintro error after refusal
    rcases traced open_ with absent | lost
    · exact .inl (absent.of_patches refusal.patches)
    · exact .inr lost

theorem Traced.step (traced : Traced lib orgId body posting) (exchange : Exchange) :
    Traced lib orgId body (postStep lib orgId body exchange posting).2 := by
  unfold postStep
  split
  · exact traced
  case isFalse unfinished =>
    have open_ : posting.result = none := Option.not_isSome_iff_eq_none.mp unfinished
    cases exchange with
    | requestLost =>
        intro _
        simpa using traced open_
    | responseLost faults =>
        intro _
        have reached := traced.reached open_ faults
        dsimp only
        rcases ended : createPatch (lib.meeting faults) orgId (.ok body) posting.db with ⟨error | reply, after⟩
        · have kept := reached.of_error ended
          simp only [Posting.unanswered_db, Posting.unanswered_responseLost]
          tauto
        · have stored := reached.of_ok ended
          exact .inr ⟨by simp, stored.2⟩
    | replied faults =>
        have reached := traced.reached open_ faults
        dsimp only
        rcases ended : createPatch (lib.meeting faults) orgId (.ok body) posting.db with ⟨error | reply, after⟩
        · intro _
          simpa using reached.of_error ended
        · intro pending
          cases pending

/-- Without an answer, there is nothing to disagree about. -/
theorem Agreement.of_unanswered (pending : posting.result = none ∨ posting.result = some .lost) :
    Agreement orgId body posting := by
  constructor
  · intro told
    rcases pending with none | lost
    · cases none.symm.trans told
    · cases lost.symm.trans told
  · intro status message told
    rcases pending with none | lost
    · cases none.symm.trans told
    · cases lost.symm.trans told
  · intro _ message told
    rcases pending with none | lost
    · cases none.symm.trans told
    · cases lost.symm.trans told

/-- The reply that ends the posting agrees, unless it is a conflict after a lost response. -/
theorem Traced.answered_iff (traced : Traced lib orgId body posting) (open_ : posting.result = none)
    (faults : Faults) :
    Ensures (createPatch (lib.meeting faults) orgId (.ok body)) posting.db
      (fun reply after => Agreement orgId body ({ posting with db := after }.answered (.ok reply)) ∧
        ¬ FindsPayload (lib.meeting faults) orgId body posting.db)
      (fun error after => Agreement orgId body ({ posting with db := after }.answered (.error error)) ↔
        ¬ (posting.responseLost = true ∧ FindsPayload (lib.meeting faults) orgId body posting.db)) := by
  refine (createPatch_replies (lib.meeting faults) orgId body posting.db).mono ?_ ?_
  · rintro reply after ⟨uploaded, _, missed⟩
    refine ⟨⟨fun _ => uploaded, ?_, ?_⟩, missed⟩
    · intro status message told
      cases told
    · intro _ message told
      cases told
  · rintro error after ⟨patches, conflict, unacceptable⟩
    rw [← conflict]
    unfold Posting.answered
    dsimp only
    split
    case isTrue retried =>
      refine iff_of_true (.of_unanswered (.inl open_)) ?_
      simp only [shouldRetryStatus, Bool.and_eq_true, decide_eq_true_eq] at retried
      omega
    case isFalse last =>
      constructor
      · rintro agreement ⟨lost, status⟩
        exact agreement.conflict lost error.message (by rw [status])
      · intro undisputed
        constructor
        · intro told
          cases told
        · intro status message told _ below
          cases told
          rcases traced open_ with absent | ⟨lost, acceptable⟩
          · exact absent.of_patches patches
          · by_cases clash : error.status = 409
            · exact absurd ⟨lost, clash⟩ undisputed
            · exact absurd acceptable (unacceptable below clash)
        · intro lost message told
          refine undisputed ⟨lost, ?_⟩
          injection told with told
          injection told

theorem postStep_agreement_iff (traced : Traced lib orgId body posting)
    (agreement : Agreement orgId body posting) (exchange : Exchange) :
    Agreement orgId body (postStep lib orgId body exchange posting).2 ↔
      ¬ Disputed lib orgId body posting exchange := by
  unfold postStep
  split
  case isTrue finished =>
    refine iff_of_true agreement ?_
    rintro ⟨unfinished, _⟩
    rw [unfinished] at finished
    cases finished
  case isFalse unfinished =>
    have open_ : posting.result = none := Option.not_isSome_iff_eq_none.mp unfinished
    cases exchange with
    | requestLost =>
        refine iff_of_true (.of_unanswered (posting.unanswered_result open_)) ?_
        rintro ⟨_, _, faults, other, _⟩
        cases other
    | responseLost faults =>
        refine iff_of_true (.of_unanswered (Posting.unanswered_result open_)) ?_
        rintro ⟨_, _, faults, other, _⟩
        cases other
    | replied faults =>
        have disputed : Disputed lib orgId body posting (.replied faults) ↔
            posting.responseLost = true ∧ FindsPayload (lib.meeting faults) orgId body posting.db := by
          simp [Disputed, open_]
        have answered := traced.answered_iff open_ faults
        rw [disputed]
        dsimp only
        rcases ended : createPatch (lib.meeting faults) orgId (.ok body) posting.db with ⟨error | reply, after⟩
        · exact answered.of_error ended
        · obtain ⟨agrees, missed⟩ := answered.of_ok ended
          exact iff_of_true agrees fun both => missed both.2

end Attempts

/-!
## Runs
-/

/-- Client and server agree throughout exactly if no attempt after a lost response finds
the payload that an earlier one has stored. -/
theorem upload_agreed_iff_undisputed (lib : Environment) (orgId : Option String) (body : Json)
    (db : Database) (absent : NotUploaded orgId body db) (exchanges : List Exchange) :
    (∀ taken, taken <+: exchanges →
        Agreement orgId body (runFrom (postStep lib orgId body) (Posting.start db) taken)) ↔
      Guarded (postStep lib orgId body) (fun posting exchange => ¬ Disputed lib orgId body posting exchange)
        (Posting.start db) exchanges := by
  have initially : Traced lib orgId body (Posting.start db) ∧ Agreement orgId body (Posting.start db) :=
    ⟨fun _ => .inl absent, .of_unanswered (.inl rfl)⟩
  have traced : ∀ taken, Traced lib orgId body (runFrom (postStep lib orgId body) (Posting.start db) taken) := by
    intro taken
    exact (guarded_true (postStep lib orgId body) (Posting.start db) taken).invariant
      (Traced lib orgId body) (fun _ exchange traced _ => traced.step exchange) initially.1
  rw [← kept_iff_guarded (fun posting => Traced lib orgId body posting ∧ Agreement orgId body posting) ?_
    initially]
  · exact forall₂_congr fun taken _ => (and_iff_right (traced taken)).symm
  · rintro posting exchange ⟨traced, agreement⟩
    rw [and_iff_right (traced.step exchange)]
    exact postStep_agreement_iff traced agreement exchange

def noFaults : Faults where
  now := 0
  sql := fun _ => .ok ()
  sqlAgain := fun _ => .ok ()
  storage := fun _ => .ok ()
  failedPut := .nothing

/-- The first request is lost on its way; the second one is stored and answered. -/
theorem lost_request_agreed :
    NotUploaded (some "acme") (uploadBody abcUpload "YWJj") abcDatabase ∧
    ∀ taken, taken <+: [.requestLost, .replied noFaults] →
      Agreement (some "acme") (uploadBody abcUpload "YWJj")
        (runFrom (postStep abcEnv (some "acme") (uploadBody abcUpload "YWJj")) (Posting.start abcDatabase)
          taken) := by
  have fresh : NotUploaded (some "acme") (uploadBody abcUpload "YWJj") abcDatabase := fun _ _ => rfl
  refine ⟨fresh, (upload_agreed_iff_undisputed _ _ _ _ fresh _).mpr ⟨?_, ?_, trivial⟩⟩
  · rintro ⟨_, lost, _⟩
    cases lost
  · rintro ⟨_, lost, _⟩
    cases lost

/-- The first response is lost; the retry finds the payload. -/
theorem lost_response_conflict :
    ¬ ∀ (lib : Environment) (orgId : Option String) (body : Json) (db : Database),
      NotUploaded orgId body db → ∀ exchanges : List Exchange,
        Agreement orgId body (runFrom (postStep lib orgId body) (Posting.start db) exchanges) := by
  intro agreed
  have agreement := agreed abcEnv (some "acme") (uploadBody abcUpload "YWJj") abcDatabase
    (fun _ _ => rfl) [.responseLost noFaults, .replied noFaults]
  have conflict : (runFrom (postStep abcEnv (some "acme") (uploadBody abcUpload "YWJj"))
      (Posting.start abcDatabase) [.responseLost noFaults, .replied noFaults]).result =
        some (.refused 409 "payload object already exists") := by decide
  have lost : (runFrom (postStep abcEnv (some "acme") (uploadBody abcUpload "YWJj"))
      (Posting.start abcDatabase) [.responseLost noFaults, .replied noFaults]).responseLost = true := by
    decide
  exact agreement.conflict lost _ conflict

end CodePush.Server
