import CodePush.Server.Routes
import CodePush.Server.OwnerProperties
import CodePush.Server.UploadEnds

/-!
# What a request can write

Every handler behind the admin and bearer routes changes the tables by a few kinds of
writes, all in the organization that its route or its token gives it. Who may change
what, and what one organization sees of another, follows from that.
-/

set_option autoImplicit false

namespace CodePush.Server

open CodePush.Core CodePush.Foundation CodePush.Foundation.Action

/-!
## Writes
-/

def Database.withoutApp (db : Database) (orgId id : String) : Database :=
  let cleared := db.clearPlatforms (orgId, id)
  { cleared with
    apps := cleared.apps.erase (orgId, id)
    releases := keepRows (fun key => ¬ (key.orgId = orgId ∧ key.appId = id)) cleared.releases
    patches := keepRows (fun key => ¬ (key.orgId = orgId ∧ key.appId = id)) cleared.patches }

/-- The writes that leave patches and payloads alone. `org` is the organization as
the request names it; patches and releases are stored under it as it is. -/
inductive PlainWrite (org : String) : Database → Database → Prop where
  | app {before after : Database} {id appId : String} (normal : validateOrgID org = .ok id)
      (writes : before.WritesApp after (id, appId)) : PlainWrite org before after
  | release {before : Database} (key : ReleaseKey) (row : ReleaseRow) (own : key.orgId = org) :
      PlainWrite org before { before with releases := before.releases.insert key row }
  | newToken {before : Database} {id : String} (row : CliToken) (normal : validateOrgID org = .ok id)
      (own : row.orgId = id) (fresh : ∀ token ∈ before.cliTokens, token.tokenHash ≠ row.tokenHash) :
      PlainWrite org before { before with cliTokens := before.cliTokens ++ [row] }
  | revokeToken {before : Database} {id : String} (index : Nat) (row : CliToken) (now : Nat)
      (normal : validateOrgID org = .ok id) (found : before.cliTokens[index]? = some row)
      (own : row.orgId = id) :
      PlainWrite org before
        { before with cliTokens := before.cliTokens.set index { row with revokedAt := some now } }

inductive OrgWrite (org : String) : Database → Database → Prop where
  | plain {before after : Database} (write : PlainWrite org before after) : OrgWrite org before after
  | deleteApp {before : Database} {id : String} (appId : String) (normal : validateOrgID org = .ok id) :
      OrgWrite org before (before.withoutApp id appId)
  | patch {before : Database} (key : PatchKey) (row : PatchRow) (own : key.orgId = org) :
      OrgWrite org before { before with patches := before.patches.insert key row }
  | object {before : Database} (patch : PatchManifest) (payload : Bytes) :
      OrgWrite org before (before.withObject (orgScopedPayloadKey org patch.expectedKey) payload)
  | directory {before : Database} (patch : PatchManifest) (path : String)
      (above : KeyAbove path (orgScopedPayloadKey org patch.expectedKey)) :
      OrgWrite org before (before.withDirectory path)

/-- The writes behind `/api/auth` and `/api/admin/orgs`, but for the first token. -/
inductive AccountWrite : Database → Database → Prop where
  | account {before : Database} (users : AList fun _ : Int => User)
      (sessions : AList fun _ : String => SessionRow)
      (memberships : AList fun _ : String × Int => MembershipRow) :
      AccountWrite before { before with users, sessions, memberships }
  | organization {before : Database} (id : String) (row : OrganizationRow)
      (valid : validateOrgID id = .ok id) :
      AccountWrite before { before with organizations := before.organizations.insert id row }

abbrev AccountWrites : Database → Database → Prop := Relation.ReflTransGen AccountWrite

abbrev PlainWrites (org : String) : Database → Database → Prop := Relation.ReflTransGen (PlainWrite org)

abbrev OrgWrites (org : String) : Database → Database → Prop := Relation.ReflTransGen (OrgWrite org)

theorem PlainWrites.orgWrites {org : String} {before after : Database}
    (writes : PlainWrites org before after) : OrgWrites org before after :=
  Relation.ReflTransGen.mono (fun _ _ write => .plain write) _ _ writes

/-!
## The store
-/

section Store

variable {env : Environment} {db : Database}

theorem mapM_ensures {α β : Type} {convert : α → StoreOp β} {items : List α}
    (reads : ∀ item, Ensures (convert item) db (fun _ after => after = db) (fun _ after => after = db)) :
    Ensures (items.mapM convert) db (fun _ after => after = db) (fun _ after => after = db) := by
  induction items with
  | nil => exact ensures_pure rfl
  | cons item items ih =>
      rw [List.mapM_cons]
      apply ensures_bind
      refine (reads item).mono ?_ (fun _ _ same => same)
      rintro value _ rfl
      apply ensures_bind
      refine ih.mono ?_ (fun _ _ same => same)
      rintro values _ rfl
      exact ensures_pure rfl

theorem findAppsByNameInOrg_ensures (env : Environment) (orgId name : String) (db : Database) :
    Ensures (findAppsByNameInOrg env orgId name) db (fun _ after => after = db)
      (fun _ after => after = db) := by
  refine ensures_bind (ensures_attempt (fun id _ => ?_) (fun _ _ => rfl))
  refine ensures_bind (exec_ensures ?_ (fun _ => rfl))
  refine ensures_bind (ensures_get ?_)
  exact mapM_ensures fun appId => getAppInOrg_ensures env.again id appId db

theorem listAppsInOrg_ensures (env : Environment) (orgId : String) (db : Database) :
    Ensures (listAppsInOrg env orgId) db (fun _ after => after = db) (fun _ after => after = db) := by
  refine ensures_bind (ensures_attempt (fun id _ => ?_) (fun _ _ => rfl))
  refine ensures_bind (exec_ensures ?_ (fun _ => rfl))
  refine ensures_bind (ensures_get ?_)
  apply mapM_ensures
  intro entry
  apply ensures_bind
  refine (listAppPlatforms_ensures env entry.1 db).mono ?_ (fun _ _ same => same)
  rintro platforms _ rfl
  exact ensures_pure rfl

theorem stored_ensures {α : Type} (decoded : Except String α) (db : Database) :
    Ensures (stored decoded) db (fun _ after => after = db) (fun _ after => after = db) :=
  ensures_attempt (fun _ _ => rfl) (fun _ _ => rfl)

theorem listReleasesInOrg_ensures (env : Environment) (orgId appId : String) (db : Database) :
    Ensures (listReleasesInOrg env orgId appId) db (fun _ after => after = db)
      (fun _ after => after = db) := by
  apply ensures_bind
  refine (getAppInOrg_ensures env orgId appId db).mono ?_ (fun _ _ same => same)
  rintro app _ rfl
  refine ensures_bind (exec_ensures ?_ (fun _ => rfl))
  refine ensures_bind (ensures_get ?_)
  exact mapM_ensures fun entry => stored_ensures _ _

theorem listPatchesInOrg_ensures (env : Environment) (orgId appId : String) (db : Database) :
    Ensures (listPatchesInOrg env orgId appId) db (fun _ after => after = db)
      (fun _ after => after = db) := by
  apply ensures_bind
  refine (getAppInOrg_ensures env orgId appId db).mono ?_ (fun _ _ same => same)
  rintro app _ rfl
  refine ensures_bind (exec_ensures ?_ (fun _ => rfl))
  refine ensures_bind (ensures_get ?_)
  exact mapM_ensures fun entry => stored_ensures _ _

theorem deleteAppInOrg_ensures (env : Environment) (orgId id : String) (db : Database) :
    Ensures (deleteAppInOrg env orgId id) db
      (fun _ after => ∃ org, validateOrgID orgId = .ok org ∧ after = db.withoutApp org id)
      (fun _ after => after = db) := by
  refine ensures_bind (ensures_attempt (fun org normal => ?_) (fun _ _ => rfl))
  apply transaction_ensures
  refine ensures_bind (exec_ensures ?_ (fun _ => rfl))
  refine ensures_bind (exec_ensures ?_ (fun _ => rfl))
  refine ensures_bind (exec_ensures ?_ (fun _ => rfl))
  refine ensures_bind (ensures_modify ?_)
  refine ensures_bind (exec_ensures ?_ (fun _ => rfl))
  refine ensures_bind (ensures_modify ?_)
  refine ensures_bind (exec_ensures ?_ (fun _ => rfl))
  refine ensures_bind (ensures_modify ?_)
  refine ensures_bind (exec_ensures ?_ (fun _ => rfl))
  refine ensures_bind (exec_ensures ?_ (fun _ => rfl))
  refine ensures_bind (ensures_get ?_)
  refine ensures_bind (row_ensures (fun app _ => ?_) rfl)
  refine ensures_bind (ensures_modify ?_)
  exact exec_ensures ⟨org, normal, rfl⟩ (fun _ => rfl)

theorem putReleaseInOrg_ensures (env : Environment) (orgId : String) (release : ReleaseManifest)
    (db : Database) :
    Ensures (putReleaseInOrg env orgId release) db
      (fun _ after => ∃ row, after = { db with releases := db.releases.insert (release.keyIn orgId) row })
      (fun _ after => after = db) := by
  apply ensures_bind
  refine (getAppInOrg_ensures env.again orgId release.appId db).mono ?_ (fun _ _ same => same)
  rintro app _ rfl
  refine ensures_bind (exec_ensures ?_ (fun _ => rfl))
  exact ensures_modify ⟨_, rfl⟩

theorem createTokenInOrg_ensures (env : Environment) (orgId name : String) (db : Database) :
    Ensures (createTokenInOrg env orgId name) db
      (fun _ after => ∃ (id : String) (row : CliToken), validateOrgID orgId = .ok id ∧ row.orgId = id ∧
        (∀ token ∈ db.cliTokens, token.tokenHash ≠ row.tokenHash) ∧
        after = { db with cliTokens := db.cliTokens ++ [row] })
      (fun _ after => after = db) := by
  refine ensures_bind (ensures_attempt (fun id normal => ?_) (fun _ _ => rfl))
  apply ensures_bind
  refine (getOrganization_ensures env id db).mono ?_ (fun _ _ same => same)
  rintro org _ rfl
  apply ensures_bind
  refine (insertToken_ensures env id _ _).mono ?_ (fun _ _ same => same)
  rintro token _ ⟨row, own, fresh, rfl⟩
  exact ensures_pure ⟨id, row, normal, own, fresh, rfl⟩

theorem revokeToken_eq_some {now : Nat} {orgId : String} {id : Int} {revoked : Database}
    (done : db.revokeToken now orgId id = some revoked) :
    ∃ index row, db.cliTokens[index]? = some row ∧ row.orgId = orgId ∧
      revoked = { db with cliTokens := db.cliTokens.set index { row with revokedAt := some now } } := by
  unfold Database.revokeToken at done
  split at done
  case isTrue => cases done
  case isFalse =>
    dsimp only at done
    split at done
    case h_2 => cases done
    case h_1 row found =>
      split at done
      case isFalse => cases done
      case isTrue live => exact ⟨_, row, found, live.1, (Option.some.inj done).symm⟩

end Store

/-!
## Handlers
-/

section Handlers

variable {env : Environment} {db : Database} {org : String}

theorem map_ensures {α β : Type} {convert : α → β} {handler : Handler α}
    {holds : Database → Prop} {fails : HttpError → Database → Prop}
    (inner : Ensures handler db (fun _ after => holds after) fails) :
    Ensures (convert <$> handler) db (fun _ after => holds after) fails := by
  rw [map_eq_pure_bind]
  exact inner.bind fun _ _ held => ensures_pure held

/-- A store operation that only reads. -/
theorem reads_ensures {α : Type} {op : StoreOp α} {onError : StoreError → HttpError}
    (reads : Ensures op db (fun _ after => after = db) (fun _ after => after = db)) :
    Ensures (answering op onError) db (fun _ after => PlainWrites org db after)
      (fun _ after => PlainWrites org db after) :=
  answering_ensures (reads.mono (fun _ _ same => by rw [same]) (fun _ _ same => by rw [same]))

theorem putAppInOrg_writes (env : Environment) (org : String) (app : App)
    (onError : StoreError → HttpError) (db : Database) :
    Ensures (answering (putAppInOrg env org app) onError) db (fun _ after => PlainWrites org db after)
      (fun _ after => PlainWrites org db after) := by
  apply answering_ensures
  refine (putAppInOrg_ensures env org app db).mono ?_ (fun _ _ same => by rw [same])
  rintro _ after ⟨id, normal, writes⟩
  exact .single (.app normal writes)

theorem adminCreateAppForOrg_writes (env : Environment) (org : String) (body : Except String App)
    (db : Database) :
    Ensures (adminCreateAppForOrg env org body) db (fun _ after => PlainWrites org db after)
      (fun _ after => PlainWrites org db after) := by
  apply ensures_bind
  refine parsedBody_ensures ?_ (fun _ _ => .refl)
  intro app _
  split
  · exact ensures_throw .refl
  · exact (putAppInOrg_writes env org _ _ db).bind fun _ _ writes => ensures_pure writes

theorem adminUpdateAppForOrg_writes (env : Environment) (org id : String) (body : Except String App)
    (db : Database) :
    Ensures (adminUpdateAppForOrg env org id body) db (fun _ after => PlainWrites org db after)
      (fun _ after => PlainWrites org db after) := by
  apply ensures_bind
  refine parsedBody_ensures ?_ (fun _ _ => .refl)
  intro app _
  exact (putAppInOrg_writes env org _ _ db).bind fun _ _ writes => ensures_pure writes

theorem adminDeleteAppForOrg_writes (env : Environment) (org id : String) (db : Database) :
    Ensures (adminDeleteAppForOrg env org id) db (fun _ after => OrgWrites org db after)
      (fun _ after => after = db) := by
  apply ensures_bind
  apply answering_ensures
  refine (deleteAppInOrg_ensures env org id db).mono ?_ (fun _ _ same => same)
  rintro _ _ ⟨normalized, normal, rfl⟩
  exact ensures_pure (.single (.deleteApp id normal))

theorem adminCreateTokenForOrg_writes (env : Environment) (org : String) (body : Except String String)
    (db : Database) :
    Ensures (adminCreateTokenForOrg env org body) db (fun _ after => PlainWrites org db after)
      (fun _ after => PlainWrites org db after) := by
  apply answering_ensures
  refine (createTokenInOrg_ensures env org _ db).mono ?_ (fun _ _ same => by rw [same])
  rintro _ _ ⟨id, row, normal, own, fresh, rfl⟩
  exact .single (.newToken row normal own fresh)

theorem validated_ensures (org : String) (onError : StoreError → HttpError) (db : Database) :
    Ensures (answering (Action.attempt (validateOrgID org)) onError) db
      (fun id after => after = db ∧ validateOrgID org = .ok id) (fun _ after => after = db) :=
  answering_ensures (ensures_attempt (fun _ normal => ⟨rfl, normal⟩) (fun _ _ => rfl))

theorem adminListTokensForOrg_writes (env : Environment) (org : String) (db : Database) :
    Ensures (adminListTokensForOrg env org) db (fun _ after => PlainWrites org db after)
      (fun _ after => PlainWrites org db after) := by
  apply ensures_bind
  refine (validated_ensures org badRequest db).mono ?_ (fun _ _ same => by rw [same])
  rintro id _ ⟨rfl, _⟩
  apply reads_ensures
  refine ensures_bind (exec_ensures ?_ (fun _ => rfl))
  exact ensures_bind (ensures_get (ensures_pure rfl))

theorem adminRevokeTokenForOrg_writes (env : Environment) (org id : String) (db : Database) :
    Ensures (adminRevokeTokenForOrg env org id) db (fun _ after => PlainWrites org db after)
      (fun _ after => PlainWrites org db after) := by
  unfold adminRevokeTokenForOrg
  split
  · exact ensures_throw .refl
  · apply ensures_bind
    refine (validated_ensures org badRequest db).mono ?_ (fun _ _ same => by rw [same])
    rintro normalized _ ⟨rfl, normal⟩
    apply ensures_bind
    apply answering_ensures
    refine exec_ensures ?_ (fun _ => .refl)
    refine ensures_bind (ensures_get ?_)
    split
    · exact ensures_throw .refl
    case h_2 revoked done =>
      obtain ⟨index, row, found, own, rfl⟩ := revokeToken_eq_some done
      refine ensures_bind (ensures_modify (ensures_pure ?_))
      exact .single (.revokeToken index row env.now normal found own)

/-- Promotion and rollback write one row. -/
theorem changePatch_writes (env : Environment) (org : Option String)
    (body : Except String PromotePatchRequest)
    (change : PromotePatchRequest → PatchManifest → PatchManifest) (db : Database) :
    Ensures (changePatch env org body change) db
      (fun _ after => OrgWrites (currentOrgID org) db after) (fun _ after => after = db) := by
  refine (changePatch_ensures env org body change db).mono ?_ (fun _ _ same => same)
  rintro _ _ ⟨_, _, _, _, _, _, rfl⟩
  exact .single (.patch _ _ rfl)

theorem ensureAppInOrg_writes (env : Environment) (org appId : String)
    (onError : StoreError → HttpError) (db : Database) :
    Ensures (answering (ensureAppInOrg env org appId) onError) db
      (fun _ after => PlainWrites org db after) (fun _ after => PlainWrites org db after) := by
  apply answering_ensures
  refine (ensureAppInOrg_ensures env org appId db).mono ?_ (fun _ _ same => by rw [same])
  rintro _ after (rfl | ⟨id, normal, writes⟩)
  · exact .refl
  · exact .single (.app normal writes)

theorem createRelease_writes (env : Environment) (org : Option String) (body : Except String Json)
    (db : Database) :
    Ensures (createRelease env org body) db (fun _ after => PlainWrites (currentOrgID org) db after)
      (fun _ after => PlainWrites (currentOrgID org) db after) := by
  apply ensures_bind
  refine parsedBody_ensures ?_ (fun _ _ => .refl)
  intro release _
  split
  · exact ensures_throw .refl
  apply ensures_bind
  refine (ensureAppInOrg_writes env _ _ _ db).mono ?_ (fun _ _ writes => writes)
  intro _ ensured writes
  apply ensures_bind
  apply answering_ensures
  refine (putReleaseInOrg_ensures env _ release ensured).mono ?_ (fun _ _ same => by rw [same]; exact writes)
  rintro _ _ ⟨row, rfl⟩
  exact ensures_pure (writes.tail (.release _ row rfl))

theorem resolveApp_ensures (env : Environment) (org : Option String) (selector : String)
    (db : Database) :
    Ensures (resolveApp env org selector) db (fun _ after => after = db) (fun _ after => after = db) := by
  have found := getAppInOrg_ensures env (currentOrgID org) selector db
  have search : Ensures (do
      let apps ← answering (findAppsByNameInOrg env (currentOrgID org) selector) internalError
      resolution apps) db (fun _ after => after = db) (fun _ after => after = db) := by
    apply ensures_bind
    apply answering_ensures
    refine (findAppsByNameInOrg_ensures env _ selector db).mono ?_ (fun _ _ same => same)
    rintro apps _ rfl
    unfold resolution
    split
    · exact ensures_throw rfl
    · exact ensures_pure rfl
    · exact ensures_pure rfl
  by_cases blank : selector.isEmpty
  · have refused : Ensures (failWith 400 "missing app" : Handler Resolution) db
        (fun _ after => after = db) (fun _ after => after = db) := ensures_throw rfl
    exact refused.congr (by rw [resolveApp, if_pos blank])
  · rcases ended : getAppInOrg env (currentOrgID org) selector db with ⟨error | app, after⟩
    · have same : after = db := found.of_error ended
      subst same
      by_cases missing : notFound error
      · exact search.congr (by rw [resolveApp, if_neg blank, ended]; exact if_pos missing)
      · have failed : Ensures (throw (internalError error) : Handler Resolution) after
            (fun _ finish => finish = after) (fun _ finish => finish = after) := ensures_throw rfl
        exact failed.congr (by rw [resolveApp, if_neg blank, ended]; exact if_neg missing)
    · have same : after = db := found.of_ok ended
      subst same
      have answered : Ensures (pure (.app app) : Handler Resolution) after
          (fun _ finish => finish = after) (fun _ finish => finish = after) := ensures_pure rfl
      exact answered.congr (by rw [resolveApp, if_neg blank, ended]; rfl)

theorem Admitted.orgWrites {env : Environment} {org : Option String} {body : Except String Json}
    {db ensured : Database} {request : CreatePatchRequest} {payload : Bytes}
    (admitted : Admitted env org body db request payload ensured) : OrgWrites (currentOrgID org) db ensured := by
  rcases admitted.writes with rfl | ⟨id, normal, writes⟩
  · exact .refl
  · exact .single (.plain (.app normal writes))

theorem PutRefused.orgWrites {env : Environment} {org : String} {patch : PatchManifest} {payload : Bytes}
    {db after : Database} {error : HttpError}
    (refused : PutRefused env (orgScopedPayloadKey org patch.expectedKey) payload db error after) :
    OrgWrites org db after := by
  cases refused with
  | taken | unread => exact .refl
  | unwritten =>
      unfold Database.afterFailedPut
      split
      · split
        case isTrue above => exact .single (.directory patch _ above)
        case isFalse => exact .refl
      · exact .single (.object patch payload)
      · exact .refl

theorem createPatch_writes (env : Environment) (org : Option String) (body : Except String Json)
    (db : Database) :
    Ensures (createPatch env org body) db (fun _ after => OrgWrites (currentOrgID org) db after)
      (fun _ after => OrgWrites (currentOrgID org) db after) := by
  apply (createPatch_ends env org body db).mono
  · intro _ after ends
    cases ends with
    | stored admitted _ listed =>
        obtain ⟨rfl, _⟩ := (putPatchInOrg_ensures env _ _ _).of_ok listed
        exact (admitted.orgWrites.tail (.object _ _)).tail (.patch _ _ rfl)
  · intro _ after ends
    cases ends with
    | rejected | appless => exact .refl
    | stopped admitted refused => exact admitted.orgWrites.trans refused.orgWrites
    | unlisted admitted => exact admitted.orgWrites.tail (.object _ _)

/-- The requests that write no patch and delete no app. -/
def OrgOperation.Plain : OrgOperation → Prop
  | .promote _ | .rollback _ | .deleteApp _ => False
  | _ => True

theorem OrgOperation.handle_plain (env : Environment) (org : String) (operation : OrgOperation)
    (plain : operation.Plain) (db : Database) :
    Ensures (operation.handle env org) db (fun _ after => PlainWrites org db after)
      (fun _ after => PlainWrites org db after) := by
  cases operation with
  | listApps => exact map_ensures (reads_ensures (listAppsInOrg_ensures env org db))
  | createApp body => exact map_ensures (adminCreateAppForOrg_writes env org body db)
  | getApp id => exact map_ensures (reads_ensures (getAppInOrg_ensures env org id db))
  | updateApp id body => exact map_ensures (adminUpdateAppForOrg_writes env org id body db)
  | deleteApp id => exact plain.elim
  | listReleases id => exact map_ensures (reads_ensures (listReleasesInOrg_ensures env org id db))
  | listPatches id => exact map_ensures (reads_ensures (listPatchesInOrg_ensures env org id db))
  | promote body => exact plain.elim
  | rollback body => exact plain.elim
  | createToken body => exact map_ensures (adminCreateTokenForOrg_writes env org body db)
  | listTokens => exact map_ensures (adminListTokensForOrg_writes env org db)
  | revokeToken id => exact map_ensures (adminRevokeTokenForOrg_writes env org id db)

theorem currentOrgID_some {org : String} (named : org.isEmpty = false) :
    currentOrgID (some org) = org := by
  simp [currentOrgID, named]

/-- An empty path would stand for the default organization. -/
theorem OrgOperation.handle_writes (env : Environment) (org : String) (operation : OrgOperation)
    (db : Database) :
    Ensures (operation.handle env org) db
      (fun _ after => OrgWrites org db after ∨ OrgWrites (currentOrgID (some org)) db after)
      (fun _ after => OrgWrites org db after) := by
  have changes : ∀ body change, Ensures (changePatch env (some org) body change) db
      (fun _ after => OrgWrites org db after ∨ OrgWrites (currentOrgID (some org)) db after)
      (fun _ after => OrgWrites org db after) := by
    intro body change
    exact (changePatch_writes env (some org) body change db).mono
      (fun _ _ writes => .inr writes) (fun _ _ same => by rw [same])
  by_cases plain : operation.Plain
  · exact (OrgOperation.handle_plain env org operation plain db).mono
      (fun _ _ writes => .inl writes.orgWrites) (fun _ _ writes => writes.orgWrites)
  · cases operation with
    | promote body => exact map_ensures (changes body _)
    | rollback body => exact map_ensures (changes body _)
    | deleteApp id =>
        exact map_ensures ((adminDeleteAppForOrg_writes env org id db).mono
          (fun _ _ writes => .inl writes) (fun _ _ same => by rw [same]))
    | _ => exact absurd trivial plain

/-- What a member may do only reads. -/
theorem OrgOperation.handle_reads (env : Environment) (org : String) (operation : OrgOperation)
    (reads : operation.minRole = .member) (db : Database) :
    Ensures (operation.handle env org) db (fun _ after => after = db) (fun _ after => after = db) := by
  cases operation with
  | listApps => exact map_ensures (answering_ensures (listAppsInOrg_ensures env org db))
  | getApp id => exact map_ensures (answering_ensures (getAppInOrg_ensures env org id db))
  | listReleases id => exact map_ensures (answering_ensures (listReleasesInOrg_ensures env org id db))
  | listPatches id => exact map_ensures (answering_ensures (listPatchesInOrg_ensures env org id db))
  | listTokens =>
      refine map_ensures (ensures_bind ((validated_ensures org badRequest db).mono ?_ fun _ _ same => same))
      rintro id _ ⟨rfl, _⟩
      apply answering_ensures
      refine ensures_bind (exec_ensures ?_ (fun _ => rfl))
      exact ensures_bind (ensures_get (ensures_pure rfl))
  | _ => cases reads

/-- The requests that write no patch. -/
def BearerRequest.Plain : BearerRequest → Prop
  | .createPatch _ | .promote _ | .rollback _ => False
  | _ => True

theorem BearerRequest.handle_plain (env : Environment) (named : org.isEmpty = false)
    (request : BearerRequest) (plain : request.Plain) (db : Database) :
    Ensures (request.handle env org) db (fun _ after => PlainWrites org db after)
      (fun _ after => PlainWrites org db after) := by
  have current := currentOrgID_some named
  cases request with
  | createApp body =>
      have writes := adminCreateAppForOrg_writes env (currentOrgID (some org)) body db
      rw [current] at writes
      exact map_ensures (by rw [Server.createApp, current]; exact writes)
  | resolveApp selector =>
      exact map_ensures ((resolveApp_ensures env (some org) selector db).mono
        (fun _ _ same => by rw [same]) (fun _ _ same => by rw [same]))
  | getApp id =>
      have reads : Ensures (getAppByID env (some org) id) db (fun _ after => PlainWrites org db after)
          (fun _ after => PlainWrites org db after) := by
        rw [getAppByID, adminGetAppForOrg]
        exact reads_ensures (getAppInOrg_ensures env _ id db)
      exact map_ensures reads
  | createRelease body =>
      have writes := createRelease_writes env (some org) body db
      rw [current] at writes
      exact map_ensures writes
  | createPatch body => exact plain.elim
  | promote body => exact plain.elim
  | rollback body => exact plain.elim

theorem BearerRequest.handle_writes (env : Environment) (named : org.isEmpty = false)
    (request : BearerRequest) (db : Database) :
    Ensures (request.handle env org) db (fun _ after => OrgWrites org db after)
      (fun _ after => OrgWrites org db after) := by
  have current := currentOrgID_some named
  have changes : ∀ body change, Ensures (changePatch env (some org) body change) db
      (fun _ after => OrgWrites org db after) (fun _ after => OrgWrites org db after) := by
    intro body change
    have writes := changePatch_writes env (some org) body change db
    rw [current] at writes
    exact writes.mono (fun _ _ writes => writes) (fun _ _ same => by rw [same])
  by_cases plain : request.Plain
  · exact (BearerRequest.handle_plain env named request plain db).mono
      (fun _ _ writes => writes.orgWrites) (fun _ _ writes => writes.orgWrites)
  · cases request with
    | createPatch body =>
        have writes := createPatch_writes env (some org) body db
        rw [current] at writes
        exact map_ensures writes
    | promote body => exact map_ensures (changes body _)
    | rollback body => exact map_ensures (changes body _)
    | _ => exact absurd trivial plain

end Handlers

/-!
## Accounts
-/

section Accounts

variable {env : Environment} {db : Database}

theorem AccountWrites.memberships (memberships : AList fun _ : String × Int => MembershipRow) :
    AccountWrites db { db with memberships } := .single (.account db.users db.sessions memberships)

theorem AccountWrites.sessions (sessions : AList fun _ : String => SessionRow) :
    AccountWrites db { db with sessions } := .single (.account db.users sessions db.memberships)

theorem requireSession_writes (env : Environment) (cookie : String) (db : Database) :
    Ensures (requireSession env cookie) db (fun _ after => after = db)
      (fun _ after => AccountWrites db after) := by
  unfold requireSession
  split
  · exact ensures_throw .refl
  apply ensures_bind
  apply answering_ensures
  refine ensures_bind (exec_ensures ?_ (fun _ => .refl))
  refine ensures_bind (ensures_get ?_)
  refine ensures_bind (row_ensures (fun session _ => ?_) .refl)
  refine ensures_bind (row_ensures (fun user _ => ensures_pure ?_) .refl)
  split
  · apply ensures_bind
    exact ensures_ignore (ensures_throw .refl) (ensures_throw (.sessions _))
  · exact ensures_pure rfl

theorem putOrganization_writes (env : Environment) (org : OrganizationBody) (db : Database) :
    Ensures (putOrganization env org) db (fun _ after => AccountWrites db after)
      (fun _ after => after = db) := by
  refine ensures_bind (ensures_attempt (fun id normal => ?_) (fun _ _ => rfl))
  refine ensures_bind (exec_ensures ?_ (fun _ => rfl))
  exact ensures_modify (.single (.organization id _ (validateOrgID_idem normal)))

theorem addOrgMember_writes (env : Environment) (orgId : String) (request : OrgMemberRequest)
    (db : Database) :
    Ensures (addOrgMember env orgId request) db (fun _ after => AccountWrites db after)
      (fun _ after => after = db) := by
  refine ((ensures_self _ db).and (addOrgMember_ensures env orgId request db)).mono ?_
    (fun _ _ failed => failed.2)
  rintro _ after ⟨added, _⟩
  obtain ⟨id, role, userId, _, _, _, _, _, _, rfl⟩ := addOrgMember_eq_ok.mp added
  exact .memberships _

theorem updateOrgMemberRole_writes (env : Environment) (orgId : String) (userId : Int)
    (role : String) (db : Database) :
    Ensures (updateOrgMemberRole env orgId userId role) db (fun _ after => AccountWrites db after)
      (fun _ after => after = db) := by
  refine ensures_bind (ensures_attempt (fun id _ => ?_) (fun _ _ => rfl))
  split
  · exact ensures_throw rfl
  apply ensures_bind
  refine (orgRoleForUser_ensures env id userId db).mono ?_ (fun _ _ same => same)
  rintro currentRole _ ⟨rfl, _⟩
  apply ensures_bind
  refine (keepLastOwner_ensures env id _ _).mono ?_ (fun _ _ same => same)
  rintro _ _ rfl
  refine ensures_bind (exec_ensures ?_ (fun _ => rfl))
  refine ensures_bind (ensures_get ?_)
  refine ensures_bind (row_ensures (fun old _ => ?_) rfl)
  exact ensures_modify (.memberships _)

theorem removeOrgMember_writes (env : Environment) (orgId : String) (userId : Int) (db : Database) :
    Ensures (removeOrgMember env orgId userId) db (fun _ after => AccountWrites db after)
      (fun _ after => after = db) := by
  refine ensures_bind (ensures_attempt (fun id _ => ?_) (fun _ _ => rfl))
  apply ensures_bind
  refine (orgRoleForUser_ensures env id userId db).mono ?_ (fun _ _ same => same)
  rintro currentRole _ ⟨rfl, _⟩
  apply ensures_bind
  refine (keepLastOwner_ensures env id _ _).mono ?_ (fun _ _ same => same)
  rintro _ _ rfl
  refine ensures_bind (exec_ensures ?_ (fun _ => rfl))
  refine ensures_bind (ensures_get ?_)
  refine ensures_bind (row_ensures (fun old _ => ?_) rfl)
  exact ensures_modify (.memberships _)

/-- A store operation on accounts, as a handler answers it. -/
theorem accountOp_writes {op : StoreOp Unit} {onError : StoreError → HttpError}
    (writes : Ensures op db (fun _ after => AccountWrites db after) (fun _ after => after = db)) :
    Ensures (do
      answering op onError
      pure Reply.ok) db (fun _ after => AccountWrites db after)
      (fun _ after => AccountWrites db after) := by
  apply ensures_bind
  apply answering_ensures
  exact writes.mono (fun _ _ writes => ensures_pure writes) (fun _ _ same => by rw [same])

theorem adminCreateOrg_writes (env : Environment) (userId : Int)
    (body : Except String OrganizationBody) (db : Database) :
    Ensures (adminCreateOrg env userId body) db (fun _ after => AccountWrites db after)
      (fun _ after => AccountWrites db after) := by
  apply ensures_bind
  refine parsedBody_ensures ?_ (fun _ _ => .refl)
  intro org _
  apply ensures_bind
  apply answering_ensures
  refine (putOrganization_writes env org db).mono ?_ (fun _ _ same => by rw [same])
  intro _ put writes
  exact (accountOp_writes (addOrgMember_writes env org.id _ put)).mono
    (fun _ _ later => writes.trans later) (fun _ _ later => writes.trans later)

theorem handleAdmin_writes (env : Environment) (userId : Int) (request : AdminRequest) (db : Database) :
    Ensures (handleAdmin env userId request) db (fun _ after => AccountWrites db after)
      (fun _ after => AccountWrites db after) := by
  have same : ∀ after : Database, after = db → AccountWrites db after := fun _ same => by rw [same]
  have guarded : ∀ {path minRole} {handler : Handler Reply},
      Ensures handler db (fun _ after => AccountWrites db after) (fun _ after => AccountWrites db after) →
      Ensures (do
        requireOrgRole env path minRole userId
        handler) db (fun _ after => AccountWrites db after) (fun _ after => AccountWrites db after) := by
    intro path minRole handler writes
    apply ensures_bind
    refine (requireOrgRole_ensures env path minRole userId db).mono ?_ (fun _ after => same after)
    rintro _ _ ⟨rfl, _⟩
    exact writes
  cases request with
  | listOrgs =>
      exact (adminListOrgs_ensures env userId db).mono (fun _ after => same after) (fun _ after => same after)
  | createOrg body => exact adminCreateOrg_writes env userId body db
  | listMembers path =>
      exact guarded ((adminListOrgMembers_ensures env path db).mono
        (fun _ after => same after) (fun _ after => same after))
  | addMember path body =>
      refine guarded (ensures_bind (parsedBody_ensures (fun request _ => ?_) (fun _ _ => .refl)))
      exact accountOp_writes (addOrgMember_writes env path request db)
  | updateMember path member body =>
      apply guarded
      apply ensures_bind
      refine (memberId_ensures member db).mono ?_ (fun _ after => same after)
      rintro memberId _ rfl
      refine ensures_bind (parsedBody_ensures (fun role _ => ?_) (fun _ _ => .refl))
      exact accountOp_writes (updateOrgMemberRole_writes env path memberId role _)
  | removeMember path member =>
      apply guarded
      apply ensures_bind
      refine (memberId_ensures member db).mono ?_ (fun _ after => same after)
      rintro memberId _ rfl
      exact accountOp_writes (removeOrgMember_writes env path memberId _)

theorem insertUser_writes (env : Environment) (user : User) (db : Database) :
    Ensures (insertUser env user) db (fun _ after => AccountWrites db after) (fun _ after => after = db) := by
  refine ensures_bind (exec_ensures ?_ (fun _ => rfl))
  refine ensures_bind (ensures_get ?_)
  dsimp only
  split
  · exact ensures_throw rfl
  · refine ensures_bind (ensures_modify (ensures_pure ?_))
    exact .single (.account _ db.sessions db.memberships)

theorem defaultOrgID_valid : validateOrgID defaultOrgID = .ok defaultOrgID := by decide

/-- What requests outside `/v1` and outside the apps of an organization can write. -/
def SetupWrites (before after : Database) : Prop :=
  ∃ middle, AccountWrites before middle ∧ PlainWrites defaultOrgID middle after

theorem AccountWrites.setup {after : Database} (writes : AccountWrites db after) : SetupWrites db after :=
  ⟨after, writes, .refl⟩

/-- The first user, an organization, a membership and a token. -/
theorem setupFirstUser_writes (env : Environment) (request : SetupRequest) (hash : String)
    (db : Database) :
    Ensures (setupFirstUser env request hash) db (fun _ after => SetupWrites db after)
      (fun _ _ => True) := by
  have inserted : ∀ {middle : Database} {condition : Prop} [Decidable condition] {after : Database},
      AccountWrites db middle → AccountWrites middle after →
      AccountWrites db (if condition then middle else after) := by
    intro middle condition _ after writes later
    split
    · exact writes
    · exact writes.trans later
  refine ensures_bind (exec_ensures ?_ (fun _ => trivial))
  apply ensures_bind
  refine (insertUser_writes env _ db).mono ?_ (fun _ _ _ => trivial)
  intro userId created writes
  refine ensures_bind (exec_ensures ?_ (fun _ => trivial))
  refine Ensures.bind (@ensures_modify _ _ _ _ _ (fun _ organized => AccountWrites db organized)
    (inserted writes (.single (.organization _ _ defaultOrgID_valid)))) ?_
  intro _ organized writes
  refine ensures_bind (exec_ensures ?_ (fun _ => trivial))
  refine Ensures.bind (@ensures_modify _ _ _ _ _ (fun _ owned => AccountWrites db owned)
    (inserted writes (AccountWrites.memberships _))) ?_
  intro _ owned writes
  apply ensures_bind
  refine (insertToken_ensures env defaultOrgID _ owned).mono ?_ (fun _ _ _ => trivial)
  rintro token _ ⟨row, own, fresh, rfl⟩
  refine ensures_bind (exec_ensures (ensures_pure ?_) (fun _ => trivial))
  exact ⟨owned, writes, .single (.newToken row defaultOrgID_valid own fresh)⟩

theorem setup_writes (env : Environment) (body : Except String SetupRequest) (db : Database) :
    Ensures (setup env body) db (fun _ after => SetupWrites db after) (fun _ after => after = db) := by
  apply ensures_bind
  apply answering_ensures
  refine exec_ensures ?_ (fun _ => rfl)
  refine ensures_bind (ensures_get ?_)
  split
  · exact ensures_throw rfl
  apply ensures_bind
  refine parsedBody_ensures ?_ (fun _ _ => rfl)
  intro request _
  split
  · exact ensures_throw rfl
  split
  · exact ensures_throw rfl
  · apply ensures_bind
    apply answering_ensures
    apply transaction_ensures
    refine (setupFirstUser_writes env request _ db).mono ?_ (fun _ _ _ => rfl)
    intro _ _ writes
    exact ensures_pure writes

theorem login_writes (env : Environment) (body : Except String LoginRequest) (db : Database) :
    Ensures (login env body) db (fun _ after => AccountWrites db after) (fun _ after => after = db) := by
  apply ensures_bind
  refine parsedBody_ensures ?_ (fun _ _ => rfl)
  intro request _
  apply ensures_bind
  apply answering_ensures
  refine ensures_bind (exec_ensures ?_ (fun _ => rfl))
  refine ensures_bind (ensures_get ?_)
  refine ensures_bind (row_ensures (fun userId _ => ?_) rfl)
  refine ensures_bind (row_ensures (fun user _ => ensures_pure ?_) rfl)
  split
  · exact ensures_throw rfl
  split
  · exact ensures_throw rfl
  · apply ensures_bind
    apply answering_ensures
    refine ensures_bind (exec_ensures ?_ (fun _ => rfl))
    refine ensures_bind (ensures_get ?_)
    split
    · exact ensures_throw rfl
    · exact ensures_modify (ensures_pure (.sessions _))

theorem logout_writes (env : Environment) (cookie : String) (db : Database) :
    Ensures (logout env cookie) db (fun _ after => AccountWrites db after)
      (fun _ after => AccountWrites db after) := by
  unfold logout
  split
  · exact ensures_pure .refl
  · refine ensures_bind (ensures_ignore ?_ ?_)
    · exact ensures_pure .refl
    · exact ensures_pure (.sessions _)

theorem handle_writes (env : Environment) (request : Request) (db : Database) :
    Ensures (handle env request) db (fun _ after => SetupWrites db after)
      (fun _ after => SetupWrites db after) := by
  have same : ∀ after : Database, after = db → SetupWrites db after := by
    rintro _ rfl
    exact AccountWrites.setup .refl
  cases request with
  | setup body => exact (setup_writes env body db).mono (fun _ _ writes => writes) (fun _ after => same after)
  | login body =>
      exact (login_writes env body db).mono (fun _ _ writes => writes.setup) (fun _ after => same after)
  | logout cookie =>
      exact (logout_writes env cookie db).mono (fun _ _ writes => writes.setup) (fun _ _ writes => writes.setup)
  | admin cookie request =>
      apply ensures_bind
      refine (requireSession_writes env cookie db).mono ?_ (fun _ _ writes => writes.setup)
      rintro userId _ rfl
      exact (handleAdmin_writes env userId request _).mono
        (fun _ _ writes => writes.setup) (fun _ _ writes => writes.setup)
  | operatorAddsUser user =>
      apply ensures_bind
      apply answering_ensures
      refine (insertUser_writes env user db).mono ?_ (fun _ after => same after)
      intro _ _ writes
      exact ensures_pure writes.setup

end Accounts

/-!
## All routes
-/

inductive AnyWrite : Database → Database → Prop where
  | account {before after : Database} (write : AccountWrite before after) : AnyWrite before after
  | org {before after : Database} (org : String) (write : OrgWrite org before after) :
      AnyWrite before after

abbrev AnyWrites : Database → Database → Prop := Relation.ReflTransGen AnyWrite

theorem OrgWrites.anyWrites {org : String} {before after : Database} (writes : OrgWrites org before after) :
    AnyWrites before after :=
  Relation.ReflTransGen.mono (fun _ _ write => .org org write) _ _ writes

theorem SetupWrites.anyWrites {before after : Database} (writes : SetupWrites before after) :
    AnyWrites before after := by
  obtain ⟨middle, first, second⟩ := writes
  have accounts : AnyWrites before middle :=
    Relation.ReflTransGen.mono (fun _ _ write => .account write) _ _ first
  exact accounts.trans (PlainWrites.orgWrites second).anyWrites

/-- The organization of a token is never the empty one. -/
theorem requireBearer_ensures (env : Environment) (authorization : String) (db : Database) :
    Ensures (requireBearer env authorization) db
      (fun org after => after = db ∧ org.isEmpty = false) (fun _ after => after = db) := by
  unfold requireBearer
  split
  · exact ensures_throw rfl
  · apply ensures_bind
    apply answering_ensures
    refine exec_ensures ?_ (fun _ => rfl)
    refine ensures_bind (ensures_get ?_)
    dsimp only
    split
    · exact ensures_throw rfl
    · refine ensures_pure ⟨rfl, ?_⟩
      split
      · decide
      case isFalse named => exact Bool.eq_false_iff.mpr named

theorem serveOperation_writes (env : Environment) (userId : Int) (operation : OrgOperation)
    (org : Option String) (db : Database) :
    Ensures (serveOperation env userId operation org) db (fun _ after => AnyWrites db after)
      (fun _ after => AnyWrites db after) := by
  have writes : ∀ org, Ensures (operation.handle env org) db (fun _ after => AnyWrites db after)
      (fun _ after => AnyWrites db after) := by
    intro org
    refine (operation.handle_writes env org db).mono ?_ (fun _ _ writes => writes.anyWrites)
    rintro _ _ (writes | writes)
    · exact writes.anyWrites
    · exact writes.anyWrites
  cases org with
  | none => exact writes defaultOrgID
  | some org =>
      apply ensures_bind
      refine (requireOrgRole_ensures env org _ userId db).mono ?_ (fun _ _ same => by rw [same])
      rintro _ _ ⟨rfl, _⟩
      exact writes org

theorem serveBearer_writes (env : Environment) (authorization : String) (request : BearerRequest)
    (db : Database) :
    Ensures (serveBearer env authorization request) db (fun _ after => AnyWrites db after)
      (fun _ after => AnyWrites db after) := by
  apply ensures_bind
  refine (requireBearer_ensures env authorization db).mono ?_ (fun _ _ same => by rw [same])
  rintro org _ ⟨rfl, named⟩
  exact (request.handle_writes env named _).mono
    (fun _ _ writes => writes.anyWrites) (fun _ _ writes => writes.anyWrites)

theorem route_writes (env : Environment) (request : RouteRequest) (db : Database) :
    Ensures (route env request) db (fun _ after => AnyWrites db after)
      (fun _ after => AnyWrites db after) := by
  cases request with
  | request request =>
      exact map_ensures ((handle_writes env request db).mono
        (fun _ _ writes => writes.anyWrites) (fun _ _ writes => writes.anyWrites))
  | operation cookie org operation =>
      apply ensures_bind
      refine (requireSession_writes env cookie db).mono ?_ (fun _ _ writes => writes.setup.anyWrites)
      rintro userId _ rfl
      exact serveOperation_writes env userId operation org _
  | bearer authorization request => exact serveBearer_writes env authorization request db

theorem serveRoute_writes (call : RouteCall) (db : Database) : AnyWrites db (serveRoute call db).2 :=
  Ensures.finally (AnyWrites db) (route_writes call.env call.request db)

/-- What every write preserves holds in every reachable database. -/
theorem run_invariant {holds : Database → Prop} {start : Database} (calls : List RouteCall)
    (preserved : ∀ before after, AnyWrite before after → holds before → holds after)
    (initially : holds start) : holds (runFrom serveRoute start calls) := by
  refine (guarded_true serveRoute start calls).invariant holds ?_ initially
  intro db call held _
  have writes := serveRoute_writes call db
  generalize (serveRoute call db).2 = after at writes ⊢
  induction writes with
  | refl => exact held
  | tail _ write ih => exact preserved _ _ write ih

/-!
## Well-formed databases
-/

/-- Organizations and the organizations of tokens are valid ids, and no two tokens
have one hash. -/
structure Database.WellFormed (db : Database) : Prop where
  organizations : ∀ id, db.Exists id → validateOrgID id = .ok id
  tokens : ∀ token ∈ db.cliTokens, validateOrgID token.orgId = .ok token.orgId
  hashes : (db.cliTokens.map (·.tokenHash)).Nodup

theorem migrated_wellFormed (now : Nat) : (Database.migrated now).WellFormed where
  organizations := by
    intro id existing
    unfold Database.Exists Database.migrated at existing
    by_cases same : id = defaultOrgID
    · rw [same]
      exact defaultOrgID_valid
    · rw [AList.lookup_insert_ne same] at existing
      cases existing
  tokens := by
    intro token member
    cases member
  hashes := List.nodup_nil

theorem AnyWrite.wellFormed {before after : Database} (write : AnyWrite before after)
    (formed : before.WellFormed) : after.WellFormed := by
  cases write with
  | account write =>
      cases write with
      | account users sessions memberships => exact ⟨formed.organizations, formed.tokens, formed.hashes⟩
      | organization id row valid =>
          refine ⟨?_, formed.tokens, formed.hashes⟩
          intro other existing
          by_cases same : other = id
          · rw [same]
            exact valid
          · refine formed.organizations other ?_
            unfold Database.Exists at existing ⊢
            rw [AList.lookup_insert_ne same] at existing
            exact existing
  | org org write =>
      cases write with
      | deleteApp appId normal => exact ⟨formed.organizations, formed.tokens, formed.hashes⟩
      | patch key row own => exact ⟨formed.organizations, formed.tokens, formed.hashes⟩
      | object patch payload => exact ⟨formed.organizations, formed.tokens, formed.hashes⟩
      | directory patch path above => exact ⟨formed.organizations, formed.tokens, formed.hashes⟩
      | plain write =>
          cases write with
          | app normal writes =>
              obtain ⟨_, _, _, rfl, _⟩ := writes
              exact ⟨formed.organizations, formed.tokens, formed.hashes⟩
          | release key row own => exact ⟨formed.organizations, formed.tokens, formed.hashes⟩
          | newToken row normal own fresh =>
              refine ⟨formed.organizations, ?_, ?_⟩
              · intro token member
                rcases List.mem_append.mp member with old | new
                · exact formed.tokens token old
                · cases List.mem_singleton.mp new
                  rw [own]
                  exact validateOrgID_idem normal
              · rw [List.map_append, List.nodup_append]
                refine ⟨formed.hashes, by simp, ?_⟩
                intro hash old other new same
                obtain ⟨token, member, rfl⟩ := List.mem_map.mp old
                have new : other = row.tokenHash := by simpa using new
                exact fresh token member (same.trans new)
          | revokeToken index row now normal found own =>
              have bound : index < before.cliTokens.length := (List.getElem?_eq_some_iff.mp found).1
              have here : before.cliTokens[index] = row := (List.getElem?_eq_some_iff.mp found).2
              refine ⟨formed.organizations, ?_, ?_⟩
              · intro token member
                rcases List.mem_or_eq_of_mem_set member with old | rfl
                · exact formed.tokens token old
                · exact formed.tokens row (here ▸ List.getElem_mem bound)
              · rw [List.map_set]
                have same : (before.cliTokens.map (·.tokenHash)).set index row.tokenHash =
                    before.cliTokens.map (·.tokenHash) := by
                  rw [← here]
                  have stays := @List.set_getElem_self _ (before.cliTokens.map (·.tokenHash)) index
                    (by simpa using bound)
                  simpa using stays
                rw [same]
                exact formed.hashes

theorem reachable_wellFormed (now : Nat) (calls : List RouteCall) :
    (runFrom serveRoute (Database.migrated now) calls).WellFormed :=
  run_invariant calls (fun _ _ => AnyWrite.wellFormed) (migrated_wellFormed now)

/-!
## The rows of an organization
-/

/-- An organization has the same rows; a token is known by its place. -/
structure Database.SameOrg (before after : Database) (org : String) : Prop where
  members : ∀ userId, after.memberships.lookup (org, userId) = before.memberships.lookup (org, userId)
  tokens : ∀ (index : Nat) (row : CliToken), row.orgId = org →
    (after.cliTokens[index]? = some row ↔ before.cliTokens[index]? = some row)
  apps : ∀ id, after.apps.lookup (org, id) = before.apps.lookup (org, id)
  platforms : ∀ key : (String × String) × String, key.1.1 = org →
    after.platforms.lookup key = before.platforms.lookup key
  abis : ∀ key : (String × String) × String × String, key.1.1 = org →
    after.abis.lookup key = before.abis.lookup key
  releases : ∀ key : ReleaseKey, key.orgId = org →
    after.releases.lookup key = before.releases.lookup key
  patches : ∀ key : PatchKey, key.orgId = org → after.patches.lookup key = before.patches.lookup key

namespace Database.SameOrg

variable {before middle after : Database} {org : String}

theorem refl : before.SameOrg before org :=
  ⟨fun _ => rfl, fun _ _ _ => Iff.rfl, fun _ => rfl, fun _ _ => rfl, fun _ _ => rfl, fun _ _ => rfl,
    fun _ _ => rfl⟩

theorem trans (first : before.SameOrg middle org) (second : middle.SameOrg after org) :
    before.SameOrg after org where
  members userId := (second.members userId).trans (first.members userId)
  tokens index row own := (second.tokens index row own).trans (first.tokens index row own)
  apps id := (second.apps id).trans (first.apps id)
  platforms key own := (second.platforms key own).trans (first.platforms key own)
  abis key own := (second.abis key own).trans (first.abis key own)
  releases key own := (second.releases key own).trans (first.releases key own)
  patches key own := (second.patches key own).trans (first.patches key own)

end Database.SameOrg

section SameOrg

variable {before after : Database} {org other : String}

/-- Accounts hold the members of an organization, and none of its other rows. -/
theorem AccountWrites.sameOrg (writes : AccountWrites before after)
    (members : ∀ userId, after.memberships.lookup (org, userId) = before.memberships.lookup (org, userId)) :
    before.SameOrg after org := by
  have rest : after.cliTokens = before.cliTokens ∧ after.apps = before.apps ∧
      after.platforms = before.platforms ∧ after.abis = before.abis ∧
      after.releases = before.releases ∧ after.patches = before.patches := by
    clear members
    induction writes with
    | refl => exact ⟨rfl, rfl, rfl, rfl, rfl, rfl⟩
    | tail _ write ih => cases write <;> exact ih
  obtain ⟨tokens, apps, platforms, abis, releases, patches⟩ := rest
  exact {
    members
    tokens := fun _ _ _ => by rw [tokens]
    apps := fun _ => by rw [apps]
    platforms := fun _ _ => by rw [platforms]
    abis := fun _ _ => by rw [abis]
    releases := fun _ _ => by rw [releases]
    patches := fun _ _ => by rw [patches] }

theorem getElem?_append_foreign {tokens : List CliToken} {new row : CliToken} {index : Nat}
    (foreign : new ≠ row) : (tokens ++ [new])[index]? = some row ↔ tokens[index]? = some row := by
  rcases Nat.lt_trichotomy index tokens.length with inside | here | outside
  · rw [List.getElem?_append_left inside]
  · subst here
    simp [foreign]
  · rw [List.getElem?_eq_none (by simp; omega), List.getElem?_eq_none (by omega)]

theorem getElem?_set_foreign {tokens : List CliToken} {old new row : CliToken} {index place : Nat}
    (found : tokens[place]? = some old) (foreign : old ≠ row) (changed : new ≠ row) :
    (tokens.set place new)[index]? = some row ↔ tokens[index]? = some row := by
  by_cases here : index = place
  · subst here
    have bound : index < tokens.length := (List.getElem?_eq_some_iff.mp found).1
    rw [found, List.getElem?_set_self bound]
    simp [foreign, changed]
  · rw [List.getElem?_set_ne (fun same => here same.symm)]

/-- A write for one organization leaves the rows of every other one alone. -/
theorem PlainWrite.sameOrg (write : PlainWrite org before after)
    (valid : validateOrgID other = .ok other) (foreign : validateOrgID org ≠ .ok other) :
    before.SameOrg after other := by
  have others : ∀ {id}, validateOrgID org = .ok id → other ≠ id := by
    rintro id normal rfl
    exact foreign normal
  have named : other ≠ org := by
    rintro rfl
    exact foreign valid
  cases write with
  | app normal writes =>
      obtain ⟨_, _, _, rfl, apps, platforms, abis, _⟩ := writes
      have outside := others normal
      refine { Database.SameOrg.refl with apps := ?_, platforms := ?_, abis := ?_ }
      · intro id
        exact apps _ (fun same => outside (congrArg Prod.fst same))
      · intro key own
        exact platforms key (fun same => outside (own.symm.trans (congrArg Prod.fst same)))
      · intro key own
        exact abis key (fun same => outside (own.symm.trans (congrArg Prod.fst same)))
  | release key row own =>
      refine { Database.SameOrg.refl with releases := ?_ }
      intro key' own'
      refine AList.lookup_insert_ne ?_
      rintro rfl
      exact named (own'.symm.trans own)
  | newToken row normal own fresh =>
      refine { Database.SameOrg.refl with tokens := ?_ }
      intro index row' own'
      refine getElem?_append_foreign ?_
      rintro rfl
      exact others normal (own'.symm.trans own)
  | revokeToken index row now normal found own =>
      refine { Database.SameOrg.refl with tokens := ?_ }
      intro index' row' own'
      refine getElem?_set_foreign found ?_ ?_
      · rintro rfl
        exact others normal (own'.symm.trans own)
      · rintro rfl
        exact others normal (own'.symm.trans own)

theorem OrgWrite.sameOrg (write : OrgWrite org before after)
    (valid : validateOrgID other = .ok other) (foreign : validateOrgID org ≠ .ok other) :
    before.SameOrg after other := by
  cases write with
  | plain write => exact write.sameOrg valid foreign
  | @deleteApp id appId normal =>
      have outside : other ≠ id := by
        rintro rfl
        exact foreign normal
      refine { Database.SameOrg.refl with apps := ?_, platforms := ?_, abis := ?_, releases := ?_, patches := ?_ }
      · intro app
        exact AList.lookup_erase_ne (fun same => outside (congrArg Prod.fst same))
      · intro key own
        have kept : key.1 ≠ (id, appId) := fun same => outside (own.symm.trans (congrArg Prod.fst same))
        simp [Database.withoutApp, Database.clearPlatforms, lookup_keepRows, kept]
      · intro key own
        have kept : key.1 ≠ (id, appId) := fun same => outside (own.symm.trans (congrArg Prod.fst same))
        simp [Database.withoutApp, Database.clearPlatforms, lookup_keepRows, kept]
      · intro key own
        have kept : key.orgId ≠ id := fun same => outside (own.symm.trans same)
        simp [Database.withoutApp, Database.clearPlatforms, lookup_keepRows, kept]
      · intro key own
        have kept : key.orgId ≠ id := fun same => outside (own.symm.trans same)
        simp [Database.withoutApp, Database.clearPlatforms, lookup_keepRows, kept]
  | patch key row own =>
      refine { Database.SameOrg.refl with patches := ?_ }
      intro key' own'
      refine AList.lookup_insert_ne ?_
      rintro rfl
      rw [← own, own'] at foreign
      exact foreign valid
  | object patch payload => exact { Database.SameOrg.refl with }
  | directory patch path above => exact { Database.SameOrg.refl with }

theorem OrgWrites.sameOrg (writes : OrgWrites org before after)
    (valid : validateOrgID other = .ok other) (foreign : validateOrgID org ≠ .ok other) :
    before.SameOrg after other := by
  induction writes with
  | refl => exact .refl
  | tail _ write ih => exact ih.trans (write.sameOrg valid foreign)

end SameOrg

end CodePush.Server
