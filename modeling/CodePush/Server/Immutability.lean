import CodePush.Server.CheckHistory
import CodePush.Server.Authorization

/-!
# Patches do not change

Until its app is deleted, an accepted patch is served as it was uploaded: the manifest
and the payload that a check announces are those that are downloaded, however late.
-/

set_option autoImplicit false

namespace CodePush.Server

open CodePush.Core CodePush.Foundation CodePush.Foundation.Action

/-!
## Effects of the routes
-/

/-- Patches and payloads stay as they are, and no app goes away. -/
structure KeepsPatches (before after : Database) : Prop where
  patches : after.patches = before.patches
  objects : after.objects = before.objects
  apps : ∀ key, (before.apps.lookup key).isSome → (after.apps.lookup key).isSome

theorem KeepsPatches.refl {db : Database} : KeepsPatches db db := ⟨rfl, rfl, fun _ found => found⟩

theorem KeepsPatches.trans {before middle after : Database} (first : KeepsPatches before middle)
    (second : KeepsPatches middle after) : KeepsPatches before after :=
  ⟨second.patches.trans first.patches, second.objects.trans first.objects,
    fun key found => second.apps key (first.apps key found)⟩

theorem AccountWrites.keepsPatches {before after : Database} (writes : AccountWrites before after) :
    KeepsPatches before after := by
  induction writes with
  | refl => exact .refl
  | tail _ write ih =>
      refine ih.trans ?_
      cases write <;> exact ⟨rfl, rfl, fun _ found => found⟩

theorem PlainWrites.keepsPatches {org : String} {before after : Database}
    (writes : PlainWrites org before after) : KeepsPatches before after := by
  induction writes with
  | refl => exact .refl
  | tail _ write ih =>
      refine ih.trans ?_
      cases write with
      | app normal writes =>
          obtain ⟨_, _, _, rfl, _, _, _, kept⟩ := writes
          exact ⟨rfl, rfl, kept⟩
      | _ => exact ⟨rfl, rfl, fun _ found => found⟩

theorem SetupWrites.keepsPatches {before after : Database} (writes : SetupWrites before after) :
    KeepsPatches before after := by
  obtain ⟨middle, accounts, token⟩ := writes
  exact accounts.keepsPatches.trans (PlainWrites.keepsPatches token)

/-- The request deletes the app of the organization. -/
def RouteRequest.Deletes (request : RouteRequest) (org id : String) : Prop :=
  ∃ cookie path, request = .operation cookie path (.deleteApp id) ∧
    validateOrgID (path.getD defaultOrgID) = .ok org

/-- What a request does to patches, payloads and apps. -/
def RouteEffect (sha256 : Bytes → String) (request : RouteRequest) (before after : Database) : Prop :=
  (PatchEffect sha256 before after ∧
    ∀ key, (before.apps.lookup key).isSome → (after.apps.lookup key).isSome) ∨
  ∃ org id, request.Deletes org id ∧ after = before.withoutApp org id

section Effects

variable {env : Environment} {request : RouteRequest} {db : Database}

theorem KeepsPatches.effect {sha256 : Bytes → String} {after : Database} (keeps : KeepsPatches db after) :
    RouteEffect sha256 request db after :=
  .inl ⟨.untouched keeps.patches keeps.objects, keeps.apps⟩

theorem createPatch_effect (org : Option String) (body : Except String Json) (db : Database) :
    Ensures (createPatch env org body) db (fun _ after => RouteEffect env.sha256Hex request db after)
      (fun _ after => RouteEffect env.sha256Hex request db after) := by
  refine (createPatch_stores env org body db).mono ?_ ?_
  · rintro _ after ⟨upload, payload, uploads⟩
    exact .inl ⟨.upload _ _ payload uploads.absent uploads.checked.hash uploads.checked.size uploads.patches
      uploads.objects, uploads.apps⟩
  · rintro _ after ⟨patches, same | ⟨key, payload, absent, objects⟩, apps⟩
    · exact .inl ⟨.untouched patches same, apps⟩
    · exact .inl ⟨.object key payload absent patches objects, apps⟩

theorem promotePatch_effect (org : Option String) (body : Except String PromotePatchRequest)
    (db : Database) :
    Ensures (promotePatch env org body) db (fun _ after => RouteEffect env.sha256Hex request db after)
      (fun _ after => RouteEffect env.sha256Hex request db after) := by
  refine (changePatch_ensures env org body _ db).mono ?_ (fun _ _ same => by rw [same]; exact KeepsPatches.refl.effect)
  rintro _ _ ⟨named, row, patch, _, found, decoded, rfl⟩
  exact .inl ⟨.activation _ row patch true named.channel named.rolloutPercentage found decoded rfl rfl,
    fun _ stored => stored⟩

theorem rollbackPatch_effect (org : Option String) (body : Except String PromotePatchRequest)
    (db : Database) :
    Ensures (rollbackPatch env org body) db (fun _ after => RouteEffect env.sha256Hex request db after)
      (fun _ after => RouteEffect env.sha256Hex request db after) := by
  refine (changePatch_ensures env org body _ db).mono ?_ (fun _ _ same => by rw [same]; exact KeepsPatches.refl.effect)
  rintro _ _ ⟨named, row, patch, _, found, decoded, rfl⟩
  exact .inl ⟨.activation _ row patch false patch.activeChannel 0 found decoded rfl rfl,
    fun _ stored => stored⟩

theorem handle_effect (operation : OrgOperation) (cookie path : String) (route : Option String)
    (named : route.getD defaultOrgID = path)
    (asked : request = .operation cookie route operation) (db : Database) :
    Ensures (operation.handle env path) db (fun _ after => RouteEffect env.sha256Hex request db after)
      (fun _ after => RouteEffect env.sha256Hex request db after) := by
  by_cases plain : operation.Plain
  · exact (operation.handle_plain env path plain db).mono
      (fun _ _ writes => (PlainWrites.keepsPatches writes).effect)
      (fun _ _ writes => (PlainWrites.keepsPatches writes).effect)
  · cases operation with
    | promote body => exact map_ensures (promotePatch_effect _ body db)
    | rollback body => exact map_ensures (rollbackPatch_effect _ body db)
    | deleteApp id =>
        apply map_ensures
        apply ensures_bind
        apply answering_ensures
        refine (deleteAppInOrg_ensures env path id db).mono ?_ (fun _ _ same => by rw [same]; exact KeepsPatches.refl.effect)
        rintro _ _ ⟨org, normal, rfl⟩
        exact ensures_pure (.inr ⟨org, id, ⟨cookie, route, asked, by rw [named]; exact normal⟩, rfl⟩)
    | _ => exact absurd trivial plain

theorem serveRoute_effect (call : RouteCall) (db : Database) :
    RouteEffect call.env.sha256Hex call.request db (serveRoute call db).2 := by
  obtain ⟨env, request⟩ := call
  apply Ensures.finally (RouteEffect env.sha256Hex request db)
  cases request with
  | request request =>
      exact map_ensures ((handle_writes env request db).mono
        (fun _ _ writes => writes.keepsPatches.effect) (fun _ _ writes => writes.keepsPatches.effect))
  | operation cookie path operation =>
      apply ensures_bind
      refine (requireSession_writes env cookie db).mono ?_ (fun _ _ writes => writes.keepsPatches.effect)
      rintro userId _ rfl
      cases path with
      | none => exact handle_effect operation cookie defaultOrgID none rfl rfl _
      | some path =>
          apply ensures_bind
          refine (requireOrgRole_ensures env path _ userId _).mono ?_ (fun _ _ same => by rw [same]; exact KeepsPatches.refl.effect)
          rintro _ _ ⟨rfl, _⟩
          exact handle_effect operation cookie path (some path) rfl rfl _
  | bearer authorization request =>
      apply ensures_bind
      refine (requireBearer_ensures env authorization db).mono ?_ (fun _ _ same => by rw [same]; exact KeepsPatches.refl.effect)
      rintro org _ ⟨rfl, named⟩
      by_cases plain : request.Plain
      · exact (request.handle_plain env named plain _).mono
          (fun _ _ writes => (PlainWrites.keepsPatches writes).effect)
          (fun _ _ writes => (PlainWrites.keepsPatches writes).effect)
      · cases request with
        | createPatch body => exact map_ensures (createPatch_effect _ body _)
        | promote body => exact map_ensures (promotePatch_effect _ body _)
        | rollback body => exact map_ensures (rollbackPatch_effect _ body _)
        | _ => exact absurd trivial plain

end Effects

/-!
## Runs
-/

section Runs

variable {sha256 : Bytes → String} {request : RouteRequest} {before after : Database} {key : PatchKey}
  {patch : PatchManifest} {payload : Bytes}

theorem lookup_withoutApp (db : Database) (org id : String) (key : PatchKey) :
    (db.withoutApp org id).patches.lookup key =
      if key.orgId = org ∧ key.appId = id then none else db.patches.lookup key := by
  change (keepRows (fun key : PatchKey => ¬ (key.orgId = org ∧ key.appId = id)) db.patches).lookup key = _
  rw [lookup_keepRows]
  by_cases gone : key.orgId = org ∧ key.appId = id
  · simp [gone]
  · simp only [gone, not_false_eq_true, decide_true, if_true, if_false]

/-- A deletion of another app leaves a published patch alone. -/
theorem Published.withoutApp (published : Published sha256 before key patch payload) {org id : String}
    (other : ¬ (key.orgId = org ∧ key.appId = id)) :
    Published sha256 (before.withoutApp org id) key patch payload := by
  refine { published with row := ?_ }
  obtain ⟨active, channel, rollout, found⟩ := published.row
  exact ⟨active, channel, rollout, by rw [lookup_withoutApp, if_neg other, found]⟩

theorem RouteEffect.published (effect : RouteEffect sha256 request before after)
    (backed : Backed sha256 before) (published : Published sha256 before key patch payload)
    (kept : ¬ request.Deletes key.orgId key.appId) : Published sha256 after key patch payload := by
  rcases effect with ⟨effect, _⟩ | ⟨org, id, deletes, rfl⟩
  · exact effect.published backed published
  · refine published.withoutApp ?_
    rintro ⟨rfl, rfl⟩
    exact kept deletes

theorem RouteEffect.backed (effect : RouteEffect sha256 request before after)
    (backed : Backed sha256 before) : Backed sha256 after := by
  rcases effect with ⟨effect, _⟩ | ⟨org, id, _, rfl⟩
  · exact effect.backed backed
  · intro key found
    rw [lookup_withoutApp] at found
    split at found
    case isTrue => cases found
    case isFalse gone =>
      obtain ⟨patch, payload, published⟩ := backed key found
      exact ⟨patch, payload, published.withoutApp gone⟩

theorem RouteEffect.appStored (effect : RouteEffect sha256 request before after)
    (app : AppStored before key) (valid : validateOrgID key.orgId = .ok key.orgId)
    (kept : ¬ request.Deletes key.orgId key.appId) : AppStored after key := by
  obtain ⟨id, normal, stored⟩ := app
  cases valid.symm.trans normal
  refine ⟨_, normal, ?_⟩
  rcases effect with ⟨_, apps⟩ | ⟨org, id, deletes, rfl⟩
  · exact apps _ stored
  · have other : (key.orgId, key.appId) ≠ (org, id) := by
      intro same
      cases same
      exact kept deletes
    change ((before.apps.erase (org, id)).lookup (key.orgId, key.appId)).isSome
    rw [AList.lookup_erase_ne other]
    exact stored

/-- One library computes the hashes of all requests. -/
def Hashed (sha256 : Bytes → String) (calls : List RouteCall) : Prop :=
  ∀ call ∈ calls, call.env.sha256Hex = sha256

theorem run_backed {start : Database} (calls : List RouteCall) (hashed : Hashed sha256 calls)
    (backed : Backed sha256 start) : Backed sha256 (runFrom serveRoute start calls) := by
  induction calls generalizing start with
  | nil => exact backed
  | cons call calls ih =>
      have effect := serveRoute_effect call start
      rw [hashed call List.mem_cons_self] at effect
      exact ih (fun other member => hashed other (List.mem_cons_of_mem _ member)) (effect.backed backed)

theorem run_published {start : Database} (calls : List RouteCall) (hashed : Hashed sha256 calls)
    (kept : ∀ call ∈ calls, ¬ call.request.Deletes key.orgId key.appId) (backed : Backed sha256 start)
    (published : Published sha256 start key patch payload) (app : AppStored start key)
    (valid : validateOrgID key.orgId = .ok key.orgId) :
    Published sha256 (runFrom serveRoute start calls) key patch payload ∧
      AppStored (runFrom serveRoute start calls) key := by
  induction calls generalizing start with
  | nil => exact ⟨published, app⟩
  | cons call calls ih =>
      have effect := serveRoute_effect call start
      rw [hashed call List.mem_cons_self] at effect
      have stays := kept call List.mem_cons_self
      exact ih (fun other member => hashed other (List.mem_cons_of_mem _ member))
        (fun other member => kept other (List.mem_cons_of_mem _ member)) (effect.backed backed)
        (effect.published backed published stays) (effect.appStored app valid stays)

theorem backed_migrated (now : Nat) : Backed sha256 (Database.migrated now) := by
  intro key found
  cases found

end Runs

/-!
## Downloads
-/

/-- The query of a download names the patch. -/
structure ManifestQuery.Asks (query : ManifestQuery) (key : PatchKey) : Prop where
  orgId : (if query.orgId.isEmpty then defaultOrgID else query.orgId) = key.orgId
  appId : query.appId = key.appId
  releaseVersion : query.releaseVersion = key.releaseVersion
  platform : query.platform = key.platform
  arch : query.arch = key.arch
  patchNumber : parseInt query.patchNumber = some key.patchNumber.toInt

/-- `strconv.Itoa` and `strconv.Atoi` at a positive number. -/
theorem parseInt_toString {value : Int64} (positive : 0 < value.toInt) :
    parseInt (toString value.toInt) = some value.toInt := by
  have fits : value.toInt < 2 ^ 63 := value.toInt_lt
  obtain ⟨number, same⟩ := Int.eq_ofNat_of_zero_le (le_of_lt positive)
  rw [same] at fits ⊢
  have digits : (toString (number : Int)).toList = Nat.toDigits 10 number := by
    rw [Int.toString_eq_repr, Int.repr_eq_if, if_pos (Int.natCast_nonneg _)]
    simp [Nat.repr]
  have magnitude := foldl_toDigits number
  have present : (Nat.toDigits 10 number).isEmpty = false := by
    rw [List.isEmpty_eq_false_iff]
    intro none
    rw [none] at magnitude
    simp at magnitude
    omega
  have unsigned : ¬ ((Nat.toDigits 10 number).head? = some '-' ∨ (Nat.toDigits 10 number).head? = some '+') := by
    rintro (minus | plus)
    · exact toDigits_head number (by decide) minus
    · exact toDigits_head number (by decide) plus
  have accepted : ¬ ((Nat.toDigits 10 number).isEmpty || !(Nat.toDigits 10 number).all Char.isDigit) = true := by
    rw [present, List.all_eq_true.mpr (toDigits_isDigit number)]
    decide
  unfold parseInt
  rw [digits]
  dsimp only
  rw [if_neg unsigned, if_neg accepted, if_neg (toDigits_head number (by decide)), magnitude,
    if_pos ⟨by omega, fits⟩]

section Downloads

variable {sha256 : Bytes → String} {db : Database} {key : PatchKey} {patch : PatchManifest}
  {payload : Bytes} {env : Environment}

theorem ManifestQuery.Asks.key_eq {query : ManifestQuery} (asks : query.Asks key) :
    (⟨if query.orgId.isEmpty then defaultOrgID else query.orgId, query.appId, query.releaseVersion,
      query.platform, query.arch, Int64.ofInt key.patchNumber.toInt⟩ : PatchKey) = key := by
  rw [asks.orgId, asks.appId, asks.releaseVersion, asks.platform, asks.arch, Int64.ofInt_toInt]

theorem patchManifest_published (published : Published sha256 db key patch payload)
    {query : ManifestQuery} (asks : query.Asks key) {json : Json}
    (served : (patchManifest env query db).1 = .ok json) : json = patchManifestBytes patch := by
  have ensured : Ensures (patchManifest env query) db (fun json _ => json = patchManifestBytes patch)
      (fun _ _ => True) := by
    unfold patchManifest
    rw [asks.patchNumber]
    dsimp only
    split
    · exact ensures_throw trivial
    apply ensures_bind
    apply answering_ensures
    rw [asks.key_eq]
    refine (getPatchInOrg_ensures env key db).mono ?_ (fun _ _ _ => trivial)
    rintro read _ ⟨_, row, found, decoded⟩
    obtain ⟨_, _, _, rfl⟩ := published.decoded found decoded
    exact ensures_pure rfl
  exact ensured.of_ok (Prod.ext served rfl)

/-- A working server serves every published patch with a positive number. -/
theorem patchManifest_works (works : Works env) (published : Published sha256 db key patch payload)
    (app : AppStored db key) {query : ManifestQuery} (asks : query.Asks key)
    (positive : 0 < key.patchNumber.toInt) :
    (patchManifest env query db).1 = .ok (patchManifestBytes patch) := by
  obtain ⟨org, normal, stored⟩ := app
  obtain ⟨app, found⟩ := @getAppInOrg_works db _ works _ _ _ normal stored
  obtain ⟨active, channel, rollout, row⟩ := published.row
  have read : (get : StoreOp Database) db = (.ok db, db) := rfl
  have fetched : getPatchInOrg env key db = (.ok (patch.activated active channel rollout), db) := by
    rw [getPatchInOrg, run_bind, found]
    dsimp only
    rw [run_bind, exec_works works]
    dsimp only
    rw [run_bind, read]
    dsimp only
    rw [row]
    change (Action.attempt _ : StoreOp PatchManifest) db = _
    rw [PatchManifest.unmarshal_row]
    rfl
  unfold patchManifest
  rw [asks.patchNumber]
  dsimp only
  rw [if_neg (by omega), asks.key_eq, run_bind, answering, fetched]
  rfl

theorem patchPayload_published (published : Published sha256 db key patch payload) :
    patchPayload env patch.payload.downloadUrl db =
      (match env.storage (.get patch.payload.downloadUrl) with
        | .ok _ => .ok payload
        | .error message => .error { status := 400, message }, db) := by
  have read : (get : Handler Database) db = (.ok db, db) := rfl
  rw [patchPayload, run_bind, Action.attempt]
  cases env.storage (.get patch.payload.downloadUrl) with
  | error message => rfl
  | ok _ =>
      dsimp only
      rw [run_bind, read]
      dsimp only
      rw [opened_object published.object]
      rfl

/-- A check reads the manifest that it announces from a row. -/
theorem firstEligible_ensures (query : CheckQuery) (rows : List PatchRow) (db : Database) :
    Ensures (firstEligible query rows) db
      (fun best _ => ∀ patch, best = some patch → ∃ row ∈ rows,
        PatchManifest.zero.unmarshal row.manifestJson = .ok patch) (fun _ _ => True) := by
  induction rows generalizing db with
  | nil => exact ensures_pure fun patch none => by cases none
  | cons row rows ih =>
      refine ensures_bind (ensures_attempt (fun patch decoded => ?_) (fun _ _ => trivial))
      have decoded : PatchManifest.zero.unmarshal row.manifestJson = .ok patch := by
        split at decoded
        case h_1 value read => rw [read, Except.ok.inj decoded]
        case h_2 => cases decoded
      split
      · refine ensures_pure fun best found => ?_
        obtain rfl := Option.some.inj found
        exact ⟨row, List.mem_cons_self, decoded⟩
      · refine (ih db).mono ?_ (fun _ _ _ => trivial)
        intro best _ later patch found
        obtain ⟨row', member, read⟩ := later patch found
        exact ⟨row', List.mem_cons_of_mem _ member, read⟩

theorem bestPatchInOrg_ensures (env : Environment) (query : CheckQuery) (current : Int64)
    (db : Database) :
    Ensures (bestPatchInOrg env query current) db
      (fun best _ => ∀ patch, best = some patch → ∃ number row,
        db.patches.lookup (query.key number) = some row ∧
        PatchManifest.zero.unmarshal row.manifestJson = .ok patch) (fun _ _ => True) := by
  have app := getAppInOrg_ensures env query.org query.appId db
  have rows : Ensures (do
      exec env .selectPatches
      firstEligible query ((← get).newerPatches query current)) db
      (fun best _ => ∀ patch, best = some patch → ∃ number row,
        db.patches.lookup (query.key number) = some row ∧
        PatchManifest.zero.unmarshal row.manifestJson = .ok patch) (fun _ _ => True) := by
    refine ensures_bind (exec_ensures ?_ (fun _ => trivial))
    refine ensures_bind (ensures_get ?_)
    refine (firstEligible_ensures query _ db).mono ?_ (fun _ _ _ => trivial)
    intro best _ found patch taken
    obtain ⟨row, listed, decoded⟩ := found patch taken
    obtain ⟨number, stored, _, _⟩ := mem_newerPatches.mp listed
    exact ⟨number, row, stored, decoded⟩
  rcases ended : getAppInOrg env query.org query.appId db with ⟨error | found, after⟩
  · have same : after = db := app.of_error ended
    subst same
    cases missing : notFound error with
    | true =>
        have absent : bestPatchInOrg env query current after = (.ok none, after) := by
          rw [bestPatchInOrg, ended]
          exact if_pos missing
        have empty : Ensures (pure none : StoreOp (Option PatchManifest)) after (fun best _ => best = none)
            (fun _ _ => True) := ensures_pure rfl
        exact (empty.congr absent).mono (fun best _ none patch found => by rw [none] at found; cases found)
          (fun _ _ _ => trivial)
    | false =>
        have failed : Ensures (throw error : StoreOp (Option PatchManifest)) after (fun _ _ => False)
            (fun _ _ => True) := ensures_throw trivial
        have thrown : bestPatchInOrg env query current after = (.error error, after) := by
          rw [bestPatchInOrg, ended]
          exact if_neg (by simp [missing])
        exact (failed.congr thrown).mono (fun _ _ impossible => impossible.elim) (fun _ _ _ => trivial)
  · have same : after = db := app.of_ok ended
    subst same
    exact rows.congr (by rw [bestPatchInOrg, ended])

/-- What a check announces of a published patch. -/
structure Announces (sha256 : Bytes → String) (signedURL : String → Except String String) (host : String)
    (key : PatchKey) (patch : PatchManifest) (payload : Bytes) (check : PatchCheck) : Prop where
  manifestHash : check.manifestHash = sha256 (wireBytes (patchManifestBytes patch))
  payloadHash : check.payloadHash = sha256 payload
  manifestUrl : 0 < key.patchNumber.toInt → check.manifestUrl.Asks key
  payloadUrl : ∃ url, signedURL patch.payload.downloadUrl = .ok url ∧
    check.payloadUrl = absoluteURL host url

theorem manifestURL_asks {query : CheckQuery} (own : patch.keyIn query.org = key)
    (positive : 0 < key.patchNumber.toInt) : (manifestURL query.org patch).Asks key := by
  subst own
  refine ⟨?_, rfl, rfl, rfl, rfl, parseInt_toString positive⟩
  change (if (if query.org = defaultOrgID then "" else query.org).isEmpty then defaultOrgID
    else if query.org = defaultOrgID then "" else query.org) = query.org
  have named : query.org.isEmpty = false := by
    unfold CheckQuery.org
    split
    · decide
    case isFalse named => exact Bool.eq_false_iff.mpr named
  by_cases default : query.org = defaultOrgID
  · rw [if_pos default]
    exact default.symm
  · rw [if_neg default, if_neg (by simp [named])]

/-- A row is read as a manifest with the number that it stands under. -/
theorem Backed.patchNumber (backed : Backed sha256 db) {row : PatchRow}
    (stored : db.patches.lookup key = some row) {read : PatchManifest}
    (decoded : PatchManifest.zero.unmarshal row.manifestJson = .ok read) :
    read.patchNumber = key.patchNumber := by
  obtain ⟨origin, _, published⟩ := backed key (by rw [stored]; rfl)
  obtain ⟨_, _, _, rfl⟩ := published.decoded stored decoded
  exact congrArg PatchKey.patchNumber published.own

theorem Published.announces (published : Published sha256 db key patch payload) {query : CheckQuery}
    {read : PatchManifest} (same : ∃ active channel rollout, read = patch.activated active channel rollout)
    (org : query.org = key.orgId) {signedURL : String → Except String String} {host url : String}
    (signed : signedURL read.payload.downloadUrl = .ok url) :
    Announces sha256 signedURL host key patch payload
      { patchNumber := read.patchNumber
        manifestUrl := manifestURL query.org read
        payloadUrl := absoluteURL host url
        manifestHash := sha256 (wireBytes (patchManifestBytes read))
        payloadHash := read.payload.hash } := by
  obtain ⟨active, channel, rollout, rfl⟩ := same
  refine ⟨rfl, published.hash.symm, fun positive => ?_, url, signed, rfl⟩
  refine manifestURL_asks ?_ positive
  rw [org]
  exact published.own

theorem checkPatch_announces {signedURL : String → Except String String} {host : String}
    {query : CheckQuery} (hashes : env.sha256Hex = sha256) (backed : Backed sha256 db)
    (published : Published sha256 db key patch payload) {check : PatchCheck}
    (answered : (checkPatch env signedURL host query db).1 = .ok (some check))
    (named : query.key check.patchNumber = key) :
    Announces sha256 signedURL host key patch payload check := by
  have ensured : Ensures (checkPatch env signedURL host query) db
      (fun best _ => ∀ check, best = some check → query.key check.patchNumber = key →
        Announces sha256 signedURL host key patch payload check) (fun _ _ => True) := by
    apply ensures_bind
    apply answering_ensures
    refine (bestPatchInOrg_ensures env query _ db).mono ?_ (fun _ _ _ => trivial)
    intro best after found
    cases best with
    | none => exact ensures_pure fun check none => by cases none
    | some read =>
        obtain ⟨number, row, stored, decoded⟩ := found read rfl
        refine ensures_bind (ensures_attempt (fun url signed => ?_) (fun _ _ => trivial))
        refine ensures_pure fun check announced named => ?_
        have signed : signedURL read.payload.downloadUrl = .ok url := by
          split at signed
          case h_1 value read => rw [read, Except.ok.inj signed]
          case h_2 => cases signed
        rw [hashes] at announced
        rw [← Option.some.inj announced] at named ⊢
        -- The row stands under the number that its manifest has.
        have same : query.key number = key := by
          rw [← named, backed.patchNumber stored decoded]
          rfl
        rw [same] at stored
        exact published.announces (published.decoded stored decoded) (congrArg PatchKey.orgId same) signed
  rcases ended : checkPatch env signedURL host query db with ⟨answer, after⟩
  rw [ended] at answered
  obtain rfl : answer = .ok (some check) := answered
  exact ensured.of_ok ended check rfl named

end Downloads

/-!
## From the upload on
-/

section Uploads

variable {db : Database}

/-- The organization of a token is a valid id. -/
theorem requireBearer_valid (formed : db.WellFormed) (env : Environment) (authorization : String) :
    Ensures (requireBearer env authorization) db
      (fun org after => after = db ∧ validateOrgID org = .ok org) (fun _ _ => True) := by
  unfold requireBearer
  split
  · exact ensures_throw trivial
  · apply ensures_bind
    apply answering_ensures
    refine exec_ensures ?_ (fun _ => trivial)
    refine ensures_bind (ensures_get ?_)
    dsimp only
    split
    · exact ensures_throw trivial
    case h_2 row found =>
      refine ensures_pure ⟨rfl, ?_⟩
      split
      · exact defaultOrgID_valid
      · exact formed.tokens row (List.mem_filter.mp (List.mem_of_find?_eq_some found)).1

/-- An upload with a token that is accepted. -/
theorem upload_accepted (formed : db.WellFormed) {env : Environment} {authorization : String}
    {body : Except String Json} {answer : Answer}
    (accepted : (serveRoute ⟨env, .bearer authorization (.createPatch body)⟩ db).1 = .ok answer) :
    ∃ org request payload, (requireBearer env authorization db).1 = .ok org ∧
      validateOrgID org = .ok org ∧
      Uploads env org body db (serveRoute ⟨env, .bearer authorization (.createPatch body)⟩ db).2 request payload := by
  have ensured : Ensures (serveRoute ⟨env, .bearer authorization (.createPatch body)⟩) db
      (fun _ after => ∃ org request payload, (requireBearer env authorization db).1 = .ok org ∧
        validateOrgID org = .ok org ∧ Uploads env org body db after request payload) (fun _ _ => True) := by
    apply ensures_bind
    refine ((requireBearer_valid formed env authorization).and (ensures_self _ _)).mono ?_ (fun _ _ _ => trivial)
    rintro org bearing ⟨⟨rfl, valid⟩, ended⟩
    have current := currentOrgID_some (orgChars_of_validateOrgID valid).1
    have uploads := createPatch_stores env (some org) body bearing
    rw [current] at uploads
    refine map_ensures (uploads.mono ?_ (fun _ _ _ => trivial))
    rintro _ after ⟨request, payload, uploads⟩
    exact ⟨org, request, payload, by rw [ended], valid, uploads⟩
  rcases ended : serveRoute ⟨env, .bearer authorization (.createPatch body)⟩ db with ⟨outcome, after⟩
  rw [ended] at accepted
  obtain rfl : outcome = .ok answer := accepted
  exact ensured.of_ok ended

theorem Uploads.published {env : Environment} {org : String} {body : Except String Json} {after : Database}
    {request : CreatePatchRequest} {payload : Bytes}
    (uploads : Uploads env org body db after request payload) :
    Published env.sha256Hex after (request.manifest.keyIn org) (request.manifest.uploaded org) payload where
  own := rfl
  address := rfl
  row := ⟨_, _, _, by rw [uploads.patches, AList.lookup_insert]; rfl⟩
  object := by
    rw [uploads.objects]
    exact AList.lookup_insert _
  hash := uploads.checked.hash
  size := uploads.checked.size

end Uploads

/-- The server holds on to the patch: its manifest and its payload are served as they
are here, and every check that offers it announces both. -/
structure Delivers (sha256 : Bytes → String) (db : Database) (key : PatchKey) (patch : PatchManifest)
    (payload : Bytes) : Prop where
  manifest : ∀ (reader : Environment) (query : ManifestQuery) (json : Json), query.Asks key →
    (patchManifest reader query db).1 = .ok json → json = patchManifestBytes patch
  served : ∀ (reader : Environment) (query : ManifestQuery), Works reader → query.Asks key →
    0 < key.patchNumber.toInt → (patchManifest reader query db).1 = .ok (patchManifestBytes patch)
  download : ∀ reader : Environment, (patchPayload reader patch.payload.downloadUrl db).1 =
    match reader.storage (.get patch.payload.downloadUrl) with
    | .ok _ => .ok payload
    | .error message => .error { status := 400, message }
  announced : ∀ (checker : Environment) (signedURL : String → Except String String) (host : String)
    (query : CheckQuery) (check : PatchCheck), checker.sha256Hex = sha256 →
    (checkPatch checker signedURL host query db).1 = .ok (some check) →
    query.key check.patchNumber = key → Announces sha256 signedURL host key patch payload check

/-- An accepted upload fixes what is served for its patch, whatever requests follow,
until one deletes its app. -/
theorem accepted_patch_immutable (sha256 : Bytes → String) (now : Nat) (history : List RouteCall)
    (env : Environment) (authorization : String) (body : Except String Json) (answer : Answer)
    (hashed : Hashed sha256 (history ++ [⟨env, .bearer authorization (.createPatch body)⟩])) :
    let db := runFrom serveRoute (Database.migrated now) history
    let created := serveRoute ⟨env, .bearer authorization (.createPatch body)⟩ db
    created.1 = .ok answer →
      ∃ org request payload, (requireBearer env authorization db).1 = .ok org ∧
        body.bind CreatePatchRequest.unmarshal = .ok request ∧
        env.decodeBase64 request.payloadB64 = some payload ∧
        ∀ later : List RouteCall, Hashed sha256 later →
          (∀ call ∈ later, ¬ call.request.Deletes org request.manifest.appId) →
          Delivers sha256 (runFrom serveRoute created.2 later) (request.manifest.keyIn org)
            (request.manifest.uploaded org) payload := by
  intro db created accepted
  obtain ⟨org, request, payload, bearer, valid, uploads⟩ :=
    upload_accepted (reachable_wellFormed now history) accepted
  refine ⟨org, request, payload, bearer, uploads.parsed, uploads.checked.decoded, ?_⟩
  intro later hashedLater kept
  have own : env.sha256Hex = sha256 := hashed _ (List.mem_append_right _ List.mem_cons_self)
  have start : Backed sha256 db := run_backed history
    (fun call member => hashed call (List.mem_append_left _ member)) (backed_migrated now)
  have backed : Backed sha256 created.2 := by
    have effect := serveRoute_effect ⟨env, .bearer authorization (.createPatch body)⟩ db
    rw [own] at effect
    exact effect.backed start
  have published := uploads.published
  rw [own] at published
  obtain ⟨stays, app⟩ := run_published later hashedLater kept backed published uploads.app valid
  have backedLater := run_backed later hashedLater backed
  constructor
  · intro reader query json asks served
    exact patchManifest_published stays asks served
  · intro reader query works asks positive
    exact patchManifest_works works stays app asks positive
  · intro reader
    rw [patchPayload_published stays]
  · intro checker signedURL host query check hashes answered named
    exact checkPatch_announces hashes backedLater stays answered named

/-- The libraries at the inputs below. -/
def shippingEnv (token : String) : Environment :=
  { sampleEnv token with
    sha256Hex := fun bytes => if bytes = [97, 98, 99] then abcUpload.payload.hash else (sampleEnv token).sha256Hex bytes
    decodeBase64 := abcEnv.decodeBase64 }

def shippingSetup : RouteCall where
  env := shippingEnv setupToken.1
  request := .request (.setup (.ok { username := "admin", password := samplePassword.1, tokenName := "" }))

def shippingPromotion : RouteCall where
  env := shippingEnv ""
  request := .bearer ("Bearer " ++ setupToken.1) (.promote (.ok
    { appId := "app", releaseVersion := "1", platform := "ios", arch := "arm64"
      patchNumber := 1, channel := "stable", rolloutPercentage := 100 }))

def shippingUpload : RouteCall where
  env := shippingEnv ""
  request := .bearer ("Bearer " ++ setupToken.1) (.createPatch (.ok (uploadBody abcUpload "YWJj")))

def shippedDatabase : Database := runFrom serveRoute (Database.migrated 0) [shippingSetup, shippingUpload]

/-- The promotion changes the row of the patch and nothing of what is served. -/
theorem abc_delivered_after_promotion :
    ∃ org request payload, CreatePatchRequest.unmarshal (uploadBody abcUpload "YWJj") = .ok request ∧
      abcEnv.decodeBase64 request.payloadB64 = some payload ∧
      Delivers (shippingEnv "").sha256Hex (runFrom serveRoute shippedDatabase [shippingPromotion])
        (request.manifest.keyIn org) (request.manifest.uploaded org) payload := by
  have answered : (serveRoute shippingUpload
      (runFrom serveRoute (Database.migrated 0) [shippingSetup])).1.toBool = true := by
    decide
  have hashed : Hashed (shippingEnv "").sha256Hex ([shippingSetup] ++ [shippingUpload]) := by
    intro call member
    rcases List.mem_cons.mp member with rfl | member
    · rfl
    · cases List.mem_singleton.mp member
      rfl
  rcases accepted : (serveRoute shippingUpload
      (runFrom serveRoute (Database.migrated 0) [shippingSetup])).1 with error | answer
  · rw [accepted] at answered
    cases answered
  · obtain ⟨org, request, payload, _, parsed, decoded, delivers⟩ :=
      accepted_patch_immutable (shippingEnv "").sha256Hex 0 [shippingSetup] (shippingEnv "")
        ("Bearer " ++ setupToken.1) (.ok (uploadBody abcUpload "YWJj")) answer hashed accepted
    refine ⟨org, request, payload, parsed, decoded, delivers [shippingPromotion] ?_ ?_⟩
    · intro call member
      cases List.mem_singleton.mp member
      rfl
    · intro call member
      cases List.mem_singleton.mp member
      rintro ⟨cookie, path, asked, _⟩
      cases asked

end CodePush.Server
