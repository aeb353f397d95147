import CodePush.Server.Patches

/-!
# What a store operation can do

For each operation of the store: what it reads, what it writes, and that a failure
leaves the tables alone.
-/

set_option autoImplicit false

namespace CodePush.Server

open CodePush.Core CodePush.Foundation CodePush.Foundation.Action

/-!
## Statements and lookups
-/

section Rules

variable {α : Type} {db : Database}

theorem exec_ensures {env : Environment} {statement : Statement} {returns : Unit → Database → Prop}
    {fails : StoreError → Database → Prop} (holds : returns () db) (failed : ∀ error, fails error db) :
    Ensures (exec env statement) db returns fails :=
  ensures_attempt (fun _ _ => holds) (fun error _ => failed error)

theorem row_ensures {found : Option α} {returns : α → Database → Prop}
    {fails : StoreError → Database → Prop} (holds : ∀ value, found = some value → returns value db)
    (failed : fails .noRows db) : Ensures (row found) db returns fails := by
  cases found with
  | none => exact ensures_throw failed
  | some value => exact ensures_pure (holds value rfl)

theorem answering_ensures {op : StoreOp α} {onError : StoreError → HttpError}
    {returns : α → Database → Prop} {fails : HttpError → Database → Prop}
    (inner : Ensures op db returns (fun error after => fails (onError error) after)) :
    Ensures (answering op onError) db returns fails := by
  unfold Ensures at inner ⊢
  unfold answering
  split at inner
  case h_1 ended =>
    rw [ended]
    exact inner
  case h_2 ended =>
    rw [ended]
    exact inner

theorem parsedBody_ensures {body : Except String α} {returns : α → Database → Prop}
    {fails : HttpError → Database → Prop} (holds : ∀ value, body = .ok value → returns value db)
    (failed : ∀ message, body = .error message → fails { status := 400, message } db) :
    Ensures (parsedBody body) db returns fails := by
  cases body with
  | error message =>
      refine ensures_attempt (fun _ ended => by cases ended) ?_
      rintro _ ⟨⟩
      exact failed message rfl
  | ok value =>
      refine ensures_attempt ?_ (fun _ ended => by cases ended)
      rintro _ ⟨⟩
      exact holds value rfl

/-!
What a step that returned went through.
-/

theorem exec_eq_ok {env : Environment} {statement : Statement} {result : Unit} {after : Database} :
    exec env statement db = (.ok result, after) ↔ env.sql statement = .ok () ∧ after = db := by
  refine attempt_eq_ok.trans ?_
  cases env.sql statement with
  | error text => simp
  | ok => simp

theorem row_eq_ok {found : Option α} {value : α} {after : Database} :
    row found db = (.ok value, after) ↔ found = some value ∧ after = db := by
  cases found with
  | none =>
      refine ⟨fun ended => absurd ended throw_ne_ok, ?_⟩
      rintro ⟨missing, _⟩
      cases missing
  | some found =>
      refine pure_eq_ok.trans ?_
      simp [eq_comm]

theorem answering_eq_ok {op : StoreOp α} {onError : StoreError → HttpError} {value : α}
    {after : Database} :
    answering op onError db = (.ok value, after) ↔ op db = (.ok value, after) := by
  unfold answering
  constructor
  · intro ended
    rcases inner : op db with ⟨error | found, finish⟩
    · rw [inner] at ended
      cases ended
    · rw [inner] at ended
      cases ended
      rfl
  · intro returned
    rw [returned]

theorem parsedBody_eq_ok {body : Except String α} {value : α} {after : Database} :
    parsedBody body db = (.ok value, after) ↔ body = .ok value ∧ after = db := by
  refine attempt_eq_ok.trans ?_
  cases body with
  | error message => simp
  | ok parsed => simp

end Rules

/-!
## Organizations
-/

/-- The ids that `validateOrgID` lets through. -/
def isOrgChar (char : Char) : Bool :=
  ('a' ≤ char && char ≤ 'z') || ('0' ≤ char && char ≤ '9') || char == '-' || char == '_'

theorem isOrgChar_dense {char : Char} (allowed : isOrgChar char) : isWhiteSpace char = false := by
  have range : '-' ≤ char ∧ char ≤ 'z' := by
    simp only [isOrgChar, Bool.or_eq_true, Bool.and_eq_true, decide_eq_true_eq, beq_iff_eq] at allowed
    rcases allowed with ((⟨low, high⟩ | ⟨low, high⟩) | rfl) | rfl
    · exact ⟨Char.le_trans (by decide : '-' ≤ 'a') low, high⟩
    · exact ⟨Char.le_trans (by decide : '-' ≤ '0') low, Char.le_trans high (by decide : '9' ≤ 'z')⟩
    · decide
    · decide
  have low : 45 ≤ char.toNat := range.1
  have high : char.toNat ≤ 122 := range.2
  simp only [isWhiteSpace, Bool.or_eq_false_iff, Bool.and_eq_false_iff, beq_eq_false_iff_ne,
    decide_eq_false_iff_not]
  omega

/-- A valid id has only allowed characters and at least one. -/
theorem orgChars_of_validateOrgID {orgId id : String} (normal : validateOrgID orgId = .ok id) :
    id.isEmpty = false ∧ id.toList.all isOrgChar := by
  unfold validateOrgID at normal
  dsimp only at normal
  split at normal
  case isTrue =>
    cases normal
    exact ⟨by decide, by decide⟩
  case isFalse named =>
    split at normal
    case isTrue allowed =>
      cases normal
      exact ⟨Bool.eq_false_iff.mpr named, allowed⟩
    case isFalse => cases normal

theorem validateOrgID_of_orgChars {id : String} (named : id.isEmpty = false)
    (allowed : id.toList.all isOrgChar) : validateOrgID id = .ok id := by
  have same : trim id = id :=
    trim_of_dense fun char member => isOrgChar_dense (List.all_eq_true.mp allowed char member)
  unfold validateOrgID
  dsimp only
  rw [same, if_neg (by simp [named])]
  exact if_pos allowed

theorem validateOrgID_idem {orgId id : String} (normal : validateOrgID orgId = .ok id) :
    validateOrgID id = .ok id :=
  validateOrgID_of_orgChars (orgChars_of_validateOrgID normal).1 (orgChars_of_validateOrgID normal).2

/-- Only the organization's own memberships may differ. -/
def Database.WithinOrg (before after : Database) (org : String) : Prop :=
  ∀ other userId, other ≠ org →
    after.memberships.lookup (other, userId) = before.memberships.lookup (other, userId)

theorem getOrganization_ensures (env : Environment) (orgId : String) (db : Database) :
    Ensures (getOrganization env orgId) db (fun _ after => after = db) (fun _ after => after = db) := by
  refine ensures_bind (ensures_attempt (fun id _ => ?_) (fun _ _ => rfl))
  refine ensures_bind (exec_ensures ?_ (fun _ => rfl))
  refine ensures_bind (ensures_get ?_)
  refine ensures_bind (row_ensures (fun org _ => ?_) rfl)
  exact ensures_pure rfl

theorem orgRoleForUser_ensures (env : Environment) (orgId : String) (userId : Int) (db : Database) :
    Ensures (orgRoleForUser env orgId userId) db
      (fun role after => after = db ∧ ∃ id, validateOrgID orgId = .ok id ∧
        (db.memberships.lookup (id, userId)).map (·.role) = some role)
      (fun _ after => after = db) := by
  refine ensures_bind (ensures_attempt (fun id normal => ?_) (fun _ _ => rfl))
  refine ensures_bind (exec_ensures ?_ (fun _ => rfl))
  refine ensures_bind (ensures_get ?_)
  refine ensures_bind (row_ensures (fun member found => ?_) rfl)
  exact ensures_pure ⟨rfl, id, normal, by rw [found]; rfl⟩

theorem putOrganization_ensures (env : Environment) (org : OrganizationBody) (db : Database) :
    Ensures (putOrganization env org) db (fun _ after => after.memberships = db.memberships)
      (fun _ after => after = db) := by
  refine ensures_bind (ensures_attempt (fun id _ => ?_) (fun _ _ => rfl))
  refine ensures_bind (exec_ensures ?_ (fun _ => rfl))
  exact ensures_modify rfl

/-- A request without a user name is about the user it gives by number. -/
theorem requestedUser_ensures (env : Environment) (request : OrgMemberRequest) (db : Database) :
    Ensures (requestedUser env request) db
      (fun userId after => after = db ∧ (request.username = "" → userId = request.userId))
      (fun _ after => after = db) := by
  unfold requestedUser
  split
  · split
    · exact ensures_throw rfl
    case isFalse named =>
      refine ensures_bind (exec_ensures ?_ (fun _ => rfl))
      refine ensures_bind (ensures_get ?_)
      refine row_ensures (fun userId _ => ⟨rfl, ?_⟩) rfl
      intro blank
      exact absurd (by rw [blank]; rfl) named
  · exact ensures_pure ⟨rfl, fun _ => rfl⟩

theorem addOrgMember_ensures (env : Environment) (orgId : String) (request : OrgMemberRequest)
    (db : Database) :
    Ensures (addOrgMember env orgId request) db
      (fun _ after => ∃ id userId, validateOrgID orgId = .ok id ∧
        (request.username = "" → userId = request.userId) ∧
        ∀ key, key ≠ (id, userId) → after.memberships.lookup key = db.memberships.lookup key)
      (fun _ after => after = db) := by
  refine ensures_bind (ensures_attempt (fun id normal => ?_) (fun _ _ => rfl))
  split
  · exact ensures_throw rfl
  case h_2 role _ =>
    refine ensures_bind ((requestedUser_ensures env request db).mono ?_ (fun _ _ same => same))
    intro userId found requested
    obtain ⟨same, requested⟩ := requested
    subst same
    apply ensures_bind
    refine (getOrganization_ensures env id found).mono ?_ (fun _ _ same => same)
    intro org read same
    subst same
    refine ensures_bind (exec_ensures ?_ (fun _ => rfl))
    apply ensures_modify
    refine ⟨id, userId, normal, requested, ?_⟩
    intro key other
    exact AList.lookup_insert_ne other

theorem keepLastOwner_ensures (env : Environment) (orgId : String) (losesOwner : Bool)
    (db : Database) :
    Ensures (keepLastOwner env orgId losesOwner) db (fun _ after => after = db)
      (fun _ after => after = db) := by
  unfold keepLastOwner
  split
  · refine ensures_bind (ensures_bind (exec_ensures ?_ (fun _ => rfl)))
    refine ensures_bind (ensures_get ?_)
    refine ensures_pure ?_
    split
    · exact ensures_throw rfl
    · exact ensures_pure rfl
  · exact ensures_pure rfl

theorem updateOrgMemberRole_ensures (env : Environment) (orgId : String) (userId : Int)
    (role : String) (db : Database) :
    Ensures (updateOrgMemberRole env orgId userId role) db
      (fun _ after => ∃ id, validateOrgID orgId = .ok id ∧ db.WithinOrg after id)
      (fun _ after => after = db) := by
  refine ensures_bind (ensures_attempt (fun id normal => ?_) (fun _ _ => rfl))
  split
  · exact ensures_throw rfl
  apply ensures_bind
  refine (orgRoleForUser_ensures env id userId db).mono ?_ (fun _ _ same => same)
  intro currentRole read found
  obtain ⟨same, _⟩ := found
  subst same
  apply ensures_bind
  refine (keepLastOwner_ensures env id _ read).mono ?_ (fun _ _ same => same)
  intro _ kept same
  subst same
  refine ensures_bind (exec_ensures ?_ (fun _ => rfl))
  refine ensures_bind (ensures_get ?_)
  refine ensures_bind (row_ensures (fun old _ => ?_) rfl)
  apply ensures_modify
  refine ⟨id, normal, ?_⟩
  intro other member outside
  exact AList.lookup_insert_ne (fun same => outside (congrArg Prod.fst same))

theorem removeOrgMember_ensures (env : Environment) (orgId : String) (userId : Int) (db : Database) :
    Ensures (removeOrgMember env orgId userId) db
      (fun _ after => ∃ id, validateOrgID orgId = .ok id ∧ db.WithinOrg after id)
      (fun _ after => after = db) := by
  refine ensures_bind (ensures_attempt (fun id normal => ?_) (fun _ _ => rfl))
  apply ensures_bind
  refine (orgRoleForUser_ensures env id userId db).mono ?_ (fun _ _ same => same)
  intro currentRole read found
  obtain ⟨same, _⟩ := found
  subst same
  apply ensures_bind
  refine (keepLastOwner_ensures env id _ read).mono ?_ (fun _ _ same => same)
  intro _ kept same
  subst same
  refine ensures_bind (exec_ensures ?_ (fun _ => rfl))
  refine ensures_bind (ensures_get ?_)
  refine ensures_bind (row_ensures (fun old _ => ?_) rfl)
  apply ensures_modify
  refine ⟨id, normal, ?_⟩
  intro other member outside
  exact AList.lookup_erase_ne (fun same => outside (congrArg Prod.fst same))

/-!
## Apps
-/

theorem lookup_keepRows {κ ρ : Type} [DecidableEq κ] {kept : κ → Bool}
    {table : AList fun _ : κ => ρ} (key : κ) :
    (keepRows kept table).lookup key = if kept key then table.lookup key else none := by
  ext row
  rw [← Option.mem_def, AList.mem_lookup_iff]
  simp only [keepRows, List.mem_filter]
  split
  case isTrue holds => simp [holds, ← AList.mem_lookup_iff]
  case isFalse fails => simp [fails]

/-- Only the rows of one app may differ, and no app goes away. -/
def Database.WritesApp (before after : Database) (key : String × String) : Prop :=
  ∃ apps platforms abis, after = { before with apps, platforms, abis } ∧
    (∀ other, other ≠ key → apps.lookup other = before.apps.lookup other) ∧
    (∀ row, row.1 ≠ key → platforms.lookup row = before.platforms.lookup row) ∧
    (∀ row, row.1 ≠ key → abis.lookup row = before.abis.lookup row) ∧
    (∀ other, (before.apps.lookup other).isSome → (apps.lookup other).isSome)

namespace Database.WritesApp

variable {before middle after : Database} {key : String × String}

theorem refl : before.WritesApp before key :=
  ⟨_, _, _, rfl, fun _ _ => rfl, fun _ _ => rfl, fun _ _ => rfl, fun _ found => found⟩

theorem trans (first : before.WritesApp middle key) (second : middle.WritesApp after key) :
    before.WritesApp after key := by
  obtain ⟨_, _, _, rfl, apps, platforms, abis, kept⟩ := first
  obtain ⟨_, _, _, rfl, apps', platforms', abis', kept'⟩ := second
  refine ⟨_, _, _, rfl, ?_, ?_, ?_, fun other found => kept' other (kept other found)⟩
  · intro other outside
    exact (apps' other outside).trans (apps other outside)
  · intro row outside
    exact (platforms' row outside).trans (platforms row outside)
  · intro row outside
    exact (abis' row outside).trans (abis row outside)

theorem putApp (now : Nat) (app : App) : before.WritesApp (before.putApp now key app) key := by
  refine ⟨_, _, _, rfl, fun _ outside => AList.lookup_insert_ne outside, fun _ _ => rfl, fun _ _ => rfl, ?_⟩
  intro other found
  by_cases here : other = key
  · rw [here, AList.lookup_insert]
    rfl
  · rw [AList.lookup_insert_ne here]
    exact found

theorem clearPlatforms : before.WritesApp (before.clearPlatforms key) key := by
  refine ⟨_, _, _, rfl, fun _ _ => rfl, ?_, ?_, fun _ found => found⟩
  · intro row outside
    simp [lookup_keepRows, outside]
  · intro row outside
    simp [lookup_keepRows, outside]

theorem putPlatform (entry : AppPlatform) : before.WritesApp (before.putPlatform key entry) key := by
  refine ⟨_, _, _, rfl, fun _ _ => rfl, ?_, ?_, fun _ found => found⟩
  · intro row outside
    exact AList.lookup_insert_ne fun same => outside (congrArg Prod.fst same)
  · intro row outside
    generalize entry.abi.zipIdx = abis
    generalize before.abis = table
    induction abis generalizing table with
    | nil => rfl
    | cons abi abis ih =>
        refine (ih (table.insert (key, entry.platform, abi.1) abi.2)).trans ?_
        exact AList.lookup_insert_ne fun same => outside (congrArg Prod.fst same)

theorem putPlatforms (entries : List AppPlatform) :
    before.WritesApp (entries.foldl (fun db entry => db.putPlatform key entry) before) key := by
  induction entries generalizing before with
  | nil => exact refl
  | cons entry entries ih => exact (putPlatform entry).trans ih

theorem objects_eq (writes : before.WritesApp after key) : after.objects = before.objects := by
  obtain ⟨_, _, _, rfl, _⟩ := writes
  rfl

theorem directories_eq (writes : before.WritesApp after key) : after.directories = before.directories := by
  obtain ⟨_, _, _, rfl, _⟩ := writes
  rfl

theorem memberships_eq (writes : before.WritesApp after key) : after.memberships = before.memberships := by
  obtain ⟨_, _, _, rfl, _⟩ := writes
  rfl

theorem patches_eq (writes : before.WritesApp after key) : after.patches = before.patches := by
  obtain ⟨_, _, _, rfl, _⟩ := writes
  rfl

end Database.WritesApp

theorem listAppPlatforms_ensures (env : Environment) (key : String × String) (db : Database) :
    Ensures (listAppPlatforms env key) db (fun _ after => after = db) (fun _ after => after = db) := by
  refine ensures_bind (exec_ensures ?_ (fun _ => rfl))
  refine ensures_bind (ensures_get ?_)
  dsimp only
  split
  · exact ensures_pure rfl
  · refine ensures_bind (exec_ensures ?_ (fun _ => rfl))
    exact ensures_pure rfl

theorem getAppInOrg_ensures (env : Environment) (orgId id : String) (db : Database) :
    Ensures (getAppInOrg env orgId id) db (fun _ after => after = db) (fun _ after => after = db) := by
  refine ensures_bind (ensures_attempt (fun normal _ => ?_) (fun _ _ => rfl))
  refine ensures_bind (exec_ensures ?_ (fun _ => rfl))
  apply ensures_bind
  apply ensures_get
  refine ensures_bind (row_ensures (fun app _ => ?_) rfl)
  apply ensures_bind
  refine (listAppPlatforms_ensures env _ db).mono ?_ (fun _ _ same => same)
  intro platforms _ same
  exact ensures_pure same

/-- The app is there if it was read. -/
theorem getAppInOrg_found (env : Environment) (orgId id : String) (db : Database) :
    Ensures (getAppInOrg env orgId id) db
      (fun _ _ => ∃ org, validateOrgID orgId = .ok org ∧ (db.apps.lookup (org, id)).isSome)
      (fun _ _ => True) := by
  refine ensures_bind (ensures_attempt (fun org normal => ?_) (fun _ _ => trivial))
  refine ensures_bind (exec_ensures ?_ (fun _ => trivial))
  apply ensures_bind
  apply ensures_get
  refine ensures_bind (row_ensures (fun app found => ?_) trivial)
  refine (ensures_self _ _).mono (fun _ _ _ => ⟨org, normal, ?_⟩) (fun _ _ _ => trivial)
  rw [found]
  rfl

theorem transaction_ensures {α : Type} {op : StoreOp α} {db : Database}
    {returns : α → Database → Prop} {fails : StoreError → Database → Prop}
    (inner : Ensures op db returns (fun error _ => fails error db)) :
    Ensures (transaction op) db returns fails := by
  unfold Ensures transaction
  rcases ended : op db with ⟨error | value, after⟩
  · exact inner.of_error ended
  · exact inner.of_ok ended

theorem insertAbis_ensures (env : Environment) (platforms : List AppPlatform) (db : Database) :
    Ensures (insertAbis env platforms) db (fun _ after => after = db) (fun _ after => after = db) := by
  unfold insertAbis
  split
  · exact ensures_pure rfl
  · exact exec_ensures rfl (fun _ => rfl)

theorem putAppInOrg_ensures (env : Environment) (orgId : String) (app : App) (db : Database) :
    Ensures (putAppInOrg env orgId app) db
      (fun _ after => ∃ id, validateOrgID orgId = .ok id ∧ db.WritesApp after (id, app.id))
      (fun _ after => after = db) := by
  refine ensures_bind (ensures_attempt (fun id normal => ?_) (fun _ _ => rfl))
  apply ensures_bind
  refine (getOrganization_ensures env id db).mono ?_ (fun _ _ same => same)
  intro org read same
  subst same
  apply transaction_ensures
  refine ensures_bind (exec_ensures ?_ (fun _ => rfl))
  refine ensures_bind (exec_ensures ?_ (fun _ => rfl))
  refine ensures_bind (ensures_modify ?_)
  refine ensures_bind (exec_ensures ?_ (fun _ => rfl))
  refine ensures_bind (exec_ensures ?_ (fun _ => rfl))
  refine ensures_bind (ensures_modify ?_)
  refine ensures_bind (exec_ensures ?_ (fun _ => rfl))
  have written := (@Database.WritesApp.putApp read (id, app.id) env.now (normalizeApp app)).trans .clearPlatforms |>.trans (.putPlatforms (normalizeApp app).platforms)
  apply ensures_bind
  refine (insertAbis_ensures env _ _).mono ?_ (fun _ _ _ => rfl)
  intro _ cleared same
  subst same
  refine ensures_bind (ensures_modify ?_)
  exact exec_ensures ⟨id, normal, written⟩ (fun _ => rfl)

theorem ensureAppInOrg_ensures (env : Environment) (orgId appId : String) (db : Database) :
    Ensures (ensureAppInOrg env orgId appId) db
      (fun _ after => after = db ∨ ∃ id, validateOrgID orgId = .ok id ∧ db.WritesApp after (id, appId))
      (fun _ after => after = db) := by
  have found := getAppInOrg_ensures env orgId appId db
  have put := putAppInOrg_ensures env orgId (App.new appId appId) db
  unfold Ensures ensureAppInOrg
  rcases ended : getAppInOrg env orgId appId db with ⟨error | app, after⟩
  · have same : after = db := found.of_error ended
    subst same
    by_cases missing : notFound error
    · simp only [missing, if_true]
      rcases written : putAppInOrg env orgId (App.new appId appId) after with ⟨error' | _, finish⟩
      · exact put.of_error written
      · exact .inr (put.of_ok written)
    · simp only [missing]
      exact rfl
  · have same : after = db := found.of_ok ended
    subst same
    exact .inl rfl

theorem ensureAppInOrg_patches (env : Environment) (orgId appId : String) (db : Database) :
    Ensures (ensureAppInOrg env orgId appId) db (fun _ after => after.patches = db.patches)
      (fun _ after => after.patches = db.patches) := by
  refine (ensureAppInOrg_ensures env orgId appId db).mono ?_ (fun _ _ same => by rw [same])
  intro _ after written
  rcases written with rfl | ⟨_, _, writes⟩
  · rfl
  · exact writes.patches_eq

/-!
## Writing and reading patches
-/

/-- The app of a key, with its organization's id normalized, is in the table. -/
def AppStored (db : Database) (key : PatchKey) : Prop :=
  ∃ id, validateOrgID key.orgId = .ok id ∧ (db.apps.lookup (id, key.appId)).isSome

theorem putPatchInOrg_ensures (env : Environment) (orgId : String) (patch : PatchManifest)
    (db : Database) :
    Ensures (putPatchInOrg env orgId patch) db
      (fun _ after => after = { db with patches := db.patches.insert (patch.keyIn orgId) patch.row } ∧
        AppStored db (patch.keyIn orgId))
      (fun _ after => after = db) := by
  apply ensures_bind
  refine ((getAppInOrg_ensures env.again orgId patch.appId db).and
    (getAppInOrg_found env.again orgId patch.appId db)).mono ?_ (fun _ _ failed => failed.1)
  intro app read found
  obtain ⟨same, there⟩ := found
  subst same
  refine ensures_bind (exec_ensures ?_ (fun _ => rfl))
  exact ensures_modify ⟨rfl, there⟩

theorem getPatchInOrg_ensures (env : Environment) (key : PatchKey) (db : Database) :
    Ensures (getPatchInOrg env key) db
      (fun patch after => after = db ∧ ∃ row, db.patches.lookup key = some row ∧
        PatchManifest.zero.unmarshal row.manifestJson = .ok patch)
      (fun _ after => after = db) := by
  apply ensures_bind
  refine (getAppInOrg_ensures env key.orgId key.appId db).mono ?_ (fun _ _ same => same)
  intro app read same
  subst same
  refine ensures_bind (exec_ensures ?_ (fun _ => rfl))
  apply ensures_bind
  apply ensures_get
  refine ensures_bind (row_ensures (fun row found => ?_) rfl)
  apply ensures_attempt
  · intro patch decoded
    refine ⟨rfl, row, found, ?_⟩
    split at decoded
    case h_1 value read => rw [read, Except.ok.inj decoded]
    case h_2 => cases decoded
  · intro _ _
    rfl

/-- The key of the patch that a promotion or a rollback names. -/
def PromotePatchRequest.keyIn (request : PromotePatchRequest) (orgId : String) : PatchKey where
  orgId := orgId
  appId := request.appId
  releaseVersion := request.releaseVersion
  platform := request.platform
  arch := request.arch
  patchNumber := request.patchNumber

/-- Promotion and rollback read a row and write it back with what they change. -/
theorem changePatch_ensures (env : Environment) (org : Option String)
    (body : Except String PromotePatchRequest)
    (change : PromotePatchRequest → PatchManifest → PatchManifest) (db : Database) :
    Ensures (changePatch env org body change) db
      (fun _ after => ∃ request row patch, body = .ok request ∧
        db.patches.lookup (request.keyIn (currentOrgID org)) = some row ∧
        PatchManifest.zero.unmarshal row.manifestJson = .ok patch ∧
        after = { db with
          patches := db.patches.insert ((change request patch).keyIn (currentOrgID org)) (change request patch).row })
      (fun _ after => after = db) := by
  apply ensures_bind
  refine parsedBody_ensures ?_ (fun _ _ => rfl)
  intro request parsed
  apply ensures_bind
  apply answering_ensures
  refine (getPatchInOrg_ensures env _ db).mono ?_ (fun _ _ same => same)
  intro patch read found
  obtain ⟨same, row, stored, decoded⟩ := found
  subst same
  apply ensures_bind
  apply answering_ensures
  refine (putPatchInOrg_ensures env _ _ _).mono ?_ (fun _ _ same => same)
  intro _ after written
  exact ensures_pure ⟨request, row, patch, parsed, stored, decoded, written.1⟩

/-!
## What an app's requests see
-/

section Respects

variable {α : Type} {env : Environment} {related : Database → Database → Prop} {org : String}

theorem exec_respects (statement : Statement) :
    Respects related (exec env statement) := respects_attempt

theorem row_respects (found : Option α) :
    Respects related (row found) := by
  cases found with
  | none => exact respects_throw
  | some value => exact respects_pure

theorem answering_respects {op : StoreOp α}
    {onError : StoreError → HttpError} (respects : Respects related op) :
    Respects related (answering op onError) := by
  intro left right same
  obtain ⟨outcomes, states⟩ := respects left right same
  unfold answering
  rcases ended : op left with ⟨outcome, left'⟩
  rcases ended' : op right with ⟨outcome', right'⟩
  rw [ended, ended'] at outcomes states
  obtain rfl : outcome = outcome' := outcomes
  cases outcome with
  | ok value => exact ⟨rfl, states⟩
  | error error => exact ⟨rfl, states⟩

theorem transaction_respects {op : StoreOp α}
    (respects : Respects related op) : Respects related (transaction op) := by
  intro left right same
  obtain ⟨outcomes, states⟩ := respects left right same
  unfold transaction
  rcases ended : op left with ⟨outcome, left'⟩
  rcases ended' : op right with ⟨outcome', right'⟩
  rw [ended, ended'] at outcomes states
  obtain rfl : outcome = outcome' := outcomes
  cases outcome with
  | ok value => exact ⟨rfl, states⟩
  | error error => exact ⟨rfl, same⟩

/-- Related databases have the same apps of an organization, whatever is done to them. -/
structure SeesApps (related : Database → Database → Prop) (org : String) : Prop where
  organization : ∀ {left right}, related left right → right.organizations.lookup org = left.organizations.lookup org
  apps : ∀ {left right}, related left right → ∀ id, right.apps.lookup (org, id) = left.apps.lookup (org, id)
  platforms : ∀ {left right}, related left right → ∀ id, right.appPlatforms (org, id) = left.appPlatforms (org, id)
  putApp : ∀ {left right}, related left right → ∀ now id app,
    related (left.putApp now (org, id) app) (right.putApp now (org, id) app)
  clearPlatforms : ∀ {left right}, related left right → ∀ id,
    related (left.clearPlatforms (org, id)) (right.clearPlatforms (org, id))
  putPlatforms : ∀ {left right}, related left right → ∀ (id : String) (entries : List AppPlatform),
    related (entries.foldl (fun db entry => db.putPlatform (org, id) entry) left)
      (entries.foldl (fun db entry => db.putPlatform (org, id) entry) right)

section Apps

variable (env) (sees : ∀ {named}, validateOrgID org = .ok named → SeesApps related named)

include sees

theorem getAppInOrg_respects (id : String) : Respects related (getAppInOrg env org id) := by
  refine respects_attempt_bind fun named normal => ?_
  have lists : Respects related (listAppPlatforms env (named, id)) := by
    refine (exec_respects _).bind fun _ => respects_get ?_ ?_
    · intro left right same
      rw [(sees normal).platforms same id]
    · intro db
      dsimp only
      split
      · exact respects_pure
      · exact (exec_respects _).bind fun _ => respects_pure
  refine (exec_respects _).bind fun _ => respects_get ?_ ?_
  · intro left right same
    rw [(sees normal).apps same id]
  · intro db
    exact (row_respects _).bind fun app => lists.bind fun _ => respects_pure

theorem putAppInOrg_respects (app : App) : Respects related (putAppInOrg env org app) := by
  refine respects_attempt_bind fun named normal => ?_
  have sees := sees normal
  have organization : Respects related (getOrganization env named) := by
    refine respects_attempt_bind fun named' normal' => ?_
    cases (validateOrgID_idem normal).symm.trans normal'
    refine (exec_respects _).bind fun _ => respects_get ?_ ?_
    · intro left right same
      rw [sees.organization same]
    · intro db
      exact (row_respects _).bind fun _ => respects_pure
  refine organization.bind fun _ => transaction_respects ?_
  refine (exec_respects _).bind fun _ => (exec_respects _).bind fun _ => ?_
  refine (respects_modify fun left right same => sees.putApp same env.now _ _).bind fun _ => ?_
  refine (exec_respects _).bind fun _ => (exec_respects _).bind fun _ => ?_
  refine (respects_modify fun left right same => sees.clearPlatforms same _).bind fun _ => ?_
  refine (exec_respects _).bind fun _ => ?_
  have abis : Respects related (insertAbis env (normalizeApp app).platforms) := by
    unfold insertAbis
    split
    · exact respects_pure
    · exact exec_respects _
  refine abis.bind fun _ => ?_
  exact (respects_modify fun left right same => sees.putPlatforms same _ _).bind fun _ => exec_respects _

theorem ensureAppInOrg_respects (id : String) : Respects related (ensureAppInOrg env org id) := by
  intro left right same
  obtain ⟨outcomes, states⟩ := getAppInOrg_respects env sees id left right same
  unfold ensureAppInOrg
  rcases ended : getAppInOrg env org id left with ⟨outcome, left'⟩
  rcases ended' : getAppInOrg env org id right with ⟨outcome', right'⟩
  rw [ended, ended'] at outcomes states
  obtain rfl : outcome = outcome' := outcomes
  cases outcome with
  | ok app => exact ⟨rfl, states⟩
  | error error =>
      dsimp only
      by_cases missing : notFound error
      · rw [if_pos missing, if_pos missing]
        exact putAppInOrg_respects env sees (App.new id id) left' right' states
      · rw [if_neg missing, if_neg missing]
        exact ⟨rfl, states⟩

end Apps

end Respects

end CodePush.Server
