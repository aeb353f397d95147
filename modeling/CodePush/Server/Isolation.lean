import CodePush.Server.Authorization
import CodePush.Foundation.Tables

/-!
# Organizations behind tokens

A token reaches the rows and the payloads of its own organization only: nothing else
is written, and nothing else shows in an answer.
-/

set_option autoImplicit false

namespace CodePush.Server

open CodePush.Core CodePush.Foundation CodePush.Foundation.Action

/-!
## Payload keys
-/

/-- The directory of all payloads of an organization. -/
def orgRoot (org : String) : List (List Char) :=
  if org = defaultOrgID then ["patches".toList] else ["orgs".toList, org.toList]

theorem slash_not_mem_of_valid {org : String} (valid : validateOrgID org = .ok org) :
    '/' ∉ org.toList := by
  intro member
  have allowed := List.all_eq_true.mp (orgChars_of_validateOrgID valid).2 _ member
  revert allowed
  decide

theorem orgRoot_leads {org : String} (valid : validateOrgID org = .ok org) (patch : PatchManifest) :
    orgRoot org <+: slashParts (orgScopedPayloadKey org patch.expectedKey) := by
  unfold PatchManifest.expectedKey
  rw [slashParts_orgScoped, slashParts_payloadKey]
  unfold orgRoot orgDirectories
  rw [(orgChars_of_validateOrgID valid).1, slashParts_whole (slash_not_mem_of_valid valid)]
  simp only [Bool.false_eq_true, false_or]
  split
  · exact ⟨_, rfl⟩
  · exact ⟨_, rfl⟩

/-- No path is in the directories of two organizations. -/
theorem orgRoot_apart {org other : String} (apart : org ≠ other) {parts : List (List Char)}
    (inside : orgRoot org <+: parts) : ¬ orgRoot other <+: parts := by
  intro inside'
  obtain ⟨rest, rfl⟩ := inside
  obtain ⟨rest', same⟩ := inside'
  unfold orgRoot at same
  split at same
  case isTrue default =>
    rw [if_neg (fun default' => apart (default'.trans default.symm))] at same
    exact absurd (List.cons.inj same).1 (by decide)
  case isFalse =>
    split at same
    case isTrue => exact absurd (List.cons.inj same).1 (by decide)
    case isFalse => exact apart (String.ext (List.cons.inj (List.cons.inj same).2).1).symm

/-- Whatever the texts in them, the keys of two organizations differ. -/
theorem orgScopedPayloadKey_ne {org other : String} (valid : validateOrgID org = .ok org)
    (valid' : validateOrgID other = .ok other) (apart : org ≠ other) (patch patch' : PatchManifest) :
    orgScopedPayloadKey org patch.expectedKey ≠ orgScopedPayloadKey other patch'.expectedKey := by
  intro same
  have inside := orgRoot_leads valid patch
  rw [same] at inside
  exact orgRoot_apart apart inside (orgRoot_leads valid' patch')

/-- The path is in the directory of the organization's payloads, or this is below it. -/
def Touches (org path : String) : Prop :=
  orgRoot org <+: slashParts path ∨ slashParts path <+: orgRoot org

theorem not_touches {org other path : String} (apart : org ≠ other) (inside : orgRoot org <+: slashParts path) :
    ¬ Touches other path := by
  rintro (inside' | above)
  · exact orgRoot_apart apart inside inside'
  · exact orgRoot_apart apart (inside.trans above) (List.prefix_refl _)

/-!
## Tenants
-/

/-- An organization's own row, its rows in all tables and its payloads are the same, and so
are the directories and what else could take the place of its payloads. -/
structure Database.SameTenant (before after : Database) (org : String) : Prop
    extends before.SameOrg after org where
  organization : after.organizations.lookup org = before.organizations.lookup org
  objects : ∀ path, Touches org path → after.objects.lookup path = before.objects.lookup path
  directories : ∀ path, orgRoot org <+: slashParts path →
    (path ∈ after.directories ↔ path ∈ before.directories)

namespace Database.SameTenant

variable {before middle after : Database} {org : String}

theorem refl : before.SameTenant before org :=
  { Database.SameOrg.refl with organization := rfl, objects := fun _ _ => rfl, directories := fun _ _ => Iff.rfl }

theorem trans (first : before.SameTenant middle org) (second : middle.SameTenant after org) :
    before.SameTenant after org :=
  { first.toSameOrg.trans second.toSameOrg with
    organization := second.organization.trans first.organization
    objects := fun path touches => (second.objects path touches).trans (first.objects path touches)
    directories := fun path inside => (second.directories path inside).trans (first.directories path inside) }

theorem keys (same : before.SameTenant after org) {path : String} (touches : Touches org path) :
    path ∈ after.objects.keys ↔ path ∈ before.objects.keys := by
  have alike := same.objects path touches
  rw [← AList.mem_keys, ← AList.mem_keys, ← AList.lookup_isSome, ← AList.lookup_isSome, alike]

theorem isDirectory (same : before.SameTenant after org) {key : String} (inside : orgRoot org <+: slashParts key) :
    after.IsDirectory key ↔ before.IsDirectory key := by
  have below : ∀ object, KeyAbove key object →
      (object ∈ after.objects.keys ↔ object ∈ before.objects.keys) := fun object above =>
    same.keys (.inl (inside.trans above.1))
  have made : ∀ path, slashParts key <+: slashParts path → (path ∈ after.directories ↔ path ∈ before.directories) :=
    fun path leads => same.directories path (inside.trans leads)
  apply or_congr
  · exact exists_congr fun object => and_congr_left fun above => below object above
  · exact exists_congr fun path => and_congr_left fun leads => made path leads

theorem barred (same : before.SameTenant after org) {key : String} (inside : orgRoot org <+: slashParts key) :
    after.Barred key ↔ before.Barred key := by
  refine exists_congr fun object => and_congr_left fun above => same.keys ?_
  exact (List.prefix_or_prefix_of_prefix inside above.1)

theorem opened (same : before.SameTenant after org) (kind : StorageKind) {key : String}
    (inside : orgRoot org <+: slashParts key) : after.opened kind key = before.opened kind key := by
  unfold Database.opened
  rw [same.objects key (.inl inside)]
  simp only [same.isDirectory inside, same.barred inside]

end Database.SameTenant

section Writes

variable {before after : Database} {org other : String}

theorem PlainWrite.others (write : PlainWrite org before after) :
    after.organizations = before.organizations ∧ after.objects = before.objects ∧
      after.directories = before.directories := by
  cases write with
  | app normal writes =>
      obtain ⟨_, _, _, rfl, _⟩ := writes
      exact ⟨rfl, rfl, rfl⟩
  | _ => exact ⟨rfl, rfl, rfl⟩

theorem OrgWrite.sameTenant (write : OrgWrite org before after) (valid : validateOrgID org = .ok org)
    (valid' : validateOrgID other = .ok other) (apart : org ≠ other) :
    before.SameTenant after other := by
  have foreign : validateOrgID org ≠ .ok other := by
    intro named
    exact apart (Except.ok.inj (valid.symm.trans named))
  have rows := write.sameOrg valid' foreign
  cases write with
  | plain write =>
      obtain ⟨organizations, objects, directories⟩ := write.others
      exact { rows with
        organization := by rw [organizations]
        objects := fun _ _ => by rw [objects]
        directories := fun _ _ => by rw [directories] }
  | object patch payload =>
      refine { rows with organization := rfl, objects := fun path touches => ?_, directories := fun _ _ => Iff.rfl }
      refine AList.lookup_insert_ne ?_
      rintro rfl
      exact not_touches apart (orgRoot_leads valid patch) touches
  | directory patch path above =>
      refine { rows with organization := rfl, objects := fun _ _ => rfl, directories := fun other inside => ?_ }
      refine (mem_withDirectory before path other).trans (or_iff_left ?_)
      rintro ⟨rfl, _⟩
      exact orgRoot_apart apart (orgRoot_leads valid patch) (inside.trans above.1)
  | _ => exact { rows with organization := rfl, objects := fun _ _ => rfl, directories := fun _ _ => Iff.rfl }

theorem OrgWrites.sameTenant (writes : OrgWrites org before after) (valid : validateOrgID org = .ok org)
    (valid' : validateOrgID other = .ok other) (apart : org ≠ other) :
    before.SameTenant after other := by
  induction writes with
  | refl => exact .refl
  | tail _ write ih => exact ih.trans (write.sameTenant valid valid' apart)

end Writes

/-!
## What a query sees
-/

section Queries

variable {left right : Database} {org : String}

def platformRank (entry : AppPlatform) : Nat :=
  if entry.platform = "android" then 0 else if entry.platform = "ios" then 1 else 2

theorem platformBefore_iff {one other : AppPlatform} :
    platformBefore one.platform other.platform = true ↔
      RankedBefore platformRank AppPlatform.platform one other := by
  simp only [platformBefore, decide_eq_true_eq]
  rfl

/-- The ABIs of one platform of an app, in their order. -/
theorem abiNames_eq (same : left.SameTenant right org) {key : String × String} (own : key.1 = org)
    (platform : String) :
    ((left.abis.entries.filter fun abi => decide (abi.1.1 = key ∧ abi.1.2.1 = platform)).map
        fun abi => (abi.2, abi.1.2.2)).insertionSort
        (fun left right => left.1 < right.1 ∨ (left.1 = right.1 ∧ left.2 ≤ right.2)) =
      ((right.abis.entries.filter fun abi => decide (abi.1.1 = key ∧ abi.1.2.1 = platform)).map
        fun abi => (abi.2, abi.1.2.2)).insertionSort
        (fun left right => left.1 < right.1 ∨ (left.1 = right.1 ∧ left.2 ≤ right.2)) := by
  apply insertionSort_eq_of_perm
  case total => exact rankedBefore_total Prod.fst Prod.snd
  case trans => exact fun _ _ _ => rankedBefore_trans
  case same =>
    refine (filter_entries_perm ?_).map _
    intro abi row selected
    have named : abi.1 = key := (of_decide_eq_true selected).1
    rw [same.abis abi (by rw [named, own])]
  case apart =>
    intro one _ other _ first second
    obtain ⟨ranks, names⟩ := rankedBefore_antisymm first second
    exact Prod.ext ranks names

theorem appPlatforms_eq (same : left.SameTenant right org) {key : String × String} (own : key.1 = org) :
    left.appPlatforms key = right.appPlatforms key := by
  unfold Database.appPlatforms
  dsimp only
  simp only [abiNames_eq same own]
  apply insertionSort_eq_of_perm
  case total =>
    intro one other
    rw [platformBefore_iff, platformBefore_iff]
    exact rankedBefore_total _ _ one other
  case trans =>
    intro one other third
    rw [platformBefore_iff, platformBefore_iff, platformBefore_iff]
    exact rankedBefore_trans
  case same =>
    refine (filter_entries_perm ?_).map _
    intro platform row selected
    have named : platform.1 = key := of_decide_eq_true selected
    rw [same.platforms platform (by rw [named, own])]
  case apart =>
    intro one member other member' first second
    have names := (rankedBefore_antisymm (platformBefore_iff.mp first) (platformBefore_iff.mp second)).2
    obtain ⟨⟨⟨key₁, platform₁⟩, row₁⟩, selected₁, rfl⟩ := List.mem_map.mp member
    obtain ⟨⟨⟨key₂, platform₂⟩, row₂⟩, selected₂, rfl⟩ := List.mem_map.mp member'
    obtain ⟨listed₁, found₁⟩ := List.mem_filter.mp selected₁
    obtain ⟨listed₂, found₂⟩ := List.mem_filter.mp selected₂
    obtain rfl : key₁ = key := of_decide_eq_true found₁
    obtain rfl : key₂ = key₁ := of_decide_eq_true found₂
    obtain rfl : platform₁ = platform₂ := names
    have rows := (AList.mem_lookup_iff.mpr listed₁).symm.trans (AList.mem_lookup_iff.mpr listed₂)
    cases Option.some.inj rows
    rfl

theorem appsNamed_eq (same : left.SameTenant right org) (name : String) :
    left.appsNamed org name = right.appsNamed org name := by
  unfold Database.appsNamed
  apply insertionSort_eq_of_perm
  case total => exact String.le_total
  case trans => exact fun _ _ _ => String.le_trans
  case same =>
    refine (filter_entries_perm ?_).map _
    rintro ⟨owner, id⟩ row selected
    obtain ⟨rfl, _⟩ : owner = org ∧ row.name = name := of_decide_eq_true selected
    rw [same.apps id]
  case apart => exact fun _ _ _ _ => String.le_antisymm

end Queries

/-!
## The store
-/

/-- Databases that one organization cannot tell apart. -/
def SameFor (org : String) (left right : Database) : Prop := left.SameTenant right org

section Store

variable {α : Type} {env : Environment} {org : String}

/-!
The writes of a request, made in two databases.
-/

theorem SameFor.putApp {left right : Database} (same : SameFor org left right) (now : Nat) (id : String)
    (app : App) : SameFor org (left.putApp now (org, id) app) (right.putApp now (org, id) app) := by
  refine { same with apps := fun other => ?_ }
  unfold Database.putApp
  rw [same.apps id]
  exact lookup_insert_congr (same.apps other)

theorem SameFor.clearPlatforms {left right : Database} (same : SameFor org left right)
    (key : String × String) : SameFor org (left.clearPlatforms key) (right.clearPlatforms key) := by
  refine { same with platforms := fun row own => ?_, abis := fun row own => ?_ }
  · simp only [Database.clearPlatforms, lookup_keepRows, same.platforms row own]
  · simp only [Database.clearPlatforms, lookup_keepRows, same.abis row own]

theorem SameFor.putPlatforms {left right : Database} (same : SameFor org left right)
    (key : String × String) (entries : List AppPlatform) :
    SameFor org (entries.foldl (fun db entry => db.putPlatform key entry) left)
      (entries.foldl (fun db entry => db.putPlatform key entry) right) := by
  have listed : ∀ (platform : String) (abis : List (String × Nat))
      {left right : AList fun _ : (String × String) × String × String => Nat},
      (∀ row : (String × String) × String × String, row.1.1 = org → right.lookup row = left.lookup row) →
      ∀ row : (String × String) × String × String, row.1.1 = org →
        (abis.foldl (fun table abi => table.insert (key, platform, abi.1) abi.2) right).lookup row =
          (abis.foldl (fun table abi => table.insert (key, platform, abi.1) abi.2) left).lookup row := by
    intro platform abis
    induction abis with
    | nil => exact fun same => same
    | cons abi abis ih => exact fun same => ih fun row own => lookup_insert_congr (same row own)
  induction entries generalizing left right with
  | nil => exact same
  | cons entry entries ih =>
      refine ih { same with platforms := fun row own => ?_, abis := fun row own => ?_ }
      · exact lookup_insert_congr (same.platforms row own)
      · exact listed entry.platform entry.abi.zipIdx same.abis row own

/-- An organization sees its own apps. -/
theorem SameFor.seesApps (valid : validateOrgID org = .ok org) {named : String}
    (normal : validateOrgID org = .ok named) : SeesApps (SameFor org) named := by
  cases valid.symm.trans normal
  constructor
  · exact fun same => same.organization
  · exact fun same id => same.apps id
  · exact fun same id => (appPlatforms_eq same rfl).symm
  · exact fun same now id app => same.putApp now id app
  · exact fun same id => same.clearPlatforms _
  · exact fun same id entries => same.putPlatforms _ entries

theorem findAppsByNameInOrg_respects (valid : validateOrgID org = .ok org) (name : String) :
    Respects (SameFor org) (findAppsByNameInOrg env org name) := by
  refine respects_attempt_bind fun named normal => ?_
  cases valid.symm.trans normal
  refine (exec_respects _).bind fun _ => respects_get ?_ ?_
  · intro left right same
    rw [appsNamed_eq same name]
  · intro db
    exact respects_mapM _ fun id => getAppInOrg_respects _ (SameFor.seesApps valid) id

theorem putReleaseInOrg_respects (valid : validateOrgID org = .ok org) (release : ReleaseManifest) :
    Respects (SameFor org) (putReleaseInOrg env org release) := by
  refine (getAppInOrg_respects _ (SameFor.seesApps valid) _).bind fun _ => (exec_respects _).bind fun _ => respects_modify ?_
  intro left right same
  refine { same with releases := fun key own => ?_ }
  dsimp only
  rw [same.releases _ rfl]
  exact lookup_insert_congr (same.releases key own)

theorem putPatchInOrg_respects (valid : validateOrgID org = .ok org) (patch : PatchManifest) :
    Respects (SameFor org) (putPatchInOrg env org patch) := by
  refine (getAppInOrg_respects _ (SameFor.seesApps valid) _).bind fun _ => (exec_respects _).bind fun _ => respects_modify ?_
  intro left right same
  refine { same with patches := fun key own => ?_ }
  exact lookup_insert_congr (same.patches key own)

theorem getPatchInOrg_respects (valid : validateOrgID org = .ok org) {key : PatchKey}
    (own : key.orgId = org) : Respects (SameFor org) (getPatchInOrg env key) := by
  have app : Respects (SameFor org) (getAppInOrg env key.orgId key.appId) := by
    rw [own]
    exact getAppInOrg_respects _ (SameFor.seesApps valid) _
  refine app.bind fun _ => (exec_respects _).bind fun _ => respects_get ?_ ?_
  · intro left right same
    rw [same.patches key own]
  · intro db
    exact (row_respects _).bind fun _ => respects_attempt

end Store

/-!
## Handlers
-/

section Handlers

variable {env : Environment} {org : String}

theorem parsedBody_respects {α : Type} {related : Database → Database → Prop} (body : Except String α) :
    Respects related (parsedBody body) := respects_attempt

theorem failWith_respects {α : Type} {related : Database → Database → Prop} (status : Nat)
    (message : String) : Respects related (failWith status message : Handler α) := respects_throw

theorem adminCreateAppForOrg_respects (valid : validateOrgID org = .ok org) (body : Except String App) :
    Respects (SameFor org) (adminCreateAppForOrg env org body) := by
  refine (parsedBody_respects _).bind fun app => ?_
  split
  · exact failWith_respects _ _
  · exact (answering_respects (putAppInOrg_respects _ (SameFor.seesApps valid) _)).bind fun _ => respects_pure

theorem resolveApp_respects (valid : validateOrgID org = .ok org) (selector : String) :
    Respects (SameFor org) (resolveApp env (some org) selector) := by
  have current := currentOrgID_some (orgChars_of_validateOrgID valid).1
  have search : Respects (SameFor org) (do
      let apps ← answering (findAppsByNameInOrg env org selector) internalError
      resolution apps) := by
    refine (answering_respects (findAppsByNameInOrg_respects valid selector)).bind fun apps => ?_
    unfold resolution
    split
    · exact failWith_respects _ _
    · exact respects_pure
    · exact respects_pure
  intro left right same
  obtain ⟨outcomes, states⟩ := getAppInOrg_respects env (SameFor.seesApps valid) selector left right same
  unfold resolveApp
  rw [current]
  split
  · exact ⟨rfl, same⟩
  · rcases ended : getAppInOrg env org selector left with ⟨outcome, left'⟩
    rcases ended' : getAppInOrg env org selector right with ⟨outcome', right'⟩
    rw [ended, ended'] at outcomes states
    obtain rfl : outcome = outcome' := outcomes
    cases outcome with
    | ok app => exact ⟨rfl, states⟩
    | error error =>
        dsimp only
        by_cases missing : notFound error
        · rw [if_pos missing, if_pos missing]
          exact search left' right' states
        · rw [if_neg missing, if_neg missing]
          exact ⟨rfl, states⟩

theorem createRelease_respects (valid : validateOrgID org = .ok org) (body : Except String Json) :
    Respects (SameFor org) (createRelease env (some org) body) := by
  have current := currentOrgID_some (orgChars_of_validateOrgID valid).1
  unfold createRelease
  rw [current]
  refine Respects.bind (parsedBody_respects _) fun release => ?_
  split
  · exact failWith_respects _ _
  · refine (answering_respects (ensureAppInOrg_respects _ (SameFor.seesApps valid) _)).bind fun _ => ?_
    exact (answering_respects (putReleaseInOrg_respects valid _)).bind fun _ => respects_pure

theorem SameFor.withObject {left right : Database} (same : SameFor org left right) (key : String)
    (payload : Bytes) : SameFor org (left.withObject key payload) (right.withObject key payload) :=
  { same with objects := fun path touches => lookup_insert_congr (same.objects path touches) }

theorem SameFor.withDirectory {left right : Database} (same : SameFor org left right) (path : String) :
    SameFor org (left.withDirectory path) (right.withDirectory path) := by
  refine { same with directories := fun other inside => ?_ }
  rw [mem_withDirectory, mem_withDirectory]
  refine or_congr (same.directories other inside) (and_congr_right fun here => not_congr ?_)
  subst here
  exact same.isDirectory inside

theorem SameFor.afterFailedPut {left right : Database} (same : SameFor org left right) (key : String)
    (payload : Bytes) :
    SameFor org (left.afterFailedPut env key payload) (right.afterFailedPut env key payload) := by
  unfold Database.afterFailedPut
  split
  · split
    · exact same.withDirectory _
    · exact same
  · exact same.withObject key payload
  · exact same

theorem putObject_respects (valid : validateOrgID org = .ok org) (patch : PatchManifest) (payload : Bytes) :
    Respects (SameFor org) (putObject env (orgScopedPayloadKey org patch.expectedKey) payload) := by
  have looks : Respects (SameFor org) (lookForObject env (orgScopedPayloadKey org patch.expectedKey)) := by
    refine respects_attempt.bind fun _ => respects_get ?_ fun _ => respects_attempt
    intro left right same
    rw [same.opened env.storageKind (orgRoot_leads valid patch)]
  refine looks.bind fun _ => ?_
  unfold storePayload
  split
  · exact respects_modify fun left right same => same.withObject _ payload
  · refine (respects_modify fun left right same => same.afterFailedPut _ payload).bind fun _ => ?_
    exact failWith_respects _ _

theorem createPatch_respects (valid : validateOrgID org = .ok org) (body : Except String Json) :
    Respects (SameFor org) (createPatch env (some org) body) := by
  have current := currentOrgID_some (orgChars_of_validateOrgID valid).1
  unfold createPatch
  rw [current]
  refine (parsedBody_respects _).bind fun request => respects_attempt.bind fun payload => ?_
  refine (answering_respects (ensureAppInOrg_respects _ (SameFor.seesApps valid) _)).bind fun _ => ?_
  refine (putObject_respects valid request.manifest payload).bind fun _ => ?_
  exact (answering_respects (putPatchInOrg_respects valid _)).bind fun _ => respects_pure

theorem changePatch_respects (valid : validateOrgID org = .ok org)
    (body : Except String PromotePatchRequest)
    (change : PromotePatchRequest → PatchManifest → PatchManifest) :
    Respects (SameFor org) (changePatch env (some org) body change) := by
  have current := currentOrgID_some (orgChars_of_validateOrgID valid).1
  unfold changePatch
  rw [current]
  refine (parsedBody_respects _).bind fun request => ?_
  refine (answering_respects (getPatchInOrg_respects valid rfl)).bind fun patch => ?_
  exact (answering_respects (putPatchInOrg_respects valid _)).bind fun _ => respects_pure

theorem BearerRequest.handle_respects (valid : validateOrgID org = .ok org) (request : BearerRequest) :
    Respects (SameFor org) (request.handle env org) := by
  have current := currentOrgID_some (orgChars_of_validateOrgID valid).1
  cases request with
  | createApp body =>
      refine Respects.map ?_
      rw [Server.createApp, current]
      exact adminCreateAppForOrg_respects valid body
  | resolveApp selector => exact (resolveApp_respects valid selector).map
  | getApp id =>
      refine Respects.map ?_
      rw [getAppByID, current]
      exact answering_respects (getAppInOrg_respects _ (SameFor.seesApps valid) id)
  | createRelease body => exact (createRelease_respects valid body).map
  | createPatch body => exact (createPatch_respects valid body).map
  | promote body => exact (changePatch_respects valid body _).map
  | rollback body => exact (changePatch_respects valid body _).map

/-- The first token in force with a hash is the only token with it. -/
theorem find?_live {tokens : List CliToken} (unique : (tokens.map (·.tokenHash)).Nodup) {row : CliToken}
    (member : row ∈ tokens) :
    (tokens.filter (·.revokedAt.isNone)).find? (fun token => decide (token.tokenHash = row.tokenHash)) =
      if row.revokedAt.isNone then some row else none := by
  have only : ∀ token ∈ tokens, token.tokenHash = row.tokenHash → token = row := fun token listed same =>
    List.inj_on_of_nodup_map unique listed member same
  cases found : (tokens.filter (·.revokedAt.isNone)).find?
      (fun token => decide (token.tokenHash = row.tokenHash)) with
  | none =>
      rw [if_neg]
      intro live
      have absent := List.find?_eq_none.mp found row (List.mem_filter.mpr ⟨member, live⟩)
      simp at absent
  | some token =>
      have hashed : token.tokenHash = row.tokenHash := by
        simpa using List.find?_some found
      obtain ⟨listed, live⟩ := List.mem_filter.mp (List.mem_of_find?_eq_some found)
      obtain rfl := only token listed hashed
      rw [if_pos live]

/-- The request presents a token of the organization. -/
def PresentsToken (org : String) (db : Database) (call : RouteCall) : Prop :=
  ∃ authorization request token, call.request = .bearer authorization request ∧
    bearerToken authorization = some token ∧
    ∃ row ∈ db.cliTokens, row.orgId = org ∧ row.tokenHash = call.env.sha256Hex (stringBytes token)

/-- Where a token is stored, the guard reads its row only. -/
theorem requireBearer_presented {db : Database} (unique : (db.cliTokens.map (·.tokenHash)).Nodup)
    {authorization token : String} (presented : bearerToken authorization = some token) {row : CliToken}
    (member : row ∈ db.cliTokens) (hashed : row.tokenHash = env.sha256Hex (stringBytes token)) :
    requireBearer env authorization db =
      (match env.sql .selectTokens with
        | .error text => .error (internalError (.message text))
        | .ok _ =>
            if row.revokedAt.isNone then
              .ok (if row.orgId.isEmpty then defaultOrgID else row.orgId)
            else .error { status := 401, message := "invalid bearer token" }, db) := by
  have found := find?_live unique member
  rw [hashed] at found
  unfold requireBearer
  rw [presented]
  dsimp only
  rw [run_bind]
  unfold answering exec Action.attempt
  cases env.sql .selectTokens with
  | error text => rfl
  | ok _ =>
      have read : (get : Handler Database) db = (.ok db, db) := rfl
      dsimp only
      rw [run_bind, read]
      dsimp only
      rw [found]
      cases row.revokedAt.isNone <;> rfl

end Handlers

/-!
## Requests with a token
-/

section Steps

variable {org : String}

theorem serveRoute_wellFormed (call : RouteCall) {db : Database} (formed : db.WellFormed) :
    (serveRoute call db).2.WellFormed :=
  run_invariant [call] (fun _ _ => AnyWrite.wellFormed) formed

theorem bearer_respects {left right : Database} (same : left.SameTenant right org)
    (valid : validateOrgID org = .ok org) (formed : left.WellFormed) (formed' : right.WellFormed)
    {call : RouteCall} (presents : PresentsToken org left call) :
    (serveRoute call left).1 = (serveRoute call right).1 ∧
      (serveRoute call left).2.SameTenant (serveRoute call right).2 org := by
  obtain ⟨env, asked⟩ := call
  obtain ⟨authorization, request, token, rfl, presented, row, member, rfl, hashed⟩ := presents
  obtain ⟨index, found⟩ := List.mem_iff_getElem?.mp member
  have member' : row ∈ right.cliTokens :=
    List.mem_iff_getElem?.mpr ⟨index, (same.tokens index row rfl).mpr found⟩
  have named := (orgChars_of_validateOrgID valid).1
  change (serveBearer env authorization request left).1 = (serveBearer env authorization request right).1 ∧
    (serveBearer env authorization request left).2.SameTenant (serveBearer env authorization request right).2
      row.orgId
  unfold serveBearer
  rw [run_bind, run_bind, requireBearer_presented formed.hashes presented member hashed,
    requireBearer_presented formed'.hashes presented member' hashed]
  cases env.sql .selectTokens with
  | error text => exact ⟨rfl, same⟩
  | ok _ =>
      by_cases live : row.revokedAt.isNone
      · simp only [live, named, if_true]
        exact request.handle_respects valid left right same
      · simp only [live]
        exact ⟨rfl, same⟩

theorem bearer_sameTenant {db : Database} (formed : db.WellFormed) {call : RouteCall}
    (presents : PresentsToken org db call) (valid : validateOrgID org = .ok org) {tenant : String}
    (valid' : validateOrgID tenant = .ok tenant) (apart : org ≠ tenant) :
    db.SameTenant (serveRoute call db).2 tenant := by
  obtain ⟨env, asked⟩ := call
  obtain ⟨authorization, request, token, rfl, presented, row, member, rfl, hashed⟩ := presents
  have named := (orgChars_of_validateOrgID valid).1
  change db.SameTenant (serveBearer env authorization request db).2 tenant
  unfold serveBearer
  rw [run_bind, requireBearer_presented formed.hashes presented member hashed]
  cases env.sql .selectTokens with
  | error text => exact .refl
  | ok _ =>
      by_cases live : row.revokedAt.isNone
      · simp only [live, named, if_true]
        refine Ensures.finally (fun after => db.SameTenant after tenant) ?_
        exact (request.handle_writes env named db).mono
          (fun _ _ writes => writes.sameTenant valid valid' apart)
          (fun _ _ writes => writes.sameTenant valid valid' apart)
      · simp only [live]
        exact .refl

end Steps

/-!
## Runs
-/

/-- Requests with tokens of one organization leave every other one as it is, name no
payload of theirs, and are answered alike in every database with the same rows and
payloads of the first. -/
theorem tenants_isolated (now : Nat) (history calls : List RouteCall) (org : String) (other : Database) :
    let db := runFrom serveRoute (Database.migrated now) history
    db.Exists org → Guarded serveRoute (PresentsToken org) db calls →
    other.WellFormed → db.SameTenant other org →
      (∀ tenant, tenant ≠ org → db.Exists tenant →
        db.SameTenant (runFrom serveRoute db calls) tenant ∧
        ∀ patch patch' : PatchManifest,
          orgScopedPayloadKey org patch.expectedKey ≠ orgScopedPayloadKey tenant patch'.expectedKey) ∧
      outputsFrom serveRoute db calls = outputsFrom serveRoute other calls := by
  intro db existing presents formed' same
  have formed : db.WellFormed := reachable_wellFormed now history
  have valid := formed.organizations org existing
  constructor
  · intro tenant apart existing'
    have valid' := formed.organizations tenant existing'
    refine ⟨?_, orgScopedPayloadKey_ne valid valid' (Ne.symm apart)⟩
    have kept := presents.invariant (fun reached => reached.WellFormed ∧ db.SameTenant reached tenant)
      (fun reached call kept presents => ⟨serveRoute_wellFormed call kept.1,
        kept.2.trans (bearer_sameTenant kept.1 presents valid valid' (Ne.symm apart))⟩) ⟨formed, .refl⟩
    exact kept.2
  · have alike := presents.related
      (fun left right => left.SameTenant right org ∧ left.WellFormed ∧ right.WellFormed)
      (fun left right call related presents => by
        obtain ⟨same, formed, formed'⟩ := related
        obtain ⟨answers, states⟩ := bearer_respects same valid formed formed' presents
        exact ⟨answers, states, serveRoute_wellFormed call formed, serveRoute_wellFormed call formed'⟩)
      ⟨same, formed, formed'⟩
    exact alike.1

/-- A second organization next to the default one. -/
def twoOrganizations : List RouteCall := routeHistory "admin" ++ [createAcme.routeCall]

/-- The token of the default organization creates an app there. -/
def tokenCreatesShop : RouteCall where
  env := sampleEnv ""
  request := .bearer ("Bearer " ++ setupToken.1) (.createApp (.ok (App.new "shop" "Shop")))

/-- The second organization may have an app of the same name or none. -/
theorem default_isolated_from_acme :
    let db := runFrom serveRoute (Database.migrated 0) twoOrganizations
    let row := { name := "Shop", channel := "beta", publicKey := "", createdAt := 1, updatedAt := 1 }
    let crowded := { db with apps := db.apps.insert ("acme", "shop") row }
    db.SameTenant (runFrom serveRoute db [tokenCreatesShop]) "acme" ∧
      outputsFrom serveRoute db [tokenCreatesShop] = outputsFrom serveRoute crowded [tokenCreatesShop] := by
  intro db row crowded
  have default : db.Exists defaultOrgID := by
    unfold Database.Exists
    decide
  have acme : db.Exists "acme" := by
    unfold Database.Exists
    decide
  have presents : Guarded serveRoute (PresentsToken defaultOrgID) db [tokenCreatesShop] := by
    have token : bearerToken ("Bearer " ++ setupToken.1) = some setupToken.1 := by decide
    have stored : (⟨defaultOrgID, "default", setupToken.2, 0, none⟩ : CliToken) ∈ db.cliTokens := by
      decide
    exact ⟨⟨_, _, _, rfl, token, _, stored, rfl, by decide⟩, trivial⟩
  have formed : crowded.WellFormed :=
    let reached := reachable_wellFormed 0 twoOrganizations
    ⟨reached.organizations, reached.tokens, reached.hashes⟩
  have same : db.SameTenant crowded defaultOrgID := by
    have apart : defaultOrgID ≠ "acme" := by decide
    exact { Database.SameTenant.refl with
      apps := fun id => AList.lookup_insert_ne fun key => apart (congrArg Prod.fst key) }
  obtain ⟨others, answers⟩ := tenants_isolated 0 twoOrganizations [tokenCreatesShop] defaultOrgID crowded
    default presents formed same
  exact ⟨(others "acme" (by decide) acme).1, answers⟩

end CodePush.Server
