import CodePush.Foundation.Relations
import CodePush.Server.Organizations

/-!
# The migration to organizations

`migrateOrgScopedAppIDs` rebuilds the tables of apps with an organization in their keys. Foreign
keys are not enforced: they are off unless a connection turns them on, and the pragmas of the
migration have no effect inside its transaction.
-/

set_option autoImplicit false

namespace CodePush.Server

open CodePush.Foundation

/-!
## Rows
-/

/-- A text that is a primary key may be null in SQLite. -/
structure AppColumns where
  id : Option String
  name : String
  channel : String
  publicKey : String
  createdAt : String
  updatedAt : String
  deriving Repr, DecidableEq

structure LegacyApp where
  orgId : Option String
  row : AppColumns
  deriving Repr, DecidableEq

structure ReleaseColumns where
  appId : String
  releaseVersion : String
  platform : String
  arch : String
  channel : String
  backend : String
  artifactHash : String
  artifactSize : Int
  manifestJson : String
  createdAt : String
  deriving Repr, DecidableEq

structure PatchColumns where
  appId : String
  releaseVersion : String
  platform : String
  arch : String
  patchNumber : Int
  channel : String
  activeChannel : Option String
  activeRolloutPercentage : Int
  active : Int
  payloadKey : String
  payloadHash : String
  manifestJson : String
  createdAt : String
  updatedAt : String
  deriving Repr, DecidableEq

structure AppPlatformColumns where
  appId : String
  platform : String
  enabled : Int
  backend : String
  deriving Repr, DecidableEq

structure AppPlatformAbiColumns where
  appId : String
  platform : String
  abi : String
  sortOrder : Int
  deriving Repr, DecidableEq

structure PatchEventColumns where
  id : Int
  appId : String
  releaseVersion : String
  platform : String
  arch : String
  patchNumber : Option Int
  eventType : String
  clientIdHash : Option String
  payload : Option String
  createdAt : String
  deriving Repr, DecidableEq

def ReleaseColumns.key (row : ReleaseColumns) : String × String × String × String :=
  (row.appId, row.releaseVersion, row.platform, row.arch)

def PatchColumns.key (row : PatchColumns) : String × String × String × String × Int :=
  (row.appId, row.releaseVersion, row.platform, row.arch, row.patchNumber)

def AppPlatformColumns.key (row : AppPlatformColumns) : String × String := (row.appId, row.platform)

def AppPlatformAbiColumns.key (row : AppPlatformAbiColumns) : String × String × String :=
  (row.appId, row.platform, row.abi)

/-- The tables before the migration, with their primary keys; nulls are not compared. -/
structure LegacyDatabase where
  apps : List LegacyApp
  releases : List ReleaseColumns
  patches : List PatchColumns
  appPlatforms : List AppPlatformColumns
  appPlatformAbis : List AppPlatformAbiColumns
  patchEvents : List PatchEventColumns
  appKeys : ((apps.filter (·.row.id.isSome)).map (·.row.id)).Nodup
  releaseKeys : (releases.map (·.key)).Nodup
  patchKeys : (patches.map (·.key)).Nodup
  appPlatformKeys : (appPlatforms.map (·.key)).Nodup
  appPlatformAbiKeys : (appPlatformAbis.map (·.key)).Nodup
  patchEventKeys : (patchEvents.map (·.id)).Nodup

/-- A row with its organization. -/
structure Scoped (ρ : Type) where
  orgId : String
  row : ρ
  deriving Repr, DecidableEq

structure ScopedDatabase where
  apps : List (Scoped AppColumns)
  releases : List (Scoped ReleaseColumns)
  patches : List (Scoped PatchColumns)
  appPlatforms : List (Scoped AppPlatformColumns)
  appPlatformAbis : List (Scoped AppPlatformAbiColumns)
  patchEvents : List (Scoped PatchEventColumns)
  deriving Repr, DecidableEq

/-!
## Statements
-/

/-- `coalesce(nullif(org_id, ''), 'default')`. -/
def orgOrDefault (orgId : Option String) : String :=
  match orgId with
  | some text => if text = "" then defaultOrgID else text
  | none => defaultOrgID

def appsScoped (apps : List LegacyApp) : List (Scoped AppColumns) :=
  insertOrIgnore (fun app => (app.orgId, app.row.id)) (·.row.id.isSome) []
    (apps.map fun app => { orgId := orgOrDefault app.orgId, row := app.row })

/-- The statement that releases, patches, platforms and ABIs have in common, each with the
columns of its own key. -/
def scopedByApp {ρ κ : Type} [DecidableEq κ] (apps : List (Scoped AppColumns)) (appId : ρ → String)
    (key : ρ → κ) (rows : List ρ) : List (Scoped ρ) :=
  insertOrIgnore (fun entry : Scoped ρ => (entry.orgId, key entry.row)) (fun _ => true) []
    ((joinOn (fun row app => app.row.id = some (appId row)) rows apps).map fun joined =>
      { orgId := orgOrDefault (some joined.2.orgId), row := joined.1 })

def releasesScoped (apps : List (Scoped AppColumns)) (rows : List ReleaseColumns) :
    List (Scoped ReleaseColumns) :=
  scopedByApp apps (·.appId) (·.key) rows

def patchesScoped (apps : List (Scoped AppColumns)) (rows : List PatchColumns) :
    List (Scoped PatchColumns) :=
  scopedByApp apps (·.appId) (·.key) rows

def appPlatformsScoped (apps : List (Scoped AppColumns)) (rows : List AppPlatformColumns) :
    List (Scoped AppPlatformColumns) :=
  scopedByApp apps (·.appId) (·.key) rows

def appPlatformAbisScoped (apps : List (Scoped AppColumns)) (rows : List AppPlatformAbiColumns) :
    List (Scoped AppPlatformAbiColumns) :=
  scopedByApp apps (·.appId) (·.key) rows

/-- Events are not joined with apps. -/
def patchEventsScoped (rows : List PatchEventColumns) : Option (List (Scoped PatchEventColumns)) :=
  insertRows (·.row.id) (fun _ => true) [] (rows.map fun row => { orgId := defaultOrgID, row })

def migrateOrgScopedAppIDs (db : LegacyDatabase) : Option ScopedDatabase := do
  let apps := appsScoped db.apps
  let patchEvents ← patchEventsScoped db.patchEvents
  return {
    apps
    releases := releasesScoped apps db.releases
    patches := patchesScoped apps db.patches
    appPlatforms := appPlatformsScoped apps db.appPlatforms
    appPlatformAbis := appPlatformAbisScoped apps db.appPlatformAbis
    patchEvents }

/-!
## What the migration keeps
-/

namespace LegacyDatabase

variable {db : LegacyDatabase}

/-- The organization of the app with the id. -/
def orgOf (db : LegacyDatabase) (appId : String) : String :=
  match db.apps.find? (·.row.id = some appId) with
  | some app => orgOrDefault app.orgId
  | none => defaultOrgID

def HasApp (db : LegacyDatabase) (appId : String) : Prop := ∃ app ∈ db.apps, app.row.id = some appId

/-- Rows refer to apps. -/
structure Referenced (db : LegacyDatabase) : Prop where
  releases : ∀ row ∈ db.releases, db.HasApp row.appId
  patches : ∀ row ∈ db.patches, db.HasApp row.appId
  appPlatforms : ∀ row ∈ db.appPlatforms, db.HasApp row.appId
  appPlatformAbis : ∀ row ∈ db.appPlatformAbis, db.HasApp row.appId
  patchEvents : ∀ row ∈ db.patchEvents, db.HasApp row.appId

/-- Every table has one row for each old one, in the organization of its app. -/
structure Lossless (db : LegacyDatabase) (after : ScopedDatabase) : Prop where
  apps : after.apps.Perm (db.apps.map fun app => { orgId := orgOrDefault app.orgId, row := app.row })
  releases : after.releases.Perm (db.releases.map fun row => { orgId := db.orgOf row.appId, row })
  patches : after.patches.Perm (db.patches.map fun row => { orgId := db.orgOf row.appId, row })
  appPlatforms : after.appPlatforms.Perm (db.appPlatforms.map fun row => { orgId := db.orgOf row.appId, row })
  appPlatformAbis : after.appPlatformAbis.Perm
    (db.appPlatformAbis.map fun row => { orgId := db.orgOf row.appId, row })
  patchEvents : after.patchEvents.Perm (db.patchEvents.map fun row => { orgId := db.orgOf row.appId, row })

theorem orgOf_eq {app : LegacyApp} {appId : String} (member : app ∈ db.apps) (named : app.row.id = some appId) :
    db.orgOf appId = orgOrDefault app.orgId := by
  unfold orgOf
  cases found : db.apps.find? (·.row.id = some appId) with
  | none =>
      rw [List.find?_eq_none] at found
      exact absurd (decide_eq_true named) (found app member)
  | some other =>
      have named' : other.row.id = some appId := by simpa using List.find?_some found
      have listed : app ∈ db.apps.filter (·.row.id.isSome) := List.mem_filter.mpr ⟨member, by rw [named]; rfl⟩
      have listed' : other ∈ db.apps.filter (·.row.id.isSome) :=
        List.mem_filter.mpr ⟨List.mem_of_find?_eq_some found, by rw [named']; rfl⟩
      rw [List.inj_on_of_nodup_map db.appKeys listed' listed (named'.trans named.symm)]

theorem orgOrDefault_idem (orgId : Option String) : orgOrDefault (some (orgOrDefault orgId)) = orgOrDefault orgId := by
  cases orgId with
  | none => rfl
  | some text =>
      by_cases empty : text = ""
      · rw [empty]
        rfl
      · have kept : orgOrDefault (some text) = text := if_neg empty
        rw [kept, kept]

theorem appsScoped_eq (db : LegacyDatabase) :
    appsScoped db.apps = (db.apps.filter (·.row.id.isSome)).map fun app =>
      { orgId := orgOrDefault app.orgId, row := app.row } := by
  unfold appsScoped
  rw [insertOrIgnore_eq]
  · rw [List.nil_append, List.filter_map]
    rfl
  · rw [List.nil_append, List.filter_map]
    have ids := db.appKeys
    refine List.Nodup.of_map Prod.snd ?_
    rw [List.map_map, List.map_map]
    exact ids

theorem scopedByApp_eq {ρ κ : Type} [DecidableEq κ] {appId : ρ → String} {key : ρ → κ} {rows : List ρ}
    (referenced : ∀ row ∈ rows, db.HasApp (appId row)) (distinct : (rows.map key).Nodup) :
    scopedByApp (appsScoped db.apps) appId key rows =
      rows.map fun row => { orgId := db.orgOf (appId row), row } := by
  have joined : ((joinOn (fun row app => app.row.id = some (appId row)) rows (appsScoped db.apps)).map
      fun joined => ({ orgId := orgOrDefault (some joined.2.orgId), row := joined.1 } : Scoped ρ)) =
      rows.map fun row => { orgId := db.orgOf (appId row), row } := by
    apply joinOn_map_eq
    intro row member
    obtain ⟨app, present, named⟩ := referenced row member
    refine ⟨{ orgId := orgOrDefault app.orgId, row := app.row }, ?_, ?_⟩
    · rw [appsScoped_eq]
      refine filter_eq_singleton (fun app : Scoped AppColumns => app.row.id) ?_ ?_ (decide_eq_true named) ?_
      · have ids := db.appKeys
        refine List.Nodup.sublist (List.filter_sublist.map _) ?_
        rw [List.map_map]
        exact ids
      · exact List.mem_map.mpr ⟨app, List.mem_filter.mpr ⟨present, by rw [named]; rfl⟩, rfl⟩
      · intro other _ matched
        exact (of_decide_eq_true matched).trans named.symm
    · rw [db.orgOf_eq present named, orgOrDefault_idem]
  unfold scopedByApp
  rw [joined, insertOrIgnore_eq]
  · rw [List.nil_append, List.filter_eq_self.mpr fun _ _ => rfl]
  · rw [List.nil_append, List.filter_eq_self.mpr fun _ _ => rfl]
    refine List.Nodup.of_map Prod.snd ?_
    rw [List.map_map, List.map_map]
    exact distinct

theorem patchEventsScoped_eq (db : LegacyDatabase) :
    patchEventsScoped db.patchEvents = some (db.patchEvents.map fun row => { orgId := defaultOrgID, row }) := by
  unfold patchEventsScoped
  refine insertRows_eq (fun _ _ => rfl) ?_
  rw [List.nil_append, List.map_map]
  exact db.patchEventKeys

/-- What the migration makes of tables whose rows refer to apps. -/
theorem Referenced.migrated (referenced : db.Referenced) :
    migrateOrgScopedAppIDs db = some
      { apps := (db.apps.filter (·.row.id.isSome)).map fun app =>
          { orgId := orgOrDefault app.orgId, row := app.row }
        releases := db.releases.map fun row => { orgId := db.orgOf row.appId, row }
        patches := db.patches.map fun row => { orgId := db.orgOf row.appId, row }
        appPlatforms := db.appPlatforms.map fun row => { orgId := db.orgOf row.appId, row }
        appPlatformAbis := db.appPlatformAbis.map fun row => { orgId := db.orgOf row.appId, row }
        patchEvents := db.patchEvents.map fun row => { orgId := defaultOrgID, row } } := by
  have releases : releasesScoped (appsScoped db.apps) db.releases = db.releases.map fun row =>
      { orgId := db.orgOf row.appId, row } := scopedByApp_eq referenced.releases db.releaseKeys
  have patches : patchesScoped (appsScoped db.apps) db.patches = db.patches.map fun row =>
      { orgId := db.orgOf row.appId, row } := scopedByApp_eq referenced.patches db.patchKeys
  have platforms : appPlatformsScoped (appsScoped db.apps) db.appPlatforms = db.appPlatforms.map fun row =>
      { orgId := db.orgOf row.appId, row } := scopedByApp_eq referenced.appPlatforms db.appPlatformKeys
  have abis : appPlatformAbisScoped (appsScoped db.apps) db.appPlatformAbis = db.appPlatformAbis.map fun row =>
      { orgId := db.orgOf row.appId, row } :=
    scopedByApp_eq referenced.appPlatformAbis db.appPlatformAbiKeys
  unfold migrateOrgScopedAppIDs
  dsimp only
  rw [patchEventsScoped_eq, releases, patches, platforms, abis, appsScoped_eq]
  rfl

/-- All rows are kept exactly if no app's id is null and every event is of an app in the default
organization. -/
theorem migration_lossless_iff (db : LegacyDatabase) (referenced : db.Referenced) :
    (∃ after, migrateOrgScopedAppIDs db = some after ∧ db.Lossless after) ↔
      (∀ app ∈ db.apps, app.row.id ≠ none) ∧
        ∀ row ∈ db.patchEvents, ∀ app ∈ db.apps, app.row.id = some row.appId →
          orgOrDefault app.orgId = defaultOrgID := by
  rw [referenced.migrated]
  constructor
  · rintro ⟨_, same, lossless⟩
    cases same
    constructor
    · intro app member null
      have lengths := lossless.apps.length_eq
      rw [List.length_map, List.length_map] at lengths
      have whole := List.length_filter_eq_length_iff.mp lengths app member
      rw [null] at whole
      cases whole
    · intro row member app present named
      have kept := lossless.patchEvents.subset (List.mem_map_of_mem member)
      obtain ⟨other, _, same⟩ := List.mem_map.mp kept
      have rows : other = row := congrArg Scoped.row same
      have orgs : db.orgOf other.appId = defaultOrgID := congrArg Scoped.orgId same
      rw [← db.orgOf_eq present named, ← rows]
      exact orgs
  · rintro ⟨named, default⟩
    refine ⟨_, rfl, ?_, .refl _, .refl _, .refl _, .refl _, ?_⟩
    · rw [List.filter_eq_self.mpr fun app member => Option.isSome_iff_ne_none.mpr (named app member)]
    · refine List.Perm.of_eq (List.map_congr_left fun row member => ?_)
      obtain ⟨app, present, same⟩ := referenced.patchEvents row member
      rw [db.orgOf_eq present same, default row member app present same]

end LegacyDatabase

/-!
## Apps of two organizations
-/

def appNamed (orgId id : String) : LegacyApp where
  orgId := some orgId
  row :=
    { id := some id, name := id, channel := "stable", publicKey := ""
      createdAt := "2026-01-01 00:00:00", updatedAt := "2026-01-01 00:00:00" }

def releaseOf (appId : String) : ReleaseColumns where
  appId := appId
  releaseVersion := "1"
  platform := "ios"
  arch := "arm64"
  channel := "stable"
  backend := "bytecode"
  artifactHash := ""
  artifactSize := 0
  manifestJson := "{}"
  createdAt := "2026-01-01 00:00:00"

def patchOf (appId : String) : PatchColumns where
  appId := appId
  releaseVersion := "1"
  platform := "ios"
  arch := "arm64"
  patchNumber := 1
  channel := "stable"
  activeChannel := some "stable"
  activeRolloutPercentage := 100
  active := 1
  payloadKey := appId ++ "/1/payload.bin"
  payloadHash := ""
  manifestJson := "{}"
  createdAt := "2026-01-02 00:00:00"
  updatedAt := "2026-01-02 00:00:00"

/-- The apps "app" and "notes" have a row in each table but that of the events: only "app" has
sent one. -/
def twoApps (orgId : String) : LegacyDatabase where
  apps := [appNamed orgId "app", appNamed "lab" "notes"]
  releases := [releaseOf "app", releaseOf "notes"]
  patches := [patchOf "app", patchOf "notes"]
  appPlatforms := ["app", "notes"].map fun appId =>
    { appId, platform := "ios", enabled := 1, backend := "bytecode" }
  appPlatformAbis := ["app", "notes"].map fun appId =>
    { appId, platform := "ios", abi := "arm64", sortOrder := 0 }
  patchEvents := [{ id := 1, appId := "app", releaseVersion := "1", platform := "ios", arch := "arm64"
                    patchNumber := some 1, eventType := "installed", clientIdHash := none, payload := none
                    createdAt := "2026-01-03 00:00:00" }]
  appKeys := by simp [appNamed]
  releaseKeys := by simp [ReleaseColumns.key, releaseOf]
  patchKeys := by simp [PatchColumns.key, patchOf]
  appPlatformKeys := by simp [AppPlatformColumns.key]
  appPlatformAbiKeys := by simp [AppPlatformAbiColumns.key]
  patchEventKeys := by simp

theorem twoApps_referenced (orgId : String) : (twoApps orgId).Referenced := by
  constructor
  all_goals simp [twoApps, LegacyDatabase.HasApp, appNamed, releaseOf, patchOf]

/-- An app whose organization is empty comes into the default one with its rows, and the other
stays in its own. -/
theorem unscoped_app_migrates :
    ∃ after, migrateOrgScopedAppIDs (twoApps "") = some after ∧ (twoApps "").Lossless after := by
  refine (LegacyDatabase.migration_lossless_iff _ (twoApps_referenced "")).mpr ⟨?_, ?_⟩
  · decide
  · decide

/-- The event of an app of another organization is moved to the default one. -/
theorem event_leaves_organization :
    ¬ ∀ db : LegacyDatabase, db.Referenced →
      ∃ after, migrateOrgScopedAppIDs db = some after ∧ db.Lossless after := by
  intro lossless
  obtain ⟨after, migrated, kept⟩ := lossless (twoApps "acme") (twoApps_referenced "acme")
  have moved : (migrateOrgScopedAppIDs (twoApps "acme")).map (fun after => after.patchEvents.map (·.orgId)) =
      some [defaultOrgID] := by decide
  rw [migrated] at moved
  have moved : after.patchEvents.map (·.orgId) = [defaultOrgID] := Option.some.inj moved
  have orgs := kept.patchEvents.map (·.orgId)
  rw [moved] at orgs
  have same := List.singleton_perm.mp orgs
  revert same
  decide

end CodePush.Server
