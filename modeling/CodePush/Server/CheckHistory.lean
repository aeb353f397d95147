import CodePush.Foundation.Tables
import CodePush.Server.Delivery
import CodePush.Server.PatchStore

/-!
# Checks and the history of patches

A device is offered what the accepted requests say: the newest patch whose last
promotion or rollback is a promotion to the device's channel and cohort.
-/

set_option autoImplicit false

namespace CodePush.Server

open CodePush.Core CodePush.Foundation CodePush.Foundation.Action

/-!
## Events
-/

/-- What an accepted request does to a patch. -/
inductive PatchEvent where
  | created (key : PatchKey) (channel : String)
  | promoted (key : PatchKey) (channel : String) (rollout : Int64)
  | rolledBack (key : PatchKey)
  deriving Repr, DecidableEq

def PatchRequest.event : PatchRequest → Option PatchEvent
  | .create org body => (body.bind CreatePatchRequest.unmarshal).toOption.map fun request =>
      .created (request.manifest.keyIn (currentOrgID org)) request.manifest.channel
  | .promote org body => body.toOption.map fun request =>
      .promoted (request.keyIn (currentOrgID org)) request.channel request.rolloutPercentage
  | .rollback org body => body.toOption.map fun request =>
      .rolledBack (request.keyIn (currentOrgID org))

/-- The events of one request: none if it fails. -/
def eventsOf (call : PatchCall) : Except HttpError Reply → List PatchEvent
  | .ok _ => call.request.event.toList
  | .error _ => []

/-- The events of a run, the last one at the end. -/
def acceptedEvents (start : Database) : List PatchCall → List PatchEvent
  | [] => []
  | call :: calls =>
      eventsOf call (servePatch call start).1 ++ acceptedEvents (servePatch call start).2 calls

/-- A promotion or a rollback of the patch. -/
def PatchEvent.activates (key : PatchKey) : PatchEvent → Bool
  | .created _ _ => false
  | .promoted key' _ _ => key' = key
  | .rolledBack key' => key' = key

/-- The last promotion or rollback of a patch. -/
def latest (key : PatchKey) (events : List PatchEvent) : Option PatchEvent :=
  (events.filter (·.activates key)).getLast?

/-- The patch with the number is stored, newer than the device's, and promoted to its
channel and cohort. A promotion without a channel is one to the manifest's own. -/
def Offered (query : CheckQuery) (events : List PatchEvent) (number : Int64) : Prop :=
  atoi query.currentPatchNumber < number ∧
    ∃ uploaded channel rollout, .created (query.key number) uploaded ∈ events ∧
      latest (query.key number) events = some (.promoted (query.key number) channel rollout) ∧
      (if channel.isEmpty then uploaded else channel) = query.channel ∧
      (cohort query.appId query.releaseVersion query.clientId : Int) < rollout.toInt * 100

/-!
## The table and the events
-/

/-- The columns that a patch has after its last promotion or rollback. -/
def Standing : Option PatchEvent → Bool → String → Int64 → Prop
  | some (.promoted _ channel rollout), active, channel', rollout' =>
      active = true ∧ channel' = channel ∧ rollout' = rollout
  | _, active, _, _ => active = false

/-- The row is the one that the events of its patch lead to. -/
structure RowTracks (db : Database) (events : List PatchEvent) (key : PatchKey) (row : PatchRow)
    (patch : PatchManifest) : Prop where
  row : ∃ active channel rollout, row = (patch.activated active channel rollout).row ∧
    Standing (latest key events) active channel rollout
  own : patch.keyIn key.orgId = key
  created : ∀ channel, .created key channel ∈ events ↔ channel = patch.channel
  address : patch.payload.downloadUrl = orgScopedPayloadKey key.orgId patch.expectedKey
  object : (db.objects.lookup patch.payload.downloadUrl).isSome
  app : AppStored db key

structure Tracks (db : Database) (events : List PatchEvent) : Prop where
  stored : ∀ key row, db.patches.lookup key = some row → ∃ patch, RowTracks db events key row patch
  absent : ∀ key, db.patches.lookup key = none →
    latest key events = none ∧ ∀ channel, .created key channel ∉ events

section Steps

variable {db after : Database} {events : List PatchEvent} {key : PatchKey}

theorem latest_append (event : PatchEvent) :
    latest key (events ++ [event]) = if event.activates key then some event else latest key events := by
  unfold latest
  rw [List.filter_append]
  cases activates : event.activates key <;> simp [activates]

/-- Only a promotion makes a patch active. -/
theorem latest_of_standing {channel : String} {rollout : Int64}
    (standing : Standing (latest key events) true channel rollout) :
    latest key events = some (.promoted key channel rollout) := by
  cases last : latest key events with
  | none =>
      rw [last] at standing
      cases standing
  | some event =>
      rw [last] at standing
      cases event with
      | promoted key' channel' rollout' =>
          have member := List.mem_of_getLast? last
          have own : key' = key := of_decide_eq_true (List.mem_filter.mp member).2
          obtain ⟨_, rfl, rfl⟩ := standing
          rw [own]
      | created _ _ => cases standing
      | rolledBack _ => cases standing

theorem tracks_empty (empty : db.patches = ∅) : Tracks db [] where
  stored key row found := by
    rw [empty] at found
    cases found
  absent key _ := ⟨rfl, fun _ member => by cases member⟩

/-- Without an event the rows stay as they are, and nothing they need goes away. -/
theorem Tracks.of_patches (tracks : Tracks db events) (patches : after.patches = db.patches)
    (objects : ∀ url, (db.objects.lookup url).isSome → (after.objects.lookup url).isSome)
    (apps : ∀ key, (db.apps.lookup key).isSome → (after.apps.lookup key).isSome) :
    Tracks after events where
  stored key row found := by
    rw [patches] at found
    obtain ⟨patch, tracked⟩ := tracks.stored key row found
    obtain ⟨id, normal, app⟩ := tracked.app
    exact ⟨patch, { tracked with
      object := objects _ tracked.object, app := ⟨id, normal, apps _ app⟩ }⟩
  absent key missing := by
    rw [patches] at missing
    exact tracks.absent key missing

/-- An upload that is accepted is the first one of its patch. -/
theorem Tracks.uploaded {env : Environment} {org : String} {body : Except String Json}
    {request : CreatePatchRequest} {payload : Bytes} (tracks : Tracks db events)
    (uploads : Uploads env org body db after request payload) :
    Tracks after (events ++ [.created (request.manifest.keyIn org) request.manifest.channel]) := by
  have fresh : db.patches.lookup (request.manifest.keyIn org) = none := by
    rw [Option.eq_none_iff_forall_ne_some]
    intro row found
    obtain ⟨patch, tracked⟩ := tracks.stored _ row found
    have kept := tracked.object
    rw [tracked.address, expectedKey_of_keyIn tracked.own] at kept
    have absent := uploads.absent
    change (db.objects.lookup (orgScopedPayloadKey org request.manifest.expectedKey)).isSome at kept
    rw [absent] at kept
    cases kept
  have unmoved : ∀ key, latest key (events ++ [.created (request.manifest.keyIn org) request.manifest.channel]) =
      latest key events := by
    intro key
    rw [latest_append]
    rfl
  constructor
  · intro key row found
    rw [uploads.patches] at found
    by_cases here : key = request.manifest.keyIn org
    · subst here
      rw [AList.lookup_insert] at found
      obtain rfl := Option.some.inj found
      obtain ⟨none, new⟩ := tracks.absent _ fresh
      refine ⟨request.manifest.uploaded org, ⟨_, _, _, rfl, ?_⟩, rfl, ?_, rfl, ?_, uploads.app⟩
      · rw [unmoved, none]
        rfl
      · intro channel
        simp only [List.mem_append, List.mem_singleton, PatchEvent.created.injEq, true_and]
        constructor
        · rintro (old | named)
          · exact absurd old (new channel)
          · exact named
        · exact .inr
      · rw [uploads.objects]
        exact Option.isSome_iff_exists.mpr ⟨payload, AList.lookup_insert _⟩
    · rw [AList.lookup_insert_ne here] at found
      obtain ⟨patch, tracked⟩ := tracks.stored key row found
      obtain ⟨id, normal, app⟩ := tracked.app
      refine ⟨patch, ⟨?_, tracked.own, ?_, tracked.address, ?_, id, normal, uploads.apps _ app⟩⟩
      · rw [unmoved]
        exact tracked.row
      · intro channel
        rw [← tracked.created channel]
        simp [here]
      · obtain ⟨stored, kept⟩ := Option.isSome_iff_exists.mp tracked.object
        rw [uploads.objects, lookup_insert_of_absent kept uploads.absent]
        rfl
  · intro key missing
    rw [uploads.patches] at missing
    have other : key ≠ request.manifest.keyIn org := by
      rintro rfl
      rw [AList.lookup_insert] at missing
      cases missing
    rw [AList.lookup_insert_ne other] at missing
    obtain ⟨none, new⟩ := tracks.absent key missing
    refine ⟨by rw [unmoved, none], ?_⟩
    intro channel
    simp [new channel, other]

/-- A promotion or a rollback of a stored patch is its last event. -/
theorem Tracks.changed {row : PatchRow} {read changed : PatchManifest} {event : PatchEvent} (tracks : Tracks db events)
    (found : db.patches.lookup key = some row)
    (decoded : PatchManifest.zero.unmarshal row.manifestJson = .ok read)
    {active : Bool} {channel : String} {rollout : Int64}
    (keeps : changed = read.activated active channel rollout)
    (activates : ∀ key', event.activates key' = decide (key = key'))
    (standing : Standing (some event) active channel rollout)
    (patches : after.patches = db.patches.insert (changed.keyIn key.orgId) changed.row)
    (objects : after.objects = db.objects) (apps : after.apps = db.apps) :
    Tracks after (events ++ [event]) := by
  subst keeps
  have silent : ∀ key' text, .created key' text ∈ events ++ [event] ↔ PatchEvent.created key' text ∈ events := by
    intro key' text
    have other : event ≠ .created key' text := by
      rintro rfl
      have moved := activates key
      simp [PatchEvent.activates] at moved
    simp [Ne.symm other]
  have appStored : ∀ {key}, AppStored db key → AppStored after key := by
    rintro key ⟨id, normal, app⟩
    exact ⟨id, normal, by rw [apps]; exact app⟩
  obtain ⟨patch, tracked⟩ := tracks.stored key row found
  have same : ∃ active channel rollout, read = patch.activated active channel rollout := by
    obtain ⟨active, channel, rollout, rfl, _⟩ := tracked.row
    rw [PatchManifest.unmarshal_row] at decoded
    exact ⟨active, channel, rollout, (Except.ok.inj decoded).symm⟩
  obtain ⟨_, _, _, rfl⟩ := same
  rw [PatchManifest.activated_keyIn, PatchManifest.activated_keyIn, tracked.own] at patches
  constructor
  · intro key' row' found'
    rw [patches] at found'
    by_cases here : key' = key
    · subst here
      rw [AList.lookup_insert] at found'
      obtain rfl := Option.some.inj found'
      refine ⟨patch, ⟨_, _, _, rfl, ?_⟩, tracked.own, ?_, tracked.address, ?_, appStored tracked.app⟩
      · rw [latest_append, if_pos (by simp [activates])]
        exact standing
      · intro text
        rw [silent]
        exact tracked.created text
      · rw [objects]
        exact tracked.object
    · rw [AList.lookup_insert_ne here] at found'
      obtain ⟨patch', tracked'⟩ := tracks.stored key' row' found'
      refine ⟨patch', ?_, tracked'.own, ?_, tracked'.address, ?_, appStored tracked'.app⟩
      · rw [latest_append, if_neg (by simp [activates, Ne.symm here])]
        exact tracked'.row
      · intro text
        rw [silent]
        exact tracked'.created text
      · rw [objects]
        exact tracked'.object
  · intro key' missing
    rw [patches] at missing
    have other : key' ≠ key := by
      rintro rfl
      rw [AList.lookup_insert] at missing
      cases missing
    rw [AList.lookup_insert_ne other] at missing
    obtain ⟨none, new⟩ := tracks.absent key' missing
    refine ⟨?_, fun text => ?_⟩
    · rw [latest_append, if_neg (by simp [activates, Ne.symm other])]
      exact none
    · rw [silent]
      exact new text

theorem servePatch_tracks (call : PatchCall) (tracks : Tracks db events) :
    Tracks (servePatch call db).2 (events ++ eventsOf call (servePatch call db).1) := by
  obtain ⟨env, request⟩ := call
  have unchanged : ∀ {after : Database}, after = db → Tracks after (events ++ []) := by
    rintro _ rfl
    rw [List.append_nil]
    exact tracks
  apply Ensures.outcome fun answer after => Tracks after (events ++ eventsOf ⟨env, request⟩ answer)
  cases request with
  | create org body =>
      refine (createPatch_stores env org body db).mono ?_ ?_
      · rintro reply after ⟨request, payload, uploads⟩
        have event : eventsOf ⟨env, .create org body⟩ (.ok reply) =
            [.created (request.manifest.keyIn (currentOrgID org)) request.manifest.channel] := by
          simp [eventsOf, PatchRequest.event, uploads.parsed, Except.toOption]
        rw [event]
        exact tracks.uploaded uploads
      · rintro _ after failed
        rw [eventsOf, List.append_nil]
        refine tracks.of_patches failed.patches ?_ failed.apps
        intro url stored
        rcases failed.objects with same | ⟨other, payload, absent, same⟩
        · rw [same]
          exact stored
        · obtain ⟨kept, stored⟩ := Option.isSome_iff_exists.mp stored
          rw [same, lookup_insert_of_absent stored absent]
          rfl
  | promote org body =>
      refine (changePatch_ensures env org body _ db).mono ?_ (fun _ _ => unchanged)
      rintro _ after ⟨request, row, read, rfl, found, decoded, rfl⟩
      exact tracks.changed found decoded rfl (fun _ => rfl) ⟨rfl, rfl, rfl⟩ rfl rfl rfl
  | rollback org body =>
      refine (changePatch_ensures env org body _ db).mono ?_ (fun _ _ => unchanged)
      rintro _ after ⟨request, row, read, rfl, found, decoded, rfl⟩
      have keeps : { read with active := false, activeRollout := 0 } =
          read.activated false read.activeChannel 0 := rfl
      exact tracks.changed found decoded keeps (fun _ => rfl) rfl rfl rfl rfl

theorem run_tracks (calls : List PatchCall) (tracks : Tracks db events) :
    Tracks (runFrom servePatch db calls) (events ++ acceptedEvents db calls) := by
  induction calls generalizing db events with
  | nil =>
      rw [acceptedEvents, List.append_nil]
      exact tracks
  | cons call calls ih =>
      rw [acceptedEvents, ← List.append_assoc]
      exact ih (servePatch_tracks call tracks)

end Steps

/-!
## Selection
-/

/-- The columns of a stored patch, as a check reads them. -/
def decodedRow (row : PatchRow) : Option PatchManifest :=
  (PatchManifest.zero.unmarshal row.manifestJson).toOption

/-- What the loop over the rows looks for. -/
def matchesQuery (query : CheckQuery) (patch : PatchManifest) : Bool :=
  activeChannel patch = query.channel ∧
    eligible query.appId query.releaseVersion query.clientId patch.activeRollout

theorem cohort_lt (appId releaseVersion clientId : String) : cohort appId releaseVersion clientId < 10000 :=
  Nat.mod_lt _ (by decide)

/-- The cohort is below the rollout's part of ten thousand. -/
theorem eligible_iff {appId releaseVersion clientId : String} {rollout : Int64} :
    eligible appId releaseVersion clientId rollout = true ↔
      (cohort appId releaseVersion clientId : Int) < rollout.toInt * 100 := by
  have bound := cohort_lt appId releaseVersion clientId
  unfold eligible
  split
  case isTrue low =>
    have low : rollout.toInt ≤ 0 := by simpa using Int64.le_iff_toInt_le.mp low
    simp only [Bool.false_eq_true, false_iff, not_lt]
    omega
  case isFalse =>
    split
    case isTrue high =>
      have high : 100 ≤ rollout.toInt := by simpa using Int64.le_iff_toInt_le.mp high
      simp only [true_iff]
      omega
    case isFalse => exact decide_eq_true_iff

section Selection

variable {db : Database} {events : List PatchEvent} {query : CheckQuery}

theorem firstEligible_run (rows : List PatchRow)
    (readable : ∀ row ∈ rows, ∃ patch, PatchManifest.zero.unmarshal row.manifestJson = .ok patch) :
    firstEligible query rows db = (.ok ((rows.filterMap decodedRow).find? (matchesQuery query)), db) := by
  induction rows with
  | nil => rfl
  | cons row rows ih =>
      obtain ⟨patch, decoded⟩ := readable row List.mem_cons_self
      have rest := ih fun other member => readable other (List.mem_cons_of_mem _ member)
      have read : decodedRow row = some patch := by
        rw [decodedRow, decoded]
        rfl
      rw [List.filterMap_cons_some read, List.find?_cons, firstEligible, run_bind]
      unfold stored Action.attempt
      rw [decoded]
      dsimp only
      cases taken : matchesQuery query patch with
      | true =>
          rw [if_pos (of_decide_eq_true taken)]
          rfl
      | false =>
          rw [if_neg (of_decide_eq_false taken)]
          exact rest

theorem decodedRow_eq_some {row : PatchRow} {patch : PatchManifest} :
    decodedRow row = some patch ↔ PatchManifest.zero.unmarshal row.manifestJson = .ok patch := by
  unfold decodedRow
  cases PatchManifest.zero.unmarshal row.manifestJson <;> simp [Except.toOption]

/-- What a check reads of the table: the newer active patches of the device's release. -/
theorem mem_newerPatches {current : Int64} {row : PatchRow} :
    row ∈ db.newerPatches query current ↔
      ∃ number, db.patches.lookup (query.key number) = some row ∧ row.active = true ∧ current < number := by
  simp only [Database.newerPatches, List.mem_map, List.mem_insertionSort, List.mem_filter]
  constructor
  · rintro ⟨⟨key, row⟩, ⟨listed, selected⟩, rfl⟩
    obtain ⟨own, active, newer⟩ := of_decide_eq_true selected
    refine ⟨key.patchNumber, ?_, active, newer⟩
    rw [← own]
    exact AList.mem_lookup_iff.mpr listed
  · rintro ⟨number, found, active, newer⟩
    exact ⟨⟨query.key number, row⟩, ⟨AList.mem_lookup_iff.mp found, decide_eq_true ⟨rfl, active, newer⟩⟩, rfl⟩

theorem Tracks.decoded (tracks : Tracks db events) {key : PatchKey} {row : PatchRow}
    (found : db.patches.lookup key = some row) :
    ∃ patch, RowTracks db events key row patch ∧ ∃ active channel rollout,
      row = (patch.activated active channel rollout).row ∧
      Standing (latest key events) active channel rollout ∧
      PatchManifest.zero.unmarshal row.manifestJson = .ok (patch.activated active channel rollout) := by
  obtain ⟨patch, tracked⟩ := tracks.stored key row found
  obtain ⟨active, channel, rollout, same, standing⟩ := tracked.row
  refine ⟨patch, tracked, active, channel, rollout, same, standing, ?_⟩
  rw [same, PatchManifest.unmarshal_row]

/-- A patch that was read has the number of its key. -/
theorem Tracks.patchNumber (tracks : Tracks db events) {key : PatchKey} {row : PatchRow}
    (found : db.patches.lookup key = some row) {patch : PatchManifest} (read : decodedRow row = some patch) :
    patch.patchNumber = key.patchNumber := by
  obtain ⟨stored, tracked, _, _, _, _, _, decoded⟩ := tracks.decoded found
  cases (decodedRow_eq_some.mp read).symm.trans decoded
  exact congrArg PatchKey.patchNumber tracked.own

theorem Tracks.newer_sorted (tracks : Tracks db events) (current : Int64) :
    ((db.newerPatches query current).filterMap decodedRow).Pairwise
      fun one other => other.patchNumber ≤ one.patchNumber := by
  let before : ((_ : PatchKey) × PatchRow) → ((_ : PatchKey) × PatchRow) → Prop :=
    fun left right => right.1.patchNumber ≤ left.1.patchNumber
  have : Std.Total before := ⟨fun left right => Int64.le_total _ _⟩
  have : IsTrans _ before := ⟨fun _ _ _ first second => Int64.le_trans second first⟩
  unfold Database.newerPatches
  rw [List.filterMap_map, List.pairwise_filterMap]
  refine (List.pairwise_insertionSort before _).imp_of_mem ?_
  intro left right first second ordered one read other read'
  have listed := (List.mem_filter.mp ((List.mem_insertionSort before).mp first)).1
  have listed' := (List.mem_filter.mp ((List.mem_insertionSort before).mp second)).1
  rw [tracks.patchNumber (AList.mem_lookup_iff.mpr listed) read,
    tracks.patchNumber (AList.mem_lookup_iff.mpr listed') read']
  exact ordered

/-- The events offer a patch exactly if its row is among those that are read, and matches. -/
theorem Tracks.offered_iff (tracks : Tracks db events) {number : Int64} :
    Offered query events number ↔ ∃ row patch,
      db.patches.lookup (query.key number) = some row ∧ row.active = true ∧
      atoi query.currentPatchNumber < number ∧ decodedRow row = some patch ∧ matchesQuery query patch = true := by
  constructor
  · rintro ⟨newer, uploaded, channel, rollout, created, last, named, inside⟩
    cases found : db.patches.lookup (query.key number) with
    | none => exact absurd created ((tracks.absent _ found).2 uploaded)
    | some row =>
        obtain ⟨patch, tracked, active, channel', rollout', same, standing, decoded⟩ := tracks.decoded found
        rw [last] at standing
        obtain ⟨rfl, rfl, rfl⟩ := standing
        refine ⟨row, _, rfl, by rw [same]; rfl, newer, decodedRow_eq_some.mpr decoded, ?_⟩
        rw [(tracked.created uploaded).mp created] at named
        exact decide_eq_true ⟨named, eligible_iff.mpr inside⟩
  · rintro ⟨row, patch, found, active, newer, read, fits⟩
    obtain ⟨stored, tracked, active', channel, rollout, same, standing, decoded⟩ := tracks.decoded found
    cases (decodedRow_eq_some.mp read).symm.trans decoded
    obtain ⟨named, inside⟩ := of_decide_eq_true fits
    obtain rfl : active' = true := by
      rw [same] at active
      exact active
    exact ⟨newer, stored.channel, channel, rollout, (tracked.created _).mpr rfl,
      latest_of_standing standing, named, eligible_iff.mp inside⟩

/-- Statements that succeed. -/
def Works (env : Environment) : Prop := ∀ statement, env.sql statement = .ok ()

theorem exec_works {env : Environment} (works : Works env) (statement : Statement) (db : Database) :
    exec env statement db = (.ok (), db) := by
  unfold exec
  rw [works]
  rfl

theorem listAppPlatforms_works {env : Environment} (works : Works env) (key : String × String)
    (db : Database) : listAppPlatforms env key db = (.ok (db.appPlatforms key), db) := by
  have read : (get : StoreOp Database) db = (.ok db, db) := rfl
  rw [listAppPlatforms, run_bind, exec_works works]
  dsimp only
  rw [run_bind, read]
  dsimp only
  split
  case isTrue empty =>
    rw [List.isEmpty_iff.mp empty]
    rfl
  case isFalse =>
    rw [run_bind, exec_works works]
    rfl

theorem getAppInOrg_works {env : Environment} (works : Works env) {orgId id org : String}
    (normal : validateOrgID orgId = .ok org) (found : (db.apps.lookup (org, id)).isSome) :
    ∃ app, getAppInOrg env orgId id db = (.ok app, db) := by
  obtain ⟨row, found⟩ := Option.isSome_iff_exists.mp found
  refine ⟨row.toApp org id (db.appPlatforms (org, id)), ?_⟩
  have read : (get : StoreOp Database) db = (.ok db, db) := rfl
  rw [getAppInOrg, run_bind, Action.attempt, normal]
  dsimp only
  rw [run_bind, exec_works works]
  dsimp only
  rw [run_bind, read]
  dsimp only
  rw [run_bind, found]
  change ((listAppPlatforms env (org, id) >>= fun platforms => pure (row.toApp org id platforms)) : StoreOp App)
    db = _
  rw [run_bind, listAppPlatforms_works works]
  rfl

/-- The manifest that a check is answered with. -/
def bestPatch (db : Database) (query : CheckQuery) : Option PatchManifest :=
  ((db.newerPatches query (atoi query.currentPatchNumber)).filterMap decodedRow).find? (matchesQuery query)

theorem bestPatchInOrg_run {env : Environment} (works : Works env) (tracks : Tracks db events)
    (app : AppStored db (query.key 0)) :
    bestPatchInOrg env query (atoi query.currentPatchNumber) db = (.ok (bestPatch db query), db) := by
  obtain ⟨org, normal, stored⟩ := app
  obtain ⟨app, found⟩ := @getAppInOrg_works db _ works _ _ _ normal stored
  have read : (get : StoreOp Database) db = (.ok db, db) := rfl
  have found : getAppInOrg env query.org query.appId db = (.ok app, db) := found
  unfold bestPatchInOrg
  rw [found]
  dsimp only
  rw [run_bind, exec_works works]
  dsimp only
  rw [run_bind, read]
  refine firstEligible_run _ fun row listed => ?_
  obtain ⟨number, stored, _, _⟩ := mem_newerPatches.mp listed
  obtain ⟨_, _, _, _, _, _, _, decoded⟩ := tracks.decoded stored
  exact ⟨_, decoded⟩

/-- The greatest number that the events offer. -/
theorem bestPatch_greatest (tracks : Tracks db events) {patch : PatchManifest}
    (best : bestPatch db query = some patch) :
    Offered query events patch.patchNumber ∧
      ∀ number, Offered query events number → number ≤ patch.patchNumber := by
  have fits : matchesQuery query patch = true := List.find?_some best
  obtain ⟨row, listed, read⟩ := List.mem_filterMap.mp (List.mem_of_find?_eq_some best)
  obtain ⟨number, found, active, newer⟩ := mem_newerPatches.mp listed
  have own : patch.patchNumber = number := tracks.patchNumber found read
  constructor
  · rw [own]
    exact tracks.offered_iff.mpr ⟨row, patch, found, active, newer, read, fits⟩
  · intro other offered
    obtain ⟨row', patch', found', active', newer', read', fits'⟩ := tracks.offered_iff.mp offered
    have member : patch' ∈ (db.newerPatches query (atoi query.currentPatchNumber)).filterMap decodedRow :=
      List.mem_filterMap.mpr ⟨row', mem_newerPatches.mpr ⟨other, found', active', newer'⟩, read'⟩
    have own' : patch'.patchNumber = other := tracks.patchNumber found' read'
    rw [← own']
    rcases find?_before (tracks.newer_sorted _) best patch' member fits' with rfl | before
    · exact Int64.le_refl _
    · exact before

theorem bestPatch_of_offered (tracks : Tracks db events) {number : Int64}
    (offered : Offered query events number) : ∃ patch, bestPatch db query = some patch := by
  obtain ⟨row, patch, found, active, newer, read, fits⟩ := tracks.offered_iff.mp offered
  have member : patch ∈ (db.newerPatches query (atoi query.currentPatchNumber)).filterMap decodedRow :=
    List.mem_filterMap.mpr ⟨row, mem_newerPatches.mpr ⟨number, found, active, newer⟩, read⟩
  exact Option.isSome_iff_exists.mp (List.find?_isSome.mpr ⟨patch, member, fits⟩)

end Selection

/-!
## Checks
-/

section Checks

variable {env : Environment} {signedURL : String → Except String String} {host : String}
  {query : CheckQuery} {db : Database} {events : List PatchEvent}

/-- A patch is offered only for an app that is there. -/
theorem checkPatch_app {check : PatchCheck}
    (answered : (checkPatch env signedURL host query db).1 = .ok (some check)) :
    AppStored db (query.key 0) := by
  have found := getAppInOrg_found env query.org query.appId db
  unfold checkPatch at answered
  rw [run_bind] at answered
  unfold answering bestPatchInOrg at answered
  rcases ended : getAppInOrg env query.org query.appId db with ⟨error | app, after⟩
  · rw [ended] at answered
    dsimp only at answered
    by_cases missing : notFound error
    · rw [if_pos missing] at answered
      cases answered
    · rw [if_neg missing] at answered
      cases answered
  · exact found.of_ok ended

theorem checkPatch_run (works : Works env) (tracks : Tracks db events) (app : AppStored db (query.key 0))
    (signs : ∀ url, (db.objects.lookup url).isSome → ∃ signed, signedURL url = .ok signed) :
    ∃ url, (checkPatch env signedURL host query db).1 = .ok ((bestPatch db query).map fun patch =>
      { patchNumber := patch.patchNumber
        manifestUrl := manifestURL query.org patch
        payloadUrl := absoluteURL host url
        manifestHash := env.sha256Hex (wireBytes (patchManifestBytes patch))
        payloadHash := patch.payload.hash }) := by
  unfold checkPatch
  rw [run_bind, answering, bestPatchInOrg_run works tracks app]
  cases best : bestPatch db query with
  | none => exact ⟨"", rfl⟩
  | some patch =>
      obtain ⟨row, listed, read⟩ := List.mem_filterMap.mp (List.mem_of_find?_eq_some best)
      obtain ⟨number, found, _, _⟩ := mem_newerPatches.mp listed
      obtain ⟨stored, tracked, _, _, _, _, _, decoded⟩ := tracks.decoded found
      cases (decodedRow_eq_some.mp read).symm.trans decoded
      obtain ⟨url, signed⟩ := signs _ tracked.object
      refine ⟨url, ?_⟩
      dsimp only
      rw [PatchManifest.activated_payload, run_bind, Action.attempt, signed]
      rfl

end Checks

/-- A working server offers a device a patch exactly if the accepted requests do, and
the greatest that they offer. -/
theorem check_answers_history (start : Database) (empty : start.patches = ∅) (history : List PatchCall)
    (env : Environment) (works : Works env) (signedURL : String → Except String String)
    (signs : ∀ url, ((runFrom servePatch start history).objects.lookup url).isSome →
      ∃ signed, signedURL url = .ok signed)
    (host : String) (query : CheckQuery) :
    let db := runFrom servePatch start history
    let events := acceptedEvents start history
    ((∃ check, (checkPatch env signedURL host query db).1 = .ok (some check)) ↔
        ∃ number, Offered query events number) ∧
      ∀ check, (checkPatch env signedURL host query db).1 = .ok (some check) →
        Offered query events check.patchNumber ∧
          ∀ number, Offered query events number → number ≤ check.patchNumber := by
  intro db events
  have tracks : Tracks db events := run_tracks history (tracks_empty empty)
  have greatest : ∀ check, (checkPatch env signedURL host query db).1 = .ok (some check) →
      Offered query events check.patchNumber ∧
        ∀ number, Offered query events number → number ≤ check.patchNumber := by
    intro check answered
    obtain ⟨url, ended⟩ := @checkPatch_run env signedURL host query db events works tracks
      (checkPatch_app answered) signs
    rw [answered] at ended
    obtain ⟨patch, best, rfl⟩ := Option.map_eq_some_iff.mp (Except.ok.inj ended).symm
    exact bestPatch_greatest tracks best
  refine ⟨⟨?_, ?_⟩, greatest⟩
  · rintro ⟨check, answered⟩
    exact ⟨_, (greatest check answered).1⟩
  · rintro ⟨number, offered⟩
    obtain ⟨patch, best⟩ := bestPatch_of_offered tracks offered
    obtain ⟨row, _, found, _⟩ := tracks.offered_iff.mp offered
    obtain ⟨_, tracked, _⟩ := tracks.decoded found
    have app : AppStored db (query.key 0) := tracked.app
    obtain ⟨url, ended⟩ := @checkPatch_run env signedURL host query db events works tracks app signs
    rw [best] at ended
    exact ⟨_, ended⟩

/-!
## A promoted patch
-/

def abcCreation : PatchCall where
  env := abcEnv
  request := .create (some defaultOrgID) (.ok (uploadBody abcUpload "YWJj"))

def abcCheck : CheckQuery where
  orgId := ""
  appId := "app"
  releaseVersion := "1"
  platform := "ios"
  arch := "arm64"
  channel := "stable"
  clientId := "client"
  currentPatchNumber := ""

/-- After its promotion the patch is the one that a new device is offered. -/
theorem abc_offered_after_promotion :
    ∃ check, (checkPatch abcEnv (fun key => .ok ("/v1/patches/payload?key=" ++ key)) "https://host" abcCheck
      (runFrom servePatch abcDatabase [abcCreation, abcPromotion defaultOrgID])).1 = .ok (some check) ∧
      check.patchNumber = 1 := by
  obtain ⟨offers, greatest⟩ := check_answers_history abcDatabase rfl [abcCreation, abcPromotion defaultOrgID]
    abcEnv (fun _ => rfl) (fun key => .ok ("/v1/patches/payload?key=" ++ key)) (fun _ _ => ⟨_, rfl⟩)
    "https://host" abcCheck
  have events : acceptedEvents abcDatabase [abcCreation, abcPromotion defaultOrgID] =
      [.created (abcCheck.key 1) "stable", .promoted (abcCheck.key 1) "stable" 100] := by decide
  have offered : Offered abcCheck (acceptedEvents abcDatabase [abcCreation, abcPromotion defaultOrgID]) 1 := by
    rw [events]
    exact ⟨by decide, "stable", "stable", 100, List.mem_cons_self, by decide, by decide,
      by decide⟩
  obtain ⟨check, answered⟩ := offers.mpr ⟨1, offered⟩
  obtain ⟨own, most⟩ := greatest check answered
  refine ⟨check, answered, ?_⟩
  obtain ⟨_, _, _, _, created, _⟩ := own
  rw [events] at created
  rcases List.mem_cons.mp created with first | second
  · exact congrArg PatchKey.patchNumber (PatchEvent.created.inj first).1
  · cases List.mem_singleton.mp second

end CodePush.Server
