import CodePush.Foundation.Serialization
import CodePush.Server.Immutability
import CodePush.Server.Isolation
import CodePush.Server.UploadSteps

/-!
# Promotions and rollbacks under concurrent requests

A promotion or a rollback reads a patch and writes it back whole, together with what it
read. The channel that a rollback carries over belongs to an inactive patch, which no check
reads and every promotion replaces, so that the requests end as if they had been made one
after the other, in the order of their writes.
-/

set_option autoImplicit false

namespace CodePush.Server

open CodePush.Core CodePush.Foundation CodePush.Foundation.Action

/-!
## Requests
-/

def getPatchInOrgSteps (env : Environment) (key : PatchKey) : StoreSteps PatchManifest := do
  let _ ← getAppInOrgSteps env key.orgId key.appId
  let found ← statement env .selectPatch .read fun db => firstRow (db.patches.lookup key)
  Steps.attempt (match PatchManifest.zero.unmarshal found.manifestJson with
    | .ok patch => .ok patch
    | .error text => .error (.message text))

def changePatchSteps (env : Environment) (orgId : Option String)
    (body : Except String PromotePatchRequest)
    (change : PromotePatchRequest → PatchManifest → PatchManifest) : HandlerSteps Reply := do
  let request ← parsedBodySteps body
  let orgId := currentOrgID orgId
  let patch ← Steps.mapError patchNotFound (getPatchInOrgSteps env (request.keyIn orgId))
  Steps.mapError internalError (putPatchInOrgSteps env orgId (change request patch))
  pure .ok

inductive Activation where
  | promote
  | rollback
  deriving Repr, DecidableEq

/-- The fields that `promotePatch` and `rollbackPatch` change. -/
def Activation.change : Activation → PromotePatchRequest → PatchManifest → PatchManifest
  | .promote, request, patch =>
      { patch with
        active := true
        activeChannel := request.channel
        activeRollout := request.rolloutPercentage }
  | .rollback, _, patch => { patch with active := false, activeRollout := 0 }

structure ActivationCall where
  env : Environment
  orgId : Option String
  body : Except String PromotePatchRequest
  activation : Activation

def ActivationCall.steps (call : ActivationCall) : HandlerSteps Reply :=
  changePatchSteps call.env call.orgId call.body call.activation.change

def serveActivation (call : ActivationCall) (db : Database) : Except HttpError Reply × Database :=
  match call.activation with
  | .promote => promotePatch call.env call.orgId call.body db
  | .rollback => rollbackPatch call.env call.orgId call.body db

/-- The requests that are under way, and the database. -/
abbrev Activations := List (Process Operation Database (Except HttpError Reply)) × Database

def activations (calls : List ActivationCall) (db : Database) : Activations :=
  (calls.map (·.steps), db)

/-!
## Alone
-/

section Alone

variable {env : Environment}

theorem getPatchInOrgSteps_run (key : PatchKey) :
    Steps.run Operation.effect (getPatchInOrgSteps env key) = getPatchInOrg env key := by
  unfold getPatchInOrgSteps getPatchInOrg
  rw [Steps.run_bind, getAppInOrgSteps_run]
  refine congrArg (Bind.bind _) (funext fun _ => funext fun db => ?_)
  rw [Steps.run_bind, Action.run_bind, Action.run_bind, run_statement]
  rcases exec env .selectPatch db with ⟨error | _, after⟩
  · rfl
  · show _ = (row (after.patches.lookup key) >>= _ : StoreOp PatchManifest) after
    dsimp only [Operation.effect]
    cases after.patches.lookup key with
    | none => rfl
    | some found => rfl

theorem changePatchSteps_run (orgId : Option String) (body : Except String PromotePatchRequest)
    (change : PromotePatchRequest → PatchManifest → PatchManifest) :
    Steps.run Operation.effect (changePatchSteps env orgId body change) =
      changePatch env orgId body change := by
  unfold changePatchSteps changePatch
  rw [Steps.run_bind]
  refine congrArg (Bind.bind _) (funext fun request => ?_)
  dsimp only
  rw [Steps.run_bind, answering_run patchNotFound (getPatchInOrgSteps_run _)]
  refine congrArg (Bind.bind _) (funext fun patch => ?_)
  rw [Steps.run_bind, answering_run internalError (putPatchInOrgSteps_run _ _)]
  rfl

/-- A request without others is the handler that its route runs. -/
theorem alone_steps : alone Operation.effect ActivationCall.steps = serveActivation := by
  funext call db
  obtain ⟨env, orgId, body, activation⟩ := call
  have runs := congrFun (@changePatchSteps_run env orgId body activation.change) db
  cases activation with
  | promote => exact runs
  | rollback => exact runs

end Alone

/-!
## What a check sees
-/

/-- A check reads no channel and no rollout of an inactive patch. -/
def PatchManifest.shown (patch : PatchManifest) : PatchManifest :=
  if patch.active then patch else patch.activated false "" 0

def Database.shown (db : Database) (key : PatchKey) : Option PatchManifest :=
  ((db.patches.lookup key).bind decodedRow).map PatchManifest.shown

/-- The patch's row, under its own key. -/
structure StoredAs (key : PatchKey) (row : PatchRow) (patch : PatchManifest) : Prop where
  row : row = patch.row
  own : patch.keyIn key.orgId = key

/-- Every row is that of a patch with its key. -/
def Database.RowsOwn (db : Database) : Prop :=
  ∀ key row, db.patches.lookup key = some row → ∃ patch, StoredAs key row patch

theorem decodedRow_row (patch : PatchManifest) : decodedRow patch.row = some patch :=
  decodedRow_eq_some.mpr patch.unmarshal_row

theorem row_injective {one other : PatchManifest} (same : one.row = other.row) : one = other := by
  have decoded := decodedRow_row one
  rw [same, decodedRow_row] at decoded
  exact (Option.some.inj decoded).symm

theorem Activation.change_activated (activation : Activation) (request : PromotePatchRequest)
    (patch : PatchManifest) : ∃ active channel rollout,
      activation.change request patch = patch.activated active channel rollout := by
  cases activation with
  | promote => exact ⟨true, request.channel, request.rolloutPercentage, rfl⟩
  | rollback => exact ⟨false, patch.activeChannel, 0, rfl⟩

/-- What a request makes of a patch does not depend on the standing that it read. -/
theorem Activation.change_shown (activation : Activation) (request : PromotePatchRequest)
    (patch : PatchManifest) (active : Bool) (channel : String) (rollout : Int64) :
    (activation.change request (patch.activated active channel rollout)).shown =
      (activation.change request patch).shown := by
  cases activation with
  | promote => rfl
  | rollback => rfl

theorem PatchManifest.shown_activated (patch : PatchManifest) :
    ∃ active channel rollout, patch.shown = patch.activated active channel rollout := by
  unfold PatchManifest.shown
  split
  · exact ⟨patch.active, patch.activeChannel, patch.activeRollout, rfl⟩
  · exact ⟨false, "", 0, rfl⟩

/-!
## Steps
-/

/-- The row stays, or is that of the same patch in another standing. -/
def RowKept (key : PatchKey) (before after : Option PatchRow) : Prop :=
  after = before ∨ ∃ (patch : PatchManifest) (active : Bool) (channel : String) (rollout : Int64),
    patch.keyIn key.orgId = key ∧ before = some patch.row ∧
      after = some (patch.activated active channel rollout).row

/-- Nothing but standings changed. -/
structure Reactivated (before after : Database) : Prop where
  others : ∃ patches, after = { before with patches }
  rows : ∀ key, RowKept key (before.patches.lookup key) (after.patches.lookup key)

theorem RowKept.trans {key : PatchKey} {one two three : Option PatchRow} (first : RowKept key one two)
    (second : RowKept key two three) : RowKept key one three := by
  rcases second with rfl | ⟨patch', active', channel', rollout', _, before, after⟩
  · exact first
  · rcases first with rfl | ⟨patch, active, channel, rollout, own, before', after'⟩
    · exact .inr ⟨patch', active', channel', rollout', ‹_›, before, after⟩
    · refine .inr ⟨patch, active', channel', rollout', own, before', ?_⟩
      rw [before] at after'
      rw [after, row_injective (Option.some.inj after'), PatchManifest.activated_activated]

theorem Reactivated.refl (db : Database) : Reactivated db db := ⟨⟨db.patches, rfl⟩, fun _ => .inl rfl⟩

theorem Reactivated.trans {one two three : Database} (first : Reactivated one two)
    (second : Reactivated two three) : Reactivated one three := by
  refine ⟨?_, fun key => (first.rows key).trans (second.rows key)⟩
  obtain ⟨patches, rfl⟩ := first.others
  obtain ⟨patches', rfl⟩ := second.others
  exact ⟨patches', rfl⟩

theorem Reactivated.rowsOwn {before after : Database} (changed : Reactivated before after)
    (own : before.RowsOwn) : after.RowsOwn := by
  intro key row found
  rcases changed.rows key with same | ⟨patch, active, channel, rollout, keyed, _, stored⟩
  · exact own key row (same ▸ found)
  · rw [stored] at found
    exact ⟨_, (Option.some.inj found).symm, keyed⟩

section Reads

variable {env : Environment}

/-- Only the patches may differ. -/
def SameApps (one other : Database) : Prop := ∃ patches, other = { one with patches }

theorem statement_steady {α : Type} {request : Statement} {answer : Database → Except StoreError α}
    (alike : ∀ one other, SameApps one other → answer one = answer other) :
    Process.Steady Operation.effect SameApps (statement env request .read answer) := by
  unfold statement
  cases env.sql request with
  | error text => trivial
  | ok => exact Steps.steady_atomic (fun _ => rfl) alike

theorem platformAbisSteps_steady (key : String × String) (platforms : List AppPlatform) :
    Process.Steady Operation.effect SameApps (platformAbisSteps env key platforms) := by
  induction platforms with
  | nil => trivial
  | cons platform platforms ih =>
      apply Steps.steady_bind
      · apply statement_steady
        rintro one _ ⟨patches, rfl⟩
        rfl
      · intro abi
        exact Steps.steady_bind ih fun _ => trivial

theorem getAppInOrgSteps_steady (orgId id : String) :
    Process.Steady Operation.effect SameApps (getAppInOrgSteps env orgId id) := by
  apply Steps.steady_bind
  · trivial
  · intro orgId
    apply Steps.steady_bind
    · apply statement_steady
      rintro one _ ⟨patches, rfl⟩
      rfl
    · intro app
      apply Steps.steady_bind
      · apply Steps.steady_bind
        · apply statement_steady
          rintro one _ ⟨patches, rfl⟩
          rfl
        · exact platformAbisSteps_steady _
      · exact fun _ => trivial

end Reads

section Writes

variable {env : Environment} {db state : Database}

/-- The request finds its patch. -/
def Finds (env : Environment) (key : PatchKey) (db : Database) : Prop :=
  (∃ app, (getAppInOrg env key.orgId key.appId db).1 = .ok app) ∧
    env.sql .selectPatch = .ok () ∧ (db.patches.lookup key).isSome

/-- What a request makes of what checks see. -/
def showChange (key : PatchKey) (change : PatchManifest → PatchManifest)
    (shown : PatchKey → Option PatchManifest) : PatchKey → Option PatchManifest :=
  Function.update shown key ((shown key).map fun patch => (change patch).shown)

theorem getAppInOrgSteps_commits {wrote : Bool}
    {write : (PatchKey → Option PatchManifest) → PatchKey → Option PatchManifest}
    (orgId id : String) (others : Reactivated db state) :
    Process.Commits Operation.effect Reactivated Database.shown write
      (fun wrote' result state => wrote' = wrote ∧ result = (getAppInOrg env orgId id db).1 ∧
        Reactivated db state) wrote (getAppInOrgSteps env orgId id) state := by
  have alone : (Process.run Operation.effect (getAppInOrgSteps env orgId id) db).1 =
      (getAppInOrg env orgId id db).1 := by
    rw [← getAppInOrgSteps_run]
    rfl
  rw [← alone]
  exact (getAppInOrgSteps_steady orgId id).commits Reactivated.refl (fun _ _ _ => .trans)
    (fun _ _ related => related.others) others

/-- The patch of the key, in whatever standing it was read. -/
def ReadOf (db : Database) (key : PatchKey) (patch : PatchManifest) : Prop :=
  ∃ (origin : PatchManifest) (active : Bool) (channel : String) (rollout : Int64),
    origin.keyIn key.orgId = key ∧ db.patches.lookup key = some origin.row ∧
      patch = origin.activated active channel rollout

def Looked {ε : Type} (env : Environment) (key : PatchKey) (db : Database) : Except ε PatchManifest → Prop
  | .ok patch => Finds env key db ∧ ReadOf db key patch
  | .error _ => ¬ Finds env key db

theorem Reactivated.readOf (own : db.RowsOwn) (changed : Reactivated db state)
    {key : PatchKey} {row : PatchRow} (found : state.patches.lookup key = some row) :
    ∃ patch, row = patch.row ∧ ReadOf db key patch := by
  rcases changed.rows key with same | ⟨patch, active, channel, rollout, keyed, before, after⟩
  · rw [found] at same
    obtain ⟨patch, stored⟩ := own key row same.symm
    refine ⟨patch, stored.row, patch, patch.active, patch.activeChannel, patch.activeRollout, stored.own, ?_,
      rfl⟩
    rw [← same, stored.row]
  · rw [found] at after
    exact ⟨_, Option.some.inj after, patch, active, channel, rollout, keyed, before, rfl⟩

theorem Reactivated.lookup_none (changed : Reactivated db state) {key : PatchKey}
    (absent : state.patches.lookup key = none) : db.patches.lookup key = none := by
  rcases changed.rows key with same | ⟨_, _, _, _, _, _, after⟩
  · rw [← same, absent]
  · cases absent.symm.trans after

def Selected (env : Environment) (key : PatchKey) (db : Database) : Except StoreError PatchRow → Prop
  | .ok row => env.sql .selectPatch = .ok () ∧ ∃ patch : PatchManifest, row = patch.row ∧ ReadOf db key patch
  | .error _ => ¬ (env.sql .selectPatch = .ok () ∧ (db.patches.lookup key).isSome)

theorem selectPatch_commits {wrote : Bool}
    {write : (PatchKey → Option PatchManifest) → PatchKey → Option PatchManifest}
    (own : db.RowsOwn) (key : PatchKey) (within : Reactivated db state) :
    Process.Commits Operation.effect Reactivated Database.shown write
      (fun wrote' result state => wrote' = wrote ∧ Reactivated db state ∧ Selected env key db result)
      wrote (statement env .selectPatch .read fun db => firstRow (db.patches.lookup key)) state := by
  unfold statement
  cases selects : env.sql .selectPatch with
  | error text =>
      apply Steps.commits_throw
      refine ⟨rfl, within, ?_⟩
      rintro ⟨runs, _⟩
      cases selects.symm.trans runs
  | ok =>
      apply Steps.commits_read Reactivated.refl (fun _ => rfl)
      intro state' others
      have reached : Reactivated db state' := within.trans others
      refine ⟨rfl, reached, ?_⟩
      cases looked : state'.patches.lookup key with
      | none =>
          rintro ⟨_, present⟩
          rw [reached.lookup_none looked] at present
          cases present
      | some row => exact ⟨selects, reached.readOf own looked⟩

/-- Whether it is found does not depend on the others, and it is found in some standing. -/
theorem getPatchInOrgSteps_commits {wrote : Bool}
    {write : (PatchKey → Option PatchManifest) → PatchKey → Option PatchManifest}
    (own : db.RowsOwn) (key : PatchKey) :
    Process.Commits Operation.effect Reactivated Database.shown write
      (fun wrote' result state => wrote' = wrote ∧ Reactivated db state ∧ Looked env key db result)
      wrote (getPatchInOrgSteps env key) db := by
  apply Steps.commits_bind (getAppInOrgSteps_commits key.orgId key.appId (.refl db))
  · rintro wrote app state ⟨rfl, found, within⟩
    apply Steps.commits_bind (selectPatch_commits own key within)
    · rintro wrote row state ⟨rfl, within, selects, patch, rfl, read⟩
      have present : (db.patches.lookup key).isSome := by
        obtain ⟨_, _, _, _, _, stored, _⟩ := read
        rw [stored]
        rfl
      rw [patch.unmarshal_row]
      exact Steps.commits_attempt ⟨rfl, within, ⟨⟨app, found.symm⟩, selects, present⟩, read⟩
    · rintro wrote error state ⟨rfl, within, missing⟩
      exact ⟨rfl, within, fun finds => missing finds.2⟩
  · rintro wrote error state ⟨rfl, failed, within⟩
    refine ⟨rfl, within, ?_⟩
    rintro ⟨⟨app, found⟩, _⟩
    cases failed.trans found

theorem shown_of_row {key : PatchKey} {patch : PatchManifest}
    (stored : db.patches.lookup key = some patch.row) : db.shown key = some patch.shown := by
  rw [Database.shown, stored, Option.bind_some, decodedRow_row]
  rfl

/-- The patch that was read is stored in some standing still. -/
theorem Reactivated.restored (changed : Reactivated db state) {key : PatchKey}
    {patch : PatchManifest} (read : ReadOf db key patch) :
    patch.keyIn key.orgId = key ∧ ∃ active channel rollout,
      state.patches.lookup key = some (patch.activated active channel rollout).row := by
  obtain ⟨origin, active, channel, rollout, keyed, stored, rfl⟩ := read
  refine ⟨keyed, ?_⟩
  rcases changed.rows key with same | ⟨other, active', channel', rollout', _, before, after⟩
  · exact ⟨origin.active, origin.activeChannel, origin.activeRollout, same.trans stored⟩
  · rw [stored] at before
    obtain rfl : origin = other := row_injective (Option.some.inj before)
    exact ⟨active', channel', rollout', after⟩

/-- The write puts what the request makes of the patch in its place. -/
theorem insertPatch_shows {key : PatchKey} (activation : Activation) (request : PromotePatchRequest)
    {patch : PatchManifest} (read : ReadOf db key patch) (within : Reactivated db state) :
    let changed := activation.change request patch
    Reactivated state ((Operation.insertPatch (changed.keyIn key.orgId) changed.row).effect state) ∧
      ((Operation.insertPatch (changed.keyIn key.orgId) changed.row).effect state).shown =
        showChange key (activation.change request) state.shown := by
  intro changed
  obtain ⟨keyed, active, channel, rollout, stored⟩ := within.restored read
  obtain ⟨active', channel', rollout', changes⟩ := activation.change_activated request patch
  have own : changed.keyIn key.orgId = key := by
    rw [show changed = _ from changes, PatchManifest.activated_keyIn, keyed]
  rw [own]
  constructor
  · refine ⟨⟨_, rfl⟩, ?_⟩
    intro other
    by_cases here : other = key
    · subst here
      refine .inr ⟨patch.activated active channel rollout, active', channel', rollout', keyed, stored, ?_⟩
      rw [PatchManifest.activated_activated, ← changes]
      exact AList.lookup_insert _
    · exact .inl (AList.lookup_insert_ne here)
  · funext other
    unfold showChange
    by_cases here : other = key
    · subst here
      obtain ⟨active'', channel'', rollout'', shows⟩ :=
        (patch.activated active channel rollout).shown_activated
      rw [Function.update_self, shown_of_row stored, Option.map_some, shows,
        PatchManifest.activated_activated, activation.change_shown]
      exact shown_of_row (AList.lookup_insert _)
    · rw [Function.update_of_ne here]
      unfold Database.shown
      rw [show ((Operation.insertPatch key changed.row).effect state).patches.lookup other =
        state.patches.lookup other from AList.lookup_insert_ne here]

/-- The row of the patch can be written once it is read. -/
def Lists (env : Environment) (key : PatchKey) (db : Database) : Prop :=
  (∃ app, (getAppInOrg env.again key.orgId key.appId db).1 = .ok app) ∧ env.sql .insertPatch = .ok ()

theorem putPatchInOrgSteps_commits {key : PatchKey} {activation : Activation}
    {request : PromotePatchRequest} {patch : PatchManifest} {wrote : Bool}
    (read : ReadOf db key patch) (within : Reactivated db state) (ahead : wrote = false ↔ Lists env key db) :
    Process.Commits Operation.effect Reactivated Database.shown (showChange key (activation.change request))
      (fun wrote _ _ => wrote = true)
      wrote (putPatchInOrgSteps env key.orgId (activation.change request patch)) state := by
  have app : (activation.change request patch).appId = key.appId := by
    obtain ⟨_, _, _, changes⟩ := activation.change_activated request patch
    rw [changes]
    exact congrArg PatchKey.appId (within.restored read).1
  have behind : ¬ Lists env key db → wrote = true := by
    intro fails
    exact Bool.eq_true_of_not_eq_false fun ahead' => fails (ahead.mp ahead')
  unfold putPatchInOrgSteps
  rw [app]
  apply Steps.commits_bind (getAppInOrgSteps_commits key.orgId key.appId within)
  · rintro wrote' app state' ⟨same, found, reached⟩
    unfold statement
    cases inserts : env.sql .insertPatch with
    | error text =>
        apply Steps.commits_throw
        refine same.trans (behind ?_)
        rintro ⟨_, inserted⟩
        cases inserts.symm.trans inserted
    | ok =>
        obtain rfl : wrote' = false := same.trans (ahead.mpr ⟨⟨app, found.symm⟩, inserts⟩)
        apply Steps.commits_write
        intro later others
        obtain ⟨kept, shows⟩ := insertPatch_shows activation request read (reached.trans others)
        exact ⟨kept, shows, rfl⟩
  · rintro wrote' error _ ⟨same, failed, _⟩
    refine same.trans (behind ?_)
    rintro ⟨⟨app, found⟩, _⟩
    cases failed.trans found

theorem lookedSteps_commits (own : db.RowsOwn) (key : PatchKey) (wrote : Bool)
    (write : (PatchKey → Option PatchManifest) → PatchKey → Option PatchManifest) :
    Process.Commits Operation.effect Reactivated Database.shown write
      (fun wrote' result state => wrote' = wrote ∧ Reactivated db state ∧ Looked env key db result)
      wrote (Steps.mapError patchNotFound (getPatchInOrgSteps env key)) db := by
  apply Steps.commits_mapError
  refine (getPatchInOrgSteps_commits own key).mono ?_
  rintro wrote' result state ⟨same, within, looked⟩
  refine ⟨same, within, ?_⟩
  cases result with
  | ok patch => exact looked
  | error error => exact looked

/-- A request that is well formed writes at most once, and whether it does is settled when it
starts. -/
theorem requestSteps_commits (own : db.RowsOwn) (key : PatchKey) (activation : Activation)
    (request : PromotePatchRequest) :
    ∃ wrote, Process.WritesOnce Operation.effect Reactivated Database.shown
      (showChange key (activation.change request)) wrote
      (Steps.mapError patchNotFound (getPatchInOrgSteps env key) >>= fun patch =>
        Steps.mapError internalError
          (putPatchInOrgSteps env key.orgId (activation.change request patch)) >>= fun _ =>
        pure .ok : HandlerSteps Reply) db := by
  by_cases finds : Finds env key db
  · obtain ⟨wrote, ahead⟩ : ∃ wrote, wrote = false ↔ Lists env key db := by
      by_cases lists : Lists env key db
      · exact ⟨false, iff_of_true rfl lists⟩
      · exact ⟨true, iff_of_false Bool.noConfusion lists⟩
    refine ⟨wrote, ?_⟩
    apply Steps.commits_bind (lookedSteps_commits own key _ _)
    · rintro wrote' patch state ⟨same, within, _, read⟩
      have ahead' : wrote' = false ↔ Lists env key db := by rw [same, ahead]
      have put : Process.Commits Operation.effect Reactivated Database.shown
          (showChange key (activation.change request)) (fun wrote (_ : Except HttpError Unit) _ => wrote = true)
          wrote' (Steps.mapError internalError
            (putPatchInOrgSteps env key.orgId (activation.change request patch))) state :=
        Steps.commits_mapError (putPatchInOrgSteps_commits read within ahead')
      exact Steps.commits_bind put (fun _ _ _ behind => Steps.commits_pure behind) (fun _ _ _ behind => behind)
    · rintro _ error state ⟨_, _, missing⟩
      exact absurd finds missing
  · refine ⟨true, ?_⟩
    apply Steps.commits_bind (lookedSteps_commits own key _ _)
    · rintro _ patch state ⟨_, _, finds', _⟩
      exact absurd finds' finds
    · rintro _ error state ⟨same, _⟩
      exact same

theorem changePatchSteps_commits (env : Environment) (orgId : Option String)
    (body : Except String PromotePatchRequest) (activation : Activation) (own : db.RowsOwn) :
    ∃ write wrote, Process.WritesOnce Operation.effect Reactivated Database.shown write wrote
      (changePatchSteps env orgId body activation.change) db := by
  cases body with
  | error message => exact ⟨id, true, Steps.commits_attempt rfl⟩
  | ok request =>
      obtain ⟨wrote, once⟩ := @requestSteps_commits env db own (request.keyIn (currentOrgID orgId))
        activation request
      refine ⟨showChange (request.keyIn (currentOrgID orgId)) (activation.change request), wrote, ?_⟩
      rw [changePatchSteps, parsedBodySteps, Steps.attempt_ok_bind]
      exact once

theorem ActivationCall.steps_commits (call : ActivationCall) (own : db.RowsOwn) :
    ∃ write wrote, Process.WritesOnce Operation.effect Reactivated Database.shown write wrote
      call.steps db :=
  changePatchSteps_commits call.env call.orgId call.body call.activation own

theorem Reactivated.sameApps {after : Database} (one : Reactivated db state)
    (other : Reactivated db after) : SameApps state after := by
  obtain ⟨patches, rfl⟩ := one.others
  obtain ⟨patches', rfl⟩ := other.others
  exact ⟨patches', rfl⟩

end Writes

/-!
## Checks
-/

section Reached

variable {sha256 : Bytes → String} {before after : Database}

theorem PatchEffect.rowsOwn (effect : PatchEffect sha256 before after) (own : before.RowsOwn) :
    after.RowsOwn := by
  intro key row found
  cases effect with
  | untouched patches objects => exact own key row (patches ▸ found)
  | object url payload absent patches objects => exact own key row (patches ▸ found)
  | upload orgId patch payload absent hash size patches objects =>
      rw [patches] at found
      by_cases here : key = patch.keyIn orgId
      · subst here
        rw [AList.lookup_insert] at found
        exact ⟨_, (Option.some.inj found).symm, rfl⟩
      · rw [AList.lookup_insert_ne here] at found
        exact own key row found
  | activation stored old read active channel rollout was decoded patches objects =>
      rw [patches] at found
      obtain ⟨patch, rfl, keyed⟩ := own stored old was
      obtain rfl : patch = read := Except.ok.inj (patch.unmarshal_row.symm.trans decoded)
      rw [keyed] at found
      by_cases here : key = stored
      · subst here
        rw [AList.lookup_insert] at found
        exact ⟨_, (Option.some.inj found).symm, keyed⟩
      · rw [AList.lookup_insert_ne here] at found
        exact own key row found

/-- Every row that requests lead to is that of a patch with its key. -/
theorem run_rowsOwn (now : Nat) (calls : List RouteCall) :
    (runFrom serveRoute (Database.migrated now) calls).RowsOwn := by
  refine (guarded_true serveRoute (Database.migrated now) calls).invariant Database.RowsOwn ?_ ?_
  · intro db call own _
    rcases serveRoute_effect call db with ⟨effect, _⟩ | ⟨org, id, _, removed⟩
    · exact effect.rowsOwn own
    · rw [removed]
      intro key row found
      rw [lookup_withoutApp] at found
      split at found
      · cases found
      · exact own key row found
  · intro key row found
    cases found

end Reached

section Seen

variable {env : Environment} {left right : Database}

/-- What checks see of two databases is the same. -/
structure SeenAlike (left right : Database) : Prop where
  apps : SameApps left right
  shown : left.shown = right.shown
  leftOwn : left.RowsOwn
  rightOwn : right.RowsOwn

theorem PatchManifest.shown_active (patch : PatchManifest) : patch.shown.active = patch.active := by
  unfold PatchManifest.shown
  cases active : patch.active with
  | true => simpa using active
  | false => rfl

theorem PatchManifest.shown_of_active {patch : PatchManifest} (active : patch.active = true) :
    patch.shown = patch := by
  unfold PatchManifest.shown
  rw [if_pos active]

/-- An active row is seen whole. -/
theorem lookup_of_active (leftOwn : left.RowsOwn) (rightOwn : right.RowsOwn)
    (shown : left.shown = right.shown) {key : PatchKey} {row : PatchRow} (active : row.active = true)
    (found : left.patches.lookup key = some row) : right.patches.lookup key = some row := by
  obtain ⟨patch, rfl, _⟩ := leftOwn key row found
  have seen : right.shown key = some patch := by
    rw [← shown, shown_of_row found, PatchManifest.shown_of_active active]
  cases there : right.patches.lookup key with
  | none =>
      rw [Database.shown, there] at seen
      cases seen
  | some row' =>
      obtain ⟨patch', rfl, _⟩ := rightOwn key row' there
      rw [shown_of_row there] at seen
      have same := Option.some.inj seen
      have active' : patch'.active = true := by
        rw [← patch'.shown_active, same]
        exact active
      rw [← same, PatchManifest.shown_of_active active']

theorem SeenAlike.newerPatches (alike : SeenAlike left right) (query : CheckQuery) (current : Int64) :
    left.newerPatches query current = right.newerPatches query current := by
  unfold Database.newerPatches
  refine congrArg (List.map _) (insertionSort_eq_of_perm ?_ ?_ ?_ ?_)
  · intro one other
    exact Int64.le_total _ _
  · intro one other third first second
    exact Int64.le_trans second first
  · apply filter_entries_perm
    intro key row selected
    obtain ⟨_, active, _⟩ := of_decide_eq_true selected
    exact ⟨lookup_of_active alike.leftOwn alike.rightOwn alike.shown active,
      lookup_of_active alike.rightOwn alike.leftOwn alike.shown.symm active⟩
  · rintro ⟨key, row⟩ first ⟨key', row'⟩ second low high
    obtain ⟨listed, selected⟩ := List.mem_filter.mp first
    obtain ⟨listed', selected'⟩ := List.mem_filter.mp second
    have numbers : key.patchNumber = key'.patchNumber := Int64.le_antisymm high low
    have own : key = query.key key.patchNumber := (of_decide_eq_true selected).1
    have own' : key' = query.key key'.patchNumber := (of_decide_eq_true selected').1
    obtain rfl : key = key' := by
      rw [own, own', numbers]
    have stored := AList.mem_lookup_iff.mpr listed
    have stored' := AList.mem_lookup_iff.mpr listed'
    rw [Option.some.inj (stored.symm.trans stored')]

theorem firstEligible_respects (query : CheckQuery) (rows : List PatchRow) :
    Respects SeenAlike (firstEligible query rows) := by
  induction rows with
  | nil => exact respects_pure
  | cons row rows ih =>
      refine Respects.bind respects_attempt fun patch => ?_
      split
      · exact respects_pure
      · exact ih

theorem getAppInOrg_respects_apps (orgId id : String) :
    Respects SeenAlike (getAppInOrg env orgId id) := by
  intro left right alike
  rw [← getAppInOrgSteps_run]
  obtain ⟨outcome, one, other⟩ := (getAppInOrgSteps_steady orgId id).run alike.apps
  refine ⟨outcome, ?_⟩
  unfold Steps.run
  rw [one, other]
  exact alike

theorem bestPatchInOrg_respects (query : CheckQuery) (current : Int64) :
    Respects SeenAlike (bestPatchInOrg env query current) := by
  intro left right alike
  obtain ⟨outcomes, states⟩ := @getAppInOrg_respects_apps env query.org query.appId left right alike
  unfold bestPatchInOrg
  rcases ended : getAppInOrg env query.org query.appId left with ⟨outcome, left'⟩
  rcases ended' : getAppInOrg env query.org query.appId right with ⟨outcome', right'⟩
  rw [ended, ended'] at outcomes states
  obtain rfl : outcome = outcome' := outcomes
  cases outcome with
  | error error =>
      dsimp only
      split
      · exact ⟨rfl, states⟩
      · exact ⟨rfl, states⟩
  | ok app =>
      refine Respects.bind (exec_respects _) (fun _ => respects_get ?_ ?_) left' right' states
      · intro one other same
        rw [same.newerPatches]
      · exact fun db => firstEligible_respects query _

/-- A check answers alike. -/
theorem checkPatch_respects (signedURL : String → Except String String) (host : String)
    (query : CheckQuery) : Respects SeenAlike (checkPatch env signedURL host query) := by
  refine Respects.bind (answering_respects (bestPatchInOrg_respects query _)) fun best => ?_
  cases best with
  | none => exact respects_pure
  | some patch => exact Respects.bind respects_attempt fun url => respects_pure

end Seen

/-!
## Orders
-/

/-- Promotions and rollbacks that are made at the same time leave every check, now and
after any further ones, with the answer that they would have left it with one after another. -/
theorem promotions_serializable (now : Nat) (history : List RouteCall) (calls : List ActivationCall)
    (schedule : List Nat) :
    let db := runFrom serveRoute (Database.migrated now) history
    let reached := runFrom (poolStep Operation.effect) (activations calls db) schedule
    (∀ process ∈ reached.1, process.ended = true) →
    ∃ order : List ActivationCall, order.Perm calls ∧
      ∀ (later : List ActivationCall) (env : Environment) (signedURL : String → Except String String)
        (host : String) (query : CheckQuery),
        (checkPatch env signedURL host query (runFrom serveActivation reached.2 later)).1 =
          (checkPatch env signedURL host query
            (runFrom serveActivation (runFrom serveActivation db order) later)).1 := by
  intro db reached ended
  have own : db.RowsOwn := run_rowsOwn now history
  choose write wrote once using fun call : ActivationCall => call.steps_commits own
  obtain ⟨order, perm, within, seen⟩ := serialized Reactivated.refl (fun _ _ _ => .trans) once ended
  refine ⟨order, perm, ?_⟩
  intro later env signedURL host query
  have runs := fun (calls : List ActivationCall) {state : Database} (reached : Reactivated db state) =>
    runFrom_alone Reactivated.refl (fun _ _ _ => .trans) once calls reached
  rw [alone_steps] at seen runs
  obtain ⟨left, leftShown⟩ := runs later within
  obtain ⟨right, rightShown⟩ := runs later (runs order (.refl db)).1
  have alike : SeenAlike (runFrom serveActivation reached.2 later)
      (runFrom serveActivation (runFrom serveActivation db order) later) := by
    refine ⟨left.sameApps right, ?_, left.rowsOwn own, right.rowsOwn own⟩
    rw [seen, ← rightShown] at leftShown
    exact leftShown
  exact (checkPatch_respects signedURL host query _ _ alike).1

/-- A rollback and two promotions of the uploaded patch. -/
def shippedActivations : List ActivationCall :=
  let request := fun channel : String => (.ok
    { appId := "app", releaseVersion := "1", platform := "ios", arch := "arm64", patchNumber := 1
      channel, rolloutPercentage := 100 } : Except String PromotePatchRequest)
  [{ env := shippingEnv "", orgId := some defaultOrgID, body := request "", activation := .rollback },
    { env := shippingEnv "", orgId := some defaultOrgID, body := request "beta", activation := .promote },
    { env := shippingEnv "", orgId := some defaultOrgID, body := request "stable", activation := .promote }]

/-- All three read the patch before one of them writes it. -/
theorem shipped_activations_serializable :
    let reached := runFrom (poolStep Operation.effect) (activations shippedActivations shippedDatabase)
      (List.replicate 20 [0, 1, 2]).flatten
    ∃ order : List ActivationCall, order.Perm shippedActivations ∧
      (checkPatch (shippingEnv "") .ok "" abcCheck reached.2).1 =
        (checkPatch (shippingEnv "") .ok "" abcCheck
          (runFrom serveActivation shippedDatabase order)).1 := by
  intro reached
  have ended : ∀ process ∈ reached.1, process.ended = true := by decide +kernel
  obtain ⟨order, perm, alike⟩ := promotions_serializable 0 [shippingSetup, shippingUpload]
    shippedActivations (List.replicate 20 [0, 1, 2]).flatten ended
  exact ⟨order, perm, alike [] (shippingEnv "") .ok "" abcCheck⟩

end CodePush.Server
