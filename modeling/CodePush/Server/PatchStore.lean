import CodePush.Server.PatchProperties
import CodePush.Server.Writes

/-!
# Stored patches and their payloads

A row and the payload it names are stored by one upload, which needs the payload's key
to be free. Whatever a request does later, it keeps both and what devices see of them.
-/

set_option autoImplicit false

namespace CodePush.Server

open CodePush.Core CodePush.Foundation CodePush.Foundation.Action

/-- The manifest with another standing: what promotion and rollback change. -/
def PatchManifest.activated (patch : PatchManifest) (active : Bool) (channel : String)
    (rollout : Int64) : PatchManifest :=
  { patch with active, activeChannel := channel, activeRollout := rollout }

section Activated

variable (patch : PatchManifest) (active : Bool) (channel : String) (rollout : Int64)

@[simp] theorem PatchManifest.activated_keyIn (orgId : String) :
    (patch.activated active channel rollout).keyIn orgId = patch.keyIn orgId := rfl

@[simp] theorem PatchManifest.activated_wireMembers :
    (patch.activated active channel rollout).wireMembers = patch.wireMembers := rfl

@[simp] theorem PatchManifest.activated_expectedKey :
    (patch.activated active channel rollout).expectedKey = patch.expectedKey := rfl

@[simp] theorem PatchManifest.activated_payload :
    (patch.activated active channel rollout).payload = patch.payload := rfl

@[simp] theorem PatchManifest.activated_activated (active' : Bool) (channel' : String) (rollout' : Int64) :
    (patch.activated active channel rollout).activated active' channel' rollout' =
      patch.activated active' channel' rollout' := rfl

/-- A row is read back as the manifest it was written for. -/
theorem PatchManifest.unmarshal_row : PatchManifest.zero.unmarshal patch.row.manifestJson = .ok patch :=
  PatchManifest.unmarshal_marshal patch

end Activated

/-- Two manifests under one key have one payload key. -/
theorem expectedKey_of_keyIn {one other : PatchManifest} {orgId : String}
    (same : one.keyIn orgId = other.keyIn orgId) : one.expectedKey = other.expectedKey := by
  simp only [PatchManifest.keyIn, PatchKey.mk.injEq] at same
  obtain ⟨_, app, version, platform, arch, number⟩ := same
  simp only [PatchManifest.expectedKey, app, version, platform, arch, number]

/-- The patch stands under the key with some standing, next to its payload. -/
structure Published (sha256 : Bytes → String) (db : Database) (key : PatchKey) (patch : PatchManifest)
    (payload : Bytes) : Prop where
  own : patch.keyIn key.orgId = key
  address : patch.payload.downloadUrl = orgScopedPayloadKey key.orgId patch.expectedKey
  row : ∃ active channel rollout,
    db.patches.lookup key = some (patch.activated active channel rollout).row
  object : db.objects.lookup patch.payload.downloadUrl = some payload
  hash : sha256 payload = patch.payload.hash
  size : UInt64.ofNat payload.length = patch.payload.size

/-- Every row is a published patch. -/
def Backed (sha256 : Bytes → String) (db : Database) : Prop :=
  ∀ key, (db.patches.lookup key).isSome → ∃ patch payload, Published sha256 db key patch payload

/-!
## Effects
-/

/-- What a request does to the patches and the payloads, unless it deletes an app. -/
inductive PatchEffect (sha256 : Bytes → String) (before after : Database) : Prop where
  | untouched (patches : after.patches = before.patches) (objects : after.objects = before.objects)
  | object (key : String) (payload : Bytes) (absent : before.objects.lookup key = none)
      (patches : after.patches = before.patches)
      (objects : after.objects = before.objects.insert key payload)
  | upload (orgId : String) (patch : PatchManifest) (payload : Bytes)
      (absent : before.objects.lookup (orgScopedPayloadKey orgId patch.expectedKey) = none)
      (hash : sha256 payload = patch.payload.hash)
      (size : UInt64.ofNat payload.length = patch.payload.size)
      (patches : after.patches = before.patches.insert (patch.keyIn orgId) (patch.uploaded orgId).row)
      (objects : after.objects =
        before.objects.insert (orgScopedPayloadKey orgId patch.expectedKey) payload)
  | activation (key : PatchKey) (row : PatchRow) (patch : PatchManifest) (active : Bool)
      (channel : String) (rollout : Int64) (found : before.patches.lookup key = some row)
      (decoded : PatchManifest.zero.unmarshal row.manifestJson = .ok patch)
      (patches : after.patches = before.patches.insert (patch.keyIn key.orgId)
        (patch.activated active channel rollout).row)
      (objects : after.objects = before.objects)

section Effects

variable {sha256 : Bytes → String} {before after : Database} {key : PatchKey} {patch : PatchManifest}
  {payload : Bytes}

/-- A payload that is stored stays. -/
theorem lookup_insert_of_absent {objects : AList fun _ : String => Bytes} {url url' : String}
    {payload payload' : Bytes} (stored : objects.lookup url = some payload)
    (absent : objects.lookup url' = none) : (objects.insert url' payload').lookup url = some payload := by
  have apart : url ≠ url' := by
    rintro rfl
    cases absent.symm.trans stored
  rw [AList.lookup_insert_ne apart]
  exact stored

/-- The row of a published patch decodes to it. -/
theorem Published.decoded {row : PatchRow} {read : PatchManifest}
    (published : Published sha256 before key patch payload)
    (found : before.patches.lookup key = some row)
    (decoded : PatchManifest.zero.unmarshal row.manifestJson = .ok read) :
    ∃ active channel rollout, read = patch.activated active channel rollout := by
  obtain ⟨active, channel, rollout, stored⟩ := published.row
  cases found.symm.trans stored
  rw [PatchManifest.unmarshal_row] at decoded
  exact ⟨active, channel, rollout, (Except.ok.inj decoded).symm⟩

theorem PatchEffect.published (effect : PatchEffect sha256 before after) (backed : Backed sha256 before)
    (published : Published sha256 before key patch payload) :
    Published sha256 after key patch payload := by
  have ⟨own, address, row, kept, hash, size⟩ := published
  cases effect with
  | untouched patches objects =>
      exact ⟨own, address, by rw [patches]; exact row, by rw [objects]; exact kept, hash, size⟩
  | object url other absent patches objects =>
      refine ⟨own, address, by rw [patches]; exact row, ?_, hash, size⟩
      rw [objects]
      exact lookup_insert_of_absent kept absent
  | upload orgId new other absent _ _ patches objects =>
      have apart : key ≠ new.keyIn orgId := by
        intro same
        have org : key.orgId = orgId := congrArg PatchKey.orgId same
        have keys : patch.keyIn orgId = new.keyIn orgId := by
          rw [← same, ← org]
          exact own
        rw [address, org, expectedKey_of_keyIn keys, absent] at kept
        cases kept
      refine ⟨own, address, ?_, ?_, hash, size⟩
      · rw [patches, AList.lookup_insert_ne apart]
        exact row
      · rw [objects]
        exact lookup_insert_of_absent kept absent
  | activation key' old read active channel rollout found decoded patches objects =>
      refine ⟨own, address, ?_, by rw [objects]; exact kept, hash, size⟩
      rw [patches]
      by_cases here : key' = key
      · subst here
        obtain ⟨_, _, _, rfl⟩ := published.decoded found decoded
        rw [PatchManifest.activated_keyIn, own, AList.lookup_insert]
        exact ⟨active, channel, rollout, rfl⟩
      · obtain ⟨origin, _, published⟩ := backed key' (by rw [found]; rfl)
        obtain ⟨_, _, _, rfl⟩ := published.decoded found decoded
        rw [PatchManifest.activated_keyIn, published.own, AList.lookup_insert_ne (Ne.symm here)]
        exact row

theorem PatchEffect.backed (effect : PatchEffect sha256 before after) (backed : Backed sha256 before) :
    Backed sha256 after := by
  intro key found
  by_cases old : (before.patches.lookup key).isSome
  · obtain ⟨patch, payload, published⟩ := backed key old
    exact ⟨patch, payload, effect.published backed published⟩
  · cases effect with
    | untouched patches objects =>
        rw [patches] at found
        exact absurd found old
    | object url payload absent patches objects =>
        rw [patches] at found
        exact absurd found old
    | upload orgId patch payload absent hash size patches objects =>
        by_cases here : key = patch.keyIn orgId
        · refine ⟨patch.uploaded orgId, payload, ?_, ?_, ?_, ?_, hash, size⟩
          · rw [here]
            rfl
          · rw [here]
            rfl
          · rw [patches, here, AList.lookup_insert]
            exact ⟨_, _, _, rfl⟩
          · rw [objects]
            exact AList.lookup_insert _
        · rw [patches, AList.lookup_insert_ne here] at found
          exact absurd found old
    | activation stored row read active channel rollout was decoded patches objects =>
        obtain ⟨origin, _, published⟩ := backed stored (by rw [was]; rfl)
        obtain ⟨_, _, _, rfl⟩ := published.decoded was decoded
        have apart : key ≠ stored := by
          rintro rfl
          exact old (by rw [was]; rfl)
        rw [patches, PatchManifest.activated_keyIn, published.own, AList.lookup_insert_ne apart] at found
        exact absurd found old

end Effects

/-!
## Requests
-/

section Requests

variable {env : Environment} {org : Option String} {db : Database}

/-- What an upload is checked for. -/
structure Checked (env : Environment) (request : CreatePatchRequest) (payload : Bytes) : Prop where
  appId : request.manifest.appId.isEmpty = false
  releaseVersion : request.manifest.releaseVersion.isEmpty = false
  patchNumber : request.manifest.patchNumber ≠ 0
  decoded : env.decodeBase64 request.payloadB64 = some payload
  size : UInt64.ofNat payload.length = request.manifest.payload.size
  hash : env.sha256Hex payload = request.manifest.payload.hash
  downloadUrl : request.manifest.payload.downloadUrl = request.manifest.expectedKey

theorem checkUpload_checked {request : CreatePatchRequest} {payload : Bytes}
    (checked : checkUpload env request = .ok payload) : Checked env request payload := by
  unfold checkUpload at checked
  dsimp only at checked
  obtain ⟨fields, checked⟩ := except_guard_eq_ok.mp checked
  split at checked
  case h_1 => cases checked
  case h_2 decoded found =>
    obtain ⟨sized, checked⟩ := except_guard_eq_ok.mp checked
    obtain ⟨hashed, checked⟩ := except_guard_eq_ok.mp checked
    obtain ⟨expected, checked⟩ := except_guard_eq_ok.mp checked
    obtain rfl : decoded = payload := Except.ok.inj checked
    simp only [not_or, Bool.not_eq_true] at fields
    exact ⟨fields.1, fields.2.1, fields.2.2, found, Decidable.not_not.mp sized,
      Decidable.not_not.mp hashed, Decidable.not_not.mp expected⟩

/-- The upload is checked, and stores its payload under a key that was free, and its row. -/
structure Uploads (env : Environment) (org : String) (body : Except String Json)
    (before after : Database) (request : CreatePatchRequest) (payload : Bytes) : Prop where
  parsed : body.bind CreatePatchRequest.unmarshal = .ok request
  checked : Checked env request payload
  absent : before.objects.lookup (orgScopedPayloadKey org request.manifest.expectedKey) = none
  objects : after.objects =
    before.objects.insert (orgScopedPayloadKey org request.manifest.expectedKey) payload
  patches : after.patches =
    before.patches.insert (request.manifest.keyIn org) (request.manifest.uploaded org).row
  app : AppStored after (request.manifest.keyIn org)
  apps : ∀ key, (before.apps.lookup key).isSome → (after.apps.lookup key).isSome

/-- A failed upload may leave an app, and a payload behind. -/
structure Fails (before after : Database) : Prop where
  patches : after.patches = before.patches
  objects : after.objects = before.objects ∨ ∃ key payload, before.objects.lookup key = none ∧
    after.objects = before.objects.insert key payload
  apps : ∀ key, (before.apps.lookup key).isSome → (after.apps.lookup key).isSome

theorem Fails.refl : Fails db db := ⟨rfl, .inl rfl, fun _ found => found⟩

theorem createPatch_stores (env : Environment) (org : Option String) (body : Except String Json)
    (db : Database) :
    Ensures (createPatch env org body) db
      (fun _ after => ∃ request payload, Uploads env (currentOrgID org) body db after request payload)
      (fun _ after => Fails db after) := by
  have absent : ∀ {request payload ensured}, Admitted env org body db request payload ensured →
      KeyFree env (request.keyIn org).storageKey ensured →
      db.objects.lookup (request.keyIn org).storageKey = none := by
    intro request payload ensured admitted looked
    rw [← admitted.storage.1]
    exact absent_of_missing looked.missing
  apply (createPatch_ends env org body db).mono
  · intro _ after ends
    cases ends with
    | stored admitted storable listed =>
        obtain ⟨rfl, app⟩ := (putPatchInOrg_ensures env _ _ _).of_ok listed
        refine ⟨_, _, admitted.parsed, checkUpload_checked admitted.checked, absent admitted storable.toKeyFree,
          ?_, ?_, app, admitted.apps⟩
        · rw [← admitted.storage.1]
          rfl
        · rw [← admitted.patches]
          rfl
  · intro _ after ends
    cases ends with
    | rejected | appless => exact .refl
    | @stopped _ payload _ _ _ admitted refused =>
        rcases refused.state with ⟨free, same⟩ | ⟨_, same⟩
        · subst same
          rw [admitted.storage.1] at free
          refine ⟨admitted.patches, .inr ⟨_, payload, free, ?_⟩, admitted.apps⟩
          rw [← admitted.storage.1]
          rfl
        · subst same
          exact ⟨admitted.patches, .inl admitted.storage.1, admitted.apps⟩
    | @unlisted _ payload _ _ admitted storable =>
        refine ⟨admitted.patches, .inr ⟨_, payload, absent admitted storable.toKeyFree, ?_⟩, admitted.apps⟩
        rw [← admitted.storage.1]
        rfl

end Requests

end CodePush.Server
