import CodePush.Core.SigningProperties
import CodePush.Server.Immutability
import CodePush.Updater.Durability
import CodePush.Updater.FailedInstall
import CodePush.Updater.Resume

/-!
# From the developer's key to the next launch

A patch is signed, uploaded with a token, and offered to a device after any other requests. What the device installs
from that offer is what was signed, whatever happens to its downloads; and where nothing happens to them, it is
installed.
-/

set_option autoImplicit false

namespace CodePush.System

open CodePush.Core CodePush.Foundation CodePush.Foundation.Action

open CodePush.Server (RouteCall serveRoute uploadBody wireBytes patchManifestBytes servedManifest Published Backed
  AppStored Hashed)

open CodePush.Updater (Device Session downloadAndInstall downloadPatch downloadPatchFiles SavedInstall)

/-!
## Signatures
-/

section Signatures

variable {lib : Primitives} {publicKey : String} {manifest : PatchManifest}

/-- The signature of the manifest is valid for it, and for no other message. -/
structure SignedBy (lib : Primitives) (publicKey : String) (manifest : PatchManifest) : Prop where
  algorithm : manifest.signature.algorithm = "ed25519"
  checks : ∀ message, lib.verifyB64 publicKey message manifest.signature.value = .ok () ↔
    message = canonicalJson manifest.unsigned.toValue

/-- What the tool signs with the key of the pair. -/
theorem signPatchManifest_signedBy {lib : SigningPrimitives} (lawful : lib.Lawful) {privateKey : String}
    (pair : lib.publicKeyB64FromPrivateKey privateKey = .ok publicKey) {draft : PatchManifest}
    (signed : signPatchManifest lib draft privateKey = (.ok (), manifest)) :
    SignedBy lib.toPrimitives publicKey manifest := by
  obtain ⟨signedB64, signs, checks⟩ := signPatchManifest_keyPair lawful pair draft
  obtain rfl := (Prod.ext_iff.mp (signed.symm.trans signs)).2
  exact ⟨rfl, checks⟩

theorem SignedBy.verified (signed : SignedBy lib publicKey manifest) :
    verifyPatchManifest lib manifest publicKey = .ok () := by
  unfold verifyPatchManifest
  rw [if_neg (fun different => different signed.algorithm)]
  exact (signed.checks _).mpr rfl

/-- Another manifest with the signature's value is not accepted. -/
theorem SignedBy.only {other : PatchManifest} (signed : SignedBy lib publicKey manifest)
    (value : other.signature.value = manifest.signature.value)
    (verified : verifyPatchManifest lib other publicKey = .ok ()) : other = manifest := by
  unfold verifyPatchManifest at verified
  split at verified
  · cases verified
  · rw [value] at verified
    have same := canonicalJson_toValue_iff.mp ((signed.checks _).mp verified)
    have restored := unsigned_eq_iff.mp same.symm
    rw [← restored, ← value]
    rfl

end Signatures

/-!
## Uploads
-/

/-- An upload, with the requests before and after it. -/
structure Shipment where
  now : Nat
  history : List RouteCall
  env : Server.Environment
  authorization : String
  manifest : PatchManifest
  payloadB64 : String
  later : List RouteCall

namespace Shipment

variable (shipment : Shipment)

def upload : RouteCall where
  env := shipment.env
  request := .bearer shipment.authorization (.createPatch (.ok (uploadBody shipment.manifest shipment.payloadB64)))

/-- The server before the upload. -/
def before : Server.Database := runFrom serveRoute (Server.Database.migrated shipment.now) shipment.history

def created : Except Server.HttpError Server.Answer × Server.Database := serveRoute shipment.upload shipment.before

/-- The server after the last request. -/
def after : Server.Database := runFrom serveRoute shipment.created.2 shipment.later

def key (org : String) : Server.PatchKey := (Server.PatchManifest.ofUpload shipment.manifest).keyIn org

/-- The manifest as the server stores it. -/
def stored (org : String) : Server.PatchManifest := (Server.PatchManifest.ofUpload shipment.manifest).uploaded org

/-- The bytes that it serves for the manifest. -/
def file (org : String) : Bytes := wireBytes (patchManifestBytes (shipment.stored org))

end Shipment

/-- The upload is accepted for an organization, and its app is not deleted later. All requests use one hash. -/
structure Accepted (sha256 : Bytes → String) (shipment : Shipment) (org : String) (payload : Bytes) : Prop where
  fits : shipment.manifest.Fits
  bearer : (Server.requireBearer shipment.env shipment.authorization shipment.before).1 = .ok org
  decoded : shipment.env.decodeBase64 shipment.payloadB64 = some payload
  answered : ∃ answer, shipment.created.1 = .ok answer
  hashedBefore : Hashed sha256 (shipment.history ++ [shipment.upload])
  hashedLater : Hashed sha256 shipment.later
  kept : ∀ call ∈ shipment.later, ¬ call.request.Deletes org shipment.manifest.appId

/-- What the server holds on to. -/
structure Held (sha256 : Bytes → String) (shipment : Shipment) (org : String) (payload : Bytes) : Prop where
  published : Published sha256 shipment.after (shipment.key org) (shipment.stored org) payload
  app : AppStored shipment.after (shipment.key org)
  backed : Backed sha256 shipment.after
  positive : 0 < (shipment.key org).patchNumber.toInt
  address : (shipment.stored org).wireMembers = ((Server.PatchManifest.ofUpload shipment.manifest).withDownloadUrl
    (Server.orgScopedPayloadKey org shipment.manifest.payload.downloadUrl)).wireMembers
  named : org.isEmpty = false
  hash : sha256 payload = shipment.manifest.payload.hash

section Server

variable {sha256 : Bytes → String} {shipment : Shipment} {org : String} {payload : Bytes}

theorem Accepted.held (accepted : Accepted sha256 shipment org payload) : Held sha256 shipment org payload := by
  obtain ⟨answer, answered⟩ := accepted.answered
  obtain ⟨org', request, payload', bearer, valid, uploads⟩ :=
    Server.upload_accepted (Server.reachable_wellFormed shipment.now shipment.history) answered
  have sameOrg : org' = org := Except.ok.inj (bearer.symm.trans accepted.bearer)
  subst sameOrg
  have sameRequest : request = { manifest := .ofUpload shipment.manifest, payloadB64 := shipment.payloadB64 } := by
    have parsed := uploads.parsed
    rw [Except.bind, Server.unmarshal_uploadBody accepted.fits] at parsed
    exact (Except.ok.inj parsed).symm
  subst sameRequest
  have samePayload : payload' = payload := Option.some.inj (uploads.checked.decoded.symm.trans accepted.decoded)
  subst samePayload
  have own : shipment.env.sha256Hex = sha256 :=
    accepted.hashedBefore shipment.upload (List.mem_append_right _ List.mem_cons_self)
  have start : Backed sha256 shipment.before := Server.run_backed shipment.history
    (fun call member => accepted.hashedBefore call (List.mem_append_left _ member)) (Server.backed_migrated shipment.now)
  have backed : Backed sha256 shipment.created.2 := by
    have effect := Server.serveRoute_effect shipment.upload shipment.before
    have hash : shipment.upload.env.sha256Hex = sha256 := own
    rw [hash] at effect
    exact effect.backed start
  have published := uploads.published
  rw [own] at published
  obtain ⟨stays, app⟩ := Server.run_published shipment.later accepted.hashedLater accepted.kept backed published
    uploads.app valid
  constructor
  · exact stays
  · exact app
  · exact Server.run_backed shipment.later accepted.hashedLater backed
  · have number : (Int64.ofInt shipment.manifest.patchNumber).toInt = shipment.manifest.patchNumber :=
      Server.toInt_ofInt_natCast accepted.fits.patchNumber (by decide)
    have present : Int64.ofInt shipment.manifest.patchNumber ≠ 0 := uploads.checked.patchNumber
    show 0 < (Int64.ofInt shipment.manifest.patchNumber).toInt
    rw [number]
    have nonzero : shipment.manifest.patchNumber ≠ 0 := by
      intro zero
      rw [zero] at present
      exact present rfl
    omega
  · have address : shipment.manifest.payload.downloadUrl =
        (Server.PatchManifest.ofUpload shipment.manifest).expectedKey := uploads.checked.downloadUrl
    rw [address]
    rfl
  · exact (Server.orgChars_of_validateOrgID valid).1
  · have hashed : shipment.env.sha256Hex payload' = shipment.manifest.payload.hash := uploads.checked.hash
    rw [own] at hashed
    exact hashed

/-- What a device reads of the served manifest. -/
theorem Held.read (held : Held sha256 shipment org payload) (fits : shipment.manifest.Fits) :
    readObject PatchManifest.fromMembers (patchManifestBytes (shipment.stored org)) =
      .ok (servedManifest shipment.manifest
        (Server.orgScopedPayloadKey org shipment.manifest.payload.downloadUrl)) := by
  show PatchManifest.fromMembers (shipment.stored org).wireMembers = _
  rw [held.address]
  exact Server.fromMembers_served fits _

end Server

/-!
## Offers
-/

/-- The answer of a check as a device keeps it. Addresses are printed. -/
def toldPatch (render : Server.ManifestQuery → String) (check : Server.PatchCheck) : Updater.PatchCheck where
  patchNumber := check.patchNumber.toInt.toNat
  manifestUrl := render check.manifestUrl
  payloadUrl := check.payloadUrl
  manifestHash := check.manifestHash
  payloadHash := check.payloadHash

def toldOf (render : Server.ManifestQuery → String) (check : Server.PatchCheck) : Updater.CheckResponse where
  patchAvailable := true
  patch := some (toldPatch render check)

/-- A check, made after the last request, has offered the patch to the device. -/
structure Offered (sha256 : Bytes → String) (render : Server.ManifestQuery → String) (shipment : Shipment)
    (org : String) (check : Server.PatchCheck) (device : Device) : Prop where
  answered : ∃ (checker : Server.Environment) (signedURL : String → Except String String) (host : String)
    (query : Server.CheckQuery), checker.sha256Hex = sha256 ∧
      (Server.checkPatch checker signedURL host query shipment.after).1 = .ok (some check) ∧
      query.key check.patchNumber = shipment.key org
  told : device.runtime.lastCheck = some (toldOf render check)

section Offers

variable {sha256 : Bytes → String} {render : Server.ManifestQuery → String} {shipment : Shipment} {org : String}
  {payload : Bytes} {check : Server.PatchCheck} {device : Device}

theorem Offered.hashes (offered : Offered sha256 render shipment org check device)
    (held : Held sha256 shipment org payload) :
    check.manifestHash = sha256 (shipment.file org) ∧ check.payloadHash = sha256 payload ∧
      check.manifestUrl.Asks (shipment.key org) := by
  obtain ⟨checker, signedURL, host, query, hashes, answered, named⟩ := offered.answered
  have announces := Server.checkPatch_announces hashes held.backed held.published answered named
  exact ⟨announces.manifestHash, announces.payloadHash, announces.manifestUrl held.positive⟩

end Offers

/-!
## Downloads
-/

/-- What a download leaves as it is. -/
def updaterView (device : Device) : Updater.Runtime × Updater.Disk := (device.runtime, device.cache.disk)

section Downloads

variable {lib : Primitives} {session : Session}

theorem keeps_updateDownload (key : Updater.DownloadKey) (update : Updater.DownloadDir → Updater.DownloadDir) :
    Keeps updaterView (modify (Updater.updateDownload key update) : Updater.DeviceOp PUnit) := by
  apply keeps_modify
  intro device
  unfold updaterView Updater.updateDownload
  simp

/-- Once it knows where to resume, a download only writes its own files. -/
theorem resumedDownload_keeps (url : String) (key : Updater.DownloadKey) (offset : Nat) (old : Bytes) :
    Keeps updaterView (do
      let (bytes, append) ← Updater.attemptOn (session.server.download url offset)
      Updater.attemptOn (Updater.ensureNotCancelled session .payload)
      Updater.attemptOn (session.files .writePart)
      let part := if append && decide (offset > 0) then old ++ bytes else bytes
      modify (Updater.updateDownload key ({ · with part := some part }))
      Updater.attemptOn (session.files .writeProgress)
      modify (Updater.updateDownload key ({ · with progress := some s!"{part.length}" }))
      pure part : Updater.DeviceOp Bytes) := by
  apply keeps_attempt.bind
  intro downloaded
  apply keeps_attempt.bind
  intro _
  apply keeps_attempt.bind
  intro _
  apply (keeps_updateDownload _ _).bind
  intro _
  apply keeps_attempt.bind
  intro _
  apply (keeps_updateDownload _ _).bind
  intro _
  exact keeps_pure

theorem downloadResumablePayload_keeps (url : String) (key : Updater.DownloadKey) :
    Keeps updaterView (Updater.downloadResumablePayload session url key) := by
  apply keeps_get.bind
  intro device
  dsimp only
  split
  · apply keeps_attempt.bind
    intro _
    apply (keeps_updateDownload _ _).bind
    intro _
    exact resumedDownload_keeps _ _ _ _
  · exact resumedDownload_keeps _ _ _ _

theorem downloadPatchFiles_keeps (runtime : Updater.Runtime) (patch : Updater.PatchCheck) :
    Keeps updaterView (downloadPatchFiles lib session runtime patch) := by
  apply keeps_attempt.bind
  intro _
  apply keeps_attempt.bind
  intro _
  apply keeps_attempt.bind
  intro fetched
  apply keeps_attempt.bind
  intro _
  apply keeps_attempt.bind
  intro _
  apply keeps_attempt.bind
  intro _
  apply (keeps_updateDownload _ _).bind
  intro _
  apply (downloadResumablePayload_keeps _ _).bind
  intro payloadBytes
  apply keeps_attempt.bind
  intro _
  apply keeps_attempt.bind
  intro _
  apply keeps_attempt.bind
  intro _
  apply keeps_attempt.bind
  intro _
  apply (keeps_updateDownload _ _).bind
  intro _
  exact keeps_pure

/-- After a check, a download reads no state file. -/
theorem downloadPatch_keeps {device : Device} {response : Updater.CheckResponse}
    (told : device.runtime.lastCheck = some response) :
    Ensures (downloadPatch lib session) device (fun _ after => updaterView after = updaterView device)
      (fun _ after => updaterView after = updaterView device) := by
  apply ensures_bind
  apply ensures_get
  apply Keeps.ensures
  apply keeps_attempt.bind
  intro _
  apply keeps_attempt.bind
  intro _
  dsimp only
  split
  · exact keeps_throw
  · unfold Updater.lastOrNewCheck
    rw [told]
    apply keeps_pure.bind
    intro response
    split
    · split
      · exact keeps_throw
      · exact keeps_pure
    · apply (downloadPatchFiles_keeps _ _).bind
      intro files
      apply keeps_attempt.bind
      intro _
      exact keeps_pure

/-- What an install from a download has saved. -/
theorem downloadAndInstall_saves {device : Device} {response : Updater.CheckResponse}
    (told : device.runtime.lastCheck = some response) (intact : device.cache.disk.Intact) :
    Ensures (downloadAndInstall lib session) device
      (fun installed after => installed = true → ∃ request manifest artifact,
        Updater.Downloaded lib session device request ∧
          SavedInstall lib session.env request device.cache.disk after.cache.disk manifest artifact)
      (fun _ _ => True) := by
  apply ensures_bind
  apply ((Updater.downloadPatch_ensures lib session device).and (downloadPatch_keeps told)).mono
  · intro found fetched facts
    obtain ⟨⟨_, downloaded⟩, kept⟩ := facts
    have sameDisk : fetched.cache.disk = device.cache.disk := (Prod.ext_iff.mp kept).2
    cases found with
    | none => exact ensures_pure fun installed => by cases installed
    | some request =>
        apply ensures_bind
        apply Updater.ensures_onCache
        have intact : fetched.cache.disk.Intact := by
          rw [sameDisk]
          exact intact
        apply (Updater.install_ends lib session.env request intact).mono
        · intro _ disk saved
          obtain ⟨manifest, artifact, saved⟩ := saved
          apply ensures_pure
          intro _
          rw [sameDisk] at saved
          rw [Updater.Device.cache_setCache]
          exact ⟨request, manifest, artifact, downloaded request rfl, saved⟩
        · exact fun _ _ _ => trivial
  · exact fun _ _ _ => trivial

end Downloads

/-!
## What arrives
-/

/-- No other bytes have the same hash. -/
def Pinned (lib : Primitives) (bytes : Bytes) : Prop :=
  ∀ other, lib.sha256Hex other = lib.sha256Hex bytes → other = bytes

/-- The device holds the patch as it was signed, and its manifest as it was stored. -/
structure Arrived (lib : Primitives) (shipment : Shipment) (org : String) (payload : Bytes) (before after : Device) :
    Prop where
  manifestFile : (after.cache.disk.files shipment.manifest.patchNumber).manifest = some (shipment.file org)
  payloadFile : (after.cache.disk.files shipment.manifest.patchNumber).payload = some payload
  reads : lib.parseManifest (shipment.file org) = .ok shipment.manifest
  artifact : ∀ target, shipment.manifest.backend = "snapshot_replace" →
    shipment.manifest.payload.outputHash = some (lib.sha256Hex target) → Pinned lib target →
      (after.cache.disk.files shipment.manifest.patchNumber).artifact = some target
  recorded : ∃ patch : Updater.InstalledPatch, patch.patchNumber = shipment.manifest.patchNumber ∧
    patch.backend = shipment.manifest.backend ∧
    after.cache.disk.state = before.cache.disk.state.install shipment.manifest.releaseVersion patch

/-- The next launch takes the patch, unless the file system keeps it from doing so. -/
def Boots (lib : Primitives) (patchNumber : Nat) (device : Device) : Prop :=
  ∀ launch : Updater.Call, launch.request = .launchPatch →
    (∃ patch, (Updater.perform lib launch device.cache.disk).1 = .launched (some patch) ∧
      patch.patchNumber = patchNumber) ∨
    ∃ error, (Updater.perform lib launch device.cache.disk).1 = .failed error ∧ launch.env.Faulted error

section Arrivals

variable {lib : Primitives} {shipment : Shipment} {org : String} {payload : Bytes} {before after : Device}

theorem Arrived.boots (arrived : Arrived lib shipment org payload before after)
    (good : shipment.manifest.patchNumber ∉ before.cache.disk.state.badPatches) :
    Boots lib shipment.manifest.patchNumber after := by
  obtain ⟨patch, number, _, recorded⟩ := arrived.recorded
  have awaiting : Updater.Awaiting shipment.manifest.patchNumber after.cache.disk.state := by
    rw [recorded, ← number]
    apply Updater.Awaiting.of_install
    rw [number]
    exact good
  intro launch asked
  exact awaiting.launches asked

/-- A patched artifact carries the hash that the manifest names. -/
theorem artifactFor_output {env : Updater.Environment} {request : Updater.InstallRequest} {disk : Updater.Disk}
    {manifest : PatchManifest} {artifact : Option Bytes} {target : String}
    (built : Updater.artifactFor lib env request disk manifest = .ok artifact)
    (replaces : manifest.backend = "snapshot_replace") (output : manifest.payload.outputHash = some target) :
    ∃ bytes, artifact = some bytes ∧ lib.sha256Hex bytes = target := by
  unfold Updater.artifactFor at built
  rw [if_pos replaces] at built
  obtain ⟨bytes, patched, built⟩ := except_bind_eq_ok.mp built
  obtain ⟨_, _, built⟩ := except_bind_eq_ok.mp built
  refine ⟨bytes, (Except.ok.inj built).symm, ?_⟩
  unfold Updater.snapshotReplaceChainedDiff at patched
  split at patched
  · cases patched
  · split at patched
    · cases patched
    · obtain ⟨_, _, patched⟩ := except_bind_eq_ok.mp patched
      obtain ⟨diffed, _, patched⟩ := except_bind_eq_ok.mp patched
      rw [output] at patched
      dsimp only at patched
      split at patched
      · cases patched
      · rename_i same
        obtain rfl := Except.ok.inj patched
        exact Decidable.not_not.mp same

/-- What an install leaves in the directory of its patch. -/
theorem saved_files {env : Updater.Environment} {request : Updater.InstallRequest} {disk reached : Updater.Disk}
    {manifest : PatchManifest} {artifact : Option Bytes}
    (saved : SavedInstall lib env request disk reached manifest artifact) :
    reached.files manifest.patchNumber =
      ⟨some request.manifestFile, some request.payloadFile,
        artifact.or (disk.files manifest.patchNumber).artifact⟩ := by
  have files : reached.files manifest.patchNumber =
      (disk.cleaned env request manifest artifact).files manifest.patchNumber := by
    unfold Updater.Disk.files
    rw [saved.patches]
  rw [files, Updater.Disk.files_cleaned, if_neg, if_pos rfl]
  intro removed
  exact (Updater.State.mem_prunedBy removed.1).2 rfl

theorem saved_state {env : Updater.Environment} {request : Updater.InstallRequest} {disk reached : Updater.Disk}
    {manifest : PatchManifest} {artifact : Option Bytes}
    (saved : SavedInstall lib env request disk reached manifest artifact) :
    reached.state = disk.state.install manifest.releaseVersion
      (Updater.installedRecord env manifest (Updater.artifactPath manifest artifact)) := by
  unfold Updater.Disk.state
  rw [saved.stateFile]
  exact Updater.State.migrate_of_schema (Nat.le_refl _)

end Arrivals

end CodePush.System
