import CodePush.System.PatchDelivery

/-!
# When a shipped patch is installed

The network brings what the server answers, and the files of the device work. Then one call is enough, whatever
earlier downloads have left behind: the server knows no ranges, so every download starts over.
-/

set_option autoImplicit false

namespace CodePush.System

open CodePush.Core CodePush.Foundation CodePush.Foundation.Action

open CodePush.Server (wireBytes patchManifestBytes servedManifest defaultOrgID)

open CodePush.Updater (Device Session downloadAndInstall downloadPatch downloadPatchFiles downloadKey completed
  maxBodyBytes)

/-!
## Installs that nothing stops
-/

/-- What a device needs to make use of a payload. The payload has the form that its backend asks for, and the base of
a diff comes with the release. -/
structure Installable (lib : Primitives) (manifest : PatchManifest) (payload : Bytes) (baseline : Option Bytes) :
    Prop where
  contract : Updater.validatePayloadContract lib manifest payload = .ok ()
  patches : manifest.backend = "snapshot_replace" → ∃ algorithm base target,
    manifest.payload.diffAlgorithm = some algorithm ∧ manifest.payload.baseHash = some (lib.sha256Hex base) ∧
      baseline = some base ∧ Pinned lib base ∧ applyBinaryDiff lib algorithm base payload = .ok target ∧
      manifest.payload.outputHash = some (lib.sha256Hex target)

section Installs

variable {lib : Primitives} {env : Updater.Environment} {request : Updater.InstallRequest} {disk : Updater.Disk}
  {manifest : PatchManifest} {artifact : Option Bytes}

/-- An installed artifact is a base only with the right hash. -/
theorem findArtifact_hash {patches : Nat → Option Updater.PatchDir} {expected : String} {candidate : Bytes}
    (installed : List Updater.InstalledPatch)
    (found : Updater.findArtifact lib env patches expected installed = some candidate) :
    lib.sha256Hex candidate = expected := by
  induction installed with
  | nil => cases found
  | cons patch older ih =>
      unfold Updater.findArtifact at found
      split at found
      · exact ih found
      · split at found
        · split at found
          · rename_i same
            obtain rfl := Option.some.inj found
            exact same
          · exact ih found
        · exact ih found

theorem findDiffBase_pinned {patches : Nat → Option Updater.PatchDir} {base : Bytes}
    (installed : List Updater.InstalledPatch) (io : ∀ call, env.io call = .ok ()) (pinned : Pinned lib base) :
    Updater.findDiffBase lib env patches (lib.sha256Hex base) installed (some base) = .ok base := by
  unfold Updater.findDiffBase
  cases found : Updater.findArtifact lib env patches (lib.sha256Hex base) installed.reverse with
  | some candidate =>
      have same := pinned candidate (findArtifact_hash _ found)
      rw [same]
  | none =>
      dsimp only
      rw [io]
      exact if_neg (fun different => different rfl)

theorem readable_works (disk : Updater.Disk) (io : ∀ call, env.io call = .ok ()) : disk.readable env = .ok () := by
  unfold Updater.Disk.readable
  cases disk.stateFile with
  | missing => rfl
  | corrupt parseError => exact io _
  | saved state => exact io _

theorem Installable.prepared (installable : Installable lib manifest request.payloadFile request.baseline)
    (io : ∀ call, env.io call = .ok ()) (disk : Updater.Disk) :
    ∃ artifact, Updater.prepare lib env request disk manifest = .ok artifact := by
  have readable := readable_works disk io
  by_cases replaces : manifest.backend = "snapshot_replace"
  · obtain ⟨algorithm, base, target, names, hash, brings, pinned, patched, output⟩ := installable.patches replaces
    have diffed : Updater.snapshotReplaceChainedDiff lib env disk.patches manifest request.payloadFile
        disk.state.installed request.baseline = .ok target := by
      unfold Updater.snapshotReplaceChainedDiff
      rw [names, hash, brings]
      dsimp only
      rw [findDiffBase_pinned _ io pinned]
      show (applyBinaryDiff lib algorithm base request.payloadFile >>= _) = _
      rw [patched, output]
      exact if_neg (fun different => different rfl)
    refine ⟨some target, except_bind_eq_ok.mpr ⟨(), readable, ?_⟩⟩
    unfold Updater.artifactFor
    rw [if_pos replaces]
    exact except_bind_eq_ok.mpr ⟨target, diffed, except_bind_eq_ok.mpr ⟨(), io _, rfl⟩⟩
  · refine ⟨none, except_bind_eq_ok.mpr ⟨(), readable, ?_⟩⟩
    unfold Updater.artifactFor
    rw [if_neg replaces]

theorem acceptPatch_works (io : ∀ call, env.io call = .ok ())
    (parsed : lib.parseManifest request.manifestFile = .ok manifest)
    (verified : verifyPatchManifest lib manifest request.publicKeyB64 = .ok ())
    (hashed : lib.sha256Hex request.payloadFile = manifest.payload.hash)
    (contract : Updater.validatePayloadContract lib manifest request.payloadFile = .ok ()) :
    Updater.acceptPatch lib env request = .ok manifest := by
  unfold Updater.acceptPatch
  apply except_bind_eq_ok.mpr
  refine ⟨(), io _, except_bind_eq_ok.mpr ⟨manifest, parsed, ?_⟩⟩
  apply except_bind_eq_ok.mpr
  refine ⟨(), verified, except_bind_eq_ok.mpr ⟨(), io _, ?_⟩⟩
  apply except_guard_eq_ok.mpr
  exact ⟨fun different => different hashed, except_bind_eq_ok.mpr ⟨(), contract, rfl⟩⟩

/-- Where the files work, an accepted install with all its parts is finished. -/
theorem install_works (io : ∀ call, env.io call = .ok ()) (intact : disk.Intact)
    (accepted : Updater.acceptPatch lib env request = .ok manifest)
    (prepared : Updater.prepare lib env request disk manifest = .ok artifact) :
    Ensures (Updater.installPayloadWithBaseline lib env request) disk (fun _ _ => True) (fun _ _ => False) := by
  apply (Updater.install_ends lib env request intact).mono
  · intro _ _ _
    trivial
  · intro _ reached failed
    cases failed with
    | refused refused => exact refused manifest accepted (io _)
    | undescribed _ _ failed => exact failed (io _)
    | unfilled _ _ _ failed => exact failed (io _)
    | unprepared accepted' _ _ _ failed =>
        obtain rfl := Except.ok.inj (accepted'.symm.trans accepted)
        exact failed artifact prepared
    | unsaved _ _ _ _ _ failed => exact failed (io _)

end Installs

/-!
## Calls that nothing disturbs
-/

/-- The network brings the device what the server answers at the addresses of the check. The handler of payloads
sends the whole payload to every request. -/
structure Carries (http : Updater.Http) (render : Server.ManifestQuery → String) (shipment : Shipment) (org : String)
    (check : Server.PatchCheck) : Prop where
  manifest : ∃ reader, Server.Works reader ∧ ∀ json,
    (Server.patchManifest reader check.manifestUrl shipment.after).1 = .ok json →
      ∃ append, Updater.downloadBytesFrom http (fun _ => false) (render check.manifestUrl) 0 =
        .ok (wireBytes json, append)
  payload : ∃ reader : Server.Environment,
    reader.storage (.get (shipment.stored org).payload.downloadUrl) = .ok () ∧ ∀ bytes,
      (Server.patchPayload reader (shipment.stored org).payload.downloadUrl shipment.after).1 = .ok bytes →
        Updater.Sends http check.payloadUrl bytes

/-- A call that is not cancelled, on a network that works and with files that work. -/
structure Calm (session : Session) (render : Server.ManifestQuery → String) (shipment : Shipment) (org : String)
    (check : Server.PatchCheck) : Prop where
  network : ∃ http, Updater.Uncancelled session http ∧ Carries http render shipment org check
  io : ∀ call, session.env.io call = .ok ()

section Calls

variable {lib : Primitives} {session : Session} {render : Server.ManifestQuery → String} {shipment : Shipment}
  {org : String} {payload : Bytes} {check : Server.PatchCheck} {device : Device}

theorem Carries.manifest_served {http : Updater.Http} (carries : Carries http render shipment org check)
    (held : Held lib.sha256Hex shipment org payload) (asks : check.manifestUrl.Asks (shipment.key org)) :
    ∃ append, Updater.downloadBytesFrom http (fun _ => false) (render check.manifestUrl) 0 =
      .ok (shipment.file org, append) := by
  obtain ⟨reader, works, brings⟩ := carries.manifest
  exact brings _ (Server.patchManifest_works works held.published held.app asks held.positive)

theorem Carries.payload_sent {http : Updater.Http} (carries : Carries http render shipment org check)
    (held : Held lib.sha256Hex shipment org payload) : Updater.Sends http check.payloadUrl payload := by
  obtain ⟨reader, storage, brings⟩ := carries.payload
  apply brings
  rw [Server.patchPayload_published held.published, storage]

end Calls

/-- What else the device needs for the patch. -/
structure Equipped (lib : Primitives) (publicKey : String) (manifest : PatchManifest) (payload : Bytes)
    (device : Device) : Prop where
  configured : Updater.ensureConfigured device.runtime = .ok ()
  key : device.runtime.publicKeyB64 = publicKey
  keyed : publicKey.isEmpty = false
  intact : device.cache.disk.Intact
  installable : Installable lib manifest payload device.runtime.baselineArtifact

/-- The patch can be told from other files, and reads back as what was signed. -/
structure Readable (lib : Primitives) (publicKey : String) (shipment : Shipment) (org : String) (payload : Bytes) :
    Prop where
  parsed : lib.parseManifest (shipment.file org) = .ok shipment.manifest
  verified : verifyPatchManifest lib shipment.manifest publicKey = .ok ()
  manifestPinned : Pinned lib (shipment.file org)
  payloadPinned : Pinned lib payload

/-- Without an organization of its own and without empty texts, a manifest is served as it was signed. -/
theorem Held.served {sha256 : Bytes → String} {shipment : Shipment} {payload : Bytes}
    (held : Held sha256 shipment defaultOrgID payload) (fits : shipment.manifest.Fits)
    (filled : Server.NoEmptyTexts shipment.manifest.payload) :
    readObject PatchManifest.fromMembers (patchManifestBytes (shipment.stored defaultOrgID)) = .ok shipment.manifest := by
  rw [held.read fits]
  have address : Server.orgScopedPayloadKey defaultOrgID shipment.manifest.payload.downloadUrl =
      shipment.manifest.payload.downloadUrl := (Server.orgScopedPayloadKey_eq_self held.named _).mpr rfl
  obtain ⟨diffAlgorithm, baseHash, outputHash⟩ := filled
  unfold servedManifest
  rw [address, Server.bind_presentText_eq_self.mpr diffAlgorithm, Server.bind_presentText_eq_self.mpr baseHash,
    Server.bind_presentText_eq_self.mpr outputHash]

section Calls

variable {lib : Primitives} {publicKey : String} {session : Session} {render : Server.ManifestQuery → String}
  {shipment : Shipment} {org : String} {payload : Bytes} {check : Server.PatchCheck} {device : Device}

theorem Equipped.congr {other : Device} (equipped : Equipped lib publicKey shipment.manifest payload device)
    (same : updaterView other = updaterView device) : Equipped lib publicKey shipment.manifest payload other := by
  obtain ⟨runtime, disk⟩ := Prod.ext_iff.mp same
  have runtime : other.runtime = device.runtime := runtime
  have disk : other.cache.disk = device.cache.disk := disk
  obtain ⟨configured, key, keyed, intact, installable⟩ := equipped
  constructor
  · rw [runtime]
    exact configured
  · rw [runtime]
    exact key
  · exact keyed
  · rw [disk]
    exact intact
  · rw [runtime]
    exact installable

/-- What the device hands to the install. -/
def received (shipment : Shipment) (org : String) (payload : Bytes) (device : Device) : Updater.InstallRequest where
  manifestFile := shipment.file org
  payloadFile := payload
  publicKeyB64 := device.runtime.publicKeyB64
  baseline := device.runtime.baselineArtifact

/-- What a calm download comes to. -/
theorem downloadPatch_settles (calm : Calm session render shipment org check)
    (held : Held lib.sha256Hex shipment org payload)
    (offered : Offered lib.sha256Hex render shipment org check device)
    (readable : Readable lib publicKey shipment org payload)
    (equipped : Equipped lib publicKey shipment.manifest payload device) :
    Ensures (downloadPatch lib session) device
      (fun found after => found = some (received shipment org payload device) ∧ payload.length ≤ maxBodyBytes ∧
        updaterView after = updaterView device)
      (fun _ _ => maxBodyBytes < payload.length) := by
  obtain ⟨http, uncancelled, carries⟩ := calm.network
  obtain ⟨manifestHash, payloadHash, asks⟩ := offered.hashes held
  have announces : Updater.Announces lib (toldPatch render check) (shipment.file org) payload := by
    constructor
    · exact manifestHash.symm
    · exact payloadHash.symm
    · intro other same
      exact readable.payloadPinned other (same.trans payloadHash)
  have keyed : device.runtime.publicKeyB64.isEmpty = false := by
    rw [equipped.key]
    exact equipped.keyed
  have completes := Updater.downloadPatchFiles_completes uncancelled announces (carries.manifest_served held asks)
    device.runtime device
  have sends : Updater.Sends http (toldPatch render check).payloadUrl payload := carries.payload_sent held
  dsimp only at completes
  rw [Updater.completed_of_sends uncancelled sends] at completes
  have fetches := (completes.and
    (Updater.downloadPatchFiles_ensures lib session device.runtime (toldPatch render check) device)).and
    ((downloadPatchFiles_keeps device.runtime (toldPatch render check)).ensures device)
  have short : (Updater.limited payload).toOption = some payload ↔ payload.length ≤ maxBodyBytes := by
    rw [Updater.limited_toOption]
    exact Option.ite_none_right_eq_some.trans (and_iff_left (Eq.refl _))
  apply ensures_bind
  apply ensures_get
  apply ensures_bind
  apply Updater.attemptOn_returns equipped.configured
  apply ensures_bind
  apply Updater.attemptOn_returns (uncancelled.ensureNotCancelled _)
  dsimp only
  rw [if_neg (by rw [keyed]; exact Bool.false_ne_true)]
  apply ensures_bind
  unfold Updater.lastOrNewCheck
  rw [offered.told]
  apply ensures_pure
  apply ensures_bind
  apply fetches.mono
  · intro files after facts
    obtain ⟨⟨whole, _, filesReceived⟩, kept⟩ := facts
    apply ensures_bind
    apply Updater.attemptOn_returns (uncancelled.ensureNotCancelled _)
    apply ensures_pure
    have manifestFile : files.1 = shipment.file org :=
      readable.manifestPinned _ (filesReceived.manifestHash.trans manifestHash)
    have payloadFile : files.2 = payload := readable.payloadPinned _ (filesReceived.payloadHash.trans payloadHash)
    refine ⟨?_, short.mp whole, kept⟩
    rw [manifestFile, payloadFile]
    rfl
  · intro error after facts
    exact Nat.lt_of_not_le fun fits => facts.1.1.1 (short.mpr fits)

/-- A calm call installs the patch, unless the payload is too long to be sent. -/
theorem downloadAndInstall_settles (calm : Calm session render shipment org check)
    (held : Held lib.sha256Hex shipment org payload)
    (offered : Offered lib.sha256Hex render shipment org check device)
    (readable : Readable lib publicKey shipment org payload)
    (equipped : Equipped lib publicKey shipment.manifest payload device) :
    Ensures (downloadAndInstall lib session) device
      (fun installed _ => installed = true ∧ payload.length ≤ maxBodyBytes)
      (fun _ _ => maxBodyBytes < payload.length) := by
  apply ensures_bind
  apply (downloadPatch_settles calm held offered readable equipped).mono
  · intro found after facts
    obtain ⟨rfl, short, kept⟩ := facts
    have equipped' := equipped.congr kept
    apply ensures_bind
    apply Updater.ensures_onCache
    have installable : Installable lib shipment.manifest (received shipment org payload device).payloadFile
        (received shipment org payload device).baseline := equipped.installable
    obtain ⟨artifact, prepared⟩ := installable.prepared calm.io after.cache.disk
    have accepted : Updater.acceptPatch lib session.env (received shipment org payload device) =
        .ok shipment.manifest := by
      apply acceptPatch_works calm.io readable.parsed
      · show verifyPatchManifest lib shipment.manifest device.runtime.publicKeyB64 = .ok ()
        rw [equipped.key]
        exact readable.verified
      · exact held.hash
      · exact installable.contract
    apply (install_works calm.io equipped'.intact accepted prepared).mono
    · intro _ disk _
      exact ensures_pure ⟨rfl, short⟩
    · intro _ disk impossible
      exact impossible.elim
  · exact fun _ _ long => long

end Calls

end CodePush.System
