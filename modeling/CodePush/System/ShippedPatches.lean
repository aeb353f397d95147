import CodePush.Core.Digests
import CodePush.System.PatchArrival

/-!
# Shipped patches

A patch is signed with the tool, uploaded with a token and offered to a device, with any other requests before and
after. What the device installs is what was signed, and one call that nothing disturbs is enough to install it.
-/

set_option autoImplicit false

namespace CodePush.System

open CodePush.Core CodePush.Foundation CodePush.Foundation.Action

open CodePush.Server (wireBytes patchManifestBytes defaultOrgID)

open CodePush.Updater (Device Session downloadAndInstall maxBodyBytes)

/-- Whatever a device installs of a patch that was signed, accepted and offered is the patch as it was signed. The
download can fail at any point, and start over from what was left by others. -/
theorem shipped_patch_exact (lib : SigningPrimitives) (lawful : lib.Lawful) (privateKey publicKey : String)
    (draft : PatchManifest) (shipment : Shipment) (org : String) (payload : Bytes)
    (render : Server.ManifestQuery → String) (check : Server.PatchCheck) (session : Session) (device : Device)
    (pair : lib.publicKeyB64FromPrivateKey privateKey = .ok publicKey)
    (signed : signPatchManifest lib draft privateKey = (.ok (), shipment.manifest))
    (accepted : Accepted lib.sha256Hex shipment org payload)
    (offered : Offered lib.sha256Hex render shipment org check device)
    (reads : lib.parseManifest (shipment.file org) =
      readObject PatchManifest.fromMembers (patchManifestBytes (shipment.stored org)))
    (manifestPinned : Pinned lib.toPrimitives (shipment.file org)) (payloadPinned : Pinned lib.toPrimitives payload)
    (key : device.runtime.publicKeyB64 = publicKey) (intact : device.cache.disk.Intact)
    (installed : (downloadAndInstall lib.toPrimitives session device).1 = .ok true) :
    let after := (downloadAndInstall lib.toPrimitives session device).2
    Arrived lib.toPrimitives shipment org payload device after ∧
      (shipment.manifest.patchNumber ∉ device.cache.disk.state.badPatches →
        Boots lib.toPrimitives shipment.manifest.patchNumber after) := by
  intro after
  have held := accepted.held
  obtain ⟨manifestHash, payloadHash, _⟩ := offered.hashes held
  have ended : downloadAndInstall lib.toPrimitives session device = (.ok true, after) := Prod.ext installed rfl
  obtain ⟨request, manifest, artifact, downloaded, saved⟩ :=
    (downloadAndInstall_saves offered.told intact).of_ok ended rfl
  obtain ⟨response, patch, announced, named, filesReceived⟩ := downloaded.announced
  have told : response = toldOf render check := by
    rcases announced with last | fresh
    · exact Option.some.inj (last.symm.trans offered.told)
    · have absent := fresh.1
      rw [offered.told] at absent
      cases absent
  subst told
  obtain rfl := Option.some.inj named
  have manifestFile : request.manifestFile = shipment.file org := manifestPinned _ (filesReceived.manifestHash.trans manifestHash)
  have payloadFile : request.payloadFile = payload := payloadPinned _ (filesReceived.payloadHash.trans payloadHash)
  obtain ⟨parsed, verified, _⟩ := Updater.acceptPatch_eq_ok saved.accepted
  rw [downloaded.key, key] at verified
  rw [manifestFile] at parsed
  have served := held.read accepted.fits
  have same : manifest = shipment.manifest := by
    rw [reads, served] at parsed
    obtain rfl := Except.ok.inj parsed
    exact (signPatchManifest_signedBy lawful pair signed).only rfl verified
  subst same
  have files := saved_files saved
  have arrived : Arrived lib.toPrimitives shipment org payload device after := by
    constructor
    · rw [files, manifestFile]
    · rw [files, payloadFile]
    · exact parsed
    · intro target replaces output pinned
      obtain ⟨_, _, built⟩ := except_bind_eq_ok.mp saved.prepared
      obtain ⟨bytes, rfl, hashed⟩ := artifactFor_output built replaces output
      obtain rfl := pinned bytes hashed
      rw [files]
      rfl
    · refine ⟨Updater.installedRecord session.env shipment.manifest
        (Updater.artifactPath shipment.manifest artifact), rfl, rfl, ?_⟩
      exact saved_state saved
  exact ⟨arrived, arrived.boots⟩

/-- A call that nothing disturbs installs the patch, whatever earlier downloads have left behind, exactly if its payload
is not too long to be sent as a whole. -/
theorem shipped_patch_arrives (lib : SigningPrimitives) (lawful : lib.Lawful) (privateKey publicKey : String)
    (draft : PatchManifest) (shipment : Shipment) (payload : Bytes) (render : Server.ManifestQuery → String)
    (check : Server.PatchCheck) (session : Session) (device : Device)
    (pair : lib.publicKeyB64FromPrivateKey privateKey = .ok publicKey)
    (signed : signPatchManifest lib draft privateKey = (.ok (), shipment.manifest))
    (accepted : Accepted lib.sha256Hex shipment defaultOrgID payload)
    (offered : Offered lib.sha256Hex render shipment defaultOrgID check device)
    (filled : Server.NoEmptyTexts shipment.manifest.payload)
    (reads : lib.parseManifest (shipment.file defaultOrgID) =
      readObject PatchManifest.fromMembers (patchManifestBytes (shipment.stored defaultOrgID)))
    (manifestPinned : Pinned lib.toPrimitives (shipment.file defaultOrgID)) (payloadPinned : Pinned lib.toPrimitives payload)
    (equipped : Equipped lib.toPrimitives publicKey shipment.manifest payload device)
    (calm : Calm session render shipment defaultOrgID check) :
    (downloadAndInstall lib.toPrimitives session device).1 = .ok true ↔ payload.length ≤ maxBodyBytes := by
  have held := accepted.held
  have readable : Readable lib.toPrimitives publicKey shipment defaultOrgID payload := by
    constructor
    · rw [reads]
      exact held.served accepted.fits filled
    · exact (signPatchManifest_signedBy lawful pair signed).verified
    · exact manifestPinned
    · exact payloadPinned
  have settles := downloadAndInstall_settles calm held offered readable equipped
  rcases ended : downloadAndInstall lib.toPrimitives session device with ⟨error | installed, after⟩
  · have long := settles.of_error ended
    constructor
    · intro impossible
      cases impossible
    · intro short
      exact absurd short (Nat.not_le_of_lt long)
  · obtain ⟨rfl, short⟩ := settles.of_ok ended
    exact iff_of_true rfl short

/-!
## A run
-/

def shippedDraft : PatchManifest where
  schemaVersion := 1
  appId := "app"
  releaseVersion := "1"
  patchNumber := 1
  channel := "stable"
  createdAt := "2026-01-01T00:00:00Z"
  backend := "bytecode"
  platform := "ios"
  arch := "arm64"
  payload :=
    { kind := "bytecode_module", compression := "none"
      hash := "01b8fd045d7888a2c9b237f73f132a1301a5db76dcf0cd768f84f0288ec49f3f"
      size := 48, downloadUrl := "patches/app/1/ios/arm64/1/payload.bin"
      diffAlgorithm := none, baseHash := none, outputHash := none }
  policy := { rolloutPercentage := 100, allowDowngrade := false }
  signature := { algorithm := "ed25519", keyId := "dev", value := "" }

/-- The signature of the draft by the seed of zeros. -/
def shippedSignature : String × Bytes :=
  ("KFfQn9xXLvpzOxoJWzz5mZeKfoLfJt6nhHCQ1pP40Afn8lp75+o+47HJR629CNxEwKaugsUuvqGdrRdvhoGVDA==",
    [40, 87, 208, 159, 220, 87, 46, 250, 115, 59, 26, 9, 91, 60, 249, 153, 151, 138, 126, 130, 223, 38, 222, 167, 132,
      112, 144, 214, 147, 248, 208, 7, 231, 242, 90, 123, 231, 234, 62, 227, 177, 201, 71, 173, 189, 8, 220, 68, 192,
      166, 174, 130, 197, 46, 190, 161, 157, 173, 23, 111, 134, 129, 149, 12])

def shippedManifest : PatchManifest := shippedDraft.withSignature "ed25519" shippedSignature.1

def shippedFile : Bytes :=
  wireBytes (patchManifestBytes ((Server.PatchManifest.ofUpload shippedManifest).uploaded Server.defaultOrgID))

/-- The SHA-256 of the served manifest. -/
def shippedFileDigest : Bytes :=
  [232, 50, 249, 62, 144, 122, 26, 96, 78, 33, 113, 87, 61, 220, 126, 238, 64, 178, 176, 44, 218, 127, 132, 157, 153,
    195, 48, 27, 108, 142, 158, 70]

/-- The SHA-256 of the token of the setup. -/
def shippedTokenDigest : Bytes :=
  [153, 139, 64, 169, 206, 55, 218, 4, 8, 234, 116, 221, 232, 62, 130, 58, 46, 120, 81, 46, 198, 248, 38, 141, 176,
    254, 150, 76, 64, 70, 142, 77]

def shippedDigests : List (Bytes × Bytes) :=
  [(Updater.samplePayload, Updater.sampleDigest), (shippedFile, shippedFileDigest),
    (stringBytes Server.setupToken.1, shippedTokenDigest)]

/-- The libraries at the inputs below: what they do for the other draft, with the two drafts exchanged. -/
def shippedLib : SigningPrimitives :=
  { draftLib with
    parseManifest := fun bytes =>
      if bytes = shippedFile then .ok shippedManifest else .error (.json "expected value at line 1 column 1")
    sha256 := knownDigests shippedDigests
    decodeBase64 := fun text =>
      (draftLib.decodeBase64 (Equiv.swap draftSignature.1 shippedSignature.1 text)).map
        (Equiv.swap draftSignature.2 shippedSignature.2)
    encodeBase64 := fun bytes => Equiv.swap draftSignature.1 shippedSignature.1
      (draftLib.encodeBase64 (Equiv.swap draftSignature.2 shippedSignature.2 bytes))
    sign := fun seed message => Equiv.swap draftSignature.2 shippedSignature.2
      (draftLib.sign seed (Equiv.swap (canonicalJson draftManifest.toSign.toValue)
        (canonicalJson shippedDraft.toSign.toValue) message))
    verify := fun key message signature =>
      draftLib.verify key (Equiv.swap (canonicalJson draftManifest.toSign.toValue)
        (canonicalJson shippedDraft.toSign.toValue) message)
        (Equiv.swap draftSignature.2 shippedSignature.2 signature) }

theorem shippedLib_lawful : shippedLib.Lawful := by
  have lawful := draftLib_lawful
  constructor
  · intro bytes
    simp only [shippedLib]
    rw [Equiv.swap_apply_self, lawful.decode_encode]
    show Except.ok _ = _
    rw [Equiv.swap_apply_self]
  · exact lawful.keyLength
  · exact lawful.verifyingKey
  · intro seed message length
    rfl
  · intro seed message other length
    simp only [shippedLib]
    rw [Equiv.swap_apply_self]
    exact (lawful.verify_iff seed _ _ length).trans (Equiv.swap _ _).injective.eq_iff

def shippedEnv (token : String) : Server.Environment :=
  { Server.shippingEnv token with
    sha256Hex := shippedLib.sha256Hex
    decodeBase64 := fun text =>
      if text = "RkNCTQAAAAMAAQAGYW5zd2VyAAAAAAABAQAAAAAAAAAqAAAABwEAADAABv8AAAAA" then some Updater.samplePayload
      else none }

/-- A patch that is promoted after its upload. -/
def shipped : Shipment where
  now := 0
  history := [{ Server.shippingSetup with env := shippedEnv Server.setupToken.1 }]
  env := shippedEnv ""
  authorization := "Bearer " ++ Server.setupToken.1
  manifest := shippedManifest
  payloadB64 := "RkNCTQAAAAMAAQAGYW5zd2VyAAAAAAABAQAAAAAAAAAqAAAABwEAADAABv8AAAAA"
  later := [{ Server.shippingPromotion with env := shippedEnv "" }]

def shippedQuery : Server.CheckQuery where
  orgId := ""
  appId := "app"
  releaseVersion := "1"
  platform := "ios"
  arch := "arm64"
  channel := "stable"
  clientId := "client"
  currentPatchNumber := "0"

def shippedPayloadUrl : String :=
  "http://localhost:8080/v1/patches/payload?key=patches%2Fapp%2F1%2Fios%2Farm64%2F1%2Fpayload.bin"

def shippedManifestUrl (query : Server.ManifestQuery) : String :=
  "http://localhost:8080/v1/patches/manifest?app_id=" ++ query.appId ++ "&arch=" ++ query.arch ++ "&patch_number=" ++
    query.patchNumber ++ "&platform=" ++ query.platform ++ "&release_version=" ++ query.releaseVersion

def shippedCheck : Server.PatchCheck where
  patchNumber := 1
  manifestUrl := { orgId := "", appId := "app", releaseVersion := "1", platform := "ios", arch := "arm64", patchNumber := "1" }
  payloadUrl := shippedPayloadUrl
  manifestHash := "e832f93e907a1a604e2171573ddc7eee40b2b02cda7f849d99c3301b6c8e9e46"
  payloadHash := "01b8fd045d7888a2c9b237f73f132a1301a5db76dcf0cd768f84f0288ec49f3f"

/-- The device has a byte from an earlier download. -/
def shippedDevice (byte : UInt8) : Device :=
  Updater.updateDownload { releaseVersion := "1", patchNumber := 1, platform := "ios", arch := "arm64" }
    (fun dir => { dir with part := some [byte], progress := some "1" })
    { Updater.Device.new with
      runtime := { Updater.Runtime.new with
        appId := "app", releaseVersion := "1", platform := "ios", arch := "arm64", publicKeyB64 := zeroKey.1
        serverUrl := "http://localhost:8080", lastCheck := some (toldOf shippedManifestUrl shippedCheck) } }

/-- Both handlers send the whole file. -/
def shippedHttp : Updater.Http where
  get := fun url _ _ =>
    .answered 200 (Updater.bytewise (if url = shippedPayloadUrl then Updater.samplePayload else shippedFile)) ""
  readFile := fun _ => .error (.io "No such file or directory (os error 2)")

def shippedSession : Session :=
  { Updater.sampleSession with
    server := { Updater.sampleServer with download := Updater.downloadBytesFrom shippedHttp fun _ => false } }

def shippedSignedURL (key : String) : Except String String :=
  if key = shippedManifest.payload.downloadUrl then
    .ok "/v1/patches/payload?key=patches%2Fapp%2F1%2Fios%2Farm64%2F1%2Fpayload.bin"
  else .error "object not found"

theorem shippedLib_pair : shippedLib.publicKeyB64FromPrivateKey zeroSeed.1 = .ok zeroKey.1 := by decide

theorem shippedLib_sha256 : shippedLib.sha256 = knownDigests shippedDigests := rfl

theorem shippedLib_parse (bytes : Bytes) : shippedLib.parseManifest bytes =
    if bytes = shippedFile then .ok shippedManifest else .error (.json "expected value at line 1 column 1") := rfl

theorem draftLib_sign : draftLib.sign = draftSigned := rfl

theorem shipped_file : shipped.file defaultOrgID = shippedFile := rfl

theorem draftSigned_draft :
    draftSigned zeroSeed.2 (canonicalJson draftManifest.toSign.toValue) = draftSignature.2 :=
  if_pos (And.intro (Eq.refl _) (Eq.refl _))

theorem shipped_signed : signPatchManifest shippedLib shippedDraft zeroSeed.1 = (.ok (), shipped.manifest) := by
  have seed : shippedLib.privateKeySeed zeroSeed.1 = .ok zeroSeed.2 := by decide
  have signed : shippedLib.sign zeroSeed.2 (canonicalJson shippedDraft.toSign.toValue) = shippedSignature.2 := by
    simp only [shippedLib, draftLib_sign, Equiv.swap_apply_right, draftSigned_draft, Equiv.swap_apply_left]
  have text : shippedLib.encodeBase64 shippedSignature.2 = shippedSignature.1 := by decide
  have signature : shippedLib.signB64 zeroSeed.1 (canonicalJson shippedDraft.toSign.toValue) =
      .ok shippedSignature.1 := by
    unfold SigningPrimitives.signB64
    rw [seed, except_ok_bind, signed, text]
  unfold signPatchManifest
  rw [signature]
  rfl

theorem shipped_accepted : Accepted shippedLib.sha256Hex shipped defaultOrgID Updater.samplePayload := by
  have answered : shipped.created.1.toBool = true := by decide
  constructor
  · constructor
    all_goals decide
  · decide
  · rfl
  · rcases created : shipped.created.1 with error | answer
    · rw [created] at answered
      cases answered
    · exact ⟨answer, rfl⟩
  · intro call member
    rcases List.mem_cons.mp member with rfl | member
    · rfl
    · cases List.mem_singleton.mp member
      rfl
  · intro call member
    cases List.mem_singleton.mp member
    rfl
  · intro call member
    cases List.mem_singleton.mp member
    intro deletes
    obtain ⟨cookie, path, asked, _⟩ := deletes
    cases asked

theorem sha256Hex_shippedFile :
    shippedLib.sha256Hex shippedFile = "e832f93e907a1a604e2171573ddc7eee40b2b02cda7f849d99c3301b6c8e9e46" := by
  have first : decide (Updater.samplePayload = shippedFile) = false := by
    apply decide_eq_false
    intro same
    have first := congrArg List.head? same
    revert first
    decide
  have digest : shippedLib.sha256 shippedFile = shippedFileDigest := by
    rw [shippedLib_sha256]
    unfold knownDigests shippedDigests
    rw [List.find?_cons_of_neg (by rw [first]; exact Bool.false_ne_true), List.find?_cons_of_pos]
    exact decide_eq_true (Eq.refl _)
  unfold Primitives.sha256Hex
  rw [digest]
  decide

theorem sha256Hex_samplePayload : shippedLib.sha256Hex Updater.samplePayload =
    "01b8fd045d7888a2c9b237f73f132a1301a5db76dcf0cd768f84f0288ec49f3f" := by
  decide

theorem shipped_offered (byte : UInt8) :
    Offered shippedLib.sha256Hex shippedManifestUrl shipped defaultOrgID shippedCheck (shippedDevice byte) := by
  have answered : ((Server.checkPatch (shippedEnv "") shippedSignedURL "http://localhost:8080" shippedQuery
      shipped.after).1.toOption.bind id).map (fun check => (check.patchNumber, check.manifestUrl, check.payloadUrl)) =
      some (shippedCheck.patchNumber, shippedCheck.manifestUrl, shippedCheck.payloadUrl) := by decide
  have held := Accepted.held shipped_accepted
  constructor
  · refine ⟨shippedEnv "", shippedSignedURL, "http://localhost:8080", shippedQuery, rfl, ?_, rfl⟩
    rcases found : (Server.checkPatch (shippedEnv "") shippedSignedURL "http://localhost:8080" shippedQuery
      shipped.after).1 with error | _ | check
    · rw [found] at answered
      cases answered
    · rw [found] at answered
      cases answered
    · rw [found] at answered
      obtain ⟨number, rest⟩ := Prod.ext_iff.mp (Option.some.inj answered)
      obtain ⟨manifestUrl, payloadUrl⟩ := Prod.ext_iff.mp rest
      have number : check.patchNumber = shippedCheck.patchNumber := number
      have own : shippedQuery.key check.patchNumber = shipped.key defaultOrgID := by
        rw [number]
        rfl
      obtain ⟨manifestHash, payloadHash, _, _⟩ :=
        Server.checkPatch_announces rfl held.backed held.published found own
      have hashes : (shippedEnv "").sha256Hex = shippedLib.sha256Hex := rfl
      have file : wireBytes (patchManifestBytes (shipped.stored defaultOrgID)) = shippedFile := shipped_file
      rw [hashes, file, sha256Hex_shippedFile] at manifestHash
      rw [hashes, sha256Hex_samplePayload] at payloadHash
      obtain ⟨_, _, _, _, _⟩ := check
      simp only at number manifestUrl payloadUrl manifestHash payloadHash
      rw [number, manifestUrl, payloadUrl, manifestHash, payloadHash]
      rfl
  · rfl

theorem shipped_reads : shippedLib.parseManifest (shipped.file defaultOrgID) =
    readObject PatchManifest.fromMembers (patchManifestBytes (shipped.stored defaultOrgID)) := by
  have filled : Server.NoEmptyTexts shipped.manifest.payload := by
    constructor
    · decide
    · decide
  have held := Accepted.held shipped_accepted
  rw [held.served (Accepted.fits shipped_accepted) filled]
  rw [shipped_file, shippedLib_parse, if_pos (Eq.refl _)]
  rfl

theorem shippedLib_pinned (bytes : Bytes) : Pinned shippedLib.toPrimitives bytes := by
  have injective : Function.Injective (knownDigests shippedDigests) := by
    apply knownDigests_injective
    · decide
    · decide
  intro other same
  exact injective (sha256Hex_eq_iff.mp same)

theorem shipped_equipped (byte : UInt8) :
    Equipped shippedLib.toPrimitives zeroKey.1 shippedManifest Updater.samplePayload (shippedDevice byte) := by
  constructor
  · rfl
  · rfl
  · decide
  · intro parseError corrupt
    cases corrupt
  · constructor
    · decide
    · intro replaces
      have other : shippedManifest.backend ≠ "snapshot_replace" := by decide
      exact absurd replaces other

theorem shippedFile_short : shippedFile.length ≤ maxBodyBytes := by decide +kernel

theorem shippedHttp_sends {url : String} (remote : Updater.isRemote url = true) :
    Updater.Sends shippedHttp url (if url = shippedPayloadUrl then Updater.samplePayload else shippedFile) := by
  constructor
  · exact remote
  · intro attempt range
    exact ⟨_, _, rfl, Updater.bytewise_delivers _⟩

theorem shipped_calm : Calm shippedSession shippedManifestUrl shipped defaultOrgID shippedCheck := by
  have held := Accepted.held shipped_accepted
  obtain ⟨_, _, asks⟩ := (shipped_offered 0).hashes held
  constructor
  · refine ⟨shippedHttp, ⟨fun _ _ => rfl, fun _ => rfl, fun _ => rfl⟩, ?_⟩
    constructor
    · refine ⟨shippedEnv "", fun _ => rfl, ?_⟩
      intro json answered
      obtain rfl := Server.patchManifest_published held.published asks answered
      have sends := @shippedHttp_sends (shippedManifestUrl shippedCheck.manifestUrl) (by decide)
      refine ⟨false, ?_⟩
      rw [sends.downloadBytesFrom, if_neg (by decide), Updater.limited]
      exact congrArg (Except.map (·, false)) (if_pos shippedFile_short)
    · refine ⟨shippedEnv "", rfl, ?_⟩
      intro bytes answered
      rw [Server.patchPayload_published held.published] at answered
      obtain rfl : Updater.samplePayload = bytes := Except.ok.inj answered
      exact @shippedHttp_sends shippedPayloadUrl (by decide)
  · intro call
    rfl

/-- The first byte of the payload is there already. -/
theorem shipped_patch_resumed :
    let after := (downloadAndInstall shippedLib.toPrimitives shippedSession (shippedDevice 70)).2
    Arrived shippedLib.toPrimitives shipped defaultOrgID Updater.samplePayload (shippedDevice 70) after ∧
      Boots shippedLib.toPrimitives 1 after := by
  have held := Accepted.held shipped_accepted
  have readable : Readable shippedLib.toPrimitives zeroKey.1 shipped defaultOrgID Updater.samplePayload := by
    constructor
    · rw [shipped_file, shippedLib_parse, if_pos (Eq.refl _)]
      rfl
    · exact (signPatchManifest_signedBy shippedLib_lawful shippedLib_pair shipped_signed).verified
    · exact shippedLib_pinned _
    · exact shippedLib_pinned _
  have settles := downloadAndInstall_settles shipped_calm held (shipped_offered 70) readable (shipped_equipped 70)
  have installed : (downloadAndInstall shippedLib.toPrimitives shippedSession (shippedDevice 70)).1 = .ok true := by
    rcases ended : downloadAndInstall shippedLib.toPrimitives shippedSession (shippedDevice 70)
      with ⟨error | installed, after⟩
    · exact absurd (settles.of_error ended) (by decide)
    · rw [(settles.of_ok ended).1]
  obtain ⟨arrived, boots⟩ := shipped_patch_exact shippedLib shippedLib_lawful zeroSeed.1 zeroKey.1 shippedDraft shipped
    defaultOrgID Updater.samplePayload shippedManifestUrl shippedCheck shippedSession (shippedDevice 70)
    shippedLib_pair shipped_signed shipped_accepted (shipped_offered 70) shipped_reads (shippedLib_pinned _)
    (shippedLib_pinned _) rfl (shipped_equipped 70).intact installed
  exact ⟨arrived, boots (by decide)⟩

/-- A wrong byte is there. -/
theorem shipped_patch_recovered :
    (downloadAndInstall shippedLib.toPrimitives shippedSession (shippedDevice 0)).1 = .ok true := by
  have filled : Server.NoEmptyTexts shipped.manifest.payload := by
    constructor
    · decide
    · decide
  exact (shipped_patch_arrives shippedLib shippedLib_lawful zeroSeed.1 zeroKey.1 shippedDraft shipped
    Updater.samplePayload shippedManifestUrl shippedCheck shippedSession (shippedDevice 0)
    shippedLib_pair shipped_signed shipped_accepted (shipped_offered 0) filled shipped_reads (shippedLib_pinned _)
    (shippedLib_pinned _) (shipped_equipped 0) shipped_calm).mpr (by decide)

end CodePush.System
