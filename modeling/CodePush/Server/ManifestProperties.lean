import CodePush.Server.Manifest

/-!
# A manifest's way through the server

A manifest is uploaded by the CLI, read into the server's structs, kept as JSON,
read again, and sent to devices, which read it into the CLI's types. Texts that are
present but empty do not survive this; everything else does.
-/

set_option autoImplicit false

namespace CodePush.Server

open CodePush.Core CodePush.Foundation

theorem decodeInt_toInt (old value : Int64) : decodeInt old (.num value.toInt) = .ok value := by
  rw [decodeInt, if_pos ⟨value.le_toInt, value.toInt_lt⟩, Int64.ofInt_toInt]

theorem decodeInt_natCast (old : Int64) {value : Nat} (fits : value < 2 ^ 63) :
    decodeInt old (.num value) = .ok (Int64.ofInt value) := by
  have bound : (value : Int) < 2 ^ 63 := by exact_mod_cast fits
  rw [decodeInt, if_pos ⟨by omega, bound⟩]

namespace PatchManifest

/-- What is stored reads back. -/
theorem unmarshal_marshal (patch : PatchManifest) : unmarshal zero patch.marshal = .ok patch := by
  have policy : PatchPolicy.zero.unmarshal patch.policy.marshal = .ok patch.policy :=
    PatchPolicy.unmarshal_members (decodeInt_toInt 0 _) _
  simp only [unmarshal, decodeStruct, marshal, wireMembers, List.append_assoc]
  rw [decodeMembers_wire (decodeInt_toInt 0 _) (decodeInt_toInt 0 _)
    patch.payload.unmarshal_marshal policy patch.signature.unmarshal_marshal,
    decodeMembers_append_of_ok (rfl : decodeMembers assign [("active", .bool patch.active)] _ = .ok _),
    decodeMembers_append_of_ok (decodeMembers_omitEmpty rfl fun empty => by rw [empty]; rfl)]
  split
  case isTrue unset =>
    cases patch
    dsimp only at unset
    subst unset
    rfl
  case isFalse =>
    have rollout := decodeInt_toInt 0 patch.activeRollout
    simp [decodeMembers, assign, fieldNamed_of_mem, names, zero, rollout]

/-- What the server makes of an upload. -/
def ofUpload (manifest : Core.PatchManifest) : PatchManifest where
  schemaVersion := Int64.ofInt manifest.schemaVersion
  appId := manifest.appId
  releaseVersion := manifest.releaseVersion
  patchNumber := Int64.ofInt manifest.patchNumber
  channel := manifest.channel
  createdAt := manifest.createdAt
  backend := manifest.backend
  platform := manifest.platform
  arch := manifest.arch
  payload := .ofUpload manifest.payload
  policy :=
    { rolloutPercentage := Int64.ofInt manifest.policy.rolloutPercentage
      allowDowngrade := manifest.policy.allowDowngrade }
  signature :=
    { algorithm := manifest.signature.algorithm, keyId := manifest.signature.keyId
      value := manifest.signature.value }
  active := false
  activeChannel := ""
  activeRollout := 0

theorem unmarshal_toValue {manifest : Core.PatchManifest} (fits : manifest.Fits) :
    unmarshal zero manifest.toValue = .ok (ofUpload manifest) := by
  have wide : ∀ {value width : Nat}, value < 2 ^ width → width < 63 → value < 2 ^ 63 := by
    intro value width small narrow
    exact small.trans (Nat.pow_lt_pow_right (by omega) narrow)
  have policy : PatchPolicy.zero.unmarshal manifest.policy.toValue = .ok _ :=
    PatchPolicy.unmarshal_members (decodeInt_natCast 0 (wide fits.rolloutPercentage (by omega))) _
  have signature : PatchSignature.zero.unmarshal manifest.signature.toValue = .ok _ :=
    PatchSignature.unmarshal_marshal ⟨_, _, _⟩
  exact decodeMembers_wire (decodeInt_natCast 0 (wide fits.schemaVersion (by omega)))
    (decodeInt_natCast 0 (wide fits.patchNumber (by omega)))
    (PayloadManifest.unmarshal_toValue fits.size) policy signature []

end PatchManifest

/-!
## What a device reads
-/

section Members

theorem filter_omitEmpty_self (key value : String) :
    (omitEmpty key value).filter (·.1 = key) = omitEmpty key value := by
  unfold omitEmpty
  split
  · rfl
  · simp

theorem filter_omitEmpty_other {key other : String} (different : key ≠ other) (value : String) :
    (omitEmpty key value).filter (·.1 = other) = [] := by
  unfold omitEmpty
  split
  · rfl
  · simp [different]

/-- A text that was sent, or its absence if it was empty. -/
def presentText (value : String) : Option String := if value.isEmpty then none else some value

theorem optionalString_of_filter {members : List (String × Json)} {key value : String}
    (found : members.filter (·.1 = key) = omitEmpty key value) :
    optionalString members key = .ok (presentText value) := by
  unfold optionalString memberOf presentText
  rw [found]
  unfold omitEmpty
  by_cases empty : value.isEmpty = true
  · simp [empty]
  · simp [empty, readString]

theorem required_of_filter {α : Type} {read : Json → Result α} {members : List (String × Json)}
    {key : String} (value : Json) (found : members.filter (·.1 = key) = [(key, value)]) :
    required read members key = read value := by
  unfold required memberOf
  rw [found]
  rfl

end Members

theorem readUnsigned_natCast {width value : Nat} (fits : value < 2 ^ width) :
    readUnsigned width (.num value) = .ok value := by
  have bound : (value : Int) < 2 ^ width := by exact_mod_cast fits
  rw [readUnsigned, if_pos ⟨Int.natCast_nonneg _, bound⟩, Int.toNat_natCast]

/-- The payload that a device reads. -/
def PayloadManifest.onDevice (payload : PayloadManifest) : Core.PayloadManifest where
  kind := payload.kind
  compression := payload.compression
  hash := payload.hash
  size := payload.size.toNat
  downloadUrl := payload.downloadUrl
  diffAlgorithm := presentText payload.diffAlgorithm
  baseHash := presentText payload.baseHash
  outputHash := presentText payload.outputHash

theorem PayloadManifest.fromMembers_members (payload : PayloadManifest) :
    Core.PayloadManifest.fromMembers payload.members = .ok payload.onDevice := by
  have kind : required readString payload.members "kind" = .ok payload.kind :=
    required_of_filter (.str payload.kind) (by simp [members, filter_omitEmpty_other])
  have compression : required readString payload.members "compression" = .ok payload.compression :=
    required_of_filter (.str payload.compression) (by simp [members, filter_omitEmpty_other])
  have hash : required readString payload.members "hash" = .ok payload.hash :=
    required_of_filter (.str payload.hash) (by simp [members, filter_omitEmpty_other])
  have size : required (readUnsigned 64) payload.members "size" = .ok payload.size.toNat :=
    (required_of_filter (.num payload.size.toNat) (by simp [members, filter_omitEmpty_other])).trans
      (readUnsigned_natCast payload.size.toNat_lt)
  have downloadUrl : required readString payload.members "download_url" = .ok payload.downloadUrl :=
    required_of_filter (.str payload.downloadUrl) (by simp [members, filter_omitEmpty_other])
  have diffAlgorithm : optionalString payload.members "diff_algorithm" =
      .ok (presentText payload.diffAlgorithm) :=
    optionalString_of_filter (by simp [members, filter_omitEmpty_self, filter_omitEmpty_other])
  have baseHash : optionalString payload.members "base_hash" = .ok (presentText payload.baseHash) :=
    optionalString_of_filter (by simp [members, filter_omitEmpty_self, filter_omitEmpty_other])
  have outputHash : optionalString payload.members "output_hash" =
      .ok (presentText payload.outputHash) :=
    optionalString_of_filter (by simp [members, filter_omitEmpty_self, filter_omitEmpty_other])
  simp only [Core.PayloadManifest.fromMembers, kind, compression, hash, size, downloadUrl,
    diffAlgorithm, baseHash, outputHash, except_ok_bind]
  rfl

theorem toInt_ofInt_natCast {value width : Nat} (fits : value < 2 ^ width) (narrow : width < 63) :
    (Int64.ofInt value).toInt = value := by
  have bound : value < 2 ^ 63 := fits.trans (Nat.pow_lt_pow_right (by omega) narrow)
  exact Int64.toInt_ofInt_of_le (by omega) (by exact_mod_cast bound)

theorem readUnsigned_toInt {value width : Nat} (fits : value < 2 ^ width) (narrow : width < 63) :
    readUnsigned width (.num (Int64.ofInt value).toInt) = .ok value := by
  rw [toInt_ofInt_natCast fits narrow]
  exact readUnsigned_natCast fits

/-- The manifest that a device reads where `manifest` was uploaded. -/
def servedManifest (manifest : Core.PatchManifest) (downloadUrl : String) : Core.PatchManifest :=
  { manifest with
    payload :=
      { manifest.payload with
        downloadUrl
        diffAlgorithm := manifest.payload.diffAlgorithm.bind presentText
        baseHash := manifest.payload.baseHash.bind presentText
        outputHash := manifest.payload.outputHash.bind presentText } }

theorem presentText_getD (value : Option String) :
    presentText (value.getD "") = value.bind presentText := by
  cases value with
  | none => rfl
  | some text => rfl

theorem PayloadManifest.onDevice_ofUpload {payload : Core.PayloadManifest}
    (fits : payload.size < 2 ^ 64) (downloadUrl : String) :
    { ofUpload payload with downloadUrl }.onDevice =
      { payload with
        downloadUrl
        diffAlgorithm := payload.diffAlgorithm.bind presentText
        baseHash := payload.baseHash.bind presentText
        outputHash := payload.outputHash.bind presentText } := by
  have size : (UInt64.ofNat payload.size).toNat = payload.size := UInt64.toNat_ofNat_of_lt fits
  simp only [onDevice, ofUpload, size, presentText_getD]

theorem PatchPolicy.fromMembers_marshal {policy : PatchPolicy} {rolloutPercentage : Nat}
    (rolloutRead : readUnsigned 8 (.num policy.rolloutPercentage.toInt) = .ok rolloutPercentage) :
    readObject Core.PatchPolicy.fromMembers policy.marshal =
      .ok { rolloutPercentage, allowDowngrade := policy.allowDowngrade } := by
  simp [marshal, readObject, Core.PatchPolicy.fromMembers, required, memberOf, rolloutRead, readBool]

theorem PatchSignature.fromMembers_marshal (signature : PatchSignature) :
    readObject Core.PatchSignature.fromMembers signature.marshal =
      .ok { algorithm := signature.algorithm, keyId := signature.keyId, value := signature.value } := by
  simp [marshal, readObject, Core.PatchSignature.fromMembers, required, memberOf, readString]

theorem PatchManifest.fromMembers_wireMembers (patch : PatchManifest)
    {schemaVersion patchNumber rolloutPercentage : Nat}
    (schemaRead : readUnsigned 32 (.num patch.schemaVersion.toInt) = .ok schemaVersion)
    (numberRead : readUnsigned 32 (.num patch.patchNumber.toInt) = .ok patchNumber)
    (rolloutRead : readUnsigned 8 (.num patch.policy.rolloutPercentage.toInt) =
      .ok rolloutPercentage) :
    Core.PatchManifest.fromMembers patch.wireMembers =
      .ok
        { schemaVersion, appId := patch.appId, releaseVersion := patch.releaseVersion, patchNumber
          channel := patch.channel, createdAt := patch.createdAt, backend := patch.backend
          platform := patch.platform, arch := patch.arch, payload := patch.payload.onDevice
          policy := { rolloutPercentage, allowDowngrade := patch.policy.allowDowngrade }
          signature :=
            { algorithm := patch.signature.algorithm, keyId := patch.signature.keyId
              value := patch.signature.value } } := by
  have payload : readObject Core.PayloadManifest.fromMembers patch.payload.marshal =
      .ok patch.payload.onDevice := patch.payload.fromMembers_members
  simp [Core.PatchManifest.fromMembers, wireMembers, required, memberOf, readString, schemaRead,
    numberRead, payload, PatchPolicy.fromMembers_marshal rolloutRead,
    PatchSignature.fromMembers_marshal]

theorem fromMembers_served {manifest : Core.PatchManifest} (fits : manifest.Fits)
    (downloadUrl : String) :
    Core.PatchManifest.fromMembers
      ((PatchManifest.ofUpload manifest).withDownloadUrl downloadUrl).wireMembers =
      .ok (servedManifest manifest downloadUrl) := by
  have schemaRead : readUnsigned 32 (.num (PatchManifest.ofUpload manifest).schemaVersion.toInt) =
      .ok manifest.schemaVersion := readUnsigned_toInt fits.schemaVersion (by omega)
  have numberRead : readUnsigned 32 (.num (PatchManifest.ofUpload manifest).patchNumber.toInt) =
      .ok manifest.patchNumber := readUnsigned_toInt fits.patchNumber (by omega)
  have rolloutRead : readUnsigned 8
      (.num (PatchManifest.ofUpload manifest).policy.rolloutPercentage.toInt) =
      .ok manifest.policy.rolloutPercentage := readUnsigned_toInt fits.rolloutPercentage (by omega)
  have payload : ((PatchManifest.ofUpload manifest).withDownloadUrl downloadUrl).payload.onDevice =
      (servedManifest manifest downloadUrl).payload :=
    PayloadManifest.onDevice_ofUpload fits.size downloadUrl
  rw [PatchManifest.fromMembers_wireMembers
    ((PatchManifest.ofUpload manifest).withDownloadUrl downloadUrl) schemaRead numberRead rolloutRead,
    payload]
  rfl

theorem bind_presentText_eq_self {value : Option String} :
    value.bind presentText = value ↔ value ≠ some "" := by
  cases value with
  | none => simp
  | some text =>
      by_cases empty : text = ""
      · simp [presentText, empty]
      · simp [presentText, empty]

/-- What a device verifies is what was uploaded, unless the address was changed or a
text is present and empty. -/
theorem servedManifest_unsigned {manifest : Core.PatchManifest} {downloadUrl : String} :
    (servedManifest manifest downloadUrl).unsigned = manifest.unsigned ↔
      downloadUrl = manifest.payload.downloadUrl ∧ manifest.payload.diffAlgorithm ≠ some "" ∧
        manifest.payload.baseHash ≠ some "" ∧ manifest.payload.outputHash ≠ some "" := by
  simp only [← bind_presentText_eq_self]
  constructor
  · intro same
    have payload : (servedManifest manifest downloadUrl).unsigned.payload =
        manifest.unsigned.payload := congrArg Core.PatchManifest.payload same
    exact ⟨congrArg Core.PayloadManifest.downloadUrl payload,
      congrArg Core.PayloadManifest.diffAlgorithm payload,
      congrArg Core.PayloadManifest.baseHash payload,
      congrArg Core.PayloadManifest.outputHash payload⟩
  · intro same
    obtain ⟨url, diffAlgorithm, baseHash, outputHash⟩ := same
    unfold servedManifest
    rw [url, diffAlgorithm, baseHash, outputHash]

end CodePush.Server
