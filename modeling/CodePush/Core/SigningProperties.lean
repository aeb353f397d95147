import CodePush.Core.Canonical
import CodePush.Core.Signing

/-!
# What a signature covers

A signature is checked against the canonical bytes of the manifest, from which every
field but the value of the signature can be read back.
-/

set_option autoImplicit false

namespace CodePush.Core

open CodePush.Foundation CodePush.Foundation.Action

/-!
## Fields
-/

theorem PatchPolicy.toValue_injective {one other : PatchPolicy}
    (same : one.toValue.normalize = other.toValue.normalize) : one = other := by
  unfold PatchPolicy.toValue at same
  have members := normalizeMembers_of_normalize same (by simp) rfl
  simp only [Json.normalizeMembers, Json.normalize, List.cons.injEq, Prod.mk.injEq, Json.num.injEq,
    Json.bool.injEq, Int.natCast_inj, true_and, and_true] at members
  cases one
  cases other
  simp_all

theorem PatchSignature.toValue_injective {one other : PatchSignature}
    (same : one.toValue.normalize = other.toValue.normalize) : one = other := by
  unfold PatchSignature.toValue at same
  have members := normalizeMembers_of_normalize same (by simp) rfl
  simp only [Json.normalizeMembers, Json.normalize, List.cons.injEq, Prod.mk.injEq, Json.str.injEq,
    true_and, and_true] at members
  cases one
  cases other
  simp_all

theorem field?_append (members members' : List (String × Json)) (key : String) :
    Json.field? (members ++ members') key = (Json.field? members key).or (Json.field? members' key) := by
  unfold Json.field?
  rw [List.find?_append, Option.map_or]

theorem field?_optionalMember (key other : String) (value : Option String) :
    Json.field? (optionalMember key value) other = if key = other then value.map Json.str else none := by
  cases value with
  | none => simp [optionalMember, Json.field?]
  | some text =>
      by_cases same : key = other
      · simp [optionalMember, Json.field?, same]
      · simp [optionalMember, Json.field?, same]

theorem optional_normalize_inj {one other : Option String}
    (same : (one.map Json.str).map Json.normalize = (other.map Json.str).map Json.normalize) : one = other := by
  cases one with
  | none =>
      cases other with
      | none => rfl
      | some text => cases same
  | some text =>
      cases other with
      | none => cases same
      | some text' =>
          have texts := Option.some.inj same
          rw [Json.normalize, Json.normalize] at texts
          rw [Json.str.inj texts]

/-- The members of a payload, optional ones included. -/
def PayloadManifest.members (payload : PayloadManifest) : List (String × Json) :=
  [("kind", .str payload.kind), ("compression", .str payload.compression),
    ("hash", .str payload.hash), ("size", .num payload.size),
    ("download_url", .str payload.downloadUrl)] ++
    optionalMember "diff_algorithm" payload.diffAlgorithm ++
    optionalMember "base_hash" payload.baseHash ++
    optionalMember "output_hash" payload.outputHash

theorem PayloadManifest.keys_nodup (payload : PayloadManifest) : (payload.members.map (·.1)).Nodup := by
  unfold PayloadManifest.members
  cases payload.diffAlgorithm <;> cases payload.baseHash <;> cases payload.outputHash <;>
    simp [optionalMember]

theorem PayloadManifest.field?_members (payload : PayloadManifest) :
    Json.field? payload.members "diff_algorithm" = payload.diffAlgorithm.map Json.str ∧
      Json.field? payload.members "base_hash" = payload.baseHash.map Json.str ∧
      Json.field? payload.members "output_hash" = payload.outputHash.map Json.str := by
  unfold PayloadManifest.members
  simp only [field?_append, field?_optionalMember]
  refine ⟨?_, ?_, ?_⟩
  all_goals simp [Json.field?]

theorem PayloadManifest.toValue_injective {one other : PayloadManifest}
    (same : one.toValue.normalize = other.toValue.normalize) : one = other := by
  have fields := field?_of_normalize one.keys_nodup other.keys_nodup same
  obtain ⟨diff, base, output⟩ := one.field?_members
  obtain ⟨diff', base', output'⟩ := other.field?_members
  have sameDiff : one.diffAlgorithm = other.diffAlgorithm := by
    apply optional_normalize_inj
    rw [← diff, ← diff', fields]
  have sameBase : one.baseHash = other.baseHash := by
    apply optional_normalize_inj
    rw [← base, ← base', fields]
  have sameOutput : one.outputHash = other.outputHash := by
    apply optional_normalize_inj
    rw [← output, ← output', fields]
  have keys : one.members.map (·.1) = other.members.map (·.1) := by
    simp [PayloadManifest.members, sameDiff, sameBase, sameOutput]
  have members := normalizeMembers_of_normalize same one.keys_nodup keys
  simp only [normalizeMembers_eq, List.map_append, List.map_cons, List.cons_append,
    Json.normalize, List.cons.injEq, Prod.mk.injEq, Json.str.injEq, Json.num.injEq, Int.natCast_inj,
    true_and] at members
  cases one
  cases other
  simp_all

/-- No two manifests have one canonical form. -/
theorem PatchManifest.toValue_injective {one other : PatchManifest}
    (same : one.toValue.normalize = other.toValue.normalize) : one = other := by
  unfold PatchManifest.toValue at same
  have members := normalizeMembers_of_normalize same (by simp) rfl
  simp only [normalizeMembers_eq, List.map_cons, List.map_nil, List.cons.injEq, Prod.mk.injEq,
    Json.str.injEq, Json.num.injEq, Json.normalize, Int.natCast_inj, true_and, and_true] at members
  obtain ⟨schemaVersion, appId, releaseVersion, patchNumber, channel, createdAt, backend, platform, arch,
    payload, policy, signature⟩ := members
  have payload := PayloadManifest.toValue_injective payload
  have policy := PatchPolicy.toValue_injective policy
  have signature := PatchSignature.toValue_injective signature
  cases one
  cases other
  simp_all

/-!
## Keys
-/

section Keys

variable {lib : SigningPrimitives} {seed : Bytes}

/-- Ends somehow, and the rest goes on from there. -/
theorem ensures_next {ε σ α β : Type} {action : Action ε σ α} {next : α → Action ε σ β} {start : σ}
    {returns : β → σ → Prop}
    (rest : ∀ value middle, Ensures (next value) middle returns fun _ _ => True) :
    Ensures (action >>= next) start returns fun _ _ => True :=
  ensures_bind ((ensures_self action start).mono (fun value middle _ => rest value middle) fun _ _ _ => trivial)

theorem keyPair_seed (data : Bytes) :
    Ensures KeyReader.keyPair data (fun pair _ => pair.2.length = 32) fun _ _ => True := by
  apply ensures_next
  intro check1 rest
  apply ensures_next
  intro check2 rest
  split
  · exact ensures_throw trivial
  · apply ensures_next
    intro keyType rest
    split
    · exact ensures_throw trivial
    · apply ensures_next
      intro publicKey rest
      split
      · exact ensures_throw trivial
      · apply ensures_next
        intro privateKey rest
        split
        · exact ensures_throw trivial
        case isFalse whole =>
          split
          · exact ensures_throw trivial
          · apply ensures_pure
            rw [List.length_take, Decidable.not_not.mp whole]
            rfl

/-- Seeds have 32 bytes, however the key is written down. -/
theorem privateKeySeed_length {keyMaterial : String} (read : lib.privateKeySeed keyMaterial = .ok seed) :
    seed.length = 32 := by
  unfold SigningPrimitives.privateKeySeed at read
  dsimp only at read
  split at read
  · unfold SigningPrimitives.opensshEd25519Seed at read
    obtain ⟨data, _, read⟩ := except_bind_eq_ok.mp read
    obtain ⟨privateBlob, _, read⟩ := except_bind_eq_ok.mp read
    obtain ⟨⟨publicKey, found⟩, pair, read⟩ := except_bind_eq_ok.mp read
    obtain ⟨_, same⟩ := except_guard_eq_ok.mp read
    obtain rfl : found = seed := Except.ok.inj same
    rcases ended : KeyReader.keyPair privateBlob with ⟨outcome, rest⟩
    rw [ended] at pair
    obtain rfl : outcome = .ok (publicKey, found) := pair
    exact (keyPair_seed privateBlob).of_ok ended
  · obtain ⟨key, _, read⟩ := except_bind_eq_ok.mp read
    obtain ⟨length, same⟩ := except_guard_eq_ok.mp read
    obtain rfl : key = seed := Except.ok.inj same
    exact Decidable.not_not.mp length

/-- What `base64` and `ed25519_dalek` promise. A signature is valid for its own message
and for no other one. -/
structure SigningPrimitives.Lawful (lib : SigningPrimitives) : Prop where
  decode_encode : ∀ bytes, lib.decodeBase64 (lib.encodeBase64 bytes) = .ok bytes
  keyLength : ∀ seed : Bytes, seed.length = 32 → (lib.verifyingKeyOf seed).length = 32
  verifyingKey : ∀ seed : Bytes, seed.length = 32 → lib.verifyingKey (lib.verifyingKeyOf seed) = .ok ()
  signature : ∀ (seed message : Bytes), seed.length = 32 → lib.signature (lib.sign seed message) = .ok ()
  verify_iff : ∀ (seed message other : Bytes), seed.length = 32 →
    (lib.verify (lib.verifyingKeyOf seed) other (lib.sign seed message) = .ok () ↔ other = message)

/-- A signature by a seed is checked with the key of the seed. -/
theorem verifyB64_sign_iff (lawful : lib.Lawful) (length : seed.length = 32) (message other : Bytes) :
    lib.verifyB64 (lib.encodeBase64 (lib.verifyingKeyOf seed)) other
        (lib.encodeBase64 (lib.sign seed message)) = .ok () ↔ other = message := by
  unfold Primitives.verifyB64
  rw [lawful.decode_encode, lawful.decode_encode]
  simp only [mapErr, except_ok_bind, lawful.keyLength seed length, lawful.verifyingKey seed length,
    lawful.signature seed message length, ne_eq, not_true_eq_false, if_false]
  rw [← lawful.verify_iff seed message other length]
  cases lib.verify (lib.verifyingKeyOf seed) other (lib.sign seed message) with
  | ok value => simp
  | error text => simp [err]

end Keys

/-!
## Signatures
-/

section Signatures

variable {lib : SigningPrimitives} {manifest other : PatchManifest}

theorem toSign_eq_iff : manifest.toSign = other.toSign ↔
    other.withSignature manifest.signature.algorithm manifest.signature.value = manifest := by
  constructor
  · intro same
    have restored := congrArg
      (·.withSignature manifest.signature.algorithm manifest.signature.value) same
    exact restored.symm
  · intro same
    rw [← same]
    rfl

theorem unsigned_eq_iff : manifest.unsigned = other.unsigned ↔
    other.withSignature other.signature.algorithm manifest.signature.value = manifest := by
  constructor
  · intro same
    have algorithm : manifest.signature.algorithm = other.signature.algorithm :=
      congrArg (·.signature.algorithm) same
    have restored := congrArg
      (·.withSignature manifest.signature.algorithm manifest.signature.value) same
    rw [← algorithm]
    exact restored.symm
  · intro same
    rw [← same]
    rfl

theorem canonicalJson_toValue_iff :
    canonicalJson manifest.toValue = canonicalJson other.toValue ↔ manifest = other := by
  constructor
  · intro same
    exact PatchManifest.toValue_injective (canonicalJson_eq_iff.mp same)
  · intro same
    rw [same]

theorem unsigned_withSignature (signed : String) :
    (manifest.withSignature "ed25519" signed).unsigned = manifest.toSign := rfl

/-- What a key pair makes of a manifest, and what its public key makes of a signature. -/
theorem signPatchManifest_keyPair (lawful : lib.Lawful) {privateKey publicKey : String}
    (pair : lib.publicKeyB64FromPrivateKey privateKey = .ok publicKey) (manifest : PatchManifest) :
    ∃ signedB64, signPatchManifest lib manifest privateKey = (.ok (), manifest.withSignature "ed25519" signedB64) ∧
      ∀ message, lib.verifyB64 publicKey message signedB64 = .ok () ↔
        message = canonicalJson manifest.toSign.toValue := by
  obtain ⟨seed, read, same⟩ := except_bind_eq_ok.mp pair
  obtain rfl := Except.ok.inj same
  have length := privateKeySeed_length read
  refine ⟨lib.encodeBase64 (lib.sign seed (canonicalJson manifest.toSign.toValue)), ?_, ?_⟩
  · unfold signPatchManifest SigningPrimitives.signB64
    rw [read]
    rfl
  · intro message
    exact verifyB64_sign_iff lawful length _ message

end Signatures

/-- What is signed is checked; canonical JSON has no order; and the checked bytes are
those of one manifest only, but for the value of its signature. -/
theorem signing_sound_and_unambiguous (lib : SigningPrimitives) (lawful : lib.Lawful) :
    (∀ (manifest : PatchManifest) (privateKey publicKey : String),
      lib.publicKeyB64FromPrivateKey privateKey = .ok publicKey →
      ∃ signedB64,
        signPatchManifest lib manifest privateKey = (.ok (), manifest.withSignature "ed25519" signedB64) ∧
        verifyPatchManifest lib.toPrimitives (manifest.withSignature "ed25519" signedB64) publicKey = .ok () ∧
        ∀ other : PatchManifest, verifyPatchManifest lib.toPrimitives
            (other.withSignature other.signature.algorithm signedB64) publicKey = .ok () →
          other.withSignature other.signature.algorithm signedB64 =
            manifest.withSignature "ed25519" signedB64) ∧
    (∀ one other : Json, one.Reordered other → canonicalJson one = canonicalJson other) ∧
    (∀ manifest other : PatchManifest,
      canonicalJson manifest.toSign.toValue = canonicalJson other.toSign.toValue ↔
        other.withSignature manifest.signature.algorithm manifest.signature.value = manifest) ∧
    ∀ manifest other : PatchManifest,
      canonicalJson manifest.unsigned.toValue = canonicalJson other.unsigned.toValue ↔
        other.withSignature other.signature.algorithm manifest.signature.value = manifest := by
  refine ⟨?_, fun _ _ => canonicalJson_reordered, ?_, ?_⟩
  · intro manifest privateKey publicKey pair
    obtain ⟨signedB64, signs, checks⟩ := signPatchManifest_keyPair lawful pair manifest
    refine ⟨signedB64, signs, ?_, ?_⟩
    · unfold verifyPatchManifest
      rw [if_neg (fun different => different rfl)]
      exact (checks _).mpr rfl
    · intro other verified
      unfold verifyPatchManifest at verified
      split at verified
      · cases verified
      case isFalse algorithm =>
        have bytes := (checks _).mp verified
        have same := canonicalJson_toValue_iff.mp bytes
        have named : other.signature.algorithm = "ed25519" := Decidable.not_not.mp algorithm
        rw [← unsigned_withSignature signedB64] at same
        rw [unsigned_eq_iff] at same
        exact same.symm
  · intro manifest other
    rw [canonicalJson_toValue_iff, toSign_eq_iff]
  · intro manifest other
    rw [canonicalJson_toValue_iff, unsigned_eq_iff]

/-!
## A key pair
-/

def draftManifest : PatchManifest where
  schemaVersion := 1
  appId := "00000000-0000-0000-0000-000000000001"
  releaseVersion := "1.0.0+1"
  patchNumber := 1
  channel := "stable"
  createdAt := "1970-01-01T00:00:00Z"
  backend := "snapshot_replace"
  platform := "android"
  arch := "arm64-v8a"
  payload :=
    { kind := "opaque_payload", compression := "none"
      hash := "0000000000000000000000000000000000000000000000000000000000000000"
      size := 0, downloadUrl := "patches/app/release/payload.bin"
      diffAlgorithm := none, baseHash := none, outputHash := none }
  policy := { rolloutPercentage := 0, allowDowngrade := false }
  signature := { algorithm := "ed25519", keyId := "dev", value := "" }

def zeroSeed : String × Bytes :=
  ("AAAAAAAAAAAAAAAAAAAAAAAAAAAAAAAAAAAAAAAAAAA=", List.replicate 32 0)

def zeroKey : String × Bytes :=
  ("O2onvM62pC1io6jQKm8Nc2UyFXcd4kOmOsBIoYtZ2ik=",
    [59, 106, 39, 188, 206, 182, 164, 45, 98, 163, 168, 208, 42, 111, 13, 115, 101, 50, 21, 119, 29,
      226, 67, 166, 58, 192, 72, 161, 139, 89, 218, 41])

/-- The signature of the draft by the seed. -/
def draftSignature : String × Bytes :=
  ("b9+wgRD0+yLyRfQxuPAaZL/tW5Kn/ACEt6zYnLtNVAU535OSkY3eYSc1L2VXAR+hThPBZGOKatgBxJXJJS61Bw==",
    [111, 223, 176, 129, 16, 244, 251, 34, 242, 69, 244, 49, 184, 240, 26, 100, 191, 237, 91, 146,
      167, 252, 0, 132, 183, 172, 216, 156, 187, 77, 84, 5, 57, 223, 147, 146, 145, 141, 222, 97, 39,
      53, 47, 101, 87, 1, 31, 161, 78, 19, 193, 100, 99, 138, 106, 216, 1, 196, 149, 201, 37, 46, 181, 7])

/-- The libraries at the inputs above; elsewhere a signature is the message behind a zero. -/
def draftSigned (seed message : Bytes) : Bytes :=
  if seed = zeroSeed.2 ∧ message = canonicalJson draftManifest.toSign.toValue then draftSignature.2
  else 0 :: message

def otherEncoding (bytes : Bytes) : String :=
  String.ofList ('#' :: bytes.map fun byte => Char.ofNat byte.toNat)

def draftLib : SigningPrimitives where
  parseManifest := fun _ => .error (.json "expected value at line 1 column 1")
  parseModule := fun _ => .error (.json "expected value at line 1 column 1")
  parseSimpleDiff := fun _ => .error (.json "expected value at line 1 column 1")
  sha256 := fun _ => []
  decodeBase64 := fun text =>
    if text = zeroSeed.1 then .ok zeroSeed.2
    else if text = zeroKey.1 then .ok zeroKey.2
    else if text = draftSignature.1 then .ok draftSignature.2
    else
      match text.toList with
      | '#' :: rest => .ok (rest.map fun char => UInt8.ofNat char.toNat)
      | _ => .error "Invalid symbol"
  encodeBase64 := fun bytes =>
    if bytes = zeroSeed.2 then zeroSeed.1
    else if bytes = zeroKey.2 then zeroKey.1
    else if bytes = draftSignature.2 then draftSignature.1
    else otherEncoding bytes
  verifyingKey := fun _ => .ok ()
  signature := fun _ => .ok ()
  verify := fun key message signature =>
    let seed := if key = zeroKey.2 then zeroSeed.2 else []
    if signature = draftSigned seed message then .ok () else .error "signature error"
  zstdDecode := fun _ => .error (.io "Unknown frame descriptor")
  bsdiffPatch := fun _ _ => .error (.io "failed to fill whole buffer")
  verifyingKeyOf := fun seed => if seed = zeroSeed.2 then zeroKey.2 else List.replicate 32 0
  sign := draftSigned

theorem draftSigned_inj {seed message other : Bytes} (same : draftSigned seed message = draftSigned seed other) :
    message = other := by
  unfold draftSigned at same
  split at same
  case isTrue signed =>
    split at same
    case isTrue signed' => exact signed.2.trans signed'.2.symm
    case isFalse => cases (List.cons.inj same).1
  case isFalse =>
    split at same
    · cases (List.cons.inj same).1
    · exact (List.cons.inj same).2

theorem decode_otherEncoding (bytes : Bytes) : draftLib.decodeBase64 (otherEncoding bytes) = .ok bytes := by
  have marked : (otherEncoding bytes).toList = '#' :: bytes.map fun byte => Char.ofNat byte.toNat := by
    simp [otherEncoding]
  have apart : ∀ text : String, text.toList.head? ≠ some '#' → otherEncoding bytes ≠ text := by
    rintro _ unmarked rfl
    rw [marked] at unmarked
    exact unmarked rfl
  have read : ∀ byte : UInt8, UInt8.ofNat (Char.ofNat byte.toNat).toNat = byte := by
    intro byte
    have small : ∀ code < 256, (Char.ofNat code).toNat = code := by decide +kernel
    rw [small byte.toNat byte.toNat_lt, UInt8.ofNat_toNat]
  simp only [draftLib]
  rw [if_neg (apart _ (by decide)), if_neg (apart _ (by decide)), if_neg (apart _ (by decide)), marked]
  simp only [List.map_map, Function.comp_def, read, List.map_id']

theorem draftLib_lawful : draftLib.Lawful := by
  constructor
  · intro bytes
    by_cases seed : bytes = zeroSeed.2
    · subst seed
      decide
    · by_cases key : bytes = zeroKey.2
      · subst key
        decide
      · by_cases signed : bytes = draftSignature.2
        · subst signed
          decide
        · have encoded : draftLib.encodeBase64 bytes = otherEncoding bytes := by
            simp only [draftLib, seed, key, signed, if_false]
          rw [encoded, decode_otherEncoding]
  · intro seed _
    simp only [draftLib]
    split
    · decide
    · decide
  · intro seed _
    rfl
  · intro seed message _
    rfl
  · intro seed message other _
    have same : (if (if seed = zeroSeed.2 then zeroKey.2 else List.replicate 32 0) = zeroKey.2 then zeroSeed.2
        else []) = if seed = zeroSeed.2 then seed else [] := by
      by_cases zero : seed = zeroSeed.2
      · simp [zero]
      · simp only [zero, if_false]
        decide
    simp only [draftLib, same]
    have elsewhere : ∀ message, draftSigned (if seed = zeroSeed.2 then seed else []) message =
        draftSigned seed message := by
      intro message
      by_cases zero : seed = zeroSeed.2
      · rw [if_pos zero]
      · have nothing : ([] : Bytes) ≠ zeroSeed.2 := by decide
        simp [draftSigned, zero, nothing]
    rw [elsewhere]
    constructor
    · intro verified
      split at verified
      case isTrue signed => exact (draftSigned_inj signed).symm
      case isFalse => cases verified
    · rintro rfl
      rw [if_pos rfl]

theorem draft_signed_and_verified :
    ∃ signedB64, signPatchManifest draftLib draftManifest zeroSeed.1 =
        (.ok (), draftManifest.withSignature "ed25519" signedB64) ∧
      verifyPatchManifest draftLib.toPrimitives (draftManifest.withSignature "ed25519" signedB64) zeroKey.1 =
        .ok () := by
  have pair : draftLib.publicKeyB64FromPrivateKey zeroSeed.1 = .ok zeroKey.1 := by decide
  obtain ⟨signedB64, signs, verifies, _⟩ :=
    (signing_sound_and_unambiguous draftLib draftLib_lawful).1 draftManifest zeroSeed.1 zeroKey.1 pair
  exact ⟨signedB64, signs, verifies⟩

/-- Signing replaces the algorithm, so it signs the same for both. -/
theorem algorithm_not_signed :
    ¬ ∀ manifest other : PatchManifest,
      canonicalJson manifest.toSign.toValue = canonicalJson other.toSign.toValue ↔
        other.withSignature other.signature.algorithm manifest.signature.value = manifest := by
  intro unambiguous
  have same := (unambiguous (draftManifest.withSignature "custom" "") draftManifest).mp rfl
  exact absurd (congrArg (·.signature.algorithm) same) (by decide)

end CodePush.Core
