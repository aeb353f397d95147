import CodePush.Core.Manifest
import CodePush.Foundation.Except

/-!
# Patch manifests in the server

The Go structs of `server/types.go` and how `encoding/json` reads and writes them.
A field with `omitempty` is not written when it has its zero value; a member that
is missing leaves its field alone.
-/

set_option autoImplicit false

namespace CodePush.Server

open CodePush.Core CodePush.Foundation

/-!
## encoding/json
-/

/-- `foldName`: keys match a field's name up to case. The Kelvin sign and the long s
fold to letters. -/
def foldKey (key : String) : List Char :=
  key.toList.map fun char =>
    if char = '\u212a' then 'k' else if char = '\u017f' then 's' else char.toLower

def fieldNamed (names : List String) (key : String) : Option String :=
  if key ∈ names then some key else names.find? fun name => foldKey name = foldKey key

theorem fieldNamed_of_mem {names : List String} {key : String} (known : key ∈ names) :
    fieldNamed names key = some key := if_pos known

def mismatch {α : Type} (value : Json) (type : String) : Except String α :=
  let kind := match value with
    | .null => "null"
    | .bool _ => "bool"
    | .num number => s!"number {number}"
    | .str _ => "string"
    | .arr _ => "array"
    | .obj _ => "object"
  .error s!"json: cannot unmarshal {kind} into Go value of type {type}"

def decodeString (old : String) : Json → Except String String
  | .str value => .ok value
  | .null => .ok old
  | value => mismatch value "string"

def decodeBool (old : Bool) : Json → Except String Bool
  | .bool value => .ok value
  | .null => .ok old
  | value => mismatch value "bool"

def decodeInt (old : Int64) : Json → Except String Int64
  | .num value =>
      if -2 ^ 63 ≤ value ∧ value < 2 ^ 63 then .ok (Int64.ofInt value)
      else mismatch (.num value) "int"
  | .null => .ok old
  | value => mismatch value "int"

def decodeUint64 (old : UInt64) : Json → Except String UInt64
  | .num value =>
      if 0 ≤ value ∧ value < 2 ^ 64 then .ok (UInt64.ofNat value.toNat)
      else mismatch (.num value) "uint64"
  | .null => .ok old
  | value => mismatch value "uint64"

section Structs

variable {ρ : Type}

/-- The members in order, each into the field that its key names. -/
def decodeMembers (assign : String → Json → ρ → Except String ρ) :
    List (String × Json) → ρ → Except String ρ
  | [], record => .ok record
  | (key, value) :: members, record => do
      let record ← assign key value record
      decodeMembers assign members record

def decodeStruct (type : String) (assign : String → Json → ρ → Except String ρ) (old : ρ) :
    Json → Except String ρ
  | .obj members => decodeMembers assign members old
  | .null => .ok old
  | value => mismatch value type

/-- A text member with `omitempty`. -/
def omitEmpty (key value : String) : List (String × Json) :=
  if value.isEmpty then [] else [(key, .str value)]

variable {assign : String → Json → ρ → Except String ρ}

theorem decodeMembers_append (first second : List (String × Json)) (record : ρ) :
    decodeMembers assign (first ++ second) record =
      decodeMembers assign first record >>= decodeMembers assign second := by
  induction first generalizing record with
  | nil => rfl
  | cons member members ih =>
      obtain ⟨key, value⟩ := member
      simp only [List.cons_append, decodeMembers]
      cases assign key value record with
      | error message => rfl
      | ok assigned => exact ih assigned

theorem decodeMembers_append_of_ok {first second : List (String × Json)} {record middle : ρ}
    (decoded : decodeMembers assign first record = .ok middle) :
    decodeMembers assign (first ++ second) record = decodeMembers assign second middle := by
  rw [decodeMembers_append, decoded]
  rfl

theorem decodeMembers_omitEmpty {key value : String} {record assigned : ρ}
    (assigns : assign key (.str value) record = .ok assigned) (zero : value = "" → record = assigned) :
    decodeMembers assign (omitEmpty key value) record = .ok assigned := by
  unfold omitEmpty
  split
  case isTrue empty => rw [decodeMembers, zero (String.isEmpty_iff.mp empty)]
  case isFalse => simp [decodeMembers, assigns]

theorem decodeMembers_optionalMember {key : String} {value : Option String} {record assigned : ρ}
    (assigns : assign key (.str (value.getD "")) record = .ok assigned)
    (zero : value = none → record = assigned) :
    decodeMembers assign (optionalMember key value) record = .ok assigned := by
  cases value with
  | none => rw [optionalMember, decodeMembers, zero rfl]
  | some text =>
      have assigns : assign key (.str text) record = .ok assigned := assigns
      simp [optionalMember, decodeMembers, assigns]

end Structs

/-!
## The structs
-/

structure PayloadManifest where
  kind : String
  compression : String
  hash : String
  size : UInt64
  downloadUrl : String
  diffAlgorithm : String
  baseHash : String
  outputHash : String
  deriving Repr, DecidableEq

namespace PayloadManifest

def zero : PayloadManifest where
  kind := ""
  compression := ""
  hash := ""
  size := 0
  downloadUrl := ""
  diffAlgorithm := ""
  baseHash := ""
  outputHash := ""

def names : List String :=
  ["kind", "compression", "hash", "size", "download_url", "diff_algorithm", "base_hash",
    "output_hash"]

def assign (key : String) (value : Json) (payload : PayloadManifest) :
    Except String PayloadManifest :=
  match fieldNamed names key with
  | some "kind" => (decodeString payload.kind value).map ({ payload with kind := · })
  | some "compression" => (decodeString payload.compression value).map ({ payload with compression := · })
  | some "hash" => (decodeString payload.hash value).map ({ payload with hash := · })
  | some "size" => (decodeUint64 payload.size value).map ({ payload with size := · })
  | some "download_url" => (decodeString payload.downloadUrl value).map ({ payload with downloadUrl := · })
  | some "diff_algorithm" =>
      (decodeString payload.diffAlgorithm value).map ({ payload with diffAlgorithm := · })
  | some "base_hash" => (decodeString payload.baseHash value).map ({ payload with baseHash := · })
  | some "output_hash" => (decodeString payload.outputHash value).map ({ payload with outputHash := · })
  | _ => .ok payload

def unmarshal (old : PayloadManifest) (value : Json) : Except String PayloadManifest :=
  decodeStruct "main.PayloadManifest" assign old value

def members (payload : PayloadManifest) : List (String × Json) :=
  [("kind", .str payload.kind), ("compression", .str payload.compression),
    ("hash", .str payload.hash), ("size", .num payload.size.toNat),
    ("download_url", .str payload.downloadUrl)] ++
    omitEmpty "diff_algorithm" payload.diffAlgorithm ++
    omitEmpty "base_hash" payload.baseHash ++
    omitEmpty "output_hash" payload.outputHash

def marshal (payload : PayloadManifest) : Json := .obj payload.members

/-- What both sides write first, and the fields that may be left out. -/
theorem decode_required {kind compression hash downloadUrl : String} {size : UInt64} {number : Int}
    (sized : decodeUint64 0 (.num number) = .ok size) (rest : List (String × Json)) :
    decodeMembers assign ([("kind", .str kind), ("compression", .str compression),
      ("hash", .str hash), ("size", .num number), ("download_url", .str downloadUrl)] ++ rest) zero =
      decodeMembers assign rest
        { zero with kind, compression, hash, size, downloadUrl } := by
  simp [decodeMembers, assign, fieldNamed_of_mem, names, zero, decodeString, sized]

theorem unmarshal_marshal (payload : PayloadManifest) :
    unmarshal zero payload.marshal = .ok payload := by
  have bound : (payload.size.toNat : Int) < 2 ^ 64 := by exact_mod_cast payload.size.toNat_lt
  have sized : decodeUint64 0 (.num payload.size.toNat) = .ok payload.size := by
    rw [decodeUint64, if_pos ⟨Int.natCast_nonneg _, bound⟩]
    simp
  simp only [unmarshal, decodeStruct, marshal, members, List.append_assoc]
  rw [decode_required sized,
    decodeMembers_append_of_ok (decodeMembers_omitEmpty rfl fun empty => by rw [empty]; rfl),
    decodeMembers_append_of_ok (decodeMembers_omitEmpty rfl fun empty => by rw [empty]; rfl),
    decodeMembers_omitEmpty rfl fun empty => by rw [empty]; rfl]

/-- What the server makes of an uploaded payload: an absent text is an empty one. -/
def ofUpload (payload : Core.PayloadManifest) : PayloadManifest where
  kind := payload.kind
  compression := payload.compression
  hash := payload.hash
  size := UInt64.ofNat payload.size
  downloadUrl := payload.downloadUrl
  diffAlgorithm := payload.diffAlgorithm.getD ""
  baseHash := payload.baseHash.getD ""
  outputHash := payload.outputHash.getD ""

theorem unmarshal_toValue {payload : Core.PayloadManifest} (fits : payload.size < 2 ^ 64) :
    unmarshal zero payload.toValue = .ok (ofUpload payload) := by
  have bound : (payload.size : Int) < 2 ^ 64 := by exact_mod_cast fits
  have sized : decodeUint64 0 (.num payload.size) = .ok (UInt64.ofNat payload.size) := by
    rw [decodeUint64, if_pos ⟨Int.natCast_nonneg _, bound⟩]
    simp
  simp only [unmarshal, decodeStruct, Core.PayloadManifest.toValue, List.append_assoc]
  rw [decode_required sized,
    decodeMembers_append_of_ok (decodeMembers_optionalMember rfl fun absent => by rw [absent]; rfl),
    decodeMembers_append_of_ok (decodeMembers_optionalMember rfl fun absent => by rw [absent]; rfl),
    decodeMembers_optionalMember rfl fun absent => by rw [absent]; rfl]
  rfl

end PayloadManifest

structure PatchPolicy where
  rolloutPercentage : Int64
  allowDowngrade : Bool
  deriving Repr, DecidableEq

namespace PatchPolicy

def zero : PatchPolicy where
  rolloutPercentage := 0
  allowDowngrade := false

def names : List String := ["rollout_percentage", "allow_downgrade"]

def assign (key : String) (value : Json) (policy : PatchPolicy) : Except String PatchPolicy :=
  match fieldNamed names key with
  | some "rollout_percentage" =>
      (decodeInt policy.rolloutPercentage value).map ({ policy with rolloutPercentage := · })
  | some "allow_downgrade" =>
      (decodeBool policy.allowDowngrade value).map ({ policy with allowDowngrade := · })
  | _ => .ok policy

def unmarshal (old : PatchPolicy) (value : Json) : Except String PatchPolicy :=
  decodeStruct "main.PatchPolicy" assign old value

def marshal (policy : PatchPolicy) : Json :=
  .obj [("rollout_percentage", .num policy.rolloutPercentage.toInt),
    ("allow_downgrade", .bool policy.allowDowngrade)]

theorem unmarshal_members {number : Int} {rollout : Int64}
    (decoded : decodeInt 0 (.num number) = .ok rollout) (allowDowngrade : Bool) :
    unmarshal zero (.obj [("rollout_percentage", .num number),
      ("allow_downgrade", .bool allowDowngrade)]) =
      .ok { rolloutPercentage := rollout, allowDowngrade } := by
  simp [unmarshal, decodeStruct, decodeMembers, assign, fieldNamed_of_mem, names, zero, decodeBool,
    decoded]

end PatchPolicy

structure PatchSignature where
  algorithm : String
  keyId : String
  value : String
  deriving Repr, DecidableEq

namespace PatchSignature

def zero : PatchSignature where
  algorithm := ""
  keyId := ""
  value := ""

def names : List String := ["algorithm", "key_id", "value"]

def assign (key : String) (value : Json) (signature : PatchSignature) :
    Except String PatchSignature :=
  match fieldNamed names key with
  | some "algorithm" => (decodeString signature.algorithm value).map ({ signature with algorithm := · })
  | some "key_id" => (decodeString signature.keyId value).map ({ signature with keyId := · })
  | some "value" => (decodeString signature.value value).map ({ signature with value := · })
  | _ => .ok signature

def unmarshal (old : PatchSignature) (value : Json) : Except String PatchSignature :=
  decodeStruct "main.PatchSignature" assign old value

def marshal (signature : PatchSignature) : Json :=
  .obj [("algorithm", .str signature.algorithm), ("key_id", .str signature.keyId),
    ("value", .str signature.value)]

theorem unmarshal_marshal (signature : PatchSignature) :
    unmarshal zero signature.marshal = .ok signature := by
  simp [unmarshal, decodeStruct, marshal, decodeMembers, assign, fieldNamed_of_mem, names, zero,
    decodeString]

end PatchSignature

/-- The manifest with what the server adds to it. -/
structure PatchManifest where
  schemaVersion : Int64
  appId : String
  releaseVersion : String
  patchNumber : Int64
  channel : String
  createdAt : String
  backend : String
  platform : String
  arch : String
  payload : PayloadManifest
  policy : PatchPolicy
  signature : PatchSignature
  active : Bool
  activeChannel : String
  activeRollout : Int64
  deriving Repr, DecidableEq

namespace PatchManifest

def zero : PatchManifest where
  schemaVersion := 0
  appId := ""
  releaseVersion := ""
  patchNumber := 0
  channel := ""
  createdAt := ""
  backend := ""
  platform := ""
  arch := ""
  payload := .zero
  policy := .zero
  signature := .zero
  active := false
  activeChannel := ""
  activeRollout := 0

def names : List String :=
  ["schema_version", "app_id", "release_version", "patch_number", "channel", "created_at",
    "backend", "platform", "arch", "payload", "policy", "signature", "active", "active_channel",
    "active_rollout_percentage"]

def assign (key : String) (value : Json) (patch : PatchManifest) : Except String PatchManifest :=
  match fieldNamed names key with
  | some "schema_version" => (decodeInt patch.schemaVersion value).map ({ patch with schemaVersion := · })
  | some "app_id" => (decodeString patch.appId value).map ({ patch with appId := · })
  | some "release_version" =>
      (decodeString patch.releaseVersion value).map ({ patch with releaseVersion := · })
  | some "patch_number" => (decodeInt patch.patchNumber value).map ({ patch with patchNumber := · })
  | some "channel" => (decodeString patch.channel value).map ({ patch with channel := · })
  | some "created_at" => (decodeString patch.createdAt value).map ({ patch with createdAt := · })
  | some "backend" => (decodeString patch.backend value).map ({ patch with backend := · })
  | some "platform" => (decodeString patch.platform value).map ({ patch with platform := · })
  | some "arch" => (decodeString patch.arch value).map ({ patch with arch := · })
  | some "payload" => (patch.payload.unmarshal value).map ({ patch with payload := · })
  | some "policy" => (patch.policy.unmarshal value).map ({ patch with policy := · })
  | some "signature" => (patch.signature.unmarshal value).map ({ patch with signature := · })
  | some "active" => (decodeBool patch.active value).map ({ patch with active := · })
  | some "active_channel" =>
      (decodeString patch.activeChannel value).map ({ patch with activeChannel := · })
  | some "active_rollout_percentage" =>
      (decodeInt patch.activeRollout value).map ({ patch with activeRollout := · })
  | _ => .ok patch

def unmarshal (old : PatchManifest) (value : Json) : Except String PatchManifest :=
  decodeStruct "main.PatchManifest" assign old value

def withDownloadUrl (patch : PatchManifest) (downloadUrl : String) : PatchManifest :=
  { patch with payload := { patch.payload with downloadUrl } }

/-- The members that `PatchManifestWire` has too. -/
def wireMembers (patch : PatchManifest) : List (String × Json) :=
  [("schema_version", .num patch.schemaVersion.toInt), ("app_id", .str patch.appId),
    ("release_version", .str patch.releaseVersion), ("patch_number", .num patch.patchNumber.toInt),
    ("channel", .str patch.channel), ("created_at", .str patch.createdAt),
    ("backend", .str patch.backend), ("platform", .str patch.platform), ("arch", .str patch.arch),
    ("payload", patch.payload.marshal), ("policy", patch.policy.marshal),
    ("signature", patch.signature.marshal)]

def marshal (patch : PatchManifest) : Json :=
  .obj (patch.wireMembers ++ [("active", .bool patch.active)] ++
    omitEmpty "active_channel" patch.activeChannel ++
    if patch.activeRollout = 0 then []
    else [("active_rollout_percentage", .num patch.activeRollout.toInt)])

theorem decodeMembers_wire {schemaNumber patchNumberNumber : Int} {schemaVersion patchNumber : Int64}
    {appId releaseVersion channel createdAt backend platform arch : String}
    {payloadValue policyValue signatureValue : Json} {payload : PayloadManifest}
    {policy : PatchPolicy} {signature : PatchSignature}
    (schemaRead : decodeInt 0 (.num schemaNumber) = .ok schemaVersion)
    (numberRead : decodeInt 0 (.num patchNumberNumber) = .ok patchNumber)
    (payloadRead : PayloadManifest.zero.unmarshal payloadValue = .ok payload)
    (policyRead : PatchPolicy.zero.unmarshal policyValue = .ok policy)
    (signatureRead : PatchSignature.zero.unmarshal signatureValue = .ok signature)
    (rest : List (String × Json)) :
    decodeMembers assign ([("schema_version", .num schemaNumber), ("app_id", .str appId),
      ("release_version", .str releaseVersion), ("patch_number", .num patchNumberNumber),
      ("channel", .str channel), ("created_at", .str createdAt), ("backend", .str backend),
      ("platform", .str platform), ("arch", .str arch), ("payload", payloadValue),
      ("policy", policyValue), ("signature", signatureValue)] ++ rest) zero =
      decodeMembers assign rest
        { zero with schemaVersion, appId, releaseVersion, patchNumber, channel, createdAt, backend
                    platform, arch, payload, policy, signature } := by
  simp [decodeMembers, assign, fieldNamed_of_mem, names, zero, decodeString, schemaRead, numberRead,
    payloadRead, policyRead, signatureRead]

end PatchManifest

/-- `patch_manifest_bytes`: what devices are sent. -/
def patchManifestBytes (patch : PatchManifest) : Json := .obj patch.wireMembers

end CodePush.Server
