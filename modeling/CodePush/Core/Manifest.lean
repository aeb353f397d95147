import CodePush.Bytecode.Binary

/-!
# Patch manifests

The manifest types of `crates/fcb_core/src/manifest.rs`, their canonical JSON
and the signature check, together with the third-party functions the crate
calls. Machine integers are natural numbers here; their width only matters when
they are parsed.
-/

set_option autoImplicit false

namespace CodePush.Core

open CodePush.Bytecode

/-- A `serde_json::Value`. Members of an object stand in the order they were inserted. -/
inductive Json where
  | null
  | bool (value : Bool)
  | num (value : Int)
  | str (value : String)
  | arr (items : List Json)
  | obj (members : List (String × Json))
  deriving Repr

namespace Json

/-- `Map::get`. -/
def field? (members : List (String × Json)) (key : String) : Option Json :=
  (members.find? (·.1 == key)).map (·.2)

mutual

/-- Objects sorted by key, at every depth. -/
def normalize : Json → Json
  | .obj members => .obj ((normalizeMembers members).insertionSort fun a b => a.1 ≤ b.1)
  | .arr items => .arr (normalizeItems items)
  | .null => .null
  | .bool value => .bool value
  | .num value => .num value
  | .str value => .str value

def normalizeItems : List Json → List Json
  | [] => []
  | item :: items => normalize item :: normalizeItems items

def normalizeMembers : List (String × Json) → List (String × Json)
  | [] => []
  | (key, value) :: members => (key, normalize value) :: normalizeMembers members

end

/-!
### Printing

`serde_json::to_vec`: no spaces, members in the order they stand.
-/

def escapeChar (char : Char) : String :=
  match char.toNat with
  | 0x22 => "\\\""
  | 0x5c => "\\\\"
  | 0x08 => "\\b"
  | 0x09 => "\\t"
  | 0x0a => "\\n"
  | 0x0c => "\\f"
  | 0x0d => "\\r"
  | code => if code < 0x20 then "\\u00" ++ hexByte (UInt8.ofNat code) else char.toString

def printString (text : String) : String :=
  "\"" ++ String.join (text.toList.map escapeChar) ++ "\""

mutual

def print : Json → String
  | .null => "null"
  | .bool value => if value then "true" else "false"
  | .num value => toString value
  | .str value => printString value
  | .arr items => "[" ++ printItems items ++ "]"
  | .obj members => "\x7b" ++ printMembers members ++ "\x7d"

def printItems : List Json → String
  | [] => ""
  | [item] => print item
  | item :: items => print item ++ "," ++ printItems items

def printMembers : List (String × Json) → String
  | [] => ""
  | [(key, value)] => printString key ++ ":" ++ print value
  | (key, value) :: members => printString key ++ ":" ++ print value ++ "," ++ printMembers members

end

end Json

structure PayloadManifest where
  kind : String
  compression : String
  hash : String
  size : Nat
  downloadUrl : String
  diffAlgorithm : Option String
  baseHash : Option String
  outputHash : Option String
  deriving Repr, DecidableEq

structure PatchPolicy where
  rolloutPercentage : Nat
  allowDowngrade : Bool
  deriving Repr, DecidableEq

structure PatchSignature where
  algorithm : String
  keyId : String
  value : String
  deriving Repr, DecidableEq

structure PatchManifest where
  schemaVersion : Nat
  appId : String
  releaseVersion : String
  patchNumber : Nat
  channel : String
  createdAt : String
  backend : String
  platform : String
  arch : String
  payload : PayloadManifest
  policy : PatchPolicy
  signature : PatchSignature
  deriving Repr, DecidableEq

/-!
## Third-party functions
-/

structure SimpleBinaryDiff where
  algorithm : String
  baseHash : String
  outputHash : String
  prefixLen : Nat
  suffixLen : Nat
  insertB64 : String
  deriving Repr, DecidableEq

/-- What the crate takes from `serde_json`, `sha2`, `base64`, `ed25519_dalek`,
`zstd` and `bsdiff`. An error carries the library's own text. -/
structure Primitives where
  parseManifest : Bytes → Result PatchManifest
  parseModule : Bytes → Result BytecodeModule
  parseSimpleDiff : Bytes → Result SimpleBinaryDiff
  sha256 : Bytes → Bytes
  decodeBase64 : String → Except String Bytes
  encodeBase64 : Bytes → String
  verifyingKey : Bytes → Except String Unit
  signature : Bytes → Except String Unit
  verify : Bytes → Bytes → Bytes → Except String Unit
  zstdDecode : Bytes → Result Bytes
  bsdiffPatch : Bytes → Bytes → Result Bytes

def mapErr {α : Type} (label : String) : Except String α → Result α
  | .ok value => .ok value
  | .error text => err s!"{label}: {text}"

/-- `hex::encode(Sha256::digest(bytes))`. -/
def Primitives.sha256Hex (lib : Primitives) (bytes : Bytes) : String :=
  String.join ((lib.sha256 bytes).map hexByte)

def Primitives.verifyB64 (lib : Primitives) (publicKeyB64 : String) (message : Bytes)
    (signatureB64 : String) : Result Unit := do
  let key ← mapErr "invalid public key base64" (lib.decodeBase64 publicKeyB64)
  if key.length ≠ 32 then err "ed25519 public key must be 32 bytes"
  else do
    mapErr "invalid public key" (lib.verifyingKey key)
    let sigBytes ← mapErr "invalid signature base64" (lib.decodeBase64 signatureB64)
    mapErr "invalid signature" (lib.signature sigBytes)
    mapErr "signature verification failed" (lib.verify key message sigBytes)

/-!
## Canonical form and signature
-/

/-- `skip_serializing_if = "Option::is_none"`. -/
def optionalMember (key : String) : Option String → List (String × Json)
  | none => []
  | some value => [(key, .str value)]

def PayloadManifest.toValue (payload : PayloadManifest) : Json :=
  .obj ([("kind", .str payload.kind), ("compression", .str payload.compression),
    ("hash", .str payload.hash), ("size", .num payload.size),
    ("download_url", .str payload.downloadUrl)] ++
    optionalMember "diff_algorithm" payload.diffAlgorithm ++
    optionalMember "base_hash" payload.baseHash ++
    optionalMember "output_hash" payload.outputHash)

def PatchPolicy.toValue (policy : PatchPolicy) : Json :=
  .obj [("rollout_percentage", .num policy.rolloutPercentage),
    ("allow_downgrade", .bool policy.allowDowngrade)]

def PatchSignature.toValue (signature : PatchSignature) : Json :=
  .obj [("algorithm", .str signature.algorithm), ("key_id", .str signature.keyId),
    ("value", .str signature.value)]

def PatchManifest.toValue (manifest : PatchManifest) : Json :=
  .obj [("schema_version", .num manifest.schemaVersion), ("app_id", .str manifest.appId),
    ("release_version", .str manifest.releaseVersion), ("patch_number", .num manifest.patchNumber),
    ("channel", .str manifest.channel), ("created_at", .str manifest.createdAt),
    ("backend", .str manifest.backend), ("platform", .str manifest.platform),
    ("arch", .str manifest.arch), ("payload", manifest.payload.toValue),
    ("policy", manifest.policy.toValue), ("signature", manifest.signature.toValue)]

/-!
### Parsing

What the derived `Deserialize` makes of an object: members it does not know are
skipped, and a member that is there twice is refused.
-/

def memberOf (members : List (String × Json)) (key : String) : Result (Option Json) :=
  match members.filter (·.1 = key) with
  | [] => .ok none
  | [member] => .ok (some member.2)
  | _ => .error (.json s!"duplicate field `{key}`")

def required {α : Type} (read : Json → Result α) (members : List (String × Json)) (key : String) :
    Result α := do
  match ← memberOf members key with
  | some value => read value
  | none => .error (.json s!"missing field `{key}`")

def readString : Json → Result String
  | .str value => .ok value
  | _ => .error (.json "invalid type: expected a string")

def readBool : Json → Result Bool
  | .bool value => .ok value
  | _ => .error (.json "invalid type: expected a boolean")

/-- An unsigned integer of `width` bits. -/
def readUnsigned (width : Nat) : Json → Result Nat
  | .num value =>
      if 0 ≤ value ∧ value < 2 ^ width then .ok value.toNat
      else .error (.json s!"invalid value: integer {value}, expected u{width}")
  | _ => .error (.json s!"invalid type: expected u{width}")

/-- `#[serde(default)]` on an `Option<String>`. -/
def optionalString (members : List (String × Json)) (key : String) : Result (Option String) := do
  match ← memberOf members key with
  | none => .ok none
  | some .null => .ok none
  | some value => (readString value).map some

def readObject {α : Type} (read : List (String × Json) → Result α) : Json → Result α
  | .obj members => read members
  | _ => .error (.json "invalid type: expected a map")

def PayloadManifest.fromMembers (members : List (String × Json)) : Result PayloadManifest := do
  let kind ← required readString members "kind"
  let compression ← required readString members "compression"
  let hash ← required readString members "hash"
  let size ← required (readUnsigned 64) members "size"
  let downloadUrl ← required readString members "download_url"
  let diffAlgorithm ← optionalString members "diff_algorithm"
  let baseHash ← optionalString members "base_hash"
  let outputHash ← optionalString members "output_hash"
  .ok { kind, compression, hash, size, downloadUrl, diffAlgorithm, baseHash, outputHash }

def PatchPolicy.fromMembers (members : List (String × Json)) : Result PatchPolicy := do
  let rolloutPercentage ← required (readUnsigned 8) members "rollout_percentage"
  let allowDowngrade ← required readBool members "allow_downgrade"
  .ok { rolloutPercentage, allowDowngrade }

def PatchSignature.fromMembers (members : List (String × Json)) : Result PatchSignature := do
  let algorithm ← required readString members "algorithm"
  let keyId ← required readString members "key_id"
  let value ← required readString members "value"
  .ok { algorithm, keyId, value }

def PatchManifest.fromMembers (members : List (String × Json)) : Result PatchManifest := do
  let schemaVersion ← required (readUnsigned 32) members "schema_version"
  let appId ← required readString members "app_id"
  let releaseVersion ← required readString members "release_version"
  let patchNumber ← required (readUnsigned 32) members "patch_number"
  let channel ← required readString members "channel"
  let createdAt ← required readString members "created_at"
  let backend ← required readString members "backend"
  let platform ← required readString members "platform"
  let arch ← required readString members "arch"
  let payload ← required (readObject PayloadManifest.fromMembers) members "payload"
  let policy ← required (readObject PatchPolicy.fromMembers) members "policy"
  let signature ← required (readObject PatchSignature.fromMembers) members "signature"
  .ok
    { schemaVersion, appId, releaseVersion, patchNumber, channel, createdAt, backend, platform
      arch, payload, policy, signature }

/-- The widths of the fields' types. -/
structure PatchManifest.Fits (manifest : PatchManifest) : Prop where
  schemaVersion : manifest.schemaVersion < 2 ^ 32
  patchNumber : manifest.patchNumber < 2 ^ 32
  size : manifest.payload.size < 2 ^ 64
  rolloutPercentage : manifest.policy.rolloutPercentage < 2 ^ 8

def canonicalJson (value : Json) : Bytes := stringBytes value.normalize.print

/-- The manifest with the signature's value cleared. -/
def PatchManifest.unsigned (manifest : PatchManifest) : PatchManifest :=
  { manifest with signature := { manifest.signature with value := "" } }

def verifyPatchManifest (lib : Primitives) (manifest : PatchManifest) (publicKeyB64 : String) :
    Result Unit :=
  if manifest.signature.algorithm ≠ "ed25519" then err "unsupported patch signature algorithm"
  else
    lib.verifyB64 publicKeyB64 (canonicalJson manifest.unsigned.toValue) manifest.signature.value

/-!
## Binary diffs
-/

def bsdiffZstdAlgorithm : String := "bsdiff-zstd-v1"
def simpleDiffAlgorithm : String := "fcb-simple-v1"

def applyBsdiffZstd (lib : Primitives) (base diffBytes : Bytes) : Result Bytes := do
  let rawPatch ← lib.zstdDecode diffBytes
  lib.bsdiffPatch base rawPatch

/-- The sum of the two lengths wraps at 64 bits, as in a release build; a slice
past the end panics. -/
def applySimpleDiff (lib : Primitives) (base diffBytes : Bytes) : Result Bytes := do
  let diff ← lib.parseSimpleDiff diffBytes
  if diff.algorithm ≠ simpleDiffAlgorithm then err "unsupported binary diff algorithm"
  else if lib.sha256Hex base ≠ diff.baseHash then err "base artifact sha256 mismatch"
  else if (diff.prefixLen + diff.suffixLen) % 2 ^ 64 > base.length then
    err "binary diff range exceeds base artifact"
  else
    match lib.decodeBase64 diff.insertB64 with
    | .error text => err text
    | .ok insert =>
        if diff.prefixLen > base.length then
          .error (.panic s!"range end index {diff.prefixLen} out of range for slice of length {base.length}")
        else if diff.suffixLen > base.length then
          .error (.panic s!"range start index {2 ^ 64 + base.length - diff.suffixLen} out of range for slice of length {base.length}")
        else
          let output := base.take diff.prefixLen ++ insert ++ base.drop (base.length - diff.suffixLen)
          if lib.sha256Hex output ≠ diff.outputHash then err "patched artifact sha256 mismatch"
          else .ok output

def applyBinaryDiff (lib : Primitives) (algorithm : String) (base diffBytes : Bytes) :
    Result Bytes :=
  if algorithm = bsdiffZstdAlgorithm then applyBsdiffZstd lib base diffBytes
  else if algorithm = simpleDiffAlgorithm then applySimpleDiff lib base diffBytes
  else err "unsupported binary diff algorithm"

end CodePush.Core
