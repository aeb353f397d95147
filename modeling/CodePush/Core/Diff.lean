import CodePush.Core.Manifest

/-!
# Simple binary diffs

`create_simple_diff` and `apply_simple_diff` of `crates/fcb_core/src/diff.rs`, with the
arithmetic on lengths that they do. A build with overflow checks stops at a sum that does
not fit; a release build goes on with the sum modulo 2^64.
-/

set_option autoImplicit false

namespace CodePush.Core

/-- A `&[u8]`, which spans at most `isize::MAX` bytes. -/
structure Slice where
  bytes : Bytes
  fits : bytes.length < 2 ^ 63

/-!
## Creation
-/

/-- `while prefix_len < base.len() && ..`. -/
def prefixLoop (base target : Bytes) (prefixLen : Nat) : Nat :=
  if inside : prefixLen < base.length ∧ prefixLen < target.length then
    if base[prefixLen] = target[prefixLen] then prefixLoop base target (prefixLen + 1) else prefixLen
  else prefixLen
termination_by base.length - prefixLen

/-- `while suffix_len < base.len().saturating_sub(prefix_len) && ..`. -/
def suffixLoop (base target : Bytes) (prefixLen suffixLen : Nat) : Nat :=
  if inside : suffixLen < base.length - prefixLen ∧ suffixLen < target.length - prefixLen then
    if base[base.length - 1 - suffixLen] = target[target.length - 1 - suffixLen] then
      suffixLoop base target prefixLen (suffixLen + 1)
    else suffixLen
  else suffixLen
termination_by base.length - prefixLen - suffixLen

/-- `&target[prefix_len..target.len() - suffix_len]`. -/
def insertOf (target : Bytes) (prefixLen suffixLen : Nat) : Bytes :=
  (target.take (target.length - suffixLen)).drop prefixLen

def simpleDiff (lib : Primitives) (base target : Bytes) : SimpleBinaryDiff :=
  let prefixLen := prefixLoop base target 0
  let suffixLen := suffixLoop base target prefixLen 0
  { algorithm := simpleDiffAlgorithm
    baseHash := lib.sha256Hex base
    outputHash := lib.sha256Hex target
    prefixLen
    suffixLen
    insertB64 := lib.encodeBase64 (insertOf target prefixLen suffixLen) }

/-- The fields in the order of the struct. -/
def SimpleBinaryDiff.toValue (diff : SimpleBinaryDiff) : Json :=
  .obj [("algorithm", .str diff.algorithm), ("base_hash", .str diff.baseHash),
    ("output_hash", .str diff.outputHash), ("prefix_len", .num diff.prefixLen),
    ("suffix_len", .num diff.suffixLen), ("insert_b64", .str diff.insertB64)]

/-- `serde_json::to_vec`. -/
def SimpleBinaryDiff.toVec (diff : SimpleBinaryDiff) : Bytes := stringBytes diff.toValue.print

def createSimpleDiff (lib : Primitives) (base target : Bytes) : Result Bytes :=
  .ok (simpleDiff lib base target).toVec

/-!
## Application
-/

/-- Whether sums are checked. -/
inductive Build where
  | debug | release
  deriving Repr, DecidableEq

/-- `left + right` in `usize`. -/
def addLengths (build : Build) (left right : Nat) : Result Nat :=
  if left + right < 2 ^ 64 then .ok (left + right)
  else
    match build with
    | .debug => .error (.panic "attempt to add with overflow")
    | .release => .ok ((left + right) % 2 ^ 64)

/-- `Vec::with_capacity`. -/
def withCapacity (capacity : Nat) : Result Unit :=
  if capacity < 2 ^ 63 then .ok () else .error (.panic "capacity overflow")

/-- `&base[..len]`. -/
def sliceFront (base : Bytes) (len : Nat) : Result Bytes :=
  if len ≤ base.length then .ok (base.take len)
  else .error (.panic s!"range end index {len} out of range for slice of length {base.length}")

/-- `&base[base.len() - len..]`. -/
def sliceBack (build : Build) (base : Bytes) (len : Nat) : Result Bytes :=
  if len ≤ base.length then .ok (base.drop (base.length - len))
  else
    match build with
    | .debug => .error (.panic "attempt to subtract with overflow")
    | .release => .error (.panic
        s!"range start index {2 ^ 64 + base.length - len} out of range for slice of length {base.length}")

/-- What `apply_simple_diff` does once the lengths are within the base. -/
def rebuildOutput (build : Build) (lib : Primitives) (base insert : Bytes) (diff : SimpleBinaryDiff) :
    Result Bytes := do
  let front ← addLengths build diff.prefixLen insert.length
  let capacity ← addLengths build front diff.suffixLen
  withCapacity capacity
  let first ← sliceFront base diff.prefixLen
  let last ← sliceBack build base diff.suffixLen
  let output := first ++ insert ++ last
  if lib.sha256Hex output ≠ diff.outputHash then err "patched artifact sha256 mismatch"
  else .ok output

/-- `apply_simple_diff`. -/
def applySimpleDiffIn (build : Build) (lib : Primitives) (base diffBytes : Bytes) : Result Bytes := do
  let diff ← lib.parseSimpleDiff diffBytes
  if diff.algorithm ≠ simpleDiffAlgorithm then err "unsupported binary diff algorithm"
  else if lib.sha256Hex base ≠ diff.baseHash then err "base artifact sha256 mismatch"
  else do
    let covered ← addLengths build diff.prefixLen diff.suffixLen
    if covered > base.length then err "binary diff range exceeds base artifact"
    else
      match lib.decodeBase64 diff.insertB64 with
      | .error text => err text
      | .ok insert => rebuildOutput build lib base insert diff

end CodePush.Core
