import CodePush.Core.Diff
import CodePush.Core.Digests
import CodePush.Foundation.Except

/-!
# Simple diffs rebuild their target

The two loops of the creation leave what the base and the target share at their ends, and
never the same byte twice. The application is followed sum by sum: it comes back unless the
lengths of a hostile diff do not add up in 64 bits.
-/

set_option autoImplicit false

namespace CodePush.Core

open CodePush.Foundation

/-!
## The loops
-/

section Loops

variable {base target : Bytes}

/-- The bytes before `len` are shared. -/
structure SharesFront (base target : Bytes) (len : Nat) : Prop where
  inBase : len ≤ base.length
  inTarget : len ≤ target.length
  same : base.take len = target.take len

/-- The last `len` bytes are shared, and lie behind the prefix in both. -/
structure SharesBack (base target : Bytes) (prefixLen len : Nat) : Prop where
  inBase : len ≤ base.length - prefixLen
  inTarget : len ≤ target.length - prefixLen
  same : base.drop (base.length - len) = target.drop (target.length - len)

theorem prefixLoop_shares {prefixLen : Nat} (shares : SharesFront base target prefixLen) :
    SharesFront base target (prefixLoop base target prefixLen) := by
  fun_induction prefixLoop base target prefixLen with
  | case1 prefixLen inside equal ih =>
      apply ih
      constructor
      · exact inside.1
      · exact inside.2
      · rw [List.take_add_one, List.take_add_one, shares.same, List.getElem?_eq_getElem inside.1,
          List.getElem?_eq_getElem inside.2, equal]
  | case2 => exact shares
  | case3 => exact shares

theorem suffixLoop_shares {prefixLen suffixLen : Nat} (shares : SharesBack base target prefixLen suffixLen) :
    SharesBack base target prefixLen (suffixLoop base target prefixLen suffixLen) := by
  fun_induction suffixLoop base target prefixLen suffixLen with
  | case1 suffixLen inside equal ih =>
      apply ih
      have inBase : base.length - (suffixLen + 1) < base.length := by omega
      have inTarget : target.length - (suffixLen + 1) < target.length := by omega
      have next : ∀ len, suffixLen < len → len - 1 - suffixLen = len - (suffixLen + 1) ∧
          len - (suffixLen + 1) + 1 = len - suffixLen := by omega
      constructor
      · omega
      · omega
      · rw [List.drop_eq_getElem_cons inBase, List.drop_eq_getElem_cons inTarget,
          (next base.length (by omega)).2, (next target.length (by omega)).2, shares.same]
        simp only [(next base.length (by omega)).1, (next target.length (by omega)).1] at equal
        rw [equal]
  | case2 => exact shares
  | case3 => exact shares

theorem sharesFront_start : SharesFront base target 0 := ⟨Nat.zero_le _, Nat.zero_le _, rfl⟩

theorem sharesBack_start (prefixLen : Nat) : SharesBack base target prefixLen 0 :=
  ⟨Nat.zero_le _, Nat.zero_le _, by simp⟩

/-- The three slices are the target again. -/
theorem front_insert_back {prefixLen suffixLen : Nat} (within : prefixLen + suffixLen ≤ target.length) :
    target.take prefixLen ++ insertOf target prefixLen suffixLen ++
      target.drop (target.length - suffixLen) = target := by
  have front : target.take prefixLen = (target.take (target.length - suffixLen)).take prefixLen := by
    rw [List.take_take, Nat.min_eq_left (by omega)]
  unfold insertOf
  rw [front, List.take_append_drop, List.take_append_drop]

theorem insertOf_length {prefixLen suffixLen : Nat} (within : prefixLen + suffixLen ≤ target.length) :
    prefixLen + (insertOf target prefixLen suffixLen).length + suffixLen = target.length := by
  have whole := congrArg List.length (front_insert_back within)
  simp only [List.length_append, List.length_take, List.length_drop] at whole
  omega

end Loops

section Creation

variable (lib : Primitives) (base target : Bytes)

theorem simpleDiff_front : SharesFront base target (simpleDiff lib base target).prefixLen :=
  prefixLoop_shares sharesFront_start

theorem simpleDiff_back :
    SharesBack base target (simpleDiff lib base target).prefixLen (simpleDiff lib base target).suffixLen :=
  suffixLoop_shares (sharesBack_start _)

theorem simpleDiff_apart :
    (simpleDiff lib base target).prefixLen + (simpleDiff lib base target).suffixLen ≤ base.length ∧
      (simpleDiff lib base target).prefixLen + (simpleDiff lib base target).suffixLen ≤ target.length := by
  have front := simpleDiff_front lib base target
  have back := simpleDiff_back lib base target
  have inBase := front.inBase
  have inTarget := front.inTarget
  have inBase' := back.inBase
  have inTarget' := back.inTarget
  omega

end Creation

/-!
## The application, step by step
-/

section Steps

variable {build : Build} {lib : Primitives} {base diffBytes insert : Bytes} {diff : SimpleBinaryDiff}

theorem addLengths_fits {left right : Nat} (fits : left + right < 2 ^ 64) :
    addLengths build left right = .ok (left + right) := if_pos fits

/-- Lengths that fit: the output is built and its hash is compared. -/
theorem rebuildOutput_fits (fits : diff.prefixLen + insert.length + diff.suffixLen < 2 ^ 63)
    (front : diff.prefixLen ≤ base.length) (back : diff.suffixLen ≤ base.length) :
    rebuildOutput build lib base insert diff =
      if lib.sha256Hex (base.take diff.prefixLen ++ insert ++ base.drop (base.length - diff.suffixLen)) ≠
          diff.outputHash then err "patched artifact sha256 mismatch"
      else .ok (base.take diff.prefixLen ++ insert ++ base.drop (base.length - diff.suffixLen)) := by
  unfold rebuildOutput withCapacity sliceFront sliceBack
  rw [addLengths_fits (by omega), except_ok_bind, addLengths_fits (by omega), except_ok_bind, if_pos fits,
    except_ok_bind, if_pos front, except_ok_bind, if_pos back, except_ok_bind]

/-- A sum that does not fit, or an allocation that is too large, stops a build with checks. -/
theorem rebuildOutput_debug_fits (returns : Returns (rebuildOutput .debug lib base insert diff)) :
    diff.prefixLen + insert.length + diff.suffixLen < 2 ^ 63 := by
  by_contra large
  unfold rebuildOutput addLengths at returns
  split at returns
  · rw [except_ok_bind] at returns
    split at returns
    · rw [except_ok_bind] at returns
      unfold withCapacity at returns
      rw [if_neg large] at returns
      exact returns _ rfl
    · exact returns _ rfl
  · exact returns _ rfl

/-- Whatever is returned has the hash that the diff announces. -/
theorem rebuildOutput_hash {output : Bytes}
    (rebuilt : rebuildOutput build lib base insert diff = .ok output) :
    lib.sha256Hex output = diff.outputHash := by
  unfold rebuildOutput at rebuilt
  obtain ⟨_, _, rebuilt⟩ := except_bind_eq_ok.mp rebuilt
  obtain ⟨_, _, rebuilt⟩ := except_bind_eq_ok.mp rebuilt
  obtain ⟨_, _, rebuilt⟩ := except_bind_eq_ok.mp rebuilt
  obtain ⟨_, _, rebuilt⟩ := except_bind_eq_ok.mp rebuilt
  obtain ⟨_, _, rebuilt⟩ := except_bind_eq_ok.mp rebuilt
  obtain ⟨same, rebuilt⟩ := except_guard_eq_ok.mp rebuilt
  cases rebuilt
  exact Decidable.not_not.mp same

/-- What is left of the application once the diff was parsed and its base compared. -/
theorem applySimpleDiffIn_parsed (parsed : lib.parseSimpleDiff diffBytes = .ok diff)
    (algorithm : diff.algorithm = simpleDiffAlgorithm) (hashed : lib.sha256Hex base = diff.baseHash) :
    applySimpleDiffIn build lib base diffBytes = (do
      let covered ← addLengths build diff.prefixLen diff.suffixLen
      if covered > base.length then err "binary diff range exceeds base artifact"
      else
        match lib.decodeBase64 diff.insertB64 with
        | .error text => err text
        | .ok insert => rebuildOutput build lib base insert diff) := by
  unfold applySimpleDiffIn
  rw [parsed, except_ok_bind, if_neg (fun other => other algorithm)]
  exact if_neg (fun other => other hashed)

/-- A diff for another base, or of another kind, is refused before its lengths are looked at. -/
theorem applySimpleDiffIn_refuses (parsed : lib.parseSimpleDiff diffBytes = .ok diff)
    (foreign : diff.algorithm ≠ simpleDiffAlgorithm ∨ lib.sha256Hex base ≠ diff.baseHash) :
    ∃ text, applySimpleDiffIn build lib base diffBytes = err text := by
  unfold applySimpleDiffIn
  rw [parsed, except_ok_bind]
  split
  · exact ⟨_, rfl⟩
  case isFalse algorithm =>
    rw [if_pos (foreign.resolve_left algorithm)]
    exact ⟨_, rfl⟩

theorem applySimpleDiffIn_hash {output : Bytes}
    (applied : applySimpleDiffIn build lib base diffBytes = .ok output) :
    ∃ diff, lib.parseSimpleDiff diffBytes = .ok diff ∧ lib.sha256Hex output = diff.outputHash := by
  unfold applySimpleDiffIn at applied
  obtain ⟨diff, parsed, applied⟩ := except_bind_eq_ok.mp applied
  obtain ⟨_, applied⟩ := except_guard_eq_ok.mp applied
  obtain ⟨_, applied⟩ := except_guard_eq_ok.mp applied
  obtain ⟨covered, _, applied⟩ := except_bind_eq_ok.mp applied
  obtain ⟨_, applied⟩ := except_guard_eq_ok.mp applied
  refine ⟨diff, parsed, ?_⟩
  split at applied
  · cases applied
  · exact rebuildOutput_hash applied

/-- In a release build the application is the one that the updater's model calls. -/
theorem applySimpleDiffIn_release
    (fits : ∀ diff insert, lib.parseSimpleDiff diffBytes = .ok diff →
      lib.decodeBase64 diff.insertB64 = .ok insert → base.length + insert.length < 2 ^ 63) :
    applySimpleDiffIn .release lib base diffBytes = applySimpleDiff lib base diffBytes := by
  unfold applySimpleDiffIn applySimpleDiff
  cases parsed : lib.parseSimpleDiff diffBytes with
  | error error => rfl
  | ok diff =>
      rw [except_ok_bind, except_ok_bind]
      congr 1
      congr 1
      have added : ∀ left right, addLengths .release left right = .ok ((left + right) % 2 ^ 64) := by
        intro left right
        unfold addLengths
        split
        case isTrue small => rw [Nat.mod_eq_of_lt small]
        case isFalse => rfl
      rw [added, except_ok_bind]
      split
      · rfl
      case isFalse covered =>
        cases decoded : lib.decodeBase64 diff.insertB64 with
        | error text => rfl
        | ok insert =>
            dsimp only
            have room := fits diff insert parsed decoded
            -- the capacity is the length of the output, modulo 2^64
            have capacity : ((diff.prefixLen + insert.length) % 2 ^ 64 + diff.suffixLen) % 2 ^ 64 < 2 ^ 63 := by
              omega
            unfold rebuildOutput withCapacity sliceFront sliceBack
            rw [added, except_ok_bind, added, except_ok_bind, if_pos capacity, except_ok_bind]
            by_cases front : diff.prefixLen ≤ base.length
            · rw [if_pos front, except_ok_bind, if_neg (Nat.not_lt.mpr front)]
              by_cases back : diff.suffixLen ≤ base.length
              · rw [if_pos back, except_ok_bind, if_neg (Nat.not_lt.mpr back)]
              · rw [if_neg back, if_pos (Nat.not_le.mp back)]
                rfl
            · rw [if_neg front, if_pos (Nat.not_le.mp front)]
              rfl

end Steps

/-!
## The library at a few inputs
-/

/-- Files and their SHA-256. -/
def digests : List (Bytes × Bytes) :=
  [([], [227, 176, 196, 66, 152, 252, 28, 20, 154, 251, 244, 200, 153, 111, 185, 36, 39, 174, 65, 228,
      100, 155, 147, 76, 164, 149, 153, 27, 120, 82, 184, 85]),
    ([1, 2], [161, 40, 113, 254, 226, 16, 251, 134, 25, 41, 30, 174, 161, 148, 88, 28, 189, 37, 49, 228,
      178, 55, 89, 210, 37, 246, 128, 105, 35, 246, 50, 34]),
    ([1, 3, 2], [24, 81, 0, 149, 15, 232, 5, 180, 210, 29, 238, 176, 15, 37, 0, 86, 190, 177, 122, 71, 130,
      73, 191, 36, 5, 182, 10, 99, 44, 102, 36, 92])]

/-- From the bytes `1 2` to `1 3 2`. -/
def insertingDiff : SimpleBinaryDiff where
  algorithm := simpleDiffAlgorithm
  baseHash := "a12871fee210fb8619291eaea194581cbd2531e4b23759d225f6806923f63222"
  outputHash := "185100950fe805b4d21deeb00f250056beb17a478249bf2405b60a632c66245c"
  prefixLen := 1
  suffixLen := 1
  insertB64 := "Aw=="

/-- For the empty base; the two lengths add up to 2^64. -/
def overflowingDiff : SimpleBinaryDiff where
  algorithm := simpleDiffAlgorithm
  baseHash := "e3b0c44298fc1c149afbf4c8996fb92427ae41e4649b934ca495991b7852b855"
  outputHash := "e3b0c44298fc1c149afbf4c8996fb92427ae41e4649b934ca495991b7852b855"
  prefixLen := 2 ^ 64 - 1
  suffixLen := 1
  insertB64 := ""

def diffLib : Primitives := Primitives.withBase64
  { Primitives.refusing with
    parseSimpleDiff := fun bytes =>
      match [insertingDiff, overflowingDiff].find? (·.toVec = bytes) with
      | some diff => .ok diff
      | none => .error (.json "expected value at line 1 column 1")
    sha256 := fun bytes => ((digests.find? (·.1 = bytes)).map (·.2)).getD [] }

theorem simpleDiff_inserting : simpleDiff diffLib [1, 2] [1, 3, 2] = insertingDiff := by
  have front : prefixLoop [1, 2] [1, 3, 2] 0 = 1 := by simp [prefixLoop]
  have back : suffixLoop [1, 2] [1, 3, 2] 1 0 = 1 := by simp [suffixLoop]
  unfold simpleDiff
  simp only [front, back]
  decide

theorem parse_insertingDiff : diffLib.parseSimpleDiff insertingDiff.toVec = .ok insertingDiff := by
  simp [diffLib, Primitives.withBase64]

theorem parse_overflowingDiff : diffLib.parseSimpleDiff overflowingDiff.toVec = .ok overflowingDiff := by
  have apart : insertingDiff.toVec ≠ overflowingDiff.toVec := by decide
  simp [diffLib, Primitives.withBase64, apart]

/-!
## The round trip
-/

/-- What is assumed of `serde_json` and `base64` at a diff. -/
structure SimpleBinaryDiff.ReadBack (lib : Primitives) (base target : Bytes) : Prop where
  json : lib.parseSimpleDiff (simpleDiff lib base target).toVec = .ok (simpleDiff lib base target)
  base64 : lib.decodeBase64 (simpleDiff lib base target).insertB64 =
    .ok (insertOf target (simpleDiff lib base target).prefixLen (simpleDiff lib base target).suffixLen)

theorem simple_diff_round_trip (lib : Primitives) (base target : Slice)
    (readBack : SimpleBinaryDiff.ReadBack lib base.bytes target.bytes) :
    ∃ diff diffBytes, createSimpleDiff lib base.bytes target.bytes = .ok diffBytes ∧
      lib.parseSimpleDiff diffBytes = .ok diff ∧
      diff.prefixLen + diff.suffixLen ≤ base.bytes.length ∧
      diff.prefixLen + diff.suffixLen ≤ target.bytes.length ∧
      (∀ build, applySimpleDiffIn build lib base.bytes diffBytes = .ok target.bytes) ∧
      ∀ (other : Bytes), lib.sha256 other ≠ lib.sha256 base.bytes → ∀ build,
        applySimpleDiffIn build lib other diffBytes = err "base artifact sha256 mismatch" := by
  obtain ⟨base, baseFits⟩ := base
  obtain ⟨target, targetFits⟩ := target
  dsimp only at readBack ⊢
  obtain ⟨inBase, inTarget⟩ := simpleDiff_apart lib base target
  refine ⟨_, _, rfl, readBack.json, inBase, inTarget, ?_, ?_⟩
  · intro build
    have front := simpleDiff_front lib base target
    have back := simpleDiff_back lib base target
    have length := insertOf_length inTarget
    rw [applySimpleDiffIn_parsed readBack.json rfl rfl, addLengths_fits (by omega), except_ok_bind,
      if_neg (Nat.not_lt.mpr inBase), readBack.base64]
    dsimp only
    rw [rebuildOutput_fits (by omega) (by omega) (by omega), front.same, back.same,
      front_insert_back inTarget]
    exact if_neg fun other => other rfl
  · intro other different build
    unfold applySimpleDiffIn
    rw [readBack.json, except_ok_bind, if_neg (fun other => other rfl), if_pos]
    intro same
    exact different (sha256Hex_eq_iff.mp same)

theorem inserting_diff_round_trip :
    SimpleBinaryDiff.ReadBack diffLib [1, 2] [1, 3, 2] ∧
      applySimpleDiffIn .release diffLib [1, 2] insertingDiff.toVec = .ok [1, 3, 2] := by
  have readBack : SimpleBinaryDiff.ReadBack diffLib [1, 2] [1, 3, 2] := by
    constructor
    · rw [simpleDiff_inserting]
      exact parse_insertingDiff
    · rw [simpleDiff_inserting]
      decide
  refine ⟨readBack, ?_⟩
  obtain ⟨diff, diffBytes, created, _, _, _, applied, _⟩ :=
    simple_diff_round_trip diffLib ⟨[1, 2], by decide⟩ ⟨[1, 3, 2], by decide⟩ readBack
  have written : diffBytes = insertingDiff.toVec := by
    rw [← simpleDiff_inserting]
    exact (Except.ok.inj created).symm
  rw [← written]
  exact applied .release

/-!
## Hostile diffs
-/

/-- The application comes back in every build, whether or not sums are checked, so that no
sum wraps; and what it returns has the announced hash. -/
structure SafeApplication (lib : Primitives) (base diffBytes : Bytes) : Prop where
  returns : ∀ build, Returns (applySimpleDiffIn build lib base diffBytes)
  unwrapped : applySimpleDiffIn .release lib base diffBytes = applySimpleDiffIn .debug lib base diffBytes
  hash : ∀ build output, applySimpleDiffIn build lib base diffBytes = .ok output →
    ∃ diff, lib.parseSimpleDiff diffBytes = .ok diff ∧ lib.sha256Hex output = diff.outputHash

/-- The lengths of a diff for the base add up in 64 bits, and an output can be allocated. -/
def LengthsFit (lib : Primitives) (base diffBytes : Bytes) : Prop :=
  ∀ diff, lib.parseSimpleDiff diffBytes = .ok diff → diff.algorithm = simpleDiffAlgorithm →
    lib.sha256Hex base = diff.baseHash →
    diff.prefixLen + diff.suffixLen < 2 ^ 64 ∧
      (diff.prefixLen + diff.suffixLen ≤ base.length → ∀ insert,
        lib.decodeBase64 diff.insertB64 = .ok insert →
        diff.prefixLen + insert.length + diff.suffixLen < 2 ^ 63)

/-- What the application of such a diff comes to, in every build. -/
theorem LengthsFit.applied {lib : Primitives} {base diffBytes : Bytes} (fit : LengthsFit lib base diffBytes)
    (parses : Returns (lib.parseSimpleDiff diffBytes)) :
    ∃ result, Returns result ∧ ∀ build, applySimpleDiffIn build lib base diffBytes = result := by
  cases parsed : lib.parseSimpleDiff diffBytes with
  | error error =>
      rw [parsed] at parses
      refine ⟨.error error, fun text same => ?_, fun build => ?_⟩
      · cases same
        exact parses text rfl
      · unfold applySimpleDiffIn
        rw [parsed]
        rfl
  | ok diff =>
      by_cases algorithm : diff.algorithm = simpleDiffAlgorithm
      case neg =>
        refine ⟨_, returns_err "unsupported binary diff algorithm", fun build => ?_⟩
        unfold applySimpleDiffIn
        rw [parsed, except_ok_bind, if_pos algorithm]
      by_cases hashed : lib.sha256Hex base = diff.baseHash
      case neg =>
        refine ⟨_, returns_err "base artifact sha256 mismatch", fun build => ?_⟩
        unfold applySimpleDiffIn
        rw [parsed, except_ok_bind, if_neg (fun other => other algorithm), if_pos hashed]
      obtain ⟨small, room⟩ := fit diff parsed algorithm hashed
      by_cases within : diff.prefixLen + diff.suffixLen ≤ base.length
      case neg =>
        refine ⟨_, returns_err "binary diff range exceeds base artifact", fun build => ?_⟩
        rw [applySimpleDiffIn_parsed parsed algorithm hashed, addLengths_fits small, except_ok_bind,
          if_pos (Nat.not_le.mp within)]
      cases decoded : lib.decodeBase64 diff.insertB64 with
      | error text =>
          refine ⟨_, returns_err text, fun build => ?_⟩
          rw [applySimpleDiffIn_parsed parsed algorithm hashed, addLengths_fits small, except_ok_bind,
            if_neg (Nat.not_lt.mpr within), decoded]
      | ok insert =>
          refine ⟨if lib.sha256Hex (base.take diff.prefixLen ++ insert ++
              base.drop (base.length - diff.suffixLen)) ≠ diff.outputHash then
                err "patched artifact sha256 mismatch"
              else .ok (base.take diff.prefixLen ++ insert ++ base.drop (base.length - diff.suffixLen)),
            ?_, fun build => ?_⟩
          · split
            · exact returns_err _
            · exact returns_ok _
          · rw [applySimpleDiffIn_parsed parsed algorithm hashed, addLengths_fits small, except_ok_bind,
              if_neg (Nat.not_lt.mpr within), decoded]
            exact rebuildOutput_fits (room within insert decoded) (by omega) (by omega)

theorem hostile_diff_safe_iff (lib : Primitives) (base diffBytes : Bytes)
    (parses : Returns (lib.parseSimpleDiff diffBytes)) :
    SafeApplication lib base diffBytes ↔ LengthsFit lib base diffBytes := by
  constructor
  · intro safe diff parsed algorithm hashed
    have returns := safe.returns .debug
    rw [applySimpleDiffIn_parsed parsed algorithm hashed] at returns
    have small : diff.prefixLen + diff.suffixLen < 2 ^ 64 := by
      by_contra large
      unfold addLengths at returns
      rw [if_neg large] at returns
      exact returns _ rfl
    refine ⟨small, ?_⟩
    intro within insert decoded
    rw [addLengths_fits small, except_ok_bind, if_neg (Nat.not_lt.mpr within), decoded] at returns
    exact rebuildOutput_debug_fits returns
  · intro fit
    obtain ⟨result, returns, applied⟩ := fit.applied parses
    constructor
    · intro build
      rw [applied]
      exact returns
    · rw [applied, applied]
    · intro build output same
      exact applySimpleDiffIn_hash same

theorem inserting_diff_safe : SafeApplication diffLib [1, 2] insertingDiff.toVec := by
  have parses : Returns (diffLib.parseSimpleDiff insertingDiff.toVec) := by
    rw [parse_insertingDiff]
    exact returns_ok _
  apply (hostile_diff_safe_iff diffLib [1, 2] insertingDiff.toVec parses).mpr
  intro diff parsed _ _
  cases parse_insertingDiff.symm.trans parsed
  refine ⟨by decide, fun _ insert decoded => ?_⟩
  have read : diffLib.decodeBase64 insertingDiff.insertB64 = .ok [3] := by decide
  cases read.symm.trans decoded
  decide

/-- The wrapped sum 0 is within the empty base, and the first slice is not. -/
theorem overflowing_diff_panics :
    applySimpleDiffIn .release diffLib [] overflowingDiff.toVec = .error (.panic
      "range end index 18446744073709551615 out of range for slice of length 0") ∧
      applySimpleDiffIn .debug diffLib [] overflowingDiff.toVec =
        .error (.panic "attempt to add with overflow") ∧
      ¬SafeApplication diffLib [] overflowingDiff.toVec := by
  have hashed : diffLib.sha256Hex [] = overflowingDiff.baseHash := by decide
  have debug : applySimpleDiffIn .debug diffLib [] overflowingDiff.toVec =
      .error (.panic "attempt to add with overflow") := by
    rw [applySimpleDiffIn_parsed parse_overflowingDiff rfl hashed]
    rfl
  refine ⟨?_, debug, ?_⟩
  · rw [applySimpleDiffIn_parsed parse_overflowingDiff rfl hashed]
    decide
  · intro safe
    exact safe.returns .debug _ debug

end CodePush.Core
