import CodePush.Core.Manifest
import CodePush.Foundation.Base64
import CodePush.Foundation.Codes

/-!
# Bytes as texts

A digest is printed with two hexadecimal digits for each byte, so the texts of different
digests differ and hold nothing but digits. Other bytes are printed in Base64.
-/

set_option autoImplicit false

namespace CodePush.Core

open CodePush.Foundation

/-- The value of a hexadecimal digit in lower case. -/
def hexDigit (char : Char) : Nat := if char.toNat < 58 then char.toNat - 48 else char.toNat - 87

/-- The characters are two digits of the byte. -/
def areDigitsOf (value : UInt8) : List Char → Bool
  | [high, low] => hexDigit high * 16 + hexDigit low = value.toNat && !isWhiteSpace high &&
      !isWhiteSpace low && high != 'x'
  | _ => false

/-- Every byte is two digits, which are read back as it. -/
theorem hexByte_digits (value : UInt8) : ∃ high low : Char, (hexByte value).toList = [high, low] ∧
    hexDigit high * 16 + hexDigit low = value.toNat ∧ isWhiteSpace high = false ∧
    isWhiteSpace low = false ∧ high ≠ 'x' := by
  have all : ∀ code < 256, areDigitsOf (UInt8.ofNat code) (hexByte (UInt8.ofNat code)).toList = true := by
    decide +kernel
  have here := all value.toNat value.toNat_lt
  rw [UInt8.ofNat_toNat] at here
  unfold areDigitsOf at here
  split at here
  case h_1 high low digits =>
    simp only [Bool.and_eq_true, decide_eq_true_eq, Bool.not_eq_true', bne_iff_ne] at here
    exact ⟨high, low, digits, here.1.1.1, here.1.1.2, here.1.2, here.2⟩
  case h_2 => cases here

theorem hexByte_determines : Determines (fun _ => True) fun value => (hexByte value).toList := by
  intro one other rest rest' _ _ same
  obtain ⟨high, low, digits, read, _⟩ := hexByte_digits one
  obtain ⟨high', low', digits', read', _⟩ := hexByte_digits other
  simp only [digits, digits', List.cons_append, List.nil_append, List.cons.injEq] at same
  obtain ⟨rfl, rfl, rfl⟩ := same
  exact ⟨UInt8.toNat_inj.mp (read.symm.trans read'), rfl⟩

theorem hexBytes_toList (bytes : Bytes) :
    (String.join (bytes.map hexByte)).toList = bytes.flatMap fun value => (hexByte value).toList := by
  simp [String.toList_join, List.flatMap_def, Function.comp_def]

theorem hexBytes_injective {one other : Bytes}
    (same : String.join (one.map hexByte) = String.join (other.map hexByte)) : one = other := by
  have words := congrArg String.toList same
  rw [hexBytes_toList, hexBytes_toList] at words
  -- a digest is over where a character stands that is no digit
  have determines : Determines (fun rest => rest.head? = some 'x')
      (fun values : Bytes => values.flatMap fun value => (hexByte value).toList) := by
    apply hexByte_determines.flatMap
    intro value
    obtain ⟨high, low, digits, _, _, _, plain⟩ := hexByte_digits value
    exact ⟨high, [low], digits, plain⟩
  exact (determines rfl rfl (congrArg (· ++ ['x']) words)).1

theorem hexBytes_dense (bytes : Bytes) :
    ∀ char ∈ (String.join (bytes.map hexByte)).toList, isWhiteSpace char = false := by
  intro char member
  rw [hexBytes_toList] at member
  obtain ⟨value, _, found⟩ := List.mem_flatMap.mp member
  obtain ⟨high, low, digits, _, dense, dense', _⟩ := hexByte_digits value
  rw [digits] at found
  rcases List.mem_cons.mp found with rfl | found
  · exact dense
  · cases List.mem_singleton.mp found
    exact dense'

theorem sha256Hex_eq_iff {lib : Primitives} {one other : Bytes} :
    lib.sha256Hex one = lib.sha256Hex other ↔ lib.sha256 one = lib.sha256 other := by
  constructor
  · exact hexBytes_injective
  · intro same
    unfold Primitives.sha256Hex
    rw [same]

/-!
## Base64
-/

/-- What `base64::engine::general_purpose::STANDARD` does. -/
structure Primitives.StandardBase64 (lib : Primitives) : Prop where
  roundTrip : ∀ bytes, lib.decodeBase64 (lib.encodeBase64 bytes) = .ok bytes
  alphabet : ∀ bytes, ∀ char ∈ (lib.encodeBase64 bytes).toList, Base64.isDigit char = true ∨ char = '='

/-- A library to which every file is malformed, to build others from. -/
def Primitives.refusing : Primitives where
  parseManifest := fun _ => .error (.json "expected value at line 1 column 1")
  parseModule := fun _ => .error (.json "expected value at line 1 column 1")
  parseSimpleDiff := fun _ => .error (.json "expected value at line 1 column 1")
  sha256 := fun _ => []
  decodeBase64 := fun _ => .error "Invalid padding"
  encodeBase64 := fun _ => ""
  verifyingKey := fun _ => .error "Cannot decompress Edwards point"
  signature := fun _ => .error "signature error"
  verify := fun _ _ _ => .error "signature error"
  zstdDecode := fun _ => .error (.io "Unknown frame descriptor")
  bsdiffPatch := fun _ _ => .error (.io "failed to fill whole buffer")

/-- The other functions of the library, with the encoding written out. -/
def Primitives.withBase64 (lib : Primitives) : Primitives :=
  { lib with
    encodeBase64 := fun bytes => String.ofList (Base64.encode bytes)
    decodeBase64 := fun text =>
      match Base64.decode text.toList with
      | some bytes => .ok bytes
      | none => .error "Invalid padding" }

theorem withBase64_standard (lib : Primitives) : lib.withBase64.StandardBase64 := by
  constructor
  · intro bytes
    unfold Primitives.withBase64
    dsimp only
    rw [String.toList_ofList, Base64.decode_encode]
  · intro bytes char member
    exact Base64.mem_encode (String.toList_ofList ▸ member)

/-!
## Known digests
-/

/-- A digest with these values, and none in common with them elsewhere. -/
def knownDigests (known : List (Bytes × Bytes)) (bytes : Bytes) : Bytes :=
  match known.find? (·.1 = bytes) with
  | some entry => entry.2
  | none => 0 :: bytes

theorem knownDigests_injective {known : List (Bytes × Bytes)} (distinct : (known.map (·.2)).Nodup)
    (apart : ∀ entry ∈ known, entry.2.head? ≠ some 0) : Function.Injective (knownDigests known) := by
  have known_or_not : ∀ bytes, (∃ entry ∈ known, entry.1 = bytes ∧ knownDigests known bytes = entry.2) ∨
      knownDigests known bytes = 0 :: bytes := by
    intro bytes
    unfold knownDigests
    cases found : known.find? (·.1 = bytes) with
    | none => exact .inr rfl
    | some entry =>
        have same : entry.1 = bytes := by simpa using List.find?_some found
        exact .inl ⟨entry, List.mem_of_find?_eq_some found, same, rfl⟩
  intro one other same
  obtain ⟨entry, member, rfl, digest⟩ | plain := known_or_not one
  · obtain ⟨entry', member', rfl, digest'⟩ | plain' := known_or_not other
    · rw [List.inj_on_of_nodup_map distinct member member' (digest.symm.trans (same.trans digest'))]
    · refine absurd ?_ (apart entry member)
      rw [← digest, same, plain']
      rfl
  · obtain ⟨entry', member', rfl, digest'⟩ | plain' := known_or_not other
    · refine absurd ?_ (apart entry' member')
      rw [← digest', ← same, plain]
      rfl
    · exact (List.cons.inj (plain.symm.trans (same.trans plain'))).2

end CodePush.Core
