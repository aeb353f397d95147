import CodePush.Core.Basic

/-!
# UTF-8

Which bytes a character has. Those of a character beyond ASCII are none of ASCII.
-/

set_option autoImplicit false

namespace CodePush.Core

def isAscii (char : Char) : Bool := char.toNat < 128

section Encoding

variable {char : Char} {text : List Char}

def utf8 (text : List Char) : Bytes := text.flatMap String.utf8EncodeChar

theorem stringBytes_eq (text : String) : stringBytes text = utf8 text.toList := by
  unfold stringBytes utf8
  rw [← String.utf8Encode_toList]
  simp [List.utf8Encode]

@[simp] theorem utf8_cons : utf8 (char :: text) = String.utf8EncodeChar char ++ utf8 text := rfl

theorem encode_ascii (ascii : isAscii char = true) : String.utf8EncodeChar char = [UInt8.ofNat char.toNat] := by
  have small : char.val.toNat ≤ 0x7f := by
    have below : char.toNat < 128 := of_decide_eq_true ascii
    have same : char.val.toNat = char.toNat := rfl
    omega
  unfold String.utf8EncodeChar
  exact if_pos small

theorem high_byte {rest : Nat} (offset : Nat) (high : 128 ≤ offset) (fits : rest + offset < 256) :
    128 ≤ (UInt8.ofNat (rest + offset)).toNat := by
  rw [UInt8.toNat_ofNat_of_lt' fits]
  omega

theorem encode_wide (wide : isAscii char = false) :
    1 < (String.utf8EncodeChar char).length ∧ ∀ byte ∈ String.utf8EncodeChar char, 128 ≤ byte.toNat := by
  have large : ¬ char.val.toNat ≤ 0x7f := by
    have above : ¬ char.toNat < 128 := of_decide_eq_false wide
    have same : char.val.toNat = char.toNat := rfl
    omega
  have continued : ∀ value : Nat, 128 ≤ (UInt8.ofNat (value % 0x40 + 0x80)).toNat :=
    fun value => high_byte _ (by omega) (by omega)
  unfold String.utf8EncodeChar
  dsimp only
  rw [if_neg large]
  split
  · refine ⟨Nat.lt_succ_self 1, ?_⟩
    simp only [List.forall_mem_cons]
    exact ⟨high_byte _ (by omega) (by omega), continued _, by simp⟩
  · split
    · refine ⟨by simp, ?_⟩
      simp only [List.forall_mem_cons]
      exact ⟨high_byte _ (by omega) (by omega), continued _, continued _, by simp⟩
    · refine ⟨by simp, ?_⟩
      simp only [List.forall_mem_cons]
      exact ⟨high_byte _ (by omega) (by omega), continued _, continued _, continued _, by simp⟩

/-- The byte of a character of ASCII stands for that character alone. -/
theorem byte_absent {value : UInt8} (ascii : value.toNat < 128) (absent : Char.ofNat value.toNat ∉ text) :
    value ∉ utf8 text := by
  intro member
  obtain ⟨char, inText, inChar⟩ := List.mem_flatMap.mp member
  cases kind : isAscii char with
  | true =>
      rw [encode_ascii kind, List.mem_singleton] at inChar
      have below : char.toNat < 128 := of_decide_eq_true kind
      apply absent
      rw [inChar, UInt8.toNat_ofNat_of_lt' (Nat.lt_trans below (by decide)), Char.ofNat_toNat]
      exact inText
  | false =>
      have high := (encode_wide kind).2 value inChar
      omega

end Encoding

end CodePush.Core
