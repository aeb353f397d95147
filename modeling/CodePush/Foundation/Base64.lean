import Mathlib

/-!
# Base64

The encoding of octets with padding, over lists of characters. The decoder takes exactly
what the encoder gives: the bits that the last digit does not need have to be zero.
-/

set_option autoImplicit false

namespace CodePush.Foundation.Base64

def digitOf (value : Nat) : Char :=
  if value < 26 then Char.ofNat (65 + value)
  else if value < 52 then Char.ofNat (71 + value)
  else if value < 62 then Char.ofNat (value - 4)
  else if value = 62 then '+'
  else '/'

def valueOf (char : Char) : Option Nat :=
  if 'A' ≤ char ∧ char ≤ 'Z' then some (char.toNat - 65)
  else if 'a' ≤ char ∧ char ≤ 'z' then some (char.toNat - 71)
  else if '0' ≤ char ∧ char ≤ '9' then some (char.toNat + 4)
  else if char = '+' then some 62
  else if char = '/' then some 63
  else none

def isDigit (char : Char) : Bool := (valueOf char).isSome

def octet (value : Nat) : UInt8 := UInt8.ofNat value

def encode : List UInt8 → List Char
  | [] => []
  | [one] => [digitOf (one.toNat / 4), digitOf (one.toNat % 4 * 16), '=', '=']
  | [one, two] =>
      [digitOf (one.toNat / 4), digitOf (one.toNat % 4 * 16 + two.toNat / 16),
        digitOf (two.toNat % 16 * 4), '=']
  | one :: two :: three :: rest =>
      digitOf (one.toNat / 4) :: digitOf (one.toNat % 4 * 16 + two.toNat / 16) ::
        digitOf (two.toNat % 16 * 4 + three.toNat / 64) :: digitOf (three.toNat % 64) :: encode rest

/-- A group of four characters that ends in padding. -/
def decodeLast (first second third : Char) : Option (List UInt8) := do
  let high ← valueOf first
  let low ← valueOf second
  if third = '=' then
    if low % 16 = 0 then some [octet (high * 4 + low / 16)] else none
  else do
    let more ← valueOf third
    if more % 4 = 0 then some [octet (high * 4 + low / 16), octet (low % 16 * 16 + more / 4)] else none

def decode : List Char → Option (List UInt8)
  | [] => some []
  | first :: second :: third :: fourth :: rest =>
      if fourth = '=' then if rest = [] then decodeLast first second third else none
      else do
        let one ← valueOf first
        let two ← valueOf second
        let three ← valueOf third
        let four ← valueOf fourth
        let tail ← decode rest
        some (octet (one * 4 + two / 16) :: octet (two % 16 * 16 + three / 4) ::
          octet (three % 4 * 64 + four) :: tail)
  | _ => none

/-!
## Digits
-/

theorem valueOf_digitOf {value : Nat} (small : value < 64) : valueOf (digitOf value) = some value := by
  have all : ∀ value < 64, valueOf (digitOf value) = some value := by decide
  exact all value small

theorem isDigit_digitOf {value : Nat} (small : value < 64) : isDigit (digitOf value) = true := by
  unfold isDigit
  rw [valueOf_digitOf small]
  rfl

theorem digitOf_ne_padding {value : Nat} (small : value < 64) : digitOf value ≠ '=' := by
  intro padding
  have read := valueOf_digitOf small
  rw [padding] at read
  cases read

theorem isDigit_ascii {char : Char} (digit : isDigit char = true) : char.toNat < 128 := by
  unfold isDigit valueOf at digit
  by_contra large
  have above : ∀ bound : Char, bound.toNat < 128 → ¬char ≤ bound := by
    intro bound small under
    have := UInt32.le_iff_toNat_le.mp (Char.le_def.mp under)
    unfold Char.toNat at small large
    omega
  have apart : ∀ other : Char, other.toNat < 128 → char ≠ other := by
    intro other small same
    exact large (same ▸ small)
  rw [if_neg (fun range => above 'Z' (by decide) range.2), if_neg (fun range => above 'z' (by decide) range.2),
    if_neg (fun range => above '9' (by decide) range.2), if_neg (apart '+' (by decide)),
    if_neg (apart '/' (by decide))] at digit
  cases digit

theorem octet_eq {value : UInt8} {code : Nat} (same : code = value.toNat) : octet code = value := by
  unfold octet
  rw [same, UInt8.ofNat_toNat]

/-!
## The round trip
-/

theorem decode_encode (octets : List UInt8) : decode (encode octets) = some octets := by
  fun_induction encode octets with
  | case1 => rfl
  | case2 one =>
      have := one.toNat_lt
      have high : valueOf (digitOf (one.toNat / 4)) = some (one.toNat / 4) := valueOf_digitOf (by omega)
      have low : valueOf (digitOf (one.toNat % 4 * 16)) = some (one.toNat % 4 * 16) :=
        valueOf_digitOf (by omega)
      have spare : one.toNat % 4 * 16 % 16 = 0 := by omega
      have first : octet (one.toNat / 4 * 4 + one.toNat % 4 * 16 / 16) = one := octet_eq (by omega)
      simp only [decode, decodeLast, high, low, spare, first, if_true, Option.bind_eq_bind, Option.bind_some]
  | case3 one two =>
      have := one.toNat_lt
      have := two.toNat_lt
      have high : valueOf (digitOf (one.toNat / 4)) = some (one.toNat / 4) := valueOf_digitOf (by omega)
      have low : valueOf (digitOf (one.toNat % 4 * 16 + two.toNat / 16)) =
          some (one.toNat % 4 * 16 + two.toNat / 16) := valueOf_digitOf (by omega)
      have more : valueOf (digitOf (two.toNat % 16 * 4)) = some (two.toNat % 16 * 4) :=
        valueOf_digitOf (by omega)
      have digit : digitOf (two.toNat % 16 * 4) ≠ '=' := digitOf_ne_padding (by omega)
      have spare : two.toNat % 16 * 4 % 4 = 0 := by omega
      have first : octet (one.toNat / 4 * 4 + (one.toNat % 4 * 16 + two.toNat / 16) / 16) = one :=
        octet_eq (by omega)
      have second : octet ((one.toNat % 4 * 16 + two.toNat / 16) % 16 * 16 + two.toNat % 16 * 4 / 4) = two :=
        octet_eq (by omega)
      simp only [decode, decodeLast, high, low, more, digit, spare, first, second, if_true, if_false,
        Option.bind_eq_bind, Option.bind_some]
  | case4 one two three rest ih =>
      have := one.toNat_lt
      have := two.toNat_lt
      have := three.toNat_lt
      have first : valueOf (digitOf (one.toNat / 4)) = some (one.toNat / 4) := valueOf_digitOf (by omega)
      have second : valueOf (digitOf (one.toNat % 4 * 16 + two.toNat / 16)) =
          some (one.toNat % 4 * 16 + two.toNat / 16) := valueOf_digitOf (by omega)
      have third : valueOf (digitOf (two.toNat % 16 * 4 + three.toNat / 64)) =
          some (two.toNat % 16 * 4 + three.toNat / 64) := valueOf_digitOf (by omega)
      have fourth : valueOf (digitOf (three.toNat % 64)) = some (three.toNat % 64) :=
        valueOf_digitOf (by omega)
      have digit : digitOf (three.toNat % 64) ≠ '=' := digitOf_ne_padding (by omega)
      have one_eq : octet (one.toNat / 4 * 4 + (one.toNat % 4 * 16 + two.toNat / 16) / 16) = one :=
        octet_eq (by omega)
      have two_eq : octet ((one.toNat % 4 * 16 + two.toNat / 16) % 16 * 16 +
          (two.toNat % 16 * 4 + three.toNat / 64) / 4) = two := octet_eq (by omega)
      have three_eq : octet ((two.toNat % 16 * 4 + three.toNat / 64) % 4 * 64 + three.toNat % 64) = three :=
        octet_eq (by omega)
      simp only [decode, first, second, third, fourth, digit, ih, one_eq, two_eq, three_eq, if_false,
        Option.bind_eq_bind, Option.bind_some]

/-- A text holds digits and padding only. -/
theorem mem_encode {octets : List UInt8} {char : Char} (member : char ∈ encode octets) :
    isDigit char = true ∨ char = '=' := by
  fun_induction encode octets with
  | case1 => cases member
  | case2 one =>
      have := one.toNat_lt
      simp only [List.mem_cons, List.not_mem_nil, or_false] at member
      obtain rfl | rfl | same | same := member
      · exact .inl (isDigit_digitOf (by omega))
      · exact .inl (isDigit_digitOf (by omega))
      · exact .inr same
      · exact .inr same
  | case3 one two =>
      have := one.toNat_lt
      have := two.toNat_lt
      simp only [List.mem_cons, List.not_mem_nil, or_false] at member
      obtain rfl | rfl | rfl | same := member
      · exact .inl (isDigit_digitOf (by omega))
      · exact .inl (isDigit_digitOf (by omega))
      · exact .inl (isDigit_digitOf (by omega))
      · exact .inr same
  | case4 one two three rest ih =>
      have := one.toNat_lt
      have := two.toNat_lt
      have := three.toNat_lt
      simp only [List.mem_cons] at member
      obtain rfl | rfl | rfl | rfl | later := member
      · exact .inl (isDigit_digitOf (by omega))
      · exact .inl (isDigit_digitOf (by omega))
      · exact .inl (isDigit_digitOf (by omega))
      · exact .inl (isDigit_digitOf (by omega))
      · exact ih later

end CodePush.Foundation.Base64
