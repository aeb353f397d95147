import Mathlib

/-!
# Shared vocabulary of the Rust crates

The error type of `fcb_core` and the few operations on `str` that the modelled
functions use. Texts are kept: callers and tests match on them.
-/

set_option autoImplicit false

namespace CodePush.Core

/-- `fcb_core::Error`. A `panic` is not an `Err` in the source: it unwinds. It is
kept apart so that a result says which of the two happened. -/
inductive Error where
  | message (text : String)
  | io (text : String)
  | json (text : String)
  | http (text : String)
  | panic (text : String)
  deriving Repr, DecidableEq

abbrev Result (α : Type) := Except Error α

/-- Texts that were taken apart are compared character by character. -/
instance lawfulText : LawfulBEq (List Char) := List.instLawfulBEq

def err {α : Type} (text : String) : Result α := .error (.message text)

/-- The call comes back, with a value or an error. -/
def Returns {α : Type} (result : Result α) : Prop := ∀ text, result ≠ .error (.panic text)

section Returns

variable {α β : Type}

theorem returns_ok (value : α) : Returns (.ok value : Result α) := fun _ same => nomatch same

theorem returns_err (text : String) : Returns (err text : Result α) := fun _ same => nomatch same

theorem returns_http (text : String) : Returns (.error (.http text) : Result α) :=
  fun _ same => nomatch same

theorem Returns.map {result : Result α} (returns : Returns result) (convert : α → β) :
    Returns (result.map convert) := by
  intro text same
  cases result with
  | ok value => cases same
  | error error =>
      cases same
      exact returns text rfl

end Returns

abbrev Bytes := List UInt8

/-- How a `fs::write` ends. An error can leave the front of the content in the file. -/
inductive FileWrite where
  | done
  | refused (error : Error)
  | cut (kept : Nat) (error : Error)
  deriving Repr, DecidableEq

/-- Unicode `White_Space`, the class that `str::trim` removes. -/
def isWhiteSpace (char : Char) : Bool :=
  let code := char.toNat
  (0x09 ≤ code && code ≤ 0x0d) || code == 0x20 || code == 0x85 || code == 0xa0 ||
    code == 0x1680 || (0x2000 ≤ code && code ≤ 0x200a) || code == 0x2028 || code == 0x2029 ||
    code == 0x202f || code == 0x205f || code == 0x3000

/-- `text.trim().is_empty()`. -/
def isBlank (text : String) : Bool := text.toList.all isWhiteSpace

/-- `str::trim`. -/
def trim (text : String) : String :=
  let front := text.toList.dropWhile isWhiteSpace
  String.ofList (front.reverse.dropWhile isWhiteSpace).reverse

/-- `str::find` for a literal marker: the text before and after its first occurrence. -/
def splitAtMarker (marker : List Char) : List Char → Option (List Char × List Char)
  | [] => if marker.isEmpty then some ([], []) else none
  | char :: rest =>
      if marker.isPrefixOf (char :: rest) then some ([], (char :: rest).drop marker.length)
      else (splitAtMarker marker rest).map fun (before, after) => (char :: before, after)

/-!
## UTF-8
-/

/-- The values that may follow a leading byte, and the length of its character.
`none` for a byte that starts no character. -/
def utf8Lead (byte : UInt8) : Option (Nat × Nat × Nat) :=
  let value := byte.toNat
  if value < 0x80 then some (1, 0x80, 0xbf)
  else if 0xc2 ≤ value ∧ value ≤ 0xdf then some (2, 0x80, 0xbf)
  else if value = 0xe0 then some (3, 0xa0, 0xbf)
  else if value = 0xed then some (3, 0x80, 0x9f)
  else if 0xe1 ≤ value ∧ value ≤ 0xef then some (3, 0x80, 0xbf)
  else if value = 0xf0 then some (4, 0x90, 0xbf)
  else if value = 0xf4 then some (4, 0x80, 0x8f)
  else if 0xf1 ≤ value ∧ value ≤ 0xf3 then some (4, 0x80, 0xbf)
  else none

/-- How many of the bytes after the lead belong to its character. -/
def utf8Continuations (low high : Nat) : Nat → Bytes → Nat
  | 0, _ => 0
  | _ + 1, [] => 0
  | missing + 1, byte :: rest =>
      if low ≤ byte.toNat ∧ byte.toNat ≤ high then
        utf8Continuations 0x80 0xbf missing rest + 1
      else 0

/-- The `Display` of the `Utf8Error` for text that is valid up to `index` and
malformed from `rest` on. -/
def utf8ErrorText (index : Nat) (rest : Bytes) : String :=
  match rest with
  | [] => s!"incomplete utf-8 byte sequence from index {index}"
  | lead :: following =>
      match utf8Lead lead with
      | none => s!"invalid utf-8 sequence of 1 bytes from index {index}"
      | some (length, low, high) =>
          let accepted := utf8Continuations low high (length - 1) following
          if accepted = following.length then
            s!"incomplete utf-8 byte sequence from index {index}"
          else s!"invalid utf-8 sequence of {accepted + 1} bytes from index {index}"

/-- The longest prefix of at most `limit` bytes that is valid UTF-8. -/
def utf8ValidUpTo (bytes : Bytes) : Nat → Nat
  | 0 => 0
  | limit + 1 =>
      if (String.fromUTF8? (bytes.take (limit + 1)).toByteArray).isSome then limit + 1
      else utf8ValidUpTo bytes limit

/-- `String::from_utf8` with the error turned into a message. -/
def stringFromUtf8 (bytes : Bytes) : Result String :=
  match String.fromUTF8? bytes.toByteArray with
  | some text => .ok text
  | none =>
      let valid := utf8ValidUpTo bytes bytes.length
      err (utf8ErrorText valid (bytes.drop valid))

/-- `str::as_bytes`. -/
def stringBytes (text : String) : Bytes := text.toByteArray.data.toList

theorem stringFromUtf8_stringBytes (text : String) :
    stringFromUtf8 (stringBytes text) = .ok text := by
  have whole : (stringBytes text).toByteArray = text.toByteArray := by
    ext1
    simp [stringBytes]
  simp [stringFromUtf8, whole, String.fromUTF8?, text.isValidUTF8, String.fromUTF8]

theorem stringBytes_of_stringFromUtf8 {bytes : Bytes} {text : String}
    (decoded : stringFromUtf8 bytes = .ok text) : stringBytes text = bytes := by
  unfold stringFromUtf8 String.fromUTF8? at decoded
  split at decoded
  case h_1 found =>
    split at found
    case isTrue valid =>
      cases found
      cases decoded
      simp [stringBytes, String.fromUTF8]
    case isFalse => cases found
  case h_2 => cases decoded

/-- `{value:02x}`. -/
def hexByte (value : UInt8) : String :=
  let digits := Nat.toDigits 16 value.toNat
  String.ofList (if digits.length < 2 then '0' :: digits else digits)

theorem trim_of_dense {text : String} (dense : ∀ char ∈ text.toList, isWhiteSpace char = false) :
    trim text = text := by
  have keeps : ∀ chars : List Char, (∀ char ∈ chars, isWhiteSpace char = false) →
      chars.dropWhile isWhiteSpace = chars := by
    intro chars visible
    cases chars with
    | nil => rfl
    | cons char chars => simp [visible char List.mem_cons_self]
  have front := keeps text.toList dense
  have back := keeps text.toList.reverse (by simpa using dense)
  simp [trim, front, back]

theorem trim_blank_left {front text : List Char} (blank : ∀ char ∈ front, isWhiteSpace char = true) :
    trim (String.ofList (front ++ text)) = trim (String.ofList text) := by
  unfold trim
  rw [String.toList_ofList, String.toList_ofList, List.dropWhile_append_of_pos blank]

theorem isPrefixOf_absent {marker text : List Char} {char : Char} (inMarker : char ∈ marker) (absent : char ∉ text) :
    marker.isPrefixOf text = false := by
  rw [← Bool.not_eq_true, List.isPrefixOf_iff_prefix]
  exact fun start => absent (start.subset inMarker)

theorem splitAtMarker_absent {marker text : List Char} {char : Char} (inMarker : char ∈ marker)
    (absent : char ∉ text) : splitAtMarker marker text = none := by
  induction text with
  | nil =>
      cases marker with
      | nil => cases inMarker
      | cons first marker => rfl
  | cons first text ih =>
      unfold splitAtMarker
      rw [isPrefixOf_absent inMarker absent, ih fun member => absent (List.mem_cons_of_mem _ member)]
      rfl

/-- The first occurrence of a marker is the one behind a text without its first character. -/
theorem splitAtMarker_first {marker front back : List Char} {first : Char} (absent : first ∉ front) :
    splitAtMarker (first :: marker) (front ++ (first :: marker) ++ back) = some (front, back) := by
  induction front with
  | nil => simp [splitAtMarker]
  | cons char front ih =>
      have other : (first == char) = false := by
        rw [beq_eq_false_iff_ne]
        intro same
        exact absent (same ▸ List.mem_cons_self)
      rw [List.cons_append, List.cons_append]
      unfold splitAtMarker
      rw [ih fun member => absent (List.mem_cons_of_mem _ member)]
      simp [List.isPrefixOf, other]

/-- A property of the characters of a known text, by looking at each. -/
theorem forall_mem_of_all {property : Char → Bool} {value : Bool} {text : List Char}
    (all : text.all (property · == value) = true) : ∀ char ∈ text, property char = value := by
  intro char member
  exact eq_of_beq (List.all_eq_true.mp all char member)

theorem trim_blank_right {text back : List Char} (blank : ∀ char ∈ back, isWhiteSpace char = true) :
    trim (String.ofList (text ++ back)) = trim (String.ofList text) := by
  unfold trim
  rw [String.toList_ofList, String.toList_ofList, List.dropWhile_append]
  split
  case isTrue all =>
    rw [List.isEmpty_iff.mp all]
    have none : (back ++ []).dropWhile isWhiteSpace = [] := List.dropWhile_append_of_pos blank
    rw [List.append_nil] at none
    rw [none]
  case isFalse =>
    have blankReversed : ∀ char ∈ back.reverse, isWhiteSpace char = true :=
      fun char member => blank char (List.mem_reverse.mp member)
    dsimp only
    rw [List.reverse_append, List.dropWhile_append_of_pos blankReversed]

/-!
## Decimal digits
-/

theorem toDigits_isDigit (number : Nat) : ∀ char ∈ Nat.toDigits 10 number, char.isDigit = true :=
  fun _ member => Nat.isDigit_of_mem_toDigits (by decide) (by decide) member

/-- What the decimal digits of a number are read back as. -/
theorem foldl_toDigits (number : Nat) :
    (Nat.toDigits 10 number).foldl (fun value digit => value * 10 + (digit.toNat - 48)) 0 = number := by
  have read := @Nat.ofDigitChars_ten_toDigits number
  rw [Nat.ofDigitChars_eq_foldl] at read
  have zero : '0'.toNat = 48 := rfl
  simpa only [Nat.mul_comm, zero] using read

theorem toDigits_head (number : Nat) {char : Char} (other : char.isDigit = false) :
    (Nat.toDigits 10 number).head? ≠ some char := by
  intro found
  cases other.symm.trans (toDigits_isDigit number char (List.mem_of_head? found))

theorem isWhiteSpace_of_isDigit {char : Char} (digit : char.isDigit = true) : isWhiteSpace char = false := by
  unfold Char.isDigit at digit
  rw [Bool.and_eq_true, decide_eq_true_eq, decide_eq_true_eq] at digit
  have low : 48 ≤ char.toNat := digit.1
  have high : char.toNat ≤ 57 := digit.2
  simp only [isWhiteSpace, Bool.or_eq_false_iff, Bool.and_eq_false_iff, decide_eq_false_iff_not,
    beq_eq_false_iff_ne]
  omega

/-!
## Retries of `Client`
-/

/-- `RETRY_DELAYS.len()`. -/
def retryDelays : Nat := 4

def canRetry (attempt : Nat) : Bool := attempt < retryDelays

def shouldRetryStatus (status : Nat) : Bool := 500 ≤ status

end CodePush.Core
