import CodePush.Core.Utf8

/-!
# Entry points of the AOT snapshot

`strip_mangle` and `normalize_entry` of `cli/src/aot_entry_points.rs`. The first walks the bytes of a
name and writes characters, so that a character of several bytes becomes several characters.
-/

set_option autoImplicit false

namespace CodePush.Cli

open CodePush.Core

/-!
## Stripping
-/

/-- `u8::is_ascii_digit`. -/
def isAsciiDigit (byte : UInt8) : Bool := 0x30 ≤ byte.toNat && byte.toNat ≤ 0x39

/-- `byte as char`. -/
def byteChar (byte : UInt8) : Char := Char.ofNat byte.toNat

/-- The loop of `strip_mangle`, from an offset on. -/
def stripBytes : Bytes → List Char
  | [] => []
  | byte :: rest =>
      if byte == 0x40 && rest.head?.any isAsciiDigit then stripBytes (rest.dropWhile isAsciiDigit)
      else byteChar byte :: stripBytes rest
termination_by bytes => bytes.length
decreasing_by
  · have := (List.dropWhile_sublist isAsciiDigit (l := rest)).length_le
    simp only [List.length_cons]
    omega
  · simp

def stripMangle (name : String) : String := String.ofList (stripBytes (stringBytes name))

/-!
## Entries
-/

/-- One entry of the sizes: its library, its class and its name. -/
structure SizeEntry where
  l : Option String
  c : Option String
  n : String

/-- The name behind a leading tag. -/
def untagged (name : List Char) : List Char :=
  match name.head? == some '[', splitAtMarker "] ".toList name with
  | true, some (_, rest) => rest
  | _, _ => name

def skippedStarts : List String := ["[tear-off]", "[tear-off-extractor]", "Allocate ", "Type ", "dyn:"]

/-- The entries that are no addressable function. -/
def notAddressable (name : List Char) : Bool :=
  skippedStarts.any (·.toList.isPrefixOf name) || (splitAtMarker "<anonymous closure".toList name).isSome ||
    (splitAtMarker "<anonymous".toList name).isSome

def normalizeEntry (entry : SizeEntry) : Option String := do
  let library ← entry.l
  if library.isEmpty then none
  else
    let name := untagged entry.n.toList
    if notAddressable name then none
    else if "new ".toList.isPrefixOf name then
      some (library ++ "::class:" ++ stripMangle (String.ofList (name.drop "new ".toList.length)))
    else
      let member := stripMangle (String.ofList name)
      match entry.c with
      | some «class» =>
          if «class».isEmpty then some (library ++ "::" ++ member)
          else some (library ++ "::class:" ++ stripMangle «class» ++ "." ++ member)
      | none => some (library ++ "::" ++ member)

/-!
## Exact stripping
-/

/-- The text without its maximal parts of a `@` and digits after it. -/
inductive Stripped : List Char → List Char → Prop where
  | nil : Stripped [] []
  | mangle {digits rest out : List Char} (nonempty : digits ≠ []) (digit : ∀ char ∈ digits, char.isDigit = true)
      (maximal : rest.head?.any Char.isDigit = false) (later : Stripped rest out) :
      Stripped ('@' :: (digits ++ rest)) out
  | keep {char : Char} {rest out : List Char} (plain : char = '@' → rest.head?.any Char.isDigit = false)
      (later : Stripped rest out) : Stripped (char :: rest) (char :: out)

section Digits

variable {char : Char} {back digits : List Char}

theorem digit_ascii (digit : char.isDigit = true) : isAscii char = true := by
  unfold Char.isDigit at digit
  simp only [Bool.and_eq_true, decide_eq_true_eq] at digit
  have small : char.toNat ≤ 57 := UInt32.le_iff_toNat_le.mp digit.2
  unfold isAscii
  exact decide_eq_true (by omega)

theorem isAsciiDigit_ascii (ascii : isAscii char = true) :
    isAsciiDigit (UInt8.ofNat char.toNat) = char.isDigit := by
  have below : char.toNat < 128 := of_decide_eq_true ascii
  have value : (UInt8.ofNat char.toNat).toNat = char.toNat :=
    UInt8.toNat_ofNat_of_lt' (Nat.lt_trans below (by decide))
  unfold isAsciiDigit Char.isDigit
  rw [value]
  simp only [ge_iff_le, UInt32.le_iff_toNat_le]
  rfl

theorem isAsciiDigit_high {byte : UInt8} (high : 128 ≤ byte.toNat) : isAsciiDigit byte = false := by
  unfold isAsciiDigit
  simp only [Bool.and_eq_false_imp, decide_eq_true_eq, decide_eq_false_iff_not]
  omega

/-- The first byte of a text is a digit where its first character is. -/
theorem head_utf8 (text : List Char) : (utf8 text).head?.any isAsciiDigit = text.head?.any Char.isDigit := by
  cases text with
  | nil => rfl
  | cons char text =>
      rw [utf8_cons]
      cases ascii : isAscii char with
      | true =>
          rw [encode_ascii ascii]
          exact isAsciiDigit_ascii ascii
      | false =>
          obtain ⟨long, high⟩ := encode_wide ascii
          have undigit : char.isDigit = false := by
            rw [← Bool.not_eq_true]
            intro digit
            rw [digit_ascii digit] at ascii
            cases ascii
          cases bytes : String.utf8EncodeChar char with
          | nil =>
              rw [bytes] at long
              cases long
          | cons byte more =>
              rw [bytes, List.forall_mem_cons] at high
              show isAsciiDigit byte = char.isDigit
              rw [isAsciiDigit_high high.1, undigit]

theorem dropWhile_of_head {bytes : Bytes} (head : bytes.head?.any isAsciiDigit = false) :
    bytes.dropWhile isAsciiDigit = bytes := by
  cases bytes with
  | nil => rfl
  | cons byte bytes => exact List.dropWhile_cons_of_neg (ne_true_of_eq_false head)

theorem dropWhile_digits (digit : ∀ char ∈ digits, char.isDigit = true)
    (maximal : back.head?.any Char.isDigit = false) :
    (utf8 (digits ++ back)).dropWhile isAsciiDigit = utf8 back := by
  induction digits with
  | nil => exact dropWhile_of_head ((head_utf8 back).trans maximal)
  | cons char digits ih =>
      rw [List.forall_mem_cons] at digit
      have ascii := digit_ascii digit.1
      rw [List.cons_append, utf8_cons, encode_ascii ascii, List.singleton_append,
        List.dropWhile_cons_of_pos ((isAsciiDigit_ascii ascii).trans digit.1)]
      exact ih digit.2

end Digits

/-!
## What is written for a name
-/

/-- The characters that are written for a character. -/
def written (char : Char) : List Char := (String.utf8EncodeChar char).map byteChar

section Written

variable {char : Char} {text out rest : List Char}

theorem stripBytes_cons {byte : UInt8} {bytes : Bytes}
    (kept : (byte == 0x40 && bytes.head?.any isAsciiDigit) = false) :
    stripBytes (byte :: bytes) = byteChar byte :: stripBytes bytes := by
  rw [stripBytes, kept]
  rfl

theorem stripBytes_high {bytes more : Bytes} (high : ∀ byte ∈ bytes, 128 ≤ byte.toNat) :
    stripBytes (bytes ++ more) = bytes.map byteChar ++ stripBytes more := by
  induction bytes with
  | nil => rfl
  | cons byte bytes ih =>
      rw [List.forall_mem_cons] at high
      have other : (byte == 0x40) = false := by
        rw [beq_eq_false_iff_ne]
        intro same
        rw [same] at high
        exact absurd high.1 (by decide)
      rw [List.cons_append, stripBytes_cons (by rw [other, Bool.false_and]), ih high.2]
      rfl

theorem stripBytes_mangle {bytes : Bytes} (head : bytes.head?.any isAsciiDigit = true) :
    stripBytes (0x40 :: bytes) = stripBytes (bytes.dropWhile isAsciiDigit) := by
  rw [stripBytes, head]
  rfl

theorem at_of_byte (ascii : isAscii char = true) (same : (UInt8.ofNat char.toNat == 0x40) = true) : char = '@' := by
  have below : char.toNat < 128 := of_decide_eq_true ascii
  have value := congrArg UInt8.toNat (beq_iff_eq.mp same)
  rw [UInt8.toNat_ofNat_of_lt' (Nat.lt_trans below (by decide))] at value
  exact Char.toNat_inj.mp value

/-- The bytes of what is kept, each as a character. -/
theorem stripBytes_stripped (stripped : Stripped text out) : stripBytes (utf8 text) = out.flatMap written := by
  induction stripped with
  | nil => rw [utf8, List.flatMap_nil, stripBytes, List.flatMap_nil]
  | @mangle digits rest out nonempty digit maximal later ih =>
      have head : (utf8 (digits ++ rest)).head?.any isAsciiDigit = true := by
        rw [head_utf8]
        cases digits with
        | nil => exact absurd rfl nonempty
        | cons char digits => exact digit char List.mem_cons_self
      rw [utf8_cons, encode_ascii (by decide), List.singleton_append]
      exact (stripBytes_mangle head).trans (by rw [dropWhile_digits digit maximal, ih])
  | @keep char rest out plain later ih =>
      rw [utf8_cons, List.flatMap_cons, ← ih]
      cases ascii : isAscii char with
      | true =>
          unfold written
          rw [encode_ascii ascii, List.singleton_append]
          apply stripBytes_cons
          rw [Bool.and_eq_false_imp, head_utf8]
          exact fun same => plain (at_of_byte ascii same)
      | false => exact stripBytes_high (encode_wide ascii).2

theorem written_ascii (ascii : isAscii char = true) : written char = [char] := by
  have below : char.toNat < 128 := of_decide_eq_true ascii
  unfold written byteChar
  rw [encode_ascii ascii, List.map_singleton, UInt8.toNat_ofNat_of_lt' (Nat.lt_trans below (by decide)),
    Char.ofNat_toNat]

theorem length_written (char : Char) : 1 ≤ (written char).length ∧
    ((written char).length = 1 → isAscii char = true) := by
  cases ascii : isAscii char with
  | true =>
      rw [written_ascii ascii]
      exact ⟨Nat.le_refl 1, fun _ => rfl⟩
  | false =>
      have long := (encode_wide ascii).1
      unfold written
      rw [List.length_map]
      omega

/-- A text that is written as itself has characters of one byte. -/
theorem flatMap_written_iff (out : List Char) :
    out.flatMap written = out ↔ ∀ char ∈ out, isAscii char = true := by
  constructor
  · intro same
    have length : ∀ out : List Char, out.length ≤ (out.flatMap written).length ∧
        ((out.flatMap written).length = out.length → ∀ char ∈ out, isAscii char = true) := by
      intro out
      induction out with
      | nil => simp
      | cons char out ih =>
          obtain ⟨one, single⟩ := length_written char
          rw [List.flatMap_cons, List.length_append, List.length_cons, List.forall_mem_cons]
          refine ⟨by omega, ?_⟩
          intro same
          exact ⟨single (by omega), ih.2 (by omega)⟩
    exact (length out).2 (congrArg List.length same)
  · intro ascii
    induction out with
    | nil => rfl
    | cons char out ih =>
        rw [List.forall_mem_cons] at ascii
        rw [List.flatMap_cons, written_ascii ascii.1, ih ascii.2, List.singleton_append]

/-!
## Exactly the mangles
-/

theorem Stripped.mem_iff (stripped : Stripped text out) :
    (∀ char ∈ text, isAscii char = true) ↔ ∀ char ∈ out, isAscii char = true := by
  induction stripped with
  | nil => simp
  | mangle nonempty digit maximal later ih =>
      rw [List.forall_mem_cons, List.forall_mem_append, ih]
      constructor
      · exact fun all => all.2.2
      · exact fun all => ⟨by decide, fun char member => digit_ascii (digit char member), all⟩
  | keep plain later ih => rw [List.forall_mem_cons, List.forall_mem_cons, ih]

theorem dropWhile_maximal (digit : ∀ char ∈ text, char.isDigit = true)
    (maximal : rest.head?.any Char.isDigit = false) : (text ++ rest).dropWhile Char.isDigit = rest := by
  rw [List.dropWhile_append_of_pos digit]
  cases rest with
  | nil => rfl
  | cons char rest => exact List.dropWhile_cons_of_neg (ne_true_of_eq_false maximal)

theorem Stripped.at_digit (stripped : Stripped ('@' :: text) out) (digit : text.head?.any Char.isDigit = true) :
    Stripped (text.dropWhile Char.isDigit) out := by
  cases stripped with
  | @mangle digits rest _ nonempty all maximal later =>
      rw [dropWhile_maximal all maximal]
      exact later
  | keep plain _ =>
      rw [plain rfl] at digit
      cases digit

theorem Stripped.kept (stripped : Stripped (char :: text) out)
    (plain : char = '@' → text.head?.any Char.isDigit = false) : ∃ rest, out = char :: rest ∧ Stripped text rest := by
  cases stripped with
  | @mangle digits rest _ nonempty all maximal later =>
      cases digits with
      | nil => exact absurd rfl nonempty
      | cons digit digits =>
          have first : digit.isDigit = false := plain rfl
          rw [all digit List.mem_cons_self] at first
          cases first
  | keep _ later => exact ⟨_, rfl, later⟩

theorem exists_stripped (text : List Char) : ∃ out, Stripped text out := by
  induction length : text.length using Nat.strongRecOn generalizing text with
  | _ size ih =>
      cases text with
      | nil => exact ⟨[], .nil⟩
      | cons char text =>
          rw [List.length_cons] at length
          by_cases mangled : char = '@' ∧ text.head?.any Char.isDigit = true
          · obtain ⟨rfl, digit⟩ := mangled
            have shorter := (List.dropWhile_sublist Char.isDigit (l := text)).length_le
            obtain ⟨out, later⟩ := ih _ (by omega) (text.dropWhile Char.isDigit) rfl
            refine ⟨out, ?_⟩
            rw [← List.takeWhile_append_dropWhile (p := Char.isDigit) (l := text)]
            refine .mangle ?_ (fun _ member => List.mem_takeWhile_imp member) ?_ later
            · intro none
              cases text with
              | nil => cases digit
              | cons next text =>
                  have first : next.isDigit = true := digit
                  rw [List.takeWhile_cons_of_pos first] at none
                  cases none
            · cases rest : text.dropWhile Char.isDigit with
              | nil => rfl
              | cons next more =>
                  have stops := List.head_dropWhile_not Char.isDigit (by rw [rest]; exact List.cons_ne_nil _ _)
                  simp only [rest, List.head_cons] at stops
                  exact stops
          · obtain ⟨out, later⟩ := ih text.length (by omega) text rfl
            refine ⟨char :: out, .keep ?_ later⟩
            intro same
            rw [← Bool.not_eq_true]
            exact fun digit => mangled ⟨same, digit⟩

theorem Stripped.unique {out' : List Char} (stripped : Stripped text out) (stripped' : Stripped text out') :
    out = out' := by
  induction stripped generalizing out' with
  | nil =>
      cases stripped'
      rfl
  | @mangle digits rest out nonempty digit maximal later ih =>
      apply ih
      have head : (digits ++ rest).head?.any Char.isDigit = true := by
        cases digits with
        | nil => exact absurd rfl nonempty
        | cons char digits => exact digit char List.mem_cons_self
      have later' := stripped'.at_digit head
      rw [dropWhile_maximal digit maximal] at later'
      exact later'
  | keep plain later ih =>
      obtain ⟨rest, rfl, later'⟩ := stripped'.kept plain
      rw [ih later']

/-- Stripping is exact for names of ASCII characters, and for no others. -/
theorem stripped_iff_ascii (name : String) :
    Stripped name.toList (stripMangle name).toList ↔ ∀ char ∈ name.toList, isAscii char = true := by
  obtain ⟨out, stripped⟩ := exists_stripped name.toList
  have result : (stripMangle name).toList = out.flatMap written := by
    unfold stripMangle
    rw [String.toList_ofList, stringBytes_eq, stripBytes_stripped stripped]
  rw [result, stripped.mem_iff, ← flatMap_written_iff]
  constructor
  · exact fun exact => exact.unique stripped
  · intro same
    rw [same]
    exact stripped

end Written

end CodePush.Cli
