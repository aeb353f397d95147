import CodePush.Core.Digests
import CodePush.Updater.Durability
import CodePush.Updater.Runtime

/-!
# Keys in a SubjectPublicKeyInfo

The key of a `SubjectPublicKeyInfo` is looked for by the three bytes in front of it, from
the end, so that the same bytes inside the key hide it. What is wrapped around the encoded
bytes makes no difference.
-/

set_option autoImplicit false

namespace CodePush.Updater

open CodePush.Core CodePush.Foundation

/-!
## The position of the key
-/

def keyHeader : Bytes := [0x03, 0x21, 0x00]

/-- The window at the position is `03 21 00`. -/
def HeaderAt (der : Bytes) (pos : Nat) : Prop := (der.drop pos).take 3 = keyHeader

section Positions

variable {der : Bytes} {pos : Nat}

theorem HeaderAt.inside (found : HeaderAt der pos) : pos + 3 ≤ der.length := by
  have length := congrArg List.length found
  simp only [keyHeader, List.length_take, List.length_drop, List.length_cons, List.length_nil] at length
  omega

theorem headerAt_iff : HeaderAt der pos ↔ keyHeader <+: der.drop pos := by
  rw [List.prefix_iff_eq_take]
  exact eq_comm

theorem exists_headerAt_iff : (∃ pos, HeaderAt der pos) ↔ keyHeader <:+: der := by
  constructor
  · intro found
    obtain ⟨pos, found⟩ := found
    exact (headerAt_iff.mp found).isInfix.trans (List.drop_suffix pos der).isInfix
  · intro inside
    obtain ⟨front, back, rfl⟩ := inside
    exists front.length
    rw [headerAt_iff, List.append_assoc, List.drop_left]
    exact List.prefix_append _ _

/-- The search from the end finds the last place. -/
theorem find?_reverse_range {accepts : Nat → Bool} {count : Nat} :
    (List.range count).reverse.find? accepts = some pos ↔
      pos < count ∧ accepts pos = true ∧ ∀ later, pos < later → later < count → accepts later = false := by
  induction count with
  | zero => simp
  | succ count ih =>
      rw [List.range_succ, List.reverse_concat, List.find?_cons]
      cases last : accepts count with
      | true =>
          constructor
          · intro same
            obtain rfl := Option.some.inj same
            exact ⟨Nat.lt_succ_self _, last, by omega⟩
          · intro found
            obtain ⟨inside, here, none_later⟩ := found
            by_contra other
            have earlier : pos < count := by
              have : pos ≠ count := fun same => other (same ▸ rfl)
              omega
            rw [none_later count earlier (Nat.lt_succ_self _)] at last
            cases last
      | false =>
          dsimp only
          rw [ih]
          constructor
          · intro found
            obtain ⟨inside, here, none_later⟩ := found
            refine ⟨by omega, here, fun later after within => ?_⟩
            obtain within | rfl : later < count ∨ later = count := by omega
            · exact none_later later after within
            · exact last
          · intro found
            obtain ⟨inside, here, none_later⟩ := found
            have apart : pos ≠ count := by
              intro same
              rw [same, last] at here
              cases here
            exact ⟨by omega, here, fun later after within => none_later later after (by omega)⟩

theorem lastKeyHeader_eq_some_iff :
    lastKeyHeader der = some pos ↔ HeaderAt der pos ∧ ∀ later, pos < later → ¬HeaderAt der later := by
  unfold lastKeyHeader
  rw [find?_reverse_range]
  simp only [decide_eq_true_eq, decide_eq_false_iff_not]
  constructor
  · intro found
    obtain ⟨_, here, none_later⟩ := found
    exact ⟨here, fun later after found => none_later later after (by have := HeaderAt.inside found; omega) found⟩
  · intro found
    obtain ⟨here, none_later⟩ := found
    exact ⟨by have := here.inside; omega, here, fun later after _ => none_later later after⟩

end Positions

/-!
## The structure around a key
-/

/-- The algorithm identifier of Ed25519 and the header of the bit string. -/
def infoPrefix : Bytes := [0x30, 0x2a, 0x30, 0x05, 0x06, 0x03, 0x2b, 0x65, 0x70, 0x03, 0x21, 0x00]

def subjectPublicKeyInfo (key : Bytes) : Bytes := infoPrefix ++ key

section Info

variable {lib : Primitives} {key : Bytes}

/-- Behind the prefix, the header is found where the key has it. -/
theorem headerAt_info (pos : Nat) :
    HeaderAt (subjectPublicKeyInfo key) (12 + pos) ↔ HeaderAt key pos := by
  unfold HeaderAt subjectPublicKeyInfo
  have length : 12 = infoPrefix.length := rfl
  rw [length, List.drop_length_add_append]

theorem headerAt_info_last {pos : Nat} (after : 9 < pos) (found : HeaderAt (subjectPublicKeyInfo key) pos) :
    ∃ inside, pos = 12 + inside ∧ HeaderAt key inside := by
  obtain rfl | rfl | behind : pos = 10 ∨ pos = 11 ∨ 12 ≤ pos := by omega
  · cases found
  · cases found
  · obtain ⟨inside, rfl⟩ := Nat.exists_eq_add_of_le behind
    exact ⟨inside, rfl, (headerAt_info inside).mp found⟩

theorem lastKeyHeader_info (plain : ¬keyHeader <:+: key) :
    lastKeyHeader (subjectPublicKeyInfo key) = some 9 := by
  rw [lastKeyHeader_eq_some_iff]
  constructor
  · rfl
  · intro later after found
    obtain ⟨inside, _, found⟩ := headerAt_info_last after found
    exact plain (exists_headerAt_iff.mp ⟨inside, found⟩)

/-- A key that contains the header hides the one in front of it. -/
theorem lastKeyHeader_info_inside (inside : keyHeader <:+: key) :
    ∃ pos, 12 ≤ pos ∧ lastKeyHeader (subjectPublicKeyInfo key) = some pos := by
  cases found : lastKeyHeader (subjectPublicKeyInfo key) with
  | none =>
      obtain ⟨pos, here⟩ := exists_headerAt_iff.mpr inside
      have there := (headerAt_info pos).mpr here
      unfold lastKeyHeader at found
      have absent := List.find?_eq_none.mp found (12 + pos) (by
        have := there.inside
        simp only [List.mem_reverse, List.mem_range]
        omega)
      exact (absent (decide_eq_true_iff.mpr there)).elim
  | some pos =>
      obtain ⟨_, none_later⟩ := lastKeyHeader_eq_some_iff.mp found
      obtain ⟨within, here⟩ := exists_headerAt_iff.mpr inside
      refine ⟨pos, ?_, rfl⟩
      by_contra early
      exact none_later (12 + within) (by omega) ((headerAt_info within).mpr here)

theorem publicKeyDer_info (sized : key.length = 32) :
    publicKeyDerToRawB64 lib (subjectPublicKeyInfo key) =
      if keyHeader <:+: key then err "public_key_pem must contain a 32-byte Ed25519 public key"
      else .ok (lib.encodeBase64 key) := by
  have length : (subjectPublicKeyInfo key).length = 44 := by
    rw [subjectPublicKeyInfo, List.length_append, sized]
    rfl
  unfold publicKeyDerToRawB64
  rw [if_neg (by omega)]
  by_cases inside : keyHeader <:+: key
  · obtain ⟨pos, behind, found⟩ := lastKeyHeader_info_inside inside
    rw [found, if_pos inside]
    exact if_neg (by omega)
  · have rest : (subjectPublicKeyInfo key).drop (9 + 3) = key := rfl
    rw [lastKeyHeader_info inside, if_neg inside]
    dsimp only
    rw [if_pos (by omega), rest, List.take_of_length_le (by omega)]

end Info

/-!
## The text around the bytes
-/

inductive LineBreak : List Char → Prop where
  | lf : LineBreak ['\n']
  | crlf : LineBreak ['\r', '\n']

/-- The text with line breaks put in anywhere. -/
inductive Wrapped : List Char → List Char → Prop where
  | nil : Wrapped [] []
  | char {char : Char} {text wrapped : List Char} (rest : Wrapped text wrapped) :
      Wrapped (char :: text) (char :: wrapped)
  | lineBreak {text wrapped ending : List Char} (ends : LineBreak ending) (rest : Wrapped text wrapped) :
      Wrapped text (ending ++ wrapped)

theorem Wrapped.refl (text : List Char) : Wrapped text text := by
  induction text with
  | nil => exact .nil
  | cons char text ih => exact .char ih

theorem Wrapped.cut {ending : List Char} (ends : LineBreak ending) (one other : List Char) :
    Wrapped (one ++ other) (one ++ (ending ++ other)) := by
  induction one with
  | nil =>
      rw [List.nil_append, List.nil_append]
      exact .lineBreak ends (.refl other)
  | cons char one ih => exact .char ih

def beginLine : List Char := "-----BEGIN PUBLIC KEY-----".toList
def endLine : List Char := "-----END PUBLIC KEY-----".toList

/-- The two forms in which the bytes of a key are passed. -/
inductive KeyText (lib : Primitives) (der : Bytes) : String → Prop where
  | base64 {front back : List Char} (blankFront : ∀ char ∈ front, isWhiteSpace char = true)
      (blankBack : ∀ char ∈ back, isWhiteSpace char = true) :
      KeyText lib der (String.ofList (front ++ ((lib.encodeBase64 der).toList ++ back)))
  | pem {first body last tail : List Char} (begins : LineBreak first)
      (wrapped : Wrapped (lib.encodeBase64 der).toList body) (ends : LineBreak last) (closes : Wrapped [] tail) :
      KeyText lib der (String.ofList (beginLine ++ (first ++ (body ++ (last ++ (endLine ++ tail))))))

/-- What `normalize_public_key_b64` keeps of a line. -/
def lineBody (line : List Char) : List Char :=
  if "-----".toList.isPrefixOf line then [] else (trim (String.ofList line)).toList

def pemBody (text : List Char) : List Char := (text.splitOn '\n').flatMap lineBody

section Lines

/-- The characters that Base64 is made of. -/
def InBase64 (text : List Char) : Prop := ∀ char ∈ text, Base64.isDigit char = true ∨ char = '='

theorem InBase64.nil : InBase64 [] := fun _ member => nomatch member

theorem base64_char {char : Char} (letter : Base64.isDigit char = true ∨ char = '=') :
    isWhiteSpace char = false ∧ char ≠ '-' := by
  obtain digit | rfl := letter
  · have all : ∀ code < 128, Base64.isDigit (Char.ofNat code) = true →
        isWhiteSpace (Char.ofNat code) = false ∧ Char.ofNat code ≠ '-' := by decide
    have here := all char.toNat (Base64.isDigit_ascii digit)
    rw [Char.ofNat_toNat] at here
    exact here digit
  · decide

theorem InBase64.trim {text : List Char} (letters : InBase64 text) :
    trim (String.ofList text) = String.ofList text := by
  apply trim_of_dense
  intro char member
  rw [String.toList_ofList] at member
  exact (base64_char (letters char member)).1

/-- Such a text is no mark of the armour. -/
theorem InBase64.not_dashes {text rest : List Char} (letters : InBase64 text) (present : text ≠ []) :
    "-----".toList.isPrefixOf (text ++ rest) = false := by
  cases text with
  | nil => exact absurd rfl present
  | cons char text =>
      have apart := (base64_char (letters char List.mem_cons_self)).2
      simp [List.isPrefixOf, apart.symm]

theorem lineBody_base64 {line ending : List Char} (letters : InBase64 line) (ends : ending = [] ∨ ending = ['\r']) :
    lineBody (line ++ ending) = line := by
  have blank : ∀ char ∈ ending, isWhiteSpace char = true := by
    obtain rfl | rfl := ends
    · intro char member
      cases member
    · exact forall_mem_of_all (by decide)
  have plain : "-----".toList.isPrefixOf (line ++ ending) = false := by
    by_cases present : line = []
    · subst present
      obtain rfl | rfl := ends
      · rfl
      · rfl
    · exact letters.not_dashes present
  unfold lineBody
  rw [plain, trim_blank_right blank, letters.trim]
  exact String.toList_ofList

theorem pemBody_line {line : List Char} (rest : List Char) (whole : '\n' ∉ line) :
    pemBody (line ++ '\n' :: rest) = lineBody line ++ pemBody rest := by
  unfold pemBody
  rw [List.splitOn_append_cons_self, List.splitOn_eq_singleton whole]
  rfl

/-- A line is over at either line break. -/
theorem pemBody_lineBreak {line ending : List Char} (rest : List Char) (ends : LineBreak ending)
    (whole : '\n' ∉ line) :
    ∃ return', (return' = [] ∨ return' = ['\r']) ∧
      pemBody (line ++ (ending ++ rest)) = lineBody (line ++ return') ++ pemBody rest := by
  cases ends with
  | lf => exact ⟨[], .inl rfl, by rw [List.append_nil]; exact pemBody_line rest whole⟩
  | crlf =>
      have whole' : '\n' ∉ line ++ ['\r'] := by simpa using whole
      have cut := pemBody_line rest whole'
      rw [List.append_assoc] at cut
      exact ⟨['\r'], .inr rfl, cut⟩

theorem InBase64.not_newline {text : List Char} (letters : InBase64 text) : '\n' ∉ text := by
  intro member
  have dense := (base64_char (letters '\n' member)).1
  cases dense

/-- Whatever the line breaks, the body is the text; `line` is the part of it that was read since the
last of them. -/
theorem pemBody_wrapped {text body : List Char} (wrapped : Wrapped text body) {line ending : List Char} (rest : List Char)
    (letters : InBase64 text) (read : InBase64 line) (ends : LineBreak ending) :
    pemBody (line ++ (body ++ (ending ++ rest))) = line ++ (text ++ pemBody rest) := by
  induction wrapped generalizing line with
  | nil =>
      obtain ⟨blank, isBlank, cut⟩ := pemBody_lineBreak rest ends read.not_newline
      rw [List.nil_append, cut, lineBody_base64 read isBlank, List.nil_append]
  | @char char text body wrapped ih =>
      have lettersRest : InBase64 text := fun other member => letters other (List.mem_cons_of_mem _ member)
      have readMore : InBase64 (line ++ [char]) := by
        intro other member
        obtain earlier | last := List.mem_append.mp member
        · exact read other earlier
        · rw [List.mem_singleton.mp last]
          exact letters char List.mem_cons_self
      have rest := ih lettersRest readMore
      rw [List.append_assoc, List.append_assoc] at rest
      exact rest
  | @lineBreak text body between breaks wrapped ih =>
      obtain ⟨blank, isBlank, cut⟩ :=
        pemBody_lineBreak (body ++ (ending ++ rest)) breaks read.not_newline
      have rest := ih letters .nil
      rw [List.nil_append, List.nil_append] at rest
      rw [List.append_assoc, cut, lineBody_base64 read isBlank, rest]

theorem pemBody_blank {tail : List Char} (closes : Wrapped [] tail) : pemBody tail = [] := by
  generalize none : ([] : List Char) = text at closes
  induction closes with
  | nil => rfl
  | char => cases none
  | @lineBreak text tail between breaks closes ih =>
      obtain ⟨blank, isBlank, cut⟩ := pemBody_lineBreak tail breaks InBase64.nil.not_newline
      rw [List.nil_append] at cut
      rw [cut, lineBody_base64 .nil isBlank, ih none]
      rfl

end Lines

/-!
## The key of a text
-/

section Normalize

variable {lib : Primitives} {der key : Bytes} {text raw : String}

/-- A carriage return at the end of a line is trimmed off anyway. -/
theorem lineBody_return (line : List Char) : lineBody (line ++ ['\r']) = lineBody line := by
  have blank : ∀ char ∈ ['\r'], isWhiteSpace char = true := forall_mem_of_all (by decide)
  have same : "-----".toList.isPrefixOf (line ++ ['\r']) = "-----".toList.isPrefixOf line := by
    rw [Bool.eq_iff_iff, List.isPrefixOf_iff_prefix, List.isPrefixOf_iff_prefix, List.prefix_concat_iff]
    constructor
    · intro marked
      obtain whole | marked := marked
      · have last := congrArg List.getLast? whole
        rw [List.getLast?_concat] at last
        cases last
      · exact marked
    · exact .inr
  unfold lineBody
  rw [same, trim_blank_right blank]

theorem lineBody_line (line : List Char) :
    lineBody (if line.getLast? = some '\r' then line.dropLast else line) = lineBody line := by
  split
  case isTrue last =>
    obtain ⟨front, rfl⟩ := List.getLast?_eq_some_iff.mp last
    rw [List.dropLast_concat, lineBody_return]
  case isFalse => rfl

theorem toList_join_bodies (parts : List String) :
    (String.join ((parts.filter fun line => !"-----".toList.isPrefixOf line.toList).map trim)).toList =
      parts.flatMap fun line => lineBody line.toList := by
  induction parts with
  | nil => rfl
  | cons line parts ih =>
      rw [List.filter_cons, List.flatMap_cons, ← ih]
      unfold lineBody
      cases "-----".toList.isPrefixOf line.toList with
      | true => simp
      | false => simp [String.toList_join]

theorem pemBody_lines (text : String) :
    (lines text).flatMap (fun line => lineBody line.toList) = pemBody text.toList := by
  have parts : ∀ parts : List (List Char), (parts.map fun line =>
      String.ofList (if line.getLast? = some '\r' then line.dropLast else line)).flatMap
        (fun line => lineBody line.toList) = parts.flatMap lineBody := by
    intro parts
    rw [List.flatMap_map]
    apply List.flatMap_congr
    intro line _
    rw [String.toList_ofList, lineBody_line]
  unfold lines pemBody
  dsimp only
  rw [parts]
  split
  case isTrue last =>
    obtain ⟨front, whole⟩ := List.getLast?_eq_some_iff.mp last
    rw [whole, List.dropLast_concat, List.flatMap_append]
    have empty : lineBody [] = [] := rfl
    rw [List.flatMap_cons, empty]
    simp
  case isFalse => rfl

theorem splitAtMarker_begin (rest : List Char) :
    (splitAtMarker "-----BEGIN".toList (String.ofList (beginLine ++ rest)).toList).isSome = true := by
  have chars : (String.ofList (beginLine ++ rest)).toList = beginLine ++ rest := String.toList_ofList
  rw [chars]
  rfl

theorem blank_not_dash {chars : List Char} (blank : ∀ char ∈ chars, isWhiteSpace char = true) : '-' ∉ chars := by
  intro member
  have dash := blank '-' member
  cases dash

theorem armour_whole : '\n' ∉ beginLine ∧ '\n' ∉ endLine := by
  decide

/-- The lines of the armour add nothing, whatever ends them. -/
theorem armour_body {blank : List Char} (isBlank : blank = [] ∨ blank = ['\r']) :
    lineBody (beginLine ++ blank) = [] ∧ lineBody (endLine ++ blank) = [] := by
  obtain rfl | rfl := isBlank
  · exact ⟨rfl, rfl⟩
  · exact ⟨rfl, rfl⟩

theorem pemBody_end {tail : List Char} (closes : Wrapped [] tail) : pemBody (endLine ++ tail) = [] := by
  generalize none : ([] : List Char) = text at closes
  cases closes with
  | nil => rfl
  | char => cases none
  | @lineBreak text tail between breaks closes =>
      subst none
      obtain ⟨blank, isBlank, cut⟩ := pemBody_lineBreak tail breaks armour_whole.2
      rw [cut, (armour_body isBlank).2, pemBody_blank closes]
      rfl

theorem pemBody_pem {text body first last tail : List Char} (begins : LineBreak first)
    (wrapped : Wrapped text body) (letters : InBase64 text) (ends : LineBreak last) (closes : Wrapped [] tail) :
    pemBody (beginLine ++ (first ++ (body ++ (last ++ (endLine ++ tail))))) = text := by
  obtain ⟨blank, isBlank, cut⟩ := pemBody_lineBreak (body ++ (last ++ (endLine ++ tail)))
    begins armour_whole.1
  have rest := pemBody_wrapped wrapped (endLine ++ tail) letters .nil ends
  rw [List.nil_append, List.nil_append, pemBody_end closes, List.append_nil] at rest
  rw [cut, (armour_body isBlank).1, List.nil_append, rest]

/-- In both forms the bytes are read back. -/
theorem normalize_written (standard : lib.StandardBase64) (written : KeyText lib der text) :
    normalizePublicKeyB64 lib text = publicKeyDerToRawB64 lib der := by
  have letters : InBase64 (lib.encodeBase64 der).toList := standard.alphabet der
  cases written with
  | @base64 front back blankFront blankBack =>
      have absent : '-' ∉ front ++ ((lib.encodeBase64 der).toList ++ back) := by
        intro member
        obtain member | member := List.mem_append.mp member
        · exact blank_not_dash blankFront member
        obtain member | member := List.mem_append.mp member
        · exact (base64_char (letters '-' member)).2 rfl
        · exact blank_not_dash blankBack member
      have unmarked : splitAtMarker "-----BEGIN".toList
          (String.ofList (front ++ ((lib.encodeBase64 der).toList ++ back))).toList = none := by
        apply splitAtMarker_absent List.mem_cons_self
        rw [String.toList_ofList]
        exact absent
      have trimmed : trim (String.ofList (front ++ ((lib.encodeBase64 der).toList ++ back))) =
          lib.encodeBase64 der := by
        rw [trim_blank_left blankFront, trim_blank_right blankBack, letters.trim, String.ofList_toList]
      unfold normalizePublicKeyB64
      rw [unmarked, trimmed, standard.roundTrip]
      rfl
  | @pem first body last tail begins wrapped ends closes =>
      have joined : String.join (((lines (String.ofList (beginLine ++ (first ++ (body ++ (last ++
          (endLine ++ tail))))))).filter fun line => !"-----".toList.isPrefixOf line.toList).map trim) =
            lib.encodeBase64 der := by
        rw [← String.toList_inj, toList_join_bodies, pemBody_lines, String.toList_ofList,
          pemBody_pem begins wrapped letters ends closes]
      unfold normalizePublicKeyB64
      rw [if_pos (splitAtMarker_begin _)]
      dsimp only
      rw [joined, standard.roundTrip]
      rfl

end Normalize

/-- `text` has the key in its `SubjectPublicKeyInfo`, and `raw` has the 32 bytes alone. -/
theorem public_key_extraction_exact_iff (lib : Primitives) (standard : lib.StandardBase64) (key : Bytes)
    (sized : key.length = 32) (text raw : String) (written : KeyText lib (subjectPublicKeyInfo key) text)
    (bare : KeyText lib key raw) :
    (normalizePublicKeyB64 lib text = .ok (lib.encodeBase64 key) ∧
      normalizePublicKeyB64 lib raw = normalizePublicKeyB64 lib text) ↔ ¬keyHeader <:+: key := by
  have alone : publicKeyDerToRawB64 lib key = .ok (lib.encodeBase64 key) := by
    unfold publicKeyDerToRawB64
    rw [if_pos sized]
  rw [normalize_written standard written, normalize_written standard bare, alone, publicKeyDer_info sized]
  by_cases inside : keyHeader <:+: key
  · rw [if_pos inside]
    constructor
    · intro same
      cases same.1
    · intro plain
      exact absurd inside plain
  · rw [if_neg inside]
    exact iff_of_true ⟨rfl, rfl⟩ inside

/-- The bytes 0 to 31. -/
def countingKey : Bytes := (List.range 32).map UInt8.ofNat

theorem counting_key_extracted :
    (normalizePublicKeyB64 sampleLib.withBase64
        ("-----BEGIN PUBLIC KEY-----\nMCowBQYDK2VwAyEAAAECAwQFBgcICQoLDA0ODxAR\n" ++
          "EhMUFRYXGBkaGxwdHh8=\n-----END PUBLIC KEY-----\n") =
        .ok (sampleLib.withBase64.encodeBase64 countingKey) ∧
      normalizePublicKeyB64 sampleLib.withBase64 "AAECAwQFBgcICQoLDA0ODxAREhMUFRYXGBkaGxwdHh8=" =
        normalizePublicKeyB64 sampleLib.withBase64
          ("-----BEGIN PUBLIC KEY-----\nMCowBQYDK2VwAyEAAAECAwQFBgcICQoLDA0ODxAR\n" ++
            "EhMUFRYXGBkaGxwdHh8=\n-----END PUBLIC KEY-----\n")) ∧
      ¬keyHeader <:+: countingKey := by
  have plain : ¬keyHeader <:+: countingKey := by decide
  have written : KeyText sampleLib.withBase64 (subjectPublicKeyInfo countingKey)
      ("-----BEGIN PUBLIC KEY-----\nMCowBQYDK2VwAyEAAAECAwQFBgcICQoLDA0ODxAR\n" ++
        "EhMUFRYXGBkaGxwdHh8=\n-----END PUBLIC KEY-----\n") := by
    have chars : (sampleLib.withBase64.encodeBase64 (subjectPublicKeyInfo countingKey)).toList =
        "MCowBQYDK2VwAyEAAAECAwQFBgcICQoLDA0ODxAR".toList ++ "EhMUFRYXGBkaGxwdHh8=".toList := by
      decide
    have wrapped := Wrapped.cut .lf "MCowBQYDK2VwAyEAAAECAwQFBgcICQoLDA0ODxAR".toList
      "EhMUFRYXGBkaGxwdHh8=".toList
    rw [← chars] at wrapped
    exact KeyText.pem .lf wrapped .lf (.lineBreak .lf .nil)
  have bare : KeyText sampleLib.withBase64 countingKey "AAECAwQFBgcICQoLDA0ODxAREhMUFRYXGBkaGxwdHh8=" :=
    @KeyText.base64 _ _ [] [] (fun _ member => nomatch member) (fun _ member => nomatch member)
  exact ⟨(public_key_extraction_exact_iff _ (withBase64_standard sampleLib) countingKey rfl _ _ written
    bare).mpr plain, plain⟩

/-- A key that starts with the three bytes. -/
def hiddenKey : Bytes := keyHeader ++ List.replicate 29 0

theorem hidden_key_refused :
    hiddenKey.length = 32 ∧
      normalizePublicKeyB64 sampleLib.withBase64
          (sampleLib.withBase64.encodeBase64 (subjectPublicKeyInfo hiddenKey)) =
        err "public_key_pem must contain a 32-byte Ed25519 public key" ∧
      normalizePublicKeyB64 sampleLib.withBase64 (sampleLib.withBase64.encodeBase64 hiddenKey) =
        .ok (sampleLib.withBase64.encodeBase64 hiddenKey) := by
  decide

end CodePush.Updater
