import CodePush.Bytecode.ModuleWriter

/-!
# The two encodings of a module agree

The Rust reader finds in the bytes of the Dart writer what `serde` reads from
the same value, part by part: words, texts, constants, entries, functions.
-/

set_option autoImplicit false

namespace CodePush.Bytecode

open CodePush.Core CodePush.Foundation

/-!
## What `serde` accepts
-/

namespace JsonMap

variable {α : Type} {entries : JsonMap} {key : String}

theorem present_of_required {read : JsonValue → Result α} {result : α}
    (found : entries.required read key = .ok result) :
    ∃ value, entries.get? key = some value ∧ read value = .ok result := by
  unfold required at found
  cases present : entries.get? key with
  | none =>
      rw [present] at found
      cases found
  | some value =>
      rw [present] at found
      exact ⟨value, rfl, found⟩

theorem missing_or_present_of_defaulted {default : α} {read : JsonValue → Result α} {result : α}
    (found : entries.defaulted default read key = .ok result) :
    (entries.get? key = none ∧ default = result) ∨
      ∃ value, entries.get? key = some value ∧ read value = .ok result := by
  unfold defaulted at found
  cases present : entries.get? key with
  | none =>
      rw [present] at found
      cases found
      exact .inl ⟨rfl, rfl⟩
  | some value =>
      rw [present] at found
      exact .inr ⟨value, rfl, found⟩

end JsonMap

namespace JsonValue

variable {value : JsonValue}

theorem eq_string_of_read {text : String} (found : value.readString = .ok text) :
    value = .string text := by
  cases value with
  | string => cases found; rfl
  | _ => cases found

theorem eq_bool_of_read {result : Bool} (found : value.readBool = .ok result) :
    value = .bool result := by
  cases value with
  | bool => cases found; rfl
  | _ => cases found

theorem eq_int_of_read {result : Int64} (found : value.readI64 = .ok result) :
    value = .int result := by
  cases value with
  | int => cases found; rfl
  | _ => cases found

theorem eq_int_of_readUnsigned {width number : Nat} (found : value.readUnsigned width = .ok number) :
    ∃ word, value = .int word ∧ word.toInt = number ∧ number < 2 ^ width := by
  cases value with
  | int word =>
      simp only [readUnsigned] at found
      split at found
      case isTrue small =>
        cases found
        have exact : (word.toInt.toNat : Int) = word.toInt := Int.toNat_of_nonneg small.1
        refine ⟨word, rfl, exact.symm, ?_⟩
        have bounded := small.2
        rw [← exact] at bounded
        exact_mod_cast bounded
      case isFalse => cases found
  | _ => cases found

/-- The unsigned types hold exactly the numbers of their width. -/
theorem eq_int_of_map {α : Type} {width : Nat} {ofNat : Nat → α} {toNat : α → Nat}
    (exact : ∀ number, number < 2 ^ width → toNat (ofNat number) = number) {result : α}
    (found : (value.readUnsigned width).map ofNat = .ok result) :
    ∃ word, value = .int word ∧ word.toInt = toNat result := by
  obtain ⟨number, read, rfl⟩ := except_map_eq_ok.mp found
  obtain ⟨word, rfl, same, small⟩ := eq_int_of_readUnsigned read
  exact ⟨word, rfl, by rw [same, exact number small]⟩

theorem eq_int_of_readU8 {result : UInt8} (found : value.readU8 = .ok result) :
    ∃ word, value = .int word ∧ word.toInt = result.toNat :=
  eq_int_of_map (fun _ small => UInt8.toNat_ofNat_of_lt' small) found

theorem eq_int_of_readU16 {result : UInt16} (found : value.readU16 = .ok result) :
    ∃ word, value = .int word ∧ word.toInt = result.toNat :=
  eq_int_of_map (fun _ small => UInt16.toNat_ofNat_of_lt' small) found

theorem eq_int_of_readU32 {result : UInt32} (found : value.readU32 = .ok result) :
    ∃ word, value = .int word ∧ word.toInt = result.toNat :=
  eq_int_of_map (fun _ small => UInt32.toNat_ofNat_of_lt' small) found

theorem eq_list_of_read {α : Type} {read : JsonValue → Result α} {results : List α}
    (found : value.readList read = .ok results) :
    ∃ items, value = .list items ∧ items.mapM read = .ok results := by
  cases value with
  | list items => exact ⟨items, rfl, found⟩
  | _ => cases found

theorem eq_map_of_read {α : Type} {read : JsonMap → Result α} {result : α}
    (found : value.readMap read = .ok result) :
    ∃ entries, value = .map entries ∧ read entries = .ok result := by
  cases value with
  | map entries => exact ⟨entries, rfl, found⟩
  | _ => cases found

end JsonValue

/-!
## Members that the tool reads as `serde` does
-/

namespace JsonMap

variable {entries : JsonMap} {key : String} {doubleText : UInt64 → String}

theorem textOr_of_required {absent text : String}
    (found : entries.required JsonValue.readString key = .ok text) :
    entries.textOr doubleText absent key = text := by
  obtain ⟨value, present, read⟩ := present_of_required found
  cases JsonValue.eq_string_of_read read
  simp [textOr, present, JsonValue.toText]

theorem textOr_of_defaulted {absent text : String}
    (found : entries.defaulted absent JsonValue.readString key = .ok text) :
    entries.textOr doubleText absent key = text := by
  obtain ⟨missing, rfl⟩ | ⟨value, present, read⟩ := missing_or_present_of_defaulted found
  · simp [textOr, missing]
  · cases JsonValue.eq_string_of_read read
    simp [textOr, present, JsonValue.toText]

theorem intOr_of_u8 {absent : Int} {result : UInt8}
    (found : entries.required JsonValue.readU8 key = .ok result) :
    entries.intOr absent key = .ok result.toNat := by
  obtain ⟨value, present, read⟩ := present_of_required found
  obtain ⟨word, rfl, exact⟩ := JsonValue.eq_int_of_readU8 read
  simp [intOr, present, exact]

theorem intOr_of_u32 {absent : Int} {result : UInt32}
    (found : entries.required JsonValue.readU32 key = .ok result) :
    entries.intOr absent key = .ok result.toNat := by
  obtain ⟨value, present, read⟩ := present_of_required found
  obtain ⟨word, rfl, exact⟩ := JsonValue.eq_int_of_readU32 read
  simp [intOr, present, exact]

theorem numToInt_of_u16 {result : UInt16}
    (found : entries.required JsonValue.readU16 key = .ok result) :
    ∃ word, entries.numToInt key = .ok word ∧ word.toInt = result.toNat := by
  obtain ⟨value, present, read⟩ := present_of_required found
  obtain ⟨word, rfl, exact⟩ := JsonValue.eq_int_of_readU16 read
  exact ⟨word, by simp [numToInt, present], exact⟩

theorem numToInt_of_u32 {result : UInt32}
    (found : entries.required JsonValue.readU32 key = .ok result) :
    ∃ word, entries.numToInt key = .ok word ∧ word.toInt = result.toNat := by
  obtain ⟨value, present, read⟩ := present_of_required found
  obtain ⟨word, rfl, exact⟩ := JsonValue.eq_int_of_readU32 read
  exact ⟨word, by simp [numToInt, present], exact⟩

theorem numToInt_of_i64 {result : Int64}
    (found : entries.required JsonValue.readI64 key = .ok result) :
    entries.numToInt key = .ok result := by
  obtain ⟨value, present, read⟩ := present_of_required found
  cases JsonValue.eq_int_of_read read
  simp [numToInt, present]

/-- Both sides round an integer that stands for a double in the same way. -/
theorem numToDouble_of_f64 {result : UInt64}
    (found : entries.required JsonValue.readF64 key = .ok result) :
    entries.numToDouble key = .ok result := by
  obtain ⟨value, present, read⟩ := present_of_required found
  cases value with
  | double bits =>
      cases read
      simp [numToDouble, present]
  | int word =>
      cases read
      simp [numToDouble, present]
  | _ => cases read

theorem isTrue_of_bool {result : Bool}
    (found : entries.required JsonValue.readBool key = .ok result) : entries.isTrue key = result := by
  obtain ⟨value, present, read⟩ := present_of_required found
  cases JsonValue.eq_bool_of_read read
  simp [isTrue, present]

theorem listOrExit_of_required {α : Type} {message : String} {read : JsonValue → Result α}
    {results : List α} (found : entries.required (JsonValue.readList read) key = .ok results) :
    ∃ items, entries.listOrExit message key = .ok items ∧ items.mapM read = .ok results := by
  obtain ⟨value, present, listed⟩ := present_of_required found
  obtain ⟨items, rfl, each⟩ := JsonValue.eq_list_of_read listed
  exact ⟨items, by simp [listOrExit, present], each⟩

theorem listOrEmpty_of_defaulted {α : Type} {read : JsonValue → Result α} {results : List α}
    (found : entries.defaulted [] (JsonValue.readList read) key = .ok results) :
    (entries.listOrEmpty key).mapM read = .ok results := by
  obtain ⟨missing, rfl⟩ | ⟨value, present, listed⟩ := missing_or_present_of_defaulted found
  · rw [listOrEmpty, missing]
    rfl
  · obtain ⟨items, rfl, each⟩ := JsonValue.eq_list_of_read listed
    simpa [listOrEmpty, present] using each

end JsonMap

/-!
## Words and texts
-/

namespace BinaryModuleWriter

theorem u8_writes {byte : UInt8} {bytes : Bytes} (written : u8 byte.toNat = .ok bytes) :
    bytes = [byte] := by
  obtain ⟨_, written⟩ := except_guard_eq_ok.mp written
  cases written
  simp [bigEndian]

theorem u16_writes {label : String} {number : Nat} {bytes : Bytes}
    (written : u16 label number = .ok bytes) : writeU16 label number = .ok bytes := by
  obtain ⟨small, written⟩ := except_guard_eq_ok.mp written
  refine except_guard_eq_ok.mpr ⟨by omega, ?_⟩
  cases written
  rfl

theorem u32_writes {number : Nat} {bytes : Bytes} (written : u32 number = .ok bytes) :
    number < 2 ^ 32 ∧ bytes = bigEndian 4 number := by
  obtain ⟨small, written⟩ := except_guard_eq_ok.mp written
  cases written
  exact ⟨by omega, rfl⟩

theorem string_writes {label value : String} {bytes : Bytes}
    (written : string label value = .ok bytes) : writeString label value = .ok bytes := by
  obtain ⟨length, lengthWritten, written⟩ := except_bind_eq_ok.mp written
  cases written
  exact except_bind_eq_ok.mpr ⟨length, u16_writes lengthWritten, rfl⟩

theorem string_reads {label value : String} {bytes : Bytes}
    (written : string label value = .ok bytes) (rest : Bytes) :
    BinaryReader.string (bytes ++ rest) = .ok (value, rest) :=
  (string_lawful label).reads (string_writes written) rest

/-- The count is that of the items, which have one result each. -/
theorem counted_reads {α : Type} {label : String} {write : Foundation.Writer Stop JsonValue}
    {meaning : JsonValue → Result α} {read : Reader Error α} {items : List JsonValue}
    {results : List α} {bytes : Bytes}
    (each : ∀ item ∈ items, Recovers write meaning read item)
    (written : counted label write items = .ok bytes) (meant : items.mapM meaning = .ok results)
    (rest : Bytes) : BinaryReader.counted read (bytes ++ rest) = .ok (results, rest) := by
  obtain ⟨count, countWritten, written⟩ := except_bind_eq_ok.mp written
  obtain ⟨body, bodyWritten, written⟩ := except_bind_eq_ok.mp written
  cases written
  have countFound := (length16_lawful label).reads (u16_writes countWritten) (body ++ rest)
  obtain ⟨word, middle, wordFound, finished⟩ := Reader.bind_eq_ok.mp countFound
  obtain ⟨same, rfl⟩ := Reader.pure_eq_ok.mp finished
  rw [BinaryReader.counted, List.append_assoc, Reader.bind_of_ok _ wordFound, same]
  exact Recovers.replicate each bodyWritten meant rest

/-!
## Constants and entries
-/

variable {doubleText : UInt64 → String}

theorem constant_writes {entries : JsonMap} {value : Constant} {bytes : Bytes}
    (written : constant doubleText entries = .ok bytes)
    (meant : Constant.fromMap entries = .ok value) : writeConstant value = .ok bytes := by
  obtain ⟨name, typed, meant⟩ := except_bind_eq_ok.mp meant
  obtain ⟨type, present, named⟩ := JsonMap.present_of_required typed
  simp only [constant, present] at written
  split at written
  case h_1 same =>
      cases same
      cases named
      obtain ⟨_, _, rfl⟩ := except_map_eq_ok.mp meant
      cases written
      rfl
  case h_2 same =>
      cases same
      cases named
      obtain ⟨number, found, rfl⟩ := except_map_eq_ok.mp meant
      rw [JsonMap.numToInt_of_i64 found] at written
      cases written
      rfl
  case h_3 same =>
      cases same
      cases named
      obtain ⟨bits, found, rfl⟩ := except_map_eq_ok.mp meant
      rw [JsonMap.numToDouble_of_f64 found] at written
      cases written
      rfl
  case h_4 same =>
      cases same
      cases named
      obtain ⟨flag, found, rfl⟩ := except_map_eq_ok.mp meant
      rw [JsonMap.isTrue_of_bool found] at written
      cases flag <;> (cases written; rfl)
  case h_5 same =>
      cases same
      cases named
      obtain ⟨text, found, rfl⟩ := except_map_eq_ok.mp meant
      obtain ⟨tag, tagWritten, written⟩ := except_bind_eq_ok.mp written
      obtain ⟨body, bodyWritten, written⟩ := except_bind_eq_ok.mp written
      rw [JsonMap.textOr_of_required found] at bodyWritten
      cases tagWritten
      cases written
      exact except_bind_eq_ok.mpr ⟨body, string_writes bodyWritten, rfl⟩
  case h_6 => cases written

theorem constant_recovers (item : JsonValue) :
    Recovers
      (fun item => do
        let entries ← item.mapOrExit "bytecode constant must be an object"
        constant doubleText entries)
      (JsonValue.readMap Constant.fromMap) BinaryReader.constant item := by
  intro bytes value written meant rest
  obtain ⟨entries, rfl, meant⟩ := JsonValue.eq_map_of_read meant
  obtain ⟨_, opened, written⟩ := except_bind_eq_ok.mp written
  cases opened
  exact constant_lawful.reads (constant_writes written meant) rest

theorem sourceMapEntry_recovers (item : JsonValue) :
    Recovers (sourceMapEntry doubleText) (JsonValue.readMap SourceMapEntry.fromMap)
      BinaryReader.sourceMapEntry item := by
  intro bytes entry written meant rest
  obtain ⟨entries, rfl, meant⟩ := JsonValue.eq_map_of_read meant
  obtain ⟨_, opened, written⟩ := except_bind_eq_ok.mp written
  cases opened
  obtain ⟨offset, offsetMeant, meant⟩ := except_bind_eq_ok.mp meant
  obtain ⟨location, locationMeant, meant⟩ := except_bind_eq_ok.mp meant
  cases meant
  obtain ⟨word, converted, exact⟩ := JsonMap.numToInt_of_u32 offsetMeant
  obtain ⟨_, sameWord, written⟩ := except_bind_eq_ok.mp written
  rw [converted] at sameWord
  cases sameWord
  obtain ⟨offsetBytes, offsetWritten, written⟩ := except_bind_eq_ok.mp written
  obtain ⟨locationBytes, locationWritten, written⟩ := except_bind_eq_ok.mp written
  cases written
  rw [exact] at offsetWritten
  rw [JsonMap.textOr_of_required locationMeant] at locationWritten
  rw [(u32_writes offsetWritten).2, BinaryReader.sourceMapEntry, List.append_assoc,
    Reader.bind_of_ok _ (u32_lawful.reads rfl (locationBytes ++ rest))]
  exact Reader.bind_of_ok _ (string_reads locationWritten rest)

theorem debugLocalEntry_recovers (item : JsonValue) :
    Recovers (debugLocalEntry doubleText) (JsonValue.readMap DebugLocalEntry.fromMap)
      BinaryReader.debugLocalEntry item := by
  intro bytes entry written meant rest
  obtain ⟨entries, rfl, meant⟩ := JsonValue.eq_map_of_read meant
  obtain ⟨_, opened, written⟩ := except_bind_eq_ok.mp written
  cases opened
  obtain ⟨slot, slotMeant, meant⟩ := except_bind_eq_ok.mp meant
  obtain ⟨name, nameMeant, meant⟩ := except_bind_eq_ok.mp meant
  cases meant
  obtain ⟨word, converted, exact⟩ := JsonMap.numToInt_of_u16 slotMeant
  obtain ⟨_, sameWord, written⟩ := except_bind_eq_ok.mp written
  rw [converted] at sameWord
  cases sameWord
  obtain ⟨slotBytes, slotWritten, written⟩ := except_bind_eq_ok.mp written
  obtain ⟨nameBytes, nameWritten, written⟩ := except_bind_eq_ok.mp written
  cases written
  rw [exact] at slotWritten
  obtain ⟨_, slotWritten⟩ := except_guard_eq_ok.mp slotWritten
  cases slotWritten
  rw [JsonMap.textOr_of_required nameMeant] at nameWritten
  rw [BinaryReader.debugLocalEntry, List.append_assoc, Int.toNat_natCast,
    Reader.bind_of_ok _ (u16_lawful.reads rfl (nameBytes ++ rest))]
  exact Reader.bind_of_ok _ (string_reads nameWritten rest)

/-!
## Code
-/

theorem codeByte_writes {item : JsonValue} {byte : UInt8} {bytes : Bytes}
    (written : codeByte item = .ok bytes) (meant : item.readU8 = .ok byte) : bytes = [byte] := by
  obtain ⟨word, rfl, exact⟩ := JsonValue.eq_int_of_readU8 meant
  obtain ⟨_, written⟩ := except_guard_eq_ok.mp written
  rw [exact] at written
  exact u8_writes written

theorem codeBytes_writes {items : List JsonValue} {code bytes : Bytes}
    (written : writeAll codeByte items = .ok bytes)
    (meant : items.mapM JsonValue.readU8 = .ok code) :
    bytes = code ∧ code.length = items.length := by
  induction items generalizing code bytes with
  | nil =>
      cases written
      cases meant
      exact ⟨rfl, rfl⟩
  | cons item items ih =>
      simp only [writeAll] at written
      obtain ⟨head, headWritten, written⟩ := except_bind_eq_ok.mp written
      obtain ⟨tail, tailWritten, written⟩ := except_bind_eq_ok.mp written
      rw [List.mapM_cons] at meant
      obtain ⟨byte, byteMeant, meant⟩ := except_bind_eq_ok.mp meant
      obtain ⟨others, othersMeant, meant⟩ := except_bind_eq_ok.mp meant
      cases written
      cases meant
      obtain ⟨rfl, length⟩ := ih tailWritten othersMeant
      rw [codeByte_writes headWritten byteMeant]
      exact ⟨rfl, by simp [length]⟩

theorem code_reads {items : List JsonValue} {code length bytes : Bytes}
    (lengthWritten : u32 items.length = .ok length) (written : writeAll codeByte items = .ok bytes)
    (meant : items.mapM JsonValue.readU8 = .ok code) (rest : Bytes) :
    BinaryReader.code (length ++ (bytes ++ rest)) = .ok (code, rest) := by
  obtain ⟨rfl, same⟩ := codeBytes_writes written meant
  obtain ⟨small, rfl⟩ := u32_writes lengthWritten
  rw [← same] at small ⊢
  have written : writeCode bytes = .ok (bigEndian 4 bytes.length ++ bytes) :=
    except_bind_eq_ok.mpr ⟨_, except_guard_eq_ok.mpr ⟨Nat.not_le_of_lt small, rfl⟩, rfl⟩
  rw [← List.append_assoc]
  exact code_lawful.reads written rest

/-!
## Functions
-/

theorem returnConvention_reads {text : String} {number : Int} {bytes : Bytes}
    (encoded : returnConvention text = .ok number) (written : u8 number = .ok bytes)
    (rest : Bytes) : BinaryReader.returnConvention (bytes ++ rest) = .ok (text, rest) := by
  unfold returnConvention at encoded
  split at encoded
  case h_1 =>
    cases encoded
    cases written
    exact u8_bind _ _ _
  case h_2 =>
    cases encoded
    cases written
    exact u8_bind _ _ _
  case h_3 => cases encoded

/-- No kind starts with a brace, as the text of a map does. -/
theorem asyncKind_map {entries : JsonMap} {number : Int} :
    asyncKind (JsonValue.toText doubleText (.map entries)) ≠ .ok number := by
  intro encoded
  unfold asyncKind at encoded
  split at encoded
  case h_5 => cases encoded
  all_goals
    rename_i same
    have first := congrArg (fun text => text.toList.head?) same
    simp [JsonValue.toText] at first

theorem asyncKind_writes {entries : JsonMap} {kind : AsyncKind} {number : Int} {bytes : Bytes}
    (encoded : asyncKind (entries.textOr doubleText "sync" "async_kind") = .ok number)
    (written : u8 number = .ok bytes)
    (meant : entries.defaulted .sync AsyncKind.fromJson "async_kind" = .ok kind) :
    bytes = [kind.byte] := by
  obtain ⟨missing, rfl⟩ | ⟨value, present, read⟩ := JsonMap.missing_or_present_of_defaulted meant
  · simp only [JsonMap.textOr, missing] at encoded
    cases encoded
    cases written
    rfl
  · obtain ⟨name, named, read⟩ := except_bind_eq_ok.mp read
    simp only [JsonMap.textOr, present] at encoded
    cases value with
    | string text =>
        cases named
        simp only [JsonValue.toText] at encoded
        unfold asyncKind at encoded
        split at encoded
        case h_5 => cases encoded
        all_goals
          cases encoded
          cases written
          cases read
          rfl
    | map members => exact absurd encoded asyncKind_map
    | _ => cases named

end BinaryModuleWriter

namespace BinaryReader

def asyncKindSince3 (version : UInt32) : Reader Error AsyncKind :=
  if version ≥ 3 then asyncKind else pure .sync

def debugLocalsSince2 (version : UInt32) : Reader Error (List DebugLocalEntry) :=
  if version ≥ 2 then counted debugLocalEntry else pure []

/-- The two fields that depend on the version, read in one place each. -/
theorem function_eq (version : UInt32) :
    function version = (do
      let name ← string
      let returnConvention ← returnConvention
      let asyncKind ← asyncKindSince3 version
      let paramCount ← u8
      let localCount ← u8
      let constants ← counted constant
      let code ← code
      let sourceMap ← counted sourceMapEntry
      let debugLocals ← debugLocalsSince2 version
      pure { name, returnConvention, asyncKind, paramCount, localCount, constants, code, sourceMap,
             debugLocals }) := by
  by_cases kinds : version ≥ 3 <;> by_cases locals : version ≥ 2 <;>
    simp only [function, asyncKindSince3, debugLocalsSince2, kinds, locals, if_true, if_false]

end BinaryReader

namespace BinaryModuleWriter

variable {doubleText : UInt64 → String}

theorem asyncKind_reads {version : UInt32} {entries : JsonMap} {kind : AsyncKind} {bytes : Bytes}
    (written : asyncKindSince3 doubleText version.toNat entries = .ok bytes)
    (meant : entries.defaulted .sync AsyncKind.fromJson "async_kind" = .ok kind)
    (plain : version < 3 → entries.get? "async_kind" = none) (rest : Bytes) :
    BinaryReader.asyncKindSince3 version (bytes ++ rest) = .ok (kind, rest) := by
  by_cases recent : version ≥ 3
  · have number : (version.toNat : Int) ≥ 3 := by
      have := UInt32.le_iff_toNat_le.mp recent
      exact_mod_cast this
    rw [asyncKindSince3, if_pos number] at written
    obtain ⟨kindByte, encoded, written⟩ := except_bind_eq_ok.mp written
    rw [BinaryReader.asyncKindSince3, if_pos recent, asyncKind_writes encoded written meant]
    exact asyncKind_lawful.reads rfl rest
  · have number : ¬ (version.toNat : Int) ≥ 3 := by
      have := mt UInt32.le_iff_toNat_le.mpr recent
      exact_mod_cast this
    rw [asyncKindSince3, if_neg number] at written
    cases written
    have missing := plain (UInt32.not_le.mp recent)
    simp only [JsonMap.defaulted, missing] at meant
    cases meant
    rw [BinaryReader.asyncKindSince3, if_neg recent]
    rfl

theorem debugLocals_reads {version : UInt32} {entries : JsonMap} {locals : List DebugLocalEntry}
    {bytes : Bytes}
    (written : debugLocalsSince2 doubleText version.toNat entries = .ok bytes)
    (meant : entries.defaulted [] (JsonValue.readList (JsonValue.readMap DebugLocalEntry.fromMap))
      "debug_locals" = .ok locals)
    (plain : version < 2 → entries.get? "debug_locals" = none) (rest : Bytes) :
    BinaryReader.debugLocalsSince2 version (bytes ++ rest) = .ok (locals, rest) := by
  by_cases recent : version ≥ 2
  · have number : (version.toNat : Int) ≥ 2 := by
      have := UInt32.le_iff_toNat_le.mp recent
      exact_mod_cast this
    rw [debugLocalsSince2, if_pos number] at written
    rw [BinaryReader.debugLocalsSince2, if_pos recent]
    exact counted_reads (fun item _ => debugLocalEntry_recovers item) written
      (JsonMap.listOrEmpty_of_defaulted meant) rest
  · have number : ¬ (version.toNat : Int) ≥ 2 := by
      have := mt UInt32.le_iff_toNat_le.mpr recent
      exact_mod_cast this
    rw [debugLocalsSince2, if_neg number] at written
    cases written
    have missing := plain (UInt32.not_le.mp recent)
    simp only [JsonMap.defaulted, missing] at meant
    cases meant
    rw [BinaryReader.debugLocalsSince2, if_neg recent]
    rfl

end BinaryModuleWriter

/-- Asynchronous kinds came with version 3, debug locals with version 2. -/
def JsonMap.HasNoNewerField (version : UInt32) (entries : JsonMap) : Prop :=
  (version < 3 → entries.get? "async_kind" = none) ∧
  (version < 2 → entries.get? "debug_locals" = none)

namespace BinaryModuleWriter

variable {doubleText : UInt64 → String}

theorem function_recovers {version : UInt32} {item : JsonValue}
    (plain : ∀ entries : JsonMap, item = .map entries → entries.HasNoNewerField version) :
    Recovers (function doubleText version.toNat) (JsonValue.readMap BytecodeFunction.fromMap)
      (BinaryReader.function version) item := by
  intro bytes decoded written meant rest
  obtain ⟨entries, rfl, meant⟩ := JsonValue.eq_map_of_read meant
  obtain ⟨kindPlain, localsPlain⟩ := plain entries rfl
  -- What `serde` reads, member by member.
  obtain ⟨name, nameMeant, meant⟩ := except_bind_eq_ok.mp meant
  obtain ⟨convention, conventionMeant, meant⟩ := except_bind_eq_ok.mp meant
  obtain ⟨asyncKind, kindMeant, meant⟩ := except_bind_eq_ok.mp meant
  obtain ⟨paramCount, paramsMeant, meant⟩ := except_bind_eq_ok.mp meant
  obtain ⟨localCount, localsMeant, meant⟩ := except_bind_eq_ok.mp meant
  obtain ⟨constants, constantsMeant, meant⟩ := except_bind_eq_ok.mp meant
  obtain ⟨code, codeMeant, meant⟩ := except_bind_eq_ok.mp meant
  obtain ⟨sourceMap, sourceMapMeant, meant⟩ := except_bind_eq_ok.mp meant
  obtain ⟨debugLocals, debugLocalsMeant, meant⟩ := except_bind_eq_ok.mp meant
  cases meant
  -- What the tool writes, in the same order.
  obtain ⟨_, opened, written⟩ := except_bind_eq_ok.mp written
  cases opened
  obtain ⟨nameBytes, nameWritten, written⟩ := except_bind_eq_ok.mp written
  rw [JsonMap.textOr_of_required nameMeant] at nameWritten
  obtain ⟨number, conventionEncoded, written⟩ := except_bind_eq_ok.mp written
  rw [JsonMap.textOr_of_defaulted conventionMeant] at conventionEncoded
  obtain ⟨conventionBytes, conventionWritten, written⟩ := except_bind_eq_ok.mp written
  obtain ⟨kindBytes, kindWritten, written⟩ := except_bind_eq_ok.mp written
  obtain ⟨params, paramsRead, written⟩ := except_bind_eq_ok.mp written
  rw [JsonMap.intOr_of_u8 paramsMeant] at paramsRead
  cases paramsRead
  obtain ⟨paramBytes, paramsWritten, written⟩ := except_bind_eq_ok.mp written
  obtain ⟨locals, localsRead, written⟩ := except_bind_eq_ok.mp written
  rw [JsonMap.intOr_of_u8 localsMeant] at localsRead
  cases localsRead
  obtain ⟨localBytes, localsWritten, written⟩ := except_bind_eq_ok.mp written
  obtain ⟨constantItems, constantsRead, written⟩ := except_bind_eq_ok.mp written
  obtain ⟨_, sameConstants, constantsMeant⟩ := JsonMap.listOrExit_of_required constantsMeant
  rw [constantsRead] at sameConstants
  cases sameConstants
  obtain ⟨constantBytes, constantsWritten, written⟩ := except_bind_eq_ok.mp written
  obtain ⟨codeItems, codeRead, written⟩ := except_bind_eq_ok.mp written
  obtain ⟨_, sameCode, codeMeant⟩ := JsonMap.listOrExit_of_required codeMeant
  rw [codeRead] at sameCode
  cases sameCode
  obtain ⟨lengthBytes, lengthWritten, written⟩ := except_bind_eq_ok.mp written
  obtain ⟨codeBytes, codeWritten, written⟩ := except_bind_eq_ok.mp written
  obtain ⟨sourceMapBytes, sourceMapWritten, written⟩ := except_bind_eq_ok.mp written
  obtain ⟨debugBytes, debugWritten, written⟩ := except_bind_eq_ok.mp written
  cases written
  rw [u8_writes paramsWritten, u8_writes localsWritten]
  rw [BinaryReader.function_eq]
  simp only [List.append_assoc]
  rw [Reader.bind_of_ok _ (string_reads nameWritten _)]
  rw [Reader.bind_of_ok _ (returnConvention_reads conventionEncoded conventionWritten _)]
  rw [Reader.bind_of_ok _ (asyncKind_reads kindWritten kindMeant kindPlain _)]
  rw [List.singleton_append, u8_bind, List.singleton_append, u8_bind]
  rw [Reader.bind_of_ok _
    (counted_reads (fun item _ => constant_recovers item) constantsWritten constantsMeant _)]
  rw [Reader.bind_of_ok _ (code_reads lengthWritten codeWritten codeMeant _)]
  rw [Reader.bind_of_ok _ (counted_reads (fun item _ => sourceMapEntry_recovers item)
    sourceMapWritten (JsonMap.listOrEmpty_of_defaulted sourceMapMeant) _)]
  exact Reader.bind_of_ok _ (debugLocals_reads debugWritten debugLocalsMeant localsPlain rest)

end BinaryModuleWriter

/-!
## Modules
-/

/-- Every function of the map keeps to what its version has. -/
def JsonMap.KeepsToVersion (module : JsonMap) : Prop :=
  ∀ version functions, module.required JsonValue.readU32 "version" = .ok version →
    module.get? "functions" = some (.list functions) →
    ∀ entries : JsonMap, .map entries ∈ functions → entries.HasNoNewerField version

namespace BytecodeModule

theorem readBinary_encoded {doubleText : UInt64 → String} {map : JsonMap} {bytes : Bytes}
    {module : BytecodeModule} (encoded : encodeBinaryModule doubleText map = .ok bytes)
    (meant : fromMap map = .ok module) (plain : map.KeepsToVersion) :
    readBinary bytes = .ok module ∧ binaryMagic.isPrefixOf bytes := by
  obtain ⟨version, versionMeant, meant⟩ := except_bind_eq_ok.mp meant
  obtain ⟨functions, functionsMeant, meant⟩ := except_bind_eq_ok.mp meant
  cases meant
  obtain ⟨number, versionRead, encoded⟩ := except_bind_eq_ok.mp encoded
  rw [JsonMap.intOr_of_u32 versionMeant] at versionRead
  cases versionRead
  obtain ⟨versionBytes, versionWritten, encoded⟩ := except_bind_eq_ok.mp encoded
  obtain ⟨items, functionsRead, encoded⟩ := except_bind_eq_ok.mp encoded
  obtain ⟨value, present, listMeant⟩ := JsonMap.present_of_required functionsMeant
  obtain ⟨listed, rfl, each⟩ := JsonValue.eq_list_of_read listMeant
  simp only [JsonMap.listOrExit, present, Except.ok.injEq] at functionsRead
  subst functionsRead
  obtain ⟨body, functionsWritten, encoded⟩ := except_bind_eq_ok.mp encoded
  cases encoded
  have recovered : ∀ item ∈ listed, Recovers (BinaryModuleWriter.function doubleText version.toNat)
      (JsonValue.readMap BytecodeFunction.fromMap) (BinaryReader.function version) item := by
    intro item member
    apply BinaryModuleWriter.function_recovers
    rintro entries rfl
    exact plain version listed versionMeant present entries member
  have functionsFound := BinaryModuleWriter.counted_reads recovered functionsWritten each []
  rw [List.append_nil] at functionsFound
  have found : BinaryReader.module (binaryMagic ++ (versionBytes ++ body)) =
      .ok ({ version, functions }, []) := by
    rw [BinaryReader.module, Reader.bind_of_ok _ (expectMagic_append _),
      (BinaryModuleWriter.u32_writes versionWritten).2,
      Reader.bind_of_ok _ (u32_lawful.reads rfl body)]
    exact Reader.bind_of_ok _ functionsFound
  refine ⟨?_, List.isPrefixOf_iff_prefix.mpr (List.prefix_append _ _)⟩
  rw [readBinary, found]
  rfl

/-- What `from_slice` makes of the bytes that the tool writes for a module map is
what it makes of the JSON text of the map. `parse` is `serde_json` up to values;
the text of a map opens with a brace and is read back as the map. -/
theorem encodings_agree {doubleText : UInt64 → String} {parse : Bytes → Result JsonValue}
    {jsonEncode : JsonMap → Bytes} {map : JsonMap} {bytes : Bytes} {module : BytecodeModule}
    (exact : parse (jsonEncode map) = .ok (.map map))
    (opens : (jsonEncode map).head? = some 0x7b)
    (encoded : encodeBinaryModule doubleText map = .ok bytes)
    (accepted : fromSlice (fun text => parse text >>= fromJson) (jsonEncode map) = .ok module)
    (plain : map.KeepsToVersion) :
    fromSlice (fun text => parse text >>= fromJson) bytes = .ok module := by
  have text : ¬ binaryMagic.isPrefixOf (jsonEncode map) := by
    intro binary
    obtain ⟨rest, same⟩ := List.isPrefixOf_iff_prefix.mp binary
    rw [← same] at opens
    cases opens
  rw [fromSlice, if_neg text] at accepted
  obtain ⟨read, meant, accepted⟩ := except_bind_eq_ok.mp accepted
  obtain ⟨⟨⟩, valid, accepted⟩ := except_bind_eq_ok.mp accepted
  cases accepted
  rw [exact] at meant
  obtain ⟨found, magic⟩ := readBinary_encoded encoded meant plain
  rw [fromSlice, if_pos magic]
  exact except_bind_eq_ok.mpr ⟨_, found, except_bind_eq_ok.mpr ⟨(), valid, rfl⟩⟩

/-- A map of version 2 that leaves out every member with a default but one, and
gives a double as an integer. -/
def sampleMap : JsonMap :=
  [("version", .int 2), ("functions", .list [.map [("name", .string "f"), ("param_count", .int 0),
    ("local_count", .int 1), ("constants", .list [.map [("type", .string "Double"), ("value", .int 1)]]),
    ("code", .list [.int 1, .int 0, .int 0, .int 255]),
    ("debug_locals", .list [.map [("slot", .int 0), ("name", .string "x")]])]])]

def sampleText : Bytes :=
  stringBytes ("\x7b\"version\":2,\"functions\":[\x7b\"name\":\"f\",\"param_count\":0," ++
    "\"local_count\":1,\"constants\":[\x7b\"type\":\"Double\",\"value\":1\x7d]," ++
    "\"code\":[1,0,0,255],\"debug_locals\":[\x7b\"slot\":0,\"name\":\"x\"\x7d]\x7d]\x7d")

def sampleBytes : Bytes :=
  binaryMagic ++ [0, 0, 0, 2, 0, 1, 0, 1, 0x66, 0, 0, 1, 0, 1, 2, 0x3f, 0xf0, 0, 0, 0, 0, 0, 0,
    0, 0, 0, 4, 1, 0, 0, 0xff, 0, 0, 0, 1, 0, 0, 0, 1, 0x78]

def sampleFunction : BytecodeFunction where
  name := "f"
  returnConvention := "tagged"
  asyncKind := .sync
  paramCount := 0
  localCount := 1
  constants := [.double 0x3ff0000000000000]
  code := [1, 0, 0, 0xff]
  sourceMap := []
  debugLocals := [{ slot := 0, name := "x" }]

def sampleModule : BytecodeModule where
  version := 2
  functions := [sampleFunction]

private theorem sampleFunction_valid : sampleFunction.validateBytecode = .ok () := by
  simp [BytecodeFunction.validateBytecode, BytecodeFunction.scanInstructions,
    BytecodeFunction.checkTargets, sampleFunction, byteAt, OpCode.fromByte, OpCode.operandLen,
    BytecodeFunction.checkOperands, BytecodeFunction.checkTarget, readU16, bind, Except.bind]

def sampleParse (text : Bytes) : Result JsonValue :=
  if text = sampleText then .ok (.map sampleMap) else .error (.json "expected value")

theorem sampleMap_encodings_agree :
    fromSlice (fun text => sampleParse text >>= fromJson) sampleBytes = .ok sampleModule := by
  refine @encodings_agree (fun _ => "") sampleParse (fun _ => sampleText) sampleMap sampleBytes
    sampleModule ?_ ?_ ?_ ?_ ?_
  · exact if_pos rfl
  · decide
  · rfl
  · have text : ¬ binaryMagic.isPrefixOf sampleText := by decide
    have parsed : sampleParse sampleText = .ok (.map sampleMap) := if_pos rfl
    have valid : sampleModule.validate = .ok () :=
      except_bind_eq_ok.mpr ⟨(), rfl, except_bind_eq_ok.mpr ⟨(), sampleFunction_valid, rfl⟩⟩
    rw [fromSlice, if_neg text, parsed]
    exact except_bind_eq_ok.mpr ⟨sampleModule, rfl, except_bind_eq_ok.mpr ⟨(), valid, rfl⟩⟩
  · intro version functions versioned listed entries member
    cases versioned
    cases listed
    cases List.mem_singleton.mp member
    have second : ¬ sampleModule.version < 2 := by decide
    exact ⟨fun _ => rfl, fun older => absurd older second⟩

end BytecodeModule

end CodePush.Bytecode
