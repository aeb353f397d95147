import CodePush.Bytecode.Binary
import CodePush.Bytecode.ValidationProperties

/-!
# The binary format is exact

Each reader of the format is exact for its writer, from words up to functions.
The current version of the format is therefore canonical: a module that can be
written is read back, and bytes that can be read are the ones that are written.
-/

set_option autoImplicit false

namespace CodePush.Bytecode

open CodePush.Core CodePush.Foundation

/-!
## Words and strings
-/

theorem u8_lawful :
    Lawful (fun value : UInt8 => (.ok [value] : Result Bytes)) BinaryReader.u8 := by
  have single : (fun value : UInt8 => (.ok [value] : Result Bytes)) =
      fun value => .ok (bigEndian 1 value.toNat) := by
    funext value
    simp [bigEndian]
  rw [single]
  exact Lawful.word _ 1 UInt8.toNat UInt8.ofNat UInt8.toNat_lt (fun _ => UInt8.ofNat_toNat)
    (fun _ small => UInt8.toNat_ofNat_of_lt' small)

theorem u16_lawful :
    Lawful (fun value : UInt16 => (.ok (bigEndian 2 value.toNat) : Result Bytes)) BinaryReader.u16 :=
  Lawful.word _ 2 UInt16.toNat UInt16.ofNat UInt16.toNat_lt (fun _ => UInt16.ofNat_toNat)
    (fun _ small => UInt16.toNat_ofNat_of_lt' small)

theorem u32_lawful :
    Lawful (fun value : UInt32 => (.ok (bigEndian 4 value.toNat) : Result Bytes)) BinaryReader.u32 :=
  Lawful.word _ 4 UInt32.toNat UInt32.ofNat UInt32.toNat_lt (fun _ => UInt32.ofNat_toNat)
    (fun _ small => UInt32.toNat_ofNat_of_lt' small)

theorem f64_lawful :
    Lawful (fun bits : UInt64 => (.ok (bigEndian 8 bits.toNat) : Result Bytes)) BinaryReader.f64 :=
  Lawful.word _ 8 UInt64.toNat UInt64.ofNat UInt64.toNat_lt (fun _ => UInt64.ofNat_toNat)
    (fun _ small => UInt64.toNat_ofNat_of_lt' small)

theorem i64_lawful :
    Lawful (fun value : Int64 => (.ok (bigEndian 8 value.toUInt64.toNat) : Result Bytes))
      BinaryReader.i64 :=
  Lawful.word _ 8 (fun value : Int64 => value.toUInt64.toNat)
    (fun number => (UInt64.ofNat number).toInt64) (fun value => value.toUInt64.toNat_lt)
    (fun value => by rw [UInt64.ofNat_toNat, Int64.toInt64_toUInt64])
    (fun number small => by
      rw [UInt64.toUInt64_toInt64]
      exact UInt64.toNat_ofNat_of_lt' small)

/-- A length is a `usize` to the writer and a word to the reader. -/
theorem length16_lawful (label : String) :
    Lawful (writeU16 label) (do
      let value ← BinaryReader.u16
      pure value.toNat) :=
  u16_lawful.bounded _ 2 (2 ^ 16) UInt16.ofNat UInt16.toNat_lt
    (fun _ small => UInt16.toNat_ofNat_of_lt' small)

private theorem length32_lawful (label : String) :
    Lawful (writeU32 label) (do
      let value ← BinaryReader.u32
      pure value.toNat) :=
  u32_lawful.bounded _ 4 (2 ^ 32) UInt32.ofNat UInt32.toNat_lt
    (fun _ small => UInt32.toNat_ofNat_of_lt' small)

theorem string_lawful (label : String) : Lawful (writeString label) BinaryReader.string := by
  have sized := (length16_lawful label).sized (.message "truncated FCB bytecode binary")
    stringFromUtf8_stringBytes stringBytes_of_stringFromUtf8
  simp only [bind_assoc, pure_bind] at sized
  exact sized

theorem counted_lawful {α : Type} (label : String) {write : Foundation.Writer Error α}
    {read : Reader Error α} (item : Lawful write read) :
    Lawful (writeCounted label write) (BinaryReader.counted read) := by
  have counted := (length16_lawful label).counted item
  simp only [bind_assoc, pure_bind] at counted
  exact counted

/-!
## Tags
-/

private theorem byte_eq {byte : UInt8} {value : Nat} (small : value < 256)
    (same : byte.toNat = value) : byte = UInt8.ofNat value := by
  apply UInt8.toNat_inj.mp
  rw [same, UInt8.toNat_ofNat_of_lt' small]

private theorem returnConventionByte_inverse (function : BytecodeFunction) (convention : String)
    (byte : UInt8) :
    BytecodeFunction.returnConventionByte { function with returnConvention := convention } = .ok byte ↔
      BinaryReader.returnConventionOfByte byte = .ok convention := by
  constructor
  · intro encoded
    unfold BytecodeFunction.returnConventionByte at encoded
    split at encoded
    case isTrue tagged =>
      cases encoded
      exact congrArg Except.ok tagged.symm
    case isFalse =>
      split at encoded
      case isTrue unboxed =>
        cases encoded
        exact congrArg Except.ok unboxed.symm
      case isFalse => cases encoded
  · intro decoded
    unfold BinaryReader.returnConventionOfByte at decoded
    split at decoded
    case h_1 zero =>
      cases decoded
      rw [byte_eq (by decide) zero]
      rfl
    case h_2 one =>
      cases decoded
      rw [byte_eq (by decide) one]
      rfl
    case h_3 => cases decoded

private theorem asyncKindByte_inverse (kind : AsyncKind) (byte : UInt8) :
    (.ok kind.byte : Result UInt8) = .ok byte ↔ BinaryReader.asyncKindOfByte byte = .ok kind := by
  constructor
  · intro encoded
    cases encoded
    cases kind <;> rfl
  · intro decoded
    unfold BinaryReader.asyncKindOfByte at decoded
    split at decoded
    case h_5 => cases decoded
    all_goals
      rename_i same
      cases decoded
      rw [byte_eq (by decide) same]
      rfl

private theorem boolByte_inverse (value : Bool) (byte : UInt8) :
    (.ok (if value then 1 else 0) : Result UInt8) = .ok byte ↔
      BinaryReader.boolOfByte byte = .ok value := by
  constructor
  · intro encoded
    cases encoded
    cases value <;> rfl
  · intro decoded
    unfold BinaryReader.boolOfByte at decoded
    split at decoded
    case h_3 => cases decoded
    all_goals
      rename_i same
      cases decoded
      rw [byte_eq (by decide) same]
      rfl

/-!
## Constants, entries and functions
-/

theorem u8_bind {α : Type} (next : UInt8 → Reader Error α) (byte : UInt8) (rest : Bytes) :
    (BinaryReader.u8 >>= next) (byte :: rest) = next byte rest :=
  Reader.bind_of_ok next (u8_lawful.reads rfl rest)

private theorem u8_eq_ok {input rest : Bytes} {byte : UInt8}
    (found : BinaryReader.u8 input = .ok (byte, rest)) : input = byte :: rest := by
  obtain ⟨bytes, written, rfl⟩ := u8_lawful.canonical found
  cases written
  rfl

private theorem bool_lawful :
    Lawful (fun value : Bool => (.ok [if value then 1 else 0] : Result Bytes)) BinaryReader.bool :=
  u8_lawful.refined boolByte_inverse

theorem asyncKind_lawful :
    Lawful (fun kind : AsyncKind => (.ok [kind.byte] : Result Bytes)) BinaryReader.asyncKind :=
  u8_lawful.refined asyncKindByte_inverse

theorem returnConvention_lawful (function : BytecodeFunction) :
    Lawful
      (fun convention => do
        let byte ← BytecodeFunction.returnConventionByte
          { function with returnConvention := convention }
        .ok [byte])
      BinaryReader.returnConvention :=
  u8_lawful.refined (returnConventionByte_inverse function)

theorem constant_lawful : Lawful writeConstant BinaryReader.constant where
  reads := by
    intro value bytes written rest
    cases value with
    | null =>
        cases written
        exact u8_bind _ _ _
    | int value =>
        cases written
        rw [BinaryReader.constant, List.cons_append, u8_bind]
        exact Reader.bind_of_ok _ (i64_lawful.reads rfl rest)
    | double bits =>
        cases written
        rw [BinaryReader.constant, List.cons_append, u8_bind]
        exact Reader.bind_of_ok _ (f64_lawful.reads rfl rest)
    | bool value =>
        cases written
        rw [BinaryReader.constant, List.cons_append, u8_bind]
        exact Reader.bind_of_ok _ (bool_lawful.reads rfl rest)
    | string value =>
        obtain ⟨body, bodyWritten, written⟩ := except_bind_eq_ok.mp written
        cases written
        rw [BinaryReader.constant, List.cons_append, u8_bind]
        exact Reader.bind_of_ok _ ((string_lawful _).reads bodyWritten rest)
  canonical := by
    intro input value rest found
    obtain ⟨tag, middle, tagFound, remaining⟩ := Reader.bind_eq_ok.mp found
    cases u8_eq_ok tagFound
    match same : tag.toNat, remaining with
    | 0, remaining =>
      obtain ⟨rfl, rfl⟩ := Reader.pure_eq_ok.mp remaining
      exact ⟨[0], rfl, by rw [byte_eq (by decide) same]; rfl⟩
    | 1, remaining =>
      obtain ⟨number, last, numberFound, finished⟩ := Reader.bind_eq_ok.mp remaining
      obtain ⟨rfl, rfl⟩ := Reader.pure_eq_ok.mp finished
      obtain ⟨bytes, written, rfl⟩ := i64_lawful.canonical numberFound
      cases written
      exact ⟨_, rfl, by rw [byte_eq (by decide) same]; rfl⟩
    | 2, remaining =>
      obtain ⟨bits, last, bitsFound, finished⟩ := Reader.bind_eq_ok.mp remaining
      obtain ⟨rfl, rfl⟩ := Reader.pure_eq_ok.mp finished
      obtain ⟨bytes, written, rfl⟩ := f64_lawful.canonical bitsFound
      cases written
      exact ⟨_, rfl, by rw [byte_eq (by decide) same]; rfl⟩
    | 3, remaining =>
      obtain ⟨bool, last, boolFound, finished⟩ := Reader.bind_eq_ok.mp remaining
      obtain ⟨rfl, rfl⟩ := Reader.pure_eq_ok.mp finished
      obtain ⟨bytes, written, rfl⟩ := bool_lawful.canonical boolFound
      cases written
      exact ⟨_, rfl, by rw [byte_eq (by decide) same]; rfl⟩
    | 4, remaining =>
      obtain ⟨text, last, textFound, finished⟩ := Reader.bind_eq_ok.mp remaining
      obtain ⟨rfl, rfl⟩ := Reader.pure_eq_ok.mp finished
      obtain ⟨bytes, written, rfl⟩ := (string_lawful "string constant").canonical textFound
      refine ⟨4 :: bytes, except_bind_eq_ok.mpr ⟨bytes, written, rfl⟩, ?_⟩
      rw [byte_eq (by decide) same]
      rfl
    | other + 5, remaining => cases Reader.fail_eq_ok.mp remaining

theorem sourceMapEntry_lawful :
    Lawful writeSourceMapEntry BinaryReader.sourceMapEntry where
  reads := by
    intro entry bytes written rest
    obtain ⟨location, locationWritten, written⟩ := except_bind_eq_ok.mp written
    cases written
    rw [BinaryReader.sourceMapEntry, List.append_assoc,
      Reader.bind_of_ok _ (u32_lawful.reads rfl (location ++ rest))]
    exact Reader.bind_of_ok _ ((string_lawful _).reads locationWritten rest)
  canonical := by
    intro input entry rest found
    obtain ⟨offset, middle, offsetFound, remaining⟩ := Reader.bind_eq_ok.mp found
    obtain ⟨location, last, locationFound, finished⟩ := Reader.bind_eq_ok.mp remaining
    obtain ⟨rfl, rfl⟩ := Reader.pure_eq_ok.mp finished
    obtain ⟨offsetBytes, offsetWritten, rfl⟩ := u32_lawful.canonical offsetFound
    obtain ⟨bytes, written, rfl⟩ := (string_lawful "source location").canonical locationFound
    cases offsetWritten
    exact ⟨_, except_bind_eq_ok.mpr ⟨bytes, written, rfl⟩, by simp⟩

theorem debugLocalEntry_lawful :
    Lawful writeDebugLocalEntry BinaryReader.debugLocalEntry where
  reads := by
    intro entry bytes written rest
    obtain ⟨name, nameWritten, written⟩ := except_bind_eq_ok.mp written
    cases written
    rw [BinaryReader.debugLocalEntry, List.append_assoc,
      Reader.bind_of_ok _ (u16_lawful.reads rfl (name ++ rest))]
    exact Reader.bind_of_ok _ ((string_lawful _).reads nameWritten rest)
  canonical := by
    intro input entry rest found
    obtain ⟨slot, middle, slotFound, remaining⟩ := Reader.bind_eq_ok.mp found
    obtain ⟨name, last, nameFound, finished⟩ := Reader.bind_eq_ok.mp remaining
    obtain ⟨rfl, rfl⟩ := Reader.pure_eq_ok.mp finished
    obtain ⟨slotBytes, slotWritten, rfl⟩ := u16_lawful.canonical slotFound
    obtain ⟨bytes, written, rfl⟩ := (string_lawful "debug local name").canonical nameFound
    cases slotWritten
    exact ⟨_, except_bind_eq_ok.mpr ⟨bytes, written, rfl⟩, by simp⟩

theorem code_lawful : Lawful writeCode BinaryReader.code where
  reads := by
    intro code bytes written rest
    obtain ⟨length, lengthWritten, written⟩ := except_bind_eq_ok.mp written
    cases written
    have lengthFound := (length32_lawful _).reads lengthWritten (code ++ rest)
    obtain ⟨word, middle, wordFound, finished⟩ := Reader.bind_eq_ok.mp lengthFound
    obtain ⟨same, rfl⟩ := Reader.pure_eq_ok.mp finished
    rw [BinaryReader.code, List.append_assoc, Reader.bind_of_ok _ wordFound, same]
    exact Reader.take_append code rest
  canonical := by
    intro input code rest found
    obtain ⟨word, middle, wordFound, remaining⟩ := Reader.bind_eq_ok.mp found
    obtain ⟨same, rfl⟩ := Reader.take_eq_ok.mp remaining
    obtain ⟨length, lengthWritten, rfl⟩ := u32_lawful.canonical wordFound
    cases lengthWritten
    have small : ¬ code.length ≥ 2 ^ 32 := by
      rw [same]
      exact Nat.not_le_of_lt word.toNat_lt
    refine ⟨bigEndian 4 word.toNat ++ code, except_bind_eq_ok.mpr ⟨_, ?_, rfl⟩, by simp⟩
    exact except_guard_eq_ok.mpr ⟨small, by rw [same]⟩

private theorem function_lawful : Lawful writeFunction (BinaryReader.function formatVersion) where
  reads := by
    intro function bytes written rest
    obtain ⟨name, nameWritten, written⟩ := except_bind_eq_ok.mp written
    obtain ⟨convention, conventionEncoded, written⟩ := except_bind_eq_ok.mp written
    obtain ⟨constants, constantsWritten, written⟩ := except_bind_eq_ok.mp written
    obtain ⟨code, codeWritten, written⟩ := except_bind_eq_ok.mp written
    obtain ⟨sourceMap, sourceMapWritten, written⟩ := except_bind_eq_ok.mp written
    obtain ⟨debugLocals, debugLocalsWritten, written⟩ := except_bind_eq_ok.mp written
    cases written
    have conventionWritten : (do
        let byte ← function.returnConventionByte
        .ok [byte]) = (.ok [convention] : Result Bytes) :=
      except_bind_eq_ok.mpr ⟨convention, conventionEncoded, rfl⟩
    have conventionFound : ∀ rest, BinaryReader.returnConvention (convention :: rest) =
        .ok (function.returnConvention, rest) :=
      (returnConvention_lawful function).reads conventionWritten
    have kindFound : ∀ rest, BinaryReader.asyncKind (function.asyncKind.byte :: rest) =
        .ok (function.asyncKind, rest) :=
      asyncKind_lawful.reads rfl
    have versioned : formatVersion ≥ 3 ∧ formatVersion ≥ 2 := by decide
    simp only [BinaryReader.function, versioned.1, versioned.2, if_true, List.append_assoc,
      List.cons_append]
    rw [Reader.bind_of_ok _ ((string_lawful _).reads nameWritten _)]
    rw [Reader.bind_of_ok _ (conventionFound _)]
    rw [Reader.bind_of_ok _ (kindFound _), u8_bind, u8_bind]
    rw [Reader.bind_of_ok _ ((counted_lawful _ constant_lawful).reads constantsWritten _)]
    rw [Reader.bind_of_ok _ (code_lawful.reads codeWritten _)]
    rw [Reader.bind_of_ok _ ((counted_lawful _ sourceMapEntry_lawful).reads sourceMapWritten _)]
    exact Reader.bind_of_ok _
      ((counted_lawful _ debugLocalEntry_lawful).reads debugLocalsWritten rest)
  canonical := by
    intro input function rest found
    have versioned : formatVersion ≥ 3 ∧ formatVersion ≥ 2 := by decide
    simp only [BinaryReader.function, versioned.1, versioned.2, if_true] at found
    obtain ⟨name, afterName, nameFound, found⟩ := Reader.bind_eq_ok.mp found
    obtain ⟨convention, afterConvention, conventionFound, found⟩ := Reader.bind_eq_ok.mp found
    obtain ⟨asyncKind, afterKind, kindFound, found⟩ := Reader.bind_eq_ok.mp found
    obtain ⟨paramCount, afterParams, paramsFound, found⟩ := Reader.bind_eq_ok.mp found
    obtain ⟨localCount, afterLocals, localsFound, found⟩ := Reader.bind_eq_ok.mp found
    obtain ⟨constants, afterConstants, constantsFound, found⟩ := Reader.bind_eq_ok.mp found
    obtain ⟨code, afterCode, codeFound, found⟩ := Reader.bind_eq_ok.mp found
    obtain ⟨sourceMap, afterMap, sourceMapFound, found⟩ := Reader.bind_eq_ok.mp found
    obtain ⟨debugLocals, afterDebug, debugLocalsFound, found⟩ := Reader.bind_eq_ok.mp found
    obtain ⟨rfl, rfl⟩ := Reader.pure_eq_ok.mp found
    obtain ⟨nameBytes, nameWritten, rfl⟩ := (string_lawful "function name").canonical nameFound
    obtain ⟨conventionBytes, conventionWritten, rfl⟩ := (returnConvention_lawful
      { name, returnConvention := convention, asyncKind, paramCount, localCount, constants, code,
        sourceMap, debugLocals }).canonical conventionFound
    obtain ⟨byte, encoded, conventionWritten⟩ := except_bind_eq_ok.mp conventionWritten
    cases conventionWritten
    obtain ⟨kindBytes, kindWritten, rfl⟩ := asyncKind_lawful.canonical kindFound
    cases kindWritten
    cases u8_eq_ok paramsFound
    cases u8_eq_ok localsFound
    obtain ⟨constantBytes, constantsWritten, rfl⟩ :=
      (counted_lawful "constant count" constant_lawful).canonical constantsFound
    obtain ⟨codeBytes, codeWritten, rfl⟩ := code_lawful.canonical codeFound
    obtain ⟨mapBytes, mapWritten, rfl⟩ :=
      (counted_lawful "source map count" sourceMapEntry_lawful).canonical sourceMapFound
    obtain ⟨debugBytes, debugWritten, rfl⟩ :=
      (counted_lawful "debug locals count" debugLocalEntry_lawful).canonical debugLocalsFound
    refine ⟨_, except_bind_eq_ok.mpr ⟨nameBytes, nameWritten, except_bind_eq_ok.mpr ⟨byte, encoded,
      except_bind_eq_ok.mpr ⟨constantBytes, constantsWritten, except_bind_eq_ok.mpr ⟨codeBytes,
      codeWritten, except_bind_eq_ok.mpr ⟨mapBytes, mapWritten, except_bind_eq_ok.mpr ⟨debugBytes,
      debugWritten, rfl⟩⟩⟩⟩⟩⟩, ?_⟩
    simp

/-!
## Modules
-/

namespace BytecodeModule

/-- The version does not take part in validation beyond the range check. -/
private theorem validate_current {module : BytecodeModule} (valid : module.validate = .ok ()) :
    validate { module with version := formatVersion } = .ok () := by
  obtain ⟨⟨⟩, envelope, functions⟩ := except_bind_eq_ok.mp valid
  obtain ⟨_, envelope⟩ := except_guard_eq_ok.mp envelope
  obtain ⟨nonempty, envelope⟩ := except_guard_eq_ok.mp envelope
  refine except_bind_eq_ok.mpr ⟨(), ?_, functions⟩
  have supported : ¬ (formatVersion < minSupportedModuleVersion ∨ formatVersion < formatVersion) := by
    decide
  exact except_guard_eq_ok.mpr ⟨supported, except_guard_eq_ok.mpr ⟨nonempty, envelope⟩⟩

theorem expectMagic_append (rest : Bytes) :
    BinaryReader.expectMagic binaryMagic (binaryMagic ++ rest) = .ok ((), rest) := by
  rw [BinaryReader.expectMagic]
  exact Reader.bind_of_ok _ (Reader.take_append binaryMagic rest)

private theorem expectMagic_eq_ok {input rest : Bytes}
    (found : BinaryReader.expectMagic binaryMagic input = .ok ((), rest)) :
    input = binaryMagic ++ rest := by
  obtain ⟨actual, middle, taken, checked⟩ := Reader.bind_eq_ok.mp found
  obtain ⟨_, rfl⟩ := Reader.take_eq_ok.mp taken
  by_cases same : actual = binaryMagic
  · subst same
    rw [if_neg (by simp)] at checked
    obtain ⟨_, rfl⟩ := Reader.pure_eq_ok.mp checked
    rfl
  · rw [if_pos same] at checked
    cases Reader.fail_eq_ok.mp checked

/-- The functions of a module of the current version are read back from their bytes. -/
theorem readBinary_written {functions : List BytecodeFunction} {body : Bytes}
    (written : writeCounted "function count" writeFunction functions = .ok body) :
    readBinary (binaryMagic ++ (bigEndian 4 formatVersion.toNat ++ body)) =
      .ok { version := formatVersion, functions } := by
  have functionsFound := (counted_lawful _ function_lawful).reads written []
  rw [List.append_nil] at functionsFound
  have found : BinaryReader.module (binaryMagic ++ (bigEndian 4 formatVersion.toNat ++ body)) =
      .ok ({ version := formatVersion, functions }, []) := by
    rw [BinaryReader.module, Reader.bind_of_ok _ (expectMagic_append _),
      Reader.bind_of_ok _ (u32_lawful.reads rfl body)]
    exact Reader.bind_of_ok _ functionsFound
  rw [readBinary, found]
  rfl

theorem readBinary_of_toBinaryVec {module : BytecodeModule} {bytes : Bytes}
    (written : module.toBinaryVec = .ok bytes) :
    readBinary bytes = .ok { module with version := formatVersion } := by
  obtain ⟨⟨⟩, _, written⟩ := except_bind_eq_ok.mp written
  obtain ⟨body, functionsWritten, written⟩ := except_bind_eq_ok.mp written
  cases written
  exact readBinary_written functionsWritten

theorem toBinaryVec_of_readBinary {module : BytecodeModule} {bytes : Bytes}
    (found : readBinary bytes = .ok module) (current : module.version = formatVersion)
    (valid : module.validate = .ok ()) : module.toBinaryVec = .ok bytes := by
  obtain ⟨⟨decoded, rest⟩, moduleFound, finished⟩ := except_bind_eq_ok.mp found
  obtain ⟨whole, finished⟩ := except_guard_eq_ok.mp finished
  cases finished
  have empty : rest = [] := by simpa using whole
  subst empty
  obtain ⟨_, afterMagic, magicFound, remaining⟩ := Reader.bind_eq_ok.mp moduleFound
  cases expectMagic_eq_ok magicFound
  obtain ⟨version, afterVersion, versionFound, remaining⟩ := Reader.bind_eq_ok.mp remaining
  obtain ⟨functions, afterFunctions, functionsFound, remaining⟩ := Reader.bind_eq_ok.mp remaining
  obtain ⟨rfl, rfl⟩ := Reader.pure_eq_ok.mp remaining
  obtain rfl : version = formatVersion := current
  obtain ⟨versionBytes, versionWritten, rfl⟩ := u32_lawful.canonical versionFound
  cases versionWritten
  obtain ⟨body, functionsWritten, rfl⟩ :=
    (counted_lawful "function count" function_lawful).canonical functionsFound
  refine except_bind_eq_ok.mpr ⟨(), valid, except_bind_eq_ok.mpr ⟨body, functionsWritten, ?_⟩⟩
  simp

theorem fromSlice_of_toBinaryVec (json : Bytes → Result BytecodeModule) {module : BytecodeModule}
    {bytes : Bytes} (written : module.toBinaryVec = .ok bytes) :
    fromSlice json bytes = .ok { module with version := formatVersion } := by
  have found := readBinary_of_toBinaryVec written
  obtain ⟨⟨⟩, valid, written⟩ := except_bind_eq_ok.mp written
  obtain ⟨body, _, written⟩ := except_bind_eq_ok.mp written
  cases written
  have magic : binaryMagic.isPrefixOf (binaryMagic ++ (bigEndian 4 formatVersion.toNat ++ body)) :=
    List.isPrefixOf_iff_prefix.mpr (List.prefix_append _ _)
  rw [fromSlice, if_pos magic]
  exact except_bind_eq_ok.mpr
    ⟨_, found, except_bind_eq_ok.mpr ⟨(), validate_current valid, rfl⟩⟩

/-- The codec is a bijection between the modules it can write, at the current
version, and the byte strings of that version that are read and valid. -/
theorem binary_codec_bijective (json : Bytes → Result BytecodeModule) :
    (∀ (module : BytecodeModule) bytes, module.toBinaryVec = .ok bytes →
      readBinary bytes = .ok { module with version := formatVersion } ∧
      fromSlice json bytes = .ok { module with version := formatVersion }) ∧
    (∀ bytes module, readBinary bytes = .ok module → module.version = formatVersion →
      module.validate = .ok () → module.toBinaryVec = .ok bytes) ∧
    (∀ first second module, readBinary first = .ok module → readBinary second = .ok module →
      module.version = formatVersion → module.validate = .ok () → first = second) := by
  refine ⟨?_, ?_, ?_⟩
  · intro module bytes written
    exact ⟨readBinary_of_toBinaryVec written, fromSlice_of_toBinaryVec json written⟩
  · intro bytes module found current valid
    exact toBinaryVec_of_readBinary found current valid
  · intro first second module firstFound secondFound current valid
    have firstWritten := toBinaryVec_of_readBinary firstFound current valid
    rw [toBinaryVec_of_readBinary secondFound current valid] at firstWritten
    cases firstWritten
    rfl

/-- A module of an older version, which is written at the current one. -/
def olderModule : BytecodeModule where
  version := 1
  functions := [BytecodeFunction.jumpOverNothing]

def olderModuleBytes : Bytes :=
  binaryMagic ++ [0, 0, 0, 3, 0, 1, 0, 6, 0x61, 0x6e, 0x73, 0x77, 0x65, 0x72, 0, 0, 0, 0, 0, 1,
    1, 0, 0, 0, 0, 0, 0, 0, 42, 0, 0, 0, 7, 0x01, 0, 0, 0x30, 0, 6, 0xff, 0, 0, 0, 0]

private theorem olderModule_written : olderModule.toBinaryVec = .ok olderModuleBytes := by
  have valid : olderModule.validate = .ok () :=
    except_bind_eq_ok.mpr ⟨(), rfl,
      except_bind_eq_ok.mpr ⟨(), BytecodeFunction.jumpOverNothing_valid, rfl⟩⟩
  exact except_bind_eq_ok.mpr ⟨(), valid, rfl⟩

theorem olderModule_codec :
    olderModule.toBinaryVec = .ok olderModuleBytes ∧
    fromSlice (fun _ => .error (.json "expected value")) olderModuleBytes =
      .ok { olderModule with version := formatVersion } :=
  ⟨olderModule_written, ((binary_codec_bijective _).1 _ _ olderModule_written).2⟩

end BytecodeModule

end CodePush.Bytecode
