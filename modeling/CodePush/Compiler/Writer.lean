import CodePush.Bytecode.BinaryProperties
import CodePush.Compiler.Functions

/-!
# The two writers of the binary format

The bytes that the writer in Dart produces for a compiled function are those that the
writer in Rust would produce for the function that the reader finds in them.
-/

set_option autoImplicit false

namespace CodePush.Compiler

open CodePush.Core CodePush.Bytecode CodePush.Foundation

/-!
## Items
-/

namespace BinaryModuleWriter

theorem u8_eq_ok {value : Nat} {bytes : Bytes} (written : u8 value = .ok bytes) :
    value < 256 ∧ bytes = [UInt8.ofNat value] := by
  unfold u8 at written
  split at written
  · cases written
  · cases written
    exact ⟨by omega, rfl⟩

theorem u16_eq_ok {value : Nat} {label : String} {bytes : Bytes} (written : u16 value label = .ok bytes) :
    value < 2 ^ 16 ∧ bytes = bigEndian 2 value := by
  unfold u16 at written
  split at written
  · cases written
  · cases written
    exact ⟨by omega, by simp [bigEndian]⟩

theorem u32_eq_ok {value : Nat} {bytes : Bytes} (written : u32 value = .ok bytes) :
    value < 2 ^ 32 ∧ bytes = bigEndian 4 value := by
  unfold u32 at written
  split at written
  · cases written
  · cases written
    exact ⟨by omega, by simp [bigEndian, Nat.div_div_eq_div_mul]⟩

theorem string_eq_ok {value label : String} {bytes : Bytes} (written : string value label = .ok bytes) :
    writeString label value = .ok bytes := by
  obtain ⟨length, lengthWritten, written⟩ := except_bind_eq_ok.mp written
  obtain ⟨small, rfl⟩ := u16_eq_ok lengthWritten
  cases written
  have fits : ¬ (stringBytes value).length ≥ 2 ^ 16 := by omega
  rw [writeString, writeU16, if_neg fits]
  rfl

/-- The constant that a specification stands for. -/
def constantOf (lib : DartLib) (spec : ConstantSpec) : Except String Constant :=
  match spec.type with
  | .null => .ok .null
  | .int => (intValue lib spec.value).map .int
  | .double => (doubleValue lib spec.value).map .double
  | .bool => .ok (.bool (decide (spec.value = .bool true)))
  | .string => .ok (.string ((lib.text? spec.value).getD ""))

theorem constant_eq_ok {lib : DartLib} {spec : ConstantSpec} {bytes : Bytes}
    (written : constant lib spec = .ok bytes) :
    ∃ value, constantOf lib spec = .ok value ∧ writeConstant value = .ok bytes := by
  obtain ⟨type, value⟩ := spec
  cases type with
  | null =>
      obtain ⟨_, rfl⟩ := u8_eq_ok written
      exact ⟨.null, rfl, rfl⟩
  | int =>
      obtain ⟨tag, tagWritten, written⟩ := except_bind_eq_ok.mp written
      obtain ⟨number, found, written⟩ := except_bind_eq_ok.mp written
      obtain ⟨_, rfl⟩ := u8_eq_ok tagWritten
      cases written
      exact ⟨.int number, by simp [constantOf, found], rfl⟩
  | double =>
      obtain ⟨tag, tagWritten, written⟩ := except_bind_eq_ok.mp written
      obtain ⟨bits, found, written⟩ := except_bind_eq_ok.mp written
      obtain ⟨_, rfl⟩ := u8_eq_ok tagWritten
      cases written
      exact ⟨.double bits, by simp [constantOf, found], rfl⟩
  | bool =>
      obtain ⟨tag, tagWritten, written⟩ := except_bind_eq_ok.mp written
      obtain ⟨flag, flagWritten, written⟩ := except_bind_eq_ok.mp written
      obtain ⟨_, rfl⟩ := u8_eq_ok tagWritten
      obtain ⟨_, rfl⟩ := u8_eq_ok flagWritten
      cases written
      refine ⟨_, rfl, ?_⟩
      by_cases holds : value = .bool true <;> simp [writeConstant, holds]
  | string =>
      obtain ⟨tag, tagWritten, written⟩ := except_bind_eq_ok.mp written
      obtain ⟨text, textWritten, written⟩ := except_bind_eq_ok.mp written
      obtain ⟨_, rfl⟩ := u8_eq_ok tagWritten
      cases written
      refine ⟨_, rfl, ?_⟩
      exact except_bind_eq_ok.mpr ⟨text, string_eq_ok textWritten, rfl⟩

theorem each_eq_ok {α β : Type} {write : α → Except String Bytes}
    {write' : Foundation.Writer Error β} {related : α → β → Prop} {items : List α} {bytes : Bytes}
    (one : ∀ item bytes, write item = .ok bytes → ∃ other, related item other ∧ write' other = .ok bytes)
    (written : each write items = .ok bytes) :
    ∃ others, List.Forall₂ related items others ∧ writeAll write' others = .ok bytes := by
  induction items generalizing bytes with
  | nil =>
      cases written
      exact ⟨[], .nil, rfl⟩
  | cons item items ih =>
      obtain ⟨first, firstWritten, written⟩ := except_bind_eq_ok.mp written
      obtain ⟨rest, restWritten, written⟩ := except_bind_eq_ok.mp written
      cases written
      obtain ⟨other, same, otherWritten⟩ := one item first firstWritten
      obtain ⟨others, sameRest, othersWritten⟩ := ih restWritten
      exact ⟨other :: others, .cons same sameRest, except_bind_eq_ok.mpr
        ⟨first, otherWritten, except_bind_eq_ok.mpr ⟨rest, othersWritten, rfl⟩⟩⟩

/-- A count and the items behind it. -/
theorem counted_eq_ok {α β : Type} {write : α → Except String Bytes}
    {write' : Foundation.Writer Error β} {related : α → β → Prop} {items : List α} {label : String} {count body : Bytes}
    (one : ∀ item bytes, write item = .ok bytes → ∃ other, related item other ∧ write' other = .ok bytes)
    (countWritten : u16 items.length label = .ok count) (written : each write items = .ok body) :
    ∃ others, List.Forall₂ related items others ∧ writeCounted label write' others = .ok (count ++ body) := by
  obtain ⟨others, same, othersWritten⟩ := each_eq_ok one written
  obtain ⟨small, rfl⟩ := u16_eq_ok countWritten
  refine ⟨others, same, ?_⟩
  have fits : ¬ others.length ≥ 2 ^ 16 := by
    rw [← same.length_eq]
    omega
  rw [writeCounted, writeU16, if_neg fits, same.length_eq]
  exact except_bind_eq_ok.mpr ⟨_, rfl, except_bind_eq_ok.mpr ⟨body, othersWritten, rfl⟩⟩

/-!
## Functions
-/

/-- The function that the reader will find. -/
structure Encodes (lib : DartLib) (spec : FunctionSpec) (function : BytecodeFunction) : Prop where
  name : function.name = spec.name
  returnConvention : function.returnConvention = spec.returnConvention
  conventional : spec.returnConvention = "tagged" ∨ spec.returnConvention = "unboxed_int64"
  paramCount : function.paramCount.toNat = spec.paramCount
  localCount : function.localCount.toNat = spec.localCount
  constants : List.Forall₂ (fun spec value => constantOf lib spec = .ok value) spec.constants
    function.constants
  code : function.code = spec.code
  sourceMap : List.Forall₂ (fun entry written =>
    written.bytecodeOffset.toNat = entry.1 ∧ written.sourceLocation = entry.2) spec.sourceMap
    function.sourceMap
  debugLocals : List.Forall₂ (fun entry written =>
    written.slot.toNat = entry.1 ∧ written.name = entry.2) spec.debugLocals function.debugLocals

theorem sourceMapEntry_eq_ok (entry : Nat × String) (bytes : Bytes)
    (written : sourceMapEntry entry = .ok bytes) :
    ∃ other : SourceMapEntry, (other.bytecodeOffset.toNat = entry.1 ∧ other.sourceLocation = entry.2) ∧
      writeSourceMapEntry other = .ok bytes := by
  obtain ⟨offset, offsetWritten, written⟩ := except_bind_eq_ok.mp written
  obtain ⟨location, locationWritten, written⟩ := except_bind_eq_ok.mp written
  obtain ⟨small, rfl⟩ := u32_eq_ok offsetWritten
  cases written
  have kept : (UInt32.ofNat entry.1).toNat = entry.1 := by
    rw [UInt32.toNat_ofNat', Nat.mod_eq_of_lt small]
  refine ⟨⟨UInt32.ofNat entry.1, entry.2⟩, ⟨kept, rfl⟩, except_bind_eq_ok.mpr
    ⟨location, string_eq_ok locationWritten, ?_⟩⟩
  simp only [kept]

theorem debugLocal_eq_ok (entry : Nat × String) (bytes : Bytes)
    (written : debugLocal entry = .ok bytes) :
    ∃ other : DebugLocalEntry, (other.slot.toNat = entry.1 ∧ other.name = entry.2) ∧
      writeDebugLocalEntry other = .ok bytes := by
  obtain ⟨slot, slotWritten, written⟩ := except_bind_eq_ok.mp written
  obtain ⟨name, nameWritten, written⟩ := except_bind_eq_ok.mp written
  obtain ⟨small, rfl⟩ := u16_eq_ok slotWritten
  cases written
  have kept : (UInt16.ofNat entry.1).toNat = entry.1 := by
    rw [UInt16.toNat_ofNat', Nat.mod_eq_of_lt small]
  refine ⟨⟨UInt16.ofNat entry.1, entry.2⟩, ⟨kept, rfl⟩, except_bind_eq_ok.mpr
    ⟨name, string_eq_ok nameWritten, ?_⟩⟩
  simp only [kept]

theorem returnConvention_eq_ok {value : String} {bytes : Bytes}
    (written : returnConvention value = .ok bytes) :
    (value = "tagged" ∧ bytes = [0]) ∨ (value = "unboxed_int64" ∧ bytes = [1]) := by
  unfold returnConvention at written
  split at written
  case isTrue same => exact .inl ⟨same, (u8_eq_ok written).2⟩
  case isFalse =>
    split at written
    case isTrue same => exact .inr ⟨same, (u8_eq_ok written).2⟩
    case isFalse => cases written

theorem asyncKind_eq_ok {kind : AsyncKind} {bytes : Bytes} (written : asyncKind kind = .ok bytes) :
    bytes = [kind.byte] := by
  cases kind <;> exact (u8_eq_ok written).2

theorem function_eq_ok {lib : DartLib} (spec : FunctionSpec) (bytes : Bytes)
    (written : BinaryModuleWriter.function lib spec = .ok bytes) :
    ∃ function, Encodes lib spec function ∧ writeFunction function = .ok bytes := by
  obtain ⟨name, nameWritten, written⟩ := except_bind_eq_ok.mp written
  obtain ⟨convention, conventionWritten, written⟩ := except_bind_eq_ok.mp written
  obtain ⟨kind, kindWritten, written⟩ := except_bind_eq_ok.mp written
  obtain ⟨params, paramsWritten, written⟩ := except_bind_eq_ok.mp written
  obtain ⟨locals, localsWritten, written⟩ := except_bind_eq_ok.mp written
  obtain ⟨constantCount, constantCountWritten, written⟩ := except_bind_eq_ok.mp written
  obtain ⟨constants, constantsWritten, written⟩ := except_bind_eq_ok.mp written
  obtain ⟨codeLength, codeLengthWritten, written⟩ := except_bind_eq_ok.mp written
  obtain ⟨sourceMapCount, sourceMapCountWritten, written⟩ := except_bind_eq_ok.mp written
  obtain ⟨sourceMap, sourceMapWritten, written⟩ := except_bind_eq_ok.mp written
  obtain ⟨debugCount, debugCountWritten, written⟩ := except_bind_eq_ok.mp written
  obtain ⟨debug, debugWritten, written⟩ := except_bind_eq_ok.mp written
  cases written
  obtain ⟨paramsSmall, rfl⟩ := u8_eq_ok paramsWritten
  obtain ⟨localsSmall, rfl⟩ := u8_eq_ok localsWritten
  obtain ⟨codeSmall, rfl⟩ := u32_eq_ok codeLengthWritten
  obtain ⟨values, sameValues, valuesWritten⟩ :=
    counted_eq_ok (fun _ _ => constant_eq_ok) constantCountWritten constantsWritten
  obtain ⟨offsets, sameOffsets, offsetsWritten⟩ :=
    counted_eq_ok sourceMapEntry_eq_ok sourceMapCountWritten sourceMapWritten
  obtain ⟨names, sameNames, namesWritten⟩ :=
    counted_eq_ok debugLocal_eq_ok debugCountWritten debugWritten
  cases asyncKind_eq_ok kindWritten
  let function : BytecodeFunction :=
    { name := spec.name
      returnConvention := spec.returnConvention
      asyncKind := spec.asyncKind
      paramCount := UInt8.ofNat spec.paramCount
      localCount := UInt8.ofNat spec.localCount
      constants := values
      code := spec.code
      sourceMap := offsets
      debugLocals := names }
  have conventional := returnConvention_eq_ok conventionWritten
  have conventionByte : ∃ byte, function.returnConventionByte = .ok byte ∧ convention = [byte] := by
    rcases conventional with ⟨same, rfl⟩ | ⟨same, rfl⟩
    · exact ⟨0, by simp [BytecodeFunction.returnConventionByte, function, same], rfl⟩
    · exact ⟨1, by simp [BytecodeFunction.returnConventionByte, function, same], rfl⟩
  obtain ⟨byte, byteWritten, rfl⟩ := conventionByte
  have codeWritten : writeCode spec.code = .ok (bigEndian 4 spec.code.length ++ spec.code) := by
    have fits : ¬ spec.code.length ≥ 2 ^ 32 := by omega
    rw [writeCode, writeU32, if_neg fits]
    rfl
  refine ⟨function, ?_, ?_⟩
  · exact
      { name := rfl
        returnConvention := rfl
        conventional := conventional.imp And.left And.left
        paramCount := by
          show (UInt8.ofNat spec.paramCount).toNat = spec.paramCount
          rw [UInt8.toNat_ofNat', Nat.mod_eq_of_lt paramsSmall]
        localCount := by
          show (UInt8.ofNat spec.localCount).toNat = spec.localCount
          rw [UInt8.toNat_ofNat', Nat.mod_eq_of_lt localsSmall]
        constants := sameValues
        code := rfl
        sourceMap := sameOffsets
        debugLocals := sameNames }
  · refine except_bind_eq_ok.mpr ⟨name, string_eq_ok nameWritten, ?_⟩
    refine except_bind_eq_ok.mpr ⟨byte, byteWritten, ?_⟩
    refine except_bind_eq_ok.mpr ⟨_, valuesWritten, ?_⟩
    refine except_bind_eq_ok.mpr ⟨_, codeWritten, ?_⟩
    refine except_bind_eq_ok.mpr ⟨_, offsetsWritten, ?_⟩
    refine except_bind_eq_ok.mpr ⟨_, namesWritten, ?_⟩
    simp [function]

end BinaryModuleWriter

/-- What the reader finds in an encoded module. -/
theorem encodeBinaryModule_reads {lib : DartLib} {specs : List FunctionSpec} {bytes : Bytes}
    (encoded : encodeBinaryModule lib specs = .ok bytes) :
    ∃ functions, List.Forall₂ (BinaryModuleWriter.Encodes lib) specs functions ∧
      BytecodeModule.readBinary bytes = .ok { version := formatVersion, functions } := by
  obtain ⟨version, versionWritten, encoded⟩ := except_bind_eq_ok.mp encoded
  obtain ⟨count, countWritten, encoded⟩ := except_bind_eq_ok.mp encoded
  obtain ⟨body, bodyWritten, encoded⟩ := except_bind_eq_ok.mp encoded
  cases encoded
  obtain ⟨_, rfl⟩ := BinaryModuleWriter.u32_eq_ok versionWritten
  obtain ⟨functions, same, written⟩ :=
    BinaryModuleWriter.counted_eq_ok BinaryModuleWriter.function_eq_ok countWritten bodyWritten
  exact ⟨functions, same, BytecodeModule.readBinary_written written⟩

end CodePush.Compiler
