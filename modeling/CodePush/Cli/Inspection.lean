import CodePush.Bytecode.AotTargets
import CodePush.Core.Manifest

/-!
# Inspection of a module

`bytecode_summary` of `cli/src/inspect.rs`. Its flags look for a byte anywhere in the code, where
the validator looks for an instruction at the offsets it decodes.
-/

set_option autoImplicit false

namespace CodePush.Bytecode.OpCode

/-- `opcode as u8`. -/
def toByte : OpCode → UInt8
  | .loadConst => 0x01
  | .loadArg => 0x02
  | .loadLocal => 0x03
  | .storeLocal => 0x04
  | .pop => 0x05
  | .add => 0x10
  | .sub => 0x11
  | .mul => 0x12
  | .div => 0x13
  | .greater => 0x20
  | .equal => 0x21
  | .jump => 0x30
  | .jumpIfFalse => 0x31
  | .jumpIfTrue => 0x32
  | .makeList => 0x40
  | .makeMap => 0x41
  | .stringConcat => 0x42
  | .getField => 0x43
  | .setField => 0x44
  | .isType => 0x45
  | .asType => 0x46
  | .callStatic => 0x50
  | .callDynamic => 0x51
  | .callOriginal => 0x52
  | .callClosure => 0x53
  | .makeClosure => 0x54
  | .newObject => 0x55
  | .throw => 0x60
  | .tryBegin => 0x61
  | .await => 0x62
  | .asyncReturn => 0x63
  | .yield => 0x64
  | .tryFinally => 0x65
  | .endFinally => 0x66
  | .rethrow => 0x67
  | .return => 0xff

theorem fromByte_toByte (opcode : OpCode) : fromByte opcode.toByte = some opcode := by
  cases opcode <;> rfl

theorem eq_toByte_of_fromByte {byte : UInt8} {opcode : OpCode} (decoded : fromByte byte = some opcode) :
    byte = opcode.toByte := by
  apply UInt8.toNat_inj.mp
  unfold fromByte at decoded
  split at decoded <;> cases decoded
  all_goals assumption

end CodePush.Bytecode.OpCode

namespace CodePush.Cli

open CodePush.Core CodePush.Bytecode

/-!
## The summary
-/

/-- `function.code.contains(&(opcode as u8))`. -/
def usesByte (function : BytecodeFunction) (opcode : OpCode) : Bool := function.code.contains opcode.toByte

def functionSummary (function : BytecodeFunction) : List (String × Json) := [
  ("name", .str function.name),
  ("return_convention", .str function.returnConvention),
  ("param_count", .num function.paramCount.toNat),
  ("local_count", .num function.localCount.toNat),
  ("constant_count", .num function.constants.length),
  ("code_bytes", .num function.code.length),
  ("source_map_entries", .num function.sourceMap.length),
  ("first_source_location", (function.sourceMap.head?.map (.str ·.sourceLocation)).getD .null),
  ("uses_call_static", .bool (usesByte function .callStatic)),
  ("uses_get_field", .bool (usesByte function .getField)),
  ("uses_set_field", .bool (usesByte function .setField))]

def bytecodeSummary (module : BytecodeModule) : Json := .obj [
  ("kind", .str "bytecode_module"),
  ("version", .num module.version.toNat),
  ("function_count", .num module.functions.length),
  ("total_code_bytes", .num (module.functions.map (·.code.length)).sum),
  ("total_constants", .num (module.functions.map (·.constants.length)).sum),
  ("total_source_map_entries", .num (module.functions.map (·.sourceMap.length)).sum),
  ("functions_with_source_map", .num (module.functions.filter (!·.sourceMap.isEmpty)).length),
  ("functions", .arr (module.functions.map fun function => .obj (functionSummary function)))]

/-- `summary["functions"][index][key]`. -/
def functionField (summary : Json) (index : Nat) (key : String) : Option Json :=
  match summary with
  | .obj members =>
      match Json.field? members "functions" with
      | some (.arr functions) =>
          match functions[index]? with
          | some (.obj members) => Json.field? members key
          | _ => none
      | _ => none
  | _ => none

/-- The flags of a function, with the opcode that each is about. -/
def flags : List (String × OpCode) :=
  [("uses_call_static", .callStatic), ("uses_get_field", .getField), ("uses_set_field", .setField)]

theorem functionField_flag {module : BytecodeModule} {index : Nat} {function : BytecodeFunction}
    (found : module.functions[index]? = some function) {flag : String × OpCode} (isFlag : flag ∈ flags) :
    functionField (bytecodeSummary module) index flag.1 = some (.bool (usesByte function flag.2)) := by
  have members : Json.field? (functionSummary function) flag.1 = some (.bool (usesByte function flag.2)) := by
    simp only [flags, List.mem_cons, List.not_mem_nil, or_false] at isFlag
    rcases isFlag with rfl | rfl | rfl <;> rfl
  have entry : (module.functions.map fun function => Json.obj (functionSummary function))[index]? =
      some (.obj (functionSummary function)) := by
    rw [List.getElem?_map, found]
    rfl
  have listed : functionField (bytecodeSummary module) index flag.1 =
      match (module.functions.map fun function => Json.obj (functionSummary function))[index]? with
      | some (.obj members) => Json.field? members flag.1
      | _ => none := rfl
  rw [listed, entry]
  exact members

/-!
## Exact flags
-/

/-- An instruction at one of the validator's boundaries has the opcode. -/
def Uses (function : BytecodeFunction) (opcode : OpCode) : Prop :=
  ∃ starts, function.scanInstructions 0 = .ok starts ∧
    ∃ start ∈ starts, OpCode.fromByte (byteAt function.code start) = some opcode

/-- A byte between the boundaries has the value of the opcode. -/
def OperandByte (function : BytecodeFunction) (opcode : OpCode) : Prop :=
  ∃ starts, function.scanInstructions 0 = .ok starts ∧
    ∃ pos, pos < function.code.length ∧ pos ∉ starts ∧ byteAt function.code pos = opcode.toByte

theorem byteAt_eq {code : Bytes} {pos : Nat} (inside : pos < code.length) : byteAt code pos = code[pos] := by
  unfold byteAt
  rw [List.getD_eq_getElem?_getD, List.getElem?_eq_getElem inside]
  rfl

theorem usesByte_iff (function : BytecodeFunction) (opcode : OpCode) :
    usesByte function opcode = true ↔
      ∃ pos, pos < function.code.length ∧ byteAt function.code pos = opcode.toByte := by
  unfold usesByte
  rw [List.contains_iff_mem, List.mem_iff_getElem]
  constructor
  · intro ⟨pos, inside, same⟩
    exact ⟨pos, inside, (byteAt_eq inside).trans same⟩
  · intro ⟨pos, inside, same⟩
    exact ⟨pos, inside, (byteAt_eq inside).symm.trans same⟩

/-- The flag of an accepted function also stands for operand bytes. -/
theorem usesByte_valid {function : BytecodeFunction} (valid : function.validateBytecode = .ok ()) (opcode : OpCode) :
    usesByte function opcode = true ↔ Uses function opcode ∨ OperandByte function opcode := by
  obtain ⟨starts, scanned, _⟩ := BytecodeFunction.validateBytecode_spec valid
  obtain ⟨_, closed⟩ := BytecodeFunction.scanInstructions_spec (Nat.zero_le _) scanned
  rw [usesByte_iff]
  constructor
  · intro ⟨pos, inside, same⟩
    by_cases boundary : pos ∈ starts
    · left
      refine ⟨starts, scanned, pos, boundary, ?_⟩
      rw [same]
      exact OpCode.fromByte_toByte opcode
    · right
      exact ⟨starts, scanned, pos, inside, boundary, same⟩
  · intro either
    rcases either with ⟨known, same, start, member, decoded⟩ | ⟨_, _, pos, inside, _, same⟩
    · cases scanned.symm.trans same
      obtain ⟨_, found, _⟩ := closed start member
      exact ⟨start, found.inside, OpCode.eq_toByte_of_fromByte decoded⟩
    · exact ⟨pos, inside, same⟩

/-- What the summary is expected to say of the functions of a module. -/
def FlagsExact (module : BytecodeModule) : Prop :=
  ∀ index function, module.functions[index]? = some function → ∀ flag ∈ flags,
    functionField (bytecodeSummary module) index flag.1 = some (.bool true) ↔ Uses function flag.2

/-- No operand byte has the value of an opcode with a flag, unless an instruction has that opcode. -/
def OperandsClear (module : BytecodeModule) : Prop :=
  ∀ function ∈ module.functions, ∀ flag ∈ flags, OperandByte function flag.2 → Uses function flag.2

/-- The flags of a module that `validate` accepts are exact if and only if its operand bytes do not pass
for opcodes that are not there. -/
theorem flags_exact_iff {module : BytecodeModule} (valid : module.validate = .ok ()) :
    FlagsExact module ↔ OperandsClear module := by
  have accepted : ∀ function ∈ module.functions, function.validateBytecode = .ok () :=
    validateFunctions_mem (Foundation.except_bind_eq_ok.mp valid).choose_spec.2
  constructor
  · intro exact function member flag isFlag operand
    obtain ⟨index, found⟩ := List.mem_iff_getElem?.mp member
    apply (exact index function found flag isFlag).mp
    rw [functionField_flag found isFlag, (usesByte_valid (accepted function member) flag.2).mpr (.inr operand)]
  · intro clear index function found flag isFlag
    have member := List.mem_of_getElem? found
    rw [functionField_flag found isFlag, Option.some.injEq, Json.bool.injEq,
      usesByte_valid (accepted function member)]
    constructor
    · intro either
      cases either with
      | inl uses => exact uses
      | inr operand => exact clear function member flag isFlag operand
    · exact .inl

/-- A module whose operand bytes are zero. -/
theorem callsOriginal_flags : FlagsExact BytecodeModule.callsOriginal := by
  apply (flags_exact_iff BytecodeModule.callsOriginal_valid).mpr
  intro function member flag isFlag ⟨_, _, pos, inside, _, same⟩
  have unused : ∀ function ∈ BytecodeModule.callsOriginal.functions, ∀ flag ∈ flags,
      usesByte function flag.2 = false := by decide
  have used := (usesByte_iff function flag.2).mpr ⟨pos, inside, same⟩
  rw [unused function member flag isFlag] at used
  cases used

/-- `LoadArg 67`, whose operand has the value of `GetField`. -/
def loadsArgument : BytecodeFunction where
  name := "last"
  returnConvention := "tagged"
  asyncKind := .sync
  paramCount := 68
  localCount := 68
  constants := []
  code := [0x02, 0x43, 0xff]
  sourceMap := []
  debugLocals := []

theorem loadsArgument_scanned : loadsArgument.scanInstructions 0 = .ok [0, 2] := by
  simp [loadsArgument, BytecodeFunction.scanInstructions, byteAt, OpCode.fromByte, OpCode.operandLen,
    BytecodeFunction.checkOperands, bind, Except.bind]

/-- It has no `GetField`, and its flag says that it has one. -/
theorem operand_sets_flag :
    (BytecodeModule.mk 3 [loadsArgument]).validate = .ok () ∧
      ¬ FlagsExact (BytecodeModule.mk 3 [loadsArgument]) := by
  constructor
  · have envelope : (BytecodeModule.mk 3 [loadsArgument]).validateEnvelope = .ok () := by decide
    have functions : validateFunctions [loadsArgument] = .ok () := by
      simp [validateFunctions, BytecodeFunction.validateBytecode, loadsArgument_scanned]
      simp [loadsArgument, BytecodeFunction.checkTargets, byteAt, OpCode.fromByte, OpCode.operandLen,
        BytecodeFunction.checkTarget, bind, Except.bind]
    exact Foundation.except_bind_eq_ok.mpr ⟨(), envelope, functions⟩
  · intro exact
    have reported : functionField (bytecodeSummary ⟨3, [loadsArgument]⟩) 0 "uses_get_field" = some (.bool true) :=
      rfl
    obtain ⟨starts, scanned, start, member, decoded⟩ :=
      (exact 0 loadsArgument rfl ("uses_get_field", .getField) (by decide)).mp reported
    cases scanned.symm.trans loadsArgument_scanned
    have absent : ∀ start ∈ [0, 2], OpCode.fromByte (byteAt loadsArgument.code start) ≠ some .getField := by
      decide
    exact absent start member decoded

end CodePush.Cli
