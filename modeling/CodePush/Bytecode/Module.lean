import CodePush.Core.Basic

/-!
# Bytecode modules

The opcodes, the module container and its envelope check, as in
`crates/fcb_core/src/bytecode.rs`. Doubles are their bit patterns, so equality
of constants is equality of bits.
-/

set_option autoImplicit false

namespace CodePush.Bytecode

open CodePush.Core

def formatVersion : UInt32 := 3
def minSupportedModuleVersion : UInt32 := 1
/-- `b"FCBM"`. -/
def binaryMagic : Bytes := [0x46, 0x43, 0x42, 0x4d]

inductive OpCode where
  | loadConst | loadArg | loadLocal | storeLocal | pop
  | add | sub | mul | div | greater | equal
  | jump | jumpIfFalse | jumpIfTrue
  | makeList | makeMap | stringConcat | getField | setField | isType | asType
  | callStatic | callDynamic | callOriginal | callClosure | makeClosure | newObject
  | throw | tryBegin | await | asyncReturn | yield | tryFinally | endFinally | rethrow
  | return
  deriving Repr, DecidableEq

namespace OpCode

def fromByte (byte : UInt8) : Option OpCode :=
  match byte.toNat with
  | 0x01 => some .loadConst
  | 0x02 => some .loadArg
  | 0x03 => some .loadLocal
  | 0x04 => some .storeLocal
  | 0x05 => some .pop
  | 0x10 => some .add
  | 0x11 => some .sub
  | 0x12 => some .mul
  | 0x13 => some .div
  | 0x20 => some .greater
  | 0x21 => some .equal
  | 0x30 => some .jump
  | 0x31 => some .jumpIfFalse
  | 0x32 => some .jumpIfTrue
  | 0x40 => some .makeList
  | 0x41 => some .makeMap
  | 0x42 => some .stringConcat
  | 0x43 => some .getField
  | 0x44 => some .setField
  | 0x45 => some .isType
  | 0x46 => some .asType
  | 0x50 => some .callStatic
  | 0x51 => some .callDynamic
  | 0x52 => some .callOriginal
  | 0x53 => some .callClosure
  | 0x54 => some .makeClosure
  | 0x55 => some .newObject
  | 0x60 => some .throw
  | 0x61 => some .tryBegin
  | 0x62 => some .await
  | 0x63 => some .asyncReturn
  | 0x64 => some .yield
  | 0x65 => some .tryFinally
  | 0x66 => some .endFinally
  | 0x67 => some .rethrow
  | 0xff => some .return
  | _ => none

def operandLen : OpCode → Nat
  | .loadConst | .jump | .jumpIfFalse | .jumpIfTrue | .makeList | .makeMap | .stringConcat
  | .getField | .setField | .isType | .asType | .makeClosure => 2
  | .callStatic | .callDynamic | .callOriginal | .callClosure | .newObject => 3
  | .tryBegin | .tryFinally => 4
  | .loadArg | .loadLocal | .storeLocal => 1
  | .pop | .add | .sub | .mul | .div | .greater | .equal | .throw | .await | .asyncReturn
  | .yield | .endFinally | .rethrow | .return => 0

/-- The `Debug` form, which the validator's messages print. -/
def debug : OpCode → String
  | .loadConst => "LoadConst"
  | .loadArg => "LoadArg"
  | .loadLocal => "LoadLocal"
  | .storeLocal => "StoreLocal"
  | .pop => "Pop"
  | .add => "Add"
  | .sub => "Sub"
  | .mul => "Mul"
  | .div => "Div"
  | .greater => "Greater"
  | .equal => "Equal"
  | .jump => "Jump"
  | .jumpIfFalse => "JumpIfFalse"
  | .jumpIfTrue => "JumpIfTrue"
  | .makeList => "MakeList"
  | .makeMap => "MakeMap"
  | .stringConcat => "StringConcat"
  | .getField => "GetField"
  | .setField => "SetField"
  | .isType => "IsType"
  | .asType => "AsType"
  | .callStatic => "CallStatic"
  | .callDynamic => "CallDynamic"
  | .callOriginal => "CallOriginal"
  | .callClosure => "CallClosure"
  | .makeClosure => "MakeClosure"
  | .newObject => "NewObject"
  | .throw => "Throw"
  | .tryBegin => "TryBegin"
  | .await => "Await"
  | .asyncReturn => "AsyncReturn"
  | .yield => "Yield"
  | .tryFinally => "TryFinally"
  | .endFinally => "EndFinally"
  | .rethrow => "Rethrow"
  | .return => "Return"

end OpCode

inductive AsyncKind where
  | sync | asyncFuture | asyncStar | syncStar
  deriving Repr, DecidableEq

/-- `double` carries the bits of the `f64`. -/
inductive Constant where
  | int (value : Int64)
  | double (bits : UInt64)
  | bool (value : Bool)
  | string (value : String)
  | null
  deriving Repr, DecidableEq

structure SourceMapEntry where
  bytecodeOffset : UInt32
  sourceLocation : String
  deriving Repr, DecidableEq

structure DebugLocalEntry where
  slot : UInt16
  name : String
  deriving Repr, DecidableEq

structure BytecodeFunction where
  name : String
  returnConvention : String
  asyncKind : AsyncKind
  paramCount : UInt8
  localCount : UInt8
  constants : List Constant
  code : Bytes
  sourceMap : List SourceMapEntry
  debugLocals : List DebugLocalEntry
  deriving Repr, DecidableEq

structure BytecodeModule where
  version : UInt32
  functions : List BytecodeFunction
  deriving Repr, DecidableEq

/-!
## Envelope
-/

namespace BytecodeFunction

def localCountSmall {α : Type} (function : BytecodeFunction) : Result α :=
  err s!"function {function.name} local_count {function.localCount} is smaller than param_count {function.paramCount}"

def unsupportedReturnConvention {α : Type} (function : BytecodeFunction) : Result α :=
  err s!"unsupported return_convention {function.returnConvention} for function {function.name}"

def emptyBytecode {α : Type} (function : BytecodeFunction) : Result α :=
  err s!"function {function.name} has empty bytecode"

def validateSourceMap (function : BytecodeFunction) : List SourceMapEntry → Result Unit
  | [] => .ok ()
  | entry :: entries =>
      if entry.bytecodeOffset.toNat ≥ function.code.length then
        err s!"source_map for function {function.name} targets out-of-range bytecode offset {entry.bytecodeOffset}"
      else if isBlank entry.sourceLocation then
        err s!"source_map for function {function.name} has empty source_location"
      else validateSourceMap function entries

def validateDebugLocals (function : BytecodeFunction) : List DebugLocalEntry → Result Unit
  | [] => .ok ()
  | entry :: entries =>
      if entry.slot.toNat ≥ function.paramCount.toNat + function.localCount.toNat then
        err s!"debug_locals for function {function.name} targets out-of-range slot {entry.slot}"
      else if isBlank entry.name then
        err s!"debug_locals for function {function.name} has empty name"
      else validateDebugLocals function entries

end BytecodeFunction

/-- The loop of `validate_envelope`; `names` holds the names already seen. -/
def validateEnvelopeFunctions (names : List String) : List BytecodeFunction → Result Unit
  | [] => .ok ()
  | function :: functions =>
      if isBlank function.name then err "bytecode function name must not be empty"
      else if function.returnConvention ≠ "tagged" ∧ function.returnConvention ≠ "unboxed_int64" then
        function.unsupportedReturnConvention
      else if function.name ∈ names then err s!"duplicate bytecode function {function.name}"
      else if function.localCount < function.paramCount then function.localCountSmall
      else if function.code.isEmpty then function.emptyBytecode
      else do
        function.validateSourceMap function.sourceMap
        function.validateDebugLocals function.debugLocals
        validateEnvelopeFunctions (function.name :: names) functions

def BytecodeModule.validateEnvelope (module : BytecodeModule) : Result Unit :=
  if module.version < minSupportedModuleVersion ∨ formatVersion < module.version then
    err s!"unexpected bytecode module version {module.version}, supported range {minSupportedModuleVersion}..={formatVersion}"
  else if module.functions.isEmpty then err "bytecode module must contain at least one function"
  else validateEnvelopeFunctions [] module.functions

end CodePush.Bytecode
