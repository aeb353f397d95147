import CodePush.Bytecode.Validation
import CodePush.Foundation.ByteFormat

/-!
# The binary module format

`read_binary`, `to_binary_vec` and their helpers, as in
`crates/fcb_core/src/bytecode.rs`. The reader's position is the unread rest of
the input; the writer's buffer is the concatenation of what each step appends.
-/

set_option autoImplicit false

namespace CodePush.Bytecode

open CodePush.Core CodePush.Foundation

/-!
## Writing
-/

def writeU16 (label : String) : Foundation.Writer Error Nat := fun value =>
  if value ≥ 2 ^ 16 then err s!"{label} exceeds u16 range"
  else .ok (bigEndian 2 value)

def writeU32 (label : String) : Foundation.Writer Error Nat := fun value =>
  if value ≥ 2 ^ 32 then err s!"{label} exceeds u32 range"
  else .ok (bigEndian 4 value)

def writeString (label : String) : Foundation.Writer Error String := fun value => do
  let length ← writeU16 label (stringBytes value).length
  .ok (length ++ stringBytes value)

def writeConstant : Foundation.Writer Error Constant
  | .null => .ok [0]
  | .int value => .ok (1 :: bigEndian 8 value.toUInt64.toNat)
  | .double bits => .ok (2 :: bigEndian 8 bits.toNat)
  | .bool value => .ok [3, if value then 1 else 0]
  | .string value => do
      let body ← writeString "string constant" value
      .ok (4 :: body)

def writeSourceMapEntry : Foundation.Writer Error SourceMapEntry := fun entry => do
  let location ← writeString "source location" entry.sourceLocation
  .ok (bigEndian 4 entry.bytecodeOffset.toNat ++ location)

def writeDebugLocalEntry : Foundation.Writer Error DebugLocalEntry := fun entry => do
  let name ← writeString "debug local name" entry.name
  .ok (bigEndian 2 entry.slot.toNat ++ name)

/-- A 16-bit count and the items. -/
def writeCounted {α : Type} (label : String) (write : Foundation.Writer Error α) :
    Foundation.Writer Error (List α) :=
  fun items => do
    let count ← writeU16 label items.length
    let body ← writeAll write items
    .ok (count ++ body)

def writeCode : Foundation.Writer Error Bytes := fun code => do
  let length ← writeU32 "code length" code.length
  .ok (length ++ code)

def BytecodeFunction.returnConventionByte (function : BytecodeFunction) : Result UInt8 :=
  if function.returnConvention = "tagged" then .ok 0
  else if function.returnConvention = "unboxed_int64" then .ok 1
  else function.unsupportedReturnConvention

def AsyncKind.byte : AsyncKind → UInt8
  | .sync => 0
  | .asyncFuture => 1
  | .asyncStar => 2
  | .syncStar => 3

def writeFunction : Foundation.Writer Error BytecodeFunction := fun function => do
  let name ← writeString "function name" function.name
  let returnConvention ← function.returnConventionByte
  let constants ← writeCounted "constant count" writeConstant function.constants
  let code ← writeCode function.code
  let sourceMap ← writeCounted "source map count" writeSourceMapEntry function.sourceMap
  let debugLocals ← writeCounted "debug locals count" writeDebugLocalEntry function.debugLocals
  .ok (name ++ returnConvention :: function.asyncKind.byte :: function.paramCount ::
    function.localCount :: (constants ++ (code ++ (sourceMap ++ debugLocals))))

def BytecodeModule.toBinaryVec (module : BytecodeModule) : Result Bytes := do
  module.validate
  let functions ← writeCounted "function count" writeFunction module.functions
  .ok (binaryMagic ++ (bigEndian 4 formatVersion.toNat ++ functions))

/-!
## Reading
-/

namespace BinaryReader

/-- The position plus the length cannot overflow: both are lengths of buffers. -/
def bytes (len : Nat) : Reader Error Bytes :=
  Reader.take (.message "truncated FCB bytecode binary") len

def expectMagic (magic : Bytes) : Reader Error Unit := do
  let actual ← bytes magic.length
  if actual ≠ magic then Reader.fail (.message "invalid FCB bytecode binary magic") else pure ()

def u8 : Reader Error UInt8 := do
  let word ← bytes 1
  pure (UInt8.ofNat (ofBigEndian word))

def u16 : Reader Error UInt16 := do
  let word ← bytes 2
  pure (UInt16.ofNat (ofBigEndian word))

def u32 : Reader Error UInt32 := do
  let word ← bytes 4
  pure (UInt32.ofNat (ofBigEndian word))

def i64 : Reader Error Int64 := do
  let word ← bytes 8
  pure (UInt64.ofNat (ofBigEndian word)).toInt64

/-- The bits of the `f64`. -/
def f64 : Reader Error UInt64 := do
  let word ← bytes 8
  pure (UInt64.ofNat (ofBigEndian word))

def string : Reader Error String := do
  let len ← u16
  let text ← bytes len.toNat
  StateT.lift (stringFromUtf8 text)

def boolOfByte (byte : UInt8) : Result Bool :=
  match byte.toNat with
  | 0 => .ok false
  | 1 => .ok true
  | other => err s!"invalid bool constant byte {other}"

def bool : Reader Error Bool := do
  let byte ← u8
  StateT.lift (boolOfByte byte)

def constant : Reader Error Constant := do
  let tag ← u8
  match tag.toNat with
  | 0 => pure .null
  | 1 => do
      let value ← i64
      pure (.int value)
  | 2 => do
      let bits ← f64
      pure (.double bits)
  | 3 => do
      let value ← bool
      pure (.bool value)
  | 4 => do
      let value ← string
      pure (.string value)
  | other => Reader.fail (.message s!"unsupported binary constant tag {other}")

def returnConventionOfByte (byte : UInt8) : Result String :=
  match byte.toNat with
  | 0 => .ok "tagged"
  | 1 => .ok "unboxed_int64"
  | other => err s!"unsupported binary return convention {other}"

def returnConvention : Reader Error String := do
  let byte ← u8
  StateT.lift (returnConventionOfByte byte)

def asyncKindOfByte (byte : UInt8) : Result AsyncKind :=
  match byte.toNat with
  | 0 => .ok .sync
  | 1 => .ok .asyncFuture
  | 2 => .ok .asyncStar
  | 3 => .ok .syncStar
  | other => err s!"unsupported binary async kind {other}"

def asyncKind : Reader Error AsyncKind := do
  let byte ← u8
  StateT.lift (asyncKindOfByte byte)

def sourceMapEntry : Reader Error SourceMapEntry := do
  let bytecodeOffset ← u32
  let sourceLocation ← string
  pure { bytecodeOffset, sourceLocation }

def debugLocalEntry : Reader Error DebugLocalEntry := do
  let slot ← u16
  let name ← string
  pure { slot, name }

def counted {α : Type} (read : Reader Error α) : Reader Error (List α) := do
  let count ← u16
  Reader.replicate count.toNat read

def code : Reader Error Bytes := do
  let codeLen ← u32
  bytes codeLen.toNat

/-- The body of the loop over functions. Asynchronous kinds came with version 3 and
debug locals with version 2; an older module has neither in its bytes. -/
def function (version : UInt32) : Reader Error BytecodeFunction := do
  let name ← string
  let returnConvention ← returnConvention
  let asyncKind ← if version ≥ 3 then asyncKind else pure .sync
  let paramCount ← u8
  let localCount ← u8
  let constants ← counted constant
  let code ← code
  let sourceMap ← counted sourceMapEntry
  let debugLocals ← if version ≥ 2 then counted debugLocalEntry else pure []
  pure { name, returnConvention, asyncKind, paramCount, localCount, constants, code, sourceMap,
         debugLocals }

def module : Reader Error BytecodeModule := do
  expectMagic binaryMagic
  let version ← u32
  let functions ← counted (function version)
  pure { version, functions }

end BinaryReader

namespace BytecodeModule

def readBinary (bytes : Bytes) : Result BytecodeModule := do
  let (module, rest) ← BinaryReader.module bytes
  if !rest.isEmpty then err "trailing FCB bytecode binary data" else .ok module

def fromBinary (bytes : Bytes) : Result BytecodeModule := do
  let module ← readBinary bytes
  module.validate
  .ok module

def fromBinaryEnvelope (bytes : Bytes) : Result BytecodeModule := do
  let module ← readBinary bytes
  module.validateEnvelope
  .ok module

/-- `json` is `serde_json::from_slice` at this type. -/
def fromSlice (json : Bytes → Result BytecodeModule) (bytes : Bytes) : Result BytecodeModule :=
  if binaryMagic.isPrefixOf bytes then fromBinary bytes
  else do
    let module ← json bytes
    module.validate
    .ok module

def fromSliceEnvelope (json : Bytes → Result BytecodeModule) (bytes : Bytes) :
    Result BytecodeModule :=
  if binaryMagic.isPrefixOf bytes then fromBinaryEnvelope bytes
  else do
    let module ← json bytes
    module.validateEnvelope
    .ok module

end BytecodeModule

end CodePush.Bytecode
