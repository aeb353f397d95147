import CodePush.Bytecode.Module
import CodePush.Compiler.Ir

/-!
# Modules as JSON

The values that a module map of the tool is made of and what `serde` reads from
them: the derived `Deserialize` of the types in `crates/fcb_core/src/bytecode.rs`.
A double is its bits.
-/

set_option autoImplicit false

namespace CodePush.Bytecode

open CodePush.Core

/-!
## Doubles
-/

/-- A number of the given size divided by `2 ^ shift`, ties to even. -/
def roundedShift (magnitude shift : Nat) : Nat :=
  let quotient := magnitude / 2 ^ shift
  let remainder := magnitude % 2 ^ shift
  let half := 2 ^ (shift - 1)
  if half < remainder ∨ (remainder = half ∧ quotient % 2 = 1) then quotient + 1 else quotient

/-- The bits of the nearest double, as `num.toDouble` and `as f64` round. -/
def doubleOfInt (value : Int64) : UInt64 :=
  let magnitude := value.toInt.natAbs
  if magnitude = 0 then 0
  else
    let exponent := magnitude.log2
    let significand :=
      if exponent ≤ 52 then magnitude * 2 ^ (52 - exponent)
      else roundedShift magnitude (exponent - 52)
    -- The leading bit of the significand, and a carry out of it, add to the exponent.
    let bits := (exponent + 1022) * 2 ^ 52 + significand
    UInt64.ofNat (if value.toInt < 0 then 2 ^ 63 + bits else bits)

/-- `double.toInt`: truncated and clamped to 64 bits; no integer for infinities and NaN. -/
def intOfDouble (bits : UInt64) : Option Int64 :=
  let exponent := bits.toNat / 2 ^ 52 % 2 ^ 11
  let fraction := bits.toNat % 2 ^ 52
  if exponent = 2047 then none
  else
    -- A subnormal is less than one, with or without the leading bit.
    let significand := 2 ^ 52 + fraction
    let magnitude :=
      if exponent < 1075 then significand / 2 ^ (1075 - exponent)
      else significand * 2 ^ (exponent - 1075)
    some (if bits.toNat < 2 ^ 63 then Int64.ofNat (min magnitude (2 ^ 63 - 1))
      else Int64.ofInt (-Int.ofNat (min magnitude (2 ^ 63))))

/-- A whole number below `2 ^ 53` is exact; the next odd one goes to its even neighbour. -/
example : doubleOfInt 1 = 0x3ff0000000000000 ∧ doubleOfInt 9007199254740993 = 0x4340000000000000 ∧
    intOfDouble (doubleOfInt (-7)) = some (-7) := by
  decide

/-!
## Values
-/

/-- A Dart value that `jsonEncode` takes. Entries of a map stand in the order they
were inserted, one for a key. -/
abbrev JsonValue := Compiler.Object

abbrev JsonMap := List (String × JsonValue)

/-- `map[key]`; a key that is absent and one that holds null are apart. -/
def JsonMap.get? (entries : JsonMap) (key : String) : Option JsonValue :=
  (entries.find? (·.1 == key)).map (·.2)

/-!
## Deserialization

Only the part of the texts of `serde` that does not depend on the position in the
input is kept. A struct is also accepted as the array of its fields; the tool
writes none, and refuses one where it expects a map.
-/

namespace JsonValue

def readString : JsonValue → Result String
  | .string value => .ok value
  | _ => .error (.json "invalid type: expected a string")

def readBool : JsonValue → Result Bool
  | .bool value => .ok value
  | _ => .error (.json "invalid type: expected a boolean")

/-- An unsigned integer of `width` bits. A double is refused, whole or not. -/
def readUnsigned (width : Nat) : JsonValue → Result Nat
  | .int value =>
      if 0 ≤ value.toInt ∧ value.toInt < 2 ^ width then .ok value.toInt.toNat
      else .error (.json s!"invalid value: integer {value}, expected u{width}")
  | _ => .error (.json s!"invalid type: expected u{width}")

def readU8 (value : JsonValue) : Result UInt8 := (value.readUnsigned 8).map UInt8.ofNat

def readU16 (value : JsonValue) : Result UInt16 := (value.readUnsigned 16).map UInt16.ofNat

def readU32 (value : JsonValue) : Result UInt32 := (value.readUnsigned 32).map UInt32.ofNat

def readI64 : JsonValue → Result Int64
  | .int value => .ok value
  | _ => .error (.json "invalid type: expected i64")

/-- An integer is taken for a double and rounded. -/
def readF64 : JsonValue → Result UInt64
  | .double bits => .ok bits
  | .int value => .ok (doubleOfInt value)
  | _ => .error (.json "invalid type: expected f64")

def readUnit : JsonValue → Result Unit
  | .null => .ok ()
  | _ => .error (.json "invalid type: expected unit variant Constant::Null")

def readList {α : Type} (read : JsonValue → Result α) : JsonValue → Result (List α)
  | .list items => items.mapM read
  | _ => .error (.json "invalid type: expected a sequence")

def readMap {α : Type} (read : JsonMap → Result α) : JsonValue → Result α
  | .map entries => read entries
  | _ => .error (.json "invalid type: expected a map")

/-- The name of a variant without content: the text, or a map from it to null. -/
def readVariant : JsonValue → Result String
  | .string name => .ok name
  | .map [(name, .null)] => .ok name
  | _ => .error (.json "invalid type: expected string or map")

end JsonValue

namespace JsonMap

variable {α : Type}

def required (read : JsonValue → Result α) (entries : JsonMap) (key : String) : Result α :=
  match entries.get? key with
  | some value => read value
  | none => .error (.json s!"missing field `{key}`")

/-- `#[serde(default)]`: the default stands for an absent member, not for a null one. -/
def defaulted (default : α) (read : JsonValue → Result α) (entries : JsonMap) (key : String) :
    Result α :=
  match entries.get? key with
  | some value => read value
  | none => .ok default

end JsonMap

def AsyncKind.fromJson (value : JsonValue) : Result AsyncKind := do
  match ← value.readVariant with
  | "sync" => .ok .sync
  | "async_future" => .ok .asyncFuture
  | "async_star" => .ok .asyncStar
  | "sync_star" => .ok .syncStar
  | other => .error (.json s!"unknown variant `{other}`")

/-- `#[serde(tag = "type", content = "value")]`. -/
def Constant.fromMap (entries : JsonMap) : Result Constant := do
  match ← entries.required JsonValue.readVariant "type" with
  | "Int" => (entries.required JsonValue.readI64 "value").map .int
  | "Double" => (entries.required JsonValue.readF64 "value").map .double
  | "Bool" => (entries.required JsonValue.readBool "value").map .bool
  | "String" => (entries.required JsonValue.readString "value").map .string
  | "Null" => (entries.defaulted () JsonValue.readUnit "value").map fun _ => .null
  | other => .error (.json s!"unknown variant `{other}`")

def SourceMapEntry.fromMap (entries : JsonMap) : Result SourceMapEntry := do
  let bytecodeOffset ← entries.required JsonValue.readU32 "bytecode_offset"
  let sourceLocation ← entries.required JsonValue.readString "source_location"
  .ok { bytecodeOffset, sourceLocation }

def DebugLocalEntry.fromMap (entries : JsonMap) : Result DebugLocalEntry := do
  let slot ← entries.required JsonValue.readU16 "slot"
  let name ← entries.required JsonValue.readString "name"
  .ok { slot, name }

def BytecodeFunction.fromMap (entries : JsonMap) : Result BytecodeFunction := do
  let name ← entries.required JsonValue.readString "name"
  let returnConvention ← entries.defaulted "tagged" JsonValue.readString "return_convention"
  let asyncKind ← entries.defaulted .sync AsyncKind.fromJson "async_kind"
  let paramCount ← entries.required JsonValue.readU8 "param_count"
  let localCount ← entries.required JsonValue.readU8 "local_count"
  let constants ←
    entries.required (JsonValue.readList (JsonValue.readMap Constant.fromMap)) "constants"
  let code ← entries.required (JsonValue.readList JsonValue.readU8) "code"
  let sourceMap ← entries.defaulted []
    (JsonValue.readList (JsonValue.readMap SourceMapEntry.fromMap)) "source_map"
  let debugLocals ← entries.defaulted []
    (JsonValue.readList (JsonValue.readMap DebugLocalEntry.fromMap)) "debug_locals"
  .ok { name, returnConvention, asyncKind, paramCount, localCount, constants, code, sourceMap,
        debugLocals }

def BytecodeModule.fromMap (entries : JsonMap) : Result BytecodeModule := do
  let version ← entries.required JsonValue.readU32 "version"
  let functions ←
    entries.required (JsonValue.readList (JsonValue.readMap BytecodeFunction.fromMap)) "functions"
  .ok { version, functions }

def BytecodeModule.fromJson : JsonValue → Result BytecodeModule :=
  JsonValue.readMap BytecodeModule.fromMap

end CodePush.Bytecode
