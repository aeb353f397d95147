import CodePush.Bytecode.BinaryProperties
import CodePush.Bytecode.ModuleJson

/-!
# The module writer of the tool

`tool/fcb_binary_module_writer.dart`: the binary form of a module map of any
version and shape. The compiler's own model of the writer is the case of the maps
that the compiler builds.
-/

set_option autoImplicit false

namespace CodePush.Bytecode

open CodePush.Core CodePush.Foundation

/-!
## Dart
-/

/-- How the tool ends without a result. -/
inductive Stop where
  /-- A line on `stderr`, then `exit(2)`. -/
  | exit (message : String)
  /-- A cast with `as` that fails. -/
  | typeError
  /-- `toInt` of an infinity or NaN. -/
  | unsupported
  deriving Repr, DecidableEq

mutual

/-- `toString`; `doubleText` is that of `double`. -/
def JsonValue.toText (doubleText : UInt64 → String) : JsonValue → String
  | .null => "null"
  | .bool value => if value then "true" else "false"
  | .int value => toString value.toInt
  | .double bits => doubleText bits
  | .string value => value
  | .list items => "[" ++ ", ".intercalate (itemTexts doubleText items) ++ "]"
  | .map entries => "\x7b" ++ ", ".intercalate (entryTexts doubleText entries) ++ "\x7d"

def itemTexts (doubleText : UInt64 → String) : List JsonValue → List String
  | [] => []
  | item :: items => item.toText doubleText :: itemTexts doubleText items

def entryTexts (doubleText : UInt64 → String) : List (String × JsonValue) → List String
  | [] => []
  | (key, value) :: entries =>
      (key ++ ": " ++ value.toText doubleText) :: entryTexts doubleText entries

end

namespace JsonMap

/-- `map[key] as int? ?? absent`. -/
def intOr (absent : Int) (entries : JsonMap) (key : String) : Except Stop Int :=
  match entries.get? key with
  | none | some .null => .ok absent
  | some (.int value) => .ok value.toInt
  | some _ => .error .typeError

/-- `(map[key] as num?)?.toInt() ?? 0`. -/
def numToInt (entries : JsonMap) (key : String) : Except Stop Int64 :=
  match entries.get? key with
  | none | some .null => .ok 0
  | some (.int value) => .ok value
  | some (.double bits) =>
      match intOfDouble bits with
      | some value => .ok value
      | none => .error .unsupported
  | some _ => .error .typeError

/-- `(map[key] as num?)?.toDouble() ?? 0`. -/
def numToDouble (entries : JsonMap) (key : String) : Except Stop UInt64 :=
  match entries.get? key with
  | none | some .null => .ok 0
  | some (.int value) => .ok (doubleOfInt value)
  | some (.double bits) => .ok bits
  | some _ => .error .typeError

/-- `map[key]?.toString() ?? absent`. -/
def textOr (doubleText : UInt64 → String) (absent : String) (entries : JsonMap) (key : String) :
    String :=
  match entries.get? key with
  | none | some .null => absent
  | some value => value.toText doubleText

/-- `map[key] == true`. -/
def isTrue (entries : JsonMap) (key : String) : Bool :=
  match entries.get? key with
  | some (.bool value) => value
  | _ => false

def listOrExit (message : String) (entries : JsonMap) (key : String) :
    Except Stop (List JsonValue) :=
  match entries.get? key with
  | some (.list items) => .ok items
  | _ => .error (.exit message)

/-- `map[key] is List ? map[key] : const []`. -/
def listOrEmpty (entries : JsonMap) (key : String) : List JsonValue :=
  match entries.get? key with
  | some (.list items) => items
  | _ => []

end JsonMap

def JsonValue.mapOrExit (message : String) : JsonValue → Except Stop JsonMap
  | .map entries => .ok entries
  | _ => .error (.exit message)

/-!
## Writing
-/

namespace BinaryModuleWriter

def u8 (value : Int) : Except Stop Bytes :=
  if value < 0 ∨ value > 0xff then .error (.exit "binary value exceeds u8 range")
  else .ok (bigEndian 1 value.toNat)

def u16 (label : String) (value : Int) : Except Stop Bytes :=
  if value < 0 ∨ value > 0xffff then .error (.exit s!"{label} exceeds u16 range")
  else .ok (bigEndian 2 value.toNat)

def u32 (value : Int) : Except Stop Bytes :=
  if value < 0 ∨ value > 0xffffffff then .error (.exit "binary value exceeds u32 range")
  else .ok (bigEndian 4 value.toNat)

def i64 (value : Int64) : Bytes := bigEndian 8 value.toUInt64.toNat

def f64 (bits : UInt64) : Bytes := bigEndian 8 bits.toNat

def string (label value : String) : Except Stop Bytes := do
  let length ← u16 label (stringBytes value).length
  .ok (length ++ stringBytes value)

/-- A count and the items. -/
def counted (label : String) (write : Foundation.Writer Stop JsonValue) (items : List JsonValue) :
    Except Stop Bytes := do
  let count ← u16 label items.length
  let body ← writeAll write items
  .ok (count ++ body)

variable (doubleText : UInt64 → String)

def constant (entries : JsonMap) : Except Stop Bytes :=
  match entries.get? "type" with
  | some (.string "Null") => u8 0
  | some (.string "Int") => do
      let tag ← u8 1
      let value ← entries.numToInt "value"
      .ok (tag ++ i64 value)
  | some (.string "Double") => do
      let tag ← u8 2
      let value ← entries.numToDouble "value"
      .ok (tag ++ f64 value)
  | some (.string "Bool") => do
      let tag ← u8 3
      let value ← u8 (if entries.isTrue "value" then 1 else 0)
      .ok (tag ++ value)
  | some (.string "String") => do
      let tag ← u8 4
      let value ← string "string constant" (entries.textOr doubleText "" "value")
      .ok (tag ++ value)
  | other =>
      let type := (other.getD .null).toText doubleText
      .error (.exit s!"unsupported bytecode constant type {type}")

def returnConvention (value : String) : Except Stop Int :=
  match value with
  | "tagged" => .ok 0
  | "unboxed_int64" => .ok 1
  | value => .error (.exit s!"unsupported return_convention {value}")

def asyncKind (value : String) : Except Stop Int :=
  match value with
  | "sync" => .ok 0
  | "async_future" => .ok 1
  | "async_star" => .ok 2
  | "sync_star" => .ok 3
  | value => .error (.exit s!"unsupported async_kind {value}")

def codeByte : Foundation.Writer Stop JsonValue
  | .int value =>
      if value.toInt < 0 ∨ value.toInt > 255 then
        .error (.exit "bytecode code byte exceeds u8 range")
      else u8 value.toInt
  | _ => .error (.exit "bytecode code byte exceeds u8 range")

def sourceMapEntry : Foundation.Writer Stop JsonValue := fun entry => do
  let entries ← entry.mapOrExit "source_map entry must be an object"
  let bytecodeOffset ← entries.numToInt "bytecode_offset"
  let offset ← u32 bytecodeOffset.toInt
  let location ← string "source location" (entries.textOr doubleText "" "source_location")
  .ok (offset ++ location)

def debugLocalEntry : Foundation.Writer Stop JsonValue := fun entry => do
  let entries ← entry.mapOrExit "debug_locals entry must be an object"
  let number ← entries.numToInt "slot"
  let slot ← u16 "debug local slot" number.toInt
  let name ← string "debug local name" (entries.textOr doubleText "" "name")
  .ok (slot ++ name)

/-- Nothing for a version that has no asynchronous kinds. -/
def asyncKindSince3 (version : Int) (entries : JsonMap) : Except Stop Bytes :=
  if version ≥ 3 then do
    let kind ← asyncKind (entries.textOr doubleText "sync" "async_kind")
    u8 kind
  else .ok []

/-- Nothing for a version that has no debug locals. -/
def debugLocalsSince2 (version : Int) (entries : JsonMap) : Except Stop Bytes :=
  if version ≥ 2 then
    counted "debug locals count" (debugLocalEntry doubleText) (entries.listOrEmpty "debug_locals")
  else .ok []

/-- The body of the loop over functions. -/
def function (version : Int) : Foundation.Writer Stop JsonValue := fun item => do
  let entries ← item.mapOrExit "bytecode module function must be an object"
  let name ← string "function name" (entries.textOr doubleText "" "name")
  let conventionByte ← returnConvention (entries.textOr doubleText "tagged" "return_convention")
  let convention ← u8 conventionByte
  let kind ← asyncKindSince3 doubleText version entries
  let params ← entries.intOr 0 "param_count"
  let paramCount ← u8 params
  let locals ← entries.intOr 0 "local_count"
  let localCount ← u8 locals
  let constantItems ← entries.listOrExit "bytecode function constants must be a list" "constants"
  let constants ← counted "constant count" (fun item => do
    let entries ← item.mapOrExit "bytecode constant must be an object"
    constant doubleText entries) constantItems
  let codeItems ← entries.listOrExit "bytecode function code must be a list" "code"
  let codeLength ← u32 codeItems.length
  let code ← writeAll codeByte codeItems
  let sourceMap ← counted "source map count" (sourceMapEntry doubleText)
    (entries.listOrEmpty "source_map")
  let debugLocals ← debugLocalsSince2 doubleText version entries
  .ok (name ++ (convention ++ (kind ++ (paramCount ++ (localCount ++ (constants ++
    (codeLength ++ (code ++ (sourceMap ++ debugLocals)))))))))

end BinaryModuleWriter

open BinaryModuleWriter in
def encodeBinaryModule (doubleText : UInt64 → String) (module : JsonMap) : Except Stop Bytes := do
  let number ← module.intOr 3 "version"
  let version ← u32 number
  let functions ← module.listOrExit "bytecode module functions must be a list" "functions"
  let body ← counted "function count" (function doubleText number) functions
  .ok (binaryMagic ++ (version ++ body))

end CodePush.Bytecode
