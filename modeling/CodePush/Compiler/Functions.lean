import CodePush.Bytecode.Binary
import CodePush.Compiler.Compiler

/-!
# Functions and modules

`_compileSourceFunction` and the part of `_compileModuleFromPlan` that collects its
results, as in `tool/fcb_kernel_manifest.dart`, and `encodeBinaryModule` of
`tool/fcb_binary_module_writer.dart`. Missing fields of a compiled function do not occur:
the compiler sets all that the writer reads.
-/

set_option autoImplicit false

namespace CodePush.Compiler

open CodePush.Core CodePush.Bytecode CodePush.Foundation

/-- A compiled function before it is encoded. -/
structure FunctionSpec where
  name : String
  returnConvention : String
  asyncKind : AsyncKind
  paramCount : Nat
  localCount : Nat
  constants : List ConstantSpec
  code : Bytes
  debugLocals : List (Nat × String)
  sourceMap : List (Nat × String)
  /-- Whether an operand did not fit its width. The source has no such field. -/
  wrapped : Bool

/-- `_returnConventionForSource`. -/
def returnConventionForSource (lib : DartLib) (source : List (String × Object)) : String :=
  match lib.text? (Object.get source "return_convention") with
  | some "tagged" => "tagged"
  | some "unboxed_int64" => "unboxed_int64"
  | _ =>
      if lib.text? (Object.get source "return_type") = some "int" then "unboxed_int64" else "tagged"

/-- A generator ends on a plain `return`. -/
def asyncKindForSource (lib : DartLib) (source : List (String × Object)) : AsyncKind :=
  let asyncKindSource := lib.text? (Object.get source "async_kind")
  let flag := fun key => Object.get source key = .bool true
  let isSyncStar := asyncKindSource = some "sync_star" ∨ flag "sync_star"
  let isAsyncStar := asyncKindSource = some "async_star" ∨ flag "async_star"
  let isAsyncFuture :=
    asyncKindSource = some "async_future" ∨ flag "async_future" ∨ flag "async_future_value"
  if isSyncStar then .syncStar
  else if isAsyncStar then .asyncStar
  else if isAsyncFuture then .asyncFuture
  else .sync

/-- `source['params'] as List? ?? const []`, as texts. -/
def sourceParams (lib : DartLib) (source : List (String × Object)) : Except String (List String) :=
  match Object.get source "params" with
  | .null => .ok []
  | .list items => .ok (items.map lib.text)
  | _ => .error "params is not a list"

/-- The body and the instruction that ends the function. -/
def compileBody (body : Expr) (asyncKind : AsyncKind) : Compile Unit := do
  compileExpr body
  op (if asyncKind = .asyncFuture then .asyncReturn else .return)

/-- An optional source location; a blank one is left out. -/
def sourceMapFor : Option String → List (Nat × String)
  | some location => if isDartBlank location then [] else [(0, location)]
  | none => []

def sourceName (source : List (String × Object)) : Except String String :=
  match Object.get source "name" with
  | .string name =>
      if isDartBlank name then .error "bytecode source function requires name and body" else .ok name
  | _ => .error "bytecode source function requires name and body"

def sourceBody (lib : DartLib) (source : List (String × Object)) : Except String Expr :=
  match Object.get source "body" with
  | .map members => exprOf lib members (Object.viewMembers lib members)
  | _ => .error "bytecode source function requires name and body"

def compileSourceFunction (lib : DartLib) (source : List (String × Object))
    (sourceLocation : Option String) : Except String FunctionSpec := do
  let params ← sourceParams lib source
  let name ← sourceName source
  if params.length > 255 then .error s!"bytecode function {name} has more than 255 parameters"
  else
    let body ← sourceBody lib source
    let asyncKind := asyncKindForSource lib source
    match compileBody body asyncKind (.start params) with
    | (.error message, _) => .error message
    | (.ok (), compiler) =>
        .ok {
          name
          returnConvention := returnConventionForSource lib source
          asyncKind
          paramCount := params.length
          localCount := compiler.localCount
          constants := compiler.constants
          code := compiler.code
          debugLocals := compiler.debugLocals
          sourceMap := sourceMapFor sourceLocation
          wrapped := compiler.wrapped }

/-- The functions of a plan in order, each with its source location. -/
def compileModule (lib : DartLib) (sources : List (List (String × Object) × Option String)) :
    Except String (List FunctionSpec) := do
  let compiled ← sources.mapM fun (source, location) => compileSourceFunction lib source location
  if compiled.isEmpty then .error "linker plan has no interpreted functions to compile"
  else .ok compiled

/-!
## The writer
-/

namespace BinaryModuleWriter

def u8 (value : Nat) : Except String Bytes :=
  if value > 0xff then .error "binary value exceeds u8 range" else .ok [UInt8.ofNat value]

def u16 (value : Nat) (label : String) : Except String Bytes :=
  if value > 0xffff then .error s!"{label} exceeds u16 range"
  else .ok [UInt8.ofNat (value / 256), UInt8.ofNat value]

def u32 (value : Nat) : Except String Bytes :=
  if value > 0xffffffff then .error "binary value exceeds u32 range"
  else .ok [UInt8.ofNat (value / 2 ^ 24), UInt8.ofNat (value / 2 ^ 16), UInt8.ofNat (value / 2 ^ 8),
    UInt8.ofNat value]

/-- `setInt64` and `setFloat64` of a big-endian `ByteData`. -/
def word64 (bits : UInt64) : Bytes := bigEndian 8 bits.toNat

def string (value label : String) : Except String Bytes := do
  let length ← u16 (stringBytes value).length label
  .ok (length ++ stringBytes value)

/-- `(value as num?)?.toInt() ?? 0`. -/
def intValue (lib : DartLib) : Object → Except String Int64
  | .null => .ok 0
  | .int value => .ok value
  | .double bits =>
      match lib.doubleToInt bits with
      | some value => .ok value
      | none => .error "unsupported operation: infinity or NaN toInt"
  | _ => .error "value is not a num"

/-- `(value as num?)?.toDouble() ?? 0`. -/
def doubleValue (lib : DartLib) : Object → Except String UInt64
  | .null => .ok 0
  | .int value => .ok (lib.intToDouble value)
  | .double bits => .ok bits
  | _ => .error "value is not a num"

def constant (lib : DartLib) (spec : ConstantSpec) : Except String Bytes :=
  match spec.type with
  | .null => u8 0
  | .int => do
      let tag ← u8 1
      let value ← intValue lib spec.value
      .ok (tag ++ word64 value.toUInt64)
  | .double => do
      let tag ← u8 2
      let bits ← doubleValue lib spec.value
      .ok (tag ++ word64 bits)
  | .bool => do
      let tag ← u8 3
      let value ← u8 (if spec.value = .bool true then 1 else 0)
      .ok (tag ++ value)
  | .string => do
      let tag ← u8 4
      let text ← string ((lib.text? spec.value).getD "") "string constant"
      .ok (tag ++ text)

/-- The parts of a list, one after another. -/
def each {α : Type} (write : α → Except String Bytes) : List α → Except String Bytes
  | [] => .ok []
  | item :: items => do
      let first ← write item
      let rest ← each write items
      .ok (first ++ rest)

def returnConvention (value : String) : Except String Bytes :=
  if value = "tagged" then u8 0
  else if value = "unboxed_int64" then u8 1
  else .error s!"unsupported return_convention {value}"

def sourceMapEntry (entry : Nat × String) : Except String Bytes := do
  let offset ← u32 entry.1
  let location ← string entry.2 "source location"
  .ok (offset ++ location)

def debugLocal (entry : Nat × String) : Except String Bytes := do
  let slot ← u16 entry.1 "debug local slot"
  let name ← string entry.2 "debug local name"
  .ok (slot ++ name)

def asyncKind : AsyncKind → Except String Bytes
  | .sync => u8 0
  | .asyncFuture => u8 1
  | .asyncStar => u8 2
  | .syncStar => u8 3

/-- The body of the loop of `encodeBinaryModule`, for version 3. -/
def function (lib : DartLib) (function : FunctionSpec) : Except String Bytes := do
  let name ← string function.name "function name"
  let convention ← returnConvention function.returnConvention
  let kind ← asyncKind function.asyncKind
  let paramCount ← u8 function.paramCount
  let localCount ← u8 function.localCount
  let constantCount ← u16 function.constants.length "constant count"
  let constants ← each (constant lib) function.constants
  let codeLength ← u32 function.code.length
  let sourceMapCount ← u16 function.sourceMap.length "source map count"
  let sourceMap ← each sourceMapEntry function.sourceMap
  let debugLocalCount ← u16 function.debugLocals.length "debug locals count"
  let debugLocals ← each debugLocal function.debugLocals
  .ok (name ++ (convention ++ (kind ++ (paramCount ++ (localCount ++ (constantCount ++ (constants ++
    (codeLength ++ (function.code ++ (sourceMapCount ++ (sourceMap ++
      (debugLocalCount ++ debugLocals))))))))))))

end BinaryModuleWriter

def encodeBinaryModule (lib : DartLib) (functions : List FunctionSpec) : Except String Bytes := do
  let version ← BinaryModuleWriter.u32 3
  let count ← BinaryModuleWriter.u16 functions.length "function count"
  let body ← BinaryModuleWriter.each (BinaryModuleWriter.function lib) functions
  .ok (binaryMagic ++ (version ++ (count ++ body)))

end CodePush.Compiler
