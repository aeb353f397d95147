import CodePush.Bytecode.Module
import CodePush.Compiler.Ir
import CodePush.Foundation.Effects

/-!
# The bytecode compiler

`_RestrictedBytecodeCompiler` of `tool/fcb_kernel_manifest_compiler.dart` and
`tool/fcb_kernel_manifest_control_compiler.dart`. Code is a list of bytes; forward
jumps are reserved and patched.
-/

set_option autoImplicit false

namespace CodePush.Compiler

open CodePush.Core CodePush.Bytecode CodePush.Foundation

/-- The constants `_op...`. -/
def opByte : OpCode → UInt8
  | .loadConst => 0x01
  | .loadArg => 0x02
  | .loadLocal => 0x03
  | .storeLocal => 0x04
  | .pop => 0x05
  | .add => 0x10
  | .sub => 0x11
  | .mul => 0x12
  | .div => 0x13
  | .greater => 0x20
  | .equal => 0x21
  | .jump => 0x30
  | .jumpIfFalse => 0x31
  | .jumpIfTrue => 0x32
  | .makeList => 0x40
  | .makeMap => 0x41
  | .stringConcat => 0x42
  | .getField => 0x43
  | .setField => 0x44
  | .isType => 0x45
  | .asType => 0x46
  | .callStatic => 0x50
  | .callDynamic => 0x51
  | .callOriginal => 0x52
  | .callClosure => 0x53
  | .makeClosure => 0x54
  | .newObject => 0x55
  | .throw => 0x60
  | .tryBegin => 0x61
  | .await => 0x62
  | .asyncReturn => 0x63
  | .yield => 0x64
  | .tryFinally => 0x65
  | .endFinally => 0x66
  | .rethrow => 0x67
  | .return => 0xff

structure RestrictedBytecodeCompiler where
  params : List String
  debugLocals : List (Nat × String)
  constants : List ConstantSpec
  scopedLocals : Int64 → Option Nat
  code : Bytes
  localCount : Nat
  /-- Whether an operand did not fit its width. The source has no such field. -/
  wrapped : Bool

abbrev Compile (α : Type) := Action String RestrictedBytecodeCompiler α

def RestrictedBytecodeCompiler.start (params : List String) : RestrictedBytecodeCompiler where
  params := params
  debugLocals := params.zipIdx.map fun (name, slot) => (slot, name)
  constants := []
  scopedLocals := fun _ => none
  code := []
  localCount := params.length + 1
  wrapped := false

/-- `args[name]`; a later parameter of the same name wins. -/
def RestrictedBytecodeCompiler.argIndex (compiler : RestrictedBytecodeCompiler) (name : String) : Option Nat :=
  (compiler.params.zipIdx.reverse.find? (·.1 = name)).map (·.2)

/-!
## Emission
-/

def exit {α : Type} (message : String) : Compile α := throw message

def op (opcode : OpCode) : Compile Unit :=
  modify fun compiler => { compiler with code := compiler.code ++ [opByte opcode] }

/-- The bytes of `u16`. -/
def u16Bytes (value : Nat) : Bytes := [UInt8.ofNat (value / 256), UInt8.ofNat value]

def u8 (value : Nat) : Compile Unit :=
  modify fun compiler =>
    { compiler with
      code := compiler.code ++ [UInt8.ofNat value]
      wrapped := compiler.wrapped || decide (value > 0xff) }

def u16 (value : Nat) : Compile Unit :=
  modify fun compiler =>
    { compiler with
      code := compiler.code ++ u16Bytes value
      wrapped := compiler.wrapped || decide (value > 0xffff) }

def reserveU16 : Compile Nat := do
  let offset := (← get).code.length
  modify fun compiler => { compiler with code := compiler.code ++ [0, 0] }
  pure offset

/-- Two bytes of the code are replaced. -/
def patchBytes (code : Bytes) (offset value : Nat) : Bytes :=
  (code.set offset (UInt8.ofNat (value / 256))).set (offset + 1) (UInt8.ofNat value)

def patchU16 (offset value : Nat) : Compile Unit :=
  if value > 0xffff then exit "bytecode jump target exceeds u16 range"
  else modify fun compiler => { compiler with code := patchBytes compiler.code offset value }

def position : Compile Nat := do pure (← get).code.length

/-- `patchU16(offset, code.length)`. -/
def patchHere (offset : Nat) : Compile Unit := do patchU16 offset (← position)

def addConst (constant : ConstantSpec) : Compile Nat := do
  let constants := (← get).constants
  match constants.idxOf? constant with
  | some existing => pure existing
  | none =>
      if constants.length > 0xffff then exit "bytecode constant pool exceeds u16 index space"
      else do
        modify fun compiler => { compiler with constants := compiler.constants ++ [constant] }
        pure constants.length

def loadConst (constant : ConstantSpec) : Compile Unit := do
  let index ← addConst constant
  op .loadConst
  u16 index

def allocateLocal : Compile Nat := do
  let localCount := (← get).localCount
  if localCount ≥ 256 then exit "bytecode local count exceeds u8 index space"
  else do
    modify fun compiler => { compiler with localCount := localCount + 1 }
    pure localCount

def loadLocal (index : Nat) : Compile Unit := do
  op .loadLocal
  u8 index

def storeLocal (index : Nat) : Compile Unit := do
  op .storeLocal
  u8 index

/-- An instruction with a text of the constant pool. -/
def named (opcode : OpCode) (text : String) : Compile Unit := do
  op opcode
  u16 (← addConst (.text text))

/-- A call instruction with a text of the constant pool. -/
def callNamed (opcode : OpCode) (text : String) (argc : Nat) : Compile Unit := do
  named opcode text
  u8 argc

def callDynamic (method : String) (argc : Nat) : Compile Unit := callNamed .callDynamic method argc

/-!
## Scopes
-/

def bindLocal (id : Int64) (slot : Option Nat) : Compile Unit :=
  modify fun compiler =>
    { compiler with scopedLocals := Function.update compiler.scopedLocals id slot }

def scopedLocal (id : Int64) : Compile (Option Nat) := do pure ((← get).scopedLocals id)

/-- The local is bound to the slot while `body` is compiled. -/
def withLocal (id : Int64) (slot : Nat) (body : Compile Unit) : Compile Unit := do
  let previous ← scopedLocal id
  bindLocal id (some slot)
  body
  bindLocal id previous

def nameLocal (slot : Nat) (name : Option String) : Compile Unit :=
  match name with
  | some name =>
      if isDartBlank name then pure ()
      else modify fun compiler =>
        { compiler with debugLocals := compiler.debugLocals ++ [(slot, dartTrim name)] }
  | none => pure ()

/-- `previous[id] = slot`. -/
def remember (previous : List (Int64 × Option Nat)) (id : Int64) (slot : Option Nat) :
    List (Int64 × Option Nat) :=
  if previous.any (·.1 = id) then
    previous.map fun entry => if entry.1 = id then (id, slot) else entry
  else previous ++ [(id, slot)]

def restore : List (Int64 × Option Nat) → Compile Unit
  | [] => pure ()
  | (id, slot) :: previous => do
      restore previous
      bindLocal id slot

/-!
## Texts of calls
-/

/-- The suffix that lists named arguments or parameters. -/
def namedSuffix (names : List String) : String :=
  if names.isEmpty then "" else ";named:" ++ ",".intercalate names

def constructorText (constructor : String) (typeNames names : List String) : String :=
  let types := if typeNames.isEmpty then "" else ";types:" ++ ",".intercalate typeNames
  constructor ++ types ++ namedSuffix names

/-- The constant of `make_closure` with this many captures. -/
def ClosureSpec.text (closure : ClosureSpec) (captures : Nat) : String :=
  let optionalPositional :=
    if closure.optionalPositionalCount = 0 then ""
    else s!";optional-pos:{closure.optionalPositionalCount}"
  let typeParameters :=
    if closure.typeParameterCount = 0 then "" else s!";type-params:{closure.typeParameterCount}"
  let metadata := optionalPositional ++ namedSuffix closure.namedParameters ++ typeParameters
  if captures = 0 then
    if metadata.isEmpty then closure.target else s!"{closure.target};captures:0{metadata}"
  else s!"{closure.target};captures:{captures}{metadata}"

def BinaryOp.opcode : BinaryOp → OpCode
  | .add => .add
  | .sub => .sub
  | .mul => .mul
  | .div => .div
  | .greater => .greater
  | .equal => .equal

def CallKind.opcode : CallKind → OpCode
  | .static => .callStatic
  | .original => .callOriginal

def CallKind.label : CallKind → String
  | .static => "call_static"
  | .original => "call_original"

/-- Exits with the message if the operand cannot hold the count. -/
def ensureCount (count limit : Nat) (message : String) : Compile Unit :=
  if count > limit then exit message else pure ()

def ensureArguments (label : String) (args : List Expr) : Compile Unit :=
  ensureCount args.length 255 s!"{label} expression has more than 255 arguments"

/-- The metadata operand of `call_closure`; 0 when there are no named arguments. -/
def closureMetadata (names : List String) : Compile Nat := do
  if names.isEmpty then pure 0
  else do
    let index ← addConst (.text (namedSuffix names))
    if index = 0xffff then exit "call_closure metadata constant exceeds operand space"
    else pure (index + 1)

/-!
## Expressions
-/

mutual

def compileExpr : Expr → Compile Unit
  | .const constant => loadConst constant
  | .arg name => do
      match (← get).argIndex name with
      | none => exit s!"unknown parameter {name}"
      | some index => do
          op .loadArg
          u8 index
  | .letLocal id => do
      match ← scopedLocal id with
      | none => exit s!"unknown let local {id}"
      | some index => loadLocal index
  | .letIn locals body => do
      let previous ← compileLocals [] locals
      compileExpr body
      restore previous
  | .setLocal id value => do
      match ← scopedLocal id with
      | none => exit s!"unknown set_local target {id}"
      | some index => do
          compileExpr value
          storeLocal index
          loadConst .nothing
  | .whileLoop condition beforeContinue continueCondition continueBody beforeBreak breakCondition
      breakBody body => do
      let loopStart ← position
      compileExpr condition
      op .jumpIfFalse
      let endPatch ← reserveU16
      match continueCondition with
      | none => pure ()
      | some continueCondition => do
          compileDiscarded beforeContinue
          compileExpr continueCondition
          op .jumpIfFalse
          let bodyPatch ← reserveU16
          compileDiscarded continueBody
          op .jump
          u16 loopStart
          patchHere bodyPatch
      match breakCondition with
      | none => do
          compileExpr body
          op .pop
          op .jump
          u16 loopStart
          patchHere endPatch
          loadConst .nothing
      | some breakCondition => do
          compileDiscarded beforeBreak
          compileExpr breakCondition
          op .jumpIfFalse
          let continuePatch ← reserveU16
          compileDiscarded breakBody
          op .jump
          let breakPatch ← reserveU16
          patchHere continuePatch
          compileExpr body
          op .pop
          op .jump
          u16 loopStart
          patchHere breakPatch
          patchHere endPatch
          loadConst .nothing
  -- the operands change places: there is no opcode for `<`
  | .less left right => do
      compileExpr right
      compileExpr left
      op .greater
  | .binary operator left right => do
      compileExpr left
      compileExpr right
      op operator.opcode
  | .conditional condition thenExpr elseExpr => do
      compileExpr condition
      op .jumpIfFalse
      let elsePatch ← reserveU16
      compileExpr thenExpr
      op .jump
      let endPatch ← reserveU16
      patchHere elsePatch
      compileExpr elseExpr
      patchHere endPatch
  | .throw value => do
      compileExpr value
      op .throw
  | .seq items => compileSeq items
  | .yield value => do
      compileExpr value
      op .yield
      loadConst .nothing
  | .yieldAll source => do
      let iteratorLocal ← allocateLocal
      compileExpr source
      callDynamic "get:iterator" 0
      storeLocal iteratorLocal
      let loopStart ← position
      loadLocal iteratorLocal
      callDynamic "moveNext" 0
      op .jumpIfFalse
      let endPatch ← reserveU16
      loadLocal iteratorLocal
      callDynamic "get:current" 0
      op .yield
      op .jump
      u16 loopStart
      patchHere endPatch
      loadConst .nothing
  | .yieldForIn source item beforeBreak breakCondition body => do
      let iteratorLocal ← allocateLocal
      let currentLocal ← allocateLocal
      compileExpr source
      callDynamic "get:iterator" 0
      storeLocal iteratorLocal
      let loopStart ← position
      loadLocal iteratorLocal
      callDynamic "moveNext" 0
      op .jumpIfFalse
      let endPatch ← reserveU16
      loadLocal iteratorLocal
      callDynamic "get:current" 0
      storeLocal currentLocal
      nameLocal currentLocal item.name
      let previous ← scopedLocal item.id
      bindLocal item.id (some currentLocal)
      match breakCondition with
      | none => do
          compileExpr body
          bindLocal item.id previous
          op .pop
          op .jump
          u16 loopStart
          patchHere endPatch
          loadConst .nothing
      | some breakCondition => do
          compileDiscarded beforeBreak
          compileExpr breakCondition
          op .jumpIfFalse
          let continuePatch ← reserveU16
          op .jump
          let breakPatch ← reserveU16
          patchHere continuePatch
          compileExpr body
          bindLocal item.id previous
          op .pop
          op .jump
          u16 loopStart
          patchHere breakPatch
          patchHere endPatch
          loadConst .nothing
  | .await value => do
      compileExpr value
      op .await
  | .tryFinally body finalizer preserveValue => do
      let valueLocal ← if preserveValue then some <$> allocateLocal else pure none
      op .tryFinally
      let finallyPatch ← reserveU16
      let endOperandPatch ← reserveU16
      compileExpr body
      match valueLocal with
      | some valueLocal => storeLocal valueLocal
      | none => pure ()
      op .jump
      let endJumpPatch ← reserveU16
      patchHere finallyPatch
      compileExpr finalizer
      op .pop
      op .endFinally
      patchHere endOperandPatch
      patchHere endJumpPatch
      match valueLocal with
      | some valueLocal => loadLocal valueLocal
      | none => loadConst .nothing
  | .tryCatch body catchLocal catchBody => do
      op .tryBegin
      let handlerPatch ← reserveU16
      let endOperandPatch ← reserveU16
      compileExpr body
      op .jump
      let endJumpPatch ← reserveU16
      patchHere handlerPatch
      let catchLocalIndex ← allocateLocal
      storeLocal catchLocalIndex
      withLocal catchLocal catchLocalIndex (compileExpr catchBody)
      patchHere endOperandPatch
      patchHere endJumpPatch
  | .call kind target args => do
      ensureArguments kind.label args
      compileAll args
      let calleeIndex ← addConst (.text target)
      op kind.opcode
      u16 calleeIndex
      u8 args.length
  | .callDynamic receiver method names args => do
      ensureArguments "call_dynamic" args
      compileExpr receiver
      compileAll args
      callDynamic (method ++ namedSuffix names) args.length
  | .callClosure closure names args => do
      ensureArguments "call_closure" args
      compileExpr closure
      compileAll args
      let metadataOperand ← closureMetadata names
      op .callClosure
      u16 metadataOperand
      u8 args.length
  | .makeClosure closure captures => do
      ensureCount captures.length 255 "make_closure captures exceed operand space"
      compileAll captures
      named .makeClosure (closure.text captures.length)
  | .newObject constructor typeNames names args => do
      ensureArguments "new_object" args
      compileAll args
      callNamed .newObject (constructorText constructor typeNames names) args.length
  | .concat parts => do
      ensureCount parts.length 0xffff "string concat expression has too many parts"
      compileAll parts
      op .stringConcat
      u16 parts.length
  | .list items => do
      ensureCount items.length 0xffff "list expression has too many items"
      compileAll items
      op .makeList
      u16 items.length
  | .map entries => do
      ensureCount entries.length 0xffff "map expression has too many entries"
      compileEntries entries
      op .makeMap
      u16 entries.length
  | .addAll _ receiver spread => do
      let slot ← allocateLocal
      compileExpr receiver
      storeLocal slot
      loadLocal slot
      compileExpr spread
      callDynamic "addAll" 1
      loadLocal slot
  | .listForIn receiver source => do
      let resultLocal ← allocateLocal
      let iteratorLocal ← allocateLocal
      compileExpr receiver
      storeLocal resultLocal
      compileExpr source
      callDynamic "get:iterator" 0
      storeLocal iteratorLocal
      let loopStart ← position
      loadLocal iteratorLocal
      callDynamic "moveNext" 0
      op .jumpIfFalse
      let endPatch ← reserveU16
      loadLocal resultLocal
      loadLocal iteratorLocal
      callDynamic "get:current" 0
      callDynamic "add" 1
      op .jump
      u16 loopStart
      patchHere endPatch
      loadLocal resultLocal
  | .listForInMapped receiver source item value => do
      let resultLocal ← allocateLocal
      let iteratorLocal ← allocateLocal
      let itemLocal ← allocateLocal
      compileExpr receiver
      storeLocal resultLocal
      compileExpr source
      callDynamic "get:iterator" 0
      storeLocal iteratorLocal
      let loopStart ← position
      loadLocal iteratorLocal
      callDynamic "moveNext" 0
      op .jumpIfFalse
      let endPatch ← reserveU16
      loadLocal iteratorLocal
      callDynamic "get:current" 0
      storeLocal itemLocal
      loadLocal resultLocal
      withLocal item itemLocal (compileExpr value)
      callDynamic "add" 1
      op .jump
      u16 loopStart
      patchHere endPatch
      loadLocal resultLocal
  | .mapForIn receiver source => do
      let resultLocal ← allocateLocal
      let iteratorLocal ← allocateLocal
      let entryLocal ← allocateLocal
      compileExpr receiver
      storeLocal resultLocal
      compileExpr source
      callDynamic "get:iterator" 0
      storeLocal iteratorLocal
      let loopStart ← position
      loadLocal iteratorLocal
      callDynamic "moveNext" 0
      op .jumpIfFalse
      let endPatch ← reserveU16
      loadLocal iteratorLocal
      callDynamic "get:current" 0
      storeLocal entryLocal
      loadLocal resultLocal
      loadLocal entryLocal
      callDynamic "get:key" 0
      loadLocal entryLocal
      callDynamic "get:value" 0
      callDynamic "[]=" 2
      op .jump
      u16 loopStart
      patchHere endPatch
      loadLocal resultLocal
  | .mapForInMapped receiver source entry key value => do
      let resultLocal ← allocateLocal
      let iteratorLocal ← allocateLocal
      let entryLocal ← allocateLocal
      compileExpr receiver
      storeLocal resultLocal
      compileExpr source
      callDynamic "get:iterator" 0
      storeLocal iteratorLocal
      let loopStart ← position
      loadLocal iteratorLocal
      callDynamic "moveNext" 0
      op .jumpIfFalse
      let endPatch ← reserveU16
      loadLocal iteratorLocal
      callDynamic "get:current" 0
      storeLocal entryLocal
      loadLocal resultLocal
      withLocal entry entryLocal (do
        compileExpr key
        compileExpr value)
      callDynamic "[]=" 2
      op .jump
      u16 loopStart
      patchHere endPatch
      loadLocal resultLocal
  | .getField receiver field => do
      compileExpr receiver
      named .getField field
  | .setField receiver field value => do
      compileExpr receiver
      compileExpr value
      named .setField field
  | .isType value type => do
      compileExpr value
      named .isType type
  | .asType value type => do
      compileExpr value
      named .asType type

/-- An optional part whose value is not used. -/
def compileDiscarded : Option Expr → Compile Unit
  | none => pure ()
  | some expr => do
      compileExpr expr
      op .pop

/-- A sequence is worth its last item. -/
def compileSeq : List Expr → Compile Unit
  | [] => loadConst .nothing
  | [item] => compileExpr item
  | item :: items => do
      compileExpr item
      op .pop
      compileSeq items

def compileAll : List Expr → Compile Unit
  | [] => pure ()
  | item :: items => do
      compileExpr item
      compileAll items

def compileEntries : List (Expr × Expr) → Compile Unit
  | [] => pure ()
  | (key, value) :: entries => do
      compileExpr key
      compileExpr value
      compileEntries entries

def compileLocals (previous : List (Int64 × Option Nat)) :
    List (LocalSpec × Expr) → Compile (List (Int64 × Option Nat))
  | [] => pure previous
  | (spec, value) :: locals => do
      let slot ← allocateLocal
      compileExpr value
      storeLocal slot
      nameLocal slot spec.name
      let old ← scopedLocal spec.id
      bindLocal spec.id (some slot)
      compileLocals (remember previous spec.id old) locals

end

end CodePush.Compiler
