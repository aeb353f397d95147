import CodePush.Bytecode.Module

/-!
# The bytecode validator

`validate_bytecode` makes two passes over the code. The first decodes it from
offset 0 and checks the operands of each instruction; the second checks jump
and handler targets against the instruction starts that the first one met.
-/

set_option autoImplicit false

namespace CodePush.Bytecode

open CodePush.Core

/-- The byte at an offset. The passes below read only offsets they have bounded. -/
def byteAt (code : Bytes) (pos : Nat) : UInt8 := code.getD pos 0

/-- `read_u16`, big-endian. -/
def readU16 (code : Bytes) (pos : Nat) : Nat :=
  (byteAt code pos).toNat * 256 + (byteAt code (pos + 1)).toNat

/-- `";named:"`. -/
def namedMarker : List Char := [';', 'n', 'a', 'm', 'e', 'd', ':']

def countNamedArguments (metadata : String) (requirePrefix : Bool) : Nat :=
  match splitAtMarker namedMarker metadata.toList with
  | none => 0
  | some (before, after) =>
      if requirePrefix && !before.isEmpty then 0
      else ((after.splitOn ',').filter (!·.isEmpty)).length

namespace BytecodeFunction

def constantString? (function : BytecodeFunction) (idx : Nat) : Option String :=
  match function.constants[idx]? with
  | some (.string value) => some value
  | _ => none

/-- The operand checks of the first pass for the instruction at `pos`. -/
def checkOperands (function : BytecodeFunction) (pos : Nat) (opcode : OpCode) : Result Unit :=
  let operandStart := pos + 1
  match opcode with
  | .loadConst =>
      let idx := readU16 function.code operandStart
      if idx ≥ function.constants.length then
        err s!"LoadConst at offset {pos} references missing constant {idx}"
      else .ok ()
  | .loadArg =>
      let idx := (byteAt function.code operandStart).toNat
      if idx ≥ function.paramCount.toNat then
        err s!"LoadArg at offset {pos} references missing argument {idx}"
      else .ok ()
  | .loadLocal | .storeLocal =>
      let idx := (byteAt function.code operandStart).toNat
      if idx ≥ function.localCount.toNat then
        err s!"{opcode.debug} at offset {pos} references missing local {idx}"
      else .ok ()
  | .callClosure =>
      let metadataIdx := readU16 function.code operandStart
      if metadataIdx = 0 then .ok ()
      else
        let idx := metadataIdx - 1
        match function.constantString? idx with
        | none => err s!"CallClosure at offset {pos} references missing metadata constant {idx}"
        | some value =>
            if !namedMarker.isPrefixOf value.toList then
              err s!"CallClosure metadata at offset {pos} must start with ;named:"
            else
              let argc := (byteAt function.code (operandStart + 2)).toNat
              let namedCount := countNamedArguments value true
              if namedCount > argc then
                err s!"CallClosure at offset {pos} has {namedCount} named arguments but argc is {argc}"
              else .ok ()
  | .getField | .setField | .isType | .asType | .callStatic | .makeClosure =>
      let idx := readU16 function.code operandStart
      match function.constantString? idx with
      | none => err s!"{opcode.debug} at offset {pos} references missing string constant {idx}"
      | some _ => .ok ()
  | .callDynamic | .callOriginal | .newObject =>
      let idx := readU16 function.code operandStart
      match function.constantString? idx with
      | none => err s!"{opcode.debug} at offset {pos} references missing string constant {idx}"
      | some value =>
          let argc := (byteAt function.code (operandStart + 2)).toNat
          let namedCount := countNamedArguments value false
          if namedCount > argc then
            err s!"{opcode.debug} at offset {pos} has {namedCount} named arguments but argc is {argc}"
          else .ok ()
  | _ => .ok ()

/-- First pass, from `pos` on; the result lists the instruction starts in order. -/
def scanInstructions (function : BytecodeFunction) (pos : Nat) : Result (List Nat) :=
  if _inside : pos < function.code.length then
    let opcodeByte := byteAt function.code pos
    match OpCode.fromByte opcodeByte with
    | none => err s!"invalid opcode 0x{hexByte opcodeByte} at offset {pos}"
    | some opcode =>
        let next := pos + 1 + opcode.operandLen
        if next > function.code.length then
          err s!"opcode {opcode.debug} at offset {pos} requires {opcode.operandLen} operand bytes"
        else do
          checkOperands function pos opcode
          let starts ← scanInstructions function next
          .ok (pos :: starts)
  else .ok []
termination_by function.code.length - pos

/-- The target checks of the second pass for the instruction at `pos`. -/
def checkTarget (function : BytecodeFunction) (starts : List Nat) (pos : Nat) (opcode : OpCode) :
    Result Unit :=
  let operandStart := pos + 1
  match opcode with
  | .jump | .jumpIfFalse | .jumpIfTrue | .tryBegin | .tryFinally =>
      let target := readU16 function.code operandStart
      if target ≥ function.code.length then
        err s!"{opcode.debug} at offset {pos} targets out-of-range offset {target}"
      else if target ∉ starts then
        err s!"{opcode.debug} at offset {pos} targets non-instruction offset {target}"
      else if opcode = .tryBegin ∨ opcode = .tryFinally then
        let finish := readU16 function.code (operandStart + 2)
        if finish ≥ function.code.length then
          err s!"{opcode.debug} at offset {pos} has out-of-range end offset {finish}"
        else if finish ∉ starts then
          err s!"{opcode.debug} at offset {pos} has non-instruction end offset {finish}"
        else if target ≤ pos ∨ target ≥ finish then
          err s!"{opcode.debug} at offset {pos} requires current < handler < end"
        else .ok ()
      else .ok ()
  | _ => .ok ()

/-- Second pass, from `pos` on. -/
def checkTargets (function : BytecodeFunction) (starts : List Nat) (pos : Nat) : Result Unit :=
  if _inside : pos < function.code.length then
    match OpCode.fromByte (byteAt function.code pos) with
    | none => .error (.panic "validated opcode")
    | some opcode => do
        checkTarget function starts pos opcode
        checkTargets function starts (pos + 1 + opcode.operandLen)
  else .ok ()
termination_by function.code.length - pos

def validateBytecode (function : BytecodeFunction) : Result Unit :=
  if function.localCount < function.paramCount then function.localCountSmall
  else do
    let starts ← scanInstructions function 0
    if function.code.isEmpty then function.emptyBytecode
    else checkTargets function starts 0

end BytecodeFunction

def validateFunctions : List BytecodeFunction → Result Unit
  | [] => .ok ()
  | function :: functions => do
      function.validateBytecode
      validateFunctions functions

def BytecodeModule.validate (module : BytecodeModule) : Result Unit := do
  module.validateEnvelope
  validateFunctions module.functions

end CodePush.Bytecode
