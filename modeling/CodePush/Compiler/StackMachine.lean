import CodePush.Compiler.Meaning
import CodePush.Compiler.Pieces
import CodePush.Foundation.Lockstep

/-!
# The machine that runs emitted code

The bytes of a function are executed on a stack of operands and a table of slots, as the stack effects of the
opcodes have it. What an operation computes is a parameter; the machine finds it under an opcode and a text of
the constant pool. Protected code is left out: how handlers are entered is up to a virtual machine that is not
part of the repository.
-/

set_option autoImplicit false

namespace CodePush.Compiler

open CodePush.Core CodePush.Bytecode CodePush.Foundation CodePush.Foundation.Assembly

/-!
## Operations
-/

/-- What the machine knows of an operation: its opcode, a text, and the operands. -/
structure Operations (ν ω : Type) where
  const : ConstantSpec → ν
  isTrue : ν → Bool
  perform : OpCode → String → List ν → ω → Except ν ν × ω

namespace Primitive

def opcode : Primitive → OpCode
  | .binary operator => operator.opcode
  | .call kind _ => kind.opcode
  | .callDynamic _ _ => .callDynamic
  | .callClosure _ => .callClosure
  | .makeClosure _ => .makeClosure
  | .newObject _ _ _ => .newObject
  | .concat => .stringConcat
  | .list => .makeList
  | .map => .makeMap
  | .getField _ => .getField
  | .setField _ => .setField
  | .isType _ => .isType
  | .asType _ => .asType
  | .await => .await
  | .yield => .yield

/-- The text that the compiler puts into the constant pool, for this many operands. -/
def text (operands : Nat) : Primitive → String
  | .call _ target => target
  | .callDynamic method names => method ++ namedSuffix names
  | .callClosure names => if names = [] then "" else namedSuffix names
  | .makeClosure closure => closure.text operands
  | .newObject constructor typeNames names => constructorText constructor typeNames names
  | .getField text | .setField text | .isType text | .asType text => text
  | .binary _ | .concat | .list | .map | .await | .yield => ""

end Primitive

/-- The operation of an instruction: its opcode, and the text that it names. -/
def Instr.operation (constants : List ConstantSpec) (instr : Instr) : Option (OpCode × String) :=
  match instr.opcode with
  | .add | .sub | .mul | .div | .greater | .equal | .await | .yield | .makeList | .makeMap | .stringConcat =>
      some (instr.opcode, "")
  | .getField | .setField | .isType | .asType | .makeClosure | .callStatic | .callDynamic | .callOriginal
  | .newObject => some (instr.opcode, constantText constants instr.first)
  -- the operand is 0 or one more than the index of the names
  | .callClosure =>
      some (instr.opcode, if instr.first = 0 then "" else constantText constants (instr.first - 1))
  | _ => none

variable {ν ω : Type}

/-- The operations as expressions use them. -/
def Operations.machine (operations : Operations ν ω) : Machine ν ω where
  const := operations.const
  isTrue := operations.isTrue
  perform := fun primitive operands =>
    operations.perform primitive.opcode (primitive.text operands.length) operands

/-!
## Steps
-/

structure VmState (ν ω : Type) where
  pos : Nat
  stack : List ν
  slots : Nat → ν
  world : ω

inductive VmResult (ν ω : Type) where
  | returned (value : ν) (world : ω)
  | threw (value : ν) (world : ω)
  deriving Repr, DecidableEq

/-- What a call of a function fixes. -/
structure Vm (ν ω : Type) where
  operations : Operations ν ω
  constants : List ConstantSpec
  arguments : Nat → ν

namespace Vm

variable (vm : Vm ν ω)

/-- The operands come off the stack, the last one first. -/
def operate (instr : Instr) (state : VmState ν ω) : Move (VmState ν ω) (VmResult ν ω) :=
  let count := instr.pops vm.constants
  match instr.operation vm.constants with
  | some (opcode, text) =>
      if count ≤ state.stack.length then
        match vm.operations.perform opcode text (state.stack.take count).reverse state.world with
        | (.ok value, world) =>
            .next {
              state with
              pos := state.pos + instr.size
              stack := (if instr.pushes = some 1 then [value] else []) ++ state.stack.drop count
              world }
        | (.error value, world) => .halted (.threw value world)
      else .stuck
  | none => .stuck

def execute (instr : Instr) (state : VmState ν ω) : Move (VmState ν ω) (VmResult ν ω) :=
  let next := state.pos + instr.size
  match instr.opcode with
  | .loadConst =>
      match vm.constants[instr.first]? with
      | some constant =>
          .next { state with pos := next, stack := vm.operations.const constant :: state.stack }
      | none => .stuck
  | .loadArg => .next { state with pos := next, stack := vm.arguments instr.first :: state.stack }
  | .loadLocal => .next { state with pos := next, stack := state.slots instr.first :: state.stack }
  | .storeLocal =>
      match state.stack with
      | value :: stack =>
          .next { state with pos := next, stack, slots := Function.update state.slots instr.first value }
      | [] => .stuck
  | .pop =>
      match state.stack with
      | _ :: stack => .next { state with pos := next, stack }
      | [] => .stuck
  | .jump => .next { state with pos := instr.first }
  | .jumpIfFalse =>
      match state.stack with
      | value :: stack =>
          .next { state with pos := if vm.operations.isTrue value then next else instr.first, stack }
      | [] => .stuck
  | .jumpIfTrue =>
      match state.stack with
      | value :: stack =>
          .next { state with pos := if vm.operations.isTrue value then instr.first else next, stack }
      | [] => .stuck
  | .throw =>
      match state.stack with
      | value :: _ => .halted (.threw value state.world)
      | [] => .stuck
  | .return | .asyncReturn =>
      match state.stack with
      | value :: _ => .halted (.returned value state.world)
      | [] => .stuck
  | _ => vm.operate instr state

def step (program : Bytes) (state : VmState ν ω) : Move (VmState ν ω) (VmResult ν ω) :=
  match Instr.decode program state.pos with
  | some instr => vm.execute instr state
  | none => .stuck

variable {vm} {program : Bytes} {instr : Instr} {state : VmState ν ω}

theorem step_decoded (decoded : Instr.decode program state.pos = some instr) :
    vm.step program state = vm.execute instr state := by
  unfold step
  rw [decoded]

/-- An operation takes its operands and leaves its value, if its opcode has one. -/
theorem operate_eq {opcode : OpCode} {text : String} {operands below : List ν}
    (operation : instr.operation vm.constants = some (opcode, text))
    (popped : instr.pops vm.constants = operands.length) (stacked : state.stack = operands.reverse ++ below) :
    vm.operate instr state =
      match vm.operations.perform opcode text operands state.world with
      | (.ok value, world) =>
          .next {
            state with
            pos := state.pos + instr.size
            stack := (if instr.pushes = some 1 then [value] else []) ++ below
            world }
      | (.error value, world) => .halted (.threw value world) := by
  have enough : operands.length ≤ (operands.reverse ++ below).length := by simp
  have front : ((operands.reverse ++ below).take operands.length).reverse = operands := by
    rw [List.take_left' operands.length_reverse, List.reverse_reverse]
  have back : (operands.reverse ++ below).drop operands.length = below :=
    List.drop_left' operands.length_reverse
  unfold operate
  simp only [operation, popped, stacked, if_pos enough, front, back]

end Vm

end CodePush.Compiler
