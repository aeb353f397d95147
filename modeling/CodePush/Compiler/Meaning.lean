import CodePush.Compiler.Ir
import CodePush.Foundation.Simulation

/-!
# The meaning of function sources

What the code that `compileExpr` emits for an expression does: in which order the parts are
evaluated, which of them are, and what the whole is worth. The virtual machine is not part of
the repository; its operations are those of a `Machine`.
-/

set_option autoImplicit false

namespace CodePush.Compiler

open CodePush.Foundation

/-- The operations that the opcodes of the machine perform on their operands. -/
inductive Primitive where
  | binary (op : BinaryOp)
  | call (kind : CallKind) (target : String)
  | callDynamic (method : String) (names : List String)
  | callClosure (names : List String)
  | makeClosure (closure : ClosureSpec)
  | newObject (constructor : String) (typeNames names : List String)
  | concat
  | list
  | map
  | getField (field : String)
  | setField (field : String)
  | isType (type : String)
  | asType (type : String)
  | await
  | yield
  deriving DecidableEq

/-- Values and effects of the machine. An operation returns a value or throws one. -/
structure Machine (ν ω : Type) where
  const : ConstantSpec → ν
  /-- What `JumpIfFalse` takes for true. -/
  isTrue : ν → Bool
  perform : Primitive → List ν → ω → Except ν ν × ω

namespace Machine

variable {ν ω : Type} (machine : Machine ν ω)

def null : ν := machine.const .nothing

def apply {κ : Type} (operation : Primitive) (operands : List ν) : Run κ ν ω ν :=
  Run.perform (machine.perform operation operands)

def dynamic {κ : Type} (method : String) (operands : List ν) : Run κ ν ω ν :=
  machine.apply (.callDynamic method []) operands

/-- The loop over an iterator that `for` and `yield*` forms are compiled to. -/
def forEach {κ : Type} (rounds : Nat) (source : ν) (body : ν → Run κ ν ω Bool) : Run κ ν ω Unit := do
  let iterator ← machine.dynamic "get:iterator" [source]
  Run.cycle (do
    let more ← machine.dynamic "moveNext" [iterator]
    if machine.isTrue more then do
      let item ← machine.dynamic "get:current" [iterator]
      if ← body item then pure none else pure (some ())
    else pure (some ())) rounds

end Machine

section Meaning

variable {ν ω : Type} (machine : Machine ν ω) (args : String → ν) (rounds : Nat)

mutual

/-- The value of an expression. Variables are the locals of the function under their ids. -/
def meaning : Expr → Run Int64 ν ω ν
  | .const constant => pure (machine.const constant)
  | .arg name => pure (args name)
  | .letLocal id => Run.read id
  | .letIn locals body => meaningLocals locals (meaning body)
  | .setLocal id value => do
      Run.write id (← meaning value)
      pure machine.null
  | .whileLoop condition beforeContinue continueCondition continueBody beforeBreak breakCondition
      breakBody body => do
      let lastPart : Run Int64 ν ω (Option Unit) :=
        match breakCondition with
        | none => do
            let _ ← meaning body
            pure none
        | some breakCondition => do
            meaningDiscarded beforeBreak
            if machine.isTrue (← meaning breakCondition) then do
              meaningDiscarded breakBody
              pure (some ())
            else do
              let _ ← meaning body
              pure none
      Run.cycle (do
        if machine.isTrue (← meaning condition) then
          match continueCondition with
          | none => lastPart
          | some continueCondition => do
              meaningDiscarded beforeContinue
              if machine.isTrue (← meaning continueCondition) then do
                meaningDiscarded continueBody
                pure none
              else lastPart
        else pure (some ())) rounds
      pure machine.null
  -- the operands change places: there is no opcode for `<`
  | .less left right => do
      let right ← meaning right
      let left ← meaning left
      machine.apply (.binary .greater) [right, left]
  | .binary operator left right => do
      let left ← meaning left
      let right ← meaning right
      machine.apply (.binary operator) [left, right]
  | .conditional condition thenExpr elseExpr => do
      if machine.isTrue (← meaning condition) then meaning thenExpr else meaning elseExpr
  | .throw value => do Run.raise (← meaning value)
  | .seq items => meaningSeq items
  | .yield value => do
      let _ ← machine.apply .yield [← meaning value]
      pure machine.null
  | .yieldAll source => do
      machine.forEach rounds (← meaning source) fun item => do
        let _ ← machine.apply .yield [item]
        pure true
      pure machine.null
  | .yieldForIn source item beforeBreak breakCondition body => do
      machine.forEach rounds (← meaning source) fun current => Run.withVar item.id current <|
        match breakCondition with
        | none => do
            let _ ← meaning body
            pure true
        | some breakCondition => do
            meaningDiscarded beforeBreak
            if machine.isTrue (← meaning breakCondition) then pure false
            else do
              let _ ← meaning body
              pure true
      pure machine.null
  | .await value => do machine.apply .await [← meaning value]
  | .tryFinally body finalizer preserveValue => do
      let value ← Run.finishing (meaning body) do
        let _ ← meaning finalizer
        pure none
      pure (if preserveValue then value else machine.null)
  | .tryCatch body catchLocal catchBody =>
      Run.catching (meaning body) fun thrown => Run.withVar catchLocal thrown (meaning catchBody)
  | .call kind target args => do machine.apply (.call kind target) (← meaningAll args)
  | .callDynamic receiver method names args => do
      let receiver ← meaning receiver
      machine.apply (.callDynamic method names) (receiver :: (← meaningAll args))
  | .callClosure closure names args => do
      let closure ← meaning closure
      machine.apply (.callClosure names) (closure :: (← meaningAll args))
  | .makeClosure closure captures => do machine.apply (.makeClosure closure) (← meaningAll captures)
  | .newObject constructor typeNames names args => do
      machine.apply (.newObject constructor typeNames names) (← meaningAll args)
  | .concat parts => do machine.apply .concat (← meaningAll parts)
  | .list items => do machine.apply .list (← meaningAll items)
  | .map entries => do machine.apply .map (← meaningEntries entries)
  | .addAll _ receiver spread => do
      let receiver ← meaning receiver
      let spread ← meaning spread
      let _ ← machine.dynamic "addAll" [receiver, spread]
      pure receiver
  | .listForIn receiver source => do
      let result ← meaning receiver
      machine.forEach rounds (← meaning source) fun item => do
        let _ ← machine.dynamic "add" [result, item]
        pure true
      pure result
  | .listForInMapped receiver source item value => do
      let result ← meaning receiver
      machine.forEach rounds (← meaning source) fun current => Run.withVar item current do
        let value ← meaning value
        let _ ← machine.dynamic "add" [result, value]
        pure true
      pure result
  | .mapForIn receiver source => do
      let result ← meaning receiver
      machine.forEach rounds (← meaning source) fun entry => do
        let key ← machine.dynamic "get:key" [entry]
        let value ← machine.dynamic "get:value" [entry]
        let _ ← machine.dynamic "[]=" [result, key, value]
        pure true
      pure result
  | .mapForInMapped receiver source entry key value => do
      let result ← meaning receiver
      machine.forEach rounds (← meaning source) fun current => Run.withVar entry current do
        let key ← meaning key
        let value ← meaning value
        let _ ← machine.dynamic "[]=" [result, key, value]
        pure true
      pure result
  | .getField receiver field => do machine.apply (.getField field) [← meaning receiver]
  | .setField receiver field value => do
      let receiver ← meaning receiver
      let value ← meaning value
      machine.apply (.setField field) [receiver, value]
  | .isType value type => do machine.apply (.isType type) [← meaning value]
  | .asType value type => do machine.apply (.asType type) [← meaning value]

/-- An optional part whose value is not used. -/
def meaningDiscarded : Option Expr → Run Int64 ν ω Unit
  | none => pure ()
  | some expr => do
      let _ ← meaning expr
      pure ()

/-- A sequence is worth its last item. -/
def meaningSeq : List Expr → Run Int64 ν ω ν
  | [] => pure machine.null
  | [item] => meaning item
  | item :: items => do
      let _ ← meaning item
      meaningSeq items

def meaningAll : List Expr → Run Int64 ν ω (List ν)
  | [] => pure []
  | item :: items => do
      let value ← meaning item
      let values ← meaningAll items
      pure (value :: values)

def meaningEntries : List (Expr × Expr) → Run Int64 ν ω (List ν)
  | [] => pure []
  | (key, value) :: entries => do
      let key ← meaning key
      let value ← meaning value
      let values ← meaningEntries entries
      pure (key :: value :: values)

/-- Each local is bound in the values after it and in the body. -/
def meaningLocals : List (LocalSpec × Expr) → Run Int64 ν ω ν → Run Int64 ν ω ν
  | [], body => body
  | (spec, value) :: locals, body => do
      Run.withVar spec.id (← meaning value) (meaningLocals locals body)

end

end Meaning

end CodePush.Compiler
