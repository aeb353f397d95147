import CodePush.Compiler.Meaning

/-!
# Kernel statements

The statements of Kernel that the lowering of function bodies handles, over expressions of
any kind, and what Dart does for them. A `continue` is a `BreakStatement` to the label around
the body of the loop, a `break` one to the label around the loop.
-/

set_option autoImplicit false

namespace CodePush.Kernel

open CodePush.Compiler CodePush.Foundation

/-- `VariableDeclaration`; the key tells declarations of one name apart. -/
structure Variable where
  key : Nat
  name : Option String
  deriving Repr, DecidableEq

/-- The head of a `Catch`. Without a guard it catches everything. -/
structure CatchClause where
  guard : Option String
  exception : Option Variable
  stackTrace : Option Variable
  deriving Repr, DecidableEq

inductive Statement (E : Type) where
  | block (statements : List (Statement E))
  | variableDeclaration (declared : Variable) (initializer : Option E)
  | expressionStatement (expression : E)
  | ifStatement (condition : E) (thenStatement : Statement E) (otherwise : Option (Statement E))
  | returnStatement (expression : Option E)
  | tryCatch (body : Statement E) (catches : List (CatchClause × Statement E))
  | tryFinally (body finalizer : Statement E)
  | whileStatement (condition : E) (body : Statement E)
  | doStatement (body : Statement E) (condition : E)
  | forStatement (initializations : List (Variable × Option E)) (condition : Option E) (updates : List E)
      (body : Statement E)
  | labeledStatement (label : Nat) (body : Statement E)
  | breakStatement (target : Nat)

/-- How a statement ends when it throws nothing. -/
inductive Completion (ν : Type) where
  | normal
  | returned (value : ν)
  | broke (target : Nat)
  deriving DecidableEq

/-- What Dart does for expressions, and which exceptions a clause of a given type catches. -/
structure Dart (E ν ω : Type) where
  eval : E → Run Variable ν ω ν
  catches : String → ν → Bool
  stackTrace : ν → ν

namespace Dart

variable {E ν ω : Type} (machine : Machine ν ω) (dart : Dart E ν ω) (rounds : Nat)

/-- An initializer; a variable without one starts as null. -/
def initial : Option E → Run Variable ν ω ν
  | none => pure machine.null
  | some expression => dart.eval expression

def declare (declared : Variable) (initializer : Option E) : Run Variable ν ω Unit := do
  Run.write declared (← initial machine dart initializer)

def declareAll : List (Variable × Option E) → Run Variable ν ω Unit
  | [] => pure ()
  | (declared, initializer) :: rest => do
      declare machine dart declared initializer
      declareAll rest

def evalAll : List E → Run Variable ν ω Unit
  | [] => pure ()
  | expression :: rest => do
      let _ ← dart.eval expression
      evalAll rest

def writeOptional (declared : Option Variable) (value : ν) : Run Variable ν ω Unit :=
  match declared with
  | none => pure ()
  | some declared => Run.write declared value

def holds (condition : Option E) : Run Variable ν ω Bool :=
  match condition with
  | none => pure true
  | some condition => do pure (machine.isTrue (← dart.eval condition))

def CatchClause.accepts (clause : CatchClause) (exception : ν) : Bool :=
  match clause.guard with
  | none => true
  | some type => dart.catches type exception

mutual

def exec : Statement E → Run Variable ν ω (Completion ν)
  | .block statements => execAll statements
  | .variableDeclaration declared initializer => do
      declare machine dart declared initializer
      pure .normal
  | .expressionStatement expression => do
      let _ ← dart.eval expression
      pure .normal
  | .ifStatement condition thenStatement otherwise => do
      if machine.isTrue (← dart.eval condition) then exec thenStatement
      else
        match otherwise with
        | none => pure .normal
        | some otherwise => exec otherwise
  | .returnStatement expression => do
      pure (.returned (← initial machine dart expression))
  | .tryCatch body catches =>
      Run.catching (exec body) fun exception => execCatches exception catches
  | .tryFinally body finalizer =>
      Run.finishing (exec body) do
        match ← exec finalizer with
        | .normal => pure none
        | completion => pure (some completion)
  | .whileStatement condition body =>
      Run.cycle (do
        if machine.isTrue (← dart.eval condition) then
          match ← exec body with
          | .normal => pure none
          | completion => pure (some completion)
        else pure (some .normal)) rounds
  | .doStatement body condition => do
      match ← exec body with
      | .normal =>
          Run.cycle (do
            if machine.isTrue (← dart.eval condition) then
              match ← exec body with
              | .normal => pure none
              | completion => pure (some completion)
            else pure (some .normal)) rounds
      | completion => pure completion
  | .forStatement initializations condition updates body => do
      declareAll machine dart initializations
      Run.cycle (do
        if ← holds machine dart condition then
          match ← exec body with
          | .normal => do
              evalAll dart updates
              pure none
          | completion => pure (some completion)
        else pure (some .normal)) rounds
  | .labeledStatement label body => do
      match ← exec body with
      | .broke target => pure (if target = label then .normal else .broke target)
      | completion => pure completion
  | .breakStatement target => pure (.broke target)

def execAll : List (Statement E) → Run Variable ν ω (Completion ν)
  | [] => pure .normal
  | statement :: rest => do
      match ← exec statement with
      | .normal => execAll rest
      | completion => pure completion

/-- The first clause that accepts the exception handles it. -/
def execCatches (exception : ν) :
    List (CatchClause × Statement E) → Run Variable ν ω (Completion ν)
  | [] => Run.raise exception
  | (clause, body) :: rest =>
      if CatchClause.accepts dart clause exception then do
        writeOptional clause.exception exception
        writeOptional clause.stackTrace (dart.stackTrace exception)
        exec body
      else execCatches exception rest

end

/-- A function whose body ends without a `return` returns null. -/
def call (body : Statement E) : Run Variable ν ω ν := do
  match ← exec machine dart rounds body with
  | .returned value => pure value
  | _ => pure machine.null

end Dart

end CodePush.Kernel
