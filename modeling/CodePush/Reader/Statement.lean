import CodePush.Kernel.Statement

/-!
# Synchronous function bodies

The functions of `tool/fcb_kernel_statement_expr.dart` and the chain of `_bytecodeSource` that
calls them. What they call in other files is a parameter; so is how deep they may recurse into
statements before the stack is exhausted.
-/

set_option autoImplicit false

namespace CodePush.Reader

open CodePush.Compiler CodePush.Kernel

/-- How the reader ends without an inventory: `first` of an empty list, or no memory left. -/
inductive Crash where
  | noElement
  | exhausted
  deriving Repr, DecidableEq

/-- A lowering function returns an optional result; `none` is null. -/
abbrev Lowering := Except Crash

def refused {α : Type} : Lowering (Option α) := .ok none

/-- The operator `??`. -/
def orElse {α : Type} (first : Lowering (Option α)) (second : Unit → Lowering (Option α)) :
    Lowering (Option α) :=
  match first with
  | .ok none => second ()
  | result => result

theorem orElse_eq_ok {α : Type} {first : Lowering (Option α)} {second : Unit → Lowering (Option α)}
    {value : α} :
    orElse first second = .ok (some value) ↔
      first = .ok (some value) ∨ first = .ok none ∧ second () = .ok (some value) := by
  cases first with
  | error crash => simp [orElse]
  | ok result =>
      cases result with
      | none => simp [orElse]
      | some other => simp [orElse]

/-- `map[key] = value`. -/
def insert {α : Type} (key : Variable) (value : α) : List (Variable × α) → List (Variable × α)
  | [] => [(key, value)]
  | (other, old) :: rest =>
      if other = key then (key, value) :: rest else (other, old) :: insert key value rest

/-- What the lowering knows about variables: the ids of those that are locals of the source, and
the functions that others are initialized with. -/
structure Scope (E : Type) where
  locals : List (Variable × Nat)
  closures : List (Variable × E)

namespace Scope

variable {E : Type}

def empty : Scope E := ⟨[], []⟩

def bindLocal (scope : Scope E) (declared : Variable) (id : Nat) : Scope E :=
  { scope with locals := insert declared id scope.locals }

def bindClosure (scope : Scope E) (declared : Variable) (function : E) : Scope E :=
  { scope with closures := insert declared function scope.closures }

end Scope

def nextLocalId (locals : List (Variable × Nat)) : Nat :=
  locals.foldl (fun next entry => if next ≤ entry.2 then entry.2 + 1 else next) 0

/-- Ids are 64-bit integers. A map with more variables than that does not fit in memory. -/
def localId (id : Nat) : Except Crash Int64 :=
  if id < 2 ^ 63 then .ok (Int64.ofNat id) else .error .exhausted

/-- The name of a local is left out when it is missing or empty. -/
def localName (declared : Variable) : Option String := declared.name.filter (· ≠ "")

/-- What the statement functions call: `_expr`, the test for a `FunctionExpression`, the
functions for `switch` statements, and `_returnBodySourceExpr`. -/
structure Callees (E : Type) where
  expr : E → Scope E → Lowering (Option Expr)
  isFunctionExpression : E → Bool
  switchReturnStatementExpr : Statement E → Scope E → Lowering (Option Expr)
  switchAssignStatementExpr : Statement E → Scope E → Lowering (Option Expr)
  returnBodySourceExpr : Statement E → Lowering (Option Expr)

section Statements

variable {E : Type} (callees : Callees E)

/-- The expression of a `_returnStatement`, if there is such a statement. -/
def returnStatement : Statement E → Option (Option E)
  | .returnStatement expression => some expression
  | .block [.returnStatement expression] => some expression
  | _ => none

def syncStatementsFromBody : Statement E → List (Statement E)
  | .block statements => statements
  | statement => [statement]

/-- The loop of `_letBodySourceExpr`: the locals, the scope after them and the other statements. -/
def letPrefix (next : Nat) (scope : Scope E) :
    List (Statement E) → Lowering (Option (List (LocalSpec × Expr) × Scope E × List (Statement E)))
  | .variableDeclaration declared (some initializer) :: rest =>
      if callees.isFunctionExpression initializer then
        letPrefix next (scope.bindClosure declared initializer) rest
      else do
        match ← callees.expr initializer scope with
        | none => refused
        | some value =>
            let id ← localId next
            match ← letPrefix (next + 1) (scope.bindLocal declared next) rest with
            | none => refused
            | some (locals, scope, rest) =>
                .ok (some ((⟨id, localName declared⟩, value) :: locals, scope, rest))
  | statements => .ok (some ([], scope, statements))

/-- `_tailStatementsSourceExpr`, through which the functions below call each other. -/
abbrev Tail (E : Type) := List (Statement E) → Scope E → Lowering (Option Expr)

variable (tailStatementsSourceExpr : Tail E)

def letBodySourceExpr (body : Statement E) (base : Scope E) : Lowering (Option Expr) :=
  match body with
  | .block statements =>
      if statements.length < 2 then refused
      else do
        match ← letPrefix callees (nextLocalId base.locals) base statements with
        | none => refused
        | some (locals, scope, rest) =>
            if locals.isEmpty && scope.closures.length == base.closures.length then refused
            else
              match ← tailStatementsSourceExpr rest scope with
              | none => refused
              | some bodyExpr =>
                  if locals.isEmpty then .ok (some bodyExpr) else .ok (some (.letIn locals bodyExpr))
  | _ => refused

def singleReturnExpr (body : Statement E) (scope : Scope E) : Lowering (Option Expr) :=
  match returnStatement body with
  | some (some expression) => callees.expr expression scope
  | _ => letBodySourceExpr callees tailStatementsSourceExpr body scope

/-- The end of `_ifReturnExpr` and `_ifReturnBodySourceExpr`. -/
def ifReturnParts (condition : E) (thenStatement elseStatement : Statement E) (scope : Scope E) :
    Lowering (Option Expr) := do
  let condition ← callees.expr condition scope
  let thenExpr ← singleReturnExpr callees tailStatementsSourceExpr thenStatement scope
  let elseExpr ← singleReturnExpr callees tailStatementsSourceExpr elseStatement scope
  match condition, thenExpr, elseExpr with
  | some condition, some thenExpr, some elseExpr =>
      .ok (some (.conditional condition thenExpr elseExpr))
  | _, _, _ => refused

def ifReturnExpr (condition : E) (thenStatement : Statement E) (otherwise : Option (Statement E))
    (scope : Scope E) : Lowering (Option Expr) :=
  match otherwise with
  | none => refused
  | some otherwise => ifReturnParts callees tailStatementsSourceExpr condition thenStatement otherwise scope

def ifReturnBodySourceExpr (body : Statement E) (scope : Scope E) : Lowering (Option Expr) :=
  match body with
  | .ifStatement condition thenStatement otherwise =>
      ifReturnExpr callees tailStatementsSourceExpr condition thenStatement otherwise scope
  | .block [.ifStatement condition thenStatement otherwise] =>
      ifReturnExpr callees tailStatementsSourceExpr condition thenStatement otherwise scope
  | .block [.ifStatement condition thenStatement none, second] =>
      ifReturnParts callees tailStatementsSourceExpr condition thenStatement second scope
  | _ => refused

/-- One round of the loop of `_tailStatementSequenceExpr`. -/
def sequenceItem (statement : Statement E) (isLast : Bool) (scope : Scope E) : Lowering (Option Expr) :=
  match statement with
  | .returnStatement (some expression) =>
      if isLast then callees.expr expression scope else refused
  | .tryFinally body finalizer => do
      let bodyExpr ← tailStatementsSourceExpr (syncStatementsFromBody body) scope
      let finalizerExpr ← tailStatementsSourceExpr (syncStatementsFromBody finalizer) scope
      match bodyExpr, finalizerExpr with
      | some bodyExpr, some finalizerExpr => .ok (some (.tryFinally bodyExpr finalizerExpr false))
      | _, _ => refused
  | .tryCatch body [(⟨_, some exception, none⟩, catchBody)] => do
      let catchLocalId := scope.locals.length
      let id ← localId catchLocalId
      let bodyExpr ← tailStatementsSourceExpr (syncStatementsFromBody body) scope
      let catchExpr ← tailStatementsSourceExpr (syncStatementsFromBody catchBody)
        (scope.bindLocal exception catchLocalId)
      match bodyExpr, catchExpr with
      | some bodyExpr, some catchExpr => .ok (some (.tryCatch bodyExpr id catchExpr))
      | _, _ => refused
  | .ifStatement condition thenStatement otherwise => do
      let condition ← callees.expr condition scope
      let thenExpr ← tailStatementsSourceExpr (syncStatementsFromBody thenStatement) scope
      let elseExpr ←
        match otherwise with
        | none => .ok (some Expr.null)
        | some otherwise => tailStatementsSourceExpr (syncStatementsFromBody otherwise) scope
      match condition, thenExpr, elseExpr with
      | some condition, some thenExpr, some elseExpr =>
          .ok (some (.conditional condition thenExpr elseExpr))
      | _, _, _ => refused
  | .expressionStatement expression => callees.expr expression scope
  | _ => refused

def sequenceItems (scope : Scope E) : List (Statement E) → Lowering (Option (List Expr))
  | [] => .ok (some [])
  | statement :: rest => do
      match ← sequenceItem callees tailStatementsSourceExpr statement rest.isEmpty scope with
      | none => refused
      | some item =>
          match ← sequenceItems scope rest with
          | none => refused
          | some items => .ok (some (item :: items))

def tailStatementSequenceExpr (statements : List (Statement E)) (scope : Scope E) : Lowering (Option Expr) := do
  if statements.isEmpty then refused
  else
    match ← sequenceItems callees tailStatementsSourceExpr scope statements with
    | none => refused
    | some items => .ok (some (.seq items))

/-- `_tailStatementsSourceExpr` for one statement. -/
def tailStatement (only : Statement E) (scope : Scope E) : Lowering (Option Expr) :=
  match only with
  | .returnStatement (some expression) => callees.expr expression scope
  | .expressionStatement expression => callees.expr expression scope
  | .tryFinally _ _ => tailStatementSequenceExpr callees tailStatementsSourceExpr [only] scope
  | .tryCatch _ _ => tailStatementSequenceExpr callees tailStatementsSourceExpr [only] scope
  | _ =>
      orElse (callees.switchReturnStatementExpr only scope) fun _ =>
        ifReturnBodySourceExpr callees tailStatementsSourceExpr only scope

/-- `_tailStatementsSourceExpr` for statements of which the first is no declaration; the last
argument is for the statements after it. -/
def tailSeveral (first : Statement E) (rest : List (Statement E)) (scope : Scope E)
    (restExpr : Unit → Lowering (Option Expr)) : Lowering (Option Expr) := do
  match ← callees.switchAssignStatementExpr first scope with
  | some switchAssign =>
      match ← restExpr () with
      | none => refused
      | some tail => .ok (some (.seq [switchAssign, tail]))
  | none =>
      let ifReturn :=
        if rest.length = 1 then
          ifReturnBodySourceExpr callees tailStatementsSourceExpr (.block (first :: rest)) scope
        else refused
      orElse ifReturn fun _ =>
        tailStatementSequenceExpr callees tailStatementsSourceExpr (first :: rest) scope

/-- `_tailStatementsSourceExpr`, with the recursion into parts of statements given. -/
def tailStatementsStep : Tail E
  | [], _ => .error .noElement
  | [only], scope => tailStatement callees tailStatementsSourceExpr only scope
  | .variableDeclaration declared (some initializer) :: rest, scope => do
      match ← callees.expr initializer scope with
      | none => refused
      | some value =>
          let id ← localId (nextLocalId scope.locals)
          match ← tailStatementsStep rest (scope.bindLocal declared (nextLocalId scope.locals)) with
          | none => refused
          | some bodyExpr => .ok (some (.letIn [(⟨id, localName declared⟩, value)] bodyExpr))
  | first :: rest, scope =>
      tailSeveral callees tailStatementsSourceExpr first rest scope fun _ => tailStatementsStep rest scope

end Statements

section Bodies

variable {E : Type} (callees : Callees E)

def tailStatementsSourceExpr : Nat → Tail E
  | 0, _, _ => .error .exhausted
  | depth + 1, statements, scope =>
      tailStatementsStep callees (tailStatementsSourceExpr depth) statements scope

variable (depth : Nat)

/-- The only statement of a body. -/
def onlyStatement : Statement E → Statement E
  | .block [only] => only
  | body => body

def tryCatchBodySourceExpr (body : Statement E) : Lowering (Option Expr) :=
  match onlyStatement body with
  | .tryCatch tryBody [(⟨_, some exception, none⟩, catchBody)] => do
      let tail := tailStatementsSourceExpr callees depth
      let bodyExpr ← singleReturnExpr callees tail tryBody .empty
      let catchExpr ← singleReturnExpr callees tail catchBody (Scope.empty.bindLocal exception 0)
      match bodyExpr, catchExpr with
      | some bodyExpr, some catchExpr => .ok (some (.tryCatch bodyExpr 0 catchExpr))
      | _, _ => refused
  | _ => refused

def isReturn : Statement E → Bool
  | .returnStatement _ => true
  | _ => false

def tryFinallyBodySourceExpr (body : Statement E) : Lowering (Option Expr) :=
  match onlyStatement body with
  | .tryFinally tryBody finalizer =>
      let finalizerStatements := syncStatementsFromBody finalizer
      if finalizerStatements.any isReturn then refused
      else do
        let tail := tailStatementsSourceExpr callees depth
        let bodyExpr ← orElse (singleReturnExpr callees tail tryBody .empty) fun _ =>
          tryCatchBodySourceExpr callees depth tryBody
        let finalizerExpr ← tail finalizerStatements .empty
        match bodyExpr, finalizerExpr with
        | some bodyExpr, some finalizerExpr => .ok (some (.tryFinally bodyExpr finalizerExpr true))
        | _, _ => refused
  | _ => refused

/-- The items of a sequence; anything else is one item. -/
def seqItems : Expr → List Expr
  | .seq items => items
  | expr => [expr]

def syncExpressionStatementSequenceExpr (body : Statement E) : Lowering (Option Expr) :=
  match body with
  | .block [] => refused
  | .block statements => do
      match ← tailStatementsSourceExpr callees depth statements .empty with
      | none => refused
      | some expr =>
          if (statements.getLast?.map isReturn).getD false then .ok (some expr)
          else .ok (some (.seq (seqItems expr ++ [Expr.null])))
  | _ => refused

/-- The body of the source that `_bytecodeSource` makes of a synchronous function. -/
def syncBodyExpr (body : Statement E) : Lowering (Option Expr) :=
  let returned : Lowering (Option Expr) :=
    match returnStatement body with
    | some (some expression) => callees.expr expression .empty
    | _ => refused
  orElse returned fun _ =>
  orElse (letBodySourceExpr callees (tailStatementsSourceExpr callees depth) body .empty) fun _ =>
  orElse (tryCatchBodySourceExpr callees depth body) fun _ =>
  orElse (tryFinallyBodySourceExpr callees depth body) fun _ =>
  orElse (callees.switchReturnStatementExpr (onlyStatement body) .empty) fun _ =>
  orElse (syncExpressionStatementSequenceExpr callees depth body) fun _ =>
  callees.returnBodySourceExpr body

end Bodies

end CodePush.Reader
