import CodePush.Reader.Scope

/-!
# Where synchronous lowering keeps its meaning

A list of statements is lowered to an expression that is taken for its value, the result of the
function, or for its effect. A `return` is kept only in the first case, and only where nothing
follows it; otherwise the run goes on after it.
-/

set_option autoImplicit false

namespace CodePush.Reader

open CodePush.Compiler CodePush.Foundation CodePush.Kernel

/-- What the expression made of some statements is used for. -/
inductive Mode where
  | value | effect
  deriving DecidableEq

section Conditions

variable {E ν ω : Type} (setting : Setting E ν ω) (callees : Callees E)

/-- The value of the expression is that of the source. -/
def Faithful (expression : E) : Prop := setting.Translates callees.expr Eq expression

/-- An expression statement. For a value, the source must be worth null, as the end of a body is. -/
def Expressed (mode : Mode) (expression : E) : Prop :=
  match mode with
  | .value => setting.Translates callees.expr (fun _ other => other = setting.machine.null) expression
  | .effect => setting.Translates callees.expr (fun _ _ => True) expression

/-- A function expression is no expression of the source; in Dart it makes a closure. -/
structure Inlined (function : E) : Prop where
  isFunctionExpression : callees.isFunctionExpression function = true
  refused : ∀ scope, callees.expr function scope = .ok none
  closure : ∀ frame, ∃ value, setting.dart.eval function frame = (.ok value, frame) ∧
    setting.IsClosure function value

/-- The statement never ends normally: it returns or throws. -/
def Leaves (statement : Statement E) : Prop :=
  ∀ frame, (setting.exec statement frame).1 ≠ .ok .normal

/-- The clause accepts whatever the body throws. -/
def Catches (clause : CatchClause) (body : Statement E) : Prop :=
  ∀ frame exception after, setting.exec body frame = (.error (.thrown exception), after) →
    Dart.CatchClause.accepts setting.dart clause exception = true

/-- What `_singleReturnExpr` looks at. -/
def Single : Statement E → Prop
  | .returnStatement (some _) => True
  | .block [.returnStatement (some _)] => True
  | .block (.variableDeclaration _ (some _) :: _ :: _) => True
  | _ => False

/-- What `_tailStatementsSourceExpr` leaves to `_tailStatementSequenceExpr`. -/
def Sequenced : List (Statement E) → Prop
  | [.tryFinally _ _] => True
  | [.tryCatch _ _] => True
  | [.ifStatement _ thenStatement none, second] => ¬ (Single thenStatement ∧ Single second)
  | _ :: _ :: _ => True
  | _ => False

mutual

/-- The statements are lowered to what they do, for a given use. The variables that are known
before are not declared again. -/
inductive Fits : Mode → List Variable → List (Statement E) → Prop where
  | returned {known : List Variable} {expression : E} (faithful : Faithful setting callees expression) :
      Fits .value known [.returnStatement (some expression)]
  | expression {mode : Mode} {known : List Variable} {expression : E}
      (expressed : Expressed setting callees mode expression) :
      Fits mode known [.expressionStatement expression]
  | ifReturn {mode : Mode} {known : List Variable} {statements : List (Statement E)}
      (fits : FitsIf mode known statements) : Fits mode known statements
  | block {mode : Mode} {known : List Variable} {statements : List (Statement E)}
      (fits : FitsIf mode known statements) : Fits mode known [.block statements]
  | declaration {mode : Mode} {known : List Variable} {declared : Variable} {initializer : E}
      {rest : List (Statement E)} (faithful : Faithful setting callees initializer)
      (fresh : declared ∉ known) (more : rest ≠ []) (fits : Fits mode (declared :: known) rest) :
      Fits mode known (.variableDeclaration declared (some initializer) :: rest)
  | sequence {mode : Mode} {known : List Variable} {statements : List (Statement E)}
      (shape : Sequenced statements) (fits : FitsItems mode known statements) :
      Fits mode known statements

/-- An `if` with both branches, or one whose branch leaves before a second statement. -/
inductive FitsIf : Mode → List Variable → List (Statement E) → Prop where
  | both {mode : Mode} {known : List Variable} {condition : E} {thenStatement otherwise : Statement E}
      (faithful : Faithful setting callees condition) (thenFits : FitsSingle mode known thenStatement)
      (elseFits : FitsSingle mode known otherwise) :
      FitsIf mode known [.ifStatement condition thenStatement (some otherwise)]
  | early {mode : Mode} {known : List Variable} {condition : E} {thenStatement second : Statement E}
      (faithful : Faithful setting callees condition) (thenFits : FitsSingle mode known thenStatement)
      (leaves : Leaves setting thenStatement) (restFits : FitsSingle mode known second) :
      FitsIf mode known [.ifStatement condition thenStatement none, second]

inductive FitsSingle : Mode → List Variable → Statement E → Prop where
  | returned {known : List Variable} {statement : Statement E} {expression : E}
      (only : returnStatement statement = some (some expression))
      (faithful : Faithful setting callees expression) : FitsSingle .value known statement
  | locals {mode : Mode} {known : List Variable} {statements : List (Statement E)}
      (several : 2 ≤ statements.length) (fits : FitsLet mode known statements) :
      FitsSingle mode known (.block statements)

/-- Declarations, and statements after them. -/
inductive FitsLet : Mode → List Variable → List (Statement E) → Prop where
  | declaration {mode : Mode} {known : List Variable} {declared : Variable} {initializer : E}
      {rest : List (Statement E)} (noFunction : callees.isFunctionExpression initializer = false)
      (faithful : Faithful setting callees initializer) (fresh : declared ∉ known)
      (fits : FitsRest mode (declared :: known) rest) :
      FitsLet mode known (.variableDeclaration declared (some initializer) :: rest)
  | closure {mode : Mode} {known : List Variable} {declared : Variable} {initializer : E}
      {rest : List (Statement E)} (inlined : Inlined setting callees initializer)
      (fresh : declared ∉ known) (fits : FitsRest mode (declared :: known) rest) :
      FitsLet mode known (.variableDeclaration declared (some initializer) :: rest)

inductive FitsRest : Mode → List Variable → List (Statement E) → Prop where
  | locals {mode : Mode} {known : List Variable} {statements : List (Statement E)}
      (fits : FitsLet mode known statements) : FitsRest mode known statements
  | tail {mode : Mode} {known : List Variable} {first : Statement E} {rest : List (Statement E)}
      (other : ∀ declared initializer, first ≠ .variableDeclaration declared (some initializer))
      (fits : Fits mode known (first :: rest)) : FitsRest mode known (first :: rest)

/-- The items of a sequence: only the last one is taken for its value. -/
inductive FitsItems : Mode → List Variable → List (Statement E) → Prop where
  | last {mode : Mode} {known : List Variable} {statement : Statement E}
      (fits : FitsItem mode known statement) : FitsItems mode known [statement]
  | cons {mode : Mode} {known : List Variable} {statement next : Statement E}
      {rest : List (Statement E)} (fits : FitsItem .effect known statement)
      (more : FitsItems mode known (next :: rest)) :
      FitsItems mode known (statement :: next :: rest)

inductive FitsItem : Mode → List Variable → Statement E → Prop where
  | returned {known : List Variable} {expression : E} (faithful : Faithful setting callees expression) :
      FitsItem .value known (.returnStatement (some expression))
  | expression {mode : Mode} {known : List Variable} {expression : E}
      (expressed : Expressed setting callees mode expression) :
      FitsItem mode known (.expressionStatement expression)
  | tryFinally {mode : Mode} {known : List Variable} {body finalizer : Statement E}
      (bodyFits : Fits .effect known (syncStatementsFromBody body))
      (finalizerFits : Fits .effect known (syncStatementsFromBody finalizer)) :
      FitsItem mode known (.tryFinally body finalizer)
  | tryCatch {mode : Mode} {known : List Variable} {guard : Option String} {exception : Variable}
      {body catchBody : Statement E} (catches : Catches setting ⟨guard, some exception, none⟩ body)
      (fresh : exception ∉ known) (bodyFits : Fits mode known (syncStatementsFromBody body))
      (catchFits : Fits mode (exception :: known) (syncStatementsFromBody catchBody)) :
      FitsItem mode known (.tryCatch body [(⟨guard, some exception, none⟩, catchBody)])
  | ifThen {mode : Mode} {known : List Variable} {condition : E} {thenStatement : Statement E}
      (faithful : Faithful setting callees condition)
      (thenFits : Fits mode known (syncStatementsFromBody thenStatement)) :
      FitsItem mode known (.ifStatement condition thenStatement none)
  | ifElse {mode : Mode} {known : List Variable} {condition : E} {thenStatement otherwise : Statement E}
      (faithful : Faithful setting callees condition)
      (thenFits : Fits mode known (syncStatementsFromBody thenStatement))
      (elseFits : Fits mode known (syncStatementsFromBody otherwise)) :
      FitsItem mode known (.ifStatement condition thenStatement (some otherwise))

end

end Conditions

/-!
## Simulation
-/

section Simulation

variable {E ν ω : Type} {setting : Setting E ν ω} {callees : Callees E} {scope : Scope E}
  {known : List Variable} {mode : Mode}

/-- How a statement and the source made of it end. -/
def Ends (null : ν) : Mode → Completion ν → ν → Prop
  | .value, .returned value, other => value = other
  | .value, .normal, other => other = null
  | .effect, .normal, _ => True
  | _, _, _ => False

/-- The functions for `switch` statements, which are labelled blocks here, take nothing else. -/
structure Callees.Regular (callees : Callees E) : Prop where
  switchReturn : ∀ statement scope, (∀ label body, statement ≠ .labeledStatement label body) →
    callees.switchReturnStatementExpr statement scope = .ok none
  switchAssign : ∀ statement scope, (∀ label body, statement ≠ .labeledStatement label body) →
    callees.switchAssignStatementExpr statement scope = .ok none

theorem bind_completion {σ ν : Type} (run : Action (Fault ν) σ (Completion ν)) :
    (do
      match ← run with
      | .normal => pure .normal
      | completion => pure completion) = run := by
  funext frame
  rw [Action.run_bind]
  rcases run frame with ⟨outcome, after⟩
  cases outcome with
  | error fault => rfl
  | ok completion => cases completion <;> rfl

theorem execAll_singleton (statement : Statement E) :
    setting.execAll [statement] = setting.exec statement :=
  bind_completion _

theorem execAll_syncStatementsFromBody (statement : Statement E) :
    setting.execAll (syncStatementsFromBody statement) = setting.exec statement := by
  cases statement with
  | block statements => rfl
  | _ => exact execAll_singleton _

theorem exec_of_returnStatement {statement : Statement E} {expression : E}
    (only : returnStatement statement = some (some expression)) :
    setting.exec statement = (do pure (.returned (← setting.dart.eval expression))) := by
  unfold returnStatement at only
  split at only
  · cases only
    rfl
  · cases only
    exact execAll_singleton _
  · cases only

/-- A result that is made of the value of an expression. -/
theorem simulated_map {α : Type} {first : Run Variable ν ω ν} {second : Run Int64 ν ω ν}
    {same : ν → ν → Prop} {same' : α → ν → Prop} {result : ν → α}
    (simulated : setting.Simulated scope same first second)
    (related : ∀ value other, same value other → same' (result value) other) :
    setting.Simulated scope same' (do pure (result (← first))) second := by
  rw [← bind_pure second]
  exact simulated.andThen fun value other results => .pure (related value other results)

theorem Faithful.returned {expression : E} {source : Expr} (faithful : Faithful setting callees expression)
    (sound : scope.Sound setting.params known) (lowered : callees.expr expression scope = .ok (some source)) :
    setting.Simulated scope (Ends setting.machine.null .value)
      (do pure (.returned (← setting.dart.eval expression))) (setting.meaning source) :=
  simulated_map (faithful known scope source sound lowered) fun _ _ same => same

theorem Expressed.statement {expression : E} {source : Expr}
    (expressed : Expressed setting callees mode expression) (sound : scope.Sound setting.params known)
    (lowered : callees.expr expression scope = .ok (some source)) :
    setting.Simulated scope (Ends setting.machine.null mode)
      (setting.exec (.expressionStatement expression)) (setting.meaning source) := by
  cases mode with
  | value => exact simulated_map (expressed known scope source sound lowered) fun _ _ same => same
  | effect => exact simulated_map (expressed known scope source sound lowered) fun _ _ _ => trivial

theorem Faithful.conditional {α β : Type} {same : α → β → Prop} {condition : E} {source : Expr}
    {thenRun elseRun : Run Variable ν ω α} {thenSource elseSource : Run Int64 ν ω β}
    (faithful : Faithful setting callees condition) (sound : scope.Sound setting.params known)
    (lowered : callees.expr condition scope = .ok (some source))
    (thenSimulated : setting.Simulated scope same thenRun thenSource)
    (elseSimulated : setting.Simulated scope same elseRun elseSource) :
    setting.Simulated scope same
      (do if setting.machine.isTrue (← setting.dart.eval condition) then thenRun else elseRun)
      (do if setting.machine.isTrue (← setting.meaning source) then thenSource else elseSource) := by
  apply (faithful known scope source sound lowered).andThen
  rintro value _ rfl
  split
  · exact thenSimulated
  · exact elseSimulated

/-- What `_tailStatementsSourceExpr` makes of statements does what they do. -/
def TailSound (setting : Setting E ν ω) (callees : Callees E) (tail : Tail E) : Prop :=
  ∀ mode known statements scope source, tail statements scope = .ok (some source) →
    Fits setting callees mode known statements → scope.Sound setting.params known →
    setting.Simulated scope (Ends setting.machine.null mode) (setting.execAll statements)
      (setting.meaning source)

variable {tail : Tail E}

theorem execAll_declaration (declared : Variable) (initializer : E) (rest : List (Statement E)) :
    setting.execAll (.variableDeclaration declared (some initializer) :: rest) = (do
      let value ← setting.dart.eval initializer
      Run.write declared value
      setting.execAll rest) := by
  have unfolded : setting.execAll (.variableDeclaration declared (some initializer) :: rest) = (do
    match ← (do
      Dart.declare setting.machine setting.dart declared (some initializer)
      pure Completion.normal) with
    | .normal => setting.execAll rest
    | completion => pure completion) := rfl
  rw [unfolded]
  simp only [Dart.declare, Dart.initial, bind_assoc, pure_bind]

/-- A declaration that becomes a local. -/
theorem simulated_declaration {declared : Variable} {initializer : E} {value : Expr} {id : Nat}
    {rest : List (Statement E)} {body : Run Int64 ν ω ν} {same : Completion ν → ν → Prop}
    (faithful : Faithful setting callees initializer) (sound : scope.Sound setting.params known)
    (fresh : declared ∉ known) (next : scope.Next id) (fits : id < 2 ^ 63)
    (lowered : callees.expr initializer scope = .ok (some value))
    (simulated : setting.Simulated (scope.bindLocal declared id) same (setting.execAll rest) body) :
    setting.Simulated scope same
      (setting.execAll (.variableDeclaration declared (some initializer) :: rest))
      (do Run.withVar (Int64.ofNat id) (← setting.meaning value) body) := by
  rw [execAll_declaration]
  apply (faithful known scope value sound lowered).andThen
  rintro result _ rfl
  exact Setting.simulated_bindLocal sound fresh next fits simulated result

/-- A declaration of a closure has no source. -/
theorem simulated_closure {declared : Variable} {function : E} {rest : List (Statement E)}
    {body : Run Int64 ν ω ν} {same : Completion ν → ν → Prop}
    (inlined : Inlined setting callees function) (sound : scope.Sound setting.params known)
    (fresh : declared ∉ known)
    (simulated : setting.Simulated (scope.bindClosure declared function) same (setting.execAll rest) body) :
    setting.Simulated scope same
      (setting.execAll (.variableDeclaration declared (some function) :: rest)) body := by
  intro left right related
  obtain ⟨value, evaluated, isClosure⟩ := inlined.closure left
  have bound := related.bindClosure sound fresh isClosure
  have written : Run.write declared value left =
    (.ok (), { left with vars := Function.update left.vars declared value }) := rfl
  rw [execAll_declaration, Action.run_bind_ok evaluated, Action.run_bind_ok written]
  rcases simulated.ends bound with
    ⟨result, other, left', right', firstEnd, secondEnd, results, states⟩ |
      ⟨fault, left', right', firstEnd, secondEnd, states⟩
  · rw [firstEnd, secondEnd]
    exact ⟨results, states.unbindClosure sound fresh⟩
  · rw [firstEnd, secondEnd]
    exact ⟨rfl, states.unbindClosure sound fresh⟩

theorem letPrefix_other {first : Statement E} {next : Nat} {rest : List (Statement E)}
    (other : ∀ declared initializer, first ≠ .variableDeclaration declared (some initializer)) :
    letPrefix callees next scope (first :: rest) = .ok (some ([], scope, first :: rest)) := by
  cases first with
  | variableDeclaration declared initializer =>
      cases initializer with
      | none => rfl
      | some initializer => exact absurd rfl (other declared initializer)
  | _ => rfl

/-- The declarations at the start of a list of statements, whatever is made of the others. -/
theorem letPrefix_sound {statements rest : List (Statement E)} {next : Nat}
    {locals : List (LocalSpec × Expr)} {inner : Scope E}
    (lowered : letPrefix callees next scope statements = .ok (some (locals, inner, rest)))
    (fits : FitsRest setting callees mode known statements) (sound : scope.Sound setting.params known)
    (counts : scope.Counts next) :
    ∃ innerKnown, inner.Sound setting.params innerKnown ∧
      Fits setting callees mode innerKnown rest ∧
      ∀ body, setting.Simulated inner (Ends setting.machine.null mode) (setting.execAll rest) body →
        setting.Simulated scope (Ends setting.machine.null mode) (setting.execAll statements)
          (meaningLocals setting.machine setting.args setting.rounds locals body) := by
  induction statements generalizing scope known next locals with
  | nil =>
      cases fits with
      | locals fits => cases fits
  | cons first statements ih =>
      cases fits with
      | tail other fits =>
          rw [letPrefix_other other] at lowered
          cases lowered
          exact ⟨known, sound, fits, fun body simulated => simulated⟩
      | locals fits =>
          cases fits with
          | declaration noFunction faithful fresh fits =>
              simp only [letPrefix, noFunction] at lowered
              obtain ⟨value, valueLowered, lowered⟩ := except_bind_eq_ok.mp lowered
              cases value with
              | none => cases lowered
              | some value =>
                  obtain ⟨id, made, lowered⟩ := except_bind_eq_ok.mp lowered
                  obtain ⟨result, resultLowered, lowered⟩ := except_bind_eq_ok.mp lowered
                  cases result with
                  | none => cases lowered
                  | some result =>
                      cases lowered
                      obtain ⟨small, rfl⟩ := localId_ok made
                      obtain ⟨innerKnown, innerSound, innerFits, simulated⟩ := ih resultLowered fits
                        (sound.bindLocal fresh counts.next.unused counts.small small)
                        (counts.bindLocal sound fresh)
                      refine ⟨innerKnown, innerSound, innerFits, fun body bodySimulated => ?_⟩
                      exact simulated_declaration faithful sound fresh counts.next small valueLowered
                        (simulated body bodySimulated)
          | closure inlined fresh fits =>
              simp only [letPrefix, inlined.isFunctionExpression] at lowered
              obtain ⟨innerKnown, innerSound, innerFits, simulated⟩ :=
                ih lowered fits (sound.bindClosure fresh _) ⟨counts.above, counts.small⟩
              refine ⟨innerKnown, innerSound, innerFits, fun body bodySimulated => ?_⟩
              exact simulated_closure inlined sound fresh (simulated body bodySimulated)

theorem letBody_sound {statements : List (Statement E)} {source : Expr}
    (tailSound : TailSound setting callees tail)
    (lowered : letBodySourceExpr callees tail (.block statements) scope = .ok (some source))
    (fits : FitsLet setting callees mode known statements) (sound : scope.Sound setting.params known) :
    setting.Simulated scope (Ends setting.machine.null mode) (setting.execAll statements)
      (setting.meaning source) := by
  dsimp only [letBodySourceExpr] at lowered
  split at lowered
  · cases lowered
  · obtain ⟨result, prefixLowered, lowered⟩ := except_bind_eq_ok.mp lowered
    cases result with
    | none => cases lowered
    | some result =>
        obtain ⟨locals, inner, rest⟩ := result
        obtain ⟨innerKnown, innerSound, innerFits, simulated⟩ :=
          letPrefix_sound prefixLowered (.locals fits) sound sound.counts
        dsimp only at lowered
        split at lowered
        · cases lowered
        · obtain ⟨bodyExpr, bodyLowered, lowered⟩ := except_bind_eq_ok.mp lowered
          cases bodyExpr with
          | none => cases lowered
          | some bodyExpr =>
              have whole := simulated _ (tailSound mode innerKnown rest inner bodyExpr bodyLowered
                innerFits innerSound)
              dsimp only at lowered
              split at lowered
              case isTrue empty =>
                cases lowered
                rw [List.isEmpty_iff.mp empty] at whole
                exact whole
              case isFalse =>
                cases lowered
                exact whole

theorem singleReturnExpr_let {statements : List (Statement E)}
    (fits : FitsLet setting callees mode known statements) :
    singleReturnExpr callees tail (.block statements) scope =
      letBodySourceExpr callees tail (.block statements) scope := by
  cases fits with
  | declaration => rfl
  | closure => rfl

theorem singleReturn_sound {statement : Statement E} {source : Expr}
    (tailSound : TailSound setting callees tail)
    (lowered : singleReturnExpr callees tail statement scope = .ok (some source))
    (fits : FitsSingle setting callees mode known statement) (sound : scope.Sound setting.params known) :
    setting.Simulated scope (Ends setting.machine.null mode) (setting.exec statement)
      (setting.meaning source) := by
  cases fits with
  | returned only faithful =>
      rw [exec_of_returnStatement only]
      unfold singleReturnExpr at lowered
      rw [only] at lowered
      exact faithful.returned sound lowered
  | locals several fits =>
      rw [singleReturnExpr_let fits] at lowered
      exact letBody_sound tailSound lowered fits sound

theorem ifReturnParts_eq_ok {condition : E} {thenStatement elseStatement : Statement E} {source : Expr}
    (lowered : ifReturnParts callees tail condition thenStatement elseStatement scope =
      .ok (some source)) :
    ∃ conditionExpr thenExpr elseExpr, callees.expr condition scope = .ok (some conditionExpr) ∧
      singleReturnExpr callees tail thenStatement scope = .ok (some thenExpr) ∧
      singleReturnExpr callees tail elseStatement scope = .ok (some elseExpr) ∧
      source = .conditional conditionExpr thenExpr elseExpr := by
  unfold ifReturnParts at lowered
  obtain ⟨conditionExpr, conditionLowered, lowered⟩ := except_bind_eq_ok.mp lowered
  obtain ⟨thenExpr, thenLowered, lowered⟩ := except_bind_eq_ok.mp lowered
  obtain ⟨elseExpr, elseLowered, lowered⟩ := except_bind_eq_ok.mp lowered
  cases conditionExpr with
  | none => cases lowered
  | some conditionExpr =>
      cases thenExpr with
      | none => cases lowered
      | some thenExpr =>
          cases elseExpr with
          | none => cases lowered
          | some elseExpr =>
              cases lowered
              exact ⟨conditionExpr, thenExpr, elseExpr, conditionLowered, thenLowered, elseLowered, rfl⟩

/-- After a branch that leaves, the second statement is the other branch. -/
theorem execAll_early {condition : E} {thenStatement second : Statement E}
    (leaves : Leaves setting thenStatement) :
    setting.execAll [.ifStatement condition thenStatement none, second] = (do
      if setting.machine.isTrue (← setting.dart.eval condition) then setting.exec thenStatement
      else setting.exec second) := by
  have unfolded : setting.execAll [.ifStatement condition thenStatement none, second] = (do
    match ← (do
      if setting.machine.isTrue (← setting.dart.eval condition) then setting.exec thenStatement
      else pure .normal) with
    | .normal => setting.execAll [second]
    | completion => pure completion) := rfl
  rw [unfolded, bind_assoc]
  congr 1
  funext value
  split
  · funext frame
    have left := leaves frame
    rw [Action.run_bind]
    rcases ran : setting.exec thenStatement frame with ⟨outcome, after⟩
    rw [ran] at left
    cases outcome with
    | error fault => rfl
    | ok completion =>
        cases completion with
        | normal => exact absurd rfl left
        | returned value => rfl
        | broke target => rfl
  · rw [pure_bind]
    exact execAll_singleton second

theorem fitsIf_sound {statements : List (Statement E)} {source : Expr}
    (tailSound : TailSound setting callees tail)
    (lowered : ifReturnBodySourceExpr callees tail (.block statements) scope = .ok (some source))
    (fits : FitsIf setting callees mode known statements) (sound : scope.Sound setting.params known) :
    setting.Simulated scope (Ends setting.machine.null mode) (setting.execAll statements)
      (setting.meaning source) := by
  cases fits with
  | both faithful thenFits elseFits =>
      obtain ⟨conditionExpr, thenExpr, elseExpr, conditionLowered, thenLowered, elseLowered, rfl⟩ :=
        ifReturnParts_eq_ok lowered
      rw [execAll_singleton]
      exact faithful.conditional sound conditionLowered
        (singleReturn_sound tailSound thenLowered thenFits sound)
        (singleReturn_sound tailSound elseLowered elseFits sound)
  | early faithful thenFits leaves restFits =>
      obtain ⟨conditionExpr, thenExpr, elseExpr, conditionLowered, thenLowered, elseLowered, rfl⟩ :=
        ifReturnParts_eq_ok lowered
      rw [execAll_early leaves]
      exact faithful.conditional sound conditionLowered
        (singleReturn_sound tailSound thenLowered thenFits sound)
        (singleReturn_sound tailSound elseLowered restFits sound)

/-!
### Sequences
-/

theorem Ends.of_effect {completion : Completion ν} {value : ν}
    (ends : Ends setting.machine.null .effect completion value) :
    completion = .normal := by
  cases completion with
  | normal => rfl
  | returned value => exact ends.elim
  | broke target => exact ends.elim

theorem Ends.normal (null : ν) (mode : Mode) : Ends null mode .normal null := by
  cases mode with
  | value => rfl
  | effect => trivial

/-- A finalizer that ends normally, after anything. -/
theorem simulated_finally {body finalizer : Statement E} {bodyExpr finalizerExpr : Expr}
    (bodySimulated : setting.Simulated scope (Ends setting.machine.null mode) (setting.exec body)
      (setting.meaning bodyExpr))
    (finalizerSimulated : setting.Simulated scope (Ends setting.machine.null .effect)
      (setting.exec finalizer) (setting.meaning finalizerExpr)) :
    setting.Simulated scope (Ends setting.machine.null mode) (setting.exec (.tryFinally body finalizer))
      (Run.finishing (setting.meaning bodyExpr) do
        let _ ← setting.meaning finalizerExpr
        pure none) := by
  apply bodySimulated.finishing
  apply finalizerSimulated.andThen
  intro completion value ends
  rw [ends.of_effect]
  exact .pure ⟨rfl, rfl⟩

theorem simulated_tryFinally {body finalizer : Statement E} {bodyExpr finalizerExpr : Expr}
    (bodySimulated : setting.Simulated scope (Ends setting.machine.null .effect) (setting.exec body)
      (setting.meaning bodyExpr))
    (finalizerSimulated : setting.Simulated scope (Ends setting.machine.null .effect)
      (setting.exec finalizer) (setting.meaning finalizerExpr)) :
    setting.Simulated scope (Ends setting.machine.null mode) (setting.exec (.tryFinally body finalizer))
      (setting.meaning (.tryFinally bodyExpr finalizerExpr false)) := by
  have finished := simulated_finally bodySimulated finalizerSimulated
  have whole : setting.Simulated scope (Ends setting.machine.null mode)
      (setting.exec (.tryFinally body finalizer) >>= pure)
      (setting.meaning (.tryFinally bodyExpr finalizerExpr false)) := by
    apply finished.andThen
    intro completion value ends
    rw [ends.of_effect]
    exact .pure (Ends.normal _ mode)
  rwa [bind_pure] at whole

theorem simulated_tryCatch {body catchBody : Statement E} {bodyExpr catchExpr : Expr}
    {guard : Option String} {exception : Variable} {id : Nat}
    (catches : Catches setting ⟨guard, some exception, none⟩ body)
    (sound : scope.Sound setting.params known) (fresh : exception ∉ known) (next : scope.Next id)
    (fits : id < 2 ^ 63)
    (bodySimulated : setting.Simulated scope (Ends setting.machine.null mode) (setting.exec body)
      (setting.meaning bodyExpr))
    (catchSimulated : setting.Simulated (scope.bindLocal exception id) (Ends setting.machine.null mode)
      (setting.exec catchBody) (setting.meaning catchExpr)) :
    setting.Simulated scope (Ends setting.machine.null mode)
      (setting.exec (.tryCatch body [(⟨guard, some exception, none⟩, catchBody)]))
      (setting.meaning (.tryCatch bodyExpr (Int64.ofNat id) catchExpr)) := by
  apply bodySimulated.catching
  intro thrown left left' ended
  have accepted := catches left thrown left' ended
  have handler : Dart.execCatches setting.machine setting.dart setting.rounds thrown
      [(⟨guard, some exception, none⟩, catchBody)] = (do
        Run.write exception thrown
        setting.exec catchBody) := by
    simp only [Dart.execCatches, accepted, if_true, Dart.writeOptional, pure_bind]
    rfl
  rw [handler]
  exact Setting.simulated_bindLocal sound fresh next fits catchSimulated thrown

theorem sequenceItem_ifThen {condition : E} {thenStatement : Statement E} {isLast : Bool} {item : Expr}
    (lowered : sequenceItem callees tail (.ifStatement condition thenStatement none) isLast scope =
      .ok (some item)) :
    ∃ conditionExpr thenExpr, callees.expr condition scope = .ok (some conditionExpr) ∧
      tail (syncStatementsFromBody thenStatement) scope = .ok (some thenExpr) ∧
      item = .conditional conditionExpr thenExpr Expr.null := by
  dsimp only [sequenceItem] at lowered
  obtain ⟨conditionExpr, conditionLowered, lowered⟩ := except_bind_eq_ok.mp lowered
  obtain ⟨thenExpr, thenLowered, lowered⟩ := except_bind_eq_ok.mp lowered
  cases conditionExpr with
  | none => cases lowered
  | some conditionExpr =>
      cases thenExpr with
      | none => cases lowered
      | some thenExpr =>
          cases lowered
          exact ⟨conditionExpr, thenExpr, conditionLowered, thenLowered, rfl⟩

theorem sequenceItem_sound {statement : Statement E} {isLast : Bool} {source : Expr}
    (tailSound : TailSound setting callees tail)
    (lowered : sequenceItem callees tail statement isLast scope = .ok (some source))
    (fits : FitsItem setting callees mode known statement) (sound : scope.Sound setting.params known) :
    setting.Simulated scope (Ends setting.machine.null mode) (setting.exec statement)
      (setting.meaning source) := by
  have part : ∀ {mode known statement scope source},
      tail (syncStatementsFromBody statement) scope = .ok (some source) →
      Fits setting callees mode known (syncStatementsFromBody statement) →
      scope.Sound setting.params known →
      setting.Simulated scope (Ends setting.machine.null mode) (setting.exec statement)
        (setting.meaning source) := by
    intro mode known statement scope source lowered fits sound
    have simulated := tailSound mode known _ scope source lowered fits sound
    rwa [execAll_syncStatementsFromBody] at simulated
  cases fits with
  | returned faithful =>
      dsimp only [sequenceItem] at lowered
      split at lowered
      · exact faithful.returned sound lowered
      · cases lowered
  | expression expressed => exact expressed.statement sound lowered
  | tryFinally bodyFits finalizerFits =>
      dsimp only [sequenceItem] at lowered
      obtain ⟨bodyExpr, bodyLowered, lowered⟩ := except_bind_eq_ok.mp lowered
      obtain ⟨finalizerExpr, finalizerLowered, lowered⟩ := except_bind_eq_ok.mp lowered
      cases bodyExpr with
      | none => cases lowered
      | some bodyExpr =>
          cases finalizerExpr with
          | none => cases lowered
          | some finalizerExpr =>
              cases lowered
              exact simulated_tryFinally (part bodyLowered bodyFits sound)
                (part finalizerLowered finalizerFits sound)
  | tryCatch catches fresh bodyFits catchFits =>
      dsimp only [sequenceItem] at lowered
      obtain ⟨id, made, lowered⟩ := except_bind_eq_ok.mp lowered
      obtain ⟨bodyExpr, bodyLowered, lowered⟩ := except_bind_eq_ok.mp lowered
      obtain ⟨catchExpr, catchLowered, lowered⟩ := except_bind_eq_ok.mp lowered
      obtain ⟨small, rfl⟩ := localId_ok made
      cases bodyExpr with
      | none => cases lowered
      | some bodyExpr =>
          cases catchExpr with
          | none => cases lowered
          | some catchExpr =>
              cases lowered
              exact simulated_tryCatch catches sound fresh sound.length.next small
                (part bodyLowered bodyFits sound)
                (part catchLowered catchFits (sound.bindLocal fresh sound.length.next.unused
                  sound.length.small small))
  | ifThen faithful thenFits =>
      obtain ⟨conditionExpr, thenExpr, conditionLowered, thenLowered, rfl⟩ := sequenceItem_ifThen lowered
      exact faithful.conditional sound conditionLowered (part thenLowered thenFits sound)
        (.pure (Ends.normal _ mode))
  | ifElse faithful thenFits elseFits =>
      dsimp only [sequenceItem] at lowered
      obtain ⟨conditionExpr, conditionLowered, lowered⟩ := except_bind_eq_ok.mp lowered
      obtain ⟨thenExpr, thenLowered, lowered⟩ := except_bind_eq_ok.mp lowered
      obtain ⟨elseExpr, elseLowered, lowered⟩ := except_bind_eq_ok.mp lowered
      cases conditionExpr with
      | none => cases lowered
      | some conditionExpr =>
          cases thenExpr with
          | none => cases lowered
          | some thenExpr =>
              cases elseExpr with
              | none => cases lowered
              | some elseExpr =>
                  cases lowered
                  exact faithful.conditional sound conditionLowered (part thenLowered thenFits sound)
                    (part elseLowered elseFits sound)

theorem sequenceItems_cons {statement : Statement E} {rest : List (Statement E)} {items : List Expr}
    (lowered : sequenceItems callees tail scope (statement :: rest) = .ok (some items)) :
    ∃ item others, sequenceItem callees tail statement rest.isEmpty scope = .ok (some item) ∧
      sequenceItems callees tail scope rest = .ok (some others) ∧ items = item :: others := by
  unfold sequenceItems at lowered
  obtain ⟨item, itemLowered, lowered⟩ := except_bind_eq_ok.mp lowered
  cases item with
  | none => cases lowered
  | some item =>
      obtain ⟨others, othersLowered, lowered⟩ := except_bind_eq_ok.mp lowered
      cases others with
      | none => cases lowered
      | some others =>
          cases lowered
          exact ⟨item, others, itemLowered, othersLowered, rfl⟩

theorem sequenceItems_sound {statements : List (Statement E)} {items : List Expr}
    (tailSound : TailSound setting callees tail)
    (lowered : sequenceItems callees tail scope statements = .ok (some items))
    (fits : FitsItems setting callees mode known statements) (sound : scope.Sound setting.params known) :
    setting.Simulated scope (Ends setting.machine.null mode) (setting.execAll statements)
      (setting.meaning (.seq items)) := by
  induction statements generalizing items with
  | nil => cases fits
  | cons statement rest ih =>
      obtain ⟨item, others, itemLowered, othersLowered, rfl⟩ := sequenceItems_cons lowered
      cases fits with
      | last fits =>
          cases othersLowered
          have single : setting.meaning (.seq [item]) = setting.meaning item := rfl
          rw [execAll_singleton, single]
          exact sequenceItem_sound tailSound itemLowered fits sound
      | cons fits more =>
          have first := sequenceItem_sound tailSound itemLowered fits sound
          obtain ⟨second, third, _, _, rfl⟩ := sequenceItems_cons othersLowered
          apply first.andThen
          intro completion value ends
          rw [ends.of_effect]
          exact ih othersLowered more

theorem sequence_sound {statements : List (Statement E)} {source : Expr}
    (tailSound : TailSound setting callees tail)
    (lowered : tailStatementSequenceExpr callees tail statements scope = .ok (some source))
    (fits : FitsItems setting callees mode known statements) (sound : scope.Sound setting.params known) :
    setting.Simulated scope (Ends setting.machine.null mode) (setting.execAll statements)
      (setting.meaning source) := by
  unfold tailStatementSequenceExpr at lowered
  split at lowered
  · cases lowered
  · obtain ⟨items, itemsLowered, lowered⟩ := except_bind_eq_ok.mp lowered
    cases items with
    | none => cases lowered
    | some items =>
        cases lowered
        exact sequenceItems_sound tailSound itemsLowered fits sound

/-!
### Statements
-/

theorem exists_cons_cons {α : Type} {items : List α} (several : 2 ≤ items.length) :
    ∃ first second rest, items = first :: second :: rest := by
  cases items with
  | nil => simp at several
  | cons first rest =>
      cases rest with
      | nil => simp at several
      | cons second rest => exact ⟨first, second, rest, rfl⟩

theorem single_of_singleReturn {statement : Statement E} {source : Expr}
    (lowered : singleReturnExpr callees tail statement scope = .ok (some source)) : Single statement := by
  unfold singleReturnExpr at lowered
  split at lowered
  case h_1 expression only =>
    unfold returnStatement at only
    split at only
    · cases only
      trivial
    · cases only
      trivial
    · cases only
  case h_2 =>
    unfold letBodySourceExpr at lowered
    split at lowered
    case h_2 => cases lowered
    case h_1 statements =>
      split at lowered
      · cases lowered
      case isFalse several =>
        obtain ⟨first, second, rest, rfl⟩ := exists_cons_cons (Nat.le_of_not_lt several)
        by_cases declares : ∃ declared initializer,
            first = .variableDeclaration declared (some initializer)
        · obtain ⟨declared, initializer, rfl⟩ := declares
          trivial
        · rw [letPrefix_other fun declared initializer same =>
            declares ⟨declared, initializer, same⟩] at lowered
          simp [refused] at lowered

theorem FitsRest.several {statements : List (Statement E)}
    (fits : FitsRest setting callees mode known statements) :
    ∃ first rest, statements = first :: rest := by
  cases fits with
  | locals fits =>
      cases fits with
      | declaration => exact ⟨_, _, rfl⟩
      | closure => exact ⟨_, _, rfl⟩
  | tail => exact ⟨_, _, rfl⟩

/-- What `_tailStatementsSourceExpr` makes of a declaration. -/
theorem tail_declaration {depth : Nat} {declared : Variable} {initializer : E} {next : Statement E}
    {rest : List (Statement E)} {source : Expr}
    (lowered : tailStatementsSourceExpr callees (depth + 1)
      (.variableDeclaration declared (some initializer) :: next :: rest) scope = .ok (some source)) :
    ∃ value body, callees.expr initializer scope = .ok (some value) ∧ nextLocalId scope.locals < 2 ^ 63 ∧
      tailStatementsSourceExpr callees (depth + 1) (next :: rest)
        (scope.bindLocal declared (nextLocalId scope.locals)) = .ok (some body) ∧
      source = .letIn [(⟨Int64.ofNat (nextLocalId scope.locals), localName declared⟩, value)] body := by
  dsimp only [tailStatementsSourceExpr, tailStatementsStep] at lowered
  obtain ⟨value, valueLowered, lowered⟩ := except_bind_eq_ok.mp lowered
  cases value with
  | none => cases lowered
  | some value =>
      obtain ⟨id, made, lowered⟩ := except_bind_eq_ok.mp lowered
      obtain ⟨body, bodyLowered, lowered⟩ := except_bind_eq_ok.mp lowered
      obtain ⟨small, rfl⟩ := localId_ok made
      cases body with
      | none => cases lowered
      | some body =>
          cases lowered
          exact ⟨value, body, valueLowered, small, bodyLowered, rfl⟩

/-- Where `_tailStatementsSourceExpr` accepts declarations, `_letBodySourceExpr` does. -/
theorem letPrefix_of_tail {depth : Nat} {statements : List (Statement E)} {source : Expr}
    (lowered : tailStatementsSourceExpr callees (depth + 1) statements scope = .ok (some source))
    (fits : FitsRest setting callees mode known statements) (sound : scope.Sound setting.params known) :
    ∃ locals inner rest body,
      letPrefix callees (nextLocalId scope.locals) scope statements = .ok (some (locals, inner, rest)) ∧
      tailStatementsSourceExpr callees (depth + 1) rest inner = .ok (some body) ∧
      (FitsLet setting callees mode known statements → locals ≠ []) := by
  induction statements generalizing scope known source with
  | nil =>
      cases fits with
      | locals fits => cases fits
  | cons first statements ih =>
      cases fits with
      | tail other fits =>
          refine ⟨[], scope, first :: statements, source, letPrefix_other other, lowered, ?_⟩
          intro fits
          cases fits with
          | declaration => exact absurd rfl (other _ _)
          | closure => exact absurd rfl (other _ _)
      | locals fits =>
          cases fits with
          | closure inlined fresh fits =>
              obtain ⟨next, rest, rfl⟩ := fits.several
              obtain ⟨value, _, valueLowered, _⟩ := tail_declaration lowered
              rw [inlined.refused] at valueLowered
              cases valueLowered
          | @declaration _ _ declared initializer _ noFunction faithful fresh fits =>
              obtain ⟨next, rest, rfl⟩ := fits.several
              obtain ⟨value, body, valueLowered, small, bodyLowered, _⟩ := tail_declaration lowered
              have counts := sound.counts
              obtain ⟨locals, inner, others, otherBody, prefixLowered, otherLowered, _⟩ :=
                ih bodyLowered fits (sound.bindLocal fresh counts.next.unused counts.small small)
              rw [sound.locals_bindLocal fresh, nextLocalId_append] at prefixLowered
              refine ⟨(⟨Int64.ofNat (nextLocalId scope.locals), localName declared⟩, value) :: locals,
                inner, others, otherBody, ?_, otherLowered, fun _ => List.cons_ne_nil _ _⟩
              have made : localId (nextLocalId scope.locals) =
                  .ok (Int64.ofNat (nextLocalId scope.locals)) := if_pos small
              simp only [letPrefix, noFunction, valueLowered, made, prefixLowered, except_ok_bind,
                Bool.false_eq_true, if_false]

/-- Where `_singleReturnExpr` refuses what it looks at, so does `_tailStatementsSourceExpr`. -/
theorem singleReturn_of_tail {depth : Nat} {statement : Statement E} {source : Expr}
    (lowered : tailStatementsSourceExpr callees depth (syncStatementsFromBody statement) scope =
      .ok (some source))
    (fits : FitsSingle setting callees mode known statement) (sound : scope.Sound setting.params known) :
    ∃ other, singleReturnExpr callees (tailStatementsSourceExpr callees depth) statement scope =
      .ok (some other) := by
  cases depth with
  | zero => cases lowered
  | succ depth =>
      cases fits with
      | @returned _ _ expression only faithful =>
          unfold singleReturnExpr
          rw [only]
          unfold returnStatement at only
          split at only
          · cases only
            exact ⟨source, lowered⟩
          · cases only
            exact ⟨source, lowered⟩
          · cases only
      | @locals _ _ statements several fits =>
          obtain ⟨locals, inner, rest, body, prefixLowered, bodyLowered, declares⟩ :=
            letPrefix_of_tail lowered (.locals fits) sound
          have declared : locals ≠ [] := declares fits
          have many : ¬ statements.length < 2 := by omega
          dsimp only [syncStatementsFromBody] at prefixLowered
          refine ⟨.letIn locals body, ?_⟩
          rw [singleReturnExpr_let fits]
          simp [letBodySourceExpr, many, prefixLowered, declared, bodyLowered]

theorem tailStatement_sound {only : Statement E} {source : Expr} (regular : callees.Regular)
    (tailSound : TailSound setting callees tail)
    (lowered : tailStatement callees tail only scope = .ok (some source))
    (fits : Fits setting callees mode known [only]) (sound : scope.Sound setting.params known) :
    setting.Simulated scope (Ends setting.machine.null mode) (setting.exec only)
      (setting.meaning source) := by
  rw [← execAll_singleton]
  cases fits with
  | returned faithful =>
      rw [execAll_singleton]
      exact faithful.returned sound lowered
  | expression expressed =>
      rw [execAll_singleton]
      exact expressed.statement sound lowered
  | ifReturn fits =>
      cases fits with
      | both faithful thenFits elseFits =>
          dsimp only [tailStatement] at lowered
          rw [regular.switchReturn _ _ (by simp)] at lowered
          exact fitsIf_sound tailSound lowered (.both faithful thenFits elseFits) sound
  | block fits =>
      dsimp only [tailStatement] at lowered
      rw [regular.switchReturn _ _ (by simp)] at lowered
      rw [execAll_singleton]
      exact fitsIf_sound tailSound lowered fits sound
  | declaration faithful fresh more fits => exact absurd rfl more
  | sequence shape fits =>
      cases only with
      | tryFinally body finalizer => exact sequence_sound tailSound lowered fits sound
      | tryCatch body catches => exact sequence_sound tailSound lowered fits sound
      | ifStatement condition thenStatement otherwise =>
          cases otherwise with
          | none => exact shape.elim
          | some otherwise => exact shape.elim
      | _ => exact shape.elim

/-- Several statements of which the first is no declaration. -/
theorem tail_several {depth : Nat} {first second : Statement E} {rest : List (Statement E)}
    (regular : callees.Regular)
    (noDeclaration : ∀ declared initializer, first ≠ .variableDeclaration declared (some initializer))
    (noLabel : ∀ label body, first ≠ .labeledStatement label body) :
    tailStatementsSourceExpr callees (depth + 1) (first :: second :: rest) scope =
      orElse
        (if rest = [] then
          ifReturnBodySourceExpr callees (tailStatementsSourceExpr callees depth)
            (.block [first, second]) scope
        else refused)
        fun _ => tailStatementSequenceExpr callees (tailStatementsSourceExpr callees depth)
          (first :: second :: rest) scope := by
  have unfolded : tailStatementsSourceExpr callees (depth + 1) (first :: second :: rest) scope =
      tailSeveral callees (tailStatementsSourceExpr callees depth) first (second :: rest) scope
        fun _ => tailStatementsSourceExpr callees (depth + 1) (second :: rest) scope := by
    cases first with
    | variableDeclaration declared initializer =>
        cases initializer with
        | none => rfl
        | some initializer => exact absurd rfl (noDeclaration declared initializer)
    | _ => rfl
  rw [unfolded, tailSeveral, regular.switchAssign first scope noLabel]
  cases rest with
  | nil => rfl
  | cons third rest => rfl

theorem FitsItem.first {statement : Statement E} (fits : FitsItem setting callees mode known statement) :
    (∀ declared initializer, statement ≠ .variableDeclaration declared (some initializer)) ∧
      ∀ label body, statement ≠ .labeledStatement label body := by
  cases fits <;> simp

/-- The parts of an early return that the sequence would take, `_ifReturnBodySourceExpr` takes. -/
theorem ifReturn_of_sequence {depth : Nat} {condition : E} {thenStatement second : Statement E}
    {source : Expr} (thenFits : FitsSingle setting callees mode known thenStatement)
    (restFits : FitsSingle setting callees mode known second)
    (sound : scope.Sound setting.params known)
    (lowered : tailStatementSequenceExpr callees (tailStatementsSourceExpr callees depth)
      [.ifStatement condition thenStatement none, second] scope = .ok (some source)) :
    ifReturnBodySourceExpr callees (tailStatementsSourceExpr callees depth)
      (.block [.ifStatement condition thenStatement none, second]) scope ≠ .ok none := by
  dsimp only [tailStatementSequenceExpr] at lowered
  obtain ⟨items, itemsLowered, lowered⟩ := except_bind_eq_ok.mp lowered
  cases items with
  | none => cases lowered
  | some items =>
      obtain ⟨item, others, itemLowered, othersLowered, _⟩ := sequenceItems_cons itemsLowered
      obtain ⟨last, _, lastLowered, _, _⟩ := sequenceItems_cons othersLowered
      obtain ⟨conditionExpr, thenExpr, conditionLowered, thenLowered, _⟩ :=
        sequenceItem_ifThen itemLowered
      obtain ⟨thenOther, thenSingle⟩ := singleReturn_of_tail thenLowered thenFits sound
      have secondSingle : singleReturnExpr callees (tailStatementsSourceExpr callees depth) second scope =
          .ok (some last) := by
        cases restFits with
        | returned only faithful =>
            unfold returnStatement at only
            split at only
            · cases only
              exact lastLowered
            · cases lastLowered
            · cases only
        | locals => cases lastLowered
      dsimp only [ifReturnBodySourceExpr, ifReturnParts]
      rw [conditionLowered, thenSingle, secondSingle]
      intro refused
      cases refused

theorem sequenced_not_ifReturn {first second : Statement E} {rest : List (Statement E)} {source : Expr}
    (shape : Sequenced (first :: second :: rest)) :
    (if rest = [] then ifReturnBodySourceExpr callees tail (.block [first, second]) scope
      else refused) ≠ .ok (some source) := by
  intro lowered
  split at lowered
  case isFalse => cases lowered
  case isTrue empty =>
    subst empty
    cases first with
    | ifStatement condition thenStatement otherwise =>
        cases otherwise with
        | some otherwise => cases lowered
        | none =>
            obtain ⟨_, _, _, _, thenLowered, secondLowered, _⟩ := ifReturnParts_eq_ok lowered
            exact shape ⟨single_of_singleReturn thenLowered, single_of_singleReturn secondLowered⟩
    | _ => cases lowered

theorem tail_sound (regular : callees.Regular) (depth : Nat) :
    TailSound setting callees (tailStatementsSourceExpr callees depth) := by
  induction depth with
  | zero =>
      intro mode known statements scope source lowered
      cases lowered
  | succ depth tailSound =>
      intro mode known statements
      induction statements generalizing mode known with
      | nil =>
          intro scope source lowered
          cases lowered
      | cons first statements ih =>
          intro scope source lowered fits sound
          cases statements with
          | nil =>
              rw [execAll_singleton]
              exact tailStatement_sound regular tailSound lowered fits sound
          | cons second rest =>
              cases fits with
              | declaration faithful fresh more fits =>
                  obtain ⟨value, body, valueLowered, small, bodyLowered, rfl⟩ := tail_declaration lowered
                  have counts := sound.counts
                  have inner := ih _ _ _ _ bodyLowered fits
                    (sound.bindLocal fresh counts.next.unused counts.small small)
                  exact simulated_declaration faithful sound fresh counts.next small valueLowered inner
              | ifReturn fits =>
                  cases fits with
                  | early faithful thenFits leaves restFits =>
                      rw [tail_several regular (by simp) (by simp), if_pos rfl] at lowered
                      rcases orElse_eq_ok.mp lowered with lowered | ⟨refused, lowered⟩
                      · exact fitsIf_sound tailSound lowered (.early faithful thenFits leaves restFits) sound
                      · exact absurd refused (ifReturn_of_sequence thenFits restFits sound lowered)
              | sequence shape fits =>
                  cases fits with
                  | cons itemFits more =>
                      obtain ⟨noDeclaration, noLabel⟩ := itemFits.first
                      rw [tail_several regular noDeclaration noLabel] at lowered
                      rcases orElse_eq_ok.mp lowered with lowered | ⟨_, lowered⟩
                      · exact absurd lowered (sequenced_not_ifReturn shape)
                      · exact sequence_sound tailSound lowered (.cons itemFits more) sound

end Simulation

end CodePush.Reader
