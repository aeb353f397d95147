import CodePush.Reader.StatementProperties

/-!
# Whole synchronous bodies

The alternatives that `_bytecodeSource` tries on a body, one after the other, and the bodies
whose source returns and throws what they do.
-/

set_option autoImplicit false

namespace CodePush.Reader

open CodePush.Compiler CodePush.Foundation CodePush.Kernel

/-!
## Depth

A lowering that has not run out of its stack has the same result with a deeper one.
-/

/-- The second computation has the result of the first, if there is one. -/
def Extends {α : Type} (first second : Lowering α) : Prop := ∀ result, first = .ok result → second = .ok result

namespace Extends
variable {α β : Type}

theorem refl (first : Lowering α) : Extends first first := fun _ same => same

theorem bind {first second : Lowering α} {next next' : α → Lowering β} (extended : Extends first second)
    (rest : ∀ value, Extends (next value) (next' value)) :
    Extends (first >>= next) (second >>= next') := by
  intro result lowered
  obtain ⟨value, firstLowered, lowered⟩ := except_bind_eq_ok.mp lowered
  rw [extended value firstLowered]
  exact rest value result lowered

theorem orElse {first second : Lowering (Option α)} {next next' : Unit → Lowering (Option α)}
    (extended : Extends first second) (rest : Extends (next ()) (next' ())) :
    Extends (orElse first next) (orElse second next') := by
  intro result lowered
  cases first with
  | error crash => cases lowered
  | ok value =>
      rw [extended value rfl]
      cases value with
      | none => exact rest result lowered
      | some value => exact lowered

end Extends

section Depth

variable {E : Type} {callees : Callees E} {tail tail' : Tail E}

def TailExtends (tail tail' : Tail E) : Prop :=
  ∀ statements scope, Extends (tail statements scope) (tail' statements scope)

theorem letBody_extends (extended : TailExtends tail tail')
    (body : Statement E) (scope : Scope E) :
    Extends (letBodySourceExpr callees tail body scope) (letBodySourceExpr callees tail' body scope) := by
  cases body with
  | block statements =>
      dsimp only [letBodySourceExpr]
      split
      · exact .refl _
      · apply Extends.bind (.refl _)
        intro result
        cases result with
        | none => exact .refl _
        | some result =>
            obtain ⟨locals, inner, rest⟩ := result
            dsimp only
            split
            · exact .refl _
            · exact (extended rest inner).bind fun _ => .refl _
  | _ => exact .refl _

theorem singleReturn_extends (extended : TailExtends tail tail')
    (body : Statement E) (scope : Scope E) :
    Extends (singleReturnExpr callees tail body scope) (singleReturnExpr callees tail' body scope) := by
  unfold singleReturnExpr
  split
  · exact .refl _
  · exact letBody_extends extended body scope

theorem ifReturnBody_extends (extended : TailExtends tail tail')
    (body : Statement E) (scope : Scope E) :
    Extends (ifReturnBodySourceExpr callees tail body scope)
      (ifReturnBodySourceExpr callees tail' body scope) := by
  have parts : ∀ condition thenStatement elseStatement,
      Extends (ifReturnParts callees tail condition thenStatement elseStatement scope)
        (ifReturnParts callees tail' condition thenStatement elseStatement scope) := by
    intro condition thenStatement elseStatement
    apply Extends.bind (.refl _)
    intro condition
    apply (singleReturn_extends extended thenStatement scope).bind
    intro thenExpr
    exact (singleReturn_extends extended elseStatement scope).bind fun _ => .refl _
  have whole : ∀ condition thenStatement otherwise,
      Extends (ifReturnExpr callees tail condition thenStatement otherwise scope)
        (ifReturnExpr callees tail' condition thenStatement otherwise scope) := by
    intro condition thenStatement otherwise
    cases otherwise with
    | none => exact .refl _
    | some otherwise => exact parts condition thenStatement otherwise
  unfold ifReturnBodySourceExpr
  split
  · exact whole _ _ _
  · exact whole _ _ _
  · exact parts _ _ _
  · exact .refl _

theorem sequenceItem_extends (extended : TailExtends tail tail')
    (statement : Statement E) (isLast : Bool) (scope : Scope E) :
    Extends (sequenceItem callees tail statement isLast scope)
      (sequenceItem callees tail' statement isLast scope) := by
  unfold sequenceItem
  split
  · exact .refl _
  · apply (extended _ scope).bind
    intro bodyExpr
    exact (extended _ scope).bind fun _ => .refl _
  · apply Extends.bind (.refl _)
    intro id
    apply (extended _ scope).bind
    intro bodyExpr
    exact (extended _ _).bind fun _ => .refl _
  · apply Extends.bind (.refl _)
    intro condition
    apply (extended _ scope).bind
    intro thenExpr
    split
    · exact .refl _
    · exact (extended _ scope).bind fun _ => .refl _
  · exact .refl _
  · exact .refl _

theorem sequence_extends (extended : TailExtends tail tail') (statements : List (Statement E))
    (scope : Scope E) :
    Extends (tailStatementSequenceExpr callees tail statements scope)
      (tailStatementSequenceExpr callees tail' statements scope) := by
  have items : ∀ statements, Extends (sequenceItems callees tail scope statements)
      (sequenceItems callees tail' scope statements) := by
    intro statements
    induction statements with
    | nil => exact .refl _
    | cons statement rest ih =>
        apply (sequenceItem_extends extended statement rest.isEmpty scope).bind
        intro item
        cases item with
        | none => exact .refl _
        | some item => exact ih.bind fun _ => .refl _
  unfold tailStatementSequenceExpr
  split
  · exact .refl _
  · exact (items statements).bind fun _ => .refl _

theorem tailStatement_extends (extended : TailExtends tail tail') (only : Statement E) (scope : Scope E) :
    Extends (tailStatement callees tail only scope) (tailStatement callees tail' only scope) := by
  unfold tailStatement
  split
  · exact .refl _
  · exact .refl _
  · exact sequence_extends extended _ scope
  · exact sequence_extends extended _ scope
  · exact Extends.orElse (.refl _) (ifReturnBody_extends extended _ scope)

theorem tailSeveral_extends (extended : TailExtends tail tail') (first : Statement E)
    (rest : List (Statement E)) (scope : Scope E) {restExpr restExpr' : Unit → Lowering (Option Expr)}
    (restExtended : Extends (restExpr ()) (restExpr' ())) :
    Extends (tailSeveral callees tail first rest scope restExpr)
      (tailSeveral callees tail' first rest scope restExpr') := by
  apply Extends.bind (.refl _)
  intro switchAssign
  cases switchAssign with
  | some switchAssign => exact restExtended.bind fun _ => .refl _
  | none =>
      apply Extends.orElse _ (sequence_extends extended _ scope)
      split
      · exact ifReturnBody_extends extended _ scope
      · exact .refl _

theorem step_extends (extended : TailExtends tail tail') :
    TailExtends (tailStatementsStep callees tail) (tailStatementsStep callees tail') := by
  intro statements
  induction statements with
  | nil => exact fun scope => .refl _
  | cons first statements ih =>
      intro scope
      cases statements with
      | nil => exact tailStatement_extends extended first scope
      | cons second rest =>
          have others : Extends
              (tailSeveral callees tail first (second :: rest) scope fun _ =>
                tailStatementsStep callees tail (second :: rest) scope)
              (tailSeveral callees tail' first (second :: rest) scope fun _ =>
                tailStatementsStep callees tail' (second :: rest) scope) :=
            tailSeveral_extends extended first (second :: rest) scope (ih scope)
          cases first with
          | variableDeclaration declared initializer =>
              cases initializer with
              | none => exact others
              | some initializer =>
                  apply Extends.bind (.refl _)
                  intro value
                  cases value with
                  | none => exact .refl _
                  | some value =>
                      apply Extends.bind (.refl _)
                      intro id
                      exact (ih _).bind fun _ => .refl _
          | _ => exact others

theorem tail_extends (depth : Nat) :
    TailExtends (tailStatementsSourceExpr callees depth) (tailStatementsSourceExpr callees (depth + 1)) := by
  induction depth with
  | zero =>
      intro statements scope result lowered
      cases lowered
  | succ depth ih => exact step_extends ih

end Depth

/-!
## Bodies
-/

section Conditions

variable {E ν ω : Type} (setting : Setting E ν ω) (callees : Callees E)

/-- What `_tryCatchBodySourceExpr` looks at. -/
def SingleTryCatch (body : Statement E) : Prop :=
  ∃ guard exception tryBody catchBody,
    onlyStatement body = .tryCatch tryBody [(⟨guard, some exception, none⟩, catchBody)] ∧
      Single tryBody ∧ Single catchBody

/-- What `_tryFinallyBodySourceExpr` looks at. -/
def SingleTryFinally (body : Statement E) : Prop :=
  ∃ tryBody finalizer, onlyStatement body = .tryFinally tryBody finalizer ∧
    (syncStatementsFromBody finalizer).any isReturn = false ∧ (Single tryBody ∨ SingleTryCatch tryBody)

/-- A `try` with a `catch` whose blocks both return. -/
structure FitsTryCatch (body tryBody catchBody : Statement E) (guard : Option String)
    (exception : Variable) : Prop where
  only : onlyStatement body = .tryCatch tryBody [(⟨guard, some exception, none⟩, catchBody)]
  catches : Catches setting ⟨guard, some exception, none⟩ tryBody
  fresh : exception ∉ setting.params
  tryFits : FitsSingle setting callees .value setting.params tryBody
  catchFits : FitsSingle setting callees .value (exception :: setting.params) catchBody

/-- The statements of a body are taken for their value when the last of them is a `return`. -/
def endMode (statements : List (Statement E)) : Mode :=
  if (statements.getLast?.map isReturn).getD false then .value else .effect

/-- The source of the body does what the body does. -/
inductive FitsBody : Statement E → Prop where
  | single {body : Statement E} (fits : FitsSingle setting callees .value setting.params body) :
      FitsBody body
  | tryCatch {body tryBody catchBody : Statement E} {guard : Option String} {exception : Variable}
      (fits : FitsTryCatch setting callees body tryBody catchBody guard exception) : FitsBody body
  | tryFinally {body tryBody finalizer : Statement E}
      (only : onlyStatement body = .tryFinally tryBody finalizer)
      (noReturn : (syncStatementsFromBody finalizer).any isReturn = false)
      (tryFits : FitsSingle setting callees .value setting.params tryBody ∨
        ∃ innerBody catchBody guard exception,
          FitsTryCatch setting callees tryBody innerBody catchBody guard exception)
      (finalizerFits : Fits setting callees .effect setting.params (syncStatementsFromBody finalizer)) :
      FitsBody body
  | statements {statements : List (Statement E)} (noSingle : ¬ Single (.block statements))
      (noTryCatch : ¬ SingleTryCatch (.block statements))
      (noTryFinally : ¬ SingleTryFinally (.block statements))
      (fits : Fits setting callees (endMode statements) setting.params statements) :
      FitsBody (.block statements)

/-- What `_returnBodySourceExpr` reads off the printed body does what the body does. -/
def TextFits (body : Statement E) : Prop :=
  ∀ source, callees.returnBodySourceExpr body = .ok (some source) →
    setting.Simulated .empty (Ends setting.machine.null .value) (setting.exec body)
      (setting.meaning source)

end Conditions

section Bodies

variable {E ν ω : Type} {setting : Setting E ν ω} {callees : Callees E} {depth : Nat}
  {body : Statement E} {source : Expr}

theorem exec_onlyStatement (body : Statement E) : setting.exec (onlyStatement body) = setting.exec body := by
  unfold onlyStatement
  split
  · exact (execAll_singleton _).symm
  · rfl

/-- A body that only returns has no declarations. -/
theorem letBody_returned {expression : Option E} {tail : Tail E} {scope : Scope E}
    (only : returnStatement body = some expression) :
    letBodySourceExpr callees tail body scope = refused := by
  unfold returnStatement at only
  split at only
  · rfl
  · rfl
  · cases only

/-- The first two alternatives are `_singleReturnExpr`. -/
theorem syncBodyExpr_eq (body : Statement E) :
    syncBodyExpr callees depth body =
      orElse (singleReturnExpr callees (tailStatementsSourceExpr callees depth) body .empty) fun _ =>
      orElse (tryCatchBodySourceExpr callees depth body) fun _ =>
      orElse (tryFinallyBodySourceExpr callees depth body) fun _ =>
      orElse (callees.switchReturnStatementExpr (onlyStatement body) .empty) fun _ =>
      orElse (syncExpressionStatementSequenceExpr callees depth body) fun _ =>
      callees.returnBodySourceExpr body := by
  unfold syncBodyExpr singleReturnExpr
  cases only : returnStatement body with
  | none => rfl
  | some expression =>
      cases expression with
      | none => rfl
      | some expression =>
          rw [letBody_returned only]
          rfl

/-- The alternatives of `_bytecodeSource`. -/
theorem syncBodyExpr_cases (lowered : syncBodyExpr callees depth body = .ok (some source)) :
    singleReturnExpr callees (tailStatementsSourceExpr callees depth) body .empty = .ok (some source) ∨
    singleReturnExpr callees (tailStatementsSourceExpr callees depth) body .empty = .ok none ∧
      (tryCatchBodySourceExpr callees depth body = .ok (some source) ∨
      tryCatchBodySourceExpr callees depth body = .ok none ∧
        (tryFinallyBodySourceExpr callees depth body = .ok (some source) ∨
        tryFinallyBodySourceExpr callees depth body = .ok none ∧
          (callees.switchReturnStatementExpr (onlyStatement body) .empty = .ok (some source) ∨
          syncExpressionStatementSequenceExpr callees depth body = .ok (some source) ∨
          callees.returnBodySourceExpr body = .ok (some source)))) := by
  rw [syncBodyExpr_eq] at lowered
  rcases orElse_eq_ok.mp lowered with lowered | ⟨noSingle, lowered⟩
  · exact .inl lowered
  rcases orElse_eq_ok.mp lowered with lowered | ⟨noTryCatch, lowered⟩
  · exact .inr ⟨noSingle, .inl lowered⟩
  rcases orElse_eq_ok.mp lowered with lowered | ⟨noTryFinally, lowered⟩
  · exact .inr ⟨noSingle, .inr ⟨noTryCatch, .inl lowered⟩⟩
  refine .inr ⟨noSingle, .inr ⟨noTryCatch, .inr ⟨noTryFinally, ?_⟩⟩⟩
  rcases orElse_eq_ok.mp lowered with lowered | ⟨_, lowered⟩
  · exact .inl lowered
  rcases orElse_eq_ok.mp lowered with lowered | ⟨_, lowered⟩
  · exact .inr (.inl lowered)
  · exact .inr (.inr lowered)

theorem tryCatchBody_eq_ok {tryBody catchBody : Statement E} {guard : Option String} {exception : Variable}
    (only : onlyStatement body = .tryCatch tryBody [(⟨guard, some exception, none⟩, catchBody)])
    (lowered : tryCatchBodySourceExpr callees depth body = .ok (some source)) :
    ∃ bodyExpr catchExpr,
      singleReturnExpr callees (tailStatementsSourceExpr callees depth) tryBody .empty =
        .ok (some bodyExpr) ∧
      singleReturnExpr callees (tailStatementsSourceExpr callees depth) catchBody
        (Scope.empty.bindLocal exception 0) = .ok (some catchExpr) ∧
      source = .tryCatch bodyExpr 0 catchExpr := by
  unfold tryCatchBodySourceExpr at lowered
  rw [only] at lowered
  obtain ⟨bodyExpr, bodyLowered, lowered⟩ := except_bind_eq_ok.mp lowered
  obtain ⟨catchExpr, catchLowered, lowered⟩ := except_bind_eq_ok.mp lowered
  cases bodyExpr with
  | none => cases lowered
  | some bodyExpr =>
      cases catchExpr with
      | none => cases lowered
      | some catchExpr =>
          cases lowered
          exact ⟨bodyExpr, catchExpr, bodyLowered, catchLowered, rfl⟩

theorem tryFinallyBody_eq_ok {tryBody finalizer : Statement E}
    (only : onlyStatement body = .tryFinally tryBody finalizer)
    (lowered : tryFinallyBodySourceExpr callees depth body = .ok (some source)) :
    ∃ bodyExpr finalizerExpr, (syncStatementsFromBody finalizer).any isReturn = false ∧
      (singleReturnExpr callees (tailStatementsSourceExpr callees depth) tryBody .empty =
          .ok (some bodyExpr) ∨
        tryCatchBodySourceExpr callees depth tryBody = .ok (some bodyExpr)) ∧
      tailStatementsSourceExpr callees depth (syncStatementsFromBody finalizer) .empty =
        .ok (some finalizerExpr) ∧
      source = .tryFinally bodyExpr finalizerExpr true := by
  unfold tryFinallyBodySourceExpr at lowered
  rw [only] at lowered
  dsimp only at lowered
  split at lowered
  · cases lowered
  case isFalse noReturn =>
    obtain ⟨bodyExpr, bodyLowered, lowered⟩ := except_bind_eq_ok.mp lowered
    obtain ⟨finalizerExpr, finalizerLowered, lowered⟩ := except_bind_eq_ok.mp lowered
    cases bodyExpr with
    | none => cases lowered
    | some bodyExpr =>
        cases finalizerExpr with
        | none => cases lowered
        | some finalizerExpr =>
            cases lowered
            refine ⟨bodyExpr, finalizerExpr, Bool.eq_false_iff.mpr noReturn, ?_, finalizerLowered, rfl⟩
            rcases orElse_eq_ok.mp bodyLowered with single | ⟨_, tryCatch⟩
            · exact .inl single
            · exact .inr tryCatch

/-!
### Shapes
-/

theorem FitsSingle.single {mode : Mode} {known : List Variable} {statement : Statement E}
    (fits : FitsSingle setting callees mode known statement) : Single statement := by
  cases fits with
  | returned only faithful =>
      unfold returnStatement at only
      split at only
      · cases only
        trivial
      · cases only
        trivial
      · cases only
  | locals several fits =>
      obtain ⟨first, second, rest, rfl⟩ := exists_cons_cons several
      cases fits with
      | declaration => trivial
      | closure => trivial

theorem Single.only (single : Single body) :
    (∃ expression, onlyStatement body = .returnStatement expression) ∨
      ∃ statements, onlyStatement body = .block statements := by
  unfold Single at single
  split at single
  · exact .inl ⟨_, rfl⟩
  · exact .inl ⟨_, rfl⟩
  · exact .inr ⟨_, rfl⟩
  · exact single.elim

theorem tryCatchBody_shape (lowered : tryCatchBodySourceExpr callees depth body = .ok (some source)) :
    ∃ guard exception tryBody catchBody,
      onlyStatement body = .tryCatch tryBody [(⟨guard, some exception, none⟩, catchBody)] := by
  unfold tryCatchBodySourceExpr at lowered
  split at lowered
  case h_1 only => exact ⟨_, _, _, _, only⟩
  case h_2 => cases lowered

theorem tryFinallyBody_shape (lowered : tryFinallyBodySourceExpr callees depth body = .ok (some source)) :
    ∃ tryBody finalizer, onlyStatement body = .tryFinally tryBody finalizer := by
  unfold tryFinallyBodySourceExpr at lowered
  split at lowered
  case h_1 only => exact ⟨_, _, only⟩
  case h_2 => cases lowered

theorem singleTryCatch_of_tryCatchBody
    (lowered : tryCatchBodySourceExpr callees depth body = .ok (some source)) : SingleTryCatch body := by
  obtain ⟨guard, exception, tryBody, catchBody, only⟩ := tryCatchBody_shape lowered
  obtain ⟨_, _, tryLowered, catchLowered, _⟩ := tryCatchBody_eq_ok only lowered
  exact ⟨guard, exception, tryBody, catchBody, only, single_of_singleReturn tryLowered,
    single_of_singleReturn catchLowered⟩

theorem singleTryFinally_of_tryFinallyBody
    (lowered : tryFinallyBodySourceExpr callees depth body = .ok (some source)) : SingleTryFinally body := by
  obtain ⟨tryBody, finalizer, only⟩ := tryFinallyBody_shape lowered
  obtain ⟨_, _, noReturn, tryLowered, _, _⟩ := tryFinallyBody_eq_ok only lowered
  refine ⟨tryBody, finalizer, only, noReturn, ?_⟩
  rcases tryLowered with tryLowered | tryLowered
  · exact .inl (single_of_singleReturn tryLowered)
  · exact .inr (singleTryCatch_of_tryCatchBody tryLowered)

theorem Single.not_tryCatchBody (single : Single body) :
    tryCatchBodySourceExpr callees depth body ≠ .ok (some source) := by
  intro lowered
  obtain ⟨guard, exception, tryBody, catchBody, only⟩ := tryCatchBody_shape lowered
  rcases single.only with ⟨expression, other⟩ | ⟨statements, other⟩
  · rw [only] at other
    cases other
  · rw [only] at other
    cases other

theorem Single.not_tryFinallyBody (single : Single body) :
    tryFinallyBodySourceExpr callees depth body ≠ .ok (some source) := by
  intro lowered
  obtain ⟨tryBody, finalizer, only⟩ := tryFinallyBody_shape lowered
  rcases single.only with ⟨expression, other⟩ | ⟨statements, other⟩
  · rw [only] at other
    cases other
  · rw [only] at other
    cases other

/-- `_singleReturnExpr` takes no `try`. -/
theorem singleReturn_tryCatch {tryBody : Statement E} {catches : List (CatchClause × Statement E)}
    {tail : Tail E} {scope : Scope E} (only : onlyStatement body = .tryCatch tryBody catches) :
    singleReturnExpr callees tail body scope = refused := by
  unfold onlyStatement at only
  split at only
  · subst only
    rfl
  · subst only
    rfl

theorem singleReturn_tryFinally {tryBody finalizer : Statement E}
    {tail : Tail E} {scope : Scope E} (only : onlyStatement body = .tryFinally tryBody finalizer) :
    singleReturnExpr callees tail body scope = refused := by
  unfold onlyStatement at only
  split at only
  · subst only
    rfl
  · subst only
    rfl

/-!
### Soundness
-/

theorem sound_param {exception : Variable} (fresh : exception ∉ setting.params) :
    (Scope.empty.bindLocal exception 0 : Scope E).Sound setting.params (exception :: setting.params) :=
  Scope.sound_empty.bindLocal fresh (by simp [Scope.empty]) (Nat.zero_le _) (Nat.two_pow_pos 63)

theorem tryCatchBody_sound (regular : callees.Regular) {tryBody catchBody : Statement E}
    {guard : Option String} {exception : Variable}
    (fits : FitsTryCatch setting callees body tryBody catchBody guard exception)
    (lowered : tryCatchBodySourceExpr callees depth body = .ok (some source)) :
    setting.Simulated .empty (Ends setting.machine.null .value) (setting.exec body)
      (setting.meaning source) := by
  obtain ⟨bodyExpr, catchExpr, bodyLowered, catchLowered, rfl⟩ := tryCatchBody_eq_ok fits.only lowered
  have tailSound : TailSound setting callees (tailStatementsSourceExpr callees depth) :=
    tail_sound regular depth
  rw [← exec_onlyStatement, fits.only]
  exact simulated_tryCatch fits.catches Scope.sound_empty fits.fresh
    ⟨by simp [Scope.empty], Nat.zero_le _⟩ (Nat.two_pow_pos 63)
    (singleReturn_sound tailSound bodyLowered fits.tryFits Scope.sound_empty)
    (singleReturn_sound tailSound catchLowered fits.catchFits (sound_param fits.fresh))

theorem tryFinallyBody_sound (regular : callees.Regular) {tryBody finalizer : Statement E}
    (only : onlyStatement body = .tryFinally tryBody finalizer)
    (tryFits : FitsSingle setting callees .value setting.params tryBody ∨
      ∃ innerBody catchBody guard exception,
        FitsTryCatch setting callees tryBody innerBody catchBody guard exception)
    (finalizerFits : Fits setting callees .effect setting.params (syncStatementsFromBody finalizer))
    (lowered : tryFinallyBodySourceExpr callees depth body = .ok (some source)) :
    setting.Simulated .empty (Ends setting.machine.null .value) (setting.exec body)
      (setting.meaning source) := by
  obtain ⟨bodyExpr, finalizerExpr, _, bodyLowered, finalizerLowered, rfl⟩ :=
    tryFinallyBody_eq_ok only lowered
  have tailSound : TailSound setting callees (tailStatementsSourceExpr callees depth) :=
    tail_sound regular depth
  have finalizerSimulated := tailSound _ _ _ _ _ finalizerLowered finalizerFits Scope.sound_empty
  rw [execAll_syncStatementsFromBody] at finalizerSimulated
  have bodySimulated : setting.Simulated .empty (Ends setting.machine.null .value) (setting.exec tryBody)
      (setting.meaning bodyExpr) := by
    rcases tryFits with tryFits | ⟨innerBody, catchBody, guard, exception, tryFits⟩
    · rcases bodyLowered with single | tryCatch
      · exact singleReturn_sound tailSound single tryFits Scope.sound_empty
      · exact absurd tryCatch tryFits.single.not_tryCatchBody
    · rcases bodyLowered with single | tryCatch
      · rw [singleReturn_tryCatch tryFits.only] at single
        cases single
      · exact tryCatchBody_sound regular tryFits tryCatch
  rw [← exec_onlyStatement, only]
  have finished := simulated_finally bodySimulated finalizerSimulated
  have kept : setting.meaning (.tryFinally bodyExpr finalizerExpr true) =
      Run.finishing (setting.meaning bodyExpr) (do
        let _ ← setting.meaning finalizerExpr
        pure none) := bind_pure _
  rw [kept]
  exact finished

/-!
### What only the sequence would take
-/

theorem syncStatements_of_only {statement : Statement E} (only : onlyStatement body = statement)
    (noBlock : ∀ statements, statement ≠ .block statements) :
    syncStatementsFromBody body = [statement] := by
  unfold onlyStatement at only
  split at only
  · subst only
    rfl
  · subst only
    cases body with
    | block statements => exact absurd rfl (noBlock statements)
    | _ => rfl

theorem tryCatchBody_extends (depth : Nat) (body : Statement E) :
    Extends (tryCatchBodySourceExpr callees depth body) (tryCatchBodySourceExpr callees (depth + 1) body) := by
  unfold tryCatchBodySourceExpr
  split
  · apply (singleReturn_extends (tail_extends depth) _ _).bind
    intro bodyExpr
    exact (singleReturn_extends (tail_extends depth) _ _).bind fun _ => .refl _
  · exact .refl _

theorem tail_tryCatch {tryBody catchBody : Statement E} {guard : Option String} {exception : Variable}
    (lowered : tailStatementsSourceExpr callees (depth + 1)
      [.tryCatch tryBody [(⟨guard, some exception, none⟩, catchBody)]] .empty = .ok (some source)) :
    ∃ bodyExpr catchExpr,
      tailStatementsSourceExpr callees depth (syncStatementsFromBody tryBody) .empty =
        .ok (some bodyExpr) ∧
      tailStatementsSourceExpr callees depth (syncStatementsFromBody catchBody)
        (Scope.empty.bindLocal exception 0) = .ok (some catchExpr) := by
  dsimp only [tailStatementsSourceExpr, tailStatementsStep, tailStatement,
    tailStatementSequenceExpr] at lowered
  obtain ⟨items, itemsLowered, lowered⟩ := except_bind_eq_ok.mp lowered
  cases items with
  | none => cases lowered
  | some items =>
      obtain ⟨item, others, itemLowered, _, _⟩ := sequenceItems_cons itemsLowered
      dsimp only [sequenceItem] at itemLowered
      obtain ⟨id, made, itemLowered⟩ := except_bind_eq_ok.mp itemLowered
      obtain ⟨bodyExpr, bodyLowered, itemLowered⟩ := except_bind_eq_ok.mp itemLowered
      obtain ⟨catchExpr, catchLowered, itemLowered⟩ := except_bind_eq_ok.mp itemLowered
      cases bodyExpr with
      | none => cases itemLowered
      | some bodyExpr =>
          cases catchExpr with
          | none => cases itemLowered
          | some catchExpr => exact ⟨bodyExpr, catchExpr, bodyLowered, catchLowered⟩

theorem tail_tryFinally {tryBody finalizer : Statement E}
    (lowered : tailStatementsSourceExpr callees (depth + 1) [.tryFinally tryBody finalizer] .empty =
      .ok (some source)) :
    ∃ bodyExpr finalizerExpr,
      tailStatementsSourceExpr callees depth (syncStatementsFromBody tryBody) .empty =
        .ok (some bodyExpr) ∧
      tailStatementsSourceExpr callees depth (syncStatementsFromBody finalizer) .empty =
        .ok (some finalizerExpr) := by
  dsimp only [tailStatementsSourceExpr, tailStatementsStep, tailStatement,
    tailStatementSequenceExpr] at lowered
  obtain ⟨items, itemsLowered, lowered⟩ := except_bind_eq_ok.mp lowered
  cases items with
  | none => cases lowered
  | some items =>
      obtain ⟨item, others, itemLowered, _, _⟩ := sequenceItems_cons itemsLowered
      dsimp only [sequenceItem] at itemLowered
      obtain ⟨bodyExpr, bodyLowered, itemLowered⟩ := except_bind_eq_ok.mp itemLowered
      obtain ⟨finalizerExpr, finalizerLowered, itemLowered⟩ := except_bind_eq_ok.mp itemLowered
      cases bodyExpr with
      | none => cases itemLowered
      | some bodyExpr =>
          cases finalizerExpr with
          | none => cases itemLowered
          | some finalizerExpr => exact ⟨bodyExpr, finalizerExpr, bodyLowered, finalizerLowered⟩

theorem tryCatchBody_of_tail {tryBody catchBody : Statement E} {guard : Option String}
    {exception : Variable} (fits : FitsTryCatch setting callees body tryBody catchBody guard exception)
    (lowered : tailStatementsSourceExpr callees depth (syncStatementsFromBody body) .empty =
      .ok (some source)) :
    ∃ other, tryCatchBodySourceExpr callees depth body = .ok (some other) := by
  rw [syncStatements_of_only fits.only (by simp)] at lowered
  cases depth with
  | zero => cases lowered
  | succ depth =>
      obtain ⟨_, _, bodyLowered, catchLowered⟩ := tail_tryCatch lowered
      obtain ⟨bodyExpr, bodySingle⟩ := singleReturn_of_tail bodyLowered fits.tryFits Scope.sound_empty
      obtain ⟨catchExpr, catchSingle⟩ :=
        singleReturn_of_tail catchLowered fits.catchFits (sound_param fits.fresh)
      refine ⟨.tryCatch bodyExpr 0 catchExpr, tryCatchBody_extends depth body _ ?_⟩
      unfold tryCatchBodySourceExpr
      rw [fits.only]
      dsimp only
      rw [bodySingle, catchSingle]
      rfl

theorem tryFinallyBody_of_tail {tryBody finalizer : Statement E}
    (only : onlyStatement body = .tryFinally tryBody finalizer)
    (noReturn : (syncStatementsFromBody finalizer).any isReturn = false)
    (tryFits : FitsSingle setting callees .value setting.params tryBody ∨
      ∃ innerBody catchBody guard exception,
        FitsTryCatch setting callees tryBody innerBody catchBody guard exception)
    (lowered : tailStatementsSourceExpr callees depth (syncStatementsFromBody body) .empty =
      .ok (some source)) :
    ∃ other, tryFinallyBodySourceExpr callees depth body = .ok (some other) := by
  rw [syncStatements_of_only only (by simp)] at lowered
  cases depth with
  | zero => cases lowered
  | succ depth =>
      obtain ⟨_, finalizerExpr, bodyLowered, finalizerLowered⟩ := tail_tryFinally lowered
      have bodyTaken : ∃ bodyExpr,
          orElse (singleReturnExpr callees (tailStatementsSourceExpr callees (depth + 1)) tryBody .empty)
            (fun _ => tryCatchBodySourceExpr callees (depth + 1) tryBody) = .ok (some bodyExpr) := by
        rcases tryFits with tryFits | ⟨innerBody, catchBody, guard, exception, tryFits⟩
        · obtain ⟨bodyExpr, single⟩ := singleReturn_of_tail bodyLowered tryFits Scope.sound_empty
          refine ⟨bodyExpr, ?_⟩
          rw [singleReturn_extends (tail_extends depth) _ _ _ single]
          rfl
        · obtain ⟨bodyExpr, taken⟩ := tryCatchBody_of_tail tryFits bodyLowered
          refine ⟨bodyExpr, ?_⟩
          rw [singleReturn_tryCatch tryFits.only]
          exact tryCatchBody_extends depth tryBody _ taken
      obtain ⟨bodyExpr, bodyTaken⟩ := bodyTaken
      refine ⟨.tryFinally bodyExpr finalizerExpr true, ?_⟩
      unfold tryFinallyBodySourceExpr
      rw [only]
      dsimp only
      rw [noReturn, bodyTaken, tail_extends depth _ _ _ finalizerLowered]
      rfl

/-!
### Bodies
-/

theorem sequenceBody_eq_ok
    (lowered : syncExpressionStatementSequenceExpr callees depth body = .ok (some source)) :
    ∃ statements expr, body = .block statements ∧
      tailStatementsSourceExpr callees depth statements .empty = .ok (some expr) ∧
      source = if (statements.getLast?.map isReturn).getD false then expr
        else .seq (seqItems expr ++ [Expr.null]) := by
  unfold syncExpressionStatementSequenceExpr at lowered
  split at lowered
  · cases lowered
  case h_2 statements _ =>
    obtain ⟨expr, tailLowered, lowered⟩ := except_bind_eq_ok.mp lowered
    cases expr with
    | none => cases lowered
    | some expr =>
        refine ⟨statements, expr, rfl, tailLowered, ?_⟩
        dsimp only at lowered
        split at lowered
        case isTrue returns =>
          rw [if_pos returns]
          cases lowered
          rfl
        case isFalse returnsNot =>
          rw [if_neg returnsNot]
          cases lowered
          rfl
  · cases lowered

theorem sequenceBody_tail
    (lowered : syncExpressionStatementSequenceExpr callees depth body = .ok (some source)) :
    ∃ expr, tailStatementsSourceExpr callees depth (syncStatementsFromBody body) .empty =
      .ok (some expr) := by
  obtain ⟨statements, expr, rfl, tailLowered, _⟩ := sequenceBody_eq_ok lowered
  exact ⟨expr, tailLowered⟩

theorem meaning_seq_append (items : List Expr) (last : Expr) :
    setting.meaning (.seq (items ++ [last])) = (do
      let _ ← setting.meaning (.seq items)
      setting.meaning last) := by
  induction items with
  | nil => rfl
  | cons item items ih =>
      cases items with
      | nil => rfl
      | cons next items =>
          have unfolded : ∀ others, setting.meaning (.seq (item :: next :: others)) = (do
            let _ ← setting.meaning item
            setting.meaning (.seq (next :: others))) := fun _ => rfl
          rw [unfolded, bind_assoc, List.cons_append, List.cons_append, unfolded]
          congr 1
          funext value
          exact ih

theorem meaning_seqItems (expr : Expr) :
    setting.meaning (.seq (seqItems expr)) = setting.meaning expr := by
  unfold seqItems
  split
  · rfl
  · rfl

theorem Fits.not_labelled {mode : Mode} {known : List Variable} {statements : List (Statement E)}
    (fits : Fits setting callees mode known statements) (label : Nat) (labelled : Statement E) :
    onlyStatement (.block statements) ≠ .labeledStatement label labelled := by
  intro only
  unfold onlyStatement at only
  split at only
  case h_2 => exact absurd only (by simp_all)
  case h_1 statement same =>
    cases same
    subst only
    cases fits with
    | ifReturn fits => cases fits
    | sequence shape fits => exact shape.elim

/-- The statements of a body, one after the other. -/
theorem sequenceBody_sound (regular : callees.Regular) {statements : List (Statement E)}
    (fits : Fits setting callees (endMode statements) setting.params statements)
    (lowered : syncExpressionStatementSequenceExpr callees depth (.block statements) =
      .ok (some source)) :
    setting.Simulated .empty (Ends setting.machine.null .value) (setting.execAll statements)
      (setting.meaning source) := by
  obtain ⟨_, expr, same, tailLowered, rfl⟩ := sequenceBody_eq_ok lowered
  cases same
  have simulated := tail_sound regular depth _ _ _ _ _ tailLowered fits Scope.sound_empty
  unfold endMode at simulated
  split at simulated
  case isTrue returns =>
    rw [if_pos returns]
    exact simulated
  case isFalse returnsNot =>
    rw [if_neg returnsNot, meaning_seq_append, meaning_seqItems, ← bind_pure (setting.execAll statements)]
    apply simulated.andThen
    intro completion value ends
    rw [ends.of_effect]
    exact .pure rfl

theorem Single.not_labelled (single : Single body) (label : Nat) (labelled : Statement E) :
    onlyStatement body ≠ .labeledStatement label labelled := by
  intro only
  rcases single.only with ⟨expression, other⟩ | ⟨statements, other⟩
  · rw [only] at other
    cases other
  · rw [only] at other
    cases other

theorem singleBody_sound (regular : callees.Regular)
    (fits : FitsSingle setting callees .value setting.params body) (text : TextFits setting callees body)
    (lowered : syncBodyExpr callees depth body = .ok (some source)) :
    setting.Simulated .empty (Ends setting.machine.null .value) (setting.exec body)
      (setting.meaning source) := by
  rcases syncBodyExpr_cases lowered with lowered | ⟨noSingle, lowered | ⟨_, lowered |
    ⟨_, lowered | lowered | lowered⟩⟩⟩
  · exact singleReturn_sound (tail_sound regular depth) lowered fits Scope.sound_empty
  · exact absurd lowered fits.single.not_tryCatchBody
  · exact absurd lowered fits.single.not_tryFinallyBody
  · rw [regular.switchReturn _ _ fits.single.not_labelled] at lowered
    cases lowered
  · obtain ⟨_, tailLowered⟩ := sequenceBody_tail lowered
    obtain ⟨_, single⟩ := singleReturn_of_tail tailLowered fits Scope.sound_empty
    rw [single] at noSingle
    cases noSingle
  · exact text source lowered

theorem tryCatch_sound (regular : callees.Regular) {tryBody catchBody : Statement E}
    {guard : Option String} {exception : Variable}
    (fits : FitsTryCatch setting callees body tryBody catchBody guard exception)
    (text : TextFits setting callees body)
    (lowered : syncBodyExpr callees depth body = .ok (some source)) :
    setting.Simulated .empty (Ends setting.machine.null .value) (setting.exec body)
      (setting.meaning source) := by
  rcases syncBodyExpr_cases lowered with lowered | ⟨_, lowered | ⟨noTryCatch, lowered |
    ⟨_, lowered | lowered | lowered⟩⟩⟩
  · rw [singleReturn_tryCatch fits.only] at lowered
    cases lowered
  · exact tryCatchBody_sound regular fits lowered
  · obtain ⟨tryBody, finalizer, only⟩ := tryFinallyBody_shape lowered
    rw [fits.only] at only
    cases only
  · rw [regular.switchReturn _ _ (by simp [fits.only])] at lowered
    cases lowered
  · obtain ⟨_, tailLowered⟩ := sequenceBody_tail lowered
    obtain ⟨_, taken⟩ := tryCatchBody_of_tail fits tailLowered
    rw [taken] at noTryCatch
    cases noTryCatch
  · exact text source lowered

theorem tryFinally_sound (regular : callees.Regular) {tryBody finalizer : Statement E}
    (only : onlyStatement body = .tryFinally tryBody finalizer)
    (noReturn : (syncStatementsFromBody finalizer).any isReturn = false)
    (tryFits : FitsSingle setting callees .value setting.params tryBody ∨
      ∃ innerBody catchBody guard exception,
        FitsTryCatch setting callees tryBody innerBody catchBody guard exception)
    (finalizerFits : Fits setting callees .effect setting.params (syncStatementsFromBody finalizer))
    (text : TextFits setting callees body)
    (lowered : syncBodyExpr callees depth body = .ok (some source)) :
    setting.Simulated .empty (Ends setting.machine.null .value) (setting.exec body)
      (setting.meaning source) := by
  rcases syncBodyExpr_cases lowered with lowered | ⟨_, lowered | ⟨_, lowered |
    ⟨noTryFinally, lowered | lowered | lowered⟩⟩⟩
  · rw [singleReturn_tryFinally only] at lowered
    cases lowered
  · obtain ⟨guard, exception, tryBody, catchBody, other⟩ := tryCatchBody_shape lowered
    rw [only] at other
    cases other
  · exact tryFinallyBody_sound regular only tryFits finalizerFits lowered
  · rw [regular.switchReturn _ _ (by simp [only])] at lowered
    cases lowered
  · obtain ⟨_, tailLowered⟩ := sequenceBody_tail lowered
    obtain ⟨_, taken⟩ := tryFinallyBody_of_tail only noReturn tryFits tailLowered
    rw [taken] at noTryFinally
    cases noTryFinally
  · exact text source lowered

theorem body_sound (regular : callees.Regular) (fits : FitsBody setting callees body)
    (text : TextFits setting callees body)
    (lowered : syncBodyExpr callees depth body = .ok (some source)) :
    setting.Simulated .empty (Ends setting.machine.null .value) (setting.exec body)
      (setting.meaning source) := by
  cases fits with
  | single fits => exact singleBody_sound regular fits text lowered
  | tryCatch fits => exact tryCatch_sound regular fits text lowered
  | tryFinally only noReturn tryFits finalizerFits =>
      exact tryFinally_sound regular only noReturn tryFits finalizerFits text lowered
  | statements noSingle noTryCatch noTryFinally fits =>
      rcases syncBodyExpr_cases lowered with lowered | ⟨_, lowered | ⟨_, lowered |
        ⟨_, lowered | lowered | lowered⟩⟩⟩
      · exact absurd (single_of_singleReturn lowered) noSingle
      · exact absurd (singleTryCatch_of_tryCatchBody lowered) noTryCatch
      · exact absurd (singleTryFinally_of_tryFinallyBody lowered) noTryFinally
      · rw [regular.switchReturn _ _ fits.not_labelled] at lowered
        cases lowered
      · exact sequenceBody_sound regular fits lowered
      · exact text source lowered

theorem simulated_call
    (simulated : setting.Simulated .empty (Ends setting.machine.null .value) (setting.exec body)
      (setting.meaning source)) :
    setting.Simulated .empty Eq (Dart.call setting.machine setting.dart setting.rounds body)
      (setting.meaning source) := by
  rw [← bind_pure (setting.meaning source)]
  apply simulated.andThen
  intro completion value ends
  cases completion with
  | normal => exact .pure ends.symm
  | returned result => exact .pure ends
  | broke target => exact ends.elim

/-- The source of a body that fits returns or throws what the body does, and does the same to the
world. -/
theorem sync_body_preserved (regular : callees.Regular) (fits : FitsBody setting callees body)
    (text : TextFits setting callees body)
    (lowered : syncBodyExpr callees depth body = .ok (some source))
    {left : Frame Variable ν ω} {right : Frame Int64 ν ω} (start : setting.Related .empty left right) :
    (Dart.call setting.machine setting.dart setting.rounds body left).1 =
        (setting.meaning source right).1 ∧
      (Dart.call setting.machine setting.dart setting.rounds body left).2.world =
        (setting.meaning source right).2.world := by
  have simulated := simulated_call (body_sound regular fits text lowered)
  rcases simulated.ends start with
    ⟨value, _, left', right', firstEnd, secondEnd, rfl, states⟩ |
      ⟨fault, left', right', firstEnd, secondEnd, states⟩
  · rw [firstEnd, secondEnd]
    exact ⟨rfl, states.world⟩
  · rw [firstEnd, secondEnd]
    exact ⟨rfl, states.world⟩

end Bodies

/-!
## Calls

Expressions that are calls of static functions without arguments; each call returns true and is
recorded in the world.
-/

namespace Calls

def machine : Machine (Option Bool) (List String) where
  const constant :=
    match constant.value with
    | .bool value => some value
    | _ => none
  isTrue value := value = some true
  perform operation _ calls :=
    match operation with
    | .call _ target => (.ok (some true), calls ++ [target])
    | _ => (.ok none, calls)

def dart : Dart String (Option Bool) (List String) where
  eval target := machine.apply (.call .static target) []
  catches _ _ := true
  stackTrace _ := none

def setting : Setting String (Option Bool) (List String) where
  machine := machine
  dart := dart
  rounds := 1
  params := []
  args _ := none
  IsClosure _ _ := False

def callees : Callees String where
  expr target _ := .ok (some (.call .static target []))
  isFunctionExpression _ := false
  switchReturnStatementExpr _ _ := refused
  switchAssignStatementExpr _ _ := refused
  returnBodySourceExpr _ := refused

def start (κ : Type) : Frame κ (Option Bool) (List String) := ⟨fun _ => none, []⟩

theorem faithful (target : String) : Faithful setting callees target := by
  intro known scope source sound lowered
  cases lowered
  apply Simulates.perform (machine.perform (.call .static target) [])
  · exact fun left right related => related.world
  · exact fun left right world related => ⟨rfl, related.locals, related.params, related.closures⟩

theorem regular : callees.Regular := ⟨fun _ _ _ => rfl, fun _ _ _ => rfl⟩

theorem related : setting.Related .empty (start Variable) (start Int64) where
  world := rfl
  locals := by simp [Scope.empty]
  params := by simp [setting]
  closures := by simp [Scope.empty]

/-- `if (check()) return first(); return second();` -/
def earlyReturn : Statement String :=
  .block [.ifStatement "check" (.returnStatement (some "first")) none, .returnStatement (some "second")]

/-- `if (check()) return first(); else return second();` -/
def bothReturn : Statement String :=
  .block [.ifStatement "check" (.returnStatement (some "first")) (some (.returnStatement (some "second")))]

theorem earlyReturn_fits : FitsBody setting callees earlyReturn := by
  have returned : ∀ target, FitsSingle setting callees .value setting.params
      (.returnStatement (some target)) := fun target => .returned rfl (faithful target)
  apply FitsBody.statements
  · exact id
  · rintro ⟨_, _, _, _, only, _⟩
    cases only
  · rintro ⟨_, _, only, _⟩
    cases only
  · apply Fits.ifReturn
    apply FitsIf.early (faithful _) (returned _) _ (returned _)
    rintro frame ended
    cases ended

end Calls

theorem sync_body_preserved_earlyReturn :
    ∃ source, syncBodyExpr Calls.callees 2 Calls.earlyReturn = .ok (some source) ∧
      (Dart.call Calls.machine Calls.dart 1 Calls.earlyReturn (Calls.start Variable)).1 =
        (Calls.setting.meaning source (Calls.start Int64)).1 ∧
      (Dart.call Calls.machine Calls.dart 1 Calls.earlyReturn (Calls.start Variable)).2.world =
        (Calls.setting.meaning source (Calls.start Int64)).2.world := by
  have lowered : syncBodyExpr Calls.callees 2 Calls.earlyReturn = .ok (some
      (.conditional (.call .static "check" []) (.call .static "first" []) (.call .static "second" []))) :=
    rfl
  have text : TextFits Calls.setting Calls.callees Calls.earlyReturn := by
    intro source printed
    cases printed
  exact ⟨_, lowered, sync_body_preserved Calls.regular Calls.earlyReturn_fits text lowered Calls.related⟩

/-- The value of an `if` that returns in both branches is lost. -/
theorem bothReturn_value_lost :
    ∃ source, syncBodyExpr Calls.callees 2 Calls.bothReturn = .ok (some source) ∧
      (∀ expression, Faithful Calls.setting Calls.callees expression) ∧
      Calls.setting.Related .empty (Calls.start Variable) (Calls.start Int64) ∧
      (Dart.call Calls.machine Calls.dart 1 Calls.bothReturn (Calls.start Variable)).1 =
        .ok (some true) ∧
      (Calls.setting.meaning source (Calls.start Int64)).1 = .ok none :=
  ⟨_, rfl, Calls.faithful, Calls.related, rfl, rfl⟩

end CodePush.Reader
