import CodePush.Compiler.FunctionExecution
import CodePush.Reader.Bodies

/-!
# The code of a synchronous body executes it

What the statement functions build from the sources of expressions binds distinct ids in every `let` and puts nothing
between operands, if these sources do. A synchronous body that is lowered to such a source and compiled ends on the
machine as it does in Dart.
-/

set_option autoImplicit false

namespace CodePush.Reader

open CodePush.Core CodePush.Bytecode CodePush.Compiler CodePush.Foundation CodePush.Kernel RestrictedBytecodeCompiler

/-!
## What lowering builds
-/

section Gives

variable {α β : Type} {q : α → Prop} {r : β → Prop}

/-- An accepted lowering gives a result that satisfies the predicate. -/
structure Gives (q : α → Prop) (lowering : Lowering (Option α)) : Prop where
  holds : ∀ {value}, lowering = .ok (some value) → q value

theorem gives_refused : Gives q refused := by
  constructor
  intro value lowered
  cases lowered

theorem gives_ok {value : α} (holds : q value) : Gives q (.ok (some value)) := by
  constructor
  intro other lowered
  cases lowered
  exact holds

theorem Gives.orElse {first : Lowering (Option α)} {second : Unit → Lowering (Option α)} (gives : Gives q first)
    (others : Gives q (second ())) : Gives q (orElse first second) := by
  constructor
  intro value lowered
  rcases orElse_eq_ok.mp lowered with accepted | ⟨_, accepted⟩
  · exact gives.holds accepted
  · exact others.holds accepted

theorem Gives.andThen {first : Lowering (Option β)} {next : Option β → Lowering (Option α)} (gives : Gives r first)
    (rest : ∀ found, (∀ value, found = some value → r value) → Gives q (next found)) : Gives q (first >>= next) := by
  constructor
  intro value lowered
  obtain ⟨found, accepted, lowered⟩ := except_bind_eq_ok.mp lowered
  have foundOk : ∀ other, found = some other → r other := by
    intro other same
    rw [same] at accepted
    exact gives.holds accepted
  exact (rest found foundOk).holds lowered

theorem gives_localId {id : Nat} {next : Int64 → Lowering (Option α)}
    (rest : id < 2 ^ 63 → Gives q (next (Int64.ofNat id))) : Gives q (localId id >>= next) := by
  constructor
  intro value lowered
  obtain ⟨made, found, lowered⟩ := except_bind_eq_ok.mp lowered
  obtain ⟨small, rfl⟩ := localId_ok found
  exact (rest small).holds lowered

end Gives

/-- The nodes that statements become satisfy the predicate. -/
structure Builds (p : Expr → Prop) : Prop where
  null : p Expr.null
  seq : ∀ items, p (.seq items)
  conditional : ∀ condition thenExpr elseExpr, p (.conditional condition thenExpr elseExpr)
  letIn : ∀ locals body, (locals.map (·.1.id)).Nodup → p (.letIn locals body)
  tryCatch : ∀ body id catchBody, p (.tryCatch body id catchBody)
  tryFinally : ∀ body finalizer keep, p (.tryFinally body finalizer keep)

section Statements

variable {E : Type} {callees : Callees E} {p : Expr → Prop}

/-- The sources of expressions, of `switch` statements and of printed bodies consist of nodes that satisfy the
predicate. -/
structure Callees.Give (callees : Callees E) (p : Expr → Prop) : Prop where
  expr : ∀ expression scope, Gives (Expr.All p) (callees.expr expression scope)
  switchReturn : ∀ statement scope, Gives (Expr.All p) (callees.switchReturnStatementExpr statement scope)
  switchAssign : ∀ statement scope, Gives (Expr.All p) (callees.switchAssignStatementExpr statement scope)
  returnBody : ∀ body, Gives (Expr.All p) (callees.returnBodySourceExpr body)

theorem Builds.seqOf (builds : Builds p) {items : List Expr} (all : ∀ item ∈ items, item.All p) :
    (Expr.seq items).All p := .node (builds.seq items) all

theorem Builds.nullOf (builds : Builds p) : Expr.null.All p := by
  apply Expr.All.node builds.null
  intro child member
  cases member

theorem Builds.conditionalOf (builds : Builds p) {condition thenExpr elseExpr : Expr} (conditionOk : condition.All p)
    (thenOk : thenExpr.All p) (elseOk : elseExpr.All p) : (Expr.conditional condition thenExpr elseExpr).All p := by
  apply Expr.All.node (builds.conditional _ _ _)
  simp [Expr.children, conditionOk, thenOk, elseOk]

theorem Builds.tryCatchOf (builds : Builds p) {body catchBody : Expr} {id : Int64} (bodyOk : body.All p)
    (catchOk : catchBody.All p) : (Expr.tryCatch body id catchBody).All p := by
  apply Expr.All.node (builds.tryCatch _ _ _)
  simp [Expr.children, bodyOk, catchOk]

theorem Builds.tryFinallyOf (builds : Builds p) {body finalizer : Expr} {keep : Bool} (bodyOk : body.All p)
    (finalizerOk : finalizer.All p) : (Expr.tryFinally body finalizer keep).All p := by
  apply Expr.All.node (builds.tryFinally _ _ _)
  simp [Expr.children, bodyOk, finalizerOk]

/-- Locals whose ids have been counted from `next` on, with the sources of their values. -/
structure Counted (p : Expr → Prop) (next : Nat) (locals : List (LocalSpec × Expr)) : Prop where
  values : ∀ entry ∈ locals, entry.2.All p
  ids : ∀ entry ∈ locals, ∃ id, next ≤ id ∧ id < 2 ^ 63 ∧ entry.1.id = Int64.ofNat id
  distinct : (locals.map (·.1.id)).Nodup

theorem Counted.nil (next : Nat) : Counted p next [] where
  values := by
    intro entry member
    cases member
  ids := by
    intro entry member
    cases member
  distinct := .nil

theorem Counted.cons {next : Nat} {locals : List (LocalSpec × Expr)} {name : Option String} {value : Expr}
    (small : next < 2 ^ 63) (valueOk : value.All p) (counted : Counted p (next + 1) locals) :
    Counted p next ((⟨Int64.ofNat next, name⟩, value) :: locals) where
  values := List.forall_mem_cons.mpr ⟨valueOk, counted.values⟩
  ids := by
    intro entry member
    rcases List.mem_cons.mp member with same | member
    · rw [same]
      exact ⟨next, Nat.le_refl _, small, rfl⟩
    · obtain ⟨id, above, below, same⟩ := counted.ids entry member
      exact ⟨id, Nat.le_of_succ_le above, below, same⟩
  distinct := by
    apply List.nodup_cons.mpr
    constructor
    · intro member
      obtain ⟨entry, entryMember, same⟩ := List.mem_map.mp member
      obtain ⟨id, above, below, made⟩ := counted.ids entry entryMember
      have other : next ≠ id := by omega
      exact Setting.ofNat_ne small below other (same.symm.trans made)
    · exact counted.distinct

theorem Builds.letOf (builds : Builds p) {next : Nat} {locals : List (LocalSpec × Expr)} {body : Expr}
    (counted : Counted p next locals) (bodyOk : body.All p) : (Expr.letIn locals body).All p := by
  apply Expr.All.node (builds.letIn _ _ counted.distinct)
  intro child member
  rcases List.mem_append.mp member with member | member
  · obtain ⟨entry, entryMember, rfl⟩ := List.mem_map.mp member
    exact counted.values entry entryMember
  · obtain rfl := List.mem_singleton.mp member
    exact bodyOk

theorem letPrefix_gives (give : callees.Give p) (statements : List (Statement E)) (next : Nat) (scope : Scope E) :
    Gives (fun found => Counted p next found.1) (letPrefix callees next scope statements) := by
  induction statements generalizing next scope with
  | nil => exact gives_ok (.nil next)
  | cons first rest ih =>
      by_cases declares : ∃ declared initializer, first = .variableDeclaration declared (some initializer)
      · obtain ⟨declared, initializer, rfl⟩ := declares
        unfold letPrefix
        split
        · exact ih next _
        · apply (give.expr initializer scope).andThen
          intro value valueOk
          cases value with
          | none => exact gives_refused
          | some value =>
              apply gives_localId
              intro small
              apply (ih (next + 1) _).andThen
              intro found foundOk
              cases found with
              | none => exact gives_refused
              | some found => exact gives_ok (.cons small (valueOk value rfl) (foundOk found rfl))
      · rw [letPrefix_other fun declared initializer same => declares ⟨declared, initializer, same⟩]
        exact gives_ok (.nil next)

variable {tail : Tail E}

/-- What `_tailStatementsSourceExpr` gives. -/
def TailGives (p : Expr → Prop) (tail : Tail E) : Prop := ∀ statements scope, Gives (Expr.All p) (tail statements scope)

theorem letBody_gives (builds : Builds p) (give : callees.Give p) (tailGives : TailGives p tail) (body : Statement E)
    (scope : Scope E) : Gives (Expr.All p) (letBodySourceExpr callees tail body scope) := by
  cases body with
  | block statements =>
      dsimp only [letBodySourceExpr]
      split
      · exact gives_refused
      · apply (letPrefix_gives give statements _ scope).andThen
        intro found counted
        cases found with
        | none => exact gives_refused
        | some found =>
            obtain ⟨locals, inner, rest⟩ := found
            dsimp only
            split
            · exact gives_refused
            · apply (tailGives rest inner).andThen
              intro bodyExpr bodyOk
              cases bodyExpr with
              | none => exact gives_refused
              | some bodyExpr =>
                  dsimp only
                  split
                  · exact gives_ok (bodyOk bodyExpr rfl)
                  · exact gives_ok (builds.letOf (counted _ rfl) (bodyOk bodyExpr rfl))
  | _ => exact gives_refused

theorem singleReturn_gives (builds : Builds p) (give : callees.Give p) (tailGives : TailGives p tail)
    (body : Statement E) (scope : Scope E) : Gives (Expr.All p) (singleReturnExpr callees tail body scope) := by
  unfold singleReturnExpr
  split
  · exact give.expr _ scope
  · exact letBody_gives builds give tailGives body scope

theorem ifReturnParts_gives (builds : Builds p) (give : callees.Give p) (tailGives : TailGives p tail) (condition : E)
    (thenStatement elseStatement : Statement E) (scope : Scope E) :
    Gives (Expr.All p) (ifReturnParts callees tail condition thenStatement elseStatement scope) := by
  constructor
  intro source lowered
  obtain ⟨conditionExpr, thenExpr, elseExpr, conditionLowered, thenLowered, elseLowered, rfl⟩ :=
    ifReturnParts_eq_ok lowered
  exact builds.conditionalOf ((give.expr _ _).holds conditionLowered)
    ((singleReturn_gives builds give tailGives _ _).holds thenLowered)
    ((singleReturn_gives builds give tailGives _ _).holds elseLowered)

theorem ifReturnBody_gives (builds : Builds p) (give : callees.Give p) (tailGives : TailGives p tail)
    (body : Statement E) (scope : Scope E) :
    Gives (Expr.All p) (ifReturnBodySourceExpr callees tail body scope) := by
  have whole : ∀ condition thenStatement otherwise,
      Gives (Expr.All p) (ifReturnExpr callees tail condition thenStatement otherwise scope) := by
    intro condition thenStatement otherwise
    cases otherwise with
    | none => exact gives_refused
    | some otherwise => exact ifReturnParts_gives builds give tailGives condition thenStatement otherwise scope
  unfold ifReturnBodySourceExpr
  split
  · exact whole _ _ _
  · exact whole _ _ _
  · exact ifReturnParts_gives builds give tailGives _ _ _ scope
  · exact gives_refused

theorem sequenceItem_gives (builds : Builds p) (give : callees.Give p) (tailGives : TailGives p tail)
    (statement : Statement E) (isLast : Bool) (scope : Scope E) :
    Gives (Expr.All p) (sequenceItem callees tail statement isLast scope) := by
  unfold sequenceItem
  split
  · split
    · exact give.expr _ scope
    · exact gives_refused
  · apply (tailGives _ scope).andThen
    intro bodyExpr bodyOk
    apply (tailGives _ scope).andThen
    intro finalizerExpr finalizerOk
    split
    · exact gives_ok (builds.tryFinallyOf (bodyOk _ rfl) (finalizerOk _ rfl))
    · exact gives_refused
  · apply gives_localId
    intro small
    apply (tailGives _ scope).andThen
    intro bodyExpr bodyOk
    apply (tailGives _ _).andThen
    intro catchExpr catchOk
    split
    · exact gives_ok (builds.tryCatchOf (bodyOk _ rfl) (catchOk _ rfl))
    · exact gives_refused
  case h_4 condition thenStatement otherwise =>
    apply (give.expr condition scope).andThen
    intro conditionExpr conditionOk
    apply (tailGives _ scope).andThen
    intro thenExpr thenOk
    cases otherwise with
    | none =>
        apply (gives_ok builds.nullOf).andThen
        intro elseExpr elseOk
        dsimp only
        split
        · exact gives_ok (builds.conditionalOf (conditionOk _ rfl) (thenOk _ rfl) (elseOk _ rfl))
        · exact gives_refused
    | some otherwise =>
        apply (tailGives _ scope).andThen
        intro elseExpr elseOk
        dsimp only
        split
        · exact gives_ok (builds.conditionalOf (conditionOk _ rfl) (thenOk _ rfl) (elseOk _ rfl))
        · exact gives_refused
  · exact give.expr _ scope
  · exact gives_refused

theorem sequenceItems_gives (builds : Builds p) (give : callees.Give p) (tailGives : TailGives p tail)
    (statements : List (Statement E)) (scope : Scope E) :
    Gives (fun items => ∀ item ∈ items, Expr.All p item) (sequenceItems callees tail scope statements) := by
  induction statements with
  | nil =>
      apply gives_ok
      intro item member
      cases member
  | cons statement rest ih =>
      constructor
      intro items lowered
      obtain ⟨item, others, itemLowered, othersLowered, rfl⟩ := sequenceItems_cons lowered
      exact List.forall_mem_cons.mpr
        ⟨(sequenceItem_gives builds give tailGives _ _ _).holds itemLowered, ih.holds othersLowered⟩

theorem sequence_gives (builds : Builds p) (give : callees.Give p) (tailGives : TailGives p tail)
    (statements : List (Statement E)) (scope : Scope E) :
    Gives (Expr.All p) (tailStatementSequenceExpr callees tail statements scope) := by
  unfold tailStatementSequenceExpr
  split
  · exact gives_refused
  · apply (sequenceItems_gives builds give tailGives statements scope).andThen
    intro items itemsOk
    cases items with
    | none => exact gives_refused
    | some items => exact gives_ok (builds.seqOf (itemsOk items rfl))

theorem tailStatement_gives (builds : Builds p) (give : callees.Give p) (tailGives : TailGives p tail)
    (only : Statement E) (scope : Scope E) : Gives (Expr.All p) (tailStatement callees tail only scope) := by
  unfold tailStatement
  split
  · exact give.expr _ scope
  · exact give.expr _ scope
  · exact sequence_gives builds give tailGives _ scope
  · exact sequence_gives builds give tailGives _ scope
  · exact (give.switchReturn only scope).orElse (ifReturnBody_gives builds give tailGives only scope)

theorem tailSeveral_gives (builds : Builds p) (give : callees.Give p) (tailGives : TailGives p tail)
    (first : Statement E) (rest : List (Statement E)) (scope : Scope E) {restExpr : Unit → Lowering (Option Expr)}
    (restGives : Gives (Expr.All p) (restExpr ())) :
    Gives (Expr.All p) (tailSeveral callees tail first rest scope restExpr) := by
  apply (give.switchAssign first scope).andThen
  intro switchAssign switchOk
  cases switchAssign with
  | some switchAssign =>
      apply restGives.andThen
      intro tailExpr tailOk
      cases tailExpr with
      | none => exact gives_refused
      | some tailExpr =>
          apply gives_ok
          apply builds.seqOf
          exact List.forall_mem_cons.mpr
            ⟨switchOk switchAssign rfl, List.forall_mem_singleton.mpr (tailOk tailExpr rfl)⟩
  | none =>
      apply Gives.orElse _ (sequence_gives builds give tailGives _ scope)
      split
      · exact ifReturnBody_gives builds give tailGives _ scope
      · exact gives_refused

theorem step_gives (builds : Builds p) (give : callees.Give p) (tailGives : TailGives p tail) :
    TailGives p (tailStatementsStep callees tail) := by
  intro statements
  induction statements with
  | nil =>
      intro scope
      constructor
      intro source lowered
      cases lowered
  | cons first statements ih =>
      intro scope
      cases statements with
      | nil => exact tailStatement_gives builds give tailGives first scope
      | cons second rest =>
          have others : Gives (Expr.All p) (tailSeveral callees tail first (second :: rest) scope fun _ =>
              tailStatementsStep callees tail (second :: rest) scope) :=
            tailSeveral_gives builds give tailGives first (second :: rest) scope (ih scope)
          cases first with
          | variableDeclaration declared initializer =>
              cases initializer with
              | none => exact others
              | some initializer =>
                  apply (give.expr initializer scope).andThen
                  intro value valueOk
                  cases value with
                  | none => exact gives_refused
                  | some value =>
                      apply gives_localId
                      intro small
                      apply (ih _).andThen
                      intro bodyExpr bodyOk
                      cases bodyExpr with
                      | none => exact gives_refused
                      | some bodyExpr =>
                          exact gives_ok (builds.letOf (.cons small (valueOk value rfl) (.nil _))
                            (bodyOk bodyExpr rfl))
          | _ => exact others

theorem tail_gives (builds : Builds p) (give : callees.Give p) (depth : Nat) :
    TailGives p (tailStatementsSourceExpr callees depth) := by
  induction depth with
  | zero =>
      intro statements scope
      constructor
      intro source lowered
      cases lowered
  | succ depth ih => exact step_gives builds give ih

theorem tryCatchBody_gives (builds : Builds p) (give : callees.Give p) (depth : Nat) (body : Statement E) :
    Gives (Expr.All p) (tryCatchBodySourceExpr callees depth body) := by
  constructor
  intro source lowered
  obtain ⟨guard, exception, tryBody, catchBody, only⟩ := tryCatchBody_shape lowered
  obtain ⟨bodyExpr, catchExpr, bodyLowered, catchLowered, rfl⟩ := tryCatchBody_eq_ok only lowered
  exact builds.tryCatchOf ((singleReturn_gives builds give (tail_gives builds give depth) _ _).holds bodyLowered)
    ((singleReturn_gives builds give (tail_gives builds give depth) _ _).holds catchLowered)

theorem tryFinallyBody_gives (builds : Builds p) (give : callees.Give p) (depth : Nat) (body : Statement E) :
    Gives (Expr.All p) (tryFinallyBodySourceExpr callees depth body) := by
  constructor
  intro source lowered
  obtain ⟨tryBody, finalizer, only⟩ := tryFinallyBody_shape lowered
  obtain ⟨bodyExpr, finalizerExpr, _, bodyLowered, finalizerLowered, rfl⟩ := tryFinallyBody_eq_ok only lowered
  apply builds.tryFinallyOf _ ((tail_gives builds give depth _ _).holds finalizerLowered)
  rcases bodyLowered with single | tryCatch
  · exact (singleReturn_gives builds give (tail_gives builds give depth) _ _).holds single
  · exact (tryCatchBody_gives builds give depth _).holds tryCatch

theorem seqItems_all {expr : Expr} (all : expr.All p) : ∀ item ∈ seqItems expr, item.All p := by
  unfold seqItems
  split
  · exact (Expr.all_iff.mp all).2
  · exact List.forall_mem_singleton.mpr all

theorem sequenceBody_gives (builds : Builds p) (give : callees.Give p) (depth : Nat) (body : Statement E) :
    Gives (Expr.All p) (syncExpressionStatementSequenceExpr callees depth body) := by
  constructor
  intro source lowered
  obtain ⟨statements, expr, rfl, tailLowered, rfl⟩ := sequenceBody_eq_ok lowered
  have all := (tail_gives builds give depth _ _).holds tailLowered
  split
  · exact all
  · apply builds.seqOf
    exact List.forall_mem_append.mpr ⟨seqItems_all all, List.forall_mem_singleton.mpr builds.nullOf⟩

theorem syncBody_gives (builds : Builds p) (give : callees.Give p) (depth : Nat) (body : Statement E) :
    Gives (Expr.All p) (syncBodyExpr callees depth body) := by
  constructor
  intro source lowered
  rcases syncBodyExpr_cases lowered with lowered | ⟨_, lowered | ⟨_, lowered | ⟨_, lowered | lowered | lowered⟩⟩⟩
  · exact (singleReturn_gives builds give (tail_gives builds give depth) _ _).holds lowered
  · exact (tryCatchBody_gives builds give depth _).holds lowered
  · exact (tryFinallyBody_gives builds give depth _).holds lowered
  · exact (give.switchReturn _ _).holds lowered
  · exact (sequenceBody_gives builds give depth _).holds lowered
  · exact (give.returnBody _).holds lowered

end Statements

/-!
## Sources that the compiler takes
-/

/-- No `try`. -/
def Unprotected : Expr → Prop
  | .tryFinally _ _ _ | .tryCatch _ _ _ => False
  | _ => True

/-- Distinct ids in a `let`, and, apart from `try`, what the machine knows. -/
def SourceNode (expr : Expr) : Prop := DistinctIds expr ∧ (Unprotected expr → expr.StackedNode)

theorem builds_sourceNode : Builds SourceNode where
  null := ⟨trivial, fun _ => ⟨by simp [Expr.null, Expr.laterOperands], trivial⟩⟩
  seq := fun _ => ⟨trivial, fun _ => ⟨by simp [Expr.laterOperands], trivial⟩⟩
  conditional := fun _ _ _ => ⟨trivial, fun _ => ⟨by simp [Expr.laterOperands], trivial⟩⟩
  letIn := fun _ _ distinct => ⟨distinct, fun _ => ⟨by simp [Expr.laterOperands], trivial⟩⟩
  tryCatch := fun _ _ _ => ⟨trivial, False.elim⟩
  tryFinally := fun _ _ _ => ⟨trivial, False.elim⟩

theorem all_distinctIds {expr : Expr} (all : expr.All SourceNode) : expr.All DistinctIds := by
  induction all with
  | node here _ ih => exact .node here.1 ih

theorem all_stackedNode {expr : Expr} (all : expr.All SourceNode) (unprotected : expr.All Unprotected) :
    expr.All Expr.StackedNode := by
  induction all with
  | node here _ ih =>
      obtain ⟨plain, below⟩ := Expr.all_iff.mp unprotected
      exact .node (here.2 plain) fun child member => ih child member (below child member)

/-!
## Bodies on the machine
-/

section Execution

variable {E ν ω : Type} {callees : Callees E} {depth : Nat} {body : Statement E} {lowered : Expr}

/-- The same function, with loops of at most so many rounds. -/
def Setting.within (setting : Setting E ν ω) (rounds : Nat) : Setting E ν ω := { setting with rounds := rounds }

theorem Setting.Related.within {setting : Setting E ν ω} {scope : Scope E} {left : Frame Variable ν ω}
    {right : Frame Int64 ν ω} (related : setting.Related scope left right) (rounds : Nat) :
    (setting.within rounds).Related scope left right :=
  ⟨related.world, related.locals, related.params, related.closures⟩

/-- The source of a body comes to what the body comes to. -/
theorem conclusion_preserved {ρ : Type} {setting : Setting E ν ω} {returned threw : ν → ω → ρ}
    (regular : callees.Regular) (fits : FitsBody setting callees body) (text : TextFits setting callees body)
    (accepted : syncBodyExpr callees depth body = .ok (some lowered))
    {left : Frame Variable ν ω} {right : Frame Int64 ν ω} (related : setting.Related .empty left right) :
    conclusion returned threw (setting.meaning lowered right) =
      conclusion returned threw (Dart.call setting.machine setting.dart setting.rounds body left) := by
  have simulated := simulated_call (body_sound regular fits text accepted)
  rcases simulated.ends related with
    ⟨value, other, left', right', bodyEnd, sourceEnd, same, states⟩ |
      ⟨fault, left', right', bodyEnd, sourceEnd, states⟩
  · rw [bodyEnd, sourceEnd]
    simp [conclusion, same, states.world]
  · rw [bodyEnd, sourceEnd]
    cases fault with
    | thrown value => simp [conclusion, states.world]
    | timeout => rfl

/-- Statements without `try` add nothing that the compiler does not take. -/
theorem syncBody_stacked (give : callees.Give SourceNode) (accepted : syncBodyExpr callees depth body = .ok (some lowered))
    (unprotected : lowered.All Unprotected) : lowered.All DistinctIds ∧ lowered.All Expr.StackedNode := by
  have all : lowered.All SourceNode := (syncBody_gives builds_sourceNode give depth body).holds accepted
  exact ⟨all_distinctIds all, all_stackedNode all unprotected⟩

/-- The code of a lowered body ends as the body does in Dart. -/
theorem body_executes {setting : Setting E ν ω} {operations : Operations ν ω} {arguments : Nat → ν}
    {lib : DartLib} {source : List (String × Object)} {location : Option String} {spec : FunctionSpec}
    {names : List String} (regular : callees.Regular)
    (machine : setting.machine = operations.machine) (args : setting.args = (Place.entry names).argument arguments)
    (fits : ∀ rounds, FitsBody (setting.within rounds) callees body)
    (text : ∀ rounds, TextFits (setting.within rounds) callees body)
    (accepted : syncBodyExpr callees depth body = .ok (some lowered)) (distinct : lowered.All DistinctIds)
    (stacked : lowered.All Expr.StackedNode)
    (compiled : compileSourceFunction lib source location = .ok spec)
    (declared : sourceParams lib source = .ok names) (parsed : sourceBody lib source = .ok lowered)
    {frame : Frame Variable ν ω} {vars : Int64 → ν} (related : setting.Related .empty frame ⟨vars, frame.world⟩)
    (slots : Nat → ν) (step : VmState ν ω → Move (VmState ν ω) (VmResult ν ω))
    (agrees : ∀ state, Vm.step ⟨operations, spec.constants, arguments⟩ spec.code state ≠ .stuck →
      step state = Vm.step ⟨operations, spec.constants, arguments⟩ spec.code state) :
    (∀ result, Halts step ⟨0, [], slots, frame.world⟩ result ↔ ∃ rounds,
      conclusion .returned .threw (Dart.call setting.machine setting.dart rounds body frame) = some result) ∧
      ¬ Sticks step ⟨0, [], slots, frame.world⟩ := by
  have follows : ∀ rounds, Follows step .threw rounds
      (meaning operations.machine ((Place.entry names).argument arguments) rounds lowered) ⟨vars, frame.world⟩
      ⟨0, [], slots, frame.world⟩ fun value left finish => step finish = .halted (.returned value left.world) :=
    fun rounds => compileSourceFunction_follows compiled declared parsed distinct stacked agrees ⟨vars, frame.world⟩
  have preserved : ∀ rounds, conclusion VmResult.returned VmResult.threw
      (meaning operations.machine ((Place.entry names).argument arguments) rounds lowered ⟨vars, frame.world⟩) =
        conclusion .returned .threw (Dart.call setting.machine setting.dart rounds body frame) := by
    intro rounds
    rw [← machine, ← args]
    exact conclusion_preserved regular (fits rounds) (text rounds) accepted (related.within rounds)
  constructor
  · intro result
    rw [halts_iff follows]
    simp only [preserved]
  · exact never_sticks follows

end Execution

namespace Calls

/-- The calls by their opcodes. -/
def operations : Operations (Option Bool) (List String) where
  const := machine.const
  isTrue := machine.isTrue
  perform := fun opcode text _ calls =>
    match opcode with
    | .callStatic | .callOriginal => (.ok (some true), calls ++ [text])
    | _ => (.ok none, calls)

theorem operations_machine : machine = operations.machine := by
  have perform : machine.perform = operations.machine.perform := by
    funext primitive operands calls
    cases primitive with
    | binary operator =>
        cases operator
        all_goals rfl
    | call kind target =>
        cases kind
        all_goals rfl
    | _ => rfl
  exact congrArg (Machine.mk machine.const machine.isTrue) perform

theorem faithful_within (rounds : Nat) (target : String) : Faithful (setting.within rounds) callees target := by
  intro known scope source sound lowered
  cases lowered
  apply Simulates.perform (machine.perform (.call .static target) [])
  · exact fun left right related => related.world
  · exact fun left right world related => ⟨rfl, related.locals, related.params, related.closures⟩

theorem earlyReturn_fits_within (rounds : Nat) : FitsBody (setting.within rounds) callees earlyReturn := by
  have returned : ∀ target, FitsSingle (setting.within rounds) callees .value setting.params
      (.returnStatement (some target)) := fun target => .returned rfl (faithful_within rounds target)
  apply FitsBody.statements
  · exact id
  · intro single
    obtain ⟨_, _, _, _, only, _⟩ := single
    cases only
  · intro single
    obtain ⟨_, _, only, _⟩ := single
    cases only
  · apply Fits.ifReturn
    apply FitsIf.early (faithful_within rounds _) (returned _) _ (returned _)
    intro frame ended
    cases ended

theorem give : callees.Give SourceNode where
  expr := by
    intro target scope
    apply gives_ok
    apply Expr.All.node
    · exact ⟨trivial, fun _ => ⟨by simp [Expr.laterOperands], trivial⟩⟩
    · simp [Expr.children]
  switchReturn := fun _ _ => gives_refused
  switchAssign := fun _ _ => gives_refused
  returnBody := fun _ => gives_refused

/-- The source that `earlyReturn` is lowered to. -/
def earlyReturnSource : List (String × Object) :=
  [("name", .string "early"),
    ("body", .map [("conditional", .map [
      ("condition", .map [("call_static", .string "check"), ("args", .list [])]),
      ("then", .map [("call_static", .string "first"), ("args", .list [])]),
      ("else", .map [("call_static", .string "second"), ("args", .list [])])])])]

def earlyReturnExpr : Expr :=
  .conditional (.call .static "check" []) (.call .static "first" []) (.call .static "second" [])

theorem earlyReturnExpr_unprotected : earlyReturnExpr.All Unprotected := by
  have call : ∀ target, (Expr.call .static target []).All Unprotected := by
    intro target
    apply Expr.All.node trivial
    simp [Expr.children]
  apply Expr.All.node trivial
  unfold earlyReturnExpr
  simp [Expr.children, call]

end Calls

theorem earlyReturn_executes :
    ∃ spec, compileSourceFunction textLib Calls.earlyReturnSource none = .ok spec ∧
      Halts (Vm.step ⟨Calls.operations, spec.constants, fun _ => none⟩ spec.code) ⟨0, [], fun _ => none, []⟩
        (.returned (some true) ["check", "first"]) := by
  obtain ⟨spec, compiled⟩ : ∃ spec, compileSourceFunction textLib Calls.earlyReturnSource none = .ok spec :=
    ⟨_, rfl⟩
  have accepted : syncBodyExpr Calls.callees 2 Calls.earlyReturn = .ok (some Calls.earlyReturnExpr) := rfl
  have declared : sourceParams textLib Calls.earlyReturnSource = .ok [] := rfl
  have parsed : sourceBody textLib Calls.earlyReturnSource = .ok Calls.earlyReturnExpr := rfl
  have text : ∀ rounds, TextFits (Calls.setting.within rounds) Calls.callees Calls.earlyReturn := by
    intro rounds source printed
    cases printed
  have args : Calls.setting.args = (Place.entry []).argument fun _ => none := rfl
  obtain ⟨distinct, stacked⟩ := syncBody_stacked Calls.give accepted Calls.earlyReturnExpr_unprotected
  have executes := (body_executes Calls.regular Calls.operations_machine args
    Calls.earlyReturn_fits_within text accepted distinct stacked compiled declared parsed
    Calls.related (fun _ => none) _ fun _ _ => rfl).1 (.returned (some true) ["check", "first"])
  exact ⟨spec, compiled, executes.mpr ⟨1, rfl⟩⟩

end CodePush.Reader
