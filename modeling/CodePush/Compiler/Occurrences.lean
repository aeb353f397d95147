import CodePush.Compiler.Balance

/-!
# Where expressions are compiled

Wherever an expression is compiled, so are the operands that code is emitted for. What is said of an expression
in every place that it is compiled in is therefore said of places that there are, at any depth.
-/

set_option autoImplicit false

namespace CodePush.Compiler

open CodePush.Core CodePush.Bytecode CodePush.Foundation CodePush.Foundation.Action
  CodePush.Foundation.Assembly RestrictedBytecodeCompiler

/-- The expression is compiled somewhere in a function within the limits. -/
def Occurs (limits : Limits) (expr : Expr) : Prop :=
  ∃ now after : RestrictedBytecodeCompiler, now.Ready limits ∧ after.Within limits ∧
    compileExpr expr now = (.ok (), after)

/-- The action emits code, and where the limits allow for it these parts hold. -/
abbrev Covers (limits : Limits) (given : Prop) (action : Compile Unit) (parts : Prop) : Prop :=
  Emits limits given action fun _ _ => parts

abbrev CoversIn {α : Type} (limits : Limits) (given : Prop) (loopStart : Nat) (action : Compile α)
    (ok facts : α → Prop) (parts : Prop) : Prop :=
  EmitsIn limits given loopStart action ok facts fun _ _ => parts

section Steps

variable {limits : Limits} {given parts parts' parts₁ parts₂ parts₃ parts₄ parts₅ : Prop}
  {first second condition thenPart elsePart body exitCondition exitBody tail : Compile Unit}

theorem Covers.imp (covers : Covers limits given first parts) (implied : parts → parts') :
    Covers limits given first parts' :=
  Emits.imp covers fun _ _ => implied

theorem Covers.andThen (left : Covers limits given first parts₁) (right : Covers limits given second parts₂) :
    Covers limits given (first >>= fun _ => second) (parts₁ ∧ parts₂) :=
  Emits.andThen left right fun _ _ _ => And.intro

theorem Compiles.covers {need give : Nat} {tidy named : Prop}
    (compiles : Compiles limits given first need give tidy named) : Covers limits given first True :=
  Emits.imp compiles.emits fun _ _ _ => trivial

theorem Covers.bound {slot : Nat} (covers : Covers limits given first parts) (small : slot < 256)
    (inside : given → slot < limits.locals) (id : Int64) : Covers limits given (withLocal id slot first) parts :=
  Emits.bound small inside id covers

theorem covers_nothing : Covers limits given (pure ()) True := emits_nothing fun _ => trivial

theorem Prepares.covers {ok facts : Unit → Prop} (prepares : Prepares limits given first ok facts) :
    Covers limits given first True :=
  prepares.emits fun _ => trivial

theorem covers_loadLocal {slot : Nat} (small : slot < 256) : Covers limits given (loadLocal slot) True :=
  emits_local rfl small fun _ _ => trivial

theorem covers_storeLocal {slot : Nat} (small : slot < 256) : Covers limits given (storeLocal slot) True :=
  emits_local rfl small fun _ _ => trivial

theorem covers_callMethod (method : String) (count : Nat) (few : count < 256) :
    Covers limits given (callDynamic method count) True :=
  emits_callNamed rfl method few fun _ _ _ _ => trivial

theorem Covers.conditional (conditionOk : Covers limits given condition parts₁)
    (thenOk : Covers limits given thenPart parts₂) (elseOk : Covers limits given elsePart parts₃) :
    Covers limits given
      (do
        condition
        op .jumpIfFalse
        let elsePatch ← reserveU16
        thenPart
        op .jump
        let endPatch ← reserveU16
        patchHere elsePatch
        elsePart
        patchHere endPatch)
      (parts₁ ∧ parts₂ ∧ parts₃) :=
  Emits.conditional conditionOk thenOk elseOk fun _ _ _ _ _ _ _ tested _ taken _ other _ _ => ⟨tested, taken, other⟩

theorem CoversIn.restart (loopStart : Nat) (conditionOk : Covers limits given condition parts₁)
    (bodyOk : Covers limits given body parts₂) :
    CoversIn limits given loopStart
      (do
        condition
        op .jumpIfFalse
        let bodyPatch ← reserveU16
        body
        op .jump
        u16 loopStart
        patchHere bodyPatch)
      (fun _ => True) (fun _ => True) (parts₁ ∧ parts₂) :=
  EmitsIn.restart loopStart conditionOk bodyOk fun _ _ _ _ _ tested done _ _ => ⟨tested, done⟩

theorem coversIn_nothing (loopStart : Nat) :
    CoversIn limits given loopStart (pure () >>= fun _ => pure ()) (fun _ => True) (fun _ => True) True :=
  Emits.inLoop covers_nothing prepares_nothing loopStart

section Loops

variable {α : Type} {guards : Nat → Compile α} {bodyOf : α → Compile Unit} {ok facts : α → Prop}
  (conditionOk : Covers limits given condition parts₁)
  (guardsOk : ∀ loopStart, CoversIn limits given loopStart (guards loopStart) ok facts parts₂)

include conditionOk guardsOk

theorem Covers.cycle (bodyOk : ∀ value, ok value → Covers limits (given ∧ facts value) (bodyOf value) parts₃)
    (tailOk : Covers limits given tail parts₄) :
    Covers limits given
      (do
        let loopStart ← position
        condition
        op .jumpIfFalse
        let endPatch ← reserveU16
        let value ← guards loopStart
        bodyOf value
        op .jump
        u16 loopStart
        patchHere endPatch
        tail)
      (parts₁ ∧ parts₂ ∧ parts₃) :=
  Emits.cycle conditionOk guardsOk bodyOk tailOk
    fun _ _ _ _ _ _ _ tested _ guarded done _ _ _ => ⟨tested, guarded, done⟩

theorem Covers.cycleExit (exitOk : Covers limits given exitCondition parts₃)
    (exitBodyOk : Covers limits given exitBody parts₄)
    (bodyOk : ∀ value, ok value → Covers limits (given ∧ facts value) (bodyOf value) parts₅)
    (tailOk : Covers limits given tail parts) :
    Covers limits given
      (do
        let loopStart ← position
        condition
        op .jumpIfFalse
        let endPatch ← reserveU16
        let value ← guards loopStart
        exitCondition
        op .jumpIfFalse
        let continuePatch ← reserveU16
        exitBody
        op .jump
        let breakPatch ← reserveU16
        patchHere continuePatch
        bodyOf value
        op .jump
        u16 loopStart
        patchHere breakPatch
        patchHere endPatch
        tail)
      (parts₁ ∧ parts₂ ∧ parts₃ ∧ parts₄ ∧ parts₅) :=
  Emits.cycleExit conditionOk guardsOk exitOk exitBodyOk bodyOk tailOk
    fun _ _ _ _ _ _ _ _ _ _ _ tested _ guarded _ left leaving _ _ done _ _ _ =>
      ⟨tested, guarded, left, leaving, done⟩

end Loops

end Steps

section Expressions

variable {limits : Limits} {given parts : Prop}

theorem covers_expr (expr : Expr) : Covers limits given (compileExpr expr) (Occurs limits expr) := by
  intro now ready _
  have compiled := compileExpr_compiled limits expr now ready fun _ => trivial
  apply (compiled.and (ensures_self (compileExpr expr) now)).mono _ (fun _ _ _ => trivial)
  intro _ after ended
  obtain ⟨⟨code, progress⟩, ran⟩ := ended
  exact ⟨code, ⟨progress.ready, progress.grows, fun within => ⟨now, after, ready, within, ran⟩⟩, progress.emitted⟩

/-!
## Parts of expressions
-/

theorem compileAll_covers (items : List Expr) :
    Covers limits given (compileAll items) (∀ item ∈ items, Occurs limits item) := by
  induction items with
  | nil =>
      unfold compileAll
      exact covers_nothing.imp (by simp)
  | cons item items ih =>
      unfold compileAll
      exact ((covers_expr item).andThen ih).imp (by simp)

theorem compileEntries_covers (entries : List (Expr × Expr)) :
    Covers limits given (compileEntries entries) (∀ child ∈ (Expr.map entries).children, Occurs limits child) := by
  rw [compileAll_entries]
  exact compileAll_covers _

theorem compileSeq_covers (items : List Expr) :
    Covers limits given (compileSeq items) (∀ item ∈ items, Occurs limits item) := by
  induction items with
  | nil =>
      unfold compileSeq
      exact (compiles_loadConst .nothing).covers.imp (by simp)
  | cons item items ih =>
      cases items with
      | nil =>
          unfold compileSeq
          exact (covers_expr item).imp (by simp)
      | cons next items =>
          unfold compileSeq
          exact ((covers_expr item).andThen (compiles_pop.covers.andThen ih)).imp (by simp)

theorem compileDiscarded_covers (part : Option Expr) :
    Covers limits given (compileDiscarded part) (∀ expr ∈ part.toList, Occurs limits expr) := by
  cases part with
  | none =>
      unfold compileDiscarded
      exact covers_nothing.imp (by simp)
  | some expr =>
      unfold compileDiscarded
      exact ((covers_expr expr).andThen compiles_pop.covers).imp (by simp)

/-- The values of the locals, before what follows them. -/
theorem compileLocals_covers {locals : List (LocalSpec × Expr)} {next : List (Int64 × Option Nat) → Compile Unit}
    {previous : List (Int64 × Option Nat)} (restorable : Restorable limits given previous)
    (rest : ∀ known previous, Restorable limits (given ∧ known) previous →
      Covers limits (given ∧ known) (next previous) parts) :
    Covers limits given (compileLocals previous locals >>= next)
      ((∀ entry ∈ locals, Occurs limits entry.2) ∧ parts) := by
  induction locals generalizing previous given with
  | nil =>
      unfold compileLocals
      rw [pure_bind]
      have done := rest True previous (restorable.mono And.left)
      have known : Covers limits given (next previous) parts := Emits.knowing done fun holds => ⟨holds, trivial⟩
      exact known.imp (by simp)
  | cons entry locals ih =>
      obtain ⟨spec, value⟩ := entry
      unfold compileLocals
      simp only [bind_assoc]
      apply prepares_allocateLocal.before
      intro slot small
      have later : Covers limits (given ∧ slot < limits.locals)
          (do
            let old ← scopedLocal spec.id
            bindLocal spec.id (some slot)
            compileLocals (remember previous spec.id old) locals >>= next)
          ((∀ entry ∈ locals, Occurs limits entry.2) ∧ parts) := by
        apply (prepares_scopedLocal spec.id).before
        intro old smallOld
        have bound : Prepares limits ((given ∧ slot < limits.locals) ∧ SlotWithin limits old)
            (bindLocal spec.id (some slot)) (fun _ => True)
            (fun _ => (given ∧ slot < limits.locals) ∧ SlotWithin limits old) := by
          apply prepares_bindLocal spec.id
          · intro index same
            cases same
            exact small
          · intro holds index same
            cases same
            exact holds.1.2
        have remembered : Restorable limits ((given ∧ slot < limits.locals) ∧ SlotWithin limits old)
            (remember previous spec.id old) :=
          (restorable.mono fun holds => holds.1.1).remember smallOld And.right spec.id
        have rest' := ih remembered fun known previous restorable =>
          Emits.knowing (rest (slot < limits.locals ∧ SlotWithin limits old ∧ known) previous
            (restorable.mono fun holds => ⟨⟨⟨holds.1, holds.2.1⟩, holds.2.2.1⟩, holds.2.2.2⟩))
            fun holds => ⟨holds.1.1.1, holds.1.1.2, holds.1.2, holds.2⟩
        exact (bound.covers.andThen rest').imp And.right
      have renamed : Covers limits (given ∧ slot < limits.locals) (nameLocal slot spec.name) True :=
        (prepares_nameLocal And.right spec.name).covers
      exact ((covers_expr value).andThen ((covers_storeLocal small).andThen (renamed.andThen later))).imp
        (by simp [and_assoc])

/-!
## Lists of operands
-/

/-- The count of the operands is checked first, and the operation follows them. -/
theorem covers_counted {items : List Expr} {count limit : Nat} {message : String} {operation : Compile Unit}
    (operationOk : count ≤ limit → Covers limits (given ∧ True) operation True) :
    Covers limits given
      (do
        ensureCount count limit message
        compileAll items
        operation)
      (∀ item ∈ items, Occurs limits item) := by
  apply (prepares_ensureCount count limit message).before
  intro _ few
  exact ((compileAll_covers items).andThen (operationOk few)).imp And.left

/-- A receiver in front of them. -/
theorem covers_received {receiver : Expr} {items : List Expr} {count limit : Nat} {message : String}
    {operation : Compile Unit} (operationOk : count ≤ limit → Covers limits (given ∧ True) operation True) :
    Covers limits given
      (do
        ensureCount count limit message
        compileExpr receiver
        compileAll items
        operation)
      (∀ item ∈ receiver :: items, Occurs limits item) := by
  apply (prepares_ensureCount count limit message).before
  intro _ few
  exact ((covers_expr receiver).andThen ((compileAll_covers items).andThen (operationOk few))).imp (by simp)

/-!
## Loops
-/

/-- A part of a guard, and the condition behind it. -/
theorem covers_guarded (before : Option Expr) (condition : Expr) :
    Covers limits given (compileDiscarded before >>= fun _ => compileExpr condition)
      ((∀ expr ∈ before.toList, Occurs limits expr) ∧ Occurs limits condition) :=
  (compileDiscarded_covers before).andThen (covers_expr condition)

theorem compileExpr_whileLoop_covers (condition body : Expr)
    (beforeContinue continueCondition continueBody beforeBreak breakCondition breakBody : Option Expr) :
    Covers limits given
      (compileExpr (.whileLoop condition beforeContinue continueCondition continueBody beforeBreak breakCondition
        breakBody body))
      (∀ child ∈ (Expr.whileLoop condition beforeContinue continueCondition continueBody beforeBreak breakCondition
        breakBody body).children, Occurs limits child) := by
  have popped : ∀ {given : Prop}, Covers limits given (compileExpr body >>= fun _ => op .pop) (Occurs limits body) :=
    ((covers_expr body).andThen compiles_pop.covers).imp And.left
  have restart : ∀ continueCondition loopStart, CoversIn limits given loopStart _ _ _ _ :=
    fun continueCondition loopStart => .restart loopStart (covers_guarded beforeContinue continueCondition)
      (compileDiscarded_covers continueBody)
  cases continueCondition with
  | none =>
      cases breakCondition with
      | none =>
          have whole : Covers limits given _ _ :=
            Covers.cycle (covers_expr condition) coversIn_nothing (fun _ _ => popped) (compiles_loadConst .nothing).covers
          simp only [bind_assoc, pure_bind] at whole
          apply whole.imp
          simp only [forall_whileLoop, forall_noGuard]
          tauto
      | some breakCondition =>
          have whole : Covers limits given _ _ := Covers.cycleExit (covers_expr condition) coversIn_nothing
            (covers_guarded beforeBreak breakCondition) (compileDiscarded_covers breakBody) (fun _ _ => popped)
            (compiles_loadConst .nothing).covers
          simp only [bind_assoc, pure_bind] at whole
          apply whole.imp
          simp only [forall_whileLoop, forall_noGuard, forall_guardParts]
          tauto
  | some continueCondition =>
      cases breakCondition with
      | none =>
          have whole : Covers limits given _ _ :=
            Covers.cycle (covers_expr condition) (restart continueCondition) (fun _ _ => popped)
              (compiles_loadConst .nothing).covers
          simp only [bind_assoc] at whole
          apply whole.imp
          simp only [forall_whileLoop, forall_noGuard, forall_guardParts]
          tauto
      | some breakCondition =>
          have whole : Covers limits given _ _ := Covers.cycleExit (covers_expr condition) (restart continueCondition)
            (covers_guarded beforeBreak breakCondition) (compileDiscarded_covers breakBody) (fun _ _ => popped)
            (compiles_loadConst .nothing).covers
          simp only [bind_assoc] at whole
          apply whole.imp
          simp only [forall_whileLoop, forall_guardParts]
          tauto

section Iteration

variable (source : Expr) {iterator : Nat} {body tail : Compile Unit}

theorem covers_getIterator (small : iterator < 256) :
    Covers limits given
      (do
        compileExpr source
        callDynamic "get:iterator" 0
        storeLocal iterator)
      (Occurs limits source) :=
  ((covers_expr source).andThen ((covers_callMethod "get:iterator" 0 (by decide)).andThen
    (covers_storeLocal small))).imp And.left

theorem covers_moveNext (small : iterator < 256) :
    Covers limits given (loadLocal iterator >>= fun _ => callDynamic "moveNext" 0) True :=
  ((covers_loadLocal small).andThen (covers_callMethod "moveNext" 0 (by decide))).imp fun _ => trivial

theorem covers_current (small : iterator < 256) :
    Covers limits given (loadLocal iterator >>= fun _ => callDynamic "get:current" 0) True :=
  ((covers_loadLocal small).andThen (covers_callMethod "get:current" 0 (by decide))).imp fun _ => trivial

/-- A loop over the values of an iterator. -/
theorem covers_iteration (small : iterator < 256) (bodyOk : Covers limits given body parts)
    (tailOk : Covers limits given tail True) :
    Covers limits given
      (do
        compileExpr source
        callDynamic "get:iterator" 0
        storeLocal iterator
        let loopStart ← position
        loadLocal iterator
        callDynamic "moveNext" 0
        op .jumpIfFalse
        let endPatch ← reserveU16
        body
        op .jump
        u16 loopStart
        patchHere endPatch
        tail)
      (Occurs limits source ∧ parts) := by
  have turn : ∀ value : Unit, True → Covers limits (given ∧ True) body parts :=
    fun _ _ => Emits.knowing bodyOk And.left
  have whole := (covers_getIterator source small).andThen
    (Covers.cycle (covers_moveNext small) coversIn_nothing turn tailOk)
  simp only [bind_assoc, pure_bind] at whole
  exact whole.imp (by tauto)

/-- A loop that adds to the collection in front of it. -/
theorem covers_gathering (receiver : Expr) {result : Nat} (resultSmall : result < 256) (small : iterator < 256)
    (bodyOk : Covers limits given body parts) :
    Covers limits given
      (do
        compileExpr receiver
        storeLocal result
        compileExpr source
        callDynamic "get:iterator" 0
        storeLocal iterator
        let loopStart ← position
        loadLocal iterator
        callDynamic "moveNext" 0
        op .jumpIfFalse
        let endPatch ← reserveU16
        body
        op .jump
        u16 loopStart
        patchHere endPatch
        loadLocal result)
      (Occurs limits receiver ∧ Occurs limits source ∧ parts) :=
  ((covers_expr receiver).andThen ((covers_storeLocal resultSmall).andThen
    (covers_iteration source small bodyOk (covers_loadLocal resultSmall)))).imp (by tauto)

end Iteration

/-- The current value is stored in the slot of the item. -/
theorem coversIn_item (item : LocalSpec) {iterator current : Nat} (small : iterator < 256)
    (currentSmall : current < 256) (currentInside : given → current < limits.locals) (loopStart : Nat) :
    CoversIn limits given loopStart
      (do
        loadLocal iterator
        callDynamic "get:current" 0
        storeLocal current
        nameLocal current item.name
        let previous ← scopedLocal item.id
        bindLocal item.id (some current)
        pure previous)
      (fun previous => ∀ index, previous = some index → index < 256) (SlotWithin limits) True := by
  have stored : Covers limits given _ True :=
    ((covers_current small).andThen ((covers_storeLocal currentSmall).andThen
      (prepares_nameLocal currentInside item.name).covers)).imp fun _ => trivial
  have whole := stored.inLoop (prepares_enter item.id currentSmall currentInside) loopStart
  simp only [bind_assoc] at whole
  exact whole

theorem compileExpr_yieldForIn_covers (source body : Expr) (item : LocalSpec)
    (beforeBreak breakCondition : Option Expr) :
    Covers limits given (compileExpr (.yieldForIn source item beforeBreak breakCondition body))
      (∀ child ∈ (Expr.yieldForIn source item beforeBreak breakCondition body).children, Occurs limits child) := by
  have left : ∀ {given : Prop} (previous : Option Nat), (∀ index, previous = some index → index < 256) →
      Covers limits (given ∧ SlotWithin limits previous)
        (do
          compileExpr body
          bindLocal item.id previous
          op .pop)
        (Occurs limits body) :=
    fun previous small => ((covers_expr body).andThen
      ((prepares_bindLocal item.id small And.right).covers.andThen compiles_pop.covers)).imp And.left
  cases breakCondition with
  | none =>
      have whole : Covers limits given (allocateLocal >>= fun iterator => _) _ :=
        prepares_allocateLocal.before fun iterator small =>
          prepares_allocateLocal.before fun current currentSmall =>
            (covers_getIterator source small).andThen
              (Covers.cycle (covers_moveNext small) (coversIn_item item small currentSmall And.right) left
                (compiles_loadConst .nothing).covers)
      simp only [bind_assoc, pure_bind] at whole
      exact whole.imp (by simp [Expr.children, Expr.guardParts])
  | some breakCondition =>
      have whole : Covers limits given (allocateLocal >>= fun iterator => _) _ :=
        prepares_allocateLocal.before fun iterator small =>
          prepares_allocateLocal.before fun current currentSmall =>
            (covers_getIterator source small).andThen
              (Covers.cycleExit (covers_moveNext small) (coversIn_item item small currentSmall And.right)
                (covers_guarded beforeBreak breakCondition) covers_nothing left
                (compiles_loadConst .nothing).covers)
      simp only [bind_assoc, pure_bind] at whole
      apply whole.imp
      simp only [Expr.children, List.forall_mem_cons, List.forall_mem_append, forall_guardParts]
      simp only [Option.toList_none, List.not_mem_nil, IsEmpty.forall_iff, implies_true, and_true]
      tauto

/-!
## All expressions
-/

theorem compileExpr_covers (expr : Expr) :
    Covers limits True (compileExpr expr) (∀ child ∈ expr.children, Occurs limits child) := by
  cases expr with
  | const constant => exact (compiles_loadConst constant).covers.imp (by simp [Expr.children])
  | arg name => exact (covers_expr (.arg name)).imp (by simp [Expr.children])
  | letLocal id => exact (covers_expr (.letLocal id)).imp (by simp [Expr.children])
  | letIn locals body =>
      have whole : Covers limits True (compileLocals [] locals >>= _) _ :=
        compileLocals_covers (fun _ member => absurd member List.not_mem_nil)
          fun known previous restorable => (covers_expr body).andThen (prepares_restore restorable).covers
      apply whole.imp
      simp only [Expr.children, List.forall_mem_append, List.forall_mem_map, List.forall_mem_singleton]
      tauto
  | setLocal id value =>
      apply (prepares_scopedLocal id).before
      intro slot small
      cases slot with
      | none => exact emits_exit
      | some index =>
          exact ((covers_expr value).andThen ((covers_storeLocal (small index rfl)).andThen
            (compiles_loadConst .nothing).covers)).imp (by simp [Expr.children])
  | whileLoop => exact compileExpr_whileLoop_covers _ _ _ _ _ _ _ _
  | less left right =>
      exact ((covers_expr right).andThen ((covers_expr left).andThen (emits_op rfl fun _ => trivial))).imp
        (by simp +contextual [Expr.children])
  | binary operator left right =>
      have operated : Covers limits True (op operator.opcode) True :=
        emits_op (by cases operator <;> rfl) fun _ => trivial
      exact ((covers_expr left).andThen ((covers_expr right).andThen operated)).imp (by simp [Expr.children])
  | conditional condition thenExpr elseExpr =>
      exact (Covers.conditional (covers_expr condition) (covers_expr thenExpr) (covers_expr elseExpr)).imp
        (by simp [Expr.children])
  | throw value | await value =>
      exact ((covers_expr value).andThen (emits_op rfl fun _ => trivial)).imp (by simp [Expr.children])
  | seq items => exact compileSeq_covers items
  | yield value =>
      exact ((covers_expr value).andThen ((compiles_op rfl fun _ => piece_yield).covers.andThen
        (compiles_loadConst .nothing).covers)).imp (by simp [Expr.children])
  | yieldAll source =>
      have whole : Covers limits True (allocateLocal >>= fun iterator => _) _ :=
        prepares_allocateLocal.before fun iterator small =>
          covers_iteration source small ((covers_current small).andThen (compiles_op rfl fun _ => piece_yield).covers)
            (compiles_loadConst .nothing).covers
      simp only [bind_assoc] at whole
      exact whole.imp (by simp [Expr.children])
  | yieldForIn source item beforeBreak breakCondition body =>
      exact compileExpr_yieldForIn_covers source body item beforeBreak breakCondition
  | tryFinally body finalizer preserveValue =>
      have protect : ∀ {given : Prop} {keep tail : Compile Unit}, Covers limits given keep True →
          Covers limits given tail True → Covers limits given _ (Occurs limits body ∧ Occurs limits finalizer) :=
        fun keepOk tailOk => Emits.tryFinally (covers_expr body) keepOk (covers_expr finalizer) tailOk
          fun _ _ _ _ _ _ _ inBody _ _ inFinalizer _ _ _ => ⟨inBody, inFinalizer⟩
      cases preserveValue with
      | true =>
          have whole : Covers limits True (allocateLocal >>= fun slot => _) _ :=
            prepares_allocateLocal.before fun slot small => protect (covers_storeLocal small) (covers_loadLocal small)
          rw [compileExpr_tryFinally, if_pos rfl, bind_map_left]
          exact whole.imp (by simp [Expr.children])
      | false =>
          have whole : Covers limits True _ _ := protect covers_nothing (compiles_loadConst .nothing).covers
          simp only [compileExpr_tryFinally, Bool.false_eq_true, if_false, pure_bind]
          exact whole.imp (by simp [Expr.children])
  | tryCatch body catchLocal catchBody =>
      have whole : Covers limits True _ (Occurs limits body ∧ Occurs limits catchBody) :=
        Emits.tryCatch catchLocal (covers_expr body) (covers_expr catchBody)
          fun _ _ _ _ _ _ inBody _ _ _ inHandler _ _ => ⟨inBody, inHandler⟩
      exact whole.imp (by simp [Expr.children])
  | call kind target args => exact covers_counted fun few => (compiles_callTarget few kind target).covers
  | callDynamic receiver method names args =>
      exact covers_received fun few => (compiles_callMember few receiver method names).covers
  | callClosure closure names args =>
      exact covers_received fun few => (compiles_callClosure few closure names).covers
  | makeClosure closure captures => exact covers_counted fun _ => (compiles_makeClosure closure).covers
  | newObject constructor typeNames names args =>
      exact covers_counted fun few => (compiles_newObject few constructor typeNames names).covers
  | concat parts => exact covers_counted fun few => (compiles_stringConcat few).covers
  | list items => exact covers_counted fun few => (compiles_makeList few).covers
  | map entries =>
      have whole : Covers limits True (compileExpr (.map entries)) _ :=
        (prepares_ensureCount _ _ _).before fun _ few =>
          (compileEntries_covers entries).andThen (compiles_makeMap few).covers
      exact whole.imp And.left
  | addAll kind receiver spread =>
      have whole : Covers limits True (compileExpr (.addAll kind receiver spread)) _ :=
        prepares_allocateLocal.before fun slot small =>
          (covers_expr receiver).andThen ((covers_storeLocal small).andThen ((covers_loadLocal small).andThen
            ((covers_expr spread).andThen ((covers_callMethod "addAll" 1 (by decide)).andThen
              (covers_loadLocal small)))))
      exact whole.imp (by simp [Expr.children])
  | listForIn receiver source =>
      have whole : Covers limits True (allocateLocal >>= fun result => _) _ :=
        prepares_allocateLocal.before fun result resultSmall =>
          prepares_allocateLocal.before fun iterator small =>
            covers_gathering source receiver resultSmall small ((covers_loadLocal resultSmall).andThen
              ((covers_current small).andThen (covers_callMethod "add" 1 (by decide))))
      simp only [bind_assoc] at whole
      exact whole.imp (by simp [Expr.children])
  | listForInMapped receiver source item value =>
      have whole : Covers limits True (allocateLocal >>= fun result => _) _ :=
        prepares_allocateLocal.before fun result resultSmall =>
          prepares_allocateLocal.before fun iterator small =>
            prepares_allocateLocal.before fun current currentSmall =>
              covers_gathering source receiver resultSmall small ((covers_current small).andThen
                ((covers_storeLocal currentSmall).andThen ((covers_loadLocal resultSmall).andThen
                  (((covers_expr value).bound currentSmall And.right item).andThen
                    (covers_callMethod "add" 1 (by decide))))))
      simp only [bind_assoc] at whole
      exact whole.imp (by simp [Expr.children])
  | mapForIn receiver source =>
      have whole : Covers limits True (allocateLocal >>= fun result => _) _ :=
        prepares_allocateLocal.before fun result resultSmall =>
          prepares_allocateLocal.before fun iterator small =>
            prepares_allocateLocal.before fun current currentSmall =>
              covers_gathering source receiver resultSmall small ((covers_current small).andThen
                ((covers_storeLocal currentSmall).andThen ((covers_loadLocal resultSmall).andThen
                  ((covers_loadLocal currentSmall).andThen ((covers_callMethod "get:key" 0 (by decide)).andThen
                    ((covers_loadLocal currentSmall).andThen ((covers_callMethod "get:value" 0 (by decide)).andThen
                      (covers_callMethod "[]=" 2 (by decide)))))))))
      simp only [bind_assoc] at whole
      exact whole.imp (by simp [Expr.children])
  | mapForInMapped receiver source entry key value =>
      have whole : Covers limits True (allocateLocal >>= fun result => _) _ :=
        prepares_allocateLocal.before fun result resultSmall =>
          prepares_allocateLocal.before fun iterator small =>
            prepares_allocateLocal.before fun current currentSmall =>
              covers_gathering source receiver resultSmall small ((covers_current small).andThen
                ((covers_storeLocal currentSmall).andThen ((covers_loadLocal resultSmall).andThen
                  ((((covers_expr key).andThen (covers_expr value)).bound currentSmall And.right entry).andThen
                    (covers_callMethod "[]=" 2 (by decide))))))
      simp only [bind_assoc] at whole
      exact whole.imp (by simp [Expr.children])
  | getField value name | isType value name | asType value name =>
      exact ((covers_expr value).andThen (emits_named rfl name fun _ _ _ _ => trivial)).imp (by simp [Expr.children])
  | setField receiver field value =>
      exact ((covers_expr receiver).andThen ((covers_expr value).andThen
        (emits_named rfl field fun _ _ _ _ => trivial))).imp (by simp [Expr.children])

end Expressions

section Occurrences

variable {limits : Limits} {expr operand : Expr} {now after : RestrictedBytecodeCompiler}

theorem Occurs.child (occurs : Occurs limits expr) (member : operand ∈ expr.children) :
    Occurs limits operand := by
  obtain ⟨now, after, ready, within, ran⟩ := occurs
  obtain ⟨_, progress⟩ := (compileExpr_covers expr now ready fun _ => trivial).of_ok ran
  exact progress.known within operand member

theorem RestrictedBytecodeCompiler.Sound.occurs (sound : now.Sound)
    (compiled : compileExpr expr now = (.ok (), after)) : Occurs after.used expr :=
  ⟨now, after, sound.ready _, within_used, compiled⟩

end Occurrences

end CodePush.Compiler
