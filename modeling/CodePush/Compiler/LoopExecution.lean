import CodePush.Compiler.ExpressionExecution

/-!
# Loops in code that executes a computation

Loops with the guards that restart and leave them, and `while_loop`.
-/

set_option autoImplicit false

namespace CodePush.Compiler

open CodePush.Core CodePush.Bytecode CodePush.Foundation CodePush.Foundation.Action
  CodePush.Foundation.Assembly RestrictedBytecodeCompiler

variable {ν ω : Type}

/-!
## Guards
-/

/-- Code before the rest of a round, which may go back to the start of the loop. -/
structure Guards (vm : Vm ν ω) (rounds : Nat) (place : Place) (slotted : (Nat → ν) → Prop) (loopStart pos : Nat)
    (code : Code) (around : Run Int64 ν ω (Option Unit) → Run Int64 ν ω (Option Unit)) (tidy : Prop) : Prop where
  fits : ∀ instr ∈ code, instr.Fits
  turns : ∀ known, place.Absorbs tidy known → (∀ stack slots, known stack slots → slotted slots) →
    ∀ finish rest run, Turns vm rounds place (pos + extent Instr.size code) rest loopStart finish known run
      Option.isNone known → Turns vm rounds place pos (code ++ rest) loopStart finish known (around run) Option.isNone known

/-- The rest of a round, behind which there is another one. -/
theorem Executes.goesOn {vm : Vm ν ω} {rounds : Nat} {place : Place} {pos loopStart finish : Nat} {code : Code}
    {known : Assertion ν} {α : Type} {run : Run Int64 ν ω α}
    (runs : Executes vm rounds place pos code known run fun _ => known) :
    Turns vm rounds place pos code loopStart finish known
      (do
        let _ ← run
        pure (none : Option Unit))
      Option.isNone known := runs.turns rfl

section While

variable {limits : Limits} {given : Prop} {operations : Operations ν ω} {arguments : Nat → ν} {rounds : Nat}
  {here place : Place} {slotted : (Nat → ν) → Prop} {condition body tail exitCondition exitBody : Compile Unit}
  {guards guarded : Nat → Compile Unit} {α β : Type} {test exitTest : Run Int64 ν ω ν} {bodyRun : Run Int64 ν ω α}
  {exitRun : Run Int64 ν ω β} {tailRun : Run Int64 ν ω ν} {around : Run Int64 ν ω (Option Unit) → Run Int64 ν ω (Option Unit)}
  {tidy₁ tidy₂ tidy₃ tidy₄ tidy₅ tidy₆ : Prop}

/-- The guards are compiled at the place, and go back to the start of the loop if they do. -/
structure GuardsAt (limits : Limits) (given : Prop) (operations : Operations ν ω) (arguments : Nat → ν)
    (rounds : Nat) (here place : Place) (slotted : (Nat → ν) → Prop) (guards guarded : Nat → Compile Unit)
    (around : Run Int64 ν ω (Option Unit) → Run Int64 ν ω (Option Unit)) (tidy : Prop) : Prop where
  emits : ∀ loopStart, EmitsIn limits given loopStart (guarded loopStart) (fun _ => True) (fun _ => True)
    fun pos code => Guards (limits.vm operations arguments) rounds place slotted loopStart pos code around tidy
  same : ∀ loopStart, SameAt here (guarded loopStart) (guards loopStart)
  restores : ∀ loopStart, Restores (guards loopStart)

theorem guardsAt_none :
    GuardsAt limits given operations arguments rounds here place slotted (fun _ => pure ()) (fun _ => pure ()) id True where
  emits := by
    intro loopStart now ready known _
    apply ensures_pure
    refine ⟨trivial, [], (Progress.start ready).imp fun _ => ⟨trivial, by simp, ?_⟩⟩
    intro known _ _ finish rest run turns
    exact turns.moved (by simp)
  same := fun _ => .refl _
  restores := fun _ => inferInstance

theorem guardsAt_restart [Restores condition] [Restores body]
    (conditionOk : PushesIn limits given operations arguments rounds here place slotted condition test tidy₁)
    (bodyOk : DiscardsIn limits given operations arguments rounds here place slotted body bodyRun tidy₂) :
    GuardsAt limits given operations arguments rounds here place slotted
      (fun loopStart => do
        condition
        op .jumpIfFalse
        let bodyPatch ← reserveU16
        body
        op .jump
        u16 loopStart
        patchHere bodyPatch)
      (fun loopStart => do
        startingAt here condition
        op .jumpIfFalse
        let bodyPatch ← reserveU16
        startingAt here body
        op .jump
        u16 loopStart
        patchHere bodyPatch)
      (fun rest => do
        if operations.isTrue (← test) then do
          let _ ← bodyRun
          pure none
        else rest)
      (tidy₁ ∧ tidy₂) where
  emits := by
    intro loopStart
    apply EmitsIn.restart loopStart conditionOk bodyOk
    intro pos conditionCode bodyCode label earlier tests discards labelled small
    constructor
    · simp only [List.forall_mem_append, List.forall_mem_cons]
      exact ⟨tests.fits, Instr.fits_jump rfl small, discards.fits, Instr.fits_jump rfl (by omega), by simp⟩
    · intro known absorbs tells finish rest run turns
      have testRuns := tests.fetch (absorbs.imp And.left) tells
      have bodyRuns := discards.drop (absorbs.imp And.right) tells
      have ends : pos + extent Instr.size
          (conditionCode ++ (.one .jumpIfFalse label :: (bodyCode ++ [.one .jump loopStart]))) = label := by
        simp [labelled, OpCode.operandLen]
        omega
      rw [ends] at turns
      exact Turns.guard testRuns bodyRuns labelled (.inl ⟨rfl, rfl⟩) turns
  same := by
    intro loopStart
    apply SameAt.guardBind
    intro _
    apply SameAt.bind
    intro _
    apply SameAt.bind
    intro _
    apply SameAt.guardBind
    exact fun _ => .refl _
  restores := by
    intro loopStart
    repeat
      apply Restores.andThen
      intro _
    infer_instance

/-!
## Loops
-/

theorem pushesIn_cycle [Restores condition] [Restores body]
    (conditionOk : PushesIn limits given operations arguments rounds here place slotted condition test tidy₁)
    (guardsOk : GuardsAt limits given operations arguments rounds here place slotted guards guarded around tidy₂)
    (bodyOk : DiscardsIn limits given operations arguments rounds here place slotted body bodyRun tidy₃)
    (tailOk : PushesIn limits given operations arguments rounds here place slotted tail tailRun tidy₄) :
    PushesIn limits given operations arguments rounds here place slotted
      (do
        let loopStart ← position
        condition
        op .jumpIfFalse
        let endPatch ← reserveU16
        guards loopStart
        body
        op .jump
        u16 loopStart
        patchHere endPatch
        tail)
      (do
        Run.cycle (do
          if operations.isTrue (← test) then
            around (do
              let _ ← bodyRun
              pure none)
          else pure (some ())) rounds
        tailRun)
      (tidy₁ ∧ (tidy₂ ∧ tidy₃) ∧ tidy₄) := by
  have same : SameAt here
      (do
        let loopStart ← position
        startingAt here condition
        op .jumpIfFalse
        let endPatch ← reserveU16
        guarded loopStart
        startingAt here body
        op .jump
        u16 loopStart
        patchHere endPatch
        startingAt here tail)
      (do
        let loopStart ← position
        condition
        op .jumpIfFalse
        let endPatch ← reserveU16
        guards loopStart
        body
        op .jump
        u16 loopStart
        patchHere endPatch
        tail) := by
    apply SameAt.bind
    intro loopStart
    have guardsRestore := guardsOk.restores loopStart
    apply SameAt.guardBind
    intro _
    apply SameAt.bind
    intro _
    apply SameAt.bind
    intro _
    apply SameAt.andThen (guardsOk.same loopStart)
    intro _
    apply SameAt.guardBind
    intro _
    apply SameAt.bind
    intro _
    apply SameAt.bind
    intro _
    apply SameAt.bind
    exact fun _ => .guard tail
  apply SameAt.emits same
  apply Emits.cycle conditionOk guardsOk.emits (fun _ _ => Emits.knowing bodyOk And.left) tailOk
  intro pos conditionCode guardCode bodyCode tailCode thenAt finish tests thenPlaced guards discards finished small
    pushes
  constructor
  · simp only [List.forall_mem_append, List.forall_mem_cons]
    exact ⟨tests.fits, Instr.fits_jump rfl small, ⟨guards.fits, discards.fits⟩, Instr.fits_jump rfl (by omega), pushes.fits⟩
  · intro known absorbs tells
    have testRuns := tests.fetch (absorbs.imp fun tidy => tidy.1) tells
    have bodyRuns := discards.drop (absorbs.imp fun tidy => tidy.2.1.2) tells
    have turns := guards.turns known (absorbs.imp fun tidy => tidy.2.1.1) tells finish bodyCode _ bodyRuns.goesOn
    have tailRuns := pushes.executes known (absorbs.imp fun tidy => tidy.2.2) tells
    exact Executes.cycle testRuns thenPlaced turns (by rw [extent_append, finished]) tailRuns

/-- A loop that is also left behind its guards. -/
theorem pushesIn_cycleExit [Restores condition] [Restores body]
    [Restores exitCondition] [Restores exitBody]
    (conditionOk : PushesIn limits given operations arguments rounds here place slotted condition test tidy₁)
    (guardsOk : GuardsAt limits given operations arguments rounds here place slotted guards guarded around tidy₂)
    (exitOk : PushesIn limits given operations arguments rounds here place slotted exitCondition exitTest tidy₃)
    (exitBodyOk : DiscardsIn limits given operations arguments rounds here place slotted exitBody exitRun tidy₄)
    (bodyOk : DiscardsIn limits given operations arguments rounds here place slotted body bodyRun tidy₅)
    (tailOk : PushesIn limits given operations arguments rounds here place slotted tail tailRun tidy₆) :
    PushesIn limits given operations arguments rounds here place slotted
      (do
        let loopStart ← position
        condition
        op .jumpIfFalse
        let endPatch ← reserveU16
        guards loopStart
        exitCondition
        op .jumpIfFalse
        let continuePatch ← reserveU16
        exitBody
        op .jump
        let breakPatch ← reserveU16
        patchHere continuePatch
        body
        op .jump
        u16 loopStart
        patchHere breakPatch
        patchHere endPatch
        tail)
      (do
        Run.cycle (do
          if operations.isTrue (← test) then
            around (do
              if operations.isTrue (← exitTest) then do
                let _ ← exitRun
                pure (some ())
              else do
                let _ ← bodyRun
                pure none)
          else pure (some ())) rounds
        tailRun)
      (tidy₁ ∧ ((tidy₂ ∧ tidy₃ ∧ tidy₄) ∧ tidy₅) ∧ tidy₆) := by
  have same : SameAt here
      (do
        let loopStart ← position
        startingAt here condition
        op .jumpIfFalse
        let endPatch ← reserveU16
        guarded loopStart
        startingAt here exitCondition
        op .jumpIfFalse
        let continuePatch ← reserveU16
        startingAt here exitBody
        op .jump
        let breakPatch ← reserveU16
        patchHere continuePatch
        startingAt here body
        op .jump
        u16 loopStart
        patchHere breakPatch
        patchHere endPatch
        startingAt here tail)
      (do
        let loopStart ← position
        condition
        op .jumpIfFalse
        let endPatch ← reserveU16
        guards loopStart
        exitCondition
        op .jumpIfFalse
        let continuePatch ← reserveU16
        exitBody
        op .jump
        let breakPatch ← reserveU16
        patchHere continuePatch
        body
        op .jump
        u16 loopStart
        patchHere breakPatch
        patchHere endPatch
        tail) := by
    apply SameAt.bind
    intro loopStart
    have guardsRestore := guardsOk.restores loopStart
    apply SameAt.guardBind
    intro _
    apply SameAt.bind
    intro _
    apply SameAt.bind
    intro _
    apply SameAt.andThen (guardsOk.same loopStart)
    intro _
    apply SameAt.guardBind
    intro _
    apply SameAt.bind
    intro _
    apply SameAt.bind
    intro _
    apply SameAt.guardBind
    intro _
    apply SameAt.bind
    intro _
    apply SameAt.bind
    intro _
    apply SameAt.bind
    intro _
    apply SameAt.guardBind
    intro _
    apply SameAt.bind
    intro _
    apply SameAt.bind
    intro _
    apply SameAt.bind
    intro _
    apply SameAt.bind
    exact fun _ => .guard tail
  apply SameAt.emits same
  apply Emits.cycleExit conditionOk guardsOk.emits exitOk exitBodyOk (fun _ _ => Emits.knowing bodyOk And.left) tailOk
  intro pos conditionCode guardCode exitCode exitBodyCode bodyCode tailCode thenAt exitAt label finish tests
    thenPlaced guards exitPlaced exits leaves labelled labelSmall discards finished small pushes
  subst exitPlaced
  constructor
  · simp only [List.forall_mem_append, List.forall_mem_cons]
    exact ⟨tests.fits, Instr.fits_jump rfl small,
      ⟨⟨guards.fits, exits.fits, Instr.fits_jump rfl labelSmall, leaves.fits, Instr.fits_jump rfl small, by simp⟩, discards.fits⟩,
      Instr.fits_jump rfl (by omega), pushes.fits⟩
  · intro known absorbs tells
    have testRuns := tests.fetch (absorbs.imp fun tidy => tidy.1) tells
    have exitRuns := exits.fetch (absorbs.imp fun tidy => tidy.2.1.1.2.1) tells
    have leaveRuns := leaves.drop (absorbs.imp fun tidy => tidy.2.1.1.2.2) tells
    have bodyRuns := discards.drop (absorbs.imp fun tidy => tidy.2.1.2) tells
    have tailRuns := pushes.executes known (absorbs.imp fun tidy => tidy.2.2) tells
    have aims : Option.isNone (some ()) = true ∧ finish = pos ∨ Option.isNone (some ()) = false ∧ finish = finish :=
      .inr ⟨rfl, rfl⟩
    have leaving := Turns.guard exitRuns leaveRuns labelled aims bodyRuns.goesOn
    have turns := guards.turns known (absorbs.imp fun tidy => tidy.2.1.1.1) tells finish _ _ leaving
    rw [← List.append_assoc] at turns
    apply Executes.cycle testRuns thenPlaced turns _ tailRuns
    simp [finished, labelled, OpCode.operandLen]
    omega

end While

section WhileLoop

variable {limits : Limits} {given : Prop} {operations : Operations ν ω} {arguments : Nat → ν} {rounds : Nat}
  {place : Place} {slotted : (Nat → ν) → Prop} {condition body test : Expr}
  {before beforeContinue continueCondition continueBody beforeBreak breakCondition breakBody : Option Expr}

/-- What comes before a condition, and the condition. -/
theorem pushesAt_tested (sound : place.Sound)
    (beforeOk : ∀ expr ∈ before.toList, Realized limits operations arguments rounds expr)
    (testOk : Realized limits operations arguments rounds test) :
    PushesAt limits given operations arguments rounds place slotted
      (compileDiscarded before >>= fun _ => compileExpr test)
      (do
        let _ ← meaningDiscarded operations.machine (place.argument arguments) rounds before
        meaning operations.machine (place.argument arguments) rounds test)
      ((∀ expr ∈ before.toList, expr.All Expr.TidyNode) ∧ test.All Expr.TidyNode) := by
  have beforeRestores : Restores (compileDiscarded before) :=
    restores_discarded fun expr member => (beforeOk expr member).restores
  exact (discardsAt_discarded sound beforeOk).before (testOk.here sound)

theorem pushesAt_whileLoop (sound : place.Sound) (conditionOk : Realized limits operations arguments rounds condition)
    (bodyOk : Realized limits operations arguments rounds body)
    (continueOk : ∀ part ∈ Expr.guardParts beforeContinue continueCondition continueBody,
      Realized limits operations arguments rounds part)
    (breakOk : ∀ part ∈ Expr.guardParts beforeBreak breakCondition breakBody,
      Realized limits operations arguments rounds part) :
    PushesAt limits given operations arguments rounds place slotted
      (compileExpr (.whileLoop condition beforeContinue continueCondition continueBody beforeBreak breakCondition
        breakBody body))
      (meaning operations.machine (place.argument arguments) rounds
        (.whileLoop condition beforeContinue continueCondition continueBody beforeBreak breakCondition breakBody body))
      ((Expr.whileLoop condition beforeContinue continueCondition continueBody beforeBreak breakCondition breakBody
        body).All Expr.TidyNode) := by
  have conditionRestores := conditionOk.restores
  have bodyRestores := bodyOk.restores
  have popRestores : Restores (compileExpr body >>= fun _ => op .pop) := inferInstance
  have tested : PushesAt limits given operations arguments rounds place slotted (compileExpr condition)
      (meaning operations.machine (place.argument arguments) rounds condition) (condition.All Expr.TidyNode) :=
    conditionOk.here sound
  have popped : DiscardsAt limits given operations arguments rounds place slotted
      (compileExpr body >>= fun _ => op .pop)
      (do
        let _ ← meaning operations.machine (place.argument arguments) rounds body
        pure ())
      (body.All Expr.TidyNode) := LeavesIn.pop (bodyOk.here sound)
  have null : PushesAt limits given operations arguments rounds place slotted (loadConst .nothing)
      (pure operations.machine.null) True := pushesIn_loadConst .nothing
  cases continueCondition with
  | none =>
      cases breakCondition with
      | none =>
          have whole := pushesIn_cycle tested guardsAt_none popped null
          simp only [bind_assoc, pure_bind] at whole
          apply whole.form
          · rfl
          · rfl
          · intro tidy
            have below := (Expr.all_iff.mp tidy).2
            simp only [forall_whileLoop, forall_noGuard] at below
            tauto
      | some breakCondition =>
          obtain ⟨beforeOk, exitOk, afterOk⟩ := forall_guardParts.mp breakOk
          have exitRestores := exitOk.restores
          have beforeRestores : Restores (compileDiscarded beforeBreak) :=
            restores_discarded fun expr member => (beforeOk expr member).restores
          have afterRestores : Restores (compileDiscarded breakBody) :=
            restores_discarded fun expr member => (afterOk expr member).restores
          have whole := pushesIn_cycleExit tested guardsAt_none (pushesAt_tested sound beforeOk exitOk)
            (discardsAt_discarded sound afterOk) popped null
          simp only [bind_assoc, pure_bind] at whole
          apply whole.form
          · rfl
          · rfl
          · intro tidy
            have below := (Expr.all_iff.mp tidy).2
            simp only [forall_whileLoop, forall_noGuard, forall_guardParts] at below
            tauto
  | some continueCondition =>
      obtain ⟨beforeOk, restartOk, afterOk⟩ := forall_guardParts.mp continueOk
      have restartRestores := restartOk.restores
      have beforeRestores : Restores (compileDiscarded beforeContinue) :=
        restores_discarded fun expr member => (beforeOk expr member).restores
      have afterRestores : Restores (compileDiscarded continueBody) :=
        restores_discarded fun expr member => (afterOk expr member).restores
      have restart : GuardsAt limits given operations arguments rounds place place slotted _ _ _ _ :=
        guardsAt_restart (pushesAt_tested sound beforeOk restartOk) (discardsAt_discarded sound afterOk)
      cases breakCondition with
      | none =>
          have whole := pushesIn_cycle tested restart popped null
          simp only [bind_assoc, pure_bind] at whole
          apply whole.form
          · rfl
          · rfl
          · intro tidy
            have below := (Expr.all_iff.mp tidy).2
            simp only [forall_whileLoop, forall_noGuard, forall_guardParts] at below
            tauto
      | some breakCondition =>
          obtain ⟨beforeOk', exitOk, afterOk'⟩ := forall_guardParts.mp breakOk
          have exitRestores := exitOk.restores
          have beforeRestores' : Restores (compileDiscarded beforeBreak) :=
            restores_discarded fun expr member => (beforeOk' expr member).restores
          have afterRestores' : Restores (compileDiscarded breakBody) :=
            restores_discarded fun expr member => (afterOk' expr member).restores
          have whole := pushesIn_cycleExit tested restart (pushesAt_tested sound beforeOk' exitOk)
            (discardsAt_discarded sound afterOk') popped null
          simp only [bind_assoc, pure_bind] at whole
          apply whole.form
          · rfl
          · rfl
          · intro tidy
            have below := (Expr.all_iff.mp tidy).2
            simp only [forall_whileLoop, forall_guardParts] at below
            tauto

end WhileLoop

end CodePush.Compiler
