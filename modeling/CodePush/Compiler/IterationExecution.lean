import CodePush.Compiler.LoopExecution

/-!
# Loops over an iterator in code that executes a computation

Iterators and the collections that are appended to are kept in slots that belong to no local. What is kept there is
only known when the code runs.
-/

set_option autoImplicit false

namespace CodePush.Compiler

open CodePush.Core CodePush.Bytecode CodePush.Foundation CodePush.Foundation.Action
  CodePush.Foundation.Assembly RestrictedBytecodeCompiler

variable {ν ω : Type}

/-!
## Values that are kept in slots
-/

theorem Emits.congr {limits : Limits} {given : Prop} {action action' : Compile Unit} {shape : Nat → Code → Prop}
    (emits : Emits limits given action shape) (same : action = action') : Emits limits given action' shape :=
  same ▸ emits

/-- Code that fits is determined by its bytes, so that what holds of it for every value holds of the same code. -/
theorem Emits.every {ι : Type} [Nonempty ι] {limits : Limits} {given : Prop} {action : Compile Unit}
    {shape : ι → Nat → Code → Prop} (emits : ∀ index, Emits limits given action (shape index))
    (fits : ∀ index pos code, shape index pos code → ∀ instr ∈ code, instr.Fits) :
    Emits limits given action fun pos code => ∀ index, shape index pos code := by
  intro now ready known
  rcases ended : action now with ⟨error | _, after⟩
  · unfold Ensures
    rw [ended]
    trivial
  · have each : ∀ index, ∃ code, Progress limits now after code (shape index now.code.length code) := by
      intro index
      have emitted := emits index now ready known
      unfold Ensures at emitted
      rw [ended] at emitted
      exact emitted
    obtain ⟨code, progress⟩ := each (Classical.arbitrary ι)
    unfold Ensures
    rw [ended]
    refine ⟨code, ⟨progress.ready, progress.grows, ?_⟩, progress.emitted⟩
    intro within index
    obtain ⟨code', progress'⟩ := each index
    have codeFits := fits _ _ _ (progress.known within)
    have codeFits' := fits _ _ _ (progress'.known within)
    have bytes : assemble code = assemble code' :=
      List.append_cancel_left (progress.emitted.symm.trans progress'.emitted)
    obtain rfl := assemble_injective codeFits codeFits' bytes
    exact progress'.known within

section Slots

variable {vm : Vm ν ω} {limits : Limits} {given : Prop} {operations : Operations ν ω} {arguments : Nat → ν}
  {rounds pos count slot : Nat} {here place : Place} {slotted : (Nat → ν) → Prop} {code : Code}
  {first second : Compile Unit} {α : Type} {one : Run Int64 ν ω ν} {next : ν → Run Int64 ν ω α}
  {run : Run Int64 ν ω α} {values : α → List ν} {tidy tidy' : Prop}

/-- A value that goes to a slot that no local has, and what is computed with it. -/
theorem Handles.stored (sound : place.Sound) (unused : place.free ≤ slot) (small : slot < 256)
    (leaves : ∀ held, Leaves vm rounds (place.above slot) (fun slots => slotted slots ∧ slots slot = held)
      (pos + extent Instr.size [.one .storeLocal slot]) code (next held) values count tidy) :
    Handles vm rounds place slotted pos ([.one .storeLocal slot] ++ code) next values count tidy where
  fits := by
    rw [List.forall_mem_append]
    exact ⟨fits_local rfl small, (leaves vm.operations.machine.null).fits⟩
  executes := by
    intro operand known absorbs tells
    have reserved := sound.reserved unused
    have stays : (place.above slot).Absorbs tidy (holding slot operand known) :=
      (absorbs.above unused).holding reserved operand
    have told : ∀ stack slots, holding slot operand known stack slots → slotted slots ∧ slots slot = operand :=
      fun stack slots found => ⟨tells stack slots found.1, found.2⟩
    have runs := ((leaves operand).executes _ stays told).lower unused
    apply (executes_storeSlot sound absorbs.stable unused).andThen
    apply runs.imp (fun _ _ found => found)
    intro result stack slots found
    obtain ⟨counted, found⟩ := found
    exact ⟨counted, onTop_imp (fun _ _ found => found.1) found⟩

/-- The code of a handler, between the code of the value and what follows. -/
theorem LeavesIn.keep [Restores first]
    (leaves : PushesIn limits given operations arguments rounds here place slotted first one tidy) (small : slot < 256)
    {shape : Nat → Code → Prop} (rest : Emits limits given (startingAt here second) shape)
    (handles : ∀ pos code, shape (pos + extent Instr.size [.one .storeLocal slot]) code →
      Handles (limits.vm operations arguments) rounds place slotted pos ([.one .storeLocal slot] ++ code) next values
        count tidy') :
    LeavesIn limits given operations arguments rounds here place slotted
      (first >>= fun _ => storeLocal slot >>= fun _ => second) (do next (← one)) values count (tidy ∧ tidy') := by
  have stored : Emits limits given (storeLocal slot) fun _ code => code = [.one .storeLocal slot] :=
    emits_local rfl small fun _ _ => rfl
  have handled : Emits limits given (startingAt here (storeLocal slot >>= fun _ => second)) fun pos code =>
      Handles (limits.vm operations arguments) rounds place slotted pos code next values count tidy' := by
    apply emitsAt_andThen (stored.startingAt here) rest
    intro pos head tail same found
    subst same
    exact handles pos tail found
  exact emitsAt_andThen leaves handled fun _ _ _ head tail => head.handle tail

theorem LeavesIn.store [Restores first] (sound : place.Sound) (unused : place.free ≤ slot)
    (small : slot < 256)
    (leaves : PushesIn limits given operations arguments rounds here place slotted first one tidy)
    (rest : ∀ held, LeavesIn limits given operations arguments rounds here (place.above slot)
      (fun slots => slotted slots ∧ slots slot = held) second (next held) values count tidy') :
    LeavesIn limits given operations arguments rounds here place slotted
      (first >>= fun _ => storeLocal slot >>= fun _ => second) (do next (← one)) values count (tidy ∧ tidy') := by
  have some : Nonempty ν := ⟨operations.machine.null⟩
  exact leaves.keep small (Emits.every rest fun _ _ _ leaves => leaves.fits) fun _ _ leaves =>
    .stored sound unused small leaves

/-- A value that goes to the slot of a local. -/
theorem LeavesIn.bound [Restores first] (sound : place.Sound) (unused : place.free ≤ slot)
    (small : slot < 256) (id : Int64)
    (leaves : PushesIn limits given operations arguments rounds here place slotted first one tidy)
    (rest : LeavesIn limits given operations arguments rounds here (place.bind id slot) slotted second run values count
      tidy') :
    LeavesIn limits given operations arguments rounds here place slotted
      (first >>= fun _ => storeLocal slot >>= fun _ => second) (do Run.withVar id (← one) run) values count
      (tidy ∧ tidy') :=
  leaves.keep small rest fun _ _ leaves => .bound sound unused small id leaves

/-- Fewer slots are free where the code is compiled. -/
theorem LeavesIn.lower (leaves : LeavesIn limits given operations arguments rounds here (place.above slot) slotted first
      run values count tidy) (unused : place.free ≤ slot) :
    LeavesIn limits given operations arguments rounds here place slotted first run values count tidy :=
  Emits.imp leaves fun _ _ leaves => leaves.lower unused

/-- A value that is left behind. -/
theorem LeavesIn.leave
    (leaves : PushesIn limits given operations arguments rounds here place slotted first one tidy) :
    DiscardsIn limits given operations arguments rounds here place slotted first one False :=
  Emits.imp leaves fun _ _ leaves => leaves.leave

end Slots

/-!
## Iteration
-/

section Iteration

variable {limits : Limits} {given : Prop} {operations : Operations ν ω} {arguments : Nat → ν} {rounds iterator : Nat}
  {here place : Place} {slotted : (Nat → ν) → Prop} {source body tail : Compile Unit} {α : Type}
  {action : Compile Unit} {run : Run Int64 ν ω α} {values : α → List ν} {count : Nat} {sourceRun tailRun : Run Int64 ν ω ν}
  {itemRun : ν → Run Int64 ν ω α} {each : ν → Run Int64 ν ω Bool} {held : ν} {tidy tidy₁ tidy₂ tidy₃ : Prop}

/-- A method of a value that is kept in a slot. -/
theorem pushesIn_ask (method : String) (small : iterator < 256) (told : ∀ slots, slotted slots → slots iterator = held) :
    PushesIn limits given operations arguments rounds here place slotted
      (loadLocal iterator >>= fun _ => callDynamic method 0) (operations.machine.dynamic method [held]) True := by
  have loads : PushesIn limits given operations arguments rounds here place slotted (loadLocal iterator) (pure held)
      True := pushesIn_slot small told
  exact loads.operate (appliesAt_callMethod method (by decide))

/-- A method of a value that is kept in a slot, with operands. -/
theorem pushesIn_tell [Restores action] (method : String) (small : iterator < 256)
    (told : ∀ slots, slotted slots → slots iterator = held) (few : count < 256) (clean : tidy)
    (operandsOk : LeavesIn limits given operations arguments rounds here place slotted action run values count tidy) :
    PushesIn limits given operations arguments rounds here place slotted
      (loadLocal iterator >>= fun _ => action >>= fun _ => callDynamic method count)
      (do operations.machine.dynamic method (held :: values (← run))) tidy := by
  have loads : PushesIn limits given operations arguments rounds here place slotted (loadLocal iterator) (pure held)
      True := pushesIn_slot small told
  have both : LeavesIn limits given operations arguments rounds here place slotted
      (loadLocal iterator >>= fun _ => action)
      (do
        let receiver ← pure held
        let operands ← run
        pure (receiver :: values operands))
      (fun operands => operands) (1 + count) (True ∧ tidy) := loads.andThen operandsOk (.inr clean) fun _ _ => rfl
  rw [Nat.add_comm] at both
  have whole := both.operate (appliesAt_callMethod method few)
  simp only [bind_assoc, pure_bind] at whole
  exact whole.imp (fun holds => ⟨trivial, holds⟩) fun _ told => told

/-- A loop over an iterator that is left by its condition only. -/
theorem pushesIn_forEach [Restores source] [Restores body]
    (sound : place.Sound) (unused : place.free ≤ iterator) (small : iterator < 256)
    (sourceOk : PushesIn limits given operations arguments rounds here place slotted source sourceRun tidy₁)
    (bodyOk : ∀ held, DiscardsIn limits given operations arguments rounds here (place.above iterator)
      (fun slots => slotted slots ∧ slots iterator = held) body
      (do itemRun (← operations.machine.dynamic "get:current" [held])) tidy₂)
    (tailOk : ∀ held, PushesIn limits given operations arguments rounds here (place.above iterator)
      (fun slots => slotted slots ∧ slots iterator = held) tail tailRun tidy₃)
    (goes : ∀ item, each item = do
      let _ ← itemRun item
      pure true) :
    PushesIn limits given operations arguments rounds here place slotted
      (do
        source
        callDynamic "get:iterator" 0
        storeLocal iterator
        let loopStart ← position
        loadLocal iterator
        callDynamic "moveNext" 0
        op .jumpIfFalse
        let endPatch ← reserveU16
        body
        op .jump
        u16 loopStart
        patchHere endPatch
        tail)
      (do
        operations.machine.forEach rounds (← sourceRun) each
        tailRun)
      (tidy₁ ∧ tidy₂ ∧ tidy₃) := by
  have iterated : PushesIn limits given operations arguments rounds here place slotted _ _ tidy₁ :=
    sourceOk.operate (appliesAt_callMethod "get:iterator" (by decide))
  have looped : ∀ held, PushesIn limits given operations arguments rounds here (place.above iterator)
      (fun slots => slotted slots ∧ slots iterator = held)
      (do
        let loopStart ← position
        loadLocal iterator
        callDynamic "moveNext" 0
        op .jumpIfFalse
        let endPatch ← reserveU16
        body
        op .jump
        u16 loopStart
        patchHere endPatch
        tail)
      (do
        Run.cycle (do
          let more ← operations.machine.dynamic "moveNext" [held]
          if operations.isTrue more then do
            let item ← operations.machine.dynamic "get:current" [held]
            if ← each item then pure none else pure (some ())
          else pure (some ())) rounds
        tailRun)
      (tidy₂ ∧ tidy₃) := by
    intro held
    have condition : PushesIn limits given operations arguments rounds here (place.above iterator)
        (fun slots => slotted slots ∧ slots iterator = held) _ _ True :=
      pushesIn_ask "moveNext" small fun _ told => told.2
    have whole := pushesIn_cycle condition guardsAt_none (bodyOk held) (tailOk held)
    simp only [bind_assoc, pure_bind, id_eq] at whole
    simp only [goes, bind_assoc, pure_bind, if_true]
    exact whole.imp (by tauto) fun _ told => told
  have whole := iterated.store sound unused small looped
  simp only [bind_assoc] at whole
  simp only [Machine.forEach, bind_assoc]
  exact whole

section Break

variable {current : Nat} {exitAction bodyAction : Compile Unit} {exitRun bodyRun : Run Int64 ν ω ν}

/-- A round stores the current value for the rest of the round, which may leave the loop. -/
theorem Turns.item {vm : Vm ν ω} {pos finish label : Nat} {known : Assertion ν} {askCode exitCode bodyCode : Code}
    {loopStart : Nat} {asked : Run Int64 ν ω ν} {leftRun : Run Int64 ν ω α} {id : Int64} (sound : place.Sound) (unused : place.free ≤ current)
    (stable : place.Stable known)
    (askRuns : Executes vm rounds place pos askCode known asked fun value => onTop [value] known)
    (exitRuns : Executes vm rounds (place.bind id current) (pos + extent Instr.size (askCode ++ [.one .storeLocal current]))
      exitCode known exitRun fun value => onTop [value] known)
    (bodyRuns : Executes vm rounds (place.bind id current) label bodyCode known leftRun fun _ => known)
    (labelled : label =
      pos + extent Instr.size (askCode ++ [.one .storeLocal current]) + extent Instr.size exitCode + 3 + 0 + 3) :
    Turns vm rounds place pos
      ((askCode ++ [.one .storeLocal current]) ++
        ((exitCode ++ .one .jumpIfFalse label :: ([] ++ [.one .jump finish])) ++ bodyCode)) loopStart finish known
      (do
        Run.withVar id (← asked) do
          if vm.operations.isTrue (← exitRun) then pure (some ())
          else do
            let _ ← leftRun
            pure none)
      Option.isNone known := by
  have leaves : Executes vm rounds (place.bind id current)
      (pos + extent Instr.size (askCode ++ [.one .storeLocal current]) + extent Instr.size exitCode + 3) [] known
      (pure () : Run Int64 ν ω Unit) fun _ => known := .nothing fun _ _ found => found
  have aims : Option.isNone (some ()) = true ∧ finish = loopStart ∨ Option.isNone (some ()) = false ∧ finish = finish :=
    .inr ⟨rfl, rfl⟩
  have leaving := Turns.guard exitRuns leaves labelled aims bodyRuns.goesOn
  have stored : ∀ held, Turns vm rounds place (pos + extent Instr.size askCode)
      ([.one .storeLocal current] ++ ((exitCode ++ .one .jumpIfFalse label :: ([] ++ [.one .jump finish])) ++ bodyCode))
      loopStart finish (onTop [held] known) _ Option.isNone known :=
    fun held => Turns.behind (executes_storeSlot sound stable unused) fun _ =>
      (leaving.withVar sound unused).moved (by rw [extent_append, Nat.add_assoc])
  have whole := Turns.behind askRuns stored
  rw [List.append_assoc askCode]
  simpa only [bind_assoc, pure_bind] using whole

/-- A round that leaves the loop or goes on, as the loop over an iterator has it. -/
theorem round_leaves (isTrue : ν → Bool) (exitRun bodyRun : Run Int64 ν ω ν) (id : Int64) (current : ν) :
    (do
      if ← Run.withVar id current (do
        if isTrue (← exitRun) then pure false
        else do
          let _ ← bodyRun
          pure true)
      then pure none else pure (some ()) : Run Int64 ν ω (Option Unit)) =
      (Run.withVar id current do
        if isTrue (← exitRun) then pure (some ())
        else do
          let _ ← bodyRun
          pure none) := by
  have ends : ∀ goes : Bool, (if goes then pure none else pure (some ()) : Run Int64 ν ω (Option Unit)) =
      pure (if goes then none else some ()) := by
    intro goes
    cases goes with
    | true => rfl
    | false => rfl
  simp only [ends]
  rw [← Run.withVar_map]
  simp only [bind_assoc]
  congr 2
  funext value
  cases isTrue value with
  | true => rfl
  | false => simp

/-- A loop over an iterator that a round may leave. The current value is a local of the round. -/
theorem pushesIn_untilBreak [Restores exitAction] [Restores bodyAction] (item : LocalSpec)
    (sound : (place.above iterator).Sound) (unused : iterator < current) (small : iterator < 256) (small' : current < 256) (inside : given → current < limits.locals)
    (exitOk : PushesAt limits given operations arguments rounds ((place.above iterator).bind item.id current) slotted
      exitAction exitRun tidy₁)
    (bodyOk : PushesAt limits given operations arguments rounds ((place.above iterator).bind item.id current) slotted
      bodyAction bodyRun tidy₂)
    (told : ∀ slots, slotted slots → slots iterator = held) :
    PushesIn limits given operations arguments rounds (place.above current) (place.above iterator) slotted
      (do
        let loopStart ← position
        loadLocal iterator
        callDynamic "moveNext" 0
        op .jumpIfFalse
        let endPatch ← reserveU16
        loadLocal iterator
        callDynamic "get:current" 0
        storeLocal current
        nameLocal current item.name
        let previous ← scopedLocal item.id
        bindLocal item.id (some current)
        exitAction
        op .jumpIfFalse
        let continuePatch ← reserveU16
        op .jump
        let breakPatch ← reserveU16
        patchHere continuePatch
        bodyAction
        bindLocal item.id previous
        op .pop
        op .jump
        u16 loopStart
        patchHere breakPatch
        patchHere endPatch
        loadConst .nothing)
      (do
        Run.cycle (do
          let more ← operations.machine.dynamic "moveNext" [held]
          if operations.isTrue more then do
            let item' ← operations.machine.dynamic "get:current" [held]
            if ← Run.withVar item.id item' (do
              if operations.isTrue (← exitRun) then pure false
              else do
                let _ ← bodyRun
                pure true)
            then pure none else pure (some ())
          else pure (some ())) rounds
        pure operations.machine.null)
      (tidy₁ ∧ tidy₂) := by
  simp only [round_leaves operations.isTrue]
  have same : SameAt (place.above current)
      (do
        let loopStart ← position
        startingAt (place.above current) (loadLocal iterator >>= fun _ => callDynamic "moveNext" 0)
        op .jumpIfFalse
        let endPatch ← reserveU16
        startingAt (place.above current) (loadLocal iterator >>= fun _ => callDynamic "get:current" 0)
        storeLocal current
        nameLocal current item.name
        let previous ← scopedLocal item.id
        bindLocal item.id (some current)
        startingAt (place.bind item.id current) exitAction
        op .jumpIfFalse
        let continuePatch ← reserveU16
        op .jump
        let breakPatch ← reserveU16
        patchHere continuePatch
        startingAt (place.bind item.id current) bodyAction
        bindLocal item.id previous
        op .pop
        op .jump
        u16 loopStart
        patchHere breakPatch
        patchHere endPatch
        startingAt (place.above current) (loadConst .nothing))
      (do
        let loopStart ← position
        loadLocal iterator >>= fun _ => callDynamic "moveNext" 0
        op .jumpIfFalse
        let endPatch ← reserveU16
        loadLocal iterator >>= fun _ => callDynamic "get:current" 0
        storeLocal current
        nameLocal current item.name
        let previous ← scopedLocal item.id
        bindLocal item.id (some current)
        exitAction
        op .jumpIfFalse
        let continuePatch ← reserveU16
        op .jump
        let breakPatch ← reserveU16
        patchHere continuePatch
        bodyAction
        bindLocal item.id previous
        op .pop
        op .jump
        u16 loopStart
        patchHere breakPatch
        patchHere endPatch
        loadConst .nothing) := by
    apply SameAt.bind
    intro loopStart
    apply SameAt.guardBind
    intro _
    apply SameAt.bind
    intro _
    apply SameAt.bind
    intro _
    apply SameAt.guardBind
    intro _
    apply SameAt.bind
    intro _
    apply SameAt.bind
    intro _
    apply SameAt.scopedLocal
    apply SameAt.bindLocal
    intro _
    apply SameAt.guardBind
    intro _
    apply SameAt.bind
    intro _
    apply SameAt.bind
    intro _
    apply SameAt.bind
    intro _
    apply SameAt.bind
    intro _
    apply SameAt.bind
    intro _
    apply SameAt.guardBind
    intro _
    apply SameAt.unbindLocal
    intro _
    apply SameAt.bind
    intro _
    apply SameAt.bind
    intro _
    apply SameAt.bind
    intro _
    apply SameAt.bind
    intro _
    apply SameAt.bind
    exact fun _ => .guard _
  have moves : PushesIn limits given operations arguments rounds (place.above current) (place.above iterator) slotted
      _ _ True := pushesIn_ask "moveNext" small told
  have asks : PushesIn limits given operations arguments rounds (place.above current) (place.above iterator) slotted
      _ _ True := pushesIn_ask "get:current" small told
  have stored : Emits limits given (storeLocal current >>= fun _ => nameLocal current item.name)
      fun _ code => code = [.one .storeLocal current] := by
    have stores : Emits limits given (storeLocal current) fun _ code => code = [.one .storeLocal current] :=
      emits_local rfl small' fun _ _ => rfl
    have names : Emits limits given (nameLocal current item.name) fun _ code => code = [] :=
      (prepares_nameLocal inside item.name).emits fun _ => rfl
    apply stores.andThen names
    intro _ head tail same same'
    rw [same, same', List.append_nil]
  have enters : ∀ loopStart, EmitsIn limits given loopStart _ _ _ fun pos code => ∃ askCode,
      code = askCode ++ [.one .storeLocal current] ∧ Pushes (limits.vm operations arguments) rounds (place.above iterator)
        slotted pos askCode (operations.machine.dynamic "get:current" [held]) True :=
    fun loopStart => (Emits.andThen asks stored fun _ head _ pushes same => ⟨head, by rw [same], pushes⟩).inLoop
      (prepares_enter item.id small' inside) loopStart
  have bodies : ∀ previous : Option Nat, (∀ index, previous = some index → index < 256) →
      Emits limits (given ∧ SlotWithin limits previous)
        (startingAt (place.bind item.id current) bodyAction >>= fun _ => bindLocal item.id previous >>= fun _ => op .pop)
        fun pos code => Discards (limits.vm operations arguments) rounds ((place.above iterator).bind item.id current)
          slotted pos code
          (do
            let _ ← bodyRun
            pure ())
          tidy₂ := by
    intro previous smallPrevious
    have popped : Emits limits ((given ∧ SlotWithin limits previous) ∧ (given ∧ SlotWithin limits previous))
        (op .pop) fun _ code => code = [.plain .pop] := emits_op rfl fun _ => rfl
    have bodyEmits := Emits.knowing bodyOk (And.left : given ∧ SlotWithin limits previous → given)
    apply bodyEmits.andThen ((prepares_bindLocal item.id smallPrevious And.right).before fun _ _ => popped)
    intro _ head tail leaves same
    subst same
    exact leaves.pop
  have left : Emits limits given (pure ()) fun _ code => code = [] := emits_nothing fun _ => rfl
  have null : PushesIn limits given operations arguments rounds (place.above current) (place.above iterator) slotted
      (loadConst .nothing) (pure operations.machine.null) True := pushesIn_loadConst .nothing
  simp only [bind_assoc] at same
  apply SameAt.emits same
  refine Emits.congr (Emits.cycleExit moves enters exitOk left bodies null ?_) ?_
  · intro pos conditionCode guardCode exitCode exitBodyCode bodyCode tailCode thenAt exitAt label finish tests
      thenPlaced guards exitPlaced exits nothing labelled labelSmall discards finished small pushes
    obtain ⟨askCode, split, fetches⟩ := guards
    subst split
    subst exitPlaced
    subst nothing
    constructor
    · simp only [List.forall_mem_append, List.forall_mem_cons]
      exact ⟨tests.fits, Instr.fits_jump rfl small,
        ⟨⟨⟨fetches.fits, ⟨small', rfl⟩, by simp⟩, exits.fits, Instr.fits_jump rfl labelSmall, by simp, Instr.fits_jump rfl small, by simp⟩,
          discards.fits⟩, Instr.fits_jump rfl (by omega), pushes.fits⟩
    · intro known absorbs tells
      have inner := absorbs.bind unused item.id
      have testRuns := tests.fetch (absorbs.imp fun _ => trivial) tells
      have askRuns := fetches.fetch (absorbs.imp fun _ => trivial) tells
      have exitRuns := exits.fetch (inner.imp And.left) tells
      have bodyRuns := discards.drop (inner.imp And.right) tells
      have tailRuns := pushes.executes known (absorbs.imp fun _ => trivial) tells
      have turns : Turns (limits.vm operations arguments) rounds (place.above iterator) thenAt _ pos finish known _
          Option.isNone known := Turns.item sound unused absorbs.stable askRuns exitRuns bodyRuns labelled
      rw [← List.append_assoc] at turns
      simp only [bind_assoc, pure_bind] at turns
      apply Executes.cycle testRuns thenPlaced turns _ tailRuns
      simp [finished, labelled, OpCode.operandLen]
      omega
  · simp only [bind_assoc, pure_bind]
    rfl

end Break

end Iteration

/-!
## Forms
-/

section Forms

variable {limits : Limits} {given : Prop} {operations : Operations ν ω} {arguments : Nat → ν} {rounds : Nat}
  {place : Place} {slotted : (Nat → ν) → Prop}

/-- An expression that is compiled where a slot has been taken, but runs before the slot is used. -/
theorem Realized.ahead {expr : Expr} {slot : Nat} (realized : Realized limits operations arguments rounds expr)
    (sound : place.Sound) (unused : place.free ≤ slot) :
    PushesIn limits given operations arguments rounds (place.above slot) place slotted (compileExpr expr)
      (meaning operations.machine (place.argument arguments) rounds expr) (expr.All Expr.TidyNode) :=
  LeavesIn.lower (realized.here (sound.above unused)) unused

variable {receiver source spread value key : Expr} (sound : place.Sound)
  (receiverOk : Realized limits operations arguments rounds receiver)
  (sourceOk : Realized limits operations arguments rounds source)
  (spreadOk : Realized limits operations arguments rounds spread)
  (keyOk : Realized limits operations arguments rounds key)
  (valueOk : Realized limits operations arguments rounds value)

include sound

include sourceOk in
theorem pushesAt_yieldAll :
    PushesAt limits given operations arguments rounds place slotted (compileExpr (.yieldAll source))
      (meaning operations.machine (place.argument arguments) rounds (.yieldAll source))
      ((Expr.yieldAll source).All Expr.TidyNode) := by
  have sourceRestores := sourceOk.restores
  have yielded : ∀ {given : Prop} {iterator : Nat} (held : ν), iterator < 256 →
      DiscardsIn limits given operations arguments rounds (place.above iterator) (place.above iterator)
        (fun slots => slotted slots ∧ slots iterator = held)
        ((loadLocal iterator >>= fun _ => callDynamic "get:current" 0) >>= fun _ => op .yield)
        (do operations.machine.apply .yield [← operations.machine.dynamic "get:current" [held]]) (True ∧ True) :=
    fun held small => LeavesAt.handle (pushesIn_ask "get:current" small fun _ told => told.2) handlesAt_yield
  have whole : PushesAt limits given operations arguments rounds place slotted (allocateLocal >>= fun iterator => _) _ _ :=
    emitsAt_allocate fun iterator unused small =>
      pushesIn_forEach sound unused small (sourceOk.ahead sound unused) (fun held => yielded held small)
        (fun _ => pushesIn_loadConst .nothing) fun _ => rfl
  simp only [bind_assoc] at whole
  apply whole.form
  · rfl
  · rfl
  · exact fun tidy => ⟨(Expr.all_iff.mp tidy).2 source List.mem_cons_self, ⟨trivial, trivial⟩, trivial⟩

include receiverOk spreadOk in
theorem pushesAt_addAll (kind : CollectionKind) (later : spread.All Expr.TidyNode) :
    PushesAt limits given operations arguments rounds place slotted (compileExpr (.addAll kind receiver spread))
      (meaning operations.machine (place.argument arguments) rounds (.addAll kind receiver spread))
      ((Expr.addAll kind receiver spread).All Expr.TidyNode) := by
  have receiverRestores := receiverOk.restores
  have spreadRestores := spreadOk.restores
  have appended : ∀ {given : Prop} {slot : Nat} (held : ν), place.free ≤ slot → slot < 256 →
      PushesIn limits given operations arguments rounds (place.above slot) (place.above slot)
        (fun slots => slotted slots ∧ slots slot = held)
        ((loadLocal slot >>= fun _ => compileExpr spread >>= fun _ => callDynamic "addAll" 1) >>= fun _ => loadLocal slot)
        (do
          let _ ← (do
            operations.machine.dynamic "addAll"
              [held, ← meaning operations.machine (place.argument arguments) rounds spread])
          pure held)
        (False ∧ True) := by
    intro given slot held unused small
    have spreads : PushesIn limits given operations arguments rounds (place.above slot) (place.above slot)
        (fun slots => slotted slots ∧ slots slot = held) (compileExpr spread)
        (meaning operations.machine (place.argument arguments) rounds spread) (spread.All Expr.TidyNode) :=
      spreadOk.here (sound.above unused)
    have tells := pushesIn_tell "addAll" small (fun _ told => told.2) (by decide) later spreads
    exact (LeavesIn.leave tells).before (pushesIn_slot small fun _ told => told.2)
  have whole : PushesAt limits given operations arguments rounds place slotted (allocateLocal >>= fun slot => _) _ _ :=
    emitsAt_allocate fun slot unused small =>
      LeavesIn.store sound unused small (receiverOk.ahead sound unused) fun held => appended held unused small
  simp only [bind_assoc] at whole
  apply whole.form
  · rfl
  · rfl
  · exact fun tidy => (Expr.all_iff.mp tidy).1.elim

section Collections

variable {here : Place} {result iterator entry : Nat} {body : Compile Unit} {α : Type} {itemRun : ν → ν → Run Int64 ν ω α}
  {each : ν → ν → Run Int64 ν ω Bool} {tidy : Prop}

/-- A collection that is kept in a slot, to which the values of an iterator are added. -/
theorem pushesIn_collect [Restores (compileExpr receiver)] [Restores (compileExpr source)] [Restores body]
    (unused : place.free ≤ result) (small : result < 256) (unused' : result < iterator) (small' : iterator < 256)
    (receiverRuns : PushesIn limits given operations arguments rounds here place slotted (compileExpr receiver)
      (meaning operations.machine (place.argument arguments) rounds receiver) (receiver.All Expr.TidyNode))
    (sourceRuns : PushesIn limits given operations arguments rounds here (place.above result)
      (fun slots => slotted slots) (compileExpr source)
      (meaning operations.machine (place.argument arguments) rounds source) (source.All Expr.TidyNode))
    (bodyRuns : ∀ collection held, DiscardsIn limits given operations arguments rounds here (place.above iterator)
      (fun slots => (slotted slots ∧ slots result = collection) ∧ slots iterator = held) body
      (do itemRun collection (← operations.machine.dynamic "get:current" [held])) tidy)
    (goes : ∀ collection item, each collection item = do
      let _ ← itemRun collection item
      pure true) :
    PushesIn limits given operations arguments rounds here place slotted
      (do
        compileExpr receiver
        storeLocal result
        compileExpr source
        callDynamic "get:iterator" 0
        storeLocal iterator
        let loopStart ← position
        loadLocal iterator
        callDynamic "moveNext" 0
        op .jumpIfFalse
        let endPatch ← reserveU16
        body
        op .jump
        u16 loopStart
        patchHere endPatch
        loadLocal result)
      (do
        let collection ← meaning operations.machine (place.argument arguments) rounds receiver
        operations.machine.forEach rounds (← meaning operations.machine (place.argument arguments) rounds source)
          (each collection)
        pure collection)
      (receiver.All Expr.TidyNode ∧ source.All Expr.TidyNode ∧ tidy ∧ True) := by
  have sourceHere : ∀ collection, PushesIn limits given operations arguments rounds here (place.above result)
      (fun slots => slotted slots ∧ slots result = collection) (compileExpr source)
      (meaning operations.machine (place.argument arguments) rounds source) (source.All Expr.TidyNode) :=
    fun _ => sourceRuns.imp id fun _ told => told.1
  exact LeavesIn.store sound unused small receiverRuns fun collection =>
    pushesIn_forEach (sound.above unused) unused' small' (sourceHere collection) (bodyRuns collection)
      (fun _ => pushesIn_slot small fun _ told => told.1.2) (goes collection)

include receiverOk sourceOk

theorem pushesAt_listForIn :
    PushesAt limits given operations arguments rounds place slotted (compileExpr (.listForIn receiver source))
      (meaning operations.machine (place.argument arguments) rounds (.listForIn receiver source))
      ((Expr.listForIn receiver source).All Expr.TidyNode) := by
  have receiverRestores := receiverOk.restores
  have sourceRestores := sourceOk.restores
  have added : ∀ {given : Prop} {here place : Place} {result iterator : Nat} (collection held : ν), result < 256 →
      iterator < 256 → DiscardsIn limits given operations arguments rounds here place
        (fun slots => (slotted slots ∧ slots result = collection) ∧ slots iterator = held)
        (loadLocal result >>= fun _ => (loadLocal iterator >>= fun _ => callDynamic "get:current" 0) >>= fun _ =>
          callDynamic "add" 1)
        (do operations.machine.dynamic "add" [collection, ← operations.machine.dynamic "get:current" [held]]) False := by
    intro given here place result iterator collection held small small'
    have current : PushesIn limits given operations arguments rounds here place
        (fun slots => (slotted slots ∧ slots result = collection) ∧ slots iterator = held) _ _ True :=
      pushesIn_ask "get:current" small' fun _ told => told.2
    exact LeavesIn.leave (pushesIn_tell "add" small (fun _ told => told.1.2) (by decide) trivial current)
  have whole : PushesAt limits given operations arguments rounds place slotted
      (allocateLocal >>= fun result => allocateLocal >>= fun iterator => _) _ _ :=
    emitsAt_allocate fun result unused small => emitsAt_allocate fun iterator unused' small' =>
      pushesIn_collect sound unused small unused' small'
        (receiverOk.ahead sound (Nat.le_trans unused (Nat.le_of_succ_le unused')))
        (sourceOk.ahead (sound.above unused) unused') (fun collection held => added collection held small small')
        fun _ _ => rfl
  simp only [bind_assoc] at whole
  apply whole.form
  · rfl
  · rfl
  · exact fun tidy => (Expr.all_iff.mp tidy).1.elim

include valueOk in
theorem pushesAt_listForInMapped (item : Int64) (later : value.All Expr.TidyNode) :
    PushesAt limits given operations arguments rounds place slotted
      (compileExpr (.listForInMapped receiver source item value))
      (meaning operations.machine (place.argument arguments) rounds (.listForInMapped receiver source item value))
      ((Expr.listForInMapped receiver source item value).All Expr.TidyNode) := by
  have receiverRestores := receiverOk.restores
  have sourceRestores := sourceOk.restores
  have valueRestores := valueOk.restores
  have added : ∀ {given : Prop} {result iterator entry : Nat} (collection held : ν), place.free ≤ result →
      result < 256 → result < iterator → iterator < 256 → iterator < entry → entry < 256 → (given → entry < limits.locals) →
      DiscardsIn limits given operations arguments rounds (place.above entry) (place.above iterator)
        (fun slots => (slotted slots ∧ slots result = collection) ∧ slots iterator = held)
        ((loadLocal iterator >>= fun _ => callDynamic "get:current" 0) >>= fun _ => storeLocal entry >>= fun _ =>
          loadLocal result >>= fun _ => withLocal item entry (compileExpr value) >>= fun _ => callDynamic "add" 1)
        (do
          Run.withVar item (← operations.machine.dynamic "get:current" [held]) do
            operations.machine.dynamic "add"
              [collection, ← meaning operations.machine (place.argument arguments) rounds value])
        (True ∧ False) := by
    intro given result iterator entry collection held unused small unused' small' unused'' small'' inside
    have current : PushesIn limits given operations arguments rounds (place.above entry) (place.above iterator)
        (fun slots => (slotted slots ∧ slots result = collection) ∧ slots iterator = held) _ _ True :=
      pushesIn_ask "get:current" small' fun _ told => told.2
    have above := (sound.above unused).above unused'
    have maps : PushesIn limits given operations arguments rounds (place.above entry)
        ((place.above iterator).bind item entry)
        (fun slots => (slotted slots ∧ slots result = collection) ∧ slots iterator = held)
        (withLocal item entry (compileExpr value))
        (meaning operations.machine (place.argument arguments) rounds value) (value.All Expr.TidyNode) :=
      emitsAt_withLocal small'' inside item (valueOk.here (above.bind unused'' item))
    exact LeavesIn.bound above unused'' small'' item current
      (LeavesIn.leave (pushesIn_tell "add" small (fun _ told => told.1.2) (by decide) later maps))
  have goes : ∀ collection current, (Run.withVar item current do
        let value ← meaning operations.machine (place.argument arguments) rounds value
        let _ ← operations.machine.dynamic "add" [collection, value]
        pure true) =
      (do
        let _ ← Run.withVar item current do
          operations.machine.dynamic "add"
            [collection, ← meaning operations.machine (place.argument arguments) rounds value]
        pure true) := by
    intro collection current
    rw [← Run.withVar_map]
    simp only [bind_assoc]
  have whole : PushesAt limits given operations arguments rounds place slotted
      (allocateLocal >>= fun result => allocateLocal >>= fun iterator => allocateLocal >>= fun entry => _) _ _ :=
    emitsAt_allocate fun result unused small => emitsAt_allocate fun iterator unused' small' =>
      emitsAt_allocate fun entry unused'' small'' =>
        pushesIn_collect sound unused small unused' small'
          (receiverOk.ahead sound (Nat.le_trans unused (Nat.le_of_succ_le (Nat.le_trans unused' (Nat.le_of_succ_le unused'')))))
          (sourceOk.ahead (sound.above unused) (Nat.le_trans unused' (Nat.le_of_succ_le unused'')))
          (fun collection held => added collection held unused small unused' small' unused'' small'' And.right)
          goes
  simp only [bind_assoc] at whole
  apply whole.form
  · rfl
  · rfl
  · exact fun tidy => (Expr.all_iff.mp tidy).1.elim

theorem pushesAt_mapForIn :
    PushesAt limits given operations arguments rounds place slotted (compileExpr (.mapForIn receiver source))
      (meaning operations.machine (place.argument arguments) rounds (.mapForIn receiver source))
      ((Expr.mapForIn receiver source).All Expr.TidyNode) := by
  have receiverRestores := receiverOk.restores
  have sourceRestores := sourceOk.restores
  have asksRestore : ∀ (slot : Nat) (method : String), Restores (loadLocal slot >>= fun _ => callDynamic method 0) :=
    fun _ _ => inferInstance
  have added : ∀ {given : Prop} {result iterator entry : Nat} (collection held : ν), place.free ≤ result →
      result < 256 → result < iterator → iterator < 256 → iterator < entry → entry < 256 →
      DiscardsIn limits given operations arguments rounds (place.above entry) (place.above iterator)
        (fun slots => (slotted slots ∧ slots result = collection) ∧ slots iterator = held)
        ((loadLocal iterator >>= fun _ => callDynamic "get:current" 0) >>= fun _ => storeLocal entry >>= fun _ =>
          loadLocal result >>= fun _ =>
            ((loadLocal entry >>= fun _ => callDynamic "get:key" 0) >>= fun _ =>
              loadLocal entry >>= fun _ => callDynamic "get:value" 0) >>= fun _ =>
            callDynamic "[]=" 2)
        (do
          let item ← operations.machine.dynamic "get:current" [held]
          let operands ← (do
            let key ← operations.machine.dynamic "get:key" [item]
            let value ← operations.machine.dynamic "get:value" [item]
            pure [key, value])
          operations.machine.dynamic "[]=" (collection :: operands))
        (True ∧ False) := by
    intro given result iterator entry collection held unused small unused' small' unused'' small''
    have current : PushesIn limits given operations arguments rounds (place.above entry) (place.above iterator)
        (fun slots => (slotted slots ∧ slots result = collection) ∧ slots iterator = held) _ _ True :=
      pushesIn_ask "get:current" small' fun _ told => told.2
    have asks : ∀ (method : String) (item : ν), PushesIn limits given operations arguments rounds (place.above entry)
        ((place.above iterator).above entry)
        (fun slots => ((slotted slots ∧ slots result = collection) ∧ slots iterator = held) ∧ slots entry = item) _ _ True :=
      fun method item => pushesIn_ask method small'' fun _ told => told.2
    have both : ∀ item, LeavesIn limits given operations arguments rounds (place.above entry)
        ((place.above iterator).above entry)
        (fun slots => ((slotted slots ∧ slots result = collection) ∧ slots iterator = held) ∧ slots entry = item) _
        (do
          let key ← operations.machine.dynamic "get:key" [item]
          let value ← operations.machine.dynamic "get:value" [item]
          pure [key, value])
        (fun operands => operands) (1 + 1) (True ∧ True) :=
      fun item => (asks "get:key" item).andThen (asks "get:value" item) (.inr trivial) fun _ _ => rfl
    exact LeavesIn.store ((sound.above unused).above unused') unused'' small'' current fun item =>
      LeavesIn.leave (pushesIn_tell "[]=" small (fun _ told => told.1.1.2) (by decide) ⟨trivial, trivial⟩ (both item))
  have goes : ∀ collection item, (do
        let key ← operations.machine.dynamic "get:key" [item]
        let value ← operations.machine.dynamic "get:value" [item]
        let _ ← operations.machine.dynamic "[]=" [collection, key, value]
        pure true : Run Int64 ν ω Bool) =
      (do
        let _ ← (do
          let operands ← (do
            let key ← operations.machine.dynamic "get:key" [item]
            let value ← operations.machine.dynamic "get:value" [item]
            pure [key, value])
          operations.machine.dynamic "[]=" (collection :: operands))
        pure true) := by
    intro collection item
    simp only [bind_assoc, pure_bind]
  have whole : PushesAt limits given operations arguments rounds place slotted
      (allocateLocal >>= fun result => allocateLocal >>= fun iterator => allocateLocal >>= fun entry => _) _ _ :=
    emitsAt_allocate fun result unused small => emitsAt_allocate fun iterator unused' small' =>
      emitsAt_allocate fun entry unused'' small'' =>
        pushesIn_collect sound unused small unused' small'
          (receiverOk.ahead sound (Nat.le_trans unused (Nat.le_of_succ_le (Nat.le_trans unused' (Nat.le_of_succ_le unused'')))))
          (sourceOk.ahead (sound.above unused) (Nat.le_trans unused' (Nat.le_of_succ_le unused'')))
          (fun collection held => added collection held unused small unused' small' unused'' small'') goes
  simp only [bind_assoc] at whole
  apply whole.form
  · rfl
  · rfl
  · exact fun tidy => (Expr.all_iff.mp tidy).1.elim

include keyOk valueOk in
theorem pushesAt_mapForInMapped (entry : Int64) (keyTidy : key.All Expr.TidyNode) (valueTidy : value.All Expr.TidyNode) :
    PushesAt limits given operations arguments rounds place slotted
      (compileExpr (.mapForInMapped receiver source entry key value))
      (meaning operations.machine (place.argument arguments) rounds (.mapForInMapped receiver source entry key value))
      ((Expr.mapForInMapped receiver source entry key value).All Expr.TidyNode) := by
  have receiverRestores := receiverOk.restores
  have sourceRestores := sourceOk.restores
  have keyRestores := keyOk.restores
  have valueRestores := valueOk.restores
  have added : ∀ {given : Prop} {result iterator slot : Nat} (collection held : ν), place.free ≤ result →
      result < 256 → result < iterator → iterator < 256 → iterator < slot → slot < 256 → (given → slot < limits.locals) →
      DiscardsIn limits given operations arguments rounds (place.above slot) (place.above iterator)
        (fun slots => (slotted slots ∧ slots result = collection) ∧ slots iterator = held)
        ((loadLocal iterator >>= fun _ => callDynamic "get:current" 0) >>= fun _ => storeLocal slot >>= fun _ =>
          loadLocal result >>= fun _ =>
            withLocal entry slot (compileExpr key >>= fun _ => compileExpr value) >>= fun _ => callDynamic "[]=" 2)
        (do
          Run.withVar entry (← operations.machine.dynamic "get:current" [held]) do
            let operands ← (do
              let key ← meaning operations.machine (place.argument arguments) rounds key
              let value ← meaning operations.machine (place.argument arguments) rounds value
              pure [key, value])
            operations.machine.dynamic "[]=" (collection :: operands))
        (True ∧ False) := by
    intro given result iterator slot collection held unused small unused' small' unused'' small'' inside
    have current : PushesIn limits given operations arguments rounds (place.above slot) (place.above iterator)
        (fun slots => (slotted slots ∧ slots result = collection) ∧ slots iterator = held) _ _ True :=
      pushesIn_ask "get:current" small' fun _ told => told.2
    have above := (sound.above unused).above unused'
    have keyHere : PushesAt limits given operations arguments rounds ((place.above iterator).bind entry slot)
        (fun slots => (slotted slots ∧ slots result = collection) ∧ slots iterator = held) (compileExpr key)
        (meaning operations.machine (place.argument arguments) rounds key) (key.All Expr.TidyNode) :=
      keyOk.here (above.bind unused'' entry)
    have valueHere : PushesAt limits given operations arguments rounds ((place.above iterator).bind entry slot)
        (fun slots => (slotted slots ∧ slots result = collection) ∧ slots iterator = held) (compileExpr value)
        (meaning operations.machine (place.argument arguments) rounds value) (value.All Expr.TidyNode) :=
      valueOk.here (above.bind unused'' entry)
    have both : LeavesAt limits given operations arguments rounds ((place.above iterator).bind entry slot)
        (fun slots => (slotted slots ∧ slots result = collection) ∧ slots iterator = held)
        (compileExpr key >>= fun _ => compileExpr value)
        (do
          let key ← meaning operations.machine (place.argument arguments) rounds key
          let value ← meaning operations.machine (place.argument arguments) rounds value
          pure [key, value])
        (fun operands => operands) (1 + 1) (key.All Expr.TidyNode ∧ value.All Expr.TidyNode) :=
      keyHere.andThen valueHere (.inr valueTidy) fun _ _ => rfl
    have maps : LeavesIn limits given operations arguments rounds (place.above slot)
        ((place.above iterator).bind entry slot)
        (fun slots => (slotted slots ∧ slots result = collection) ∧ slots iterator = held)
        (withLocal entry slot (compileExpr key >>= fun _ => compileExpr value)) _ (fun operands => operands) (1 + 1) _ :=
      emitsAt_withLocal small'' inside entry both
    exact LeavesIn.bound above unused'' small'' entry current
      (LeavesIn.leave (pushesIn_tell "[]=" small (fun _ told => told.1.2) (by decide) ⟨keyTidy, valueTidy⟩ maps))
  have goes : ∀ collection current, (Run.withVar entry current do
        let key ← meaning operations.machine (place.argument arguments) rounds key
        let value ← meaning operations.machine (place.argument arguments) rounds value
        let _ ← operations.machine.dynamic "[]=" [collection, key, value]
        pure true) =
      (do
        let _ ← Run.withVar entry current do
          let operands ← (do
            let key ← meaning operations.machine (place.argument arguments) rounds key
            let value ← meaning operations.machine (place.argument arguments) rounds value
            pure [key, value])
          operations.machine.dynamic "[]=" (collection :: operands)
        pure true) := by
    intro collection current
    rw [← Run.withVar_map]
    simp only [bind_assoc, pure_bind]
  have whole : PushesAt limits given operations arguments rounds place slotted
      (allocateLocal >>= fun result => allocateLocal >>= fun iterator => allocateLocal >>= fun slot => _) _ _ :=
    emitsAt_allocate fun result unused small => emitsAt_allocate fun iterator unused' small' =>
      emitsAt_allocate fun slot unused'' small'' =>
        pushesIn_collect sound unused small unused' small'
          (receiverOk.ahead sound (Nat.le_trans unused (Nat.le_of_succ_le (Nat.le_trans unused' (Nat.le_of_succ_le unused'')))))
          (sourceOk.ahead (sound.above unused) (Nat.le_trans unused' (Nat.le_of_succ_le unused'')))
          (fun collection held => added collection held unused small unused' small' unused'' small'' And.right) goes
  simp only [bind_assoc] at whole
  apply whole.form
  · rfl
  · rfl
  · exact fun tidy => (Expr.all_iff.mp tidy).1.elim

end Collections

section YieldForIn

variable {body : Expr} {beforeBreak breakCondition : Option Expr} (item : LocalSpec)
  (bodyOk : Realized limits operations arguments rounds body)

include bodyOk

/-- The rest of a round, with the current value in the slot of the item. -/
theorem discardsIn_item {current iterator : Nat} (unused : place.free ≤ iterator) (unused' : iterator < current)
    (small : current < 256) (inside : given → current < limits.locals) :
    DiscardsIn limits given operations arguments rounds (place.above current) ((place.above iterator).bind item.id current)
      slotted
      (nameLocal current item.name >>= fun _ => scopedLocal item.id >>= fun previous =>
        bindLocal item.id (some current) >>= fun _ => compileExpr body >>= fun _ => bindLocal item.id previous >>=
          fun _ => op .pop)
      (do
        let _ ← meaning operations.machine (place.argument arguments) rounds body
        pure ())
      (body.All Expr.TidyNode) := by
  have bodyRestores := bodyOk.restores
  apply emitsAt_before (prepares_nameLocal inside item.name)
  intro _ _
  apply emitsAt_scopedLocal item.id
  intro smallOld
  apply emitsAt_bindLocal small (fun holds => inside holds.1.1)
  have above := (sound.above unused).bind unused' item.id
  have popped : Emits limits ((given ∧ given) ∧ SlotWithin limits (place.scopes item.id)) (op .pop)
      fun _ code => code = [.plain .pop] := emits_op rfl fun _ => rfl
  have left : Emits limits ((given ∧ given) ∧ SlotWithin limits (place.scopes item.id))
      (startingAt (place.bind item.id current) (bindLocal item.id (place.scopes item.id) >>= fun _ => op .pop))
      fun _ code => code = [.plain .pop] := emitsAt_unbindLocal item.id smallOld And.right (popped.startingAt _)
  apply emitsAt_andThen (bodyOk.here above) left
  intro _ head tail leaves same
  subst same
  exact leaves.pop

include sourceOk in
theorem pushesAt_yieldForIn_whole :
    PushesAt limits given operations arguments rounds place slotted
      (compileExpr (.yieldForIn source item beforeBreak none body))
      (meaning operations.machine (place.argument arguments) rounds (.yieldForIn source item beforeBreak none body))
      ((Expr.yieldForIn source item beforeBreak none body).All Expr.TidyNode) := by
  have sourceRestores := sourceOk.restores
  have bodyRestores := bodyOk.restores
  have itemRestores : ∀ current : Nat, Restores (scopedLocal item.id >>= fun previous =>
      bindLocal item.id (some current) >>= fun _ => compileExpr body >>= fun _ => bindLocal item.id previous >>=
        fun _ => op .pop) := fun current => bodyRestores.bound item.id current fun _ => inferInstance
  have turned : ∀ {given : Prop} {iterator current : Nat} (held : ν), place.free ≤ iterator → iterator < 256 →
      iterator < current → current < 256 → (given → current < limits.locals) →
      DiscardsIn limits given operations arguments rounds (place.above current) (place.above iterator)
        (fun slots => slotted slots ∧ slots iterator = held)
        ((loadLocal iterator >>= fun _ => callDynamic "get:current" 0) >>= fun _ => storeLocal current >>= fun _ =>
          nameLocal current item.name >>= fun _ => scopedLocal item.id >>= fun previous =>
            bindLocal item.id (some current) >>= fun _ => compileExpr body >>= fun _ => bindLocal item.id previous >>=
              fun _ => op .pop)
        (do
          Run.withVar item.id (← operations.machine.dynamic "get:current" [held]) do
            let _ ← meaning operations.machine (place.argument arguments) rounds body
            pure ())
        (True ∧ body.All Expr.TidyNode) := by
    intro given iterator current held unused small unused' small' inside
    exact LeavesIn.bound (sound.above unused) unused' small' item.id
      (pushesIn_ask "get:current" small fun _ told => told.2)
      (discardsIn_item sound item bodyOk unused unused' small' inside)
  have goes : ∀ current, (Run.withVar item.id current do
        let _ ← meaning operations.machine (place.argument arguments) rounds body
        pure true) =
      (do
        let _ ← Run.withVar item.id current do
          let _ ← meaning operations.machine (place.argument arguments) rounds body
          pure ()
        pure true) := by
    intro current
    rw [← Run.withVar_map]
    simp only [bind_assoc, pure_bind]
  have whole : PushesAt limits given operations arguments rounds place slotted
      (allocateLocal >>= fun iterator => allocateLocal >>= fun current => _) _ _ :=
    emitsAt_allocate fun iterator unused small => emitsAt_allocate fun current unused' small' =>
      pushesIn_forEach sound unused small (sourceOk.ahead sound (Nat.le_trans unused (Nat.le_of_succ_le unused')))
        (fun held => turned held unused small unused' small' And.right) (fun _ => pushesIn_loadConst .nothing) goes
  simp only [bind_assoc] at whole
  apply whole.form
  · rfl
  · rfl
  · intro tidy
    have below := (Expr.all_iff.mp tidy).2
    simp only [Expr.children, forall_noGuard, List.forall_mem_cons, List.forall_mem_append] at below
    tauto

include sourceOk in
theorem pushesAt_yieldForIn_break {breakCondition : Expr}
    (breakOk : ∀ part ∈ Expr.guardParts beforeBreak (some breakCondition) none,
      Realized limits operations arguments rounds part) :
    PushesAt limits given operations arguments rounds place slotted
      (compileExpr (.yieldForIn source item beforeBreak (some breakCondition) body))
      (meaning operations.machine (place.argument arguments) rounds
        (.yieldForIn source item beforeBreak (some breakCondition) body))
      ((Expr.yieldForIn source item beforeBreak (some breakCondition) body).All Expr.TidyNode) := by
  obtain ⟨beforeOk, exitOk, -⟩ := forall_guardParts.mp breakOk
  have sourceRestores := sourceOk.restores
  have bodyRestores := bodyOk.restores
  have exitRestores := exitOk.restores
  have beforeRestores : Restores (compileDiscarded beforeBreak) :=
    restores_discarded fun expr member => (beforeOk expr member).restores
  have iterated : ∀ {given : Prop} {iterator current : Nat}, place.free ≤ iterator → iterator < current →
      PushesIn limits given operations arguments rounds (place.above current) place slotted
        (compileExpr source >>= fun _ => callDynamic "get:iterator" 0)
        (do
          operations.machine.dynamic "get:iterator"
            [← meaning operations.machine (place.argument arguments) rounds source])
        (source.All Expr.TidyNode) :=
    fun unused unused' => LeavesIn.operate (sourceOk.ahead sound (Nat.le_trans unused (Nat.le_of_succ_le unused')))
      (appliesAt_callMethod "get:iterator" (by decide))
  have tested : ∀ {given : Prop} {slotted : (Nat → ν) → Prop} {iterator current : Nat}, place.free ≤ iterator →
      iterator < current →
      PushesAt limits given operations arguments rounds ((place.above iterator).bind item.id current) slotted
        (compileDiscarded beforeBreak >>= fun _ => compileExpr breakCondition)
        (do
          let _ ← meaningDiscarded operations.machine (place.argument arguments) rounds beforeBreak
          meaning operations.machine (place.argument arguments) rounds breakCondition)
        ((∀ expr ∈ beforeBreak.toList, expr.All Expr.TidyNode) ∧ breakCondition.All Expr.TidyNode) :=
    fun unused unused' => pushesAt_tested ((sound.above unused).bind unused' item.id) beforeOk exitOk
  have bodies : ∀ {given : Prop} {slotted : (Nat → ν) → Prop} {iterator current : Nat}, place.free ≤ iterator →
      iterator < current →
      PushesAt limits given operations arguments rounds ((place.above iterator).bind item.id current) slotted
        (compileExpr body) (meaning operations.machine (place.argument arguments) rounds body)
        (body.All Expr.TidyNode) :=
    fun unused unused' => bodyOk.here ((sound.above unused).bind unused' item.id)
  have looped : ∀ {given : Prop} {iterator current : Nat} (held : ν), place.free ≤ iterator → iterator < 256 →
      iterator < current → current < 256 → (given → current < limits.locals) →
      PushesIn limits given operations arguments rounds (place.above current) (place.above iterator)
        (fun slots => slotted slots ∧ slots iterator = held) _ _ _ :=
    fun held unused small unused' small' inside =>
      pushesIn_untilBreak item (sound.above unused) unused' small small' inside (tested unused unused')
        (bodies unused unused') fun _ told => told.2
  have whole : PushesAt limits given operations arguments rounds place slotted
      (allocateLocal >>= fun iterator => allocateLocal >>= fun current => _) _ _ :=
    emitsAt_allocate fun iterator unused small => emitsAt_allocate fun current unused' small' =>
      LeavesIn.store sound unused small (iterated unused unused') fun held =>
        looped held unused small unused' small' And.right
  simp only [bind_assoc] at whole
  apply whole.form
  · rfl
  · have means : meaning operations.machine (place.argument arguments) rounds
        (.yieldForIn source item beforeBreak (some breakCondition) body) = (do
          let values ← meaning operations.machine (place.argument arguments) rounds source
          operations.machine.forEach rounds values fun current => Run.withVar item.id current do
            let _ ← meaningDiscarded operations.machine (place.argument arguments) rounds beforeBreak
            if operations.isTrue (← meaning operations.machine (place.argument arguments) rounds breakCondition) then
              pure false
            else do
              let _ ← meaning operations.machine (place.argument arguments) rounds body
              pure true
          pure operations.machine.null) := rfl
    rw [means]
    simp only [Machine.forEach, bind_assoc]
    rfl
  · intro tidy
    have below := (Expr.all_iff.mp tidy).2
    simp only [Expr.children, forall_guardParts, List.forall_mem_cons, List.forall_mem_append] at below
    tauto

include sourceOk in
theorem pushesAt_yieldForIn
    (breakOk : ∀ part ∈ Expr.guardParts beforeBreak breakCondition none,
      Realized limits operations arguments rounds part) :
    PushesAt limits given operations arguments rounds place slotted
      (compileExpr (.yieldForIn source item beforeBreak breakCondition body))
      (meaning operations.machine (place.argument arguments) rounds
        (.yieldForIn source item beforeBreak breakCondition body))
      ((Expr.yieldForIn source item beforeBreak breakCondition body).All Expr.TidyNode) := by
  cases breakCondition with
  | none => exact pushesAt_yieldForIn_whole sound sourceOk item bodyOk
  | some breakCondition => exact pushesAt_yieldForIn_break sound sourceOk item bodyOk breakOk

end YieldForIn

end Forms

end CodePush.Compiler
