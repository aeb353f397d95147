import CodePush.Compiler.Compiled

/-!
# Control structures

The parts of the compiler that reserve jumps and patch them: conditionals, loops with
guarded restarts and exits, and protected code. Each is a rule about the actions between
the jumps.
-/

set_option autoImplicit false

namespace CodePush.Compiler

open CodePush.Core CodePush.Bytecode CodePush.Foundation CodePush.Foundation.Action
  CodePush.Foundation.Assembly RestrictedBytecodeCompiler

section Control

variable {limits : Limits} {given : Prop} {tidy₁ tidy₂ tidy₃ tidy₄ tidy₅ tidy₆ : Prop}
  {named₁ named₂ named₃ named₄ named₅ named₆ : Prop}
  {shape shape' shape₁ shape₂ shape₃ shape₄ shape₅ shape₆ : Nat → Code → Prop}
  {turnShape : Nat → Nat → Code → Prop}

theorem moved {pos pos' : Nat} {code : Code} (holds : shape pos code) (same : pos = pos') : shape pos' code :=
  same ▸ holds

/-!
## Conditionals
-/

theorem Emits.conditional {condition thenPart elsePart : Compile Unit}
    (conditionOk : Emits limits given condition shape₁) (thenOk : Emits limits given thenPart shape₂)
    (elseOk : Emits limits given elsePart shape₃)
    (join : ∀ pos conditionCode thenCode elseCode thenAt label finish, shape₁ pos conditionCode →
      thenAt = pos + extent Instr.size conditionCode + 3 → shape₂ thenAt thenCode →
      label = thenAt + extent Instr.size thenCode + 3 → shape₃ label elseCode →
      finish = label + extent Instr.size elseCode → finish < 65536 →
      shape pos
        (conditionCode ++ (.one .jumpIfFalse label :: (thenCode ++ .one .jump finish :: elseCode)))) :
    Emits limits given
      (do
        condition
        op .jumpIfFalse
        let elsePatch ← reserveU16
        thenPart
        op .jump
        let endPatch ← reserveU16
        patchHere elsePatch
        elsePart
        patchHere endPatch)
      shape := by
  intro now ready known
  refine (conditionOk.step (.knowing ready known) id).bind fun _ now₁ compiled => ?_
  obtain ⟨conditionCode, progress⟩ := compiled
  refine reserve_spec progress rfl fun now₂ progress => ?_
  refine (thenOk.step progress And.left).bind fun _ now₃ compiled => ?_
  obtain ⟨thenCode, progress⟩ := compiled
  refine reserve_spec progress rfl fun now₄ progress => ?_
  have progress := progress.recode (conditionCode ++ .one .jumpIfFalse 0 ::
    (thenCode ++ [.one .jump 0])) (by simp)
  refine (patchJump_spec progress rfl (by simp)).bind fun _ now₅ patched => ?_
  obtain ⟨label, labelled, _, progress⟩ := patched
  refine (elseOk.step progress fun facts => facts.1.1).bind fun _ now₆ compiled => ?_
  obtain ⟨elseCode, progress⟩ := compiled
  have progress := progress.recode ((conditionCode ++ .one .jumpIfFalse label :: thenCode) ++
    .one .jump 0 :: elseCode) (by simp)
  refine (patchJump_spec progress rfl ?_).mono ?_ (fun _ _ _ => trivial)
  · simp
  intro _ now₇ patched
  obtain ⟨finish, finished, small, progress⟩ := patched
  refine ⟨_, (progress.recode _ (List.append_assoc _ _ _)).imp ?_⟩
  intro facts
  obtain ⟨⟨⟨_, conditionShape⟩, thenShape⟩, elseShape⟩ := facts
  simp [OpCode.operandLen] at conditionShape thenShape elseShape labelled finished
  exact join _ _ _ _ _ _ _ conditionShape (by omega) thenShape (by omega) (moved elseShape (by omega))
    (by omega) small

theorem Compiles.conditional {condition thenPart elsePart : Compile Unit}
    (conditionOk : Compiles limits given condition 0 1 tidy₁ named₁)
    (thenOk : Compiles limits given thenPart 0 1 tidy₂ named₂)
    (elseOk : Compiles limits given elsePart 0 1 tidy₃ named₃) :
    Compiles limits given
      (do
        condition
        op .jumpIfFalse
        let elsePatch ← reserveU16
        thenPart
        op .jump
        let endPatch ← reserveU16
        patchHere elsePatch
        elsePart
        patchHere endPatch)
      0 1 (tidy₁ ∧ tidy₂ ∧ tidy₃) (named₁ ∧ named₂ ∧ named₃) :=
  Emits.compiles (conditionOk.emits.conditional thenOk.emits elseOk.emits
    fun _ _ _ _ _ _ _ => Piece.conditional)

/-!
## Loops
-/

/-- Like `Emits` and `Prepares`, for code in a loop that may restart or leave it. -/
def EmitsIn {α : Type} (limits : Limits) (given : Prop) (loopStart : Nat) (action : Compile α)
    (ok facts : α → Prop) (shape : Nat → Code → Prop) : Prop :=
  ∀ now : RestrictedBytecodeCompiler, now.Ready limits → (now.Within limits → given) →
    loopStart ≤ now.code.length →
    Ensures action now
      (fun value after => ok value ∧ ∃ code, Progress limits now after code
        (facts value ∧ shape now.code.length code))
      (fun _ _ => True)

/-- Like `Compiles` and `Prepares`, for code in a loop that may restart or leave it. -/
def CompilesIn {α : Type} (limits : Limits) (given : Prop) (loopStart : Nat) (action : Compile α)
    (ok facts : α → Prop) (tidy named : Prop) : Prop :=
  ∀ now : RestrictedBytecodeCompiler, now.Ready limits → (now.Within limits → given) →
    loopStart ≤ now.code.length →
    Ensures action now
      (fun value after => ok value ∧ ∃ code, Progress limits now after code
        (facts value ∧
          ∀ finish, LoopPiece limits now.code.length code loopStart finish tidy named))
      (fun _ _ => True)

theorem CompilesIn.emits {α : Type} {action : Compile α} {loopStart : Nat} {ok facts : α → Prop}
    (compiles : CompilesIn limits given loopStart action ok facts tidy₁ named₁) :
    EmitsIn limits given loopStart action ok facts
      fun pos code => ∀ finish, LoopPiece limits pos code loopStart finish tidy₁ named₁ := compiles

theorem EmitsIn.compiles {α : Type} {action : Compile α} {loopStart : Nat} {ok facts : α → Prop}
    (emits : EmitsIn limits given loopStart action ok facts
      fun pos code => ∀ finish, LoopPiece limits pos code loopStart finish tidy₁ named₁) :
    CompilesIn limits given loopStart action ok facts tidy₁ named₁ := emits

/-- Code that takes no part in the loop, and what it prepares. -/
theorem Emits.inLoop {α : Type} {action : Compile Unit} {prepare : Compile α} {ok facts : α → Prop}
    (emits : Emits limits given action shape) (prepares : Prepares limits given prepare ok facts)
    (loopStart : Nat) : EmitsIn limits given loopStart (action >>= fun _ => prepare) ok facts shape := by
  intro now ready known _
  refine (emits.step (.knowing ready known) id).bind fun _ after emitted => ?_
  obtain ⟨code, progress⟩ := emitted
  refine (prepares after progress.ready fun within => (progress.known within).1).mono ?_
    (fun _ _ _ => trivial)
  intro value finish prepared
  obtain ⟨holds, later⟩ := prepared
  refine ⟨holds, code, ⟨later.ready, progress.grows.trans later.grows, ?_⟩, ?_⟩
  · intro within
    have here := (progress.known (within.of_grows later.grows)).2
    simp only [extent_nil, Nat.add_zero] at here
    exact ⟨later.known within, here⟩
  · rw [later.emitted, progress.emitted]
    simp

theorem EmitsIn.imp {α : Type} {action : Compile α} {loopStart : Nat} {ok facts : α → Prop}
    (emits : EmitsIn limits given loopStart action ok facts shape)
    (weaker : ∀ pos code, shape pos code → shape' pos code) :
    EmitsIn limits given loopStart action ok facts shape' := by
  intro now ready known earlier
  refine (emits now ready known earlier).mono ?_ (fun _ _ _ => trivial)
  intro value after emitted
  obtain ⟨holds, code, progress⟩ := emitted
  exact ⟨holds, code, progress.imp fun both => ⟨both.1, weaker _ code both.2⟩⟩

theorem Compiles.inLoop {α : Type} {action : Compile Unit} {prepare : Compile α} {ok facts : α → Prop}
    (compiles : Compiles limits given action 0 0 tidy₁ named₁)
    (prepares : Prepares limits given prepare ok facts) (loopStart : Nat) :
    CompilesIn limits given loopStart (action >>= fun _ => prepare) ok facts tidy₁ named₁ :=
  EmitsIn.compiles ((compiles.emits.inLoop prepares loopStart).imp
    fun _ _ piece finish => piece.toLoop loopStart finish)

theorem prepares_nothing : Prepares limits given (pure ()) (fun _ => True) (fun _ => True) := by
  intro now ready _
  exact ensures_pure ⟨trivial, .start ready⟩

theorem EmitsIn.step {α : Type} {since now : RestrictedBytecodeCompiler} {code : Code}
    {known : Prop} {action : Compile α} {loopStart : Nat} {ok facts : α → Prop}
    (emits : EmitsIn limits given loopStart action ok facts shape)
    (progress : Progress limits since now code known) (implied : known → given)
    (earlier : loopStart ≤ since.code.length + extent Instr.size code) :
    Ensures action now
      (fun value after => ok value ∧ ∃ piece, Progress limits since after (code ++ piece)
        (known ∧ facts value ∧ shape (since.code.length + extent Instr.size code) piece))
      (fun _ _ => True) := by
  rw [← progress.position] at earlier
  refine (emits now progress.ready (fun within => implied (progress.known within)) earlier).mono ?_
    (fun _ _ _ => trivial)
  intro value after emitted
  obtain ⟨holds, piece, later⟩ := emitted
  rw [← progress.position]
  exact ⟨holds, piece, progress.trans later⟩

/-- A guarded restart of the loop. -/
theorem EmitsIn.restart {condition body : Compile Unit} (loopStart : Nat)
    (conditionOk : Emits limits given condition shape₁) (bodyOk : Emits limits given body shape₂)
    (join : ∀ pos conditionCode bodyCode label, loopStart ≤ pos → shape₁ pos conditionCode →
      shape₂ (pos + extent Instr.size conditionCode + 3) bodyCode →
      label = pos + extent Instr.size conditionCode + 3 + extent Instr.size bodyCode + 3 → label < 65536 →
      shape pos (conditionCode ++ (.one .jumpIfFalse label :: (bodyCode ++ [.one .jump loopStart])))) :
    EmitsIn limits given loopStart
      (do
        condition
        op .jumpIfFalse
        let bodyPatch ← reserveU16
        body
        op .jump
        u16 loopStart
        patchHere bodyPatch)
      (fun _ => True) (fun _ => True) shape := by
  intro now ready known earlier
  refine (conditionOk.step (.knowing ready known) id).bind fun _ now₁ compiled => ?_
  obtain ⟨conditionCode, progress⟩ := compiled
  refine reserve_spec progress rfl fun now₂ progress => ?_
  refine (bodyOk.step progress And.left).bind fun _ now₃ compiled => ?_
  obtain ⟨bodyCode, progress⟩ := compiled
  have progress := progress.recode (conditionCode ++ .one .jumpIfFalse 0 :: bodyCode) (by simp)
  refine (jumpBack_spec progress rfl (by simp) ?_).mono ?_ (fun _ _ _ => trivial)
  · omega
  intro _ now₄ jumped
  obtain ⟨label, labelled, small, progress⟩ := jumped
  refine ⟨trivial, _, progress.imp ?_⟩
  intro facts
  obtain ⟨⟨_, conditionShape⟩, bodyShape⟩ := facts
  simp [OpCode.operandLen] at conditionShape bodyShape labelled
  exact ⟨trivial, join _ _ _ _ earlier conditionShape (moved bodyShape (by omega)) (by omega) small⟩

theorem CompilesIn.restart {condition body : Compile Unit} (loopStart : Nat)
    (conditionOk : Compiles limits given condition 0 1 tidy₁ named₁)
    (bodyOk : Compiles limits given body 0 0 tidy₂ named₂) :
    CompilesIn limits given loopStart
      (do
        condition
        op .jumpIfFalse
        let bodyPatch ← reserveU16
        body
        op .jump
        u16 loopStart
        patchHere bodyPatch)
      (fun _ => True) (fun _ => True) (tidy₁ ∧ tidy₂) (named₁ ∧ named₂) :=
  EmitsIn.compiles (.restart loopStart conditionOk.emits bodyOk.emits
    fun _ _ _ _ earlier conditionPiece bodyPiece labelled small _ =>
      .guard loopStart conditionPiece rfl bodyPiece labelled small (.inl rfl) (by omega))

/-- A loop; the guards may restart it. -/
theorem Emits.cycle {α : Type} {condition tail : Compile Unit} {guards : Nat → Compile α}
    {body : α → Compile Unit} {ok facts : α → Prop} (conditionOk : Emits limits given condition shape₁)
    (guardsOk : ∀ loopStart, EmitsIn limits given loopStart (guards loopStart) ok facts (turnShape loopStart))
    (bodyOk : ∀ value, ok value → Emits limits (given ∧ facts value) (body value) shape₂)
    (tailOk : Emits limits given tail shape₃)
    (join : ∀ pos conditionCode guardCode bodyCode tailCode thenAt finish, shape₁ pos conditionCode →
      thenAt = pos + extent Instr.size conditionCode + 3 → turnShape pos thenAt guardCode →
      shape₂ (thenAt + extent Instr.size guardCode) bodyCode →
      finish = thenAt + (extent Instr.size guardCode + extent Instr.size bodyCode) + 3 → finish < 65536 →
      shape₃ finish tailCode →
      shape pos (conditionCode ++ (.one .jumpIfFalse finish ::
        ((guardCode ++ bodyCode) ++ .one .jump pos :: tailCode)))) :
    Emits limits given
      (do
        let loopStart ← position
        condition
        op .jumpIfFalse
        let endPatch ← reserveU16
        let value ← guards loopStart
        body value
        op .jump
        u16 loopStart
        patchHere endPatch
        tail)
      shape := by
  intro now ready known
  refine (position_spec (.knowing ready known)).bind fun loopStart now₁ here => ?_
  obtain ⟨started, progress⟩ := here
  rw [extent_nil, Nat.add_zero] at started
  refine (conditionOk.step progress id).bind fun _ now₂ compiled => ?_
  obtain ⟨conditionCode, progress⟩ := compiled
  refine reserve_spec progress rfl fun now₃ progress => ?_
  refine ((guardsOk loopStart).step progress And.left (by omega)).bind fun value now₄ compiled => ?_
  obtain ⟨holds, guardCode, progress⟩ := compiled
  refine ((bodyOk value holds).step progress fun facts => ⟨facts.1.1, facts.2.1⟩).bind
    fun _ now₅ compiled => ?_
  obtain ⟨bodyCode, progress⟩ := compiled
  have progress := progress.recode (conditionCode ++ .one .jumpIfFalse 0 ::
    (guardCode ++ bodyCode)) (by simp)
  refine (jumpBack_spec progress rfl (by simp) (by omega)).bind_triple fun _ now₆ jumped => ?_
  obtain ⟨finish, finished, small, progress⟩ := jumped
  refine (tailOk.step progress fun facts => facts.1.1.1).mono ?_ (fun _ _ _ => trivial)
  intro _ now₇ compiled
  obtain ⟨tailCode, progress⟩ := compiled
  have progress := progress.recode (conditionCode ++ .one .jumpIfFalse finish ::
    ((guardCode ++ bodyCode) ++ .one .jump now.code.length :: tailCode)) (by simp [started])
  refine ⟨_, progress.imp ?_⟩
  intro facts
  obtain ⟨⟨⟨⟨_, conditionShape⟩, _, guardShape⟩, bodyShape⟩, tailShape⟩ := facts
  subst started
  simp [OpCode.operandLen] at conditionShape guardShape bodyShape tailShape finished
  exact join _ _ _ _ _ _ _ conditionShape rfl (moved guardShape (by omega)) (moved bodyShape (by omega))
    (by omega) small (moved tailShape (by omega))

theorem Compiles.cycle {α : Type} {condition tail : Compile Unit} {guards : Nat → Compile α}
    {body : α → Compile Unit} {ok facts : α → Prop}
    (conditionOk : Compiles limits given condition 0 1 tidy₁ named₁)
    (guardsOk : ∀ loopStart,
      CompilesIn limits given loopStart (guards loopStart) ok facts tidy₂ named₂)
    (bodyOk : ∀ value, ok value →
      Compiles limits (given ∧ facts value) (body value) 0 0 tidy₃ named₃)
    (tailOk : Compiles limits given tail 0 1 tidy₄ named₄) :
    Compiles limits given
      (do
        let loopStart ← position
        condition
        op .jumpIfFalse
        let endPatch ← reserveU16
        let value ← guards loopStart
        body value
        op .jump
        u16 loopStart
        patchHere endPatch
        tail)
      0 1 (tidy₁ ∧ (tidy₂ ∧ tidy₃) ∧ tidy₄) (named₁ ∧ (named₂ ∧ named₃) ∧ named₄) := by
  refine Emits.compiles (conditionOk.emits.cycle (fun loopStart => (guardsOk loopStart).emits)
    (fun value holds => (bodyOk value holds).emits) tailOk.emits ?_)
  intro pos conditionCode guardCode bodyCode tailCode thenAt finish conditionPiece thenPlaced guardPiece
    bodyPiece finished small tailPiece
  exact Piece.cycle conditionPiece thenPlaced ((guardPiece finish).append (bodyPiece.toLoop pos finish))
    (by rw [extent_append, finished]) small tailPiece

/-- A loop with a guarded exit; the guards before it may restart the loop. -/
theorem Emits.cycleExit {α : Type} {condition exitCondition exitBody tail : Compile Unit}
    {guards : Nat → Compile α} {body : α → Compile Unit} {ok facts : α → Prop}
    (conditionOk : Emits limits given condition shape₁)
    (guardsOk : ∀ loopStart, EmitsIn limits given loopStart (guards loopStart) ok facts (turnShape loopStart))
    (exitOk : Emits limits given exitCondition shape₂) (exitBodyOk : Emits limits given exitBody shape₃)
    (bodyOk : ∀ value, ok value → Emits limits (given ∧ facts value) (body value) shape₄)
    (tailOk : Emits limits given tail shape₅)
    (join : ∀ pos conditionCode guardCode exitCode exitBodyCode bodyCode tailCode thenAt exitAt label finish,
      shape₁ pos conditionCode → thenAt = pos + extent Instr.size conditionCode + 3 →
      turnShape pos thenAt guardCode → exitAt = thenAt + extent Instr.size guardCode →
      shape₂ exitAt exitCode → shape₃ (exitAt + extent Instr.size exitCode + 3) exitBodyCode →
      label = exitAt + extent Instr.size exitCode + 3 + extent Instr.size exitBodyCode + 3 → label < 65536 →
      shape₄ label bodyCode → finish = label + extent Instr.size bodyCode + 3 → finish < 65536 →
      shape₅ finish tailCode →
      shape pos (conditionCode ++ (.one .jumpIfFalse finish ::
        (((guardCode ++ (exitCode ++ .one .jumpIfFalse label :: (exitBodyCode ++ [.one .jump finish]))) ++
          bodyCode) ++ .one .jump pos :: tailCode)))) :
    Emits limits given
      (do
        let loopStart ← position
        condition
        op .jumpIfFalse
        let endPatch ← reserveU16
        let value ← guards loopStart
        exitCondition
        op .jumpIfFalse
        let continuePatch ← reserveU16
        exitBody
        op .jump
        let breakPatch ← reserveU16
        patchHere continuePatch
        body value
        op .jump
        u16 loopStart
        patchHere breakPatch
        patchHere endPatch
        tail)
      shape := by
  intro now ready known
  refine (position_spec (.knowing ready known)).bind fun loopStart now₁ here => ?_
  obtain ⟨started, progress⟩ := here
  rw [extent_nil, Nat.add_zero] at started
  refine (conditionOk.step progress id).bind fun _ now₂ compiled => ?_
  obtain ⟨conditionCode, progress⟩ := compiled
  refine reserve_spec progress rfl fun now₃ progress => ?_
  refine ((guardsOk loopStart).step progress And.left (by omega)).bind fun value now₄ compiled => ?_
  obtain ⟨holds, guardCode, progress⟩ := compiled
  refine (exitOk.step progress fun facts => facts.1.1).bind fun _ now₅ compiled => ?_
  obtain ⟨exitCode, progress⟩ := compiled
  refine reserve_spec progress rfl fun now₆ progress => ?_
  refine (exitBodyOk.step progress fun facts => facts.1.1.1).bind fun _ now₇ compiled => ?_
  obtain ⟨exitBodyCode, progress⟩ := compiled
  refine reserve_spec progress rfl fun now₈ progress => ?_
  have progress := progress.recode ((conditionCode ++ .one .jumpIfFalse 0 ::
    (guardCode ++ exitCode)) ++ .one .jumpIfFalse 0 :: (exitBodyCode ++ [.one .jump 0])) (by simp)
  refine (patchJump_spec progress rfl (by simp)).bind fun _ now₉ patched => ?_
  obtain ⟨label, labelled, labelSmall, progress⟩ := patched
  refine ((bodyOk value holds).step progress fun facts => ⟨facts.1.1.1.1, facts.1.1.2.1⟩).bind
    fun _ now₁₀ compiled => ?_
  obtain ⟨bodyCode, progress⟩ := compiled
  have progress := progress.recode ((conditionCode ++ .one .jumpIfFalse 0 ::
    (guardCode ++ (exitCode ++ .one .jumpIfFalse label :: exitBodyCode))) ++
      .one .jump 0 :: bodyCode) (by simp)
  refine (jumpBack_spec progress rfl (by simp) (by omega)).bind_triple fun _ now₁₁ jumped => ?_
  obtain ⟨finish, finished, small, progress⟩ := jumped
  have progress := progress.recode (conditionCode ++ .one .jumpIfFalse 0 ::
    ((guardCode ++ (exitCode ++ .one .jumpIfFalse label :: (exitBodyCode ++ [.one .jump finish]))) ++
      bodyCode ++ [.one .jump loopStart])) (by simp)
  refine (patchJump_spec progress rfl (by simp)).bind fun _ now₁₂ patched => ?_
  obtain ⟨finish', finished', _, progress⟩ := patched
  refine (tailOk.step progress fun facts => facts.1.1.1.1.1).mono ?_ (fun _ _ _ => trivial)
  intro _ now₁₃ compiled
  obtain ⟨tailCode, progress⟩ := compiled
  have same : finish' = finish := by
    simp [OpCode.operandLen] at finished finished'
    omega
  have progress := progress.recode (conditionCode ++ .one .jumpIfFalse finish ::
    (((guardCode ++ (exitCode ++ .one .jumpIfFalse label :: (exitBodyCode ++ [.one .jump finish]))) ++
      bodyCode) ++ .one .jump now.code.length :: tailCode)) (by simp [started, same])
  refine ⟨_, progress.imp ?_⟩
  intro facts
  obtain ⟨⟨⟨⟨⟨⟨_, conditionShape⟩, _, guardShape⟩, exitShape⟩, exitBodyShape⟩, bodyShape⟩, tailShape⟩ :=
    facts
  subst started same
  simp [OpCode.operandLen] at conditionShape guardShape exitShape exitBodyShape bodyShape tailShape
  simp [OpCode.operandLen] at labelled finished
  exact join _ _ _ _ _ _ _ _ _ _ _ conditionShape rfl (moved guardShape (by omega)) rfl
    (moved exitShape (by omega)) (moved exitBodyShape (by omega)) (by omega) labelSmall
    (moved bodyShape (by omega)) (by omega) small (moved tailShape (by omega))

theorem Compiles.cycleExit {α : Type} {condition exitCondition exitBody tail : Compile Unit}
    {guards : Nat → Compile α} {body : α → Compile Unit} {ok facts : α → Prop}
    (conditionOk : Compiles limits given condition 0 1 tidy₁ named₁)
    (guardsOk : ∀ loopStart,
      CompilesIn limits given loopStart (guards loopStart) ok facts tidy₂ named₂)
    (exitOk : Compiles limits given exitCondition 0 1 tidy₃ named₃)
    (exitBodyOk : Compiles limits given exitBody 0 0 tidy₄ named₄)
    (bodyOk : ∀ value, ok value →
      Compiles limits (given ∧ facts value) (body value) 0 0 tidy₅ named₅)
    (tailOk : Compiles limits given tail 0 1 tidy₆ named₆) :
    Compiles limits given
      (do
        let loopStart ← position
        condition
        op .jumpIfFalse
        let endPatch ← reserveU16
        let value ← guards loopStart
        exitCondition
        op .jumpIfFalse
        let continuePatch ← reserveU16
        exitBody
        op .jump
        let breakPatch ← reserveU16
        patchHere continuePatch
        body value
        op .jump
        u16 loopStart
        patchHere breakPatch
        patchHere endPatch
        tail)
      0 1 (tidy₁ ∧ ((tidy₂ ∧ (tidy₃ ∧ tidy₄)) ∧ tidy₅) ∧ tidy₆)
      (named₁ ∧ ((named₂ ∧ (named₃ ∧ named₄)) ∧ named₅) ∧ named₆) := by
  refine Emits.compiles (conditionOk.emits.cycleExit (fun loopStart => (guardsOk loopStart).emits)
    exitOk.emits exitBodyOk.emits (fun value holds => (bodyOk value holds).emits) tailOk.emits ?_)
  intro pos conditionCode guardCode exitCode exitBodyCode bodyCode tailCode thenAt exitAt label finish
    conditionPiece thenPlaced guardPiece exitPlaced exitPiece exitBodyPiece labelled labelSmall bodyPiece
    finished small tailPiece
  subst exitPlaced
  have leaves := LoopPiece.guard pos exitPiece rfl exitBodyPiece labelled labelSmall (.inr rfl) small
  have guarded := (guardPiece finish).append leaves
  refine Piece.cycle conditionPiece thenPlaced (guarded.append ((bodyPiece.toLoop pos finish).moved ?_)) ?_
    small tailPiece
  · simp [OpCode.operandLen]
    omega
  · simp [OpCode.operandLen]
    omega

/-!
## Protected code
-/

theorem Emits.tryCatch {body catchBody : Compile Unit} (catchLocal : Int64)
    (bodyOk : Emits limits given body shape₁) (catchOk : Emits limits given catchBody shape₂)
    (join : ∀ pos bodyCode handlerCode handlerAt finish slot, shape₁ (pos + 5) bodyCode →
      handlerAt = pos + 5 + extent Instr.size bodyCode + 3 → slot < 256 → slot < limits.locals →
      shape₂ (handlerAt + 2) handlerCode → finish = handlerAt + 2 + extent Instr.size handlerCode →
      finish < 65536 →
      shape pos (⟨.tryBegin, handlerAt, finish⟩ ::
        (bodyCode ++ .one .jump finish :: ([.one .storeLocal slot] ++ handlerCode)))) :
    Emits limits given
      (do
        op .tryBegin
        let handlerPatch ← reserveU16
        let endOperandPatch ← reserveU16
        body
        op .jump
        let endJumpPatch ← reserveU16
        patchHere handlerPatch
        let catchLocalIndex ← allocateLocal
        storeLocal catchLocalIndex
        withLocal catchLocal catchLocalIndex catchBody
        patchHere endOperandPatch
        patchHere endJumpPatch)
      shape := by
  intro now ready known
  refine reserveTwo_spec (.knowing ready known) rfl fun now₁ progress => ?_
  refine (bodyOk.step progress id).bind fun _ now₂ compiled => ?_
  obtain ⟨bodyCode, progress⟩ := compiled
  refine reserve_spec progress rfl fun now₃ progress => ?_
  have progress := progress.recode ([] ++ ⟨.tryBegin, 0, 0⟩ :: (bodyCode ++ [.one .jump 0])) (by simp)
  refine (patchHandler_spec progress rfl (by simp)).bind fun _ now₄ patched => ?_
  obtain ⟨handlerAt, handlerPlaced, _, progress⟩ := patched
  refine (allocateLocal_spec progress).bind fun slot now₅ allocated => ?_
  obtain ⟨slotSmall, progress⟩ := allocated
  refine (u8_spec progress rfl slotSmall).bind fun _ now₆ progress => ?_
  have handlerOk : Emits limits (given ∧ slot < limits.locals) (withLocal catchLocal slot catchBody) shape₂ :=
    (catchOk.knowing And.left).bound slotSmall And.right catchLocal
  refine (handlerOk.step progress fun facts => ⟨facts.1.1, facts.2⟩).bind fun _ now₇ compiled => ?_
  obtain ⟨handlerCode, progress⟩ := compiled
  have progress := progress.recode ([] ++ ⟨.tryBegin, handlerAt, 0⟩ ::
    (bodyCode ++ .one .jump 0 :: ([.one .storeLocal slot] ++ handlerCode))) (by simp)
  refine (patchEnd_spec progress rfl (by simp)).bind fun _ now₈ patched => ?_
  obtain ⟨finish, finished, _, progress⟩ := patched
  have progress := progress.recode ((⟨.tryBegin, handlerAt, finish⟩ :: bodyCode) ++
    .one .jump 0 :: ([.one .storeLocal slot] ++ handlerCode)) (by simp)
  refine (patchJump_spec progress rfl (by simp [OpCode.operandLen])).mono ?_ (fun _ _ _ => trivial)
  intro _ now₉ patched
  obtain ⟨finish', finished', small, progress⟩ := patched
  refine ⟨_, (progress.recode _ List.cons_append).imp ?_⟩
  intro facts
  obtain ⟨⟨⟨_, bodyShape⟩, slotInside⟩, handlerShape⟩ := facts
  simp [OpCode.operandLen] at bodyShape handlerShape handlerPlaced finished finished'
  obtain rfl : finish' = finish := by omega
  exact join _ _ _ _ _ _ (moved bodyShape (by omega)) (by omega) slotSmall slotInside
    (moved handlerShape (by omega)) (by omega) small

theorem Compiles.tryCatch {body catchBody : Compile Unit} (catchLocal : Int64)
    (bodyOk : Compiles limits given body 0 1 tidy₁ named₁)
    (catchOk : Compiles limits given catchBody 0 1 tidy₂ named₂) :
    Compiles limits given
      (do
        op .tryBegin
        let handlerPatch ← reserveU16
        let endOperandPatch ← reserveU16
        body
        op .jump
        let endJumpPatch ← reserveU16
        patchHere handlerPatch
        let catchLocalIndex ← allocateLocal
        storeLocal catchLocalIndex
        withLocal catchLocal catchLocalIndex catchBody
        patchHere endOperandPatch
        patchHere endJumpPatch)
      0 1 (tidy₁ ∧ tidy₂) (named₁ ∧ named₂) := by
  refine Emits.compiles (bodyOk.emits.tryCatch catchLocal catchOk.emits ?_)
  intro pos bodyCode handlerCode handlerAt finish slot bodyPiece handlerPlaced slotSmall slotInside
    handlerPiece finished small
  have stored : extent Instr.size [.one .storeLocal slot] = 2 := by simp [OpCode.operandLen]
  have caught := (piece_storeLocal slotSmall slotInside).append (handlerPiece.moved (by rw [stored]))
  refine (Piece.tryCatch rfl bodyPiece handlerPlaced caught ?_ ?_ small).imp ?_ ?_
  · rw [extent_append, stored]
    omega
  · rw [extent_append, stored]
    omega
  · simp
  · simp

/-- The finalizer follows the body and is also entered when the body throws; `keep` is what
is done with the body's value. -/
theorem Emits.tryFinally {body keep finalizer tail : Compile Unit} (bodyOk : Emits limits given body shape₁)
    (keepOk : Emits limits given keep shape₂) (finalizerOk : Emits limits given finalizer shape₃)
    (tailOk : Emits limits given tail shape₄)
    (join : ∀ pos bodyCode keepCode finalizerCode tailCode handlerAt finish, shape₁ (pos + 5) bodyCode →
      shape₂ (pos + 5 + extent Instr.size bodyCode) keepCode →
      handlerAt = pos + 5 + (extent Instr.size bodyCode + extent Instr.size keepCode) + 3 →
      shape₃ handlerAt finalizerCode → finish = handlerAt + extent Instr.size finalizerCode + 2 →
      finish < 65536 → shape₄ finish tailCode →
      shape pos (⟨.tryFinally, handlerAt, finish⟩ :: ((bodyCode ++ keepCode) ++
        .one .jump finish :: ((finalizerCode ++ ([.plain .pop] ++ [.plain .endFinally])) ++ tailCode)))) :
    Emits limits given
      (do
        op .tryFinally
        let finallyPatch ← reserveU16
        let endOperandPatch ← reserveU16
        body
        keep
        op .jump
        let endJumpPatch ← reserveU16
        patchHere finallyPatch
        finalizer
        op .pop
        op .endFinally
        patchHere endOperandPatch
        patchHere endJumpPatch
        tail)
      shape := by
  intro now ready known
  refine reserveTwo_spec (.knowing ready known) rfl fun now₁ progress => ?_
  refine (bodyOk.step progress id).bind fun _ now₂ compiled => ?_
  obtain ⟨bodyCode, progress⟩ := compiled
  refine (keepOk.step progress And.left).bind fun _ now₃ compiled => ?_
  obtain ⟨keepCode, progress⟩ := compiled
  refine reserve_spec progress rfl fun now₄ progress => ?_
  have progress := progress.recode ([] ++ ⟨.tryFinally, 0, 0⟩ ::
    ((bodyCode ++ keepCode) ++ [.one .jump 0])) (by simp)
  refine (patchHandler_spec progress rfl (by simp)).bind fun _ now₅ patched => ?_
  obtain ⟨handlerAt, handlerPlaced, _, progress⟩ := patched
  refine (finalizerOk.step progress fun facts => facts.1.1).bind fun _ now₆ compiled => ?_
  obtain ⟨finalizerCode, progress⟩ := compiled
  refine (op_spec progress rfl).bind fun _ now₇ progress => ?_
  refine (op_spec progress rfl).bind fun _ now₈ progress => ?_
  have progress := progress.recode ([] ++ ⟨.tryFinally, handlerAt, 0⟩ :: ((bodyCode ++ keepCode) ++
    .one .jump 0 :: (finalizerCode ++ ([.plain .pop] ++ [.plain .endFinally])))) (by simp)
  refine (patchEnd_spec progress rfl (by simp)).bind fun _ now₉ patched => ?_
  obtain ⟨finish, finished, _, progress⟩ := patched
  have progress := progress.recode ((⟨.tryFinally, handlerAt, finish⟩ :: (bodyCode ++ keepCode)) ++
    .one .jump 0 :: (finalizerCode ++ ([.plain .pop] ++ [.plain .endFinally]))) (by simp)
  refine (patchJump_spec progress rfl (by simp [OpCode.operandLen])).bind fun _ now₁₀ patched => ?_
  obtain ⟨finish', finished', small, progress⟩ := patched
  refine (tailOk.step progress fun facts => facts.1.1.1).mono ?_ (fun _ _ _ => trivial)
  intro _ now₁₁ compiled
  obtain ⟨tailCode, progress⟩ := compiled
  have progress := progress.recode (⟨.tryFinally, handlerAt, finish⟩ :: ((bodyCode ++ keepCode) ++
    .one .jump finish' :: ((finalizerCode ++ ([.plain .pop] ++ [.plain .endFinally])) ++ tailCode)))
    (by simp)
  refine ⟨_, progress.imp ?_⟩
  intro facts
  obtain ⟨⟨⟨⟨_, bodyShape⟩, keepShape⟩, finalizerShape⟩, tailShape⟩ := facts
  simp [OpCode.operandLen] at bodyShape keepShape finalizerShape tailShape handlerPlaced finished
  simp [OpCode.operandLen] at finished'
  obtain rfl : finish' = finish := by omega
  exact join _ _ _ _ _ _ _ (moved bodyShape (by omega)) (moved keepShape (by omega)) (by omega)
    (moved finalizerShape (by omega)) (by omega) small (moved tailShape (by omega))

theorem Compiles.tryFinally {body keep finalizer tail : Compile Unit} {kept : Nat}
    (bodyOk : Compiles limits given body 0 1 tidy₁ named₁)
    (keepOk : Compiles limits given keep 1 kept tidy₂ named₂)
    (finalizerOk : Compiles limits given finalizer 0 1 tidy₃ named₃)
    (tailOk : Compiles limits given tail 0 1 tidy₄ named₄) :
    Compiles limits given
      (do
        op .tryFinally
        let finallyPatch ← reserveU16
        let endOperandPatch ← reserveU16
        body
        keep
        op .jump
        let endJumpPatch ← reserveU16
        patchHere finallyPatch
        finalizer
        op .pop
        op .endFinally
        patchHere endOperandPatch
        patchHere endJumpPatch
        tail)
      0 1 (kept = 0 ∧ (tidy₁ ∧ tidy₂) ∧ tidy₃ ∧ tidy₄)
      ((named₁ ∧ named₂) ∧ named₃ ∧ named₄) := by
  refine Emits.compiles (bodyOk.emits.tryFinally keepOk.emits finalizerOk.emits tailOk.emits ?_)
  intro pos bodyCode keepCode finalizerCode tailCode handlerAt finish bodyPiece keepPiece handlerPlaced
    finalizerPiece finished small tailPiece
  have finalPiece := finalizerPiece.append (piece_pop.append piece_endFinally)
  refine (Piece.tryFinally rfl (bodyPiece.append keepPiece) ?_ finalPiece ?_ ?_ small tailPiece).imp ?_ ?_
  · rw [extent_append]
    exact handlerPlaced
  · simp [OpCode.operandLen]
  · simp [OpCode.operandLen]
    omega
  · intro tidy
    exact ⟨tidy.1, tidy.2.1, ⟨tidy.2.2.1, trivial, trivial⟩, tidy.2.2.2⟩
  · simp

end Control

end CodePush.Compiler
