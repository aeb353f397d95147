import CodePush.Compiler.Execution

/-!
# Jumps in code that executes a computation

Conditionals and loops. The code of a loop may go back to its start or leave it from anywhere.
-/

set_option autoImplicit false

namespace CodePush.Compiler

open CodePush.Core CodePush.Bytecode CodePush.Foundation CodePush.Foundation.Assembly

variable {ν ω : Type}

section Jumps

variable {vm : Vm ν ω} {rounds : Nat} {place : Place} {pos label target thenAt finish loopStart : Nat}
  {program : Bytes} {slots : Nat → ν} {known tested before : Assertion ν} {frame : Frame Int64 ν ω}
  {state : VmState ν ω} {value : ν}

/-!
## Steps
-/

theorem Arrives.jumpIfFalse (vm : Vm ν ω) (decoded : Instr.decode program pos = some (.one .jumpIfFalse label))
    (arrives : Arrives place slots pos (onTop [value] known) frame state) :
    ∃ next, vm.step program state = .next next ∧
      Arrives place slots (if vm.operations.isTrue value then pos + 3 else label) known frame next := by
  obtain ⟨placed, world, holds, kept, rest, stacked, knows⟩ := arrives
  subst placed
  refine ⟨{ state with pos := if vm.operations.isTrue value then state.pos + 3 else label, stack := rest }, ?_,
    ⟨rfl, world, holds, kept, knows⟩⟩
  rw [Vm.step_decoded decoded]
  simp [Vm.execute, Instr.one, stacked, OpCode.operandLen]

theorem Arrives.jump (vm : Vm ν ω) (decoded : Instr.decode program pos = some (.one .jump target))
    (arrives : Arrives place slots pos known frame state) :
    ∃ next, vm.step program state = .next next ∧ Arrives place slots target known frame next := by
  obtain ⟨placed, world, holds, kept, knows⟩ := arrives
  subst placed
  refine ⟨{ state with pos := target }, ?_, ⟨rfl, world, holds, kept, knows⟩⟩
  rw [Vm.step_decoded decoded]
  rfl

/-!
## Conditionals
-/

variable {α : Type} {test : Run Int64 ν ω ν} {yes no : Run Int64 ν ω α} {after : α → Assertion ν}
  {testCode yesCode noCode bodyCode tailCode : Code}

theorem Executes.conditional
    (testRuns : Executes vm rounds place pos testCode before test fun value => onTop [value] tested)
    (thenPlaced : thenAt = pos + extent Instr.size testCode + 3)
    (yesRuns : Executes vm rounds place thenAt yesCode tested yes after)
    (labelled : label = thenAt + extent Instr.size yesCode + 3)
    (noRuns : Executes vm rounds place label noCode tested no after)
    (finished : finish = label + extent Instr.size noCode) :
    Executes vm rounds place pos
      (testCode ++ (.one .jumpIfFalse label :: (yesCode ++ .one .jump finish :: noCode))) before
      (do if vm.operations.isTrue (← test) then yes else no) after := by
  intro program frame start installed arrives
  have behind := installed.right
  have inYes : Installed program thenAt yesCode :=
    behind.tail.left.moved (by simp [thenPlaced, OpCode.operandLen])
  have jumps : Installed program (thenAt + extent Instr.size yesCode) (.one .jump finish :: noCode) :=
    behind.tail.right.moved (by simp [thenPlaced, OpCode.operandLen])
  have inNo : Installed program label noCode := jumps.tail.moved (by simp [labelled, OpCode.operandLen])
  have ends : pos + extent Instr.size
      (testCode ++ (.one .jumpIfFalse label :: (yesCode ++ .one .jump finish :: noCode))) = finish := by
    simp [finished, labelled, thenPlaced, OpCode.operandLen]
    omega
  rw [ends]
  apply (testRuns program frame start installed.left arrives).bind
  intro value left middle arrived
  obtain ⟨next, moved, reached⟩ := arrived.jumpIfFalse vm behind.head
  apply Follows.silent moved
  split
  case isTrue holds =>
    rw [if_pos holds] at reached
    have entered := (reached.moved thenPlaced.symm).again
    apply (yesRuns program left next inYes entered).extend
    intro result last done arrived'
    obtain ⟨final, moved', reached'⟩ := arrived'.jump vm jumps.head
    exact ⟨final, moved', reached'.since reached.kept⟩
  case isFalse fails =>
    rw [if_neg fails] at reached
    apply (noRuns program left next inNo reached.again).mono
    intro result last done arrived'
    rw [finished]
    exact arrived'.since reached.kept

/-!
## Loops
-/

/-- Code in a loop: the machine comes to its end, or goes back to the start of the loop, unless it leaves the
loop. -/
def Turns {τ : Type} (vm : Vm ν ω) (rounds : Nat) (place : Place) (pos : Nat) (code : Code) (loopStart finish : Nat)
    (before : Assertion ν) (run : Run Int64 ν ω τ) (again : τ → Bool) (known : Assertion ν) : Prop :=
  ∀ program frame start, Installed program pos code → Arrives place start.slots pos before frame start →
    Follows (vm.step program) .threw rounds run frame start fun value left state =>
      if again value then
        Arrives place start.slots (pos + extent Instr.size code) known left state ∨
          ∃ next, vm.step program state = .next next ∧ Arrives place start.slots loopStart known left next
      else Arrives place start.slots finish known left state

section Turns

variable {τ τ' β : Type} {run : Run Int64 ν ω τ} {again : τ → Bool} {again' : τ' → Bool} {front : Run Int64 ν ω β}
  {next : β → Run Int64 ν ω τ} {middle : β → Assertion ν} {first second code restCode : Code} {value' : τ}

theorem Turns.moved {pos' : Nat} (turns : Turns vm rounds place pos code loopStart finish before run again known)
    (same : pos = pos') : Turns vm rounds place pos' code loopStart finish before run again known := same ▸ turns

theorem Turns.congr {run' : Run Int64 ν ω τ}
    (turns : Turns vm rounds place pos code loopStart finish before run again known) (same : run = run') :
    Turns vm rounds place pos code loopStart finish before run' again known := same ▸ turns

/-- Code that takes no part in the loop, before what does. -/
theorem Turns.behind (runs : Executes vm rounds place pos first before front middle)
    (rest : ∀ value, Turns vm rounds place (pos + extent Instr.size first) second loopStart finish (middle value)
      (next value) again known) :
    Turns vm rounds place pos (first ++ second) loopStart finish before (front >>= next) again known := by
  intro program frame start installed arrives
  apply (runs program frame start installed.left arrives).bind
  intro value left state arrived
  apply (rest value program left state installed.right arrived.again).mono
  intro result last done reached
  split
  case isTrue holds =>
    rw [if_pos holds] at reached
    rw [extent_append, ← Nat.add_assoc]
    rcases reached with atEnd | back
    · exact .inl (atEnd.since arrived.kept)
    · obtain ⟨next, moved, reached⟩ := back
      exact .inr ⟨next, moved, reached.since arrived.kept⟩
  case isFalse fails =>
    rw [if_neg fails] at reached
    exact reached.since arrived.kept

/-- Code that takes no part in the loop. -/
theorem Executes.turns (runs : Executes vm rounds place pos code before front fun _ => known) (goes : again value') :
    Turns vm rounds place pos code loopStart finish before (do
      let _ ← front
      pure value') again known := by
  intro program frame start installed arrives
  apply (runs program frame start installed arrives).bind
  intro value left state arrived
  apply Follows.pure
  rw [if_pos goes]
  exact .inl arrived

/-- A guard that goes back to the start of the loop or leaves it, before the rest of the code. -/
theorem Turns.guard (testRuns : Executes vm rounds place pos testCode before test fun value => onTop [value] tested)
    (bodyRuns : Executes vm rounds place (pos + extent Instr.size testCode + 3) bodyCode tested front fun _ => known)
    (labelled : label = pos + extent Instr.size testCode + 3 + extent Instr.size bodyCode + 3)
    (aims : again value' = true ∧ target = loopStart ∨ again value' = false ∧ target = finish)
    (rest : Turns vm rounds place label restCode loopStart finish tested run again known) :
    Turns vm rounds place pos
      ((testCode ++ (.one .jumpIfFalse label :: (bodyCode ++ [.one .jump target]))) ++ restCode) loopStart finish
      before
      (do
        if vm.operations.isTrue (← test) then do
          let _ ← front
          pure value'
        else run)
      again known := by
  intro program frame start installed arrives
  have guarded := installed.left
  have behind := guarded.right
  have inBody : Installed program (pos + extent Instr.size testCode + 3) bodyCode :=
    behind.tail.left.moved (by simp [OpCode.operandLen])
  have jumps : Installed program (pos + extent Instr.size testCode + 3 + extent Instr.size bodyCode)
      [.one .jump target] := behind.tail.right.moved (by simp [OpCode.operandLen])
  have ends : pos + extent Instr.size
      (testCode ++ (.one .jumpIfFalse label :: (bodyCode ++ [.one .jump target]))) = label := by
    simp [labelled, OpCode.operandLen]
    omega
  have inRest := installed.right.moved ends
  apply (testRuns program frame start guarded.left arrives).bind
  intro value left state arrived
  obtain ⟨next, moved, reached⟩ := arrived.jumpIfFalse vm behind.head
  apply Follows.silent moved
  split
  case isTrue holds =>
    rw [if_pos holds] at reached
    apply (bodyRuns program left next inBody reached.again).bind
    intro result last done arrived'
    obtain ⟨final, moved', reached'⟩ := arrived'.jump vm jumps.head
    have since := reached'.since reached.kept
    rcases aims with ⟨goes, rfl⟩ | ⟨leaves, rfl⟩
    · apply Follows.pure
      rw [if_pos goes]
      exact .inr ⟨final, moved', since⟩
    · apply Follows.silent moved'
      apply Follows.pure
      rw [if_neg (by simp [leaves])]
      exact since
  case isFalse fails =>
    rw [if_neg fails] at reached
    apply (rest program left next inRest reached.again).mono
    intro result last done reached'
    rw [extent_append, ← Nat.add_assoc, ends]
    split
    case isTrue goes =>
      rw [if_pos goes] at reached'
      rcases reached' with atEnd | back
      · exact .inl (atEnd.since reached.kept)
      · obtain ⟨again, moved', reached'⟩ := back
        exact .inr ⟨again, moved', reached'.since reached.kept⟩
    case isFalse leaves =>
      rw [if_neg leaves] at reached'
      exact reached'.since reached.kept

/-- What the computation makes of the result. -/
theorem Turns.map {convert : τ → τ'} (turns : Turns vm rounds place pos code loopStart finish before run again known)
    (same : ∀ value, again' (convert value) = again value) :
    Turns vm rounds place pos code loopStart finish before (do pure (convert (← run))) again' known := by
  intro program frame start installed arrives
  apply (turns program frame start installed arrives).bind
  intro value left state reached
  apply Follows.pure
  rw [same]
  exact reached

theorem Turns.withVar {id : Int64} {held : ν} {slot : Nat} (sound : place.Sound) (unused : place.free ≤ slot)
    (turns : Turns vm rounds (place.bind id slot) pos code loopStart finish before run again known) :
    Turns vm rounds place pos code loopStart finish (holding slot held before) (Run.withVar id held run) again
      known := by
  intro program frame start installed arrives
  apply Follows.withVar
  apply (turns program _ start installed arrives.enter).mono
  intro value left state reached
  split
  case isTrue goes =>
    rw [if_pos goes] at reached
    rcases reached with atEnd | back
    · exact .inl (arrives.exit sound unused atEnd)
    · obtain ⟨next, moved, reached⟩ := back
      exact .inr ⟨next, moved, arrives.exit sound unused reached⟩
  case isFalse leaves =>
    rw [if_neg leaves] at reached
    exact arrives.exit sound unused reached

/-- A loop, and what follows it. -/
theorem Executes.cycle {round : Run Int64 ν ω (Option Unit)} {tail : Run Int64 ν ω α}
    (testRuns : Executes vm rounds place pos testCode known test fun value => onTop [value] known)
    (thenPlaced : thenAt = pos + extent Instr.size testCode + 3)
    (turns : Turns vm rounds place thenAt bodyCode pos finish known round Option.isNone known)
    (finished : finish = thenAt + extent Instr.size bodyCode + 3)
    (tailRuns : Executes vm rounds place finish tailCode known tail after) :
    Executes vm rounds place pos
      (testCode ++ (.one .jumpIfFalse finish :: (bodyCode ++ .one .jump pos :: tailCode))) known
      (do
        Run.cycle (do if vm.operations.isTrue (← test) then round else pure (some ())) rounds
        tail)
      after := by
  intro program frame start installed arrives
  have behind := installed.right
  have inBody : Installed program thenAt bodyCode :=
    behind.tail.left.moved (by simp [thenPlaced, OpCode.operandLen])
  have jumps : Installed program (thenAt + extent Instr.size bodyCode) (.one .jump pos :: tailCode) :=
    behind.tail.right.moved (by simp [thenPlaced, OpCode.operandLen])
  have inTail : Installed program finish tailCode := jumps.tail.moved (by simp [finished, OpCode.operandLen])
  have looped : Follows (vm.step program) .threw rounds
      (Run.cycle (do if vm.operations.isTrue (← test) then round else pure (some ())) rounds) frame start
      fun _ left state => Arrives place start.slots finish known left state := by
    apply Follows.cycle (fun left state => Arrives place start.slots pos known left state) _
      (Nat.le_refl rounds) arrives
    intro frame' start' here
    apply (testRuns program frame' start' installed.left here.again).bind
    intro value left state arrived
    obtain ⟨next, moved, reached⟩ := arrived.jumpIfFalse vm behind.head
    have since := reached.since here.kept
    apply Follows.silent moved
    split
    case isTrue holds =>
      rw [if_pos holds] at since
      have entered := since.moved thenPlaced.symm
      apply (turns program left next inBody entered.again).mono
      intro result last done reached'
      cases result with
      | none =>
          rcases reached' with atEnd | back
          · -- the jump back to the start of the loop
            obtain ⟨first, moved', again⟩ := atEnd.jump vm jumps.head
            exact ⟨first, moved', again.since entered.kept⟩
          · obtain ⟨first, moved', again⟩ := back
            exact ⟨first, moved', again.since entered.kept⟩
      | some _ => exact reached'.since entered.kept
    case isFalse fails =>
      rw [if_neg fails] at since
      exact .pure since
  apply looped.bind
  intro _ left state arrived
  apply (tailRuns program left state inTail arrived.again).mono
  intro result last done reached
  have ends : pos + extent Instr.size
      (testCode ++ (.one .jumpIfFalse finish :: (bodyCode ++ .one .jump pos :: tailCode))) =
      finish + extent Instr.size tailCode := by
    simp [finished, thenPlaced, OpCode.operandLen]
    omega
  rw [ends]
  exact reached.since arrived.kept

end Turns

end Jumps

end CodePush.Compiler
