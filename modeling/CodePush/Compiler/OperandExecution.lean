import CodePush.Compiler.ControlExecution

/-!
# Operands and operations

Code that leaves values on the stack, and the instructions that take them from there. Code that leaves other
values behind below its own may only run where no operand lies on the stack yet.
-/

set_option autoImplicit false

namespace CodePush.Compiler

open CodePush.Core CodePush.Bytecode CodePush.Foundation CodePush.Foundation.Assembly

variable {ν ω : Type}

/-- The machine in a call of a function that ends within the limits. -/
def Limits.vm (limits : Limits) (operations : Operations ν ω) (arguments : Nat → ν) : Vm ν ω :=
  ⟨operations, limits.constants, arguments⟩

/-- The code leaves the values of the computation on top of what is known, if that tells enough of the slots. -/
structure Leaves {α : Type} (vm : Vm ν ω) (rounds : Nat) (place : Place) (slotted : (Nat → ν) → Prop) (pos : Nat)
    (code : Code) (run : Run Int64 ν ω α) (values : α → List ν) (count : Nat) (tidy : Prop) : Prop where
  fits : ∀ instr ∈ code, instr.Fits
  executes : ∀ known, place.Absorbs tidy known → (∀ stack slots, known stack slots → slotted slots) →
    Executes vm rounds place pos code known run fun result stack slots =>
      (values result).length = count ∧ onTop (values result) known stack slots

/-- The code leaves the value of the computation. -/
abbrev Pushes (vm : Vm ν ω) (rounds : Nat) (place : Place) (slotted : (Nat → ν) → Prop) (pos : Nat) (code : Code)
    (run : Run Int64 ν ω ν) (tidy : Prop) : Prop :=
  Leaves vm rounds place slotted pos code run (fun value => [value]) 1 tidy

/-- The code leaves no value of the computation. -/
abbrev Discards {α : Type} (vm : Vm ν ω) (rounds : Nat) (place : Place) (slotted : (Nat → ν) → Prop) (pos : Nat)
    (code : Code) (run : Run Int64 ν ω α) (tidy : Prop) : Prop :=
  Leaves vm rounds place slotted pos code run (fun _ => []) 0 tidy

/-- The code performs the operation on operands that are on the stack. -/
structure Applies (vm : Vm ν ω) (rounds : Nat) (place : Place) (pos : Nat) (code : Code) (count : Nat)
    (primitive : Primitive) : Prop where
  fits : ∀ instr ∈ code, instr.Fits
  executes : ∀ operands known, operands.length = count →
    Executes vm rounds place pos code (onTop operands known) (vm.operations.machine.apply primitive operands)
      fun value => onTop [value] known

/-- The code takes the value on top, and leaves the values of a computation about it. -/
structure Handles {α : Type} (vm : Vm ν ω) (rounds : Nat) (place : Place) (slotted : (Nat → ν) → Prop) (pos : Nat)
    (code : Code) (run : ν → Run Int64 ν ω α) (values : α → List ν) (count : Nat) (tidy : Prop) : Prop where
  fits : ∀ instr ∈ code, instr.Fits
  executes : ∀ operand known, place.Absorbs tidy known → (∀ stack slots, known stack slots → slotted slots) →
    Executes vm rounds place pos code (onTop [operand] known) (run operand) fun result stack slots =>
      (values result).length = count ∧ onTop (values result) known stack slots

section Values

variable {vm : Vm ν ω} {rounds : Nat} {place : Place} {slotted slotted' : (Nat → ν) → Prop} {pos : Nat}
  {code first second : Code} {α β γ : Type} {run : Run Int64 ν ω α} {run' : Run Int64 ν ω β} {values : α → List ν}
  {values' : β → List ν} {count count' slot : Nat} {one : Run Int64 ν ω ν} {tidy tidy' : Prop}
  {primitive : Primitive} {known : Assertion ν} {instr : Instr}

theorem Leaves.imp (leaves : Leaves vm rounds place slotted pos code run values count tidy)
    (implied : tidy' → tidy) (told : ∀ slots, slotted' slots → slotted slots) :
    Leaves vm rounds place slotted' pos code run values count tidy' :=
  ⟨leaves.fits, fun known absorbs tells =>
    leaves.executes known (absorbs.imp implied) fun stack slots found => told slots (tells stack slots found)⟩

theorem Leaves.congr {run' : Run Int64 ν ω α} (leaves : Leaves vm rounds place slotted pos code run values count tidy)
    (same : run = run') : Leaves vm rounds place slotted pos code run' values count tidy := same ▸ leaves

/-- What the computation makes of its result. -/
theorem Leaves.map {convert : α → β} (leaves : Leaves vm rounds place slotted pos code run values count tidy)
    (same : ∀ value, values' (convert value) = values value) :
    Leaves vm rounds place slotted pos code (do pure (convert (← run))) values' count tidy where
  fits := leaves.fits
  executes := by
    intro known absorbs tells
    apply (leaves.executes known absorbs tells).map
    intro value stack slots found
    rw [same]
    exact found

/-- The values of both, unless the code of the second leaves others between them. -/
theorem Leaves.andThen {combine : α → β → γ} {values'' : γ → List ν}
    (left : Leaves vm rounds place slotted pos first run values count tidy)
    (right : Leaves vm rounds place slotted (pos + extent Instr.size first) second run' values' count' tidy')
    (alone : count = 0 ∨ tidy')
    (joined : ∀ value value', values'' (combine value value') = values value ++ values' value') :
    Leaves vm rounds place slotted pos (first ++ second)
      (do
        let value ← run
        let value' ← run'
        pure (combine value value'))
      values'' (count + count') (tidy ∧ tidy') where
  fits := by
    rw [List.forall_mem_append]
    exact ⟨left.fits, right.fits⟩
  executes := by
    intro known absorbs tells
    apply (left.executes known (absorbs.imp And.left) tells).append
    intro value
    apply Executes.given
    intro counted
    have between : place.Absorbs tidy' (onTop (values value) known) :=
      (absorbs.imp And.right).onTop (alone.imp_left fun none => List.eq_nil_of_length_eq_zero (counted.trans none))
    have tells' : ∀ stack slots, onTop (values value) known stack slots → slotted slots := by
      intro stack slots found
      obtain ⟨rest, _, found⟩ := found
      exact tells rest slots found
    apply (right.executes _ between tells').map
    intro value' stack slots found
    obtain ⟨counted', found⟩ := found
    rw [joined]
    constructor
    · rw [List.length_append, counted, counted']
    · exact onTop_onTop.mp found

/-- The operands of an operation, and the operation. -/
theorem Leaves.operate (operands : Leaves vm rounds place slotted pos first run values count tidy)
    (applies : Applies vm rounds place (pos + extent Instr.size first) second count primitive) :
    Pushes vm rounds place slotted pos (first ++ second)
      (do vm.operations.machine.apply primitive (values (← run))) tidy where
  fits := by
    rw [List.forall_mem_append]
    exact ⟨operands.fits, applies.fits⟩
  executes := by
    intro known absorbs tells
    apply (operands.executes known absorbs tells).append
    intro value
    apply Executes.given
    intro counted
    apply (applies.executes _ known counted).imp
    · exact fun _ _ found => found
    · exact fun _ _ _ found => ⟨rfl, found⟩

/-- A value that is left behind. -/
theorem Leaves.leave (leaves : Pushes vm rounds place slotted pos code one tidy) :
    Discards vm rounds place slotted pos code one False where
  fits := leaves.fits
  executes := by
    intro known absorbs tells
    apply (leaves.executes known (absorbs.imp False.elim) tells).imp
    · exact fun _ _ found => found
    · intro value stack slots found
      obtain ⟨_, rest, stacked, found⟩ := found
      subst stacked
      exact ⟨rfl, onTop_nil.mpr (absorbs.absorbs _ rest slots False.elim found)⟩

/-- A value, and what is done with it. -/
theorem Leaves.handle {next : ν → Run Int64 ν ω β} (leaves : Pushes vm rounds place slotted pos first one tidy)
    (handles : Handles vm rounds place slotted (pos + extent Instr.size first) second next values' count' tidy') :
    Leaves vm rounds place slotted pos (first ++ second) (do next (← one)) values' count' (tidy ∧ tidy') where
  fits := by
    rw [List.forall_mem_append]
    exact ⟨leaves.fits, handles.fits⟩
  executes := by
    intro known absorbs tells
    apply (leaves.executes known (absorbs.imp And.left) tells).append
    intro value
    apply Executes.given
    intro _
    exact handles.executes value known (absorbs.imp And.right) tells

/-- Fewer slots are free. -/
theorem Leaves.lower (leaves : Leaves vm rounds (place.above slot) slotted pos code run values count tidy)
    (unused : place.free ≤ slot) : Leaves vm rounds place slotted pos code run values count tidy :=
  ⟨leaves.fits, fun known absorbs tells => (leaves.executes known (absorbs.above unused) tells).lower unused⟩

/-- Code that runs before anything else is on the stack. -/
theorem Leaves.fetch (leaves : Pushes vm rounds place slotted pos code one tidy) (absorbs : place.Absorbs tidy known)
    (tells : ∀ stack slots, known stack slots → slotted slots) :
    Executes vm rounds place pos code known one fun value => onTop [value] known :=
  (leaves.executes known absorbs tells).imp (fun _ _ found => found) fun _ _ _ found => found.2

theorem Leaves.drop (leaves : Discards vm rounds place slotted pos code run tidy) (absorbs : place.Absorbs tidy known)
    (tells : ∀ stack slots, known stack slots → slotted slots) :
    Executes vm rounds place pos code known run fun _ => known :=
  (leaves.executes known absorbs tells).imp (fun _ _ found => found) fun _ _ _ found => onTop_nil.mp found.2

/-- Something that is done first. -/
theorem Leaves.before (left : Discards vm rounds place slotted pos first run tidy)
    (right : Leaves vm rounds place slotted (pos + extent Instr.size first) second run' values' count' tidy') :
    Leaves vm rounds place slotted pos (first ++ second)
      (do
        let _ ← run
        run')
      values' count' (tidy ∧ tidy') where
  fits := by
    rw [List.forall_mem_append]
    exact ⟨left.fits, right.fits⟩
  executes := by
    intro known absorbs tells
    apply (left.drop (absorbs.imp And.left) tells).append
    exact fun _ => right.executes known (absorbs.imp And.right) tells

theorem leaves_nothing {value : α} (none : values value = []) :
    Leaves vm rounds place slotted pos [] (pure value) values 0 True where
  fits := by simp
  executes := by
    intro known _ _
    apply Executes.nothing
    intro stack slots found
    rw [none]
    exact ⟨rfl, onTop_nil.mpr found⟩

theorem fits_plain {opcode : OpCode} (alone : opcode.operandLen = 0) : ∀ instr ∈ [Instr.plain opcode], instr.Fits := by
  rw [List.forall_mem_singleton]
  simp [Instr.Fits, Instr.plain, alone]

theorem fits_local {opcode : OpCode} (single : opcode.operandLen = 1) (small : slot < 256) :
    ∀ instr ∈ [Instr.one opcode slot], instr.Fits := by
  rw [List.forall_mem_singleton]
  simp [Instr.Fits, Instr.one, single, small]

/-- A value that is not used. -/
theorem Leaves.pop (leaves : Pushes vm rounds place slotted pos code one tidy) :
    Discards vm rounds place slotted pos (code ++ [.plain .pop])
      (do
        let _ ← one
        pure ())
      tidy where
  fits := by
    rw [List.forall_mem_append]
    exact ⟨leaves.fits, fits_plain rfl⟩
  executes := by
    intro known absorbs tells
    apply (leaves.fetch absorbs tells).append
    intro value
    exact executes_pop.imp (fun _ _ found => found) fun _ _ _ found => ⟨rfl, onTop_nil.mpr found⟩

/-!
### Single instructions
-/

theorem pushes_single (fits : instr.Fits)
    (executes : ∀ known, (∀ stack slots, known stack slots → slotted slots) →
      Executes vm rounds place pos [instr] known one fun value => onTop [value] known) :
    Pushes vm rounds place slotted pos [instr] one True where
  fits := by simpa using fits
  executes := fun known _ tells =>
    (executes known tells).imp (fun _ _ found => found) fun _ _ _ found => ⟨rfl, found⟩

/-- A slot of which the value is known. -/
theorem pushes_slot {held : ν} (small : slot < 256) (told : ∀ slots, slotted slots → slots slot = held) :
    Pushes vm rounds place slotted pos [.one .loadLocal slot] (pure held) True :=
  pushes_single ⟨small, rfl⟩ fun _ tells => executes_loadSlot fun stack slots found => told slots (tells stack slots found)

theorem applies_single (fits : instr.Fits)
    (delegates : ∀ state : VmState ν ω, vm.execute instr state = vm.operate instr state)
    (operation : instr.operation vm.constants = some (primitive.opcode, primitive.text count))
    (popped : instr.pops vm.constants = count) (pushed : instr.pushes = some 1) :
    Applies vm rounds place pos [instr] count primitive where
  fits := by simpa using fits
  executes := by
    intro operands known counted
    subst counted
    exact executes_apply delegates operation popped pushed

end Values

/-!
## Emission
-/

/-- The action, where the compiler is at `here`, emits code that leaves the values of the computation at the
place. -/
abbrev LeavesIn {α : Type} (limits : Limits) (given : Prop) (operations : Operations ν ω) (arguments : Nat → ν)
    (rounds : Nat) (here place : Place) (slotted : (Nat → ν) → Prop) (action : Compile Unit) (run : Run Int64 ν ω α)
    (values : α → List ν) (count : Nat) (tidy : Prop) : Prop :=
  Emits limits given (startingAt here action) fun pos code =>
    Leaves (limits.vm operations arguments) rounds place slotted pos code run values count tidy

abbrev PushesIn (limits : Limits) (given : Prop) (operations : Operations ν ω) (arguments : Nat → ν) (rounds : Nat)
    (here place : Place) (slotted : (Nat → ν) → Prop) (action : Compile Unit) (run : Run Int64 ν ω ν) (tidy : Prop) :
    Prop :=
  LeavesIn limits given operations arguments rounds here place slotted action run (fun value => [value]) 1 tidy

abbrev DiscardsIn {α : Type} (limits : Limits) (given : Prop) (operations : Operations ν ω) (arguments : Nat → ν)
    (rounds : Nat) (here place : Place) (slotted : (Nat → ν) → Prop) (action : Compile Unit) (run : Run Int64 ν ω α)
    (tidy : Prop) : Prop :=
  LeavesIn limits given operations arguments rounds here place slotted action run (fun _ => []) 0 tidy

/-- The place is where the compiler is. -/
abbrev LeavesAt {α : Type} (limits : Limits) (given : Prop) (operations : Operations ν ω) (arguments : Nat → ν)
    (rounds : Nat) (place : Place) (slotted : (Nat → ν) → Prop) (action : Compile Unit) (run : Run Int64 ν ω α)
    (values : α → List ν) (count : Nat) (tidy : Prop) : Prop :=
  LeavesIn limits given operations arguments rounds place place slotted action run values count tidy

abbrev PushesAt (limits : Limits) (given : Prop) (operations : Operations ν ω) (arguments : Nat → ν) (rounds : Nat)
    (place : Place) (slotted : (Nat → ν) → Prop) (action : Compile Unit) (run : Run Int64 ν ω ν) (tidy : Prop) :
    Prop :=
  LeavesAt limits given operations arguments rounds place slotted action run (fun value => [value]) 1 tidy

abbrev DiscardsAt {α : Type} (limits : Limits) (given : Prop) (operations : Operations ν ω) (arguments : Nat → ν)
    (rounds : Nat) (place : Place) (slotted : (Nat → ν) → Prop) (action : Compile Unit) (run : Run Int64 ν ω α)
    (tidy : Prop) : Prop :=
  LeavesAt limits given operations arguments rounds place slotted action run (fun _ => []) 0 tidy

/-- The action emits code that performs the operation. -/
abbrev AppliesAt (limits : Limits) (given : Prop) (operations : Operations ν ω) (arguments : Nat → ν) (rounds : Nat)
    (place : Place) (action : Compile Unit) (count : Nat) (primitive : Primitive) : Prop :=
  Emits limits given action fun pos code =>
    Applies (limits.vm operations arguments) rounds place pos code count primitive

/-- The action emits code that handles the value on top. -/
abbrev HandlesAt {α : Type} (limits : Limits) (given : Prop) (operations : Operations ν ω) (arguments : Nat → ν)
    (rounds : Nat) (place : Place) (slotted : (Nat → ν) → Prop) (action : Compile Unit) (run : ν → Run Int64 ν ω α)
    (values : α → List ν) (count : Nat) (tidy : Prop) : Prop :=
  Emits limits given (startingAt place action) fun pos code =>
    Handles (limits.vm operations arguments) rounds place slotted pos code run values count tidy

section Emission

variable {limits : Limits} {given : Prop} {operations : Operations ν ω} {arguments : Nat → ν} {rounds : Nat}
  {here place : Place} {slotted slotted' : (Nat → ν) → Prop} {first second action : Compile Unit} {α β γ : Type}
  {run : Run Int64 ν ω α} {run' : Run Int64 ν ω β} {one : Run Int64 ν ω ν} {values : α → List ν}
  {values' : β → List ν} {count count' slot : Nat} {tidy tidy' : Prop} {primitive : Primitive}

theorem LeavesIn.imp
    (leaves : LeavesIn limits given operations arguments rounds here place slotted action run values count tidy)
    (implied : tidy' → tidy) (told : ∀ slots, slotted' slots → slotted slots) :
    LeavesIn limits given operations arguments rounds here place slotted' action run values count tidy' :=
  Emits.imp leaves fun _ _ leaves => leaves.imp implied told

theorem LeavesIn.andThen [Restores first] {combine : α → β → γ} {values'' : γ → List ν}
    (left : LeavesIn limits given operations arguments rounds here place slotted first run values count tidy)
    (right : LeavesIn limits given operations arguments rounds here place slotted second run' values' count' tidy')
    (alone : count = 0 ∨ tidy')
    (joined : ∀ value value', values'' (combine value value') = values value ++ values' value') :
    LeavesIn limits given operations arguments rounds here place slotted (first >>= fun _ => second)
      (do
        let value ← run
        let value' ← run'
        pure (combine value value'))
      values'' (count + count') (tidy ∧ tidy') :=
  emitsAt_andThen left right fun _ _ _ head tail => head.andThen tail alone joined

theorem LeavesIn.operate [Restores first]
    (operands : LeavesIn limits given operations arguments rounds here place slotted first run values count tidy)
    (applies : AppliesAt limits given operations arguments rounds place second count primitive) :
    PushesIn limits given operations arguments rounds here place slotted (first >>= fun _ => second)
      (do operations.machine.apply primitive (values (← run))) tidy :=
  emitsAt_andThen operands (applies.startingAt here) fun _ _ _ head tail => head.operate tail

theorem LeavesAt.handle [Restores first] {next : ν → Run Int64 ν ω β}
    (leaves : PushesAt limits given operations arguments rounds place slotted first one tidy)
    (handles : HandlesAt limits given operations arguments rounds place slotted second next values' count' tidy') :
    LeavesAt limits given operations arguments rounds place slotted (first >>= fun _ => second) (do next (← one))
      values' count' (tidy ∧ tidy') :=
  emitsAt_andThen leaves handles fun _ _ _ head tail => head.handle tail

theorem LeavesIn.before [Restores first]
    (left : DiscardsIn limits given operations arguments rounds here place slotted first run tidy)
    (right : LeavesIn limits given operations arguments rounds here place slotted second run' values' count' tidy') :
    LeavesIn limits given operations arguments rounds here place slotted (first >>= fun _ => second)
      (do
        let _ ← run
        run')
      values' count' (tidy ∧ tidy') :=
  emitsAt_andThen left right fun _ _ _ head tail => head.before tail

theorem leavesIn_nothing {value : α} (none : values value = []) :
    LeavesIn limits given operations arguments rounds here place slotted (pure ()) (pure value) values 0 True :=
  (emits_nothing fun _ => leaves_nothing none).startingAt here

theorem LeavesIn.pop [Restores action]
    (leaves : PushesIn limits given operations arguments rounds here place slotted action one tidy) :
    DiscardsIn limits given operations arguments rounds here place slotted (action >>= fun _ => op .pop)
      (do
        let _ ← one
        pure ())
      tidy := by
  have popped : Emits limits given (op .pop) fun _ code => code = [.plain .pop] := emits_op rfl fun _ => rfl
  apply emitsAt_andThen leaves (popped.startingAt here)
  intro _ head tail leaves same
  subst same
  exact leaves.pop

theorem pushesIn_loadConst (constant : ConstantSpec) :
    PushesIn limits given operations arguments rounds here place slotted (loadConst constant)
      (pure (operations.const constant)) True := by
  apply Emits.startingAt
  apply emits_loadConst
  intro _ index small found
  exact pushes_single ⟨small, rfl⟩ fun _ _ => executes_loadConst found

theorem pushesIn_slot {held : ν} (small : slot < 256) (told : ∀ slots, slotted slots → slots slot = held) :
    PushesIn limits given operations arguments rounds here place slotted (loadLocal slot) (pure held) True := by
  apply Emits.startingAt
  apply emits_local rfl small
  intro _ _
  exact pushes_slot small told

/-!
### Operations
-/

/-- An operation without operands in the code. -/
theorem appliesAt_op {opcode : OpCode} (alone : opcode.operandLen = 0)
    (delegates : ∀ state, (limits.vm operations arguments).execute (.plain opcode) state =
      (limits.vm operations arguments).operate (.plain opcode) state)
    (operation : (Instr.plain opcode).operation limits.constants = some (primitive.opcode, primitive.text count))
    (popped : (Instr.plain opcode).pops limits.constants = count) (pushed : (Instr.plain opcode).pushes = some 1) :
    AppliesAt limits given operations arguments rounds place (op opcode) count primitive := by
  apply emits_op alone
  intro _
  apply applies_single _ delegates operation popped pushed
  simp [Instr.Fits, Instr.plain, alone]

theorem appliesAt_binary (operator : BinaryOp) :
    AppliesAt limits given operations arguments rounds place (op operator.opcode) 2 (.binary operator) := by
  cases operator
  all_goals exact appliesAt_op rfl (fun _ => rfl) rfl rfl rfl

theorem appliesAt_await :
    AppliesAt limits given operations arguments rounds place (op .await) 1 .await :=
  appliesAt_op rfl (fun _ => rfl) rfl rfl rfl

/-- An operation that counts its operands. -/
theorem appliesAt_counted {opcode : OpCode} {operand : Nat} (small : operand < 65536)
    (counted : opcode = .makeList ∧ primitive = .list ∧ count = operand ∨
      opcode = .makeMap ∧ primitive = .map ∧ count = 2 * operand ∨
      opcode = .stringConcat ∧ primitive = .concat ∧ count = operand) :
    AppliesAt limits given operations arguments rounds place (op opcode >>= fun _ => u16 operand) count primitive := by
  rcases counted with ⟨rfl, rfl, rfl⟩ | ⟨rfl, rfl, rfl⟩ | ⟨rfl, rfl, rfl⟩
  all_goals
    apply emits_u16 rfl small
    intro _
    exact applies_single (Instr.fits_jump rfl small) (fun _ => rfl) rfl rfl rfl

/-- An operation with a text of the constant pool. -/
theorem appliesAt_named {opcode : OpCode} {text : String}
    (named : opcode = .getField ∧ primitive = .getField text ∧ count = 1 ∨
      opcode = .setField ∧ primitive = .setField text ∧ count = 2 ∨
      opcode = .isType ∧ primitive = .isType text ∧ count = 1 ∨
      opcode = .asType ∧ primitive = .asType text ∧ count = 1) :
    AppliesAt limits given operations arguments rounds place (Compiler.named opcode text) count primitive := by
  rcases named with ⟨rfl, rfl, rfl⟩ | ⟨rfl, rfl, rfl⟩ | ⟨rfl, rfl, rfl⟩ | ⟨rfl, rfl, rfl⟩
  all_goals
    apply emits_named rfl
    intro _ index small found
    apply applies_single (Instr.fits_jump rfl small) (fun _ => rfl) _ rfl rfl
    rw [← constantText_found found]
    rfl

theorem appliesAt_makeClosure (closure : ClosureSpec) {captures : Nat}
    (announced : closureCaptures (closure.text captures) = captures) :
    AppliesAt limits given operations arguments rounds place (named .makeClosure (closure.text captures)) captures
      (.makeClosure closure) := by
  apply emits_named rfl
  intro _ index small found
  have text := constantText_found found
  apply applies_single (Instr.fits_jump rfl small) (fun _ => rfl)
  · show some (OpCode.makeClosure, constantText limits.constants index) = _
    rw [text]
    rfl
  · show closureCaptures (constantText limits.constants index) = captures
    rw [text]
    exact announced
  · rfl

/-- A call with its target in the constant pool. -/
theorem applies_call {vm : Vm ν ω} {pos index argc : Nat} {opcode : OpCode} {text : String} (small : index < 65536)
    (few : argc < 256) (found : vm.constants[index]? = some (.text text)) (titled : primitive.text count = text)
    (calls : opcode = primitive.opcode ∧
      (opcode = .callStatic ∧ count = argc ∨ opcode = .callOriginal ∧ count = argc ∨
        opcode = .newObject ∧ count = argc ∨ opcode = .callDynamic ∧ count = argc + 1)) :
    Applies vm rounds place pos [⟨opcode, index, argc⟩] count primitive := by
  obtain ⟨same, calls⟩ := calls
  rw [← constantText_found found] at titled
  have operation : some (opcode, constantText vm.constants index) =
      some (primitive.opcode, primitive.text count) := by
    rw [titled, ← same]
  rcases calls with ⟨rfl, rfl⟩ | ⟨rfl, rfl⟩ | ⟨rfl, rfl⟩ | ⟨rfl, rfl⟩
  all_goals exact applies_single (Instr.fits_call rfl small few) (fun _ => rfl) operation rfl rfl

theorem appliesAt_newObject (constructor : String) (typeNames names : List String) {argc : Nat} (few : argc < 256) :
    AppliesAt limits given operations arguments rounds place
      (callNamed .newObject (constructorText constructor typeNames names) argc) argc
      (.newObject constructor typeNames names) := by
  apply emits_callNamed rfl _ few
  intro _ index small found
  exact applies_call small few found rfl ⟨rfl, .inr (.inr (.inl ⟨rfl, rfl⟩))⟩

theorem appliesAt_callDynamic (method : String) (names : List String) {argc : Nat} (few : argc < 256) :
    AppliesAt limits given operations arguments rounds place (callDynamic (method ++ namedSuffix names) argc)
      (argc + 1) (.callDynamic method names) := by
  apply emits_callNamed rfl _ few
  intro _ index small found
  exact applies_call small few found rfl ⟨rfl, .inr (.inr (.inr ⟨rfl, rfl⟩))⟩

/-- A call of the compiler's own. -/
theorem appliesAt_callMethod (method : String) {argc : Nat} (few : argc < 256) :
    AppliesAt limits given operations arguments rounds place (callDynamic method argc) (argc + 1)
      (.callDynamic method []) := by
  have same : method ++ namedSuffix [] = method := String.append_empty
  have applies : AppliesAt limits given operations arguments rounds place
      (callDynamic (method ++ namedSuffix []) argc) (argc + 1) (.callDynamic method []) :=
    appliesAt_callDynamic method [] few
  rwa [same] at applies

theorem appliesAt_call (kind : CallKind) (target : String) {argc : Nat} (few : argc < 256) :
    AppliesAt limits given operations arguments rounds place
      (do
        let calleeIndex ← addConst (.text target)
        op kind.opcode
        u16 calleeIndex
        u8 argc)
      argc (.call kind target) := by
  apply (prepares_addConst _).before
  intro index small
  apply emits_call (by cases kind <;> rfl) small few
  intro _ facts
  cases kind with
  | static => exact applies_call small few facts.2 rfl ⟨rfl, .inl ⟨rfl, rfl⟩⟩
  | original => exact applies_call small few facts.2 rfl ⟨rfl, .inr (.inl ⟨rfl, rfl⟩)⟩

theorem appliesAt_callClosure (names : List String) {argc : Nat} (few : argc < 256) :
    AppliesAt limits given operations arguments rounds place
      (do
        let metadataOperand ← closureMetadata names
        op .callClosure
        u16 metadataOperand
        u8 argc)
      (argc + 1) (.callClosure names) := by
  apply (prepares_closureMetadata names).before
  intro operand small
  apply emits_call rfl small few
  intro _ facts
  have text : (if operand = 0 then "" else constantText limits.constants (operand - 1)) =
      if names = [] then "" else namedSuffix names := by
    rcases facts.2 with ⟨none, zero⟩ | ⟨some, apart, found⟩
    · rw [if_pos zero, if_pos none]
    · rw [if_neg apart, if_neg some, constantText_found found]
  have operation : some (OpCode.callClosure, if operand = 0 then "" else constantText limits.constants (operand - 1)) =
      some (OpCode.callClosure, if names = [] then "" else namedSuffix names) := by
    rw [text]
  exact applies_single (Instr.fits_call rfl small few) (fun _ => rfl) operation rfl rfl

end Emission

end CodePush.Compiler
