import CodePush.Compiler.Placement
import CodePush.Compiler.StackMachine

/-!
# Pieces of code that execute a computation

The machine runs a piece of code from its start to its end as a computation goes, with the locals of the
computation in the slots that the scopes name. What is known of the stack is an assertion; assertions may also be
about slots that no local has, which no piece of code changes below its free ones.
-/

set_option autoImplicit false

namespace CodePush.Compiler

open CodePush.Core CodePush.Bytecode CodePush.Foundation CodePush.Foundation.Assembly

/-!
## What is known
-/

/-- What is known of the stack and of the slots. -/
abbrev Assertion (ν : Type) := List ν → (Nat → ν) → Prop

section Assertions

variable {ν ω : Type} {place : Place} {values more : List ν} {value : ν} {slot : Nat} {tidy tidy' : Prop}
  {known weaker : Assertion ν} {stack : List ν} {slots : Nat → ν}

/-- The values are on top, the last one first. -/
def onTop (values : List ν) (known : Assertion ν) : Assertion ν := fun stack slots =>
  ∃ rest, stack = values.reverse ++ rest ∧ known rest slots

/-- The slot has the value. -/
def holding (slot : Nat) (value : ν) (known : Assertion ν) : Assertion ν := fun stack slots =>
  known stack slots ∧ slots slot = value

theorem onTop_nil : onTop [] known stack slots ↔ known stack slots := by
  simp [onTop]

theorem onTop_onTop : onTop more (onTop values known) stack slots ↔ onTop (values ++ more) known stack slots := by
  constructor
  · intro found
    obtain ⟨rest, rfl, rest', rfl, holds⟩ := found
    exact ⟨rest', by simp, holds⟩
  · intro found
    obtain ⟨rest, rfl, holds⟩ := found
    exact ⟨values.reverse ++ rest, by simp, rest, rfl, holds⟩

theorem onTop_imp (implied : ∀ stack slots, known stack slots → weaker stack slots)
    (found : onTop values known stack slots) : onTop values weaker stack slots := by
  obtain ⟨rest, same, holds⟩ := found
  exact ⟨rest, same, implied _ _ holds⟩

namespace Place

/-- The locals have their values. -/
def Holds (place : Place) (vars : Int64 → ν) (slots : Nat → ν) : Prop :=
  ∀ id slot, place.scopes id = some slot → slots slot = vars id

/-- The slot is taken, but not by a local. -/
def Reserved (place : Place) (slot : Nat) : Prop := slot < place.free ∧ ∀ id, place.scopes id ≠ some slot

/-- Only reserved slots count. -/
def Stable (place : Place) (known : Assertion ν) : Prop :=
  ∀ stack slots slots', (∀ slot, place.Reserved slot → slots' slot = slots slot) → known stack slots → known stack slots'

theorem Reserved.above (reserved : place.Reserved slot) {other : Nat} (unused : place.free ≤ other) :
    (place.above other).Reserved slot :=
  ⟨Nat.lt_of_lt_of_le reserved.1 (Nat.le_succ_of_le unused), reserved.2⟩

theorem Reserved.bind (reserved : place.Reserved slot) {other : Nat} (unused : place.free ≤ other) (id : Int64) :
    (place.bind id other).Reserved slot := by
  constructor
  · exact Nat.lt_of_lt_of_le reserved.1 (Nat.le_succ_of_le unused)
  · intro local' found
    by_cases same : local' = id
    · subst same
      rw [scopes_bind_self] at found
      have below := Nat.lt_of_lt_of_le reserved.1 unused
      cases found
      omega
    · rw [scopes_bind_other same] at found
      exact reserved.2 local' found

/-- A new slot is not a local's. -/
theorem Sound.reserved (sound : place.Sound) (unused : place.free ≤ slot) : (place.above slot).Reserved slot := by
  constructor
  · exact Nat.lt_succ_self slot
  · intro id found
    exact absurd (sound.taken found) (Nat.not_lt.mpr unused)

theorem stable_onTop (stable : place.Stable known) (values : List ν) : place.Stable (onTop values known) := by
  intro stack slots slots' kept found
  obtain ⟨rest, same, holds⟩ := found
  exact ⟨rest, same, stable rest slots slots' kept holds⟩

theorem stable_holding (stable : place.Stable known) (reserved : place.Reserved slot) (value : ν) :
    place.Stable (holding slot value known) := by
  intro stack slots slots' kept found
  exact ⟨stable stack slots slots' kept found.1, (kept slot reserved).trans found.2⟩

theorem Stable.above (stable : place.Stable known) {other : Nat} (unused : place.free ≤ other) :
    (place.above other).Stable known :=
  fun stack slots slots' kept => stable stack slots slots' fun slot reserved => kept slot (reserved.above unused)

theorem Stable.bind (stable : place.Stable known) {other : Nat} (unused : place.free ≤ other) (id : Int64) :
    (place.bind id other).Stable known :=
  fun stack slots slots' kept => stable stack slots slots' fun slot reserved => kept slot (reserved.bind unused id)

/-- What is known stays so when values are left behind, unless the code is tidy. -/
structure Absorbs (place : Place) (tidy : Prop) (known : Assertion ν) : Prop where
  stable : place.Stable known
  absorbs : ∀ litter rest slots, (tidy → litter = []) → known rest slots → known (litter ++ rest) slots

theorem Absorbs.imp (absorbs : place.Absorbs tidy known) (implied : tidy → tidy') : place.Absorbs tidy' known :=
  ⟨absorbs.stable, fun litter rest slots empty => absorbs.absorbs litter rest slots fun clean => empty (implied clean)⟩

/-- Nothing may be left on top of operands. -/
theorem Absorbs.onTop (absorbs : place.Absorbs tidy known) (alone : values = [] ∨ tidy) :
    place.Absorbs tidy (onTop values known) := by
  constructor
  · exact stable_onTop absorbs.stable values
  · intro litter rest slots empty found
    rcases alone with rfl | clean
    · rw [onTop_nil] at found ⊢
      exact absorbs.absorbs litter rest slots empty found
    · rw [empty clean]
      exact found

theorem Absorbs.holding (absorbs : place.Absorbs tidy known) (reserved : place.Reserved slot) (value : ν) :
    place.Absorbs tidy (holding slot value known) := by
  constructor
  · exact stable_holding absorbs.stable reserved value
  · intro litter rest slots empty found
    exact ⟨absorbs.absorbs litter rest slots empty found.1, found.2⟩

theorem Absorbs.above (absorbs : place.Absorbs tidy known) {other : Nat} (unused : place.free ≤ other) :
    (place.above other).Absorbs tidy known := ⟨absorbs.stable.above unused, absorbs.absorbs⟩

theorem Absorbs.bind (absorbs : place.Absorbs tidy known) {other : Nat} (unused : place.free ≤ other) (id : Int64) :
    (place.bind id other).Absorbs tidy known := ⟨absorbs.stable.bind unused id, absorbs.absorbs⟩

end Place

/-- The machine has come to an offset, with the locals in their slots and the reserved slots as they were. -/
structure Arrives (place : Place) (before : Nat → ν) (pos : Nat) (known : Assertion ν) (frame : Frame Int64 ν ω)
    (state : VmState ν ω) : Prop where
  placed : state.pos = pos
  world : state.world = frame.world
  holds : place.Holds frame.vars state.slots
  kept : ∀ slot, place.Reserved slot → state.slots slot = before slot
  known : known state.stack state.slots

variable {before : Nat → ν} {pos : Nat} {frame : Frame Int64 ν ω} {state : VmState ν ω}

theorem Arrives.again (arrives : Arrives place before pos known frame state) :
    Arrives place state.slots pos known frame state := { arrives with kept := fun _ _ => rfl }

theorem Arrives.since {other : Nat → ν} (arrives : Arrives place before pos known frame state)
    (kept : ∀ slot, place.Reserved slot → before slot = other slot) : Arrives place other pos known frame state :=
  { arrives with kept := fun slot reserved => (arrives.kept slot reserved).trans (kept slot reserved) }

theorem Arrives.imp (arrives : Arrives place before pos known frame state)
    (implied : known state.stack state.slots → weaker state.stack state.slots) :
    Arrives place before pos weaker frame state :=
  { arrives with known := implied arrives.known }

theorem Arrives.moved {other : Nat} (arrives : Arrives place before pos known frame state) (same : pos = other) :
    Arrives place before other known frame state := same ▸ arrives

end Assertions

/-!
## Code in a program
-/

/-- The instructions of the code are where it stands in the program. -/
def Installed (program : Bytes) (pos : Nat) (code : Code) : Prop :=
  ∀ at' instr, Placed Instr.size pos code at' instr → Instr.decode program at' = some instr

section Installed

variable {program : Bytes} {pos : Nat} {first second code : Code} {instr : Instr}

theorem Installed.left (installed : Installed program pos (first ++ second)) : Installed program pos first :=
  fun at' instr placed => installed at' instr (placed_append.mpr (.inl placed))

theorem Installed.right (installed : Installed program pos (first ++ second)) :
    Installed program (pos + extent Instr.size first) second :=
  fun at' instr placed => installed at' instr (placed_append.mpr (.inr placed))

theorem Installed.head (installed : Installed program pos (instr :: code)) : Instr.decode program pos = some instr :=
  installed pos instr ⟨[], code, rfl, rfl⟩

theorem Installed.tail (installed : Installed program pos (instr :: code)) :
    Installed program (pos + instr.size) code := by
  have whole : Installed program pos ([instr] ++ code) := installed
  have behind := whole.right
  simpa using behind

theorem Installed.moved {pos' : Nat} (installed : Installed program pos code) (same : pos = pos') :
    Installed program pos' code := same ▸ installed

end Installed

/-!
## Pieces
-/

variable {ν ω : Type}

/-- The machine runs the code as the computation goes. -/
def Executes {α : Type} (vm : Vm ν ω) (rounds : Nat) (place : Place) (pos : Nat) (code : Code)
    (before : Assertion ν) (run : Run Int64 ν ω α) (after : α → Assertion ν) : Prop :=
  ∀ program frame start, Installed program pos code → Arrives place start.slots pos before frame start →
    Follows (vm.step program) .threw rounds run frame start fun value left finish =>
      Arrives place start.slots (pos + extent Instr.size code) (after value) left finish

section Pieces

variable {vm : Vm ν ω} {rounds : Nat} {place : Place} {pos : Nat} {code first second : Code} {instr : Instr}
  {before before' known : Assertion ν} {α β : Type} {run run' : Run Int64 ν ω α} {next : α → Run Int64 ν ω β}
  {after after' : α → Assertion ν} {behind : β → Assertion ν} {value : α} {slot : Nat}

theorem Executes.nothing (implied : ∀ stack slots, before stack slots → after value stack slots) :
    Executes vm rounds place pos [] before (pure value) after :=
  fun _ _ _ _ arrives => .pure (arrives.imp (implied _ _))

theorem Executes.imp (executes : Executes vm rounds place pos code before run after)
    (stronger : ∀ stack slots, before' stack slots → before stack slots)
    (weaker : ∀ value stack slots, after value stack slots → after' value stack slots) :
    Executes vm rounds place pos code before' run after' := by
  intro program frame start installed arrives
  apply (executes program frame start installed (arrives.imp (stronger _ _))).mono
  intro value left finish arrived
  exact arrived.imp (weaker value _ _)

theorem Executes.moved {pos' : Nat} (executes : Executes vm rounds place pos code before run after)
    (same : pos = pos') : Executes vm rounds place pos' code before run after := same ▸ executes

theorem Executes.congr (executes : Executes vm rounds place pos code before run after) (same : run = run') :
    Executes vm rounds place pos code before run' after := same ▸ executes

theorem Executes.append (left : Executes vm rounds place pos first before run after)
    (right : ∀ value, Executes vm rounds place (pos + extent Instr.size first) second (after value) (next value) behind) :
    Executes vm rounds place pos (first ++ second) before (run >>= next) behind := by
  intro program frame start installed arrives
  apply (left program frame start installed.left arrives).bind
  intro value middle finish arrived
  apply (right value program middle finish installed.right arrived.again).mono
  intro result last state reached
  rw [extent_append, ← Nat.add_assoc]
  exact reached.since arrived.kept

/-- Code whose result is known before it runs. -/
theorem Executes.andThen {following : Run Int64 ν ω β}
    (left : Executes vm rounds place pos first before (pure value) after)
    (right : Executes vm rounds place (pos + extent Instr.size first) second (after value) following behind) :
    Executes vm rounds place pos (first ++ second) before following behind := by
  intro program frame start installed arrives
  obtain ⟨steps, middle, taken, arrived⟩ := left program frame start installed.left arrives
  apply Follows.sooner _ (Nat.le_add_right rounds steps)
  apply Follows.later taken
  apply (right program frame middle installed.right arrived.again).mono
  intro result last state reached
  rw [extent_append, ← Nat.add_assoc]
  exact reached.since arrived.kept

/-- What the computation makes of the result. -/
theorem Executes.map {convert : α → β} (executes : Executes vm rounds place pos code before run after)
    (implied : ∀ value stack slots, after value stack slots → behind (convert value) stack slots) :
    Executes vm rounds place pos code before (do pure (convert (← run))) behind := by
  intro program frame start installed arrives
  apply (executes program frame start installed arrives).bind
  intro value left finish arrived
  apply Follows.pure
  exact arrived.imp (implied value _ _)

/-- A fact that is known where the code starts. -/
theorem Executes.given {fact : Prop} (executes : fact → Executes vm rounds place pos code before run after) :
    Executes vm rounds place pos code (fun stack slots => fact ∧ before stack slots) run after := by
  intro program frame start installed arrives
  exact executes arrives.known.1 program frame start installed (arrives.imp And.right)

/-- Fewer slots are free. -/
theorem Executes.lower (executes : Executes vm rounds (place.above slot) pos code before run after)
    (unused : place.free ≤ slot) : Executes vm rounds place pos code before run after := by
  intro program frame start installed arrives
  apply (executes program frame start installed { arrives with kept := fun _ _ => rfl }).mono
  intro value left finish arrived
  exact { arrived with kept := fun slot reserved => arrived.kept slot (reserved.above unused) }

/-!
### Locals
-/

section Locals

variable {id : Int64} {held : ν} {frame left : Frame Int64 ν ω} {start finish : VmState ν ω} {known' : Assertion ν}

theorem Arrives.enter (arrives : Arrives place start.slots pos (holding slot held known) frame start) :
    Arrives (place.bind id slot) start.slots pos known
      { frame with vars := Function.update frame.vars id held } start where
  placed := arrives.placed
  world := arrives.world
  kept := fun _ _ => rfl
  known := arrives.known.1
  holds := by
    intro other index found
    by_cases same : other = id
    · subst same
      rw [Place.scopes_bind_self] at found
      cases found
      show start.slots slot = Function.update frame.vars other held other
      rw [Function.update_self]
      exact arrives.known.2
    · rw [Place.scopes_bind_other same] at found
      show start.slots index = Function.update frame.vars id held other
      rw [Function.update_of_ne same]
      exact arrives.holds other index found

/-- The slot that the local had before is kept meanwhile. -/
theorem Arrives.exit {pos' : Nat} (sound : place.Sound) (unused : place.free ≤ slot)
    (arrives : Arrives place start.slots pos known frame start)
    (arrived : Arrives (place.bind id slot) start.slots pos' known' left finish) :
    Arrives place start.slots pos' known'
      { left with vars := Function.update left.vars id (frame.vars id) } finish where
  placed := arrived.placed
  world := arrived.world
  kept := fun slot reserved => arrived.kept slot (reserved.bind unused id)
  known := arrived.known
  holds := by
    intro other index found
    by_cases same : other = id
    · subst same
      have hidden : (place.bind other slot).Reserved index := by
        have below := Nat.lt_of_lt_of_le (sound.taken found) unused
        constructor
        · exact Nat.lt_succ_of_lt below
        · intro id' named
          by_cases same : id' = other
          · subst same
            rw [Place.scopes_bind_self] at named
            cases named
            omega
          · rw [Place.scopes_bind_other same] at named
            exact same (sound.apart named found)
      show finish.slots index = Function.update left.vars other (frame.vars other) other
      rw [Function.update_self, arrived.kept index hidden]
      exact arrives.holds other index found
    · show finish.slots index = Function.update left.vars id (frame.vars id) other
      rw [Function.update_of_ne same]
      apply arrived.holds
      rw [Place.scopes_bind_other same]
      exact found

/-- A local of its own for the part of the computation that has it. -/
theorem Executes.withVar (sound : place.Sound) (unused : place.free ≤ slot)
    (executes : Executes vm rounds (place.bind id slot) pos code before run after) :
    Executes vm rounds place pos code (holding slot held before) (Run.withVar id held run) after := by
  intro program frame start installed arrives
  apply Follows.withVar
  apply (executes program _ start installed arrives.enter).mono
  intro value left finish arrived
  exact arrives.exit sound unused arrived

end Locals

/-!
### Instructions
-/

/-- An instruction that only moves values to or from the stack. -/
theorem executes_silent (moves : ∀ state : VmState ν ω, before state.stack state.slots →
      ∃ stack, vm.execute instr state = .next { state with pos := state.pos + instr.size, stack } ∧
        after value stack state.slots) :
    Executes vm rounds place pos [instr] before (pure value) after := by
  intro program frame start installed arrives
  have decoded : Instr.decode program start.pos = some instr := by
    rw [arrives.placed]
    exact installed.head
  obtain ⟨stack, moved, holds⟩ := moves start arrives.known
  apply Follows.silent ((Vm.step_decoded decoded).trans moved)
  apply Follows.pure
  constructor
  · rw [arrives.placed]
    simp
  · exact arrives.world
  · exact arrives.holds
  · exact fun _ _ => rfl
  · exact holds

theorem executes_loadConst {index : Nat} {constant : ConstantSpec} (found : vm.constants[index]? = some constant) :
    Executes vm rounds place pos [.one .loadConst index] before (pure (vm.operations.const constant))
      fun value => onTop [value] before := by
  apply executes_silent
  intro state holds
  refine ⟨vm.operations.const constant :: state.stack, ?_, state.stack, rfl, holds⟩
  simp [Vm.execute, Instr.one, found]

theorem executes_loadArg {index : Nat} :
    Executes vm rounds place pos [.one .loadArg index] before (pure (vm.arguments index))
      fun value => onTop [value] before := by
  apply executes_silent
  intro state holds
  exact ⟨_, rfl, state.stack, rfl, holds⟩

/-- A slot that is known to hold a value. -/
theorem executes_loadSlot {held : ν} (holding : ∀ stack slots, before stack slots → slots slot = held) :
    Executes vm rounds place pos [.one .loadLocal slot] before (pure held) fun value => onTop [value] before := by
  apply executes_silent
  intro state holds
  refine ⟨held :: state.stack, ?_, state.stack, rfl, holds⟩
  rw [← holding _ _ holds]
  rfl

theorem executes_pop {top : ν} : Executes vm rounds place pos [.plain .pop] (onTop [top] known) (pure ()) fun _ => known := by
  apply executes_silent
  intro state holds
  obtain ⟨rest, stacked, holds⟩ := holds
  refine ⟨rest, ?_, holds⟩
  simp [Vm.execute, Instr.plain, stacked]

/-- The slot of a local. -/
theorem executes_loadLocal {id : Int64} (named : place.scopes id = some slot) :
    Executes vm rounds place pos [.one .loadLocal slot] before (Run.read id) fun value => onTop [value] before := by
  intro program frame start installed arrives
  have decoded : Instr.decode program start.pos = some (.one .loadLocal slot) := by
    rw [arrives.placed]
    exact installed.head
  apply Follows.silent (Vm.step_decoded decoded)
  apply Follows.read
  constructor
  · rw [arrives.placed]
    rfl
  · exact arrives.world
  · exact arrives.holds
  · exact fun _ _ => rfl
  · refine ⟨start.stack, ?_, arrives.known⟩
    rw [← arrives.holds id slot named]
    rfl

/-- A local that is written to. -/
theorem executes_storeLocal {id : Int64} {held : ν} (sound : place.Sound) (stable : place.Stable known)
    (named : place.scopes id = some slot) :
    Executes vm rounds place pos [.one .storeLocal slot] (onTop [held] known) (Run.write id held) fun _ => known := by
  intro program frame start installed arrives
  have decoded : Instr.decode program start.pos = some (.one .storeLocal slot) := by
    rw [arrives.placed]
    exact installed.head
  obtain ⟨rest, stacked, holds⟩ := arrives.known
  have kept : ∀ index, place.Reserved index → Function.update start.slots slot held index = start.slots index := by
    intro index reserved
    apply Function.update_of_ne
    intro same
    subst same
    exact reserved.2 id named
  have moved : vm.execute (.one .storeLocal slot) start =
      .next ⟨start.pos + Instr.size (.one .storeLocal slot), rest, Function.update start.slots slot held, start.world⟩ := by
    simp [Vm.execute, Instr.one, stacked]
  apply Follows.silent ((Vm.step_decoded decoded).trans moved)
  apply Follows.write
  constructor
  · rw [arrives.placed]
    rfl
  · exact arrives.world
  · intro other index found
    by_cases same : other = id
    · subst same
      cases named.symm.trans found
      simp
    · have apart : index ≠ slot := fun same' => same (sound.apart found (same' ▸ named))
      show Function.update start.slots slot held index = Function.update frame.vars id held other
      rw [Function.update_of_ne apart, Function.update_of_ne same]
      exact arrives.holds other index found
  · exact kept
  · exact stable rest _ _ kept holds

/-- A slot that no local has. -/
theorem executes_storeSlot {held : ν} (sound : place.Sound) (stable : place.Stable known) (unused : place.free ≤ slot) :
    Executes vm rounds place pos [.one .storeLocal slot] (onTop [held] known) (pure ()) fun _ =>
      holding slot held known := by
  intro program frame start installed arrives
  have decoded : Instr.decode program start.pos = some (.one .storeLocal slot) := by
    rw [arrives.placed]
    exact installed.head
  obtain ⟨rest, stacked, holds⟩ := arrives.known
  have kept : ∀ index, index < place.free → Function.update start.slots slot held index = start.slots index := by
    intro index taken
    apply Function.update_of_ne
    omega
  have moved : vm.execute (.one .storeLocal slot) start =
      .next ⟨start.pos + Instr.size (.one .storeLocal slot), rest, Function.update start.slots slot held, start.world⟩ := by
    simp [Vm.execute, Instr.one, stacked]
  apply Follows.silent ((Vm.step_decoded decoded).trans moved)
  apply Follows.pure
  constructor
  · rw [arrives.placed]
    rfl
  · exact arrives.world
  · intro other index found
    exact (kept index (sound.taken found)).trans (arrives.holds other index found)
  · exact fun index reserved => kept index reserved.1
  · exact ⟨stable rest _ _ (fun index reserved => kept index reserved.1) holds, Function.update_self ..⟩

/-- Nothing follows a `throw`. -/
theorem executes_throw {thrown : ν} :
    Executes vm rounds place pos [.plain .throw] (onTop [thrown] known) (Run.raise thrown : Run Int64 ν ω α) after := by
  intro program frame start installed arrives
  have decoded : Instr.decode program start.pos = some (.plain .throw) := by
    rw [arrives.placed]
    exact installed.head
  obtain ⟨rest, stacked, _⟩ := arrives.known
  apply Follows.raise
  rw [Vm.step_decoded decoded]
  simp [Vm.execute, Instr.plain, stacked, arrives.world]

section Operations

variable {primitive : Primitive} {operands : List ν} {opcode : OpCode}

/-- What the machine does with the operands on top. -/
theorem executes_operate {after : ν → Assertion ν} {text : String}
    (delegates : ∀ state : VmState ν ω, vm.execute instr state = vm.operate instr state)
    (operation : instr.operation vm.constants = some (opcode, text))
    (popped : instr.pops vm.constants = operands.length)
    (pushed : ∀ value rest slots, known rest slots →
      after value ((if instr.pushes = some 1 then [value] else []) ++ rest) slots) :
    Executes vm rounds place pos [instr] (onTop operands known)
      (Run.perform (vm.operations.perform opcode text operands)) after := by
  intro program frame start installed arrives
  have decoded : Instr.decode program start.pos = some instr := by
    rw [arrives.placed]
    exact installed.head
  obtain ⟨rest, stacked, holds⟩ := arrives.known
  have moved := (Vm.step_decoded decoded).trans ((delegates start).trans (Vm.operate_eq operation popped stacked))
  rw [arrives.world] at moved
  apply Follows.perform
  · intro value world performed
    rw [performed] at moved
    refine ⟨_, moved, ?_⟩
    constructor
    · show start.pos + instr.size = _
      rw [arrives.placed]
      simp
    · rfl
    · exact arrives.holds
    · exact fun _ _ => rfl
    · exact pushed value rest _ holds
  · intro value world performed
    rw [performed] at moved
    exact moved

theorem executes_apply (delegates : ∀ state : VmState ν ω, vm.execute instr state = vm.operate instr state)
    (operation : instr.operation vm.constants = some (primitive.opcode, primitive.text operands.length))
    (popped : instr.pops vm.constants = operands.length) (pushed : instr.pushes = some 1) :
    Executes vm rounds place pos [instr] (onTop operands known) (vm.operations.machine.apply primitive operands)
      fun value => onTop [value] known := by
  apply executes_operate delegates operation popped
  intro value rest slots holds
  rw [if_pos pushed]
  exact ⟨rest, rfl, holds⟩

/-- `yield` leaves no value. -/
theorem executes_yield {item : ν} :
    Executes vm rounds place pos [.plain .yield] (onTop [item] known) (vm.operations.machine.apply .yield [item])
      fun _ => known :=
  executes_operate (fun _ => rfl) rfl rfl fun _ _ _ holds => holds

end Operations

end Pieces

end CodePush.Compiler
