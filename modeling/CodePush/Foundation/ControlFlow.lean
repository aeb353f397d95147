import CodePush.Foundation.Assembly

/-!
# The control flow of code

From which offset of the code execution may go on to which, whatever decides the jumps and raises the
exceptions. A handler is in force between the instruction that names it and its own offset. Code whose jumps
stay inside of it is entered at its start and left at its end, so that of two such pieces the first one is gone
through before the second.
-/

set_option autoImplicit false

namespace CodePush.Foundation.Assembly

/-- Whether an instruction goes on to the next, where else it may go, and which handler it installs. -/
structure Flow (ι : Type) where
  size : ι → Nat
  falls : ι → Bool
  jumps : ι → List Nat
  handler : ι → Option Nat
  positive : ∀ instr, 0 < size instr

/-- The offsets from `start` up to `finish`. -/
structure Block where
  start : Nat
  finish : Nat
  deriving Repr, DecidableEq

def Block.Contains (block : Block) (pos : Nat) : Prop := block.start ≤ pos ∧ pos < block.finish

namespace Flow

variable {ι : Type} (flow : Flow ι) (start : Nat) (code : List ι)

inductive Step : Nat → Nat → Prop where
  | next {pos : Nat} {instr : ι} (placed : Placed flow.size start code pos instr)
      (falls : flow.falls instr = true) : Step pos (pos + flow.size instr)
  | jump {pos target : Nat} {instr : ι} (placed : Placed flow.size start code pos instr)
      (member : target ∈ flow.jumps instr) : Step pos target
  | caught {pos tryAt handler : Nat} {instr tryInstr : ι} (placed : Placed flow.size start code pos instr)
      (tried : Placed flow.size start code tryAt tryInstr) (handles : flow.handler tryInstr = some handler)
      (behind : tryAt < pos) (before : pos < handler) : Step pos handler

/-- Execution may get from one offset to another. -/
def Leads : Nat → Nat → Prop := Relation.ReflTransGen (flow.Step start code)

/-- Execution may get from one offset to another without coming to `barrier`. -/
def Avoids (barrier source pos : Nat) : Prop :=
  source ≠ barrier ∧ Relation.ReflTransGen (fun pos pos' => flow.Step start code pos pos' ∧ pos' ≠ barrier) source pos

/-- Wherever execution is before the offset, it comes to the block by way of the offset only. -/
def Gate (gate : Nat) (block : Block) : Prop :=
  ∀ source pos, start ≤ source → source < gate → block.Contains pos → ¬ flow.Avoids start code gate source pos

/-- Execution comes to the second block by way of the start and of the end of the first one only, and never
gets back to the first one from there. -/
structure Precedes (first second : Block) : Prop where
  enters : flow.Gate start code first.start second
  leaves : flow.Gate start code first.finish second
  done : ∀ pos pos', second.Contains pos → first.Contains pos' → ¬ flow.Leads start code pos pos'

/-- The code goes nowhere but to instructions of its own and to its end. -/
def Closed : Prop :=
  ∀ pos instr, Placed flow.size start code pos instr →
    (∀ target ∈ flow.jumps instr, start ≤ target ∧ target ≤ start + extent flow.size code) ∧
      ∀ handler, flow.handler instr = some handler → start ≤ handler ∧ handler ≤ start + extent flow.size code

variable {flow start code} {first second : List ι} {pos pos' : Nat} {instr : ι}

theorem placed_bounds (placed : Placed flow.size start code pos instr) :
    start ≤ pos ∧ pos + flow.size instr ≤ start + extent flow.size code := by
  obtain ⟨before, after, rfl, rfl⟩ := placed
  simp only [extent_append, extent_cons]
  omega

theorem placed_of_early (placed : Placed flow.size start (first ++ second) pos instr)
    (early : pos < start + extent flow.size first) : Placed flow.size start first pos instr := by
  rcases placed_append.mp placed with inFirst | inSecond
  · exact inFirst
  · have bounds := placed_bounds inSecond
    omega

theorem placed_of_late (placed : Placed flow.size start (first ++ second) pos instr)
    (late : start + extent flow.size first ≤ pos) :
    Placed flow.size (start + extent flow.size first) second pos instr := by
  rcases placed_append.mp placed with inFirst | inSecond
  · have bounds := placed_bounds inFirst
    have positive := flow.positive instr
    omega
  · exact inSecond

theorem Closed.append (left : flow.Closed start first)
    (right : flow.Closed (start + extent flow.size first) second) : flow.Closed start (first ++ second) := by
  intro pos instr placed
  rw [extent_append]
  rcases placed_append.mp placed with inFirst | inSecond
  · obtain ⟨jumps, handlers⟩ := left pos instr inFirst
    constructor
    · intro target member
      have inside := jumps target member
      omega
    · intro handler handles
      have inside := handlers handler handles
      omega
  · obtain ⟨jumps, handlers⟩ := right pos instr inSecond
    constructor
    · intro target member
      have inside := jumps target member
      omega
    · intro handler handles
      have inside := handlers handler handles
      omega

section Parts

variable (left : flow.Closed start first) (step : flow.Step start (first ++ second) pos pos')

include left step

/-- From the first part execution goes on there, or to where the second part starts. -/
theorem Step.early (early : pos < start + extent flow.size first) : pos' ≤ start + extent flow.size first := by
  cases step with
  | next placed _ => exact (placed_bounds (placed_of_early placed early)).2
  | jump placed member => exact ((left _ _ (placed_of_early placed early)).1 _ member).2
  | caught _ tried handles behind _ =>
      exact ((left _ _ (placed_of_early tried (Nat.lt_trans behind early))).2 _ handles).2

/-- Handlers of the first part are in force inside of it only. -/
theorem Step.late (right : flow.Closed (start + extent flow.size first) second)
    (late : start + extent flow.size first ≤ pos) : start + extent flow.size first ≤ pos' := by
  cases step with
  | next placed _ => exact Nat.le_add_right_of_le late
  | jump placed member => exact ((right _ _ (placed_of_late placed late)).1 _ member).1
  | caught _ tried handles _ before =>
      rcases placed_append.mp tried with inFirst | inSecond
      · have limit := ((left _ _ inFirst).2 _ handles).2
        omega
      · exact ((right _ _ inSecond).2 _ handles).1

end Parts

variable {source : Nat}

theorem Avoids.early (left : flow.Closed start first) (before : source < start + extent flow.size first)
    (avoids : flow.Avoids start (first ++ second) (start + extent flow.size first) source pos) :
    pos < start + extent flow.size first := by
  obtain ⟨_, path⟩ := avoids
  induction path with
  | refl => exact before
  | tail _ step ih =>
      obtain ⟨step, apart⟩ := step
      exact Nat.lt_of_le_of_ne (step.early left ih) apart

theorem Leads.late (left : flow.Closed start first) (right : flow.Closed (start + extent flow.size first) second)
    (leads : flow.Leads start (first ++ second) source pos) (late : start + extent flow.size first ≤ source) :
    start + extent flow.size first ≤ pos := by
  induction leads with
  | refl => exact late
  | tail _ step ih => exact step.late left right ih

theorem gate_of_parts (left : flow.Closed start first) {later : Block}
    (starts : start + extent flow.size first ≤ later.start) :
    flow.Gate start (first ++ second) (start + extent flow.size first) later := by
  intro source pos _ before inside avoids
  have stays := avoids.early left before
  have enters := inside.1
  omega

/-- A part between two others, and a block in the last one. -/
theorem precedes_of_parts {middle : List ι} (left : flow.Closed start first)
    (inside : flow.Closed (start + extent flow.size first) middle)
    (right : flow.Closed (start + (extent flow.size first + extent flow.size middle)) second) {later : Block}
    (starts : start + (extent flow.size first + extent flow.size middle) ≤ later.start) :
    flow.Precedes start (first ++ middle ++ second)
      ⟨start + extent flow.size first, start + (extent flow.size first + extent flow.size middle)⟩ later := by
  have both := left.append inside
  rw [← extent_append] at right starts ⊢
  constructor
  · rw [List.append_assoc]
    apply gate_of_parts left
    rw [extent_append] at starts
    omega
  · exact gate_of_parts both starts
  · intro pos pos' within goal leads
    have stays := leads.late both right (Nat.le_trans starts within.1)
    have before := goal.2
    exact absurd stays (Nat.not_le_of_lt before)

end Flow

end CodePush.Foundation.Assembly
