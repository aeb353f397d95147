import CodePush.Compiler.Expressions

/-!
# The operand stack

Along every path through the code of an expression the stack rises by one value, offsets
are always reached with the same depth, and nothing below the entry is taken, provided
that no node of the expression leaves values behind. Paths are those of the bytes, decoded
at the offsets they reach.
-/

set_option autoImplicit false

namespace CodePush.Compiler

open CodePush.Core CodePush.Bytecode CodePush.Foundation CodePush.Foundation.Action
  CodePush.Foundation.Assembly

/-!
## States between expressions
-/

namespace RestrictedBytecodeCompiler

/-- Scopes and debug names refer to slots that have been allocated. -/
structure Sound (compiler : RestrictedBytecodeCompiler) : Prop where
  params : compiler.params.length ≤ 255
  paramsBelow : compiler.params.length < compiler.localCount
  locals : compiler.localCount ≤ 256
  constants : compiler.constants.length ≤ 65536
  slots : ∀ id slot, compiler.scopedLocals id = some slot → slot < compiler.localCount
  debug : ∀ entry ∈ compiler.debugLocals, entry.1 < compiler.localCount
  fits : compiler.wrapped = false

/-- What a state has used. -/
def used (compiler : RestrictedBytecodeCompiler) : Limits where
  constants := compiler.constants
  params := compiler.params.length
  locals := compiler.localCount

variable {compiler : RestrictedBytecodeCompiler}

theorem within_used : compiler.Within compiler.used :=
  ⟨List.prefix_refl _, rfl, Nat.le_refl _⟩

theorem Sound.ready (sound : compiler.Sound) (limits : Limits) : compiler.Ready limits where
  params := sound.params
  paramsBelow := sound.paramsBelow
  locals := sound.locals
  constants := sound.constants
  slotsSmall := fun id slot found =>
    Nat.lt_of_lt_of_le (sound.slots id slot found) sound.locals
  slots := fun within id slot found =>
    Nat.lt_of_lt_of_le (sound.slots id slot found) within.locals
  debug := fun within entry member => Nat.lt_of_lt_of_le (sound.debug entry member) within.locals
  fits := sound.fits

theorem Ready.sound (ready : compiler.Ready compiler.used) : compiler.Sound where
  params := ready.params
  paramsBelow := ready.paramsBelow
  locals := ready.locals
  constants := ready.constants
  slots := ready.slots within_used
  debug := ready.debug within_used
  fits := ready.fits

theorem sound_start {params : List String} (few : params.length ≤ 255) : (start params).Sound where
  params := few
  paramsBelow := Nat.lt_succ_self _
  locals := by
    show params.length + 1 ≤ 256
    omega
  constants := Nat.zero_le _
  slots := by
    intro id slot found
    cases found
  debug := by
    intro entry member
    obtain ⟨⟨name, slot⟩, found, rfl⟩ := List.mem_map.mp member
    have inside := (List.mem_zipIdx' found).1
    show slot < params.length + 1
    omega
  fits := rfl

end RestrictedBytecodeCompiler

open RestrictedBytecodeCompiler

/-- What has been emitted for an expression, relative to what the compiler has used then. -/
theorem compileExpr_emits {expr : Expr} {now after : RestrictedBytecodeCompiler} (sound : now.Sound)
    (compiled : compileExpr expr now = (.ok (), after)) :
    ∃ code, after.Sound ∧ now.Grows after ∧ after.code = now.code ++ assemble code ∧
      Piece after.used now.code.length code 0 1 (expr.All Expr.TidyNode) (expr.All Expr.NamedNode) := by
  have ensured := compileExpr_compiled after.used expr now (sound.ready _) (fun _ => trivial)
  obtain ⟨code, progress⟩ := ensured.of_ok compiled
  exact ⟨code, progress.ready.sound, progress.grows, progress.emitted, progress.known within_used⟩

/-!
## Paths
-/

/-- One step between offsets with the depth of the stack; the path ends at `finish`. -/
inductive StackStep (constants : List ConstantSpec) (code : Bytes) (finish : Nat) :
    Nat × Nat → Nat × Nat → Prop where
  | next {pos depth count : Nat} {instr : Instr} (inside : pos < finish)
      (decoded : Instr.decode code pos = some instr) (pushed : instr.pushes = some count) :
      StackStep constants code finish (pos, depth)
        (pos + instr.size, depth - instr.pops constants + count)
  | branch {pos depth target count : Nat} {instr : Instr} (inside : pos < finish)
      (decoded : Instr.decode code pos = some instr)
      (branches : instr.branches = some (target, count)) :
      StackStep constants code finish (pos, depth)
        (target, depth - instr.pops constants + count)

/-- The states on the paths through a piece of code. -/
def StackReach (constants : List ConstantSpec) (code : Bytes) (finish : Nat) :
    Nat × Nat → Nat × Nat → Prop :=
  Relation.ReflTransGen (StackStep constants code finish)

/-- The code between two offsets puts one value on the stack. -/
structure Balanced (constants : List ConstantSpec) (code : Bytes) (start finish : Nat) : Prop where
  rises : ∀ entry depth, StackReach constants code finish (start, entry) (finish, depth) →
    depth = entry + 1
  joins : ∀ entry pos depth depth', StackReach constants code finish (start, entry) (pos, depth) →
    StackReach constants code finish (start, entry) (pos, depth') → depth = depth'
  above : ∀ entry pos depth instr, StackReach constants code finish (start, entry) (pos, depth) →
    pos < finish → Instr.decode code pos = some instr → entry + instr.pops constants ≤ depth

section Layout

variable {limits : Limits} {front : Bytes} {code : Code}

/-- Decoding finds the instructions that were assembled. -/
theorem decode_layout (linked : (linkRules limits).Typed [] front.length code () ()) {pos : Nat}
    {instr : Instr} (placed : Placed Instr.size front.length code pos instr) :
    Instr.decode (front ++ assemble code) pos = some instr := by
  obtain ⟨_, ⟨fits, _⟩, _⟩ := linked.placed placed
  have decoded : Instr.decode (front ++ (assemble code ++ [])) pos = some instr :=
    Instr.decode_placed placed fits
  simpa using decoded

theorem layout_reach {entry depth : Nat} {has : Nat → Nat → Prop}
    (layout : Rules.Layout (depthRules limits.constants entry) front.length code entry depth has)
    (linked : (linkRules limits).Typed [] front.length code () ()) {state : Nat × Nat}
    (reached : StackReach limits.constants (front ++ assemble code)
      (front.length + extent Instr.size code) (front.length, entry) state) :
    has state.1 state.2 := by
  induction reached with
  | refl => exact layout.atStart
  | tail _ step ih =>
      cases step with
      | next inside decoded pushed =>
          obtain ⟨instr, placed, _, ⟨after, next, found⟩, _⟩ := layout.step _ _ ih inside
          cases (decode_layout linked placed).symm.trans decoded
          rw [← next _ pushed]
          exact found
      | branch inside decoded branches =>
          obtain ⟨instr, placed, _, _, jumps⟩ := layout.step _ _ ih inside
          cases (decode_layout linked placed).symm.trans decoded
          exact jumps _ _ ⟨_, branches, rfl⟩

theorem Piece.isBalanced {tidy named : Prop} (piece : Piece limits front.length code 0 1 tidy named)
    (tidy : tidy) :
    Balanced limits.constants (front ++ assemble code) front.length
      (front.length + extent Instr.size code) := by
  have layouts : ∀ entry, ∃ has, Rules.Layout (depthRules limits.constants entry) front.length code
      entry (entry + 1) has :=
    fun entry => (piece.balanced tidy entry entry (Nat.le_refl _)).layout Instr.size_pos
  constructor
  · intro entry depth reached
    obtain ⟨has, layout⟩ := layouts entry
    exact layout.atEnd _ (layout_reach layout piece.linked reached)
  · intro entry pos depth depth' reached reached'
    obtain ⟨has, layout⟩ := layouts entry
    exact layout.unique pos _ _ (layout_reach layout piece.linked reached)
      (layout_reach layout piece.linked reached')
  · intro entry pos depth instr reached inside decoded
    obtain ⟨has, layout⟩ := layouts entry
    obtain ⟨found, placed, accepted, _, _⟩ := layout.step pos depth
      (layout_reach layout piece.linked reached) inside
    cases (decode_layout piece.linked placed).symm.trans decoded
    exact accepted

end Layout

/-!
## Expressions
-/

theorem tidy_expression_balanced {expr : Expr} {now after : RestrictedBytecodeCompiler}
    (sound : now.Sound) (tidy : expr.All Expr.TidyNode)
    (compiled : compileExpr expr now = (.ok (), after)) :
    Balanced after.constants after.code now.code.length after.code.length := by
  obtain ⟨code, _, _, emitted, piece⟩ := compileExpr_emits sound compiled
  have balanced := piece.isBalanced tidy
  rw [emitted, List.length_append, assemble_length]
  exact balanced

/-- The value of the body is kept in a slot while the finalizer runs. -/
theorem finally_with_value_balanced :
    ∃ after, compileExpr (.tryFinally (.arg "x") (.const .nothing) true) (start ["x"]) =
        (.ok (), after) ∧
      Balanced after.constants after.code 0 after.code.length := by
  have sound : (start ["x"]).Sound := sound_start (by decide)
  have compiled : compileExpr (.tryFinally (.arg "x") (.const .nothing) true) (start ["x"]) =
      (.ok (), (compileExpr (.tryFinally (.arg "x") (.const .nothing) true) (start ["x"])).2) := rfl
  refine ⟨_, compiled, tidy_expression_balanced sound ?_ compiled⟩
  refine .node rfl ?_
  intro child member
  simp only [Expr.children, List.mem_cons, List.not_mem_nil, or_false] at member
  rcases member with rfl | rfl
  · exact .node trivial (by simp [Expr.children])
  · exact .node trivial (by simp [Expr.children])

/-- The result of `addAll` stays below the list. -/
theorem spread_leaves_two_values :
    ¬ ∀ (expr : Expr) (now after : RestrictedBytecodeCompiler), now.Sound →
      compileExpr expr now = (.ok (), after) →
      Balanced after.constants after.code now.code.length after.code.length := by
  intro all
  have balanced := all (.addAll .list (.list []) (.list [])) (start []) _ (sound_start (by decide)) rfl
  have step : ∀ {pos depth : Nat} (instr : Instr) (count : Nat), pos < 16 →
      Instr.decode [0x40, 0, 0, 4, 1, 3, 1, 0x40, 0, 0, 0x51, 0, 0, 1, 3, 1] pos = some instr →
      instr.pushes = some count →
      StackStep [.text "addAll"] [0x40, 0, 0, 4, 1, 3, 1, 0x40, 0, 0, 0x51, 0, 0, 1, 3, 1] 16
        (pos, depth) (pos + instr.size, depth - instr.pops [.text "addAll"] + count) :=
    fun _ _ inside decoded pushed => .next inside decoded pushed
  have reached : StackReach [.text "addAll"]
      [0x40, 0, 0, 4, 1, 3, 1, 0x40, 0, 0, 0x51, 0, 0, 1, 3, 1] 16 (0, 0) (16, 2) :=
    .head (step (.one .makeList 0) 1 (by decide) rfl rfl)
      (.head (step (.one .storeLocal 1) 0 (by decide) rfl rfl)
        (.head (step (.one .loadLocal 1) 1 (by decide) rfl rfl)
          (.head (step (.one .makeList 0) 1 (by decide) rfl rfl)
            (.head (step ⟨.callDynamic, 0, 1⟩ 1 (by decide) rfl rfl)
              (.head (step (.one .loadLocal 1) 1 (by decide) rfl rfl) .refl)))))
  exact absurd (balanced.rises 0 2 reached) (by decide)

end CodePush.Compiler
