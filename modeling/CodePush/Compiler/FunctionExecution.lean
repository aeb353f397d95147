import CodePush.Compiler.Acceptance
import CodePush.Compiler.IterationExecution

/-!
# The code of a function executes the meaning of its source

A function that compiles, called with arguments on an empty stack, ends exactly as the meaning of its body does:
with the same value, with the same thrown value, or not at all. The machine never comes to an instruction that it
cannot execute.
-/

set_option autoImplicit false

namespace CodePush.Compiler

open CodePush.Core CodePush.Bytecode CodePush.Foundation CodePush.Foundation.Action
  CodePush.Foundation.Assembly RestrictedBytecodeCompiler

variable {ν ω : Type}

/-!
## All expressions
-/

section Expressions

variable {limits : Limits} {operations : Operations ν ω} {arguments : Nat → ν} {rounds : Nat}

/-- The code of an expression leaves its value. -/
theorem compileExpr_realized {expr : Expr} (distinct : expr.All DistinctIds) (stacked : expr.All Expr.StackedNode) :
    Realized limits operations arguments rounds expr := by
  induction stacked with
  | @node expr here _ ih =>
      have below : ∀ child ∈ expr.children, Realized limits operations arguments rounds child :=
        fun child member => ih child member ((Expr.all_iff.mp distinct).2 child member)
      refine ⟨compileExpr_restores distinct, ?_⟩
      intro place sound
      obtain ⟨later, node⟩ := here
      cases expr with
      | const constant => exact pushesAt_const constant
      | arg name => exact pushesAt_arg name
      | letLocal id => exact pushesAt_letLocal id
      | letIn locals body =>
          simp only [Expr.children, List.forall_mem_append, List.forall_mem_map, List.forall_mem_singleton] at below
          exact pushesAt_letIn sound below.1 below.2
      | setLocal id value => exact pushesAt_setLocal sound (below _ (by simp [Expr.children])) id
      | whileLoop =>
          obtain ⟨conditionOk, continueOk, breakOk, bodyOk⟩ := forall_whileLoop.mp below
          exact pushesAt_whileLoop sound conditionOk bodyOk continueOk breakOk
      | less left right =>
          apply pushesAt_binary sound (below right (by simp [Expr.children])) (below left (by simp [Expr.children]))
          · exact later left (by simp [Expr.laterOperands])
          · exact appliesAt_binary .greater
          · rfl
          · rfl
          · simp [Expr.children]
      | binary operator left right =>
          apply pushesAt_binary sound (below left (by simp [Expr.children])) (below right (by simp [Expr.children]))
          · exact later right (by simp [Expr.laterOperands])
          · exact appliesAt_binary operator
          · rfl
          · rfl
          · simp [Expr.children]
      | conditional condition thenExpr elseExpr =>
          exact pushesAt_conditional sound (below _ (by simp [Expr.children])) (below _ (by simp [Expr.children]))
            (below _ (by simp [Expr.children]))
      | throw value => exact pushesAt_throw sound (below _ (by simp [Expr.children]))
      | seq items =>
          apply LeavesIn.form (pushesAt_seqItems sound below)
          · rfl
          · rfl
          · exact fun tidy => (Expr.all_iff.mp tidy).2
      | yield value => exact pushesAt_yield sound (below _ (by simp [Expr.children]))
      | yieldAll source => exact pushesAt_yieldAll sound (below _ (by simp [Expr.children]))
      | yieldForIn source item beforeBreak breakCondition body =>
          simp only [Expr.children, List.forall_mem_cons, List.forall_mem_append] at below
          exact pushesAt_yieldForIn sound below.1 item below.2.2.1 below.2.1
      | await value =>
          exact pushesAt_unary sound (below value (by simp [Expr.children])) appliesAt_await rfl rfl
            (by simp [Expr.children])
      | tryFinally | tryCatch => exact node.elim
      | call kind target args => exact pushesAt_call sound below kind target later
      | callDynamic receiver method names args =>
          simp only [Expr.children, List.forall_mem_cons] at below
          exact pushesAt_callDynamic sound below.1 below.2 method names later
      | callClosure closure names args =>
          simp only [Expr.children, List.forall_mem_cons] at below
          exact pushesAt_callClosure sound below.1 below.2 names later
      | makeClosure closure captures => exact pushesAt_makeClosure sound below closure later node
      | newObject constructor typeNames names args =>
          exact pushesAt_newObject sound below constructor typeNames names later
      | concat parts => exact pushesAt_concat sound below later
      | list items => exact pushesAt_list sound below later
      | map entries => exact pushesAt_map sound below later
      | addAll kind receiver spread =>
          exact pushesAt_addAll sound (below _ (by simp [Expr.children])) (below _ (by simp [Expr.children])) kind
            (later spread (by simp [Expr.laterOperands]))
      | listForIn receiver source =>
          exact pushesAt_listForIn sound (below _ (by simp [Expr.children])) (below _ (by simp [Expr.children]))
      | listForInMapped receiver source item value =>
          exact pushesAt_listForInMapped sound (below _ (by simp [Expr.children])) (below _ (by simp [Expr.children]))
            (below _ (by simp [Expr.children])) item (later value (by simp [Expr.laterOperands]))
      | mapForIn receiver source =>
          exact pushesAt_mapForIn sound (below _ (by simp [Expr.children])) (below _ (by simp [Expr.children]))
      | mapForInMapped receiver source entry key value =>
          exact pushesAt_mapForInMapped sound (below _ (by simp [Expr.children])) (below _ (by simp [Expr.children]))
            (below _ (by simp [Expr.children])) (below _ (by simp [Expr.children])) entry
            (later key (by simp [Expr.laterOperands])) (later value (by simp [Expr.laterOperands]))
      | getField receiver field =>
          exact pushesAt_unary sound (below receiver (by simp [Expr.children]))
            (appliesAt_named (.inl ⟨rfl, rfl, rfl⟩)) rfl rfl (by simp [Expr.children])
      | setField receiver field value =>
          have applies : AppliesAt limits True operations arguments rounds place (named .setField field) 2
              (.setField field) := appliesAt_named (.inr (.inl ⟨rfl, rfl, rfl⟩))
          apply pushesAt_binary sound (below receiver (by simp [Expr.children])) (below value (by simp [Expr.children]))
          · exact later value (by simp [Expr.laterOperands])
          · exact applies
          · rfl
          · rfl
          · simp [Expr.children]
      | isType value type =>
          exact pushesAt_unary sound (below value (by simp [Expr.children]))
            (appliesAt_named (.inr (.inr (.inl ⟨rfl, rfl, rfl⟩)))) rfl rfl (by simp [Expr.children])
      | asType value type =>
          exact pushesAt_unary sound (below value (by simp [Expr.children]))
            (appliesAt_named (.inr (.inr (.inr ⟨rfl, rfl, rfl⟩)))) rfl rfl (by simp [Expr.children])

end Expressions

/-!
## Functions
-/

/-- Where the compilation of a function starts: the slots of its parameters are taken, and there are no locals. -/
def Place.entry (params : List String) : Place where
  params := params
  scopes := fun _ => none
  free := params.length + 1

theorem Place.sound_entry (params : List String) : (Place.entry params).Sound where
  taken := by
    intro id slot found
    cases found
  apart := by
    intro id other slot found
    cases found

section Functions

variable {operations : Operations ν ω} {arguments slots : Nat → ν} {rounds : Nat} {params : List String}
  {body : Expr} {asyncKind : AsyncKind} {after : RestrictedBytecodeCompiler}

/-- The last instruction returns what the body has left. -/
theorem step_closing {vm : Vm ν ω} {program : Bytes} {state : VmState ν ω} {value : ν} {rest : List ν}
    (decoded : Instr.decode program state.pos = some (closing asyncKind)) (stacked : state.stack = value :: rest) :
    vm.step program state = .halted (.returned value state.world) := by
  rw [Vm.step_decoded decoded]
  cases asyncKind
  all_goals simp [Vm.execute, closing, Instr.plain, stacked]

theorem compileBody_follows (few : params.length ≤ 255) (distinct : body.All DistinctIds)
    (stacked : body.All Expr.StackedNode) (compiled : compileBody body asyncKind (start params) = (.ok (), after))
    (frame : Frame Int64 ν ω) :
    Follows (Vm.step ⟨operations, after.constants, arguments⟩ after.code) .threw rounds
      (meaning operations.machine ((Place.entry params).argument arguments) rounds body) frame
      ⟨0, [], slots, frame.world⟩ fun value left finish =>
        Vm.step ⟨operations, after.constants, arguments⟩ after.code finish = .halted (.returned value left.world) := by
  have bodyRestores := compileExpr_restores distinct
  have leaves : PushesAt after.used True operations arguments rounds (Place.entry params) (fun _ => True)
      (compileExpr body) (meaning operations.machine ((Place.entry params).argument arguments) rounds body)
      (body.All Expr.TidyNode) :=
    (compileExpr_realized distinct stacked).pushes (Place.entry params) (Place.sound_entry params)
  have closes : Emits after.used True (op (if asyncKind = .asyncFuture then .asyncReturn else .return))
      fun _ code => code = [closing asyncKind] := by
    apply emits_op
    · split
      · rfl
      · rfl
    · exact fun _ => rfl
  have whole : Emits after.used True (startingAt (Place.entry params) (compileBody body asyncKind)) fun pos code =>
      ∃ head, code = head ++ [closing asyncKind] ∧
        Pushes (after.used.vm operations arguments) rounds (Place.entry params) (fun _ => True) pos head
          (meaning operations.machine ((Place.entry params).argument arguments) rounds body)
          (body.All Expr.TidyNode) := by
    apply emitsAt_andThen leaves (closes.startingAt _)
    intro _ head tail leaves same
    exact ⟨head, by rw [same], leaves⟩
  have sound : (start params).Sound := sound_start few
  have here : (Place.entry params).Here (start params) := ⟨rfl, rfl, Nat.le_refl _⟩
  obtain ⟨code, progress⟩ := ((whole _ (sound.ready _) fun _ => trivial).congr (startingAt_here here).symm).of_ok compiled
  obtain ⟨head, split, leaves⟩ := progress.known within_used
  have bytes : after.code = [] ++ (assemble code ++ []) := by
    rw [progress.emitted]
    simp [start]
  have installed : Installed after.code 0 code := by
    intro pos instr placed
    have fits : instr.Fits := by
      obtain ⟨front, back, same, -⟩ := placed
      have member : instr ∈ head ++ [closing asyncKind] := by
        rw [← split, same]
        simp
      rcases List.mem_append.mp member with member | member
      · exact leaves.fits instr member
      · rw [List.mem_singleton.mp member]
        cases asyncKind
        all_goals exact ⟨rfl, rfl⟩
    rw [bytes]
    exact Instr.decode_placed placed fits
  rw [split] at installed
  have absorbs : (Place.entry params).Absorbs (body.All Expr.TidyNode) (fun (_ : List ν) (_ : Nat → ν) => True) :=
    ⟨fun _ _ _ _ _ => trivial, fun _ _ _ _ _ => trivial⟩
  have unbound : (Place.entry params).Holds frame.vars slots := by
    intro id slot found
    cases found
  have arrives : Arrives (Place.entry params) slots 0 (fun _ _ => True) frame ⟨0, [], slots, frame.world⟩ :=
    ⟨rfl, rfl, unbound, fun _ _ => rfl, trivial⟩
  apply (leaves.fetch absorbs (fun _ _ _ => trivial) _ frame _ installed.left arrives).mono
  intro value left finish arrived
  obtain ⟨rest, stacked, -⟩ := arrived.known
  have closed : Instr.decode after.code finish.pos = some (closing asyncKind) := by
    rw [arrived.placed]
    exact installed.right.head
  rw [← arrived.world]
  exact step_closing closed stacked

/-- Where the compilation of a function ended. -/
theorem compileSourceFunction_ended {lib : DartLib} {source : List (String × Object)} {location : Option String}
    {spec : FunctionSpec} (compiled : compileSourceFunction lib source location = .ok spec)
    (declared : sourceParams lib source = .ok params) (parsed : sourceBody lib source = .ok body) :
    ∃ after, params.length ≤ 255 ∧ compileBody body spec.asyncKind (start params) = (.ok (), after) ∧
      spec.code = after.code ∧ spec.constants = after.constants := by
  obtain ⟨params', paramsFound, compiled⟩ := except_bind_eq_ok.mp compiled
  obtain rfl := Except.ok.inj (declared.symm.trans paramsFound)
  obtain ⟨name, _, compiled⟩ := except_bind_eq_ok.mp compiled
  obtain ⟨few, compiled⟩ := except_guard_eq_ok.mp compiled
  obtain ⟨body', bodyFound, compiled⟩ := except_bind_eq_ok.mp compiled
  obtain rfl := Except.ok.inj (parsed.symm.trans bodyFound)
  dsimp only at compiled
  split at compiled
  · cases compiled
  case h_2 after ended =>
    cases compiled
    exact ⟨after, Nat.not_lt.mp few, ended, rfl, rfl⟩

section Calls

variable {lib : DartLib} {source : List (String × Object)} {location : Option String} {spec : FunctionSpec}
  {step : VmState ν ω → Move (VmState ν ω) (VmResult ν ω)}

/-- A call follows the body of the source. The machine may do anything where the instructions of the compiler are
not enough to tell. -/
theorem compileSourceFunction_follows (compiled : compileSourceFunction lib source location = .ok spec)
    (declared : sourceParams lib source = .ok params) (parsed : sourceBody lib source = .ok body)
    (distinct : body.All DistinctIds) (stacked : body.All Expr.StackedNode)
    (agrees : ∀ state, Vm.step ⟨operations, spec.constants, arguments⟩ spec.code state ≠ .stuck →
      step state = Vm.step ⟨operations, spec.constants, arguments⟩ spec.code state) (frame : Frame Int64 ν ω) :
    Follows step .threw rounds (meaning operations.machine ((Place.entry params).argument arguments) rounds body) frame
      ⟨0, [], slots, frame.world⟩ fun value left finish => step finish = .halted (.returned value left.world) := by
  obtain ⟨after, few, ended, sameCode, sameConstants⟩ := compileSourceFunction_ended compiled declared parsed
  rw [sameCode, sameConstants] at agrees
  have machine : Follows (Vm.step ⟨operations, after.constants, arguments⟩ after.code) .threw rounds
      (meaning operations.machine ((Place.entry params).argument arguments) rounds body) frame
      ⟨0, [], slots, frame.world⟩ _ := compileBody_follows few distinct stacked ended frame
  apply (machine.extended agrees).mono
  intro value left finish halted
  exact (agrees finish (by simp [halted])).trans halted

/-- A compiled function ends as its body means, and never comes to an instruction that cannot be executed. -/
theorem function_executes (compiled : compileSourceFunction lib source location = .ok spec)
    (declared : sourceParams lib source = .ok params) (parsed : sourceBody lib source = .ok body)
    (distinct : body.All DistinctIds) (stacked : body.All Expr.StackedNode) (operations : Operations ν ω)
    (arguments slots : Nat → ν) (vars : Int64 → ν) (world : ω)
    (step : VmState ν ω → Move (VmState ν ω) (VmResult ν ω))
    (agrees : ∀ state, Vm.step ⟨operations, spec.constants, arguments⟩ spec.code state ≠ .stuck →
      step state = Vm.step ⟨operations, spec.constants, arguments⟩ spec.code state) :
    (∀ result, Halts step ⟨0, [], slots, world⟩ result ↔ ∃ rounds,
      conclusion .returned .threw (meaning operations.machine ((Place.entry params).argument arguments) rounds body
        ⟨vars, world⟩) = some result) ∧
      ¬ Sticks step ⟨0, [], slots, world⟩ := by
  have follows : ∀ rounds, Follows step .threw rounds
      (meaning operations.machine ((Place.entry params).argument arguments) rounds body) ⟨vars, world⟩
      ⟨0, [], slots, world⟩ fun value left finish => step finish = .halted (.returned value left.world) :=
    fun rounds => compileSourceFunction_follows compiled declared parsed distinct stacked agrees ⟨vars, world⟩
  exact ⟨fun _ => halts_iff follows, never_sticks follows⟩

end Calls

end Functions

/-- `var i = 0; while (i < n) i = i + 1; return i;`. -/
def countingSource : List (String × Object) :=
  [("name", .string "count"), ("params", .list [.string "n"]),
    ("body", .map [("let", .map [
      ("locals", .list [.map [("id", .int 1), ("value", .map [("int", .int 0)])]]),
      ("body", .map [("seq", .list [
        .map [("while_loop", .map [
          ("condition", .map [("op", .string "<"), ("left", .map [("let_local", .int 1)]),
            ("right", .map [("arg", .string "n")])]),
          ("body", .map [("set_local", .map [("id", .int 1),
            ("value", .map [("op", .string "+"), ("left", .map [("let_local", .int 1)]),
              ("right", .map [("int", .int 1)])])])])])],
        .map [("let_local", .int 1)]])])])])]

/-- `+` and `>` on numbers. -/
def countingOperations : Operations Nat Unit where
  const := fun constant => match constant.value with
    | .int value => value.toNatClampNeg
    | _ => 0
  isTrue := fun value => value != 0
  perform := fun opcode _ operands world => match opcode, operands with
    | .add, [left, right] => (.ok (left + right), world)
    | .greater, [left, right] => (.ok (if right < left then 1 else 0), world)
    | _, _ => (.ok 0, world)

def counting : Expr :=
  .letIn [(⟨1, none⟩, .const ⟨.int, .int 0⟩)] (.seq [
    .whileLoop (.less (.letLocal 1) (.arg "n")) none none none none none none
      (.setLocal 1 (.binary .add (.letLocal 1) (.const ⟨.int, .int 1⟩))),
    .letLocal 1])

theorem counting_distinct : counting.All DistinctIds := by
  unfold counting
  repeat' first
    | apply Expr.All.node
    | apply And.intro
    | simp only [Expr.children, Expr.guardParts, List.map_cons, List.map_nil, List.nil_append,
        List.cons_append, List.forall_mem_cons, List.not_mem_nil, IsEmpty.forall_iff, implies_true, and_true]
    | exact trivial
    | exact List.pairwise_singleton _ _

theorem counting_stacked : counting.All Expr.StackedNode := by
  unfold counting
  repeat' first
    | apply Expr.All.node
    | apply And.intro
    | simp only [Expr.children, Expr.laterOperands, Expr.guardParts, List.map_cons, List.map_nil,
        List.nil_append, List.cons_append, List.forall_mem_cons, List.not_mem_nil, IsEmpty.forall_iff, implies_true,
        and_true]
    | exact trivial

theorem counting_executes :
    ∃ spec, compileSourceFunction textLib countingSource none = .ok spec ∧
      Halts (Vm.step ⟨countingOperations, spec.constants, fun _ => 2⟩ spec.code) ⟨0, [], fun _ => 0, ()⟩
        (.returned 2 ()) := by
  obtain ⟨spec, compiled⟩ : ∃ spec, compileSourceFunction textLib countingSource none = .ok spec := ⟨_, rfl⟩
  have declared : sourceParams textLib countingSource = .ok ["n"] := rfl
  have parsed : sourceBody textLib countingSource = .ok counting := rfl
  have executes := (function_executes compiled declared parsed counting_distinct counting_stacked countingOperations
    (fun _ => 2) (fun _ => 0) (fun _ => 0) () _ fun _ _ => rfl).1 (.returned 2 ())
  exact ⟨spec, compiled, executes.mpr ⟨3, rfl⟩⟩

end CodePush.Compiler
