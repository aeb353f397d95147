import CodePush.Compiler.OperandExecution

/-!
# The code of expressions executes their meaning

Every expression without protected code, whose operands behind the first one leave nothing behind, is compiled to
code that leaves the value of the expression on the stack: it calls the same operations with the same operands in
the same order, throws what the expression throws, and runs on where a loop of the expression runs on.
-/

set_option autoImplicit false

namespace CodePush.Compiler

open CodePush.Core CodePush.Bytecode CodePush.Foundation CodePush.Foundation.Action
  CodePush.Foundation.Assembly RestrictedBytecodeCompiler

variable {ν ω : Type}

namespace Expr

/-- The operands that are evaluated while others are on the stack. -/
def laterOperands : Expr → List Expr
  | .less left _ => [left]
  | .binary _ _ right | .setField _ _ right | .addAll _ _ right => [right]
  | .call _ _ items | .makeClosure _ items | .newObject _ _ _ items | .concat items | .list items => items.tail
  | .callDynamic _ _ _ args | .callClosure _ _ args => args
  | .map entries => (entries.flatMap fun entry => [entry.1, entry.2]).tail
  | .listForInMapped _ _ _ value => [value]
  | .mapForInMapped _ _ _ key value => [key, value]
  | _ => []

/-- The machine knows what the node's own code does: it is not protected, and no values are left behind between
operands. The constant of a closure announces its captures. -/
def StackedNode (expr : Expr) : Prop :=
  (∀ item ∈ expr.laterOperands, item.All TidyNode) ∧
    match expr with
    | .tryFinally _ _ _ | .tryCatch _ _ _ => False
    | .makeClosure closure captures => closureCaptures (closure.text captures.length) = captures.length
    | _ => True

end Expr

/-- The argument of a parameter. -/
def Place.argument (place : Place) (arguments : Nat → ν) (name : String) : ν :=
  arguments (((start place.params).argIndex name).getD 0)

/-- What is proved of every expression: its code leaves its value. -/
structure Realized (limits : Limits) (operations : Operations ν ω) (arguments : Nat → ν) (rounds : Nat)
    (expr : Expr) : Prop where
  restores : Restores (compileExpr expr)
  pushes : ∀ place : Place, place.Sound → PushesAt limits True operations arguments rounds place (fun _ => True)
    (compileExpr expr) (meaning operations.machine (place.argument arguments) rounds expr) (expr.All Expr.TidyNode)

section Expressions

variable {limits : Limits} {given : Prop} {operations : Operations ν ω} {arguments : Nat → ν} {rounds : Nat}
  {place : Place} {slotted : (Nat → ν) → Prop} {expr : Expr} {items : List Expr} {primitive : Primitive} {slot : Nat}

theorem Realized.here (realized : Realized limits operations arguments rounds expr) (sound : place.Sound) :
    PushesAt limits given operations arguments rounds place slotted (compileExpr expr)
      (meaning operations.machine (place.argument arguments) rounds expr) (expr.All Expr.TidyNode) :=
  (LeavesIn.imp (realized.pushes place sound) id fun _ _ => trivial).knowing fun _ => trivial

/-- The code of a form, as the compiler and the meaning have it. -/
theorem LeavesIn.form {action : Compile Unit} {run : Run Int64 ν ω ν} {tidy : Prop}
    (pushes : PushesAt limits given operations arguments rounds place slotted action run tidy)
    (compiled : action = compileExpr expr)
    (means : run = meaning operations.machine (place.argument arguments) rounds expr)
    (implied : expr.All Expr.TidyNode → tidy) :
    PushesAt limits given operations arguments rounds place slotted (compileExpr expr)
      (meaning operations.machine (place.argument arguments) rounds expr) (expr.All Expr.TidyNode) := by
  subst compiled
  subst means
  exact pushes.imp implied fun _ told => told

/-!
## Operands
-/

theorem meaningAll_cons (machine : Machine ν ω) (args : String → ν) (item : Expr) (items : List Expr) :
    meaningAll machine args rounds (item :: items) = (do
      let value ← meaning machine args rounds item
      let values ← meaningAll machine args rounds items
      pure (value :: values)) := rfl

/-- Two operands, before what follows them. -/
theorem compileAll_pair (left right : Expr) (next : Compile Unit) :
    (compileAll [left, right] >>= fun _ => next) =
      compileExpr left >>= fun _ => compileExpr right >>= fun _ => next := by
  have empty : compileAll [] = pure () := rfl
  simp only [compileAll_cons, empty, bind_assoc, pure_bind]

theorem meaningAll_pair {α : Type} (machine : Machine ν ω) (args : String → ν) (left right : Expr)
    (next : List ν → Run Int64 ν ω α) :
    (meaningAll machine args rounds [left, right] >>= next) = (do
      let first ← meaning machine args rounds left
      let second ← meaning machine args rounds right
      next [first, second]) := by
  have empty : meaningAll machine args rounds [] = pure [] := rfl
  simp only [meaningAll_cons, empty, bind_assoc, pure_bind]

section Operands

variable (realized : ∀ item ∈ items, Realized limits operations arguments rounds item) (sound : place.Sound)

include realized sound

theorem leavesAt_all (later : ∀ item ∈ items.tail, item.All Expr.TidyNode) :
    LeavesAt limits given operations arguments rounds place slotted (compileAll items)
      (meaningAll operations.machine (place.argument arguments) rounds items) id items.length
      (∀ item ∈ items, item.All Expr.TidyNode) := by
  induction items with
  | nil =>
      have none : LeavesAt limits given operations arguments rounds place slotted (pure ()) (pure []) id 0 True :=
        leavesIn_nothing rfl
      exact none.imp (fun _ => trivial) fun _ told => told
  | cons item items ih =>
      rw [compileAll_cons, meaningAll_cons]
      rw [List.forall_mem_cons] at realized
      have itemRestores := realized.1.restores
      have rest := ih realized.2 fun other member => later other (List.mem_of_mem_tail member)
      have both : LeavesAt limits given operations arguments rounds place slotted
          (compileExpr item >>= fun _ => compileAll items)
          (do
            let value ← meaning operations.machine (place.argument arguments) rounds item
            let values ← meaningAll operations.machine (place.argument arguments) rounds items
            pure (value :: values))
          id (1 + items.length) (item.All Expr.TidyNode ∧ ∀ item ∈ items, item.All Expr.TidyNode) :=
        (realized.1.here sound).andThen rest (.inr later) fun _ _ => rfl
      rw [Nat.add_comm] at both
      apply both.imp _ fun _ told => told
      rw [List.forall_mem_cons]
      exact id

/-- The operands, and the operation. -/
theorem pushesAt_operation {action : Compile Unit} (later : ∀ item ∈ items.tail, item.All Expr.TidyNode)
    (applies : AppliesAt limits given operations arguments rounds place action items.length primitive) :
    PushesAt limits given operations arguments rounds place slotted (compileAll items >>= fun _ => action)
      (do
        let operands ← meaningAll operations.machine (place.argument arguments) rounds items
        operations.machine.apply primitive operands)
      (∀ item ∈ items, item.All Expr.TidyNode) := by
  have itemsRestore : Restores (compileAll items) := restores_all fun item member => (realized item member).restores
  exact (leavesAt_all realized sound later).operate applies

/-- A form that counts its operands first. -/
theorem pushesAt_counted {action : Compile Unit} {count limit : Nat} {message : String}
    (later : ∀ item ∈ items.tail, item.All Expr.TidyNode)
    (applies : count ≤ limit →
      AppliesAt limits (given ∧ True) operations arguments rounds place action items.length primitive) :
    PushesAt limits given operations arguments rounds place slotted
      (ensureCount count limit message >>= fun _ => compileAll items >>= fun _ => action)
      (do
        let operands ← meaningAll operations.machine (place.argument arguments) rounds items
        operations.machine.apply primitive operands)
      (∀ item ∈ items, item.All Expr.TidyNode) := by
  apply emitsAt_before (prepares_ensureCount count limit message)
  intro _ few
  exact pushesAt_operation realized sound later (applies few)

end Operands

theorem meaningAll_entries (machine : Machine ν ω) (args : String → ν) (entries : List (Expr × Expr)) :
    (meaningEntries machine args rounds entries) =
      meaningAll machine args rounds (entries.flatMap fun entry => [entry.1, entry.2]) := by
  induction entries with
  | nil => rfl
  | cons entry entries ih =>
      obtain ⟨key, value⟩ := entry
      have unfolded : meaningEntries machine args rounds ((key, value) :: entries) = (do
          let key ← meaning machine args rounds key
          let value ← meaning machine args rounds value
          let values ← meaningEntries machine args rounds entries
          pure (key :: value :: values)) := rfl
      rw [unfolded, ih, List.flatMap_cons, List.cons_append, List.cons_append, List.nil_append, meaningAll_cons,
        meaningAll_cons]
      simp only [bind_assoc, pure_bind]

/-!
## Forms of operations
-/

section Forms

variable {receiver value left right : Expr} {entries : List (Expr × Expr)} (sound : place.Sound)
  (receiverOk : Realized limits operations arguments rounds receiver)
  (valueOk : Realized limits operations arguments rounds value)
  (leftOk : Realized limits operations arguments rounds left)
  (rightOk : Realized limits operations arguments rounds right)
  (itemsOk : ∀ item ∈ items, Realized limits operations arguments rounds item)

include sound

section Unary

variable {action : Compile Unit}

include valueOk in
/-- An operation on one value. -/
theorem pushesAt_unary (applies : AppliesAt limits given operations arguments rounds place action 1 primitive)
    (compiled : compileExpr expr = compileExpr value >>= fun _ => action)
    (means : meaning operations.machine (place.argument arguments) rounds expr = do
      let operand ← meaning operations.machine (place.argument arguments) rounds value
      operations.machine.apply primitive [operand])
    (child : value ∈ expr.children) :
    PushesAt limits given operations arguments rounds place slotted (compileExpr expr)
      (meaning operations.machine (place.argument arguments) rounds expr) (expr.All Expr.TidyNode) := by
  have valueRestores := valueOk.restores
  apply ((valueOk.here sound).operate applies).form
  · exact compiled.symm
  · exact means.symm
  · exact fun tidy => (Expr.all_iff.mp tidy).2 value child

include leftOk rightOk in
/-- An operation on two values. -/
theorem pushesAt_binary (later : right.All Expr.TidyNode)
    (applies : AppliesAt limits given operations arguments rounds place action 2 primitive)
    (compiled : compileExpr expr = compileExpr left >>= fun _ => compileExpr right >>= fun _ => action)
    (means : meaning operations.machine (place.argument arguments) rounds expr = do
      let first ← meaning operations.machine (place.argument arguments) rounds left
      let second ← meaning operations.machine (place.argument arguments) rounds right
      operations.machine.apply primitive [first, second])
    (child : left ∈ expr.children) :
    PushesAt limits given operations arguments rounds place slotted (compileExpr expr)
      (meaning operations.machine (place.argument arguments) rounds expr) (expr.All Expr.TidyNode) := by
  have operandsOk : ∀ item ∈ [left, right], Realized limits operations arguments rounds item := by
    simp [leftOk, rightOk]
  have laterOk : ∀ item ∈ [left, right].tail, item.All Expr.TidyNode := by simpa using later
  apply (pushesAt_operation operandsOk sound laterOk applies).form
  · rw [compiled, compileAll_pair]
  · rw [means, meaningAll_pair]
  · intro tidy
    have leftTidy := (Expr.all_iff.mp tidy).2 left child
    simp [leftTidy, later]

end Unary

include itemsOk

theorem pushesAt_call (kind : CallKind) (target : String) (later : ∀ item ∈ items.tail, item.All Expr.TidyNode) :
    PushesAt limits given operations arguments rounds place slotted (compileExpr (.call kind target items))
      (meaning operations.machine (place.argument arguments) rounds (.call kind target items))
      ((Expr.call kind target items).All Expr.TidyNode) := by
  apply (pushesAt_counted itemsOk sound later fun few => appliesAt_call kind target (Nat.lt_succ_of_le few)).form
  · rfl
  · rfl
  · exact fun tidy => (Expr.all_iff.mp tidy).2

theorem pushesAt_newObject (constructor : String) (typeNames names : List String)
    (later : ∀ item ∈ items.tail, item.All Expr.TidyNode) :
    PushesAt limits given operations arguments rounds place slotted
      (compileExpr (.newObject constructor typeNames names items))
      (meaning operations.machine (place.argument arguments) rounds (.newObject constructor typeNames names items))
      ((Expr.newObject constructor typeNames names items).All Expr.TidyNode) := by
  apply (pushesAt_counted itemsOk sound later fun few =>
    appliesAt_newObject constructor typeNames names (Nat.lt_succ_of_le few)).form
  · rfl
  · rfl
  · exact fun tidy => (Expr.all_iff.mp tidy).2

theorem pushesAt_concat (later : ∀ item ∈ items.tail, item.All Expr.TidyNode) :
    PushesAt limits given operations arguments rounds place slotted (compileExpr (.concat items))
      (meaning operations.machine (place.argument arguments) rounds (.concat items))
      ((Expr.concat items).All Expr.TidyNode) := by
  apply (pushesAt_counted itemsOk sound later fun few =>
    appliesAt_counted (Nat.lt_succ_of_le few) (.inr (.inr ⟨rfl, rfl, rfl⟩))).form
  · rfl
  · rfl
  · exact fun tidy => (Expr.all_iff.mp tidy).2

theorem pushesAt_list (later : ∀ item ∈ items.tail, item.All Expr.TidyNode) :
    PushesAt limits given operations arguments rounds place slotted (compileExpr (.list items))
      (meaning operations.machine (place.argument arguments) rounds (.list items))
      ((Expr.list items).All Expr.TidyNode) := by
  apply (pushesAt_counted itemsOk sound later fun few =>
    appliesAt_counted (Nat.lt_succ_of_le few) (.inl ⟨rfl, rfl, rfl⟩)).form
  · rfl
  · rfl
  · exact fun tidy => (Expr.all_iff.mp tidy).2

theorem pushesAt_makeClosure (closure : ClosureSpec) (later : ∀ item ∈ items.tail, item.All Expr.TidyNode)
    (announced : closureCaptures (closure.text items.length) = items.length) :
    PushesAt limits given operations arguments rounds place slotted (compileExpr (.makeClosure closure items))
      (meaning operations.machine (place.argument arguments) rounds (.makeClosure closure items))
      ((Expr.makeClosure closure items).All Expr.TidyNode) := by
  apply (pushesAt_counted itemsOk sound later fun _ => appliesAt_makeClosure closure announced).form
  · rfl
  · rfl
  · exact fun tidy => (Expr.all_iff.mp tidy).2

include receiverOk

theorem pushesAt_callDynamic (method : String) (names : List String)
    (later : ∀ item ∈ items, item.All Expr.TidyNode) :
    PushesAt limits given operations arguments rounds place slotted
      (compileExpr (.callDynamic receiver method names items))
      (meaning operations.machine (place.argument arguments) rounds (.callDynamic receiver method names items))
      ((Expr.callDynamic receiver method names items).All Expr.TidyNode) := by
  have operandsOk : ∀ item ∈ receiver :: items, Realized limits operations arguments rounds item :=
    List.forall_mem_cons.mpr ⟨receiverOk, itemsOk⟩
  apply (pushesAt_counted operandsOk sound later fun few =>
    appliesAt_callDynamic method names (Nat.lt_succ_of_le few)).form
  · rw [compileAll_cons, bind_assoc]
    rfl
  · simp only [meaningAll_cons, bind_assoc, pure_bind]
    rfl
  · exact fun tidy => (Expr.all_iff.mp tidy).2

theorem pushesAt_callClosure (names : List String) (later : ∀ item ∈ items, item.All Expr.TidyNode) :
    PushesAt limits given operations arguments rounds place slotted (compileExpr (.callClosure receiver names items))
      (meaning operations.machine (place.argument arguments) rounds (.callClosure receiver names items))
      ((Expr.callClosure receiver names items).All Expr.TidyNode) := by
  have operandsOk : ∀ item ∈ receiver :: items, Realized limits operations arguments rounds item :=
    List.forall_mem_cons.mpr ⟨receiverOk, itemsOk⟩
  apply (pushesAt_counted operandsOk sound later fun few =>
    appliesAt_callClosure names (Nat.lt_succ_of_le few)).form
  · rw [compileAll_cons, bind_assoc]
    rfl
  · simp only [meaningAll_cons, bind_assoc, pure_bind]
    rfl
  · exact fun tidy => (Expr.all_iff.mp tidy).2

omit itemsOk receiverOk

theorem pushesAt_map
    (entriesOk : ∀ item ∈ entries.flatMap fun entry => [entry.1, entry.2],
      Realized limits operations arguments rounds item)
    (later : ∀ item ∈ (entries.flatMap fun entry => [entry.1, entry.2]).tail, item.All Expr.TidyNode) :
    PushesAt limits given operations arguments rounds place slotted (compileExpr (.map entries))
      (meaning operations.machine (place.argument arguments) rounds (.map entries))
      ((Expr.map entries).All Expr.TidyNode) := by
  have counted : (entries.flatMap fun entry => [entry.1, entry.2]).length = 2 * entries.length := by
    simp [List.length_flatMap, Nat.mul_comm]
  apply (pushesAt_counted entriesOk sound later fun few =>
    appliesAt_counted (Nat.lt_succ_of_le few) (.inr (.inl ⟨rfl, rfl, counted⟩))).form
  · rw [← compileAll_entries]
    rfl
  · rw [← meaningAll_entries]
    rfl
  · exact fun tidy => (Expr.all_iff.mp tidy).2

end Forms

/-!
## Constants, parameters and locals
-/

theorem argIndex_lt {params : List String} {name : String} {index : Nat}
    (found : (start params).argIndex name = some index) : index < params.length := by
  simp only [argIndex, Option.map_eq_some_iff] at found
  obtain ⟨entry, found, rfl⟩ := found
  have member := List.mem_of_find?_eq_some found
  rw [List.mem_reverse] at member
  exact (List.mem_zipIdx' member).1

theorem pushesAt_const (constant : ConstantSpec) :
    PushesAt limits given operations arguments rounds place slotted (compileExpr (.const constant))
      (meaning operations.machine (place.argument arguments) rounds (.const constant))
      ((Expr.const constant).All Expr.TidyNode) := by
  apply (pushesIn_loadConst constant).form
  · rfl
  · rfl
  · exact fun _ => trivial

/-- The parameters of the place are those of the compiler. -/
theorem pushesAt_arg (name : String) :
    PushesAt limits given operations arguments rounds place slotted (compileExpr (.arg name))
      (meaning operations.machine (place.argument arguments) rounds (.arg name))
      ((Expr.arg name).All Expr.TidyNode) := by
  intro now ready known
  by_cases here : place.Here now
  · apply Ensures.congr _ (startingAt_here here)
    have same : now.argIndex name = (start place.params).argIndex name := by
      unfold argIndex
      rw [here.params]
      rfl
    apply ensures_bind
    apply ensures_get
    rw [same]
    split
    · exact ensures_throw trivial
    case h_2 index found =>
      have inside : index < now.params.length := here.params ▸ argIndex_lt found
      have small : index < 256 := Nat.lt_of_lt_of_le inside (Nat.le_succ_of_le ready.params)
      apply (u8_spec (.knowing ready known) rfl small).mono _ fun _ _ _ => trivial
      intro _ after progress
      refine ⟨_, progress.imp fun _ => ?_⟩
      have argument : place.argument arguments name = arguments index := by
        unfold Place.argument
        rw [found]
        rfl
      have means : meaning operations.machine (place.argument arguments) rounds (.arg name) = pure (arguments index) :=
        congrArg pure argument
      rw [means]
      have fits : (Instr.one .loadArg index).Fits := ⟨small, rfl⟩
      exact (pushes_single fits fun _ _ => executes_loadArg).imp (fun _ => trivial) fun _ told => told
  · unfold Ensures
    rw [startingAt_elsewhere here]
    trivial

theorem pushesAt_letLocal (id : Int64) :
    PushesAt limits given operations arguments rounds place slotted (compileExpr (.letLocal id))
      (meaning operations.machine (place.argument arguments) rounds (.letLocal id))
      ((Expr.letLocal id).All Expr.TidyNode) := by
  apply emitsAt_scopedLocal id
  intro small
  cases named : place.scopes id with
  | none => exact emits_exit.startingAt place
  | some index =>
      apply Emits.startingAt
      apply emits_local rfl (small index named)
      intro _ _
      have fits : (Instr.one .loadLocal index).Fits := ⟨small index named, rfl⟩
      exact (pushes_single fits fun _ _ => executes_loadLocal named).imp (fun _ => trivial) fun _ told => told

/-- `yield` leaves no value. -/
theorem handlesAt_yield :
    HandlesAt limits given operations arguments rounds place slotted (op .yield)
      (fun item => operations.machine.apply .yield [item]) (fun _ => []) 0 True := by
  apply Emits.startingAt
  apply emits_op rfl
  intro _
  constructor
  · exact fits_plain rfl
  · intro operand known _ _
    apply executes_yield.imp (fun _ _ found => found)
    exact fun _ _ _ found => ⟨rfl, onTop_nil.mpr found⟩

section Single

variable {value : Expr} (sound : place.Sound) (valueOk : Realized limits operations arguments rounds value)

include sound valueOk

theorem pushesAt_setLocal (id : Int64) :
    PushesAt limits given operations arguments rounds place slotted (compileExpr (.setLocal id value))
      (meaning operations.machine (place.argument arguments) rounds (.setLocal id value))
      ((Expr.setLocal id value).All Expr.TidyNode) := by
  have valueRestores := valueOk.restores
  apply emitsAt_scopedLocal id
  intro small
  cases named : place.scopes id with
  | none => exact emits_exit.startingAt place
  | some index =>
      have stored : Emits limits (given ∧ SlotWithin limits (some index)) (storeLocal index)
          fun _ code => code = [.one .storeLocal index] := emits_local rfl (small index named) fun _ _ => rfl
      have returned : PushesAt limits (given ∧ SlotWithin limits (some index)) operations arguments rounds place
          slotted (loadConst .nothing) (pure operations.machine.null) True := pushesIn_loadConst .nothing
      have handled : HandlesAt limits (given ∧ SlotWithin limits (some index)) operations arguments rounds place
          slotted (storeLocal index >>= fun _ => loadConst .nothing)
          (fun value => do
            Run.write id value
            pure operations.machine.null)
          (fun value => [value]) 1 True := by
        apply emitsAt_andThen (stored.startingAt place) returned
        intro _ head tail same leaves
        subst same
        constructor
        · rw [List.forall_mem_append]
          exact ⟨fits_local rfl (small index named), leaves.fits⟩
        · intro operand known absorbs tells
          apply (executes_storeLocal sound absorbs.stable named).append
          exact fun _ => leaves.executes known absorbs tells
      exact LeavesIn.imp ((valueOk.here sound).handle handled) (fun tidy => ⟨(Expr.all_iff.mp tidy).2 value List.mem_cons_self, trivial⟩)
        fun _ told => told

theorem pushesAt_yield :
    PushesAt limits given operations arguments rounds place slotted (compileExpr (.yield value))
      (meaning operations.machine (place.argument arguments) rounds (.yield value))
      ((Expr.yield value).All Expr.TidyNode) := by
  have valueRestores := valueOk.restores
  have yielded : DiscardsAt limits given operations arguments rounds place slotted (compileExpr value >>= fun _ => op .yield)
      (do operations.machine.apply .yield [← meaning operations.machine (place.argument arguments) rounds value])
      (value.All Expr.TidyNode ∧ True) := (valueOk.here sound).handle handlesAt_yield
  have returned : PushesAt limits given operations arguments rounds place slotted (loadConst .nothing)
      (pure operations.machine.null) True := pushesIn_loadConst .nothing
  have whole := yielded.before returned
  simp only [bind_assoc] at whole
  apply whole.form
  · rfl
  · rfl
  · exact fun tidy => ⟨⟨(Expr.all_iff.mp tidy).2 value List.mem_cons_self, trivial⟩, trivial⟩

theorem pushesAt_throw :
    PushesAt limits given operations arguments rounds place slotted (compileExpr (.throw value))
      (meaning operations.machine (place.argument arguments) rounds (.throw value))
      ((Expr.throw value).All Expr.TidyNode) := by
  have valueRestores := valueOk.restores
  have thrown : HandlesAt limits given operations arguments rounds place slotted (op .throw) Run.raise
      (fun value => [value]) 1 True := by
    apply Emits.startingAt
    apply emits_op rfl
    intro _
    constructor
    · exact fits_plain rfl
    · exact fun _ _ _ _ => executes_throw
  apply ((valueOk.here sound).handle thrown).form
  · rfl
  · rfl
  · exact fun tidy => ⟨(Expr.all_iff.mp tidy).2 value List.mem_cons_self, trivial⟩

end Single

/-!
## Sequences and conditionals
-/

theorem discardsAt_discarded {part : Option Expr} (sound : place.Sound)
    (partOk : ∀ expr ∈ part.toList, Realized limits operations arguments rounds expr) :
    DiscardsAt limits given operations arguments rounds place slotted (compileDiscarded part)
      (meaningDiscarded operations.machine (place.argument arguments) rounds part)
      (∀ expr ∈ part.toList, expr.All Expr.TidyNode) := by
  cases part with
  | none =>
      have none : DiscardsAt limits given operations arguments rounds place slotted (pure ()) (pure ()) True :=
        leavesIn_nothing rfl
      exact none.imp (fun _ => trivial) fun _ told => told
  | some expr =>
      have exprOk := partOk expr (by simp)
      have exprRestores := exprOk.restores
      have popped : DiscardsAt limits given operations arguments rounds place slotted _ _ _ :=
        (exprOk.here sound).pop
      exact popped.imp (fun tidy => tidy expr (by simp)) fun _ told => told

theorem pushesAt_seqItems (sound : place.Sound)
    (realized : ∀ item ∈ items, Realized limits operations arguments rounds item) :
    PushesAt limits given operations arguments rounds place slotted (compileSeq items)
      (meaningSeq operations.machine (place.argument arguments) rounds items)
      (∀ item ∈ items, item.All Expr.TidyNode) := by
  induction items with
  | nil =>
      have null : PushesAt limits given operations arguments rounds place slotted (loadConst .nothing)
          (pure operations.machine.null) True := pushesIn_loadConst .nothing
      exact null.imp (fun _ => trivial) fun _ told => told
  | cons item items ih =>
      rw [List.forall_mem_cons] at realized
      have itemRestores := realized.1.restores
      have itemOk : PushesAt limits given operations arguments rounds place slotted (compileExpr item)
          (meaning operations.machine (place.argument arguments) rounds item) (item.All Expr.TidyNode) :=
        realized.1.here sound
      cases items with
      | nil => exact itemOk.imp (fun tidy => tidy item List.mem_cons_self) fun _ told => told
      | cons next items =>
          have rest := ih realized.2
          have both := itemOk.pop.before rest
          simp only [bind_assoc, pure_bind] at both
          exact both.imp (fun tidy => List.forall_mem_cons.mp tidy) fun _ told => told

theorem pushesAt_conditional {condition thenExpr elseExpr : Expr} (sound : place.Sound)
    (conditionOk : Realized limits operations arguments rounds condition)
    (thenOk : Realized limits operations arguments rounds thenExpr)
    (elseOk : Realized limits operations arguments rounds elseExpr) :
    PushesAt limits given operations arguments rounds place slotted
      (compileExpr (.conditional condition thenExpr elseExpr))
      (meaning operations.machine (place.argument arguments) rounds (.conditional condition thenExpr elseExpr))
      ((Expr.conditional condition thenExpr elseExpr).All Expr.TidyNode) := by
  have conditionRestores := conditionOk.restores
  have thenRestores := thenOk.restores
  have elseRestores := elseOk.restores
  have same : SameAt place
      (do
        startingAt place (compileExpr condition)
        op .jumpIfFalse
        let elsePatch ← reserveU16
        startingAt place (compileExpr thenExpr)
        op .jump
        let endPatch ← reserveU16
        patchHere elsePatch
        startingAt place (compileExpr elseExpr)
        patchHere endPatch)
      (compileExpr (.conditional condition thenExpr elseExpr)) := by
    apply SameAt.guardBind
    intro _
    apply SameAt.bind
    intro _
    apply SameAt.bind
    intro _
    apply SameAt.guardBind
    intro _
    apply SameAt.bind
    intro _
    apply SameAt.bind
    intro _
    apply SameAt.bind
    intro _
    apply SameAt.guardBind
    exact fun _ => .refl _
  apply SameAt.emits same
  have here : ∀ {expr : Expr}, Realized limits operations arguments rounds expr →
      PushesAt limits given operations arguments rounds place slotted (compileExpr expr)
        (meaning operations.machine (place.argument arguments) rounds expr) (expr.All Expr.TidyNode) :=
    fun realized => realized.here sound
  apply Emits.conditional (here conditionOk) (here thenOk) (here elseOk)
  intro pos conditionCode thenCode elseCode thenAt label finish tests thenPlaced yes labelled no finished small
  constructor
  · simp only [List.forall_mem_append, List.forall_mem_cons]
    exact ⟨tests.fits, Instr.fits_jump rfl (by omega), yes.fits, Instr.fits_jump rfl small, no.fits⟩
  · intro known absorbs tells
    have tidy : ∀ child ∈ (Expr.conditional condition thenExpr elseExpr).children,
        place.Absorbs (child.All Expr.TidyNode) known :=
      fun child member => absorbs.imp fun tidy => (Expr.all_iff.mp tidy).2 child member
    have testRuns := tests.fetch (tidy _ (by simp [Expr.children])) tells
    have yesRuns := yes.executes known (tidy _ (by simp [Expr.children])) tells
    have noRuns := no.executes known (tidy _ (by simp [Expr.children])) tells
    exact Executes.conditional testRuns thenPlaced yesRuns labelled noRuns finished

/-!
## Scopes
-/

/-- A value that goes to a slot of its own, and what is compiled where the slot belongs to a local. -/
theorem Handles.bound {vm : Vm ν ω} {pos : Nat} {code : Code} {α : Type} {run : Run Int64 ν ω α}
    {values : α → List ν} {count : Nat} {tidy : Prop} (sound : place.Sound) (unused : place.free ≤ slot)
    (small : slot < 256) (id : Int64)
    (leaves : Leaves vm rounds (place.bind id slot) slotted (pos + extent Instr.size [.one .storeLocal slot]) code run
      values count tidy) :
    Handles vm rounds place slotted pos ([.one .storeLocal slot] ++ code) (fun held => Run.withVar id held run) values
      count tidy where
  fits := by
    rw [List.forall_mem_append]
    exact ⟨fits_local rfl small, leaves.fits⟩
  executes := by
    intro operand known absorbs tells
    apply (executes_storeSlot sound absorbs.stable unused).andThen
    exact Executes.withVar sound unused (leaves.executes known (absorbs.bind unused id) tells)

section Scopes

variable {locals : List (LocalSpec × Expr)} {body : Expr} {previous : List (Int64 × Option Nat)}

/-- Each local is stored in a slot of its own before the next one is computed. -/
theorem pushesAt_locals (sound : place.Sound)
    (localsOk : ∀ entry ∈ locals, Realized limits operations arguments rounds entry.2)
    (bodyOk : Realized limits operations arguments rounds body) (restorable : Restorable limits given previous) :
    PushesAt limits given operations arguments rounds place slotted
      (compileLocals previous locals >>= fun previous => compileExpr body >>= fun _ => restore previous)
      (meaningLocals operations.machine (place.argument arguments) rounds locals
        (meaning operations.machine (place.argument arguments) rounds body))
      ((∀ entry ∈ locals, entry.2.All Expr.TidyNode) ∧ body.All Expr.TidyNode) := by
  induction locals generalizing place given previous with
  | nil =>
      have empty : compileLocals previous [] = pure previous := rfl
      rw [empty, pure_bind]
      have bodyRestores := bodyOk.restores
      have restored : Emits limits given (restore previous) fun _ code => code = [] :=
        (prepares_restore restorable).emits fun _ => rfl
      apply emitsAt_andThen (bodyOk.here sound) (restored.startingAt place)
      intro _ head tail leaves same
      rw [same, List.append_nil]
      exact leaves.imp And.right fun _ told => told
  | cons entry locals ih =>
      obtain ⟨spec, value⟩ := entry
      rw [List.forall_mem_cons] at localsOk
      have valueRestores := localsOk.1.restores
      have unfolded : compileLocals previous ((spec, value) :: locals) = (do
          let slot ← allocateLocal
          compileExpr value
          storeLocal slot
          nameLocal slot spec.name
          let old ← scopedLocal spec.id
          bindLocal spec.id (some slot)
          compileLocals (remember previous spec.id old) locals) := rfl
      simp only [unfolded, bind_assoc]
      apply emitsAt_allocate
      intro slot unused small
      have stored : Emits limits (given ∧ slot < limits.locals) (storeLocal slot)
          fun _ code => code = [.one .storeLocal slot] := emits_local rfl small fun _ _ => rfl
      have valueOk : Emits limits (given ∧ slot < limits.locals) (startingAt (place.above slot) (compileExpr value))
          fun pos code => Pushes (limits.vm operations arguments) rounds place slotted pos code
            (meaning operations.machine (place.argument arguments) rounds value) (value.All Expr.TidyNode) :=
        Emits.imp (localsOk.1.here (sound.above unused)) fun _ _ leaves => leaves.lower unused
      have handled : Emits limits (given ∧ slot < limits.locals) (startingAt (place.above slot) (do
          storeLocal slot
          nameLocal slot spec.name
          let old ← scopedLocal spec.id
          bindLocal spec.id (some slot)
          let previous ← compileLocals (remember previous spec.id old) locals
          compileExpr body
          restore previous)) fun pos code =>
            Handles (limits.vm operations arguments) rounds place slotted pos code
              (fun held => Run.withVar spec.id held
                (meaningLocals operations.machine (place.argument arguments) rounds locals
                  (meaning operations.machine (place.argument arguments) rounds body)))
              (fun value => [value]) 1 ((∀ entry ∈ locals, entry.2.All Expr.TidyNode) ∧ body.All Expr.TidyNode) := by
        have later : Emits limits (given ∧ slot < limits.locals) (startingAt (place.above slot) (do
            nameLocal slot spec.name
            let old ← scopedLocal spec.id
            bindLocal spec.id (some slot)
            let previous ← compileLocals (remember previous spec.id old) locals
            compileExpr body
            restore previous)) fun pos code =>
              Pushes (limits.vm operations arguments) rounds (place.bind spec.id slot) slotted pos code
                (meaningLocals operations.machine (place.argument arguments) rounds locals
                  (meaning operations.machine (place.argument arguments) rounds body))
                ((∀ entry ∈ locals, entry.2.All Expr.TidyNode) ∧ body.All Expr.TidyNode) := by
          apply emitsAt_before (prepares_nameLocal And.right spec.name)
          intro _ _
          apply emitsAt_scopedLocal spec.id
          intro smallOld
          apply emitsAt_bindLocal small fun holds => holds.1.1.2
          apply ih (sound.bind unused spec.id) localsOk.2
          have older := restorable.mono fun holds : ((given ∧ slot < limits.locals) ∧ given ∧ slot < limits.locals) ∧
            SlotWithin limits (place.scopes spec.id) => holds.1.1.1
          exact older.remember smallOld And.right spec.id
        apply emitsAt_andThen (stored.startingAt _) later
        intro _ head tail same leaves
        subst same
        exact .bound sound unused small spec.id leaves
      apply emitsAt_andThen valueOk handled
      intro _ head tail leaves handles
      apply (leaves.handle handles).imp _ fun _ told => told
      intro tidy
      rw [List.forall_mem_cons] at tidy
      exact ⟨tidy.1.1, tidy.1.2, tidy.2⟩

theorem pushesAt_letIn (sound : place.Sound)
    (localsOk : ∀ entry ∈ locals, Realized limits operations arguments rounds entry.2)
    (bodyOk : Realized limits operations arguments rounds body) :
    PushesAt limits given operations arguments rounds place slotted (compileExpr (.letIn locals body))
      (meaning operations.machine (place.argument arguments) rounds (.letIn locals body))
      ((Expr.letIn locals body).All Expr.TidyNode) := by
  have nothing : Restorable limits given [] := fun _ member => absurd member List.not_mem_nil
  apply (pushesAt_locals sound localsOk bodyOk nothing).form
  · rfl
  · rfl
  · intro tidy
    have below := (Expr.all_iff.mp tidy).2
    simp only [Expr.children, List.forall_mem_append, List.forall_mem_map, List.forall_mem_singleton] at below
    exact below

end Scopes

end Expressions

end CodePush.Compiler
