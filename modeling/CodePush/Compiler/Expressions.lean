import CodePush.Compiler.Control

/-!
# Compiled expressions

Every expression that compiles is compiled to a piece of code that puts one value on the
stack. The conditions under which the code is balanced, and under which its calls list no
more names than arguments, are conditions on the single nodes of the expression.
-/

set_option autoImplicit false

namespace CodePush.Compiler

open CodePush.Core CodePush.Bytecode CodePush.Foundation CodePush.Foundation.Action
  CodePush.Foundation.Assembly RestrictedBytecodeCompiler

/-- The node's own code leaves one value. Appending to a collection leaves the results of
`add`, `addAll` and `[]=` behind, and a finalizer without `value` the value of the body. -/
def Expr.TidyNode : Expr → Prop
  | .addAll _ _ _ | .listForIn _ _ | .listForInMapped _ _ _ _ | .mapForIn _ _
  | .mapForInMapped _ _ _ _ _ => False
  | .tryFinally _ _ preserveValue => preserveValue = true
  | .makeClosure closure captures =>
      closureCaptures (closure.text captures.length) = captures.length
  | _ => True

/-- The constant of a call announces no more names than the call has arguments. -/
def Expr.NamedNode : Expr → Prop
  | .call .original target args => countNamedArguments target false ≤ args.length
  | .callDynamic _ method names args =>
      countNamedArguments (method ++ namedSuffix names) false ≤ args.length
  | .callClosure _ names args =>
      names ≠ [] → countNamedArguments (namedSuffix names) true ≤ args.length
  | .newObject constructor typeNames names args =>
      countNamedArguments (constructorText constructor typeNames names) false ≤ args.length
  | _ => True

/-- What is proved of every expression. -/
def Compiled (limits : Limits) (expr : Expr) : Prop :=
  Compiles limits True (compileExpr expr) 0 1 (expr.All Expr.TidyNode) (expr.All Expr.NamedNode)

section Expressions

variable {limits : Limits} {given tidy named : Prop}

theorem Compiled.intro {expr : Expr} {action : Compile Unit}
    (compiles : Compiles limits True action 0 1 tidy named) (emits : compileExpr expr = action)
    (tidyNode : (expr.TidyNode ∧ ∀ child ∈ expr.children, child.All Expr.TidyNode) → tidy)
    (namedNode : named ↔ (expr.NamedNode ∧ ∀ child ∈ expr.children, child.All Expr.NamedNode)) :
    Compiled limits expr := by
  unfold Compiled
  rw [emits]
  exact compiles.imp (fun all => tidyNode (Expr.all_iff.mp all)) (namedNode.trans Expr.all_iff.symm)

theorem Compiled.here {expr : Expr} (compiled : Compiled limits expr) :
    Compiles limits given (compileExpr expr) 0 1 (expr.All Expr.TidyNode)
      (expr.All Expr.NamedNode) :=
  compiled.knowing fun _ => trivial

/-!
## Parts of expressions
-/

theorem compileAll_cons (item : Expr) (items : List Expr) :
    compileAll (item :: items) = compileExpr item >>= fun _ => compileAll items := rfl

theorem compileAll_append (front back : List Expr) :
    compileAll (front ++ back) = compileAll front >>= fun _ => compileAll back := by
  induction front with
  | nil =>
      show compileAll back = pure () >>= fun _ => compileAll back
      rw [pure_bind]
  | cons item front ih => rw [List.cons_append, compileAll_cons, compileAll_cons, ih, bind_assoc]

theorem compileAll_entries (entries : List (Expr × Expr)) :
    compileEntries entries = compileAll (entries.flatMap fun entry => [entry.1, entry.2]) := by
  induction entries with
  | nil => rfl
  | cons entry entries ih =>
      obtain ⟨key, value⟩ := entry
      show (compileExpr key >>= fun _ => compileExpr value >>= fun _ => compileEntries entries) = _
      rw [ih]
      rfl

theorem compileAll_compiles {items : List Expr} (compiled : ∀ item ∈ items, Compiled limits item) :
    Compiles limits given (compileAll items) 0 items.length
      (∀ item ∈ items, item.All Expr.TidyNode) (∀ item ∈ items, item.All Expr.NamedNode) := by
  induction items with
  | nil =>
      unfold compileAll
      exact compiles_nothing.imp (by simp) (by simp)
  | cons item items ih =>
      unfold compileAll
      have rest := ih fun other member => compiled other (List.mem_cons_of_mem item member)
      have both := (compiled item List.mem_cons_self).here.andThen (rest.frame 1)
      rw [List.length_cons, Nat.add_comm items.length 1]
      exact both.imp (by simp) (by simp)

theorem compileEntries_compiles {entries : List (Expr × Expr)}
    (compiled : ∀ entry ∈ entries, Compiled limits entry.1 ∧ Compiled limits entry.2) :
    Compiles limits given (compileEntries entries) 0 (2 * entries.length)
      (∀ entry ∈ entries, entry.1.All Expr.TidyNode ∧ entry.2.All Expr.TidyNode)
      (∀ entry ∈ entries, entry.1.All Expr.NamedNode ∧ entry.2.All Expr.NamedNode) := by
  induction entries with
  | nil =>
      unfold compileEntries
      exact compiles_nothing.imp (by simp) (by simp)
  | cons entry entries ih =>
      obtain ⟨key, value⟩ := entry
      unfold compileEntries
      obtain ⟨keyOk, valueOk⟩ := compiled (key, value) List.mem_cons_self
      have rest := ih fun other member => compiled other (List.mem_cons_of_mem _ member)
      have all := keyOk.here.andThen ((valueOk.here.frame 1).andThen (rest.frame 2))
      have count : 2 * ((key, value) :: entries).length = 2 + 2 * entries.length := by
        rw [List.length_cons]
        omega
      rw [count]
      exact all.imp (by simp [and_assoc]) (by simp [and_assoc])

theorem compileSeq_compiles {items : List Expr} (compiled : ∀ item ∈ items, Compiled limits item) :
    Compiles limits given (compileSeq items) 0 1
      (∀ item ∈ items, item.All Expr.TidyNode) (∀ item ∈ items, item.All Expr.NamedNode) := by
  induction items with
  | nil =>
      unfold compileSeq
      exact (compiles_loadConst .nothing).imp (by simp) (by simp)
  | cons item items ih =>
      have first := compiled item List.mem_cons_self
      have rest := ih fun other member => compiled other (List.mem_cons_of_mem item member)
      cases items with
      | nil =>
          unfold compileSeq
          exact first.here.imp (by simp) (by simp)
      | cons next items =>
          unfold compileSeq
          exact (first.here.andThen (compiles_pop.andThen rest)).imp (by simp) (by simp)

theorem compileDiscarded_compiles {part : Option Expr}
    (compiled : ∀ expr ∈ part.toList, Compiled limits expr) :
    Compiles limits given (compileDiscarded part) 0 0
      (∀ expr ∈ part.toList, expr.All Expr.TidyNode) (∀ expr ∈ part.toList, expr.All Expr.NamedNode) := by
  cases part with
  | none =>
      unfold compileDiscarded
      exact compiles_nothing.imp (by simp) (by simp)
  | some expr =>
      unfold compileDiscarded
      exact ((compiled expr (by simp)).here.andThen compiles_pop).imp (by simp) (by simp)

/-- The values of the locals, before what follows them. -/
theorem compileLocals_compiles {locals : List (LocalSpec × Expr)} {give : Nat}
    {next : List (Int64 × Option Nat) → Compile Unit} {previous : List (Int64 × Option Nat)}
    (compiled : ∀ entry ∈ locals, Compiled limits entry.2)
    (restorable : Restorable limits given previous)
    (rest : ∀ known previous, Restorable limits (given ∧ known) previous →
      Compiles limits (given ∧ known) (next previous) 0 give tidy named) :
    Compiles limits given (compileLocals previous locals >>= next) 0 give
      ((∀ entry ∈ locals, entry.2.All Expr.TidyNode) ∧ tidy)
      ((∀ entry ∈ locals, entry.2.All Expr.NamedNode) ∧ named) := by
  induction locals generalizing previous given with
  | nil =>
      unfold compileLocals
      rw [pure_bind]
      have done := rest True previous (restorable.mono And.left)
      exact (done.knowing fun holds => ⟨holds, trivial⟩).imp (by simp) (by simp)
  | cons entry locals ih =>
      obtain ⟨spec, value⟩ := entry
      unfold compileLocals
      simp only [bind_assoc]
      refine (prepares_allocateLocal.andThen fun slot small => ?_)
      have valueOk := compiled (spec, value) List.mem_cons_self
      have stored : Compiles limits (given ∧ slot < limits.locals) (storeLocal slot) 1 0 True True :=
        compiles_storeLocal small And.right
      have renamed : Compiles limits (given ∧ slot < limits.locals) (nameLocal slot spec.name) 0 0
          True True :=
        (prepares_nameLocal And.right spec.name).compiles
      have later : Compiles limits (given ∧ slot < limits.locals)
          (do
            let old ← scopedLocal spec.id
            bindLocal spec.id (some slot)
            compileLocals (remember previous spec.id old) locals >>= next) 0 give
          ((∀ entry ∈ locals, entry.2.All Expr.TidyNode) ∧ tidy)
          ((∀ entry ∈ locals, entry.2.All Expr.NamedNode) ∧ named) := by
        refine (prepares_scopedLocal spec.id).andThen fun old smallOld => ?_
        have bound : Prepares limits ((given ∧ slot < limits.locals) ∧ SlotWithin limits old)
            (bindLocal spec.id (some slot)) (fun _ => True)
            (fun _ => (given ∧ slot < limits.locals) ∧ SlotWithin limits old) := by
          refine prepares_bindLocal spec.id ?_ ?_
          · intro index same
            cases same
            exact small
          · intro holds index same
            cases same
            exact holds.1.2
        have remembered : Restorable limits ((given ∧ slot < limits.locals) ∧ SlotWithin limits old)
            (remember previous spec.id old) :=
          (restorable.mono fun holds => holds.1.1).remember smallOld And.right spec.id
        have rest' := ih (fun other member => compiled other (List.mem_cons_of_mem _ member)) remembered
          fun known previous restorable =>
            (rest (slot < limits.locals ∧ SlotWithin limits old ∧ known) previous
              (restorable.mono fun holds => ⟨⟨⟨holds.1, holds.2.1⟩, holds.2.2.1⟩, holds.2.2.2⟩)).knowing
              fun holds => ⟨holds.1.1.1, holds.1.1.2, holds.1.2, holds.2⟩
        exact (bound.compiles.andThen rest').imp (by simp) (by simp)
      exact (valueOk.here.andThen (stored.andThen (renamed.andThen later))).imp
        (by simp [and_assoc]) (by simp [and_assoc])

/-!
## One lemma for each form
-/

section Operands

variable {value left right : Expr} (valueOk : Compiled limits value) (leftOk : Compiled limits left)
  (rightOk : Compiled limits right)

theorem compiled_const (constant : ConstantSpec) : Compiled limits (.const constant) :=
  .intro (compiles_loadConst constant) rfl (by simp) (by simp [Expr.NamedNode, Expr.children])

theorem compiled_arg (name : String) : Compiled limits (.arg name) := by
  have whole : Compiles limits True (compileExpr (.arg name)) 0 1 True True :=
    Emits.compiles (emits_arg name fun _ _ => piece_loadArg)
  exact .intro whole rfl (by simp) (by simp [Expr.NamedNode, Expr.children])

theorem compiles_exit {message : String} {need give : Nat} :
    Compiles limits given (exit message) need give tidy named := Emits.compiles emits_exit

theorem compiled_letLocal (id : Int64) : Compiled limits (.letLocal id) := by
  have whole : Compiles limits True (compileExpr (.letLocal id)) 0 1 True True := by
    refine (prepares_scopedLocal id).andThen fun slot small => ?_
    cases slot with
    | none => exact compiles_exit
    | some index => exact compiles_loadLocal (small index rfl) fun holds => holds.2 index rfl
  exact .intro whole rfl (by simp) (by simp [Expr.NamedNode, Expr.children])

include valueOk in
theorem compiled_setLocal (id : Int64) : Compiled limits (.setLocal id value) := by
  have whole : Compiles limits True (compileExpr (.setLocal id value)) 0 1 (value.All Expr.TidyNode)
      (value.All Expr.NamedNode) := by
    refine (prepares_scopedLocal id).andThen fun slot small => ?_
    cases slot with
    | none => exact compiles_exit
    | some index =>
        refine (valueOk.here.andThen ((compiles_storeLocal (small index rfl) ?_).andThen
          (compiles_loadConst .nothing))).imp (by simp) (by simp)
        intro holds
        exact holds.2 index rfl
  exact .intro whole rfl (by simp [Expr.children]) (by simp [Expr.NamedNode, Expr.children])

include leftOk rightOk in
theorem compiled_binary (operator : BinaryOp) : Compiled limits (.binary operator left right) := by
  have operated : Compiles limits True (op operator.opcode) 2 1 True True := by
    refine compiles_op ?_ fun _ => piece_binary operator
    cases operator <;> rfl
  exact .intro (leftOk.here.andThen ((rightOk.here.frame 1).andThen operated)) rfl
    (by simp [Expr.children]) (by simp [Expr.NamedNode, Expr.children])

include leftOk rightOk in
theorem compiled_less : Compiled limits (.less left right) := by
  have operated : Compiles limits True (op .greater) 2 1 True True :=
    compiles_op rfl fun _ => piece_binary .greater
  refine .intro (rightOk.here.andThen ((leftOk.here.frame 1).andThen operated)) rfl ?_ ?_
  · simp only [Expr.children, List.forall_mem_cons]
    intro all
    exact ⟨all.2.2.1, all.2.1, trivial⟩
  · simp only [Expr.children, List.forall_mem_cons, Expr.NamedNode]
    simp [and_comm]

include valueOk in
theorem compiled_throw : Compiled limits (.throw value) :=
  .intro (valueOk.here.andThen (compiles_op rfl fun _ => piece_throw)) rfl
    (by simp [Expr.children]) (by simp [Expr.NamedNode, Expr.children])

include valueOk in
theorem compiled_yield : Compiled limits (.yield value) :=
  .intro (valueOk.here.andThen ((compiles_op rfl fun _ => piece_yield).andThen
    (compiles_loadConst .nothing))) rfl
    (by simp [Expr.children]) (by simp [Expr.NamedNode, Expr.children])

include valueOk in
theorem compiled_await : Compiled limits (.await value) :=
  .intro (valueOk.here.andThen (compiles_op rfl fun _ => piece_await)) rfl
    (by simp [Expr.children]) (by simp [Expr.NamedNode, Expr.children])

include valueOk in
theorem compiled_getField (field : String) : Compiled limits (.getField value field) :=
  .intro (valueOk.here.andThen (compiles_named rfl field fun _ _ => piece_getField)) rfl
    (by simp [Expr.children]) (by simp [Expr.NamedNode, Expr.children])

include leftOk rightOk in
theorem compiled_setField (field : String) : Compiled limits (.setField left field right) :=
  .intro (leftOk.here.andThen ((rightOk.here.frame 1).andThen
    (compiles_named rfl field fun _ _ => piece_setField))) rfl
    (by simp [Expr.children]) (by simp [Expr.NamedNode, Expr.children])

include valueOk in
theorem compiled_isType (type : String) : Compiled limits (.isType value type) :=
  .intro (valueOk.here.andThen (compiles_named rfl type fun _ _ => piece_isType)) rfl
    (by simp [Expr.children]) (by simp [Expr.NamedNode, Expr.children])

include valueOk in
theorem compiled_asType (type : String) : Compiled limits (.asType value type) :=
  .intro (valueOk.here.andThen (compiles_named rfl type fun _ _ => piece_asType)) rfl
    (by simp [Expr.children]) (by simp [Expr.NamedNode, Expr.children])

end Operands

/-!
### Sequences, calls and collections

Behind the operands stands the operation on them.
-/

section Operations

variable {count : Nat}

theorem compiles_stringConcat (few : count ≤ 0xffff) :
    Compiles limits given (op .stringConcat >>= fun _ => u16 count) count 1 True True :=
  Emits.compiles (emits_u16 rfl (by omega) fun _ => piece_stringConcat (by omega))

theorem compiles_makeList (few : count ≤ 0xffff) :
    Compiles limits given (op .makeList >>= fun _ => u16 count) count 1 True True :=
  Emits.compiles (emits_u16 rfl (by omega) fun _ => piece_makeList (by omega))

theorem compiles_makeMap (few : count ≤ 0xffff) :
    Compiles limits given (op .makeMap >>= fun _ => u16 count) (2 * count) 1 True True :=
  Emits.compiles (emits_u16 rfl (by omega) fun _ => piece_makeMap (by omega))

theorem compiles_callTarget {args : List Expr} (few : args.length ≤ 255) (kind : CallKind) (target : String) :
    Compiles limits given
      (do
        let calleeIndex ← addConst (.text target)
        op kind.opcode
        u16 calleeIndex
        u8 args.length)
      args.length 1 True (Expr.call kind target args).NamedNode := by
  refine (prepares_addConst _).andThen fun index small => ?_
  refine Emits.compiles (emits_call (by cases kind <;> rfl) small (by omega) fun _ facts => ?_)
  cases kind with
  | static => exact piece_callStatic small (by omega) facts.2
  | original => exact piece_callOriginal small (by omega) facts.2

theorem compiles_callMember {args : List Expr} (few : args.length ≤ 255) (receiver : Expr) (method : String)
    (names : List String) :
    Compiles limits given (callDynamic (method ++ namedSuffix names) args.length) (1 + args.length) 1 True
      (Expr.callDynamic receiver method names args).NamedNode := by
  rw [Nat.add_comm]
  exact compiles_callNamed rfl _ (by omega) fun _ _ small found => piece_callDynamic small (by omega) found

theorem compiles_callClosure {args : List Expr} (few : args.length ≤ 255) (closure : Expr) (names : List String) :
    Compiles limits given
      (do
        let metadataOperand ← closureMetadata names
        op .callClosure
        u16 metadataOperand
        u8 args.length)
      (1 + args.length) 1 True (Expr.callClosure closure names args).NamedNode := by
  refine (prepares_closureMetadata names).andThen fun index small => ?_
  refine Emits.compiles (emits_call rfl small (by omega) fun _ facts => ?_)
  rw [Nat.add_comm]
  exact piece_callClosure small (by omega) facts.2

theorem compiles_makeClosure (closure : ClosureSpec) :
    Compiles limits given (Compiler.named .makeClosure (closure.text count)) count 1
      (closureCaptures (closure.text count) = count) True :=
  compiles_named rfl _ fun _ _ small found => piece_makeClosure small found

theorem compiles_newObject {args : List Expr} (few : args.length ≤ 255) (constructor : String)
    (typeNames names : List String) :
    Compiles limits given (callNamed .newObject (constructorText constructor typeNames names) args.length)
      args.length 1 True (Expr.newObject constructor typeNames names args).NamedNode :=
  compiles_callNamed rfl _ (by omega) fun _ _ small found => piece_newObject small (by omega) found

end Operations

section Lists

variable {receiver : Expr} {items : List Expr} (receiverOk : Compiled limits receiver)
  (itemsOk : ∀ item ∈ items, Compiled limits item)

include itemsOk in
theorem compiled_seq : Compiled limits (.seq items) :=
  .intro (compileSeq_compiles itemsOk) rfl And.right (by simp [Expr.NamedNode, Expr.children])

include itemsOk in
theorem compiled_concat : Compiled limits (.concat items) := by
  have whole : Compiles limits True (compileExpr (.concat items)) 0 1
      (∀ item ∈ items, item.All Expr.TidyNode) (∀ item ∈ items, item.All Expr.NamedNode) :=
    (prepares_ensureCount _ _ _).andThen fun _ few =>
      ((compileAll_compiles itemsOk).andThen (compiles_stringConcat few)).imp (by simp) (by simp)
  exact .intro whole rfl And.right (by simp [Expr.NamedNode, Expr.children])

include itemsOk in
theorem compiled_list : Compiled limits (.list items) := by
  have whole : Compiles limits True (compileExpr (.list items)) 0 1
      (∀ item ∈ items, item.All Expr.TidyNode) (∀ item ∈ items, item.All Expr.NamedNode) :=
    (prepares_ensureCount _ _ _).andThen fun _ few =>
      ((compileAll_compiles itemsOk).andThen (compiles_makeList few)).imp (by simp) (by simp)
  exact .intro whole rfl And.right (by simp [Expr.NamedNode, Expr.children])

theorem compiled_map {entries : List (Expr × Expr)}
    (entriesOk : ∀ entry ∈ entries, Compiled limits entry.1 ∧ Compiled limits entry.2) :
    Compiled limits (.map entries) := by
  have whole : Compiles limits True (compileExpr (.map entries)) 0 1
      (∀ entry ∈ entries, entry.1.All Expr.TidyNode ∧ entry.2.All Expr.TidyNode)
      (∀ entry ∈ entries, entry.1.All Expr.NamedNode ∧ entry.2.All Expr.NamedNode) :=
    (prepares_ensureCount _ _ _).andThen fun _ few =>
      ((compileEntries_compiles entriesOk).andThen (compiles_makeMap few)).imp (by simp) (by simp)
  refine .intro whole rfl ?_ ?_
  · intro all entry member
    have inside := all.2
    simp only [Expr.children, List.mem_flatMap, List.mem_cons, List.not_mem_nil, or_false] at inside
    exact ⟨inside _ ⟨entry, member, .inl rfl⟩, inside _ ⟨entry, member, .inr rfl⟩⟩
  · constructor
    · intro all
      refine ⟨trivial, ?_⟩
      simp only [Expr.children, List.mem_flatMap, List.mem_cons, List.not_mem_nil, or_false]
      intro child inside
      obtain ⟨entry, member, rfl | rfl⟩ := inside
      · exact (all entry member).1
      · exact (all entry member).2
    · intro all entry member
      have inside := all.2
      simp only [Expr.children, List.mem_flatMap, List.mem_cons, List.not_mem_nil, or_false] at inside
      exact ⟨inside _ ⟨entry, member, .inl rfl⟩, inside _ ⟨entry, member, .inr rfl⟩⟩

include itemsOk in
theorem compiled_call (kind : CallKind) (target : String) :
    Compiled limits (.call kind target items) := by
  have whole : Compiles limits True (compileExpr (.call kind target items)) 0 1
      (∀ item ∈ items, item.All Expr.TidyNode)
      ((∀ item ∈ items, item.All Expr.NamedNode) ∧ (Expr.call kind target items).NamedNode) :=
    (prepares_ensureCount _ _ _).andThen fun _ few =>
      ((compileAll_compiles itemsOk).andThen (compiles_callTarget few kind target)).imp (by simp) (by simp)
  exact .intro whole rfl And.right and_comm

include receiverOk itemsOk in
theorem compiled_callDynamic (method : String) (names : List String) :
    Compiled limits (.callDynamic receiver method names items) := by
  have whole : Compiles limits True (compileExpr (.callDynamic receiver method names items)) 0 1
      (receiver.All Expr.TidyNode ∧ ∀ item ∈ items, item.All Expr.TidyNode)
      ((receiver.All Expr.NamedNode ∧ ∀ item ∈ items, item.All Expr.NamedNode) ∧
        (Expr.callDynamic receiver method names items).NamedNode) :=
    (prepares_ensureCount _ _ _).andThen fun _ few =>
      (receiverOk.here.andThen (((compileAll_compiles itemsOk).frame 1).andThen
        (compiles_callMember few receiver method names))).imp (by simp) (by simp [and_assoc])
  exact .intro whole rfl (by simp [Expr.children]) (by simp [Expr.children, and_comm])

include receiverOk itemsOk in
theorem compiled_callClosure (names : List String) :
    Compiled limits (.callClosure receiver names items) := by
  have whole : Compiles limits True (compileExpr (.callClosure receiver names items)) 0 1
      (receiver.All Expr.TidyNode ∧ ∀ item ∈ items, item.All Expr.TidyNode)
      ((receiver.All Expr.NamedNode ∧ ∀ item ∈ items, item.All Expr.NamedNode) ∧
        (Expr.callClosure receiver names items).NamedNode) :=
    (prepares_ensureCount _ _ _).andThen fun _ few =>
      (receiverOk.here.andThen (((compileAll_compiles itemsOk).frame 1).andThen
        (compiles_callClosure few receiver names))).imp (by simp) (by simp [and_assoc])
  exact .intro whole rfl (by simp [Expr.children]) (by simp [Expr.children, and_comm])

include itemsOk in
theorem compiled_makeClosure (closure : ClosureSpec) : Compiled limits (.makeClosure closure items) := by
  have whole : Compiles limits True (compileExpr (.makeClosure closure items)) 0 1
      ((∀ item ∈ items, item.All Expr.TidyNode) ∧
        closureCaptures (closure.text items.length) = items.length)
      (∀ item ∈ items, item.All Expr.NamedNode) :=
    (prepares_ensureCount _ _ _).andThen fun _ _ =>
      ((compileAll_compiles itemsOk).andThen (compiles_makeClosure closure)).imp id (by simp)
  exact .intro whole rfl And.symm (by simp [Expr.NamedNode, Expr.children])

include itemsOk in
theorem compiled_newObject (constructor : String) (typeNames names : List String) :
    Compiled limits (.newObject constructor typeNames names items) := by
  have whole : Compiles limits True (compileExpr (.newObject constructor typeNames names items)) 0 1
      (∀ item ∈ items, item.All Expr.TidyNode)
      ((∀ item ∈ items, item.All Expr.NamedNode) ∧
        (Expr.newObject constructor typeNames names items).NamedNode) :=
    (prepares_ensureCount _ _ _).andThen fun _ few =>
      ((compileAll_compiles itemsOk).andThen (compiles_newObject few constructor typeNames names)).imp
        (by simp) (by simp)
  exact .intro whole rfl And.right and_comm

end Lists

/-!
### Scopes, branches and protected code
-/

theorem compiled_letIn {locals : List (LocalSpec × Expr)} {body : Expr}
    (localsOk : ∀ entry ∈ locals, Compiled limits entry.2) (bodyOk : Compiled limits body) :
    Compiled limits (.letIn locals body) := by
  have whole : Compiles limits True (compileLocals [] locals >>= _) 0 1 _ _ :=
    compileLocals_compiles localsOk (fun _ member => absurd member List.not_mem_nil)
      fun known previous restorable => bodyOk.here.andThen (prepares_restore restorable).compiles
  refine .intro whole rfl ?_ ?_
  · intro all
    refine ⟨fun entry member => all.2 _ ?_, all.2 body ?_, trivial⟩
    · exact List.mem_append_left _ (List.mem_map_of_mem member)
    · simp [Expr.children]
  · simp only [Expr.NamedNode, Expr.children, List.forall_mem_append, List.forall_mem_map,
      List.forall_mem_singleton, true_and, and_true]

theorem compiled_conditional {condition thenExpr elseExpr : Expr}
    (conditionOk : Compiled limits condition) (thenOk : Compiled limits thenExpr)
    (elseOk : Compiled limits elseExpr) :
    Compiled limits (.conditional condition thenExpr elseExpr) :=
  .intro (Compiles.conditional conditionOk.here thenOk.here elseOk.here) rfl
    (by simp [Expr.children]) (by simp [Expr.NamedNode, Expr.children])

theorem compiled_tryCatch {body catchBody : Expr} (bodyOk : Compiled limits body)
    (catchLocal : Int64) (catchOk : Compiled limits catchBody) :
    Compiled limits (.tryCatch body catchLocal catchBody) :=
  .intro (Compiles.tryCatch catchLocal bodyOk.here catchOk.here) rfl
    (by simp [Expr.children]) (by simp [Expr.NamedNode, Expr.children])

theorem compileExpr_tryFinally (body finalizer : Expr) (preserveValue : Bool) :
    compileExpr (.tryFinally body finalizer preserveValue) = (do
      let valueLocal ← if preserveValue then some <$> allocateLocal else pure none
      op .tryFinally
      let finallyPatch ← reserveU16
      let endOperandPatch ← reserveU16
      compileExpr body
      match valueLocal with
      | some valueLocal => storeLocal valueLocal
      | none => pure ()
      op .jump
      let endJumpPatch ← reserveU16
      patchHere finallyPatch
      compileExpr finalizer
      op .pop
      op .endFinally
      patchHere endOperandPatch
      patchHere endJumpPatch
      match valueLocal with
      | some valueLocal => loadLocal valueLocal
      | none => loadConst .nothing) := rfl

theorem compiled_tryFinally {body finalizer : Expr} (bodyOk : Compiled limits body)
    (finalizerOk : Compiled limits finalizer) (preserveValue : Bool) :
    Compiled limits (.tryFinally body finalizer preserveValue) := by
  cases preserveValue with
  | true =>
      have whole : Compiles limits True (allocateLocal >>= fun slot => _) 0 1 _ _ :=
        prepares_allocateLocal.andThen fun slot small =>
          Compiles.tryFinally bodyOk.here (compiles_storeLocal small And.right) finalizerOk.here
            (compiles_loadLocal small And.right)
      exact .intro whole (bind_map_left some allocateLocal _) (by simp [Expr.children])
        (by simp [Expr.NamedNode, Expr.children])
  | false =>
      -- the value of the body stays on the stack
      have whole : Compiles limits True _ 0 1 _ _ := Compiles.tryFinally bodyOk.here
        (compiles_nothing : Compiles limits True (pure ()) 1 1 True True) finalizerOk.here
        (compiles_loadConst .nothing)
      refine .intro whole ?_ (by simp [Expr.TidyNode]) (by simp [Expr.NamedNode, Expr.children])
      simp only [compileExpr_tryFinally, Bool.false_eq_true, if_false, pure_bind]

/-!
### Loops
-/

/-- A part of a guard, and the condition behind it. -/
theorem compiles_guarded {before : Option Expr} {condition : Expr}
    (beforeOk : ∀ expr ∈ before.toList, Compiled limits expr)
    (conditionOk : Compiled limits condition) :
    Compiles limits given (compileDiscarded before >>= fun _ => compileExpr condition) 0 1
      ((∀ expr ∈ before.toList, expr.All Expr.TidyNode) ∧ condition.All Expr.TidyNode)
      ((∀ expr ∈ before.toList, expr.All Expr.NamedNode) ∧ condition.All Expr.NamedNode) :=
  (compileDiscarded_compiles beforeOk).andThen conditionOk.here

theorem forall_guardParts {p : Expr → Prop} {before after : Option Expr} {condition : Expr} :
    (∀ child ∈ Expr.guardParts before (some condition) after, p child) ↔
      (∀ child ∈ before.toList, p child) ∧ p condition ∧ ∀ child ∈ after.toList, p child := by
  simp only [Expr.guardParts, List.forall_mem_append, List.forall_mem_cons]

theorem forall_noGuard {p : Expr → Prop} {before after : Option Expr} :
    (∀ child ∈ Expr.guardParts before none after, p child) ↔ True := by
  simp [Expr.guardParts]

section While

theorem forall_whileLoop {p : Expr → Prop} {condition body : Expr}
    {beforeContinue continueCondition continueBody beforeBreak breakCondition breakBody : Option Expr} :
    (∀ child ∈ (Expr.whileLoop condition beforeContinue continueCondition continueBody beforeBreak
      breakCondition breakBody body).children, p child) ↔
      p condition ∧
        (∀ child ∈ Expr.guardParts beforeContinue continueCondition continueBody, p child) ∧
        (∀ child ∈ Expr.guardParts beforeBreak breakCondition breakBody, p child) ∧ p body := by
  simp only [Expr.children, List.forall_mem_cons, List.forall_mem_append, List.not_mem_nil,
    IsEmpty.forall_iff, implies_true, and_true]

variable {condition body : Expr} {beforeContinue continueBody beforeBreak breakBody : Option Expr}
  (conditionOk : Compiled limits condition) (bodyOk : Compiled limits body)

include conditionOk bodyOk in
theorem compiled_whileLoop {continueCondition breakCondition : Option Expr}
    (continueOk : ∀ part ∈ Expr.guardParts beforeContinue continueCondition continueBody,
      Compiled limits part)
    (breakOk : ∀ part ∈ Expr.guardParts beforeBreak breakCondition breakBody, Compiled limits part) :
    Compiled limits (.whileLoop condition beforeContinue continueCondition continueBody beforeBreak
      breakCondition breakBody body) := by
  have popped : ∀ {given : Prop}, Compiles limits given (compileExpr body >>= fun _ => op .pop) 0 0
      (body.All Expr.TidyNode ∧ True) (body.All Expr.NamedNode ∧ True) :=
    bodyOk.here.andThen compiles_pop
  have unguarded : ∀ loopStart, CompilesIn limits True loopStart (pure () >>= fun _ => pure ())
      (fun _ => True) (fun _ => True) True True :=
    compiles_nothing.inLoop prepares_nothing
  cases continueCondition with
  | none =>
      cases breakCondition with
      | none =>
          have whole := Compiles.cycle conditionOk.here unguarded (fun _ _ => popped)
            (compiles_loadConst .nothing)
          simp only [bind_assoc, pure_bind] at whole
          refine .intro whole rfl ?_ ?_
          · simp only [forall_whileLoop, forall_noGuard]
            tauto
          · simp only [Expr.NamedNode, forall_whileLoop, forall_noGuard]
            tauto
      | some breakCondition =>
          obtain ⟨beforeOk, exitOk, afterOk⟩ := forall_guardParts.mp breakOk
          have whole := Compiles.cycleExit conditionOk.here unguarded
            (compiles_guarded beforeOk exitOk) (compileDiscarded_compiles afterOk)
            (fun _ _ => popped) (compiles_loadConst .nothing)
          simp only [bind_assoc, pure_bind] at whole
          refine .intro whole rfl ?_ ?_
          · simp only [forall_whileLoop, forall_noGuard, forall_guardParts]
            tauto
          · simp only [Expr.NamedNode, forall_whileLoop, forall_noGuard, forall_guardParts]
            tauto
  | some continueCondition =>
      obtain ⟨beforeOk, restartOk, afterOk⟩ := forall_guardParts.mp continueOk
      have restart : ∀ loopStart, CompilesIn limits True loopStart _ _ _ _ _ := fun loopStart =>
        .restart loopStart (compiles_guarded beforeOk restartOk) (compileDiscarded_compiles afterOk)
      cases breakCondition with
      | none =>
          have whole := Compiles.cycle conditionOk.here restart (fun _ _ => popped)
            (compiles_loadConst .nothing)
          simp only [bind_assoc] at whole
          refine .intro whole rfl ?_ ?_
          · simp only [forall_whileLoop, forall_noGuard, forall_guardParts]
            tauto
          · simp only [Expr.NamedNode, forall_whileLoop, forall_noGuard, forall_guardParts]
            tauto
      | some breakCondition =>
          obtain ⟨beforeOk, exitOk, afterOk⟩ := forall_guardParts.mp breakOk
          have whole := Compiles.cycleExit conditionOk.here restart
            (compiles_guarded beforeOk exitOk) (compileDiscarded_compiles afterOk)
            (fun _ _ => popped) (compiles_loadConst .nothing)
          simp only [bind_assoc] at whole
          refine .intro whole rfl ?_ ?_
          · simp only [forall_whileLoop, forall_guardParts]
            tauto
          · simp only [Expr.NamedNode, forall_whileLoop, forall_guardParts]
            tauto

end While

/-!
### Iteration
-/

section Iteration

variable {source : Expr} {iterator : Nat}

theorem compiles_getIterator (sourceOk : Compiled limits source) (small : iterator < 256)
    (inside : given → iterator < limits.locals) :
    Compiles limits given
      (do
        compileExpr source
        callDynamic "get:iterator" 0
        storeLocal iterator)
      0 0 (source.All Expr.TidyNode) (source.All Expr.NamedNode) :=
  (sourceOk.here.andThen ((compiles_callMethod "get:iterator" 0 (by decide) (by decide)).andThen
    (compiles_storeLocal small inside))).imp (by simp) (by simp)

theorem compiles_moveNext (small : iterator < 256) (inside : given → iterator < limits.locals) :
    Compiles limits given (loadLocal iterator >>= fun _ => callDynamic "moveNext" 0) 0 1 True True :=
  ((compiles_loadLocal small inside).andThen
    (compiles_callMethod "moveNext" 0 (by decide) (by decide))).imp (by simp) (by simp)

theorem compiles_current (small : iterator < 256) (inside : given → iterator < limits.locals) :
    Compiles limits given (loadLocal iterator >>= fun _ => callDynamic "get:current" 0) 0 1 True
      True :=
  ((compiles_loadLocal small inside).andThen
    (compiles_callMethod "get:current" 0 (by decide) (by decide))).imp (by simp) (by simp)

/-- A loop over the values of an iterator. -/
theorem compiles_iteration {body tail : Compile Unit} {tidy₁ tidy₂ named₁ named₂ : Prop}
    (small : iterator < 256) (inside : given → iterator < limits.locals)
    (bodyOk : Compiles limits given body 0 0 tidy₁ named₁)
    (tailOk : Compiles limits given tail 0 1 tidy₂ named₂) :
    Compiles limits given
      (do
        let loopStart ← position
        loadLocal iterator
        callDynamic "moveNext" 0
        op .jumpIfFalse
        let endPatch ← reserveU16
        body
        op .jump
        u16 loopStart
        patchHere endPatch
        tail)
      0 1 (tidy₁ ∧ tidy₂) (named₁ ∧ named₂) := by
  have whole := Compiles.cycle (compiles_moveNext small inside)
    (compiles_nothing.inLoop prepares_nothing) (fun _ _ => bodyOk.knowing And.left) tailOk
  simp only [bind_assoc, pure_bind] at whole
  exact whole.imp (by simp) (by simp)

theorem compiled_yieldAll (sourceOk : Compiled limits source) : Compiled limits (.yieldAll source) := by
  have whole : Compiles limits True (allocateLocal >>= fun iterator => _) 0 1 _ _ :=
    prepares_allocateLocal.andThen fun iterator small =>
      (compiles_getIterator sourceOk small And.right).andThen
        (compiles_iteration small And.right
          ((compiles_current small And.right).andThen (compiles_op rfl fun _ => piece_yield))
          (compiles_loadConst .nothing))
  simp only [bind_assoc] at whole
  exact .intro whole rfl (by simp [Expr.children]) (by simp [Expr.NamedNode, Expr.children])

/-- The name is bound to a slot; the result is its former binding. -/
theorem prepares_enter (id : Int64) {slot : Nat} (small : slot < 256)
    (inside : given → slot < limits.locals) :
    Prepares limits given
      (do
        let previous ← scopedLocal id
        bindLocal id (some slot)
        pure previous)
      (fun previous => ∀ index, previous = some index → index < 256) (SlotWithin limits) := by
  intro now ready known
  refine (scopedLocal_spec (.knowing ready known) id).bind fun previous after found => ?_
  obtain ⟨smallPrevious, progress⟩ := found
  refine (bindLocal_spec progress id ?_ ?_).bind fun _ after progress => ?_
  · intro index same
    cases same
    exact small
  · intro holds index same
    cases same
    exact inside holds.1
  · exact ensures_pure ⟨smallPrevious, progress.imp And.right⟩

section YieldForIn

variable {body : Expr} {beforeBreak breakCondition : Option Expr}

/-- The current value is stored in the slot of the item. -/
theorem compiles_item (item : LocalSpec) {current : Nat} (small : iterator < 256)
    (inside : given → iterator < limits.locals) (currentSmall : current < 256)
    (currentInside : given → current < limits.locals) (loopStart : Nat) :
    CompilesIn limits given loopStart
      (do
        loadLocal iterator
        callDynamic "get:current" 0
        storeLocal current
        nameLocal current item.name
        let previous ← scopedLocal item.id
        bindLocal item.id (some current)
        pure previous)
      (fun previous => ∀ index, previous = some index → index < 256) (SlotWithin limits) True True := by
  have stored : Compiles limits given _ 0 0 True True := ((compiles_current small inside).andThen
    ((compiles_storeLocal currentSmall currentInside).andThen
      (prepares_nameLocal currentInside item.name).compiles)).imp (by simp) (by simp)
  have whole := stored.inLoop (prepares_enter item.id currentSmall currentInside) loopStart
  simp only [bind_assoc] at whole
  exact whole

theorem compiled_yieldForIn (sourceOk : Compiled limits source) (item : LocalSpec)
    (breakOk : ∀ part ∈ Expr.guardParts beforeBreak breakCondition none, Compiled limits part)
    (bodyOk : Compiled limits body) :
    Compiled limits (.yieldForIn source item beforeBreak breakCondition body) := by
  have left : ∀ {given : Prop} (previous : Option Nat),
      (∀ index, previous = some index → index < 256) →
      Compiles limits (given ∧ SlotWithin limits previous)
        (do
          compileExpr body
          bindLocal item.id previous
          op .pop)
        0 0 (body.All Expr.TidyNode ∧ True ∧ True) (body.All Expr.NamedNode ∧ True ∧ True) :=
    fun previous small => bodyOk.here.andThen
      ((prepares_bindLocal item.id small And.right).compiles.andThen compiles_pop)
  cases breakCondition with
  | none =>
      have whole : Compiles limits True (allocateLocal >>= fun iterator => _) 0 1 _ _ :=
        prepares_allocateLocal.andThen fun iterator small =>
          prepares_allocateLocal.andThen fun current currentSmall =>
            (compiles_getIterator sourceOk small fun holds => holds.1.2).andThen
              (Compiles.cycle (compiles_moveNext small fun holds => holds.1.2)
                (compiles_item item small (fun holds => holds.1.2) currentSmall And.right) left
                (compiles_loadConst .nothing))
      simp only [bind_assoc, pure_bind] at whole
      refine .intro whole rfl ?_ ?_
      · simp [Expr.children, Expr.guardParts]
      · simp [Expr.NamedNode, Expr.children, Expr.guardParts]
  | some breakCondition =>
      obtain ⟨beforeOk, exitOk, _⟩ := forall_guardParts.mp breakOk
      have whole : Compiles limits True (allocateLocal >>= fun iterator => _) 0 1 _ _ :=
        prepares_allocateLocal.andThen fun iterator small =>
          prepares_allocateLocal.andThen fun current currentSmall =>
            (compiles_getIterator sourceOk small fun holds => holds.1.2).andThen
              (Compiles.cycleExit (compiles_moveNext small fun holds => holds.1.2)
                (compiles_item item small (fun holds => holds.1.2) currentSmall And.right)
                (compiles_guarded beforeOk exitOk) compiles_nothing left
                (compiles_loadConst .nothing))
      simp only [bind_assoc, pure_bind] at whole
      refine .intro whole rfl ?_ ?_
      · simp only [Expr.children, List.forall_mem_cons, List.forall_mem_append, forall_guardParts]
        simp
      · simp only [Expr.NamedNode, Expr.children, List.forall_mem_cons, List.forall_mem_append,
          forall_guardParts]
        simp

end YieldForIn

/-!
### Appending to a collection

The call that appends leaves its result on the stack.
-/

section Append

variable {receiver : Expr}

/-- What follows the list or the map. -/
theorem compiles_spread {spread : Expr} (spreadOk : Compiled limits spread) {slot : Nat} (small : slot < 256)
    (inside : given → slot < limits.locals) :
    Compiles limits given
      (do
        storeLocal slot
        loadLocal slot
        compileExpr spread
        callDynamic "addAll" 1
        loadLocal slot)
      1 2 (spread.All Expr.TidyNode) (spread.All Expr.NamedNode) :=
  ((compiles_storeLocal small inside).andThen ((compiles_loadLocal small inside).andThen
    ((spreadOk.here.frame 1).andThen ((compiles_callMethod "addAll" 1 (by decide) (by decide)).andThen
      ((compiles_loadLocal small inside).frame 1))))).imp (by simp) (by simp)

theorem compiled_addAll {spread : Expr} (kind : CollectionKind) (receiverOk : Compiled limits receiver)
    (spreadOk : Compiled limits spread) : Compiled limits (.addAll kind receiver spread) := by
  have whole : Compiles limits True (allocateLocal >>= fun slot => _) 0 1 False _ :=
    prepares_allocateLocal.andThen fun slot small =>
      (receiverOk.here.andThen (compiles_spread spreadOk small And.right)).untidy fun _ => Nat.zero_lt_two
  exact .intro whole rfl (by simp [Expr.TidyNode]) (by simp [Expr.NamedNode, Expr.children])

section Loops

variable {result current : Nat} {body : Compile Unit} {tidyBody namedBody : Prop} (small : iterator < 256)
  (inside : given → iterator < limits.locals) (resultSmall : result < 256)
  (resultInside : given → result < limits.locals) (currentSmall : current < 256)
  (currentInside : given → current < limits.locals)

include small inside resultSmall resultInside

/-- What follows the collection that values are added to. -/
theorem compiles_gathering (sourceOk : Compiled limits source)
    (bodyOk : Compiles limits given body 0 0 tidyBody namedBody) :
    Compiles limits given
      (do
        storeLocal result
        compileExpr source
        callDynamic "get:iterator" 0
        storeLocal iterator
        let loopStart ← position
        loadLocal iterator
        callDynamic "moveNext" 0
        op .jumpIfFalse
        let endPatch ← reserveU16
        body
        op .jump
        u16 loopStart
        patchHere endPatch
        loadLocal result)
      1 1 (source.All Expr.TidyNode ∧ tidyBody) (source.All Expr.NamedNode ∧ namedBody) := by
  have whole := (compiles_storeLocal resultSmall resultInside).andThen
    ((compiles_getIterator sourceOk small inside).andThen
      (compiles_iteration small inside bodyOk (compiles_loadLocal resultSmall resultInside)))
  simp only [bind_assoc] at whole
  exact whole.imp (by simp) (by simp)

theorem compiles_addCurrent :
    Compiles limits given
      (do
        loadLocal result
        loadLocal iterator
        callDynamic "get:current" 0
        callDynamic "add" 1)
      0 0 False True := by
  have whole := ((compiles_loadLocal resultSmall resultInside).andThen
    (((compiles_current small inside).frame 1).andThen
      (compiles_callMethod "add" 1 (by decide) (by decide)))).untidy fun less => absurd less (Nat.lt_irrefl 0)
  simp only [bind_assoc] at whole
  exact whole.imp id (by simp)

include currentSmall currentInside

theorem compiles_addValue {value : Expr} (valueOk : Compiled limits value) (item : Int64) :
    Compiles limits given
      (do
        loadLocal iterator
        callDynamic "get:current" 0
        storeLocal current
        loadLocal result
        withLocal item current (compileExpr value)
        callDynamic "add" 1)
      0 0 False (value.All Expr.NamedNode) := by
  have whole := ((compiles_current small inside).andThen ((compiles_storeLocal currentSmall currentInside).andThen
    ((compiles_loadLocal resultSmall resultInside).andThen
      (((valueOk.here.bound currentSmall currentInside item).frame 1).andThen
        (compiles_callMethod "add" 1 (by decide) (by decide)))))).untidy
      fun less => absurd less (Nat.lt_irrefl 0)
  simp only [bind_assoc] at whole
  exact whole.imp id (by simp)

theorem compiles_putEntry :
    Compiles limits given
      (do
        loadLocal iterator
        callDynamic "get:current" 0
        storeLocal current
        loadLocal result
        loadLocal current
        callDynamic "get:key" 0
        loadLocal current
        callDynamic "get:value" 0
        callDynamic "[]=" 2)
      0 0 False True := by
  have whole := ((compiles_current small inside).andThen ((compiles_storeLocal currentSmall currentInside).andThen
    ((compiles_loadLocal resultSmall resultInside).andThen
      (((compiles_loadLocal currentSmall currentInside).frame 1).andThen
        (((compiles_callMethod "get:key" 0 (by decide) (by decide)).frame 1).andThen
          (((compiles_loadLocal currentSmall currentInside).frame 2).andThen
            (((compiles_callMethod "get:value" 0 (by decide) (by decide)).frame 2).andThen
              (compiles_callMethod "[]=" 2 (by decide) (by decide))))))))).untidy
      fun less => absurd less (Nat.lt_irrefl 0)
  simp only [bind_assoc] at whole
  exact whole.imp id (by simp)

theorem compiles_putValue {key value : Expr} (keyOk : Compiled limits key) (valueOk : Compiled limits value)
    (entry : Int64) :
    Compiles limits given
      (do
        loadLocal iterator
        callDynamic "get:current" 0
        storeLocal current
        loadLocal result
        withLocal entry current (do
          compileExpr key
          compileExpr value)
        callDynamic "[]=" 2)
      0 0 False (key.All Expr.NamedNode ∧ value.All Expr.NamedNode) := by
  have whole := ((compiles_current small inside).andThen ((compiles_storeLocal currentSmall currentInside).andThen
    ((compiles_loadLocal resultSmall resultInside).andThen
      ((((keyOk.here.andThen (valueOk.here.frame 1)).bound currentSmall currentInside entry).frame 1).andThen
        (compiles_callMethod "[]=" 2 (by decide) (by decide)))))).untidy
      fun less => absurd less (Nat.lt_irrefl 0)
  simp only [bind_assoc] at whole
  exact whole.imp id (by simp)

end Loops

theorem compiled_listForIn (receiverOk : Compiled limits receiver) (sourceOk : Compiled limits source) :
    Compiled limits (.listForIn receiver source) := by
  have whole : Compiles limits True (allocateLocal >>= fun result => _) 0 1 False _ :=
    prepares_allocateLocal.andThen fun result resultSmall =>
      prepares_allocateLocal.andThen fun iterator small =>
        (receiverOk.here.andThen
          (compiles_gathering small And.right resultSmall (fun holds => holds.1.2) sourceOk
            (compiles_addCurrent small And.right resultSmall fun holds => holds.1.2))).untidy id
  simp only [bind_assoc] at whole
  exact .intro whole rfl (by simp [Expr.TidyNode]) (by simp [Expr.NamedNode, Expr.children])

theorem compiled_listForInMapped {value : Expr} (receiverOk : Compiled limits receiver)
    (sourceOk : Compiled limits source) (item : Int64) (valueOk : Compiled limits value) :
    Compiled limits (.listForInMapped receiver source item value) := by
  have whole : Compiles limits True (allocateLocal >>= fun result => _) 0 1 False _ :=
    prepares_allocateLocal.andThen fun result resultSmall =>
      prepares_allocateLocal.andThen fun iterator small =>
        prepares_allocateLocal.andThen fun current currentSmall =>
          (receiverOk.here.andThen
            (compiles_gathering small (fun holds => holds.1.2) resultSmall (fun holds => holds.1.1.2) sourceOk
              (compiles_addValue small (fun holds => holds.1.2) resultSmall (fun holds => holds.1.1.2)
                currentSmall And.right valueOk item))).untidy id
  simp only [bind_assoc] at whole
  exact .intro whole rfl (by simp [Expr.TidyNode]) (by simp [Expr.NamedNode, Expr.children])

theorem compiled_mapForIn (receiverOk : Compiled limits receiver) (sourceOk : Compiled limits source) :
    Compiled limits (.mapForIn receiver source) := by
  have whole : Compiles limits True (allocateLocal >>= fun result => _) 0 1 False _ :=
    prepares_allocateLocal.andThen fun result resultSmall =>
      prepares_allocateLocal.andThen fun iterator small =>
        prepares_allocateLocal.andThen fun current currentSmall =>
          (receiverOk.here.andThen
            (compiles_gathering small (fun holds => holds.1.2) resultSmall (fun holds => holds.1.1.2) sourceOk
              (compiles_putEntry small (fun holds => holds.1.2) resultSmall (fun holds => holds.1.1.2)
                currentSmall And.right))).untidy id
  simp only [bind_assoc] at whole
  exact .intro whole rfl (by simp [Expr.TidyNode]) (by simp [Expr.NamedNode, Expr.children])

theorem compiled_mapForInMapped {key value : Expr} (receiverOk : Compiled limits receiver)
    (sourceOk : Compiled limits source) (entry : Int64) (keyOk : Compiled limits key)
    (valueOk : Compiled limits value) :
    Compiled limits (.mapForInMapped receiver source entry key value) := by
  have whole : Compiles limits True (allocateLocal >>= fun result => _) 0 1 False _ :=
    prepares_allocateLocal.andThen fun result resultSmall =>
      prepares_allocateLocal.andThen fun iterator small =>
        prepares_allocateLocal.andThen fun current currentSmall =>
          (receiverOk.here.andThen
            (compiles_gathering small (fun holds => holds.1.2) resultSmall (fun holds => holds.1.1.2) sourceOk
              (compiles_putValue small (fun holds => holds.1.2) resultSmall (fun holds => holds.1.1.2)
                currentSmall And.right keyOk valueOk entry))).untidy id
  simp only [bind_assoc] at whole
  exact .intro whole rfl (by simp [Expr.TidyNode]) (by simp [Expr.NamedNode, Expr.children])

end Append

end Iteration

/-!
## All expressions
-/

/-- Every expression that compiles is compiled to a piece that leaves one value. -/
theorem compileExpr_compiled (limits : Limits) (expr : Expr) : Compiled limits expr := by
  induction expr using Expr.induct with
  | step expr below =>
      cases expr with
      | const constant => exact compiled_const constant
      | arg name => exact compiled_arg name
      | letLocal id => exact compiled_letLocal id
      | letIn locals body =>
          refine compiled_letIn (fun entry member => below _ ?_) (below _ ?_)
          · exact List.mem_append_left _ (List.mem_map_of_mem member)
          · simp [Expr.children]
      | setLocal id value => exact compiled_setLocal (below _ (by simp [Expr.children])) id
      | whileLoop =>
          obtain ⟨conditionOk, continueOk, breakOk, bodyOk⟩ := forall_whileLoop.mp below
          exact compiled_whileLoop conditionOk bodyOk continueOk breakOk
      | less left right =>
          exact compiled_less (below _ (by simp [Expr.children])) (below _ (by simp [Expr.children]))
      | binary operator left right =>
          exact compiled_binary (below _ (by simp [Expr.children]))
            (below _ (by simp [Expr.children])) operator
      | conditional condition thenExpr elseExpr =>
          exact compiled_conditional (below _ (by simp [Expr.children]))
            (below _ (by simp [Expr.children])) (below _ (by simp [Expr.children]))
      | throw value => exact compiled_throw (below _ (by simp [Expr.children]))
      | seq items => exact compiled_seq below
      | yield value => exact compiled_yield (below _ (by simp [Expr.children]))
      | yieldAll source => exact compiled_yieldAll (below _ (by simp [Expr.children]))
      | yieldForIn source item beforeBreak breakCondition body =>
          simp only [Expr.children, List.forall_mem_cons, List.forall_mem_append] at below
          exact compiled_yieldForIn below.1 item below.2.1 (below.2.2.1)
      | await value => exact compiled_await (below _ (by simp [Expr.children]))
      | tryFinally body finalizer preserveValue =>
          exact compiled_tryFinally (below _ (by simp [Expr.children]))
            (below _ (by simp [Expr.children])) preserveValue
      | tryCatch body catchLocal catchBody =>
          exact compiled_tryCatch (below _ (by simp [Expr.children])) catchLocal
            (below _ (by simp [Expr.children]))
      | call kind target args => exact compiled_call below kind target
      | callDynamic receiver method names args =>
          simp only [Expr.children, List.forall_mem_cons] at below
          exact compiled_callDynamic below.1 below.2 method names
      | callClosure closure names args =>
          simp only [Expr.children, List.forall_mem_cons] at below
          exact compiled_callClosure below.1 below.2 names
      | makeClosure closure captures => exact compiled_makeClosure below closure
      | newObject constructor typeNames names args =>
          exact compiled_newObject below constructor typeNames names
      | concat parts => exact compiled_concat below
      | list items => exact compiled_list below
      | map entries =>
          refine compiled_map fun entry member => ⟨below _ ?_, below _ ?_⟩
          all_goals
            simp only [Expr.children, List.mem_flatMap, List.mem_cons, List.not_mem_nil, or_false]
          · exact ⟨entry, member, .inl rfl⟩
          · exact ⟨entry, member, .inr rfl⟩
      | addAll kind receiver spread =>
          exact compiled_addAll kind (below _ (by simp [Expr.children]))
            (below _ (by simp [Expr.children]))
      | listForIn receiver source =>
          exact compiled_listForIn (below _ (by simp [Expr.children]))
            (below _ (by simp [Expr.children]))
      | listForInMapped receiver source item value =>
          exact compiled_listForInMapped (below _ (by simp [Expr.children]))
            (below _ (by simp [Expr.children])) item (below _ (by simp [Expr.children]))
      | mapForIn receiver source =>
          exact compiled_mapForIn (below _ (by simp [Expr.children]))
            (below _ (by simp [Expr.children]))
      | mapForInMapped receiver source entry key value =>
          exact compiled_mapForInMapped (below _ (by simp [Expr.children]))
            (below _ (by simp [Expr.children])) entry (below _ (by simp [Expr.children]))
            (below _ (by simp [Expr.children]))
      | getField receiver field => exact compiled_getField (below _ (by simp [Expr.children])) field
      | setField receiver field value =>
          exact compiled_setField (below _ (by simp [Expr.children]))
            (below _ (by simp [Expr.children])) field
      | isType value type => exact compiled_isType (below _ (by simp [Expr.children])) type
      | asType value type => exact compiled_asType (below _ (by simp [Expr.children])) type

end Expressions

end CodePush.Compiler
