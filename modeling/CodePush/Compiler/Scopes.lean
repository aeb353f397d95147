import CodePush.Compiler.Expressions

/-!
# Scopes and slots

A compiled expression leaves `scopedLocals` and the parameters as they were, and hands out slots in the order of
their numbers.
-/

set_option autoImplicit false

namespace CodePush.Compiler

open CodePush.Foundation CodePush.Foundation.Action

/-- The slots that `allocateLocal` hands out while an action runs. Nothing else changes `localCount`. -/
inductive HandsOut : {α : Type} → Compile α → RestrictedBytecodeCompiler → α → RestrictedBytecodeCompiler →
    List Nat → Prop where
  | allocate {start finish : RestrictedBytecodeCompiler} {slot : Nat}
      (ended : allocateLocal start = (.ok slot, finish)) : HandsOut allocateLocal start slot finish [slot]
  | nothing {α : Type} {action : Compile α} {start finish : RestrictedBytecodeCompiler} {value : α}
      (ended : action start = (.ok value, finish)) (kept : finish.localCount = start.localCount) :
      HandsOut action start value finish []
  | bind {α β : Type} {first : Compile α} {next : α → Compile β} {start middle finish : RestrictedBytecodeCompiler}
      {value : α} {result : β} {earlier later : List Nat} (front : HandsOut first start value middle earlier)
      (rest : HandsOut (next value) middle result finish later) :
      HandsOut (first >>= next) start result finish (earlier ++ later)

/-- The scopes and the parameters are as they were, and slots have been handed out. -/
structure Restored {α : Type} (action : Compile α) (start : RestrictedBytecodeCompiler) (value : α)
    (finish : RestrictedBytecodeCompiler) : Prop where
  scopes : finish.scopedLocals = start.scopedLocals
  params : finish.params = start.params
  slots : ∃ slots, HandsOut action start value finish slots

/-- The action leaves the scopes and the parameters as it found them. -/
class Restores {α : Type} (action : Compile α) : Prop where
  restored : ∀ start value finish, action start = (.ok value, finish) → Restored action start value finish

/-- A `let` binds distinct ids. -/
def DistinctIds : Expr → Prop
  | .letIn locals _ => (locals.map (·.1.id)).Nodup
  | _ => True

/-!
## Slots
-/

section Slots

variable {α : Type} {action : Compile α} {start finish : RestrictedBytecodeCompiler} {value : α} {slots : List Nat}

theorem allocateLocal_ended {slot : Nat} (ended : allocateLocal start = (.ok slot, finish)) :
    slot = start.localCount ∧ finish = { start with localCount := start.localCount + 1 } := by
  unfold allocateLocal at ended
  obtain ⟨read, middle, got, later⟩ := bind_eq_ok.mp ended
  obtain ⟨rfl, rfl⟩ := get_eq_ok.mp got
  split at later
  · cases throw_ne_ok later
  · obtain ⟨_, after, modified, returned⟩ := bind_eq_ok.mp later
    obtain ⟨same, rfl⟩ := pure_eq_ok.mp returned
    exact ⟨same, modify_eq_ok.mp modified⟩

/-- Slots are handed out one after another, from `localCount` on. -/
theorem HandsOut.consecutive (handsOut : HandsOut action start value finish slots) :
    slots = List.range' start.localCount slots.length ∧ finish.localCount = start.localCount + slots.length := by
  induction handsOut with
  | allocate ended =>
      obtain ⟨rfl, rfl⟩ := allocateLocal_ended ended
      exact ⟨rfl, rfl⟩
  | nothing _ kept => exact ⟨rfl, kept⟩
  | @bind _ _ _ _ _ _ _ _ _ earlier later _ _ frontIH restIH =>
      obtain ⟨inFront, middleCount⟩ := frontIH
      obtain ⟨inRest, finishCount⟩ := restIH
      rw [middleCount] at inRest finishCount
      constructor
      · rw [List.length_append, ← List.range'_append_1, ← inFront, ← inRest]
      · rw [finishCount, List.length_append]
        omega

/-- The slots are the new ones, each once. -/
theorem HandsOut.distinct (handsOut : HandsOut action start value finish slots) :
    slots.Nodup ∧ ∀ slot, slot ∈ slots ↔ start.localCount ≤ slot ∧ slot < finish.localCount := by
  obtain ⟨inOrder, count⟩ := handsOut.consecutive
  rw [inOrder, count]
  exact ⟨List.nodup_range', fun slot => List.mem_range'_1⟩

end Slots

/-!
## Actions that restore
-/

section Actions

variable {α β : Type}

theorem restores_modify {update : RestrictedBytecodeCompiler → RestrictedBytecodeCompiler}
    (scopes : ∀ compiler, (update compiler).scopedLocals = compiler.scopedLocals)
    (params : ∀ compiler, (update compiler).params = compiler.params)
    (count : ∀ compiler, (update compiler).localCount = compiler.localCount) :
    Restores (modify update : Compile PUnit) where
  restored := by
    intro start value finish ended
    obtain rfl := modify_eq_ok.mp ended
    exact ⟨scopes start, params start, [], .nothing ended (count start)⟩

instance restores_pure (value : α) : Restores (pure value : Compile α) where
  restored := by
    intro start result finish ended
    obtain ⟨-, rfl⟩ := pure_eq_ok.mp ended
    exact ⟨rfl, rfl, [], .nothing ended rfl⟩

instance restores_get : Restores (get : Compile RestrictedBytecodeCompiler) where
  restored := by
    intro start result finish ended
    obtain ⟨-, rfl⟩ := get_eq_ok.mp ended
    exact ⟨rfl, rfl, [], .nothing ended rfl⟩

instance restores_exit (message : String) : Restores (exit message : Compile α) where
  restored := fun _ _ _ ended => absurd ended throw_ne_ok

theorem Restores.andThen {first : Compile α} {next : α → Compile β} [frontOk : Restores first]
    (restOk : ∀ value, Restores (next value)) : Restores (first >>= next) where
  restored := by
    intro start result finish ended
    obtain ⟨value, middle, front, rest⟩ := bind_eq_ok.mp ended
    obtain ⟨frontScopes, frontParams, earlier, handsOut⟩ := frontOk.restored _ _ _ front
    obtain ⟨restScopes, restParams, later, handsOut'⟩ := (restOk value).restored _ _ _ rest
    exact ⟨restScopes.trans frontScopes, restParams.trans frontParams, _, .bind handsOut handsOut'⟩

instance restores_bind {first : Compile α} {next : α → Compile β} [frontOk : Restores first]
    [restOk : ∀ value, Restores (next value)] : Restores (first >>= next) := .andThen restOk

instance restores_map {convert : α → β} {action : Compile α} [Restores action] : Restores (convert <$> action) := by
  rw [map_eq_pure_bind]
  infer_instance

instance restores_ite {condition : Prop} [Decidable condition] {yes no : Compile α} [Restores yes] [Restores no] :
    Restores (if condition then yes else no) := by
  split
  · infer_instance
  · infer_instance

instance restores_allocateLocal : Restores allocateLocal where
  restored := by
    intro start slot finish ended
    obtain ⟨-, rfl⟩ := allocateLocal_ended ended
    exact ⟨rfl, rfl, _, .allocate ended⟩

instance restores_code (code : RestrictedBytecodeCompiler → Core.Bytes) :
    Restores (modify fun compiler => { compiler with code := code compiler } : Compile PUnit) :=
  restores_modify (fun _ => rfl) (fun _ => rfl) (fun _ => rfl)

instance restores_constants (constants : RestrictedBytecodeCompiler → List ConstantSpec) :
    Restores (modify fun compiler => { compiler with constants := constants compiler } : Compile PUnit) :=
  restores_modify (fun _ => rfl) (fun _ => rfl) (fun _ => rfl)

instance restores_debugLocals (debugLocals : RestrictedBytecodeCompiler → List (Nat × String)) :
    Restores (modify fun compiler => { compiler with debugLocals := debugLocals compiler } : Compile PUnit) :=
  restores_modify (fun _ => rfl) (fun _ => rfl) (fun _ => rfl)

instance restores_op (opcode : Bytecode.OpCode) : Restores (op opcode) := restores_code _

instance restores_u8 (value : Nat) : Restores (u8 value) := restores_modify (fun _ => rfl) (fun _ => rfl) (fun _ => rfl)

instance restores_u16 (value : Nat) : Restores (u16 value) := restores_modify (fun _ => rfl) (fun _ => rfl) (fun _ => rfl)

instance restores_reserveU16 : Restores reserveU16 := by
  unfold reserveU16
  infer_instance

instance restores_patchU16 (offset value : Nat) : Restores (patchU16 offset value) := by
  unfold patchU16
  infer_instance

instance restores_position : Restores position := by
  unfold position
  infer_instance

instance restores_patchHere (offset : Nat) : Restores (patchHere offset) := by
  unfold patchHere
  infer_instance

instance restores_addConst (constant : ConstantSpec) : Restores (addConst constant) := by
  apply Restores.andThen
  intro compiler
  dsimp only
  split
  · infer_instance
  · infer_instance

instance restores_loadConst (constant : ConstantSpec) : Restores (loadConst constant) := by
  unfold loadConst
  infer_instance

instance restores_loadLocal (index : Nat) : Restores (loadLocal index) := by
  unfold loadLocal
  infer_instance

instance restores_storeLocal (index : Nat) : Restores (storeLocal index) := by
  unfold storeLocal
  infer_instance

instance restores_named (opcode : Bytecode.OpCode) (text : String) : Restores (named opcode text) := by
  unfold named
  infer_instance

instance restores_callNamed (opcode : Bytecode.OpCode) (text : String) (argc : Nat) :
    Restores (callNamed opcode text argc) := by
  unfold callNamed
  infer_instance

instance restores_callDynamic (method : String) (argc : Nat) : Restores (callDynamic method argc) := by
  unfold callDynamic
  infer_instance

instance restores_ensureCount (count limit : Nat) (message : String) : Restores (ensureCount count limit message) := by
  unfold ensureCount
  infer_instance

instance restores_ensureArguments (label : String) (args : List Expr) : Restores (ensureArguments label args) := by
  unfold ensureArguments
  infer_instance

instance restores_closureMetadata (names : List String) : Restores (closureMetadata names) := by
  unfold closureMetadata
  infer_instance

theorem restores_scopedLocal (id : Int64) : Restores (scopedLocal id) := by
  unfold scopedLocal
  infer_instance

instance restores_nameLocal (slot : Nat) (name : Option String) : Restores (nameLocal slot name) := by
  unfold nameLocal
  cases name with
  | none => infer_instance
  | some name => infer_instance

/-!
## Bound locals
-/

section Bound

variable {id : Int64} {slot : Option Nat} {start finish : RestrictedBytecodeCompiler}

theorem scopedLocal_ended (ended : scopedLocal id start = (.ok slot, finish)) :
    slot = start.scopedLocals id ∧ finish = start := by
  unfold scopedLocal at ended
  obtain ⟨read, middle, got, returned⟩ := bind_eq_ok.mp ended
  obtain ⟨rfl, rfl⟩ := get_eq_ok.mp got
  exact pure_eq_ok.mp returned

theorem bindLocal_ended (ended : bindLocal id slot start = (.ok (), finish)) :
    finish = { start with scopedLocals := Function.update start.scopedLocals id slot } :=
  modify_eq_ok.mp ended

theorem bindLocal_handsOut (ended : bindLocal id slot start = (.ok (), finish)) :
    HandsOut (bindLocal id slot) start () finish [] := by
  apply HandsOut.nothing ended
  rw [bindLocal_ended ended]

/-- What a local was bound to is put back, whatever else the scopes hold. -/
theorem Restores.bound (id : Int64) (index : Nat) {body : Compile α} {next : α → Compile β}
    (bodyOk : Restores body) (nextOk : ∀ value, Restores (next value)) :
    Restores (do
      let previous ← scopedLocal id
      bindLocal id (some index)
      let value ← body
      bindLocal id previous
      next value) where
  restored := by
    intro start result finish ended
    obtain ⟨previous, afterRead, read, ended⟩ := bind_eq_ok.mp ended
    obtain ⟨⟨⟩, afterBind, bound, ended⟩ := bind_eq_ok.mp ended
    obtain ⟨value, afterBody, ran, ended⟩ := bind_eq_ok.mp ended
    obtain ⟨⟨⟩, afterUnbind, unbound, ended⟩ := bind_eq_ok.mp ended
    obtain ⟨-, readParams, readSlots, readOut⟩ := (restores_scopedLocal id).restored _ _ _ read
    obtain ⟨bodyScopes, bodyParams, bodySlots, bodyOut⟩ := bodyOk.restored _ _ _ ran
    obtain ⟨nextScopes, nextParams, nextSlots, nextOut⟩ := (nextOk value).restored _ _ _ ended
    constructor
    · obtain ⟨rfl, rfl⟩ := scopedLocal_ended read
      rw [nextScopes, bindLocal_ended unbound, bodyScopes, bindLocal_ended bound, Function.update_idem,
        Function.update_eq_self]
    · rw [nextParams, bindLocal_ended unbound, bodyParams, bindLocal_ended bound, readParams]
    · exact ⟨_, .bind readOut (.bind (bindLocal_handsOut bound) (.bind bodyOut
        (.bind (bindLocal_handsOut unbound) nextOut)))⟩

instance restores_withLocal (index : Nat) (body : Compile Unit) [Restores body] :
    Restores (withLocal id index body) := by
  have bodyOk : Restores body := inferInstance
  have bound := bodyOk.bound id index fun _ => restores_pure ()
  simp only [bind_pure_unit] at bound
  exact bound

end Bound

end Actions

/-!
## Locals of a `let`
-/

section Locals

/-- The scopes after `restore`. -/
def undo : List (Int64 × Option Nat) → (Int64 → Option Nat) → Int64 → Option Nat
  | [], scopes => scopes
  | (id, slot) :: previous, scopes => Function.update (undo previous scopes) id slot

theorem undo_append (previous : List (Int64 × Option Nat)) (id : Int64) (slot : Option Nat)
    (scopes : Int64 → Option Nat) :
    undo (previous ++ [(id, slot)]) scopes = undo previous (Function.update scopes id slot) := by
  induction previous with
  | nil => rfl
  | cons entry previous ih =>
      rw [List.cons_append]
      unfold undo
      rw [ih]

variable {start finish : RestrictedBytecodeCompiler}

theorem restore_ended {previous : List (Int64 × Option Nat)} (ended : restore previous start = (.ok (), finish)) :
    finish.scopedLocals = undo previous start.scopedLocals ∧ finish.params = start.params ∧
      ∃ slots, HandsOut (restore previous) start () finish slots := by
  induction previous generalizing finish with
  | nil =>
      obtain ⟨-, rfl⟩ := pure_eq_ok.mp ended
      exact ⟨rfl, rfl, [], .nothing ended rfl⟩
  | cons entry previous ih =>
      obtain ⟨id, slot⟩ := entry
      obtain ⟨⟨⟩, middle, front, bound⟩ := bind_eq_ok.mp ended
      obtain ⟨scopes, params, slots, handsOut⟩ := ih front
      refine ⟨?_, ?_, ?_⟩
      · rw [bindLocal_ended bound, scopes]
        rfl
      · rw [bindLocal_ended bound, params]
      · exact ⟨_, .bind handsOut (bindLocal_handsOut bound)⟩

theorem remember_fresh {previous : List (Int64 × Option Nat)} {id : Int64} (fresh : id ∉ previous.map (·.1))
    (slot : Option Nat) : remember previous id slot = previous ++ [(id, slot)] := by
  unfold remember
  rw [if_neg]
  intro found
  obtain ⟨entry, member, same⟩ := List.any_eq_true.mp found
  exact fresh (List.mem_map.mpr ⟨entry, member, of_decide_eq_true same⟩)

/-- Undoing what the locals have bound gives what undoing gave before them. -/
theorem compileLocals_ended {locals : List (LocalSpec × Expr)} {previous result : List (Int64 × Option Nat)}
    (restores : ∀ entry ∈ locals, Restores (compileExpr entry.2))
    (distinct : (previous.map (·.1) ++ locals.map (·.1.id)).Nodup)
    (ended : compileLocals previous locals start = (.ok result, finish)) :
    undo result finish.scopedLocals = undo previous start.scopedLocals ∧ finish.params = start.params ∧
      ∃ slots, HandsOut (compileLocals previous locals) start result finish slots := by
  induction locals generalizing previous start with
  | nil =>
      rw [compileLocals] at ended ⊢
      obtain ⟨rfl, rfl⟩ := pure_eq_ok.mp ended
      exact ⟨rfl, rfl, [], .nothing ended rfl⟩
  | cons entry locals ih =>
      obtain ⟨spec, value⟩ := entry
      rw [List.forall_mem_cons] at restores
      have valueOk := restores.1
      rw [compileLocals] at ended ⊢
      obtain ⟨slot, allocated, allocate, ended⟩ := bind_eq_ok.mp ended
      obtain ⟨⟨⟩, valued, compiled, ended⟩ := bind_eq_ok.mp ended
      obtain ⟨⟨⟩, stored, store, ended⟩ := bind_eq_ok.mp ended
      obtain ⟨⟨⟩, debugged, debug, ended⟩ := bind_eq_ok.mp ended
      obtain ⟨old, seen, read, ended⟩ := bind_eq_ok.mp ended
      obtain ⟨⟨⟩, bound, bind, ended⟩ := bind_eq_ok.mp ended
      obtain ⟨allocateScopes, allocateParams, _, allocateOut⟩ := restores_allocateLocal.restored _ _ _ allocate
      obtain ⟨valueScopes, valueParams, _, valueOut⟩ := valueOk.restored _ _ _ compiled
      obtain ⟨storeScopes, storeParams, _, storeOut⟩ := (restores_storeLocal slot).restored _ _ _ store
      obtain ⟨debugScopes, debugParams, _, debugOut⟩ := (restores_nameLocal slot spec.name).restored _ _ _ debug
      obtain ⟨-, -, _, readOut⟩ := (restores_scopedLocal spec.id).restored _ _ _ read
      obtain ⟨rfl, rfl⟩ := scopedLocal_ended read
      have kept := debugScopes.trans (storeScopes.trans (valueScopes.trans allocateScopes))
      have fresh : spec.id ∉ previous.map (·.1) := by
        intro member
        exact (List.nodup_append.mp distinct).2.2 _ member _ (List.mem_cons_self) rfl
      have remembered := remember_fresh fresh (seen.scopedLocals spec.id)
      have distinct' : ((remember previous spec.id (seen.scopedLocals spec.id)).map (·.1) ++
          locals.map (·.1.id)).Nodup := by
        rw [remembered, List.map_append, List.append_assoc]
        exact distinct
      obtain ⟨scopes, params, _, out⟩ := ih restores.2 distinct' ended
      refine ⟨?_, ?_, ?_⟩
      · rw [scopes, remembered, undo_append, bindLocal_ended bind, Function.update_idem, Function.update_eq_self, kept]
      · rw [params, bindLocal_ended bind, debugParams, storeParams, valueParams, allocateParams]
      · exact ⟨_, .bind allocateOut (.bind valueOut (.bind storeOut (.bind debugOut (.bind readOut
          (.bind (bindLocal_handsOut bind) out)))))⟩

end Locals

/-!
## Expressions
-/

section Parts

theorem restores_all {items : List Expr} (restores : ∀ item ∈ items, Restores (compileExpr item)) :
    Restores (compileAll items) := by
  induction items with
  | nil =>
      rw [compileAll]
      infer_instance
  | cons item items ih =>
      rw [List.forall_mem_cons] at restores
      have itemOk := restores.1
      have itemsOk := ih restores.2
      rw [compileAll]
      infer_instance

theorem restores_entries {entries : List (Expr × Expr)}
    (restores : ∀ item ∈ entries.flatMap fun entry => [entry.1, entry.2], Restores (compileExpr item)) :
    Restores (compileEntries entries) := by
  induction entries with
  | nil =>
      rw [compileEntries]
      infer_instance
  | cons entry entries ih =>
      obtain ⟨key, value⟩ := entry
      simp only [List.flatMap_cons, List.forall_mem_append, List.forall_mem_cons] at restores
      have keyOk := restores.1.1
      have valueOk := restores.1.2.1
      have entriesOk := ih restores.2
      rw [compileEntries]
      infer_instance

theorem restores_seq {items : List Expr} (restores : ∀ item ∈ items, Restores (compileExpr item)) :
    Restores (compileSeq items) := by
  induction items with
  | nil =>
      rw [compileSeq]
      infer_instance
  | cons item items ih =>
      rw [List.forall_mem_cons] at restores
      have itemOk := restores.1
      cases items with
      | nil =>
          rw [compileSeq]
          exact itemOk
      | cons next items =>
          have itemsOk := ih restores.2
          rw [compileSeq]
          · infer_instance
          · exact List.cons_ne_nil _ _

theorem restores_discarded {part : Option Expr} (restores : ∀ expr ∈ part.toList, Restores (compileExpr expr)) :
    Restores (compileDiscarded part) := by
  cases part with
  | none =>
      rw [compileDiscarded]
      infer_instance
  | some expr =>
      have exprOk := restores expr (by simp)
      rw [compileDiscarded]
      infer_instance

end Parts

theorem restores_letIn {locals : List (LocalSpec × Expr)} {body : Expr}
    (distinct : (locals.map (·.1.id)).Nodup) (restores : ∀ entry ∈ locals, Restores (compileExpr entry.2))
    (bodyOk : Restores (compileExpr body)) : Restores (compileExpr (.letIn locals body)) := by
  show Restores (compileLocals [] locals >>= fun previous => compileExpr body >>= fun _ => restore previous)
  constructor
  intro start value finish ended
  obtain ⟨previous, bound, compiled, ended⟩ := bind_eq_ok.mp ended
  obtain ⟨⟨⟩, ran, inside, undone⟩ := bind_eq_ok.mp ended
  have fresh : (([] : List (Int64 × Option Nat)).map (·.1) ++ locals.map (·.1.id)).Nodup := distinct
  obtain ⟨scopes, params, _, localsOut⟩ := compileLocals_ended restores fresh compiled
  obtain ⟨bodyScopes, bodyParams, _, bodyOut⟩ := bodyOk.restored _ _ _ inside
  obtain ⟨undoScopes, undoParams, _, undoOut⟩ := restore_ended undone
  constructor
  · rw [undoScopes, bodyScopes, scopes]
    rfl
  · rw [undoParams, bodyParams, params]
  · exact ⟨_, .bind localsOut (.bind bodyOut undoOut)⟩

theorem restores_setLocal (id : Int64) {value : Expr} (valueOk : Restores (compileExpr value)) :
    Restores (compileExpr (.setLocal id value)) := by
  have readOk := restores_scopedLocal id
  apply Restores.andThen
  intro slot
  cases slot with
  | none => exact restores_exit _
  | some index =>
      show Restores (_ >>= _)
      infer_instance

theorem restores_whileLoop {condition body : Expr}
    {beforeContinue continueCondition continueBody beforeBreak breakCondition breakBody : Option Expr}
    (conditionOk : Restores (compileExpr condition)) (bodyOk : Restores (compileExpr body))
    (continueOk : ∀ part ∈ Expr.guardParts beforeContinue continueCondition continueBody,
      Restores (compileExpr part))
    (breakOk : ∀ part ∈ Expr.guardParts beforeBreak breakCondition breakBody, Restores (compileExpr part)) :
    Restores (compileExpr (.whileLoop condition beforeContinue continueCondition continueBody beforeBreak
      breakCondition breakBody body)) := by
  cases continueCondition with
  | none =>
      cases breakCondition with
      | none =>
          show Restores (_ >>= _)
          repeat
            apply Restores.andThen
            intro _
          infer_instance
      | some breakCondition =>
          obtain ⟨beforeOk, conditionOk, afterOk⟩ := forall_guardParts.mp breakOk
          have beforeBreakOk := restores_discarded beforeOk
          have breakBodyOk := restores_discarded afterOk
          show Restores (_ >>= _)
          repeat
            apply Restores.andThen
            intro _
          infer_instance
  | some continueCondition =>
      obtain ⟨beforeOk, conditionOk, afterOk⟩ := forall_guardParts.mp continueOk
      have beforeContinueOk := restores_discarded beforeOk
      have continueBodyOk := restores_discarded afterOk
      cases breakCondition with
      | none =>
          show Restores (_ >>= _)
          repeat
            apply Restores.andThen
            intro _
          infer_instance
      | some breakCondition =>
          obtain ⟨beforeOk, conditionOk, afterOk⟩ := forall_guardParts.mp breakOk
          have beforeBreakOk := restores_discarded beforeOk
          have breakBodyOk := restores_discarded afterOk
          show Restores (_ >>= _)
          repeat
            apply Restores.andThen
            intro _
          infer_instance

theorem restores_tryFinally {body finalizer : Expr} (preserveValue : Bool) (bodyOk : Restores (compileExpr body))
    (finalizerOk : Restores (compileExpr finalizer)) :
    Restores (compileExpr (.tryFinally body finalizer preserveValue)) := by
  cases preserveValue with
  | true | false =>
      show Restores (_ >>= _)
      apply Restores.andThen
      intro valueLocal
      cases valueLocal with
      | none | some valueLocal =>
          show Restores (_ >>= _)
          repeat
            apply Restores.andThen
            intro _
          infer_instance

section YieldForIn

variable {source body : Expr} {beforeBreak breakCondition : Option Expr}

theorem restores_yieldForIn (item : LocalSpec) (sourceOk : Restores (compileExpr source))
    (bodyOk : Restores (compileExpr body))
    (breakOk : ∀ part ∈ Expr.guardParts beforeBreak breakCondition none, Restores (compileExpr part)) :
    Restores (compileExpr (.yieldForIn source item beforeBreak breakCondition body)) := by
  cases breakCondition with
  | none =>
      show Restores (_ >>= _)
      repeat
        apply Restores.andThen
        intro _
      exact bodyOk.bound item.id _ fun _ => inferInstance
  | some breakCondition =>
      obtain ⟨beforeOk, conditionOk, -⟩ := forall_guardParts.mp breakOk
      have beforeBreakOk := restores_discarded beforeOk
      have inside : Restores (do
          compileDiscarded beforeBreak
          compileExpr breakCondition
          op .jumpIfFalse
          let continuePatch ← reserveU16
          op .jump
          let breakPatch ← reserveU16
          patchHere continuePatch
          compileExpr body
          pure breakPatch) := by
        repeat
          apply Restores.andThen
          intro _
        infer_instance
      have behind (loopStart endPatch breakPatch : Nat) : Restores (do
          op .pop
          op .jump
          u16 loopStart
          patchHere breakPatch
          patchHere endPatch
          loadConst .nothing) := inferInstance
      show Restores (_ >>= _)
      repeat
        apply Restores.andThen
        intro _
      have bound (currentLocal loopStart endPatch : Nat) :=
        inside.bound item.id currentLocal fun breakPatch => behind loopStart endPatch breakPatch
      simp only [bind_assoc, pure_bind] at bound
      exact bound _ _ _

end YieldForIn

theorem compileExpr_restores {expr : Expr} (distinct : expr.All DistinctIds) : Restores (compileExpr expr) := by
  induction distinct with
  | @node expr here _ ih =>
      cases expr with
      | const constant => exact restores_loadConst constant
      | arg name =>
          apply Restores.andThen
          intro compiler
          split
          · infer_instance
          · infer_instance
      | letLocal id =>
          have readOk := restores_scopedLocal id
          apply Restores.andThen
          intro slot
          split
          · infer_instance
          · infer_instance
      | letIn locals body =>
          simp only [Expr.children, List.forall_mem_append, List.forall_mem_map, List.forall_mem_singleton] at ih
          exact restores_letIn here ih.1 ih.2
      | setLocal id value => exact restores_setLocal id (ih value List.mem_cons_self)
      | whileLoop =>
          obtain ⟨conditionOk, continueOk, breakOk, bodyOk⟩ := forall_whileLoop.mp ih
          exact restores_whileLoop conditionOk bodyOk continueOk breakOk
      | yieldForIn source item beforeBreak breakCondition body =>
          simp only [Expr.children, List.forall_mem_cons, List.forall_mem_append] at ih
          exact restores_yieldForIn item ih.1 ih.2.2.1 ih.2.1
      | seq items => exact restores_seq ih
      | tryFinally body finalizer preserveValue =>
          simp only [Expr.children, List.forall_mem_cons] at ih
          obtain ⟨bodyOk, finalizerOk, -⟩ := ih
          exact restores_tryFinally preserveValue bodyOk finalizerOk
      | call kind target items | makeClosure closure items | newObject constructor typeNames names items | concat items
      | list items =>
          have itemsOk : Restores (compileAll items) := restores_all ih
          show Restores (_ >>= _)
          repeat
            apply Restores.andThen
            intro _
          infer_instance
      | callDynamic receiver method names args =>
          rw [Expr.children, List.forall_mem_cons] at ih
          have receiverOk := ih.1
          have argsOk := restores_all ih.2
          show Restores (_ >>= _)
          repeat
            apply Restores.andThen
            intro _
          infer_instance
      | callClosure closure names args =>
          rw [Expr.children, List.forall_mem_cons] at ih
          have closureOk := ih.1
          have argsOk := restores_all ih.2
          show Restores (_ >>= _)
          repeat
            apply Restores.andThen
            intro _
          infer_instance
      | map entries =>
          have entriesOk : Restores (compileEntries entries) := restores_entries ih
          show Restores (_ >>= _)
          repeat
            apply Restores.andThen
            intro _
          infer_instance
      | throw value | yield value | await value | getField value field | isType value type | asType value type
      | yieldAll value =>
          have valueOk := ih value List.mem_cons_self
          show Restores (_ >>= _)
          repeat
            apply Restores.andThen
            intro _
          infer_instance
      | less left right | binary operator left right | setField left field right | addAll kind left right
      | listForIn left right | mapForIn left right =>
          simp only [Expr.children, List.forall_mem_cons] at ih
          obtain ⟨leftOk, rightOk, -⟩ := ih
          show Restores (_ >>= _)
          repeat
            apply Restores.andThen
            intro _
          infer_instance
      | conditional condition thenExpr elseExpr =>
          simp only [Expr.children, List.forall_mem_cons] at ih
          obtain ⟨conditionOk, thenOk, elseOk, -⟩ := ih
          show Restores (_ >>= _)
          repeat
            apply Restores.andThen
            intro _
          infer_instance
      | tryCatch body catchLocal catchBody =>
          simp only [Expr.children, List.forall_mem_cons] at ih
          obtain ⟨bodyOk, catchOk, -⟩ := ih
          show Restores (_ >>= _)
          repeat
            apply Restores.andThen
            intro _
          infer_instance
      | listForInMapped receiver source item value =>
          simp only [Expr.children, List.forall_mem_cons] at ih
          obtain ⟨receiverOk, sourceOk, valueOk, -⟩ := ih
          show Restores (_ >>= _)
          repeat
            apply Restores.andThen
            intro _
          infer_instance
      | mapForInMapped receiver source entry key value =>
          simp only [Expr.children, List.forall_mem_cons] at ih
          obtain ⟨receiverOk, sourceOk, keyOk, valueOk, -⟩ := ih
          show Restores (_ >>= _)
          repeat
            apply Restores.andThen
            intro _
          infer_instance

/-- Where a `let` binds distinct ids, what compiles leaves `scopedLocals` as it was. `localCount` does not decrease,
and the slots that were handed out are the new ones, each once. -/
theorem scopes_restored {expr : Expr} (distinct : expr.All DistinctIds) {start finish : RestrictedBytecodeCompiler}
    (compiled : compileExpr expr start = (.ok (), finish)) :
    finish.scopedLocals = start.scopedLocals ∧ start.localCount ≤ finish.localCount ∧
      (∃ slots, HandsOut (compileExpr expr) start () finish slots) ∧
      ∀ slots, HandsOut (compileExpr expr) start () finish slots →
        slots.Nodup ∧ ∀ slot, slot ∈ slots ↔ start.localCount ≤ slot ∧ slot < finish.localCount := by
  obtain ⟨scopes, -, slots, handsOut⟩ := (compileExpr_restores distinct).restored start () finish compiled
  refine ⟨scopes, ?_, ⟨slots, handsOut⟩, fun slots handsOut => handsOut.distinct⟩
  rw [handsOut.consecutive.2]
  exact Nat.le_add_right _ _

/-- A `let` inside another that binds the same id. -/
def shadowing : Expr := .letIn [(⟨1, none⟩, .int 1)] (.letIn [(⟨1, none⟩, .int 2)] (.letLocal 1))

/-- The id is bound before, too. -/
def boundBefore : RestrictedBytecodeCompiler :=
  { RestrictedBytecodeCompiler.start ["it"] with scopedLocals := Function.update (fun _ => none) 1 (some 0) }

theorem distinct_leaf {expr : Expr} (leaf : expr.children = []) (here : DistinctIds expr) : expr.All DistinctIds := by
  apply Expr.All.node here
  rw [leaf]
  exact List.forall_mem_nil _

theorem distinct_letIn {locals : List (LocalSpec × Expr)} {body : Expr} (distinct : (locals.map (·.1.id)).Nodup)
    (localsOk : ∀ entry ∈ locals, entry.2.All DistinctIds) (bodyOk : body.All DistinctIds) :
    (Expr.letIn locals body).All DistinctIds := by
  apply Expr.All.node distinct
  simp only [Expr.children, List.forall_mem_append, List.forall_mem_map, List.forall_mem_singleton]
  exact ⟨localsOk, bodyOk⟩

theorem shadowing_distinct : shadowing.All DistinctIds := by
  apply distinct_letIn
  · exact List.pairwise_singleton _ _
  · exact List.forall_mem_singleton.mpr (distinct_leaf rfl trivial)
  · apply distinct_letIn
    · exact List.pairwise_singleton _ _
    · exact List.forall_mem_singleton.mpr (distinct_leaf rfl trivial)
    · exact distinct_leaf rfl trivial

theorem shadowing_restored :
    (compileExpr shadowing boundBefore).1 = .ok () ∧
      (compileExpr shadowing boundBefore).2.scopedLocals = boundBefore.scopedLocals ∧
      (compileExpr shadowing boundBefore).2.localCount = 4 := by
  have returned : (compileExpr shadowing boundBefore).1 = .ok () := rfl
  exact ⟨returned, (scopes_restored shadowing_distinct (Prod.ext returned rfl)).1, rfl⟩

end CodePush.Compiler
