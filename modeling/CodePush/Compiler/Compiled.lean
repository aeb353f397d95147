import CodePush.Compiler.Pieces

/-!
# Compiled expressions

Every expression that compiles is compiled to a piece of code that puts one value on the
stack. The two conditions under which such code is well formed, that its calls list no more
names than arguments and that it leaves nothing behind on the stack, are conditions on the
single nodes of the expression.
-/

set_option autoImplicit false

namespace CodePush.Compiler

open CodePush.Core CodePush.Bytecode CodePush.Foundation CodePush.Foundation.Action
  CodePush.Foundation.Assembly RestrictedBytecodeCompiler

/-!
## Nodes of expressions
-/

namespace Expr

/-- The parts of a guard; without a condition, none of them is compiled. -/
def guardParts (before condition after : Option Expr) : List Expr :=
  match condition with
  | none => []
  | some condition => before.toList ++ condition :: after.toList

/-- The operands that code is emitted for. -/
def children : Expr → List Expr
  | .const _ | .arg _ | .letLocal _ => []
  | .letIn locals body => locals.map (·.2) ++ [body]
  | .setLocal _ value | .throw value | .yield value | .await value | .getField value _
  | .isType value _ | .asType value _ | .yieldAll value => [value]
  | .whileLoop condition beforeContinue continueCondition continueBody beforeBreak breakCondition
      breakBody body =>
      condition :: (guardParts beforeContinue continueCondition continueBody ++
        (guardParts beforeBreak breakCondition breakBody ++ [body]))
  | .less left right | .binary _ left right | .setField left _ right | .addAll _ left right
  | .listForIn left right | .mapForIn left right => [left, right]
  | .conditional condition thenExpr elseExpr => [condition, thenExpr, elseExpr]
  | .seq items | .call _ _ items | .makeClosure _ items | .newObject _ _ _ items | .concat items
  | .list items => items
  | .yieldForIn source _ beforeBreak breakCondition body =>
      source :: (guardParts beforeBreak breakCondition none ++ [body])
  | .tryFinally body finalizer _ => [body, finalizer]
  | .tryCatch body _ catchBody => [body, catchBody]
  | .callDynamic receiver _ _ args => receiver :: args
  | .callClosure closure _ args => closure :: args
  | .map entries => entries.flatMap fun entry => [entry.1, entry.2]
  | .listForInMapped receiver source _ value => [receiver, source, value]
  | .mapForInMapped receiver source _ key value => [receiver, source, key, value]

/-- Every node that code is emitted for satisfies the predicate. -/
inductive All (p : Expr → Prop) : Expr → Prop where
  | node {expr : Expr} (here : p expr) (below : ∀ child ∈ expr.children, All p child) : All p expr

theorem all_iff {p : Expr → Prop} {expr : Expr} :
    All p expr ↔ p expr ∧ ∀ child ∈ expr.children, All p child := by
  constructor
  · intro all
    obtain ⟨here, below⟩ := all
    exact ⟨here, below⟩
  · intro all
    exact ⟨all.1, all.2⟩

theorem sizeOf_lt_of_mem_toList {expr : Expr} {option : Option Expr} (member : expr ∈ option.toList) :
    sizeOf expr < sizeOf option := by
  cases option with
  | none => cases member
  | some inner =>
      obtain rfl := List.mem_singleton.mp member
      simp

theorem sizeOf_lt_of_mem_guardParts {expr : Expr} {before condition after : Option Expr}
    (member : expr ∈ guardParts before condition after) :
    sizeOf expr < sizeOf before + sizeOf condition + sizeOf after := by
  cases condition with
  | none => cases member
  | some condition =>
      simp only [guardParts, List.mem_append, List.mem_cons] at member
      rcases member with member | rfl | member
      · have := sizeOf_lt_of_mem_toList member
        omega
      · simp
        omega
      · have := sizeOf_lt_of_mem_toList member
        omega

theorem sizeOf_child_lt {expr child : Expr} (member : child ∈ expr.children) :
    sizeOf child < sizeOf expr := by
  cases expr <;> simp only [children, List.not_mem_nil, List.mem_append, List.mem_cons, or_false,
    List.mem_map, List.mem_flatMap] at member
  case letIn locals body =>
    rcases member with ⟨⟨spec, value⟩, found, rfl⟩ | rfl
    · have inside := List.sizeOf_lt_of_mem found
      simp at inside ⊢
      omega
    · simp only [letIn.sizeOf_spec]
      omega
  case map entries =>
    obtain ⟨⟨key, value⟩, found, rfl | rfl⟩ := member
    all_goals
      have inside := List.sizeOf_lt_of_mem found
      simp at inside ⊢
      omega
  case whileLoop =>
    rcases member with rfl | member | member | rfl
    · simp
      omega
    · have inside := sizeOf_lt_of_mem_guardParts member
      simp only [whileLoop.sizeOf_spec]
      omega
    · have inside := sizeOf_lt_of_mem_guardParts member
      simp only [whileLoop.sizeOf_spec]
      omega
    · simp only [whileLoop.sizeOf_spec]
      omega
  case yieldForIn =>
    rcases member with rfl | member | rfl
    · simp
      omega
    · have inside := sizeOf_lt_of_mem_guardParts member
      simp at inside ⊢
      omega
    · simp only [yieldForIn.sizeOf_spec]
      omega
  case seq | call | makeClosure | newObject | concat | list =>
    have inside := List.sizeOf_lt_of_mem member
    simp
    omega
  case callDynamic | callClosure =>
    rcases member with rfl | member
    · simp
      omega
    · have inside := List.sizeOf_lt_of_mem member
      simp
      omega
  all_goals
    rcases member with rfl | rfl | rfl | rfl
    all_goals simp <;> omega

/-- Induction over the operands that code is emitted for. -/
theorem induct {p : Expr → Prop}
    (step : ∀ expr : Expr, (∀ child ∈ expr.children, p child) → p expr) (expr : Expr) : p expr :=
  step expr fun child member =>
    have := sizeOf_child_lt member
    induct step child
termination_by sizeOf expr

end Expr

/-!
## Compilation as a step
-/

/-- The action emits code of a shape, which may depend on the offset of the code.
What is given may be used once the limits allow for the state at its start. -/
def Emits (limits : Limits) (given : Prop) (action : Compile Unit) (shape : Nat → Code → Prop) : Prop :=
  ∀ now : RestrictedBytecodeCompiler, now.Ready limits → (now.Within limits → given) →
    Ensures action now
      (fun _ after => ∃ code, Progress limits now after code (shape now.code.length code))
      (fun _ _ => True)

/-- The action compiles something to a piece that takes `need` values and leaves `give`.
What is given may be used once the limits allow for the state at its start. -/
def Compiles (limits : Limits) (given : Prop) (action : Compile Unit) (need give : Nat)
    (tidy named : Prop) : Prop :=
  ∀ now : RestrictedBytecodeCompiler, now.Ready limits → (now.Within limits → given) →
    Ensures action now
      (fun _ after => ∃ code,
        Progress limits now after code (Piece limits now.code.length code need give tidy named))
      (fun _ _ => True)

/-- The action emits nothing; its result has the property `ok`, and `facts` about it may be
used from then on. -/
def Prepares {α : Type} (limits : Limits) (given : Prop) (action : Compile α) (ok facts : α → Prop) :
    Prop :=
  ∀ now : RestrictedBytecodeCompiler, now.Ready limits → (now.Within limits → given) →
    Ensures action now
      (fun value after => ok value ∧ Progress limits now after [] (facts value))
      (fun _ _ => True)

section Steps

variable {limits : Limits} {since now : RestrictedBytecodeCompiler} {code : Code}
  {facts given : Prop} {need middle give : Nat} {tidy named tidy' named' : Prop}
  {shape shape' shape₁ shape₂ : Nat → Code → Prop}

theorem Progress.imp {weaker : Prop} (progress : Progress limits since now code facts)
    (implied : facts → weaker) : Progress limits since now code weaker :=
  ⟨⟨progress.ready, progress.grows, fun within => implied (progress.known within)⟩, progress.emitted⟩

theorem Progress.recode (progress : Progress limits since now code facts) (code' : Code)
    (same : code = code') : Progress limits since now code' facts := same ▸ progress

theorem Progress.knowing (ready : since.Ready limits) (known : since.Within limits → given) :
    Progress limits since since [] given :=
  ⟨⟨ready, .refl since, known⟩, by simp⟩

theorem Progress.trans {later : RestrictedBytecodeCompiler} {tail : Code} {tailFacts : Prop}
    (progress : Progress limits since now code facts) (next : Progress limits now later tail tailFacts) :
    Progress limits since later (code ++ tail) (facts ∧ tailFacts) where
  ready := next.ready
  grows := progress.grows.trans next.grows
  known := fun within => ⟨progress.known (within.of_grows next.grows), next.known within⟩
  emitted := by
    rw [next.emitted, progress.emitted]
    simp

/-!
### Code of any shape
-/

theorem Emits.step {action : Compile Unit} (emits : Emits limits given action shape)
    (progress : Progress limits since now code facts) (known : facts → given) :
    Ensures action now
      (fun _ after => ∃ piece, Progress limits since after (code ++ piece)
        (facts ∧ shape (since.code.length + extent Instr.size code) piece))
      (fun _ _ => True) := by
  refine (emits now progress.ready fun within => known (progress.known within)).mono ?_
    (fun _ _ _ => trivial)
  intro _ after emitted
  obtain ⟨piece, later⟩ := emitted
  rw [← progress.position]
  exact ⟨piece, progress.trans later⟩

theorem Emits.imp {action : Compile Unit} (emits : Emits limits given action shape)
    (weaker : ∀ pos code, shape pos code → shape' pos code) : Emits limits given action shape' := by
  intro now ready known
  refine (emits now ready known).mono ?_ (fun _ _ _ => trivial)
  intro _ after emitted
  obtain ⟨code, progress⟩ := emitted
  exact ⟨code, progress.imp (weaker _ code)⟩

theorem Emits.knowing {action : Compile Unit} {stronger : Prop} (emits : Emits limits given action shape)
    (known : stronger → given) : Emits limits stronger action shape :=
  fun now ready holds => emits now ready fun within => known (holds within)

theorem emits_nothing (empty : ∀ pos, shape pos []) : Emits limits given (pure ()) shape := by
  intro now ready _
  apply ensures_pure
  exact ⟨[], (Progress.start ready).imp fun _ => empty _⟩

theorem Emits.andThen {first second : Compile Unit} (left : Emits limits given first shape₁)
    (right : Emits limits given second shape₂)
    (join : ∀ pos head tail, shape₁ pos head → shape₂ (pos + extent Instr.size head) tail →
      shape pos (head ++ tail)) :
    Emits limits given (first >>= fun _ => second) shape := by
  intro now ready known
  refine (left.step (.knowing ready known) id).bind fun _ after emitted => ?_
  obtain ⟨head, progress⟩ := emitted
  refine (right.step progress And.left).mono ?_ (fun _ _ _ => trivial)
  intro _ after emitted
  obtain ⟨tail, progress⟩ := emitted
  refine ⟨head ++ tail, progress.imp ?_⟩
  intro facts
  obtain ⟨⟨_, headShape⟩, tailShape⟩ := facts
  simp only [List.nil_append, extent_nil, Nat.add_zero] at headShape tailShape
  exact join _ head tail headShape tailShape

/-- What a step without code establishes may be used by what follows. -/
theorem Prepares.before {α : Type} {action : Compile α} {next : α → Compile Unit} {ok facts : α → Prop}
    (prepares : Prepares limits given action ok facts)
    (rest : ∀ value, ok value → Emits limits (given ∧ facts value) (next value) shape) :
    Emits limits given (action >>= next) shape := by
  intro now ready known
  refine (prepares now ready known).bind fun value after prepared => ?_
  obtain ⟨holds, progress⟩ := prepared
  have both : Progress limits now after [] (given ∧ facts value) :=
    ⟨⟨progress.ready, progress.grows, fun within =>
      ⟨known (within.of_grows progress.grows), progress.known within⟩⟩, progress.emitted⟩
  refine ((rest value holds).step both id).mono ?_ (fun _ _ _ => trivial)
  intro _ after emitted
  obtain ⟨code, progress⟩ := emitted
  exact ⟨code, progress.imp fun facts => facts.2⟩

/-- A step that emits nothing. -/
theorem Prepares.emits {action : Compile Unit} {ok facts : Unit → Prop}
    (prepares : Prepares limits given action ok facts) (empty : ∀ pos, shape pos []) :
    Emits limits given action shape := by
  intro now ready known
  refine (prepares now ready known).mono ?_ (fun _ _ _ => trivial)
  intro _ after prepared
  exact ⟨[], prepared.2.imp fun _ => empty _⟩

/-!
### Pieces
-/

theorem Compiles.emits {action : Compile Unit} (compiles : Compiles limits given action need give tidy named) :
    Emits limits given action fun pos code => Piece limits pos code need give tidy named := compiles

theorem Emits.compiles {action : Compile Unit}
    (emits : Emits limits given action fun pos code => Piece limits pos code need give tidy named) :
    Compiles limits given action need give tidy named := emits

theorem Compiles.step {action : Compile Unit}
    (compiles : Compiles limits given action need give tidy named)
    (progress : Progress limits since now code facts) (known : facts → given) :
    Ensures action now
      (fun _ after => ∃ piece, Progress limits since after (code ++ piece)
        (facts ∧ Piece limits (since.code.length + extent Instr.size code) piece need give tidy named))
      (fun _ _ => True) :=
  compiles.emits.step progress known

theorem Compiles.imp {action : Compile Unit}
    (compiles : Compiles limits given action need give tidy named)
    (weaker : tidy' → tidy) (same : named ↔ named') :
    Compiles limits given action need give tidy' named' :=
  Emits.compiles (compiles.emits.imp fun _ _ piece => piece.imp weaker same)

theorem Compiles.knowing {action : Compile Unit} {stronger : Prop}
    (compiles : Compiles limits given action need give tidy named) (known : stronger → given) :
    Compiles limits stronger action need give tidy named :=
  Emits.compiles (compiles.emits.knowing known)

theorem Compiles.untidy {action : Compile Unit} {need' give' : Nat}
    (compiles : Compiles limits given action need give tidy named) (rises : need' < give' → need < give) :
    Compiles limits given action need' give' False named :=
  Emits.compiles (compiles.emits.imp fun _ _ piece =>
    ⟨piece.linked, piece.counts, False.elim, fun less => piece.rises (rises less)⟩)

theorem Compiles.frame {action : Compile Unit}
    (compiles : Compiles limits given action need give tidy named) (below : Nat) :
    Compiles limits given action (below + need) (below + give) tidy named :=
  Emits.compiles (compiles.emits.imp fun _ _ piece => piece.frame below)

theorem compiles_nothing : Compiles limits given (pure ()) need need True True :=
  Emits.compiles (emits_nothing fun _ => .nil)

theorem Compiles.andThen {first second : Compile Unit}
    (left : Compiles limits given first need middle tidy named)
    (right : Compiles limits given second middle give tidy' named') :
    Compiles limits given (first >>= fun _ => second) need give (tidy ∧ tidy') (named ∧ named') :=
  Emits.compiles (left.emits.andThen right.emits fun _ _ _ head tail => head.append tail)

theorem Prepares.andThen {α : Type} {action : Compile α} {next : α → Compile Unit} {ok facts : α → Prop}
    (prepares : Prepares limits given action ok facts)
    (rest : ∀ value, ok value →
      Compiles limits (given ∧ facts value) (next value) need give tidy named) :
    Compiles limits given (action >>= next) need give tidy named :=
  Emits.compiles (prepares.before fun value holds => (rest value holds).emits)

theorem Prepares.compiles {action : Compile Unit} {ok facts : Unit → Prop}
    (prepares : Prepares limits given action ok facts) :
    Compiles limits given action need need True True :=
  Emits.compiles (prepares.emits fun _ => .nil)

/-!
### Primitives
-/

theorem emits_op {opcode : OpCode} (alone : opcode.operandLen = 0)
    (single : ∀ pos, shape pos [.plain opcode]) : Emits limits given (op opcode) shape := by
  intro now ready _
  refine (op_spec (.start ready) alone).mono ?_ (fun _ _ _ => trivial)
  intro _ after progress
  exact ⟨_, progress.imp fun _ => single _⟩

theorem emits_u16 {opcode : OpCode} (two : opcode.operandLen = 2) {operand : Nat} (small : operand < 65536)
    (single : ∀ pos, shape pos [.one opcode operand]) :
    Emits limits given (op opcode >>= fun _ => u16 operand) shape := by
  intro now ready _
  refine (u16_spec (.start ready) two small).mono ?_ (fun _ _ _ => trivial)
  intro _ after progress
  exact ⟨_, progress.imp fun _ => single _⟩

theorem emits_loadConst (constant : ConstantSpec)
    (single : ∀ pos index, index < 65536 → limits.constants[index]? = some constant →
      shape pos [.one .loadConst index]) :
    Emits limits given (loadConst constant) shape := by
  intro now ready _
  refine (loadConst_spec (.start ready) constant).mono ?_ (fun _ _ _ => trivial)
  intro _ after loaded
  obtain ⟨index, small, progress⟩ := loaded
  exact ⟨_, progress.imp fun facts => single _ index small facts.2⟩

/-- A read or a write of a local. -/
theorem emits_local {opcode : OpCode} (one : opcode.operandLen = 1) {slot : Nat} (small : slot < 256)
    (single : ∀ pos, given → shape pos [.one opcode slot]) :
    Emits limits given (op opcode >>= fun _ => u8 slot) shape := by
  intro now ready known
  refine (u8_spec (.knowing ready known) one small).mono ?_ (fun _ _ _ => trivial)
  intro _ after progress
  exact ⟨_, progress.imp (single _)⟩

theorem emits_arg (name : String)
    (single : ∀ pos index, index < 256 → index < limits.params → shape pos [.one .loadArg index]) :
    Emits limits given (compileExpr (.arg name)) shape := by
  intro now ready known
  apply ensures_bind
  apply ensures_get
  split
  · exact ensures_throw trivial
  case h_2 index found =>
    have inside : index < now.params.length := by
      simp only [RestrictedBytecodeCompiler.argIndex, Option.map_eq_some_iff] at found
      obtain ⟨entry, found, rfl⟩ := found
      have member := List.mem_of_find?_eq_some found
      rw [List.mem_reverse] at member
      exact (List.mem_zipIdx' member).1
    have small : index < 256 := Nat.lt_of_lt_of_le inside (Nat.le_succ_of_le ready.params)
    refine (u8_spec (.knowing ready fun within => within.params) rfl small).mono ?_
      (fun _ _ _ => trivial)
    intro _ after progress
    exact ⟨_, progress.imp fun same => single _ index small (same ▸ inside)⟩

theorem emits_exit {message : String} : Emits limits given (exit message) shape :=
  fun _ _ _ => ensures_throw trivial

theorem emits_named {opcode : OpCode} (two : opcode.operandLen = 2) (text : String)
    (single : ∀ pos index, index < 65536 → limits.constants[index]? = some (.text text) →
      shape pos [.one opcode index]) :
    Emits limits given (Compiler.named opcode text) shape := by
  intro now ready _
  refine (named_spec (.start ready) two text).mono ?_ (fun _ _ _ => trivial)
  intro _ after emitted
  obtain ⟨index, small, progress⟩ := emitted
  exact ⟨_, progress.imp fun facts => single _ index small facts.2⟩

theorem emits_callNamed {opcode : OpCode} (three : opcode.operandLen = 3) (text : String)
    {argc : Nat} (few : argc < 256)
    (single : ∀ pos index, index < 65536 → limits.constants[index]? = some (.text text) →
      shape pos [⟨opcode, index, argc⟩]) :
    Emits limits given (callNamed opcode text argc) shape := by
  intro now ready _
  refine (callNamed_spec (.start ready) three text few).mono ?_ (fun _ _ _ => trivial)
  intro _ after emitted
  obtain ⟨index, small, progress⟩ := emitted
  exact ⟨_, progress.imp fun facts => single _ index small facts.2⟩

/-- A call whose first operand is known. -/
theorem emits_call {opcode : OpCode} (three : opcode.operandLen = 3) {index argc : Nat}
    (small : index < 65536) (few : argc < 256) (single : ∀ pos, given → shape pos [⟨opcode, index, argc⟩]) :
    Emits limits given (op opcode >>= fun _ => u16 index >>= fun _ => u8 argc) shape := by
  intro now ready known
  refine (call_spec (.knowing ready known) three small few).mono ?_ (fun _ _ _ => trivial)
  intro _ after progress
  exact ⟨_, progress.imp (single _)⟩

theorem compiles_op {opcode : OpCode} (alone : opcode.operandLen = 0)
    (piece : ∀ pos, Piece limits pos [.plain opcode] need give tidy named) :
    Compiles limits given (op opcode) need give tidy named :=
  Emits.compiles (emits_op alone piece)

theorem compiles_pop : Compiles limits given (op .pop) 1 0 True True :=
  compiles_op rfl fun _ => piece_pop

theorem compiles_loadConst (constant : ConstantSpec) :
    Compiles limits given (loadConst constant) 0 1 True True :=
  Emits.compiles (emits_loadConst constant fun _ _ => piece_loadConst)

theorem compiles_loadLocal {slot : Nat} (small : slot < 256) (inside : given → slot < limits.locals) :
    Compiles limits given (loadLocal slot) 0 1 True True :=
  Emits.compiles (emits_local rfl small fun _ known => piece_loadLocal small (inside known))

theorem compiles_storeLocal {slot : Nat} (small : slot < 256) (inside : given → slot < limits.locals) :
    Compiles limits given (storeLocal slot) 1 0 True True :=
  Emits.compiles (emits_local rfl small fun _ known => piece_storeLocal small (inside known))

theorem compiles_named {opcode : OpCode} (two : opcode.operandLen = 2) (text : String)
    (piece : ∀ pos index, index < 65536 → limits.constants[index]? = some (.text text) →
      Piece limits pos [.one opcode index] need give tidy named) :
    Compiles limits given (Compiler.named opcode text) need give tidy named :=
  Emits.compiles (emits_named two text piece)

theorem compiles_callNamed {opcode : OpCode} (three : opcode.operandLen = 3) (text : String)
    {argc : Nat} (few : argc < 256)
    (piece : ∀ pos index, index < 65536 → limits.constants[index]? = some (.text text) →
      Piece limits pos [⟨opcode, index, argc⟩] need give tidy named) :
    Compiles limits given (callNamed opcode text argc) need give tidy named :=
  Emits.compiles (emits_callNamed three text few piece)

/-- A call of the compiler's own. -/
theorem compiles_callMethod (text : String) (argc : Nat) (few : argc < 256)
    (unnamed : countNamedArguments text false = 0) :
    Compiles limits given (Compiler.callDynamic text argc) (argc + 1) 1 True True :=
  compiles_callNamed rfl text few fun _ _ small found => piece_callMethod small few found unnamed

theorem prepares_allocateLocal :
    Prepares limits given allocateLocal (fun slot => slot < 256) (fun slot => slot < limits.locals) := by
  intro now ready _
  refine (allocateLocal_spec (.start ready)).mono ?_ (fun _ _ _ => trivial)
  intro slot after allocated
  exact ⟨allocated.1, allocated.2.imp And.right⟩

theorem prepares_scopedLocal (id : Int64) :
    Prepares limits given (scopedLocal id) (fun slot => ∀ index, slot = some index → index < 256)
      (SlotWithin limits) := by
  intro now ready _
  refine (scopedLocal_spec (.start ready) id).mono ?_ (fun _ _ _ => trivial)
  intro slot after found
  exact ⟨found.1, found.2.imp And.right⟩

theorem prepares_bindLocal (id : Int64) {slot : Option Nat}
    (small : ∀ index, slot = some index → index < 256) (inside : given → SlotWithin limits slot) :
    Prepares limits given (bindLocal id slot) (fun _ => True) (fun _ => given) := by
  intro now ready known
  refine (bindLocal_spec (.knowing ready known) id small inside).mono ?_ (fun _ _ _ => trivial)
  intro _ after progress
  exact ⟨trivial, progress⟩

theorem prepares_nameLocal {slot : Nat} (inside : given → slot < limits.locals)
    (name : Option String) :
    Prepares limits given (nameLocal slot name) (fun _ => True) (fun _ => given) := by
  intro now ready known
  refine (nameLocal_spec (.knowing ready known) inside name).mono ?_ (fun _ _ _ => trivial)
  intro _ after progress
  exact ⟨trivial, progress⟩

theorem prepares_restore {previous : List (Int64 × Option Nat)}
    (restorable : Restorable limits given previous) :
    Prepares limits given (restore previous) (fun _ => True) (fun _ => given) := by
  intro now ready known
  refine (restore_spec (.knowing ready known) restorable).mono ?_ (fun _ _ _ => trivial)
  intro _ after progress
  exact ⟨trivial, progress⟩

theorem prepares_ensureCount (count limit : Nat) (message : String) :
    Prepares limits given (ensureCount count limit message) (fun _ => count ≤ limit)
      (fun _ => True) := by
  intro now ready _
  refine (ensureCount_spec (.start ready) count limit message).mono ?_ (fun _ _ _ => trivial)
  intro _ after checked
  exact checked

theorem prepares_addConst (constant : ConstantSpec) :
    Prepares limits given (addConst constant) (fun index => index < 65536)
      (fun index => limits.constants[index]? = some constant) := by
  intro now ready _
  refine (addConst_spec (.start ready) constant).mono ?_ (fun _ _ _ => trivial)
  intro index after added
  exact ⟨added.1, added.2.imp And.right⟩

theorem prepares_closureMetadata (names : List String) :
    Prepares limits given (closureMetadata names) (fun operand => operand < 65536)
      (fun operand => names = [] ∧ operand = 0 ∨ names ≠ [] ∧ operand ≠ 0 ∧
        limits.constants[operand - 1]? = some (.text (namedSuffix names))) := by
  intro now ready _
  refine (closureMetadata_spec (.start ready) names).mono ?_ (fun _ _ _ => trivial)
  intro operand after added
  exact ⟨added.1, added.2.imp And.right⟩

/-- A name is bound to a slot while the body is compiled. -/
theorem Emits.bound {body : Compile Unit} {slot : Nat} (small : slot < 256)
    (inside : given → slot < limits.locals) (id : Int64) (emits : Emits limits given body shape) :
    Emits limits given (Compiler.withLocal id slot body) shape := by
  refine (prepares_scopedLocal id).before fun previous smallPrevious => ?_
  have bound : Prepares limits (given ∧ SlotWithin limits previous) (bindLocal id (some slot))
      (fun _ => True) (fun _ => given ∧ SlotWithin limits previous) := by
    refine prepares_bindLocal id ?_ ?_
    · intro index same
      cases same
      exact small
    · intro known index same
      cases same
      exact inside known.1
  have restored : Emits limits (given ∧ SlotWithin limits previous) (bindLocal id previous)
      fun _ code => code = [] :=
    (prepares_bindLocal id smallPrevious And.right).emits fun _ => rfl
  refine bound.before fun _ _ => ((emits.knowing And.left).andThen restored ?_).knowing And.left
  intro pos head tail headShape empty
  rw [empty, List.append_nil]
  exact headShape

theorem Compiles.bound {body : Compile Unit} {slot : Nat} (small : slot < 256)
    (inside : given → slot < limits.locals) (id : Int64)
    (compiles : Compiles limits given body need give tidy named) :
    Compiles limits given (Compiler.withLocal id slot body) need give tidy named :=
  Emits.compiles (compiles.emits.bound small inside id)

end Steps

end CodePush.Compiler
