import CodePush.Compiler.Occurrences
import CodePush.Foundation.ControlFlow

/-!
# The order of operands

Operands are evaluated in the order in which they are written if the emitted code comes to a later operand only
through the code of the earlier ones and never goes back to them. The operands of `<` change places, so that the
order is kept just where at most one of them does anything that matters.
-/

set_option autoImplicit false

namespace CodePush.Compiler

open CodePush.Core CodePush.Bytecode CodePush.Foundation CodePush.Foundation.Action
  CodePush.Foundation.Assembly RestrictedBytecodeCompiler

/-!
## The control flow of emitted code
-/

def controlFlow : Flow Instr where
  size := Instr.size
  falls := fun instr => instr.pushes.isSome
  jumps := fun instr =>
    match instr.opcode with
    | .jump | .jumpIfFalse | .jumpIfTrue => [instr.first]
    | _ => []
  handler := fun instr =>
    match instr.opcode with
    | .tryBegin | .tryFinally => some instr.first
    | _ => none
  positive := Instr.size_pos

/-- The code stays within itself until it is left at its end. -/
structure Enclosed (pos : Nat) (code : Code) : Prop where
  closed : controlFlow.Closed pos code
  fits : ∀ instr ∈ code, instr.Fits

section Code

variable {limits : Limits} {pos : Nat} {code first second : Code}

theorem enclosed_nil : Enclosed pos [] where
  closed := by
    intro pos' instr placed
    obtain ⟨before, after, whole, _⟩ := placed
    simp at whole
  fits := by simp

theorem Enclosed.append (left : Enclosed pos first) (right : Enclosed (pos + extent Instr.size first) second) :
    Enclosed pos (first ++ second) where
  closed := left.closed.append right.closed
  fits := List.forall_mem_append.mpr ⟨left.fits, right.fits⟩

theorem Piece.enclosed {need give : Nat} {tidy named : Prop} (piece : Piece limits pos code need give tidy named) :
    Enclosed pos code where
  closed := by
    intro pos' instr placed
    obtain ⟨_, _, jumps⟩ := piece.linked.placed placed
    have inside : ∀ target ∈ instr.targets, pos ≤ target ∧ target ≤ pos + extent Instr.size code := by
      intro target member
      rcases jumps target () member with atEnd | ⟨other, found⟩
      · subst atEnd
        exact ⟨Nat.le_add_right _ _, Nat.le_refl _⟩
      · obtain ⟨late, early⟩ := controlFlow.placed_bounds found
        exact ⟨late, Nat.le_trans (Nat.le_add_right _ _) early⟩
    obtain ⟨opcode, first, second⟩ := instr
    constructor
    · intro target member
      cases opcode with
      | jump | jumpIfFalse | jumpIfTrue => exact inside target member
      | _ => cases member
    · intro handler handles
      cases opcode with
      | tryBegin | tryFinally =>
          cases handles
          exact inside first List.mem_cons_self
      | _ => cases handles
  fits := by
    intro instr member
    obtain ⟨before, after, rfl⟩ := List.append_of_mem member
    obtain ⟨_, accepted, _⟩ := piece.linked.placed ⟨before, after, rfl, rfl⟩
    exact accepted.1

end Code

/-!
## Operands
-/

/-- An operand, and what the compiler does for the expression before it comes to the operand. -/
structure Operand where
  expr : Expr
  before : Compile Unit

/-- The operand's own code is emitted between these offsets. -/
def Operand.Stands (operand : Operand) (now : RestrictedBytecodeCompiler) (block : Block) : Prop :=
  ∃ first last, operand.before now = (.ok (), first) ∧ compileExpr operand.expr first = (.ok (), last) ∧
    block = ⟨first.code.length, last.code.length⟩

/-- Operands that are compiled one after another. -/
def inTurn (before : Compile Unit) : List Expr → List Operand
  | [] => []
  | item :: items => ⟨item, before⟩ :: inTurn (before >>= fun _ => compileExpr item) items

/-- A stretch of the compiler's work, and the operands in it in the order in which they are written. -/
structure Course where
  action : Compile Unit
  operands : List Operand

namespace Expr

/-- The operands of an expression that has several, in the order in which they are written. -/
def operands : Expr → List Operand
  | .less left right => [⟨left, compileExpr right⟩, ⟨right, pure ()⟩]
  | .binary _ left right | .setField left _ right => inTurn (pure ()) [left, right]
  | .call kind _ args => inTurn (ensureArguments kind.label args) args
  | .callDynamic receiver _ _ args => inTurn (ensureArguments "call_dynamic" args) (receiver :: args)
  | .callClosure closure _ args => inTurn (ensureArguments "call_closure" args) (closure :: args)
  | .makeClosure _ captures =>
      inTurn (ensureCount captures.length 255 "make_closure captures exceed operand space") captures
  | .newObject _ _ _ args => inTurn (ensureArguments "new_object" args) args
  | .concat parts => inTurn (ensureCount parts.length 0xffff "string concat expression has too many parts") parts
  | .list items => inTurn (ensureCount items.length 0xffff "list expression has too many items") items
  | .map entries =>
      inTurn (ensureCount entries.length 0xffff "map expression has too many entries")
        (entries.flatMap fun entry => [entry.1, entry.2])
  | .addAll _ receiver spread =>
      [⟨receiver, do
        let _ ← allocateLocal
        pure ()⟩,
      ⟨spread, do
        let slot ← allocateLocal
        compileExpr receiver
        storeLocal slot
        loadLocal slot⟩]
  | .listForIn receiver source =>
      [⟨receiver, do
        let _ ← allocateLocal
        let _ ← allocateLocal
        pure ()⟩,
      ⟨source, do
        let resultLocal ← allocateLocal
        let _ ← allocateLocal
        compileExpr receiver
        storeLocal resultLocal⟩]
  | .listForInMapped receiver source _ _ | .mapForIn receiver source | .mapForInMapped receiver source _ _ _ =>
      [⟨receiver, do
        let _ ← allocateLocal
        let _ ← allocateLocal
        let _ ← allocateLocal
        pure ()⟩,
      ⟨source, do
        let resultLocal ← allocateLocal
        let _ ← allocateLocal
        let _ ← allocateLocal
        compileExpr receiver
        storeLocal resultLocal⟩]
  | _ => []

/-- The code of an expression, and that of each turn of a loop in it that has operands of its own. -/
def courses : Expr → List Course
  | .mapForInMapped receiver source entry key value =>
      [⟨compileExpr (.mapForInMapped receiver source entry key value),
        (mapForInMapped receiver source entry key value).operands⟩,
      ⟨do
        compileExpr key
        compileExpr value, inTurn (pure ()) [key, value]⟩]
  | expr => [⟨compileExpr expr, expr.operands⟩]

end Expr

/-- The code comes to the second operand only through that of the first one, and does not return. -/
def Ordered (now after : RestrictedBytecodeCompiler) (first second : Operand) : Prop :=
  ∃ code earlier later, after.code = now.code ++ assemble code ∧ (∀ instr ∈ code, instr.Fits) ∧
    first.Stands now earlier ∧ second.Stands now later ∧
    controlFlow.Precedes now.code.length code earlier later

/-- Wherever the course is taken within the limits, the operands that act do so in the order in which they are
written. -/
def Course.InOrder (limits : Limits) (acts : Expr → Prop) (course : Course) : Prop :=
  ∀ now after : RestrictedBytecodeCompiler, now.Ready limits → after.Within limits →
    course.action now = (.ok (), after) →
    course.operands.Pairwise fun first second => acts first.expr → acts second.expr → Ordered now after first second

def InOrder (limits : Limits) (acts : Expr → Prop) (expr : Expr) : Prop :=
  ∀ course ∈ expr.courses, course.InOrder limits acts

/-- Not both operands of `<` act. -/
def Apart (acts : Expr → Prop) : Expr → Prop
  | .less left right => ¬ (acts left ∧ acts right)
  | _ => True

/-!
## Operands in turn
-/

/-- The action emits code that stays within itself. -/
abbrev Encloses (limits : Limits) (given : Prop) (action : Compile Unit) : Prop := Emits limits given action Enclosed

/-- Every run of the action within the limits comes to the first operand and then to the second. -/
def Orders (limits : Limits) (given : Prop) (action : Compile Unit) (first second : Operand) : Prop :=
  ∀ now after : RestrictedBytecodeCompiler, now.Ready limits → (now.Within limits → given) → after.Within limits →
    action now = (.ok (), after) → Ordered now after first second

section Order

variable {limits : Limits} {given : Prop} {acts : Expr → Prop} {now after : RestrictedBytecodeCompiler}

theorem Compiles.encloses {action : Compile Unit} {need give : Nat} {tidy named : Prop}
    (compiles : Compiles limits given action need give tidy named) : Encloses limits given action :=
  Emits.imp compiles.emits fun _ _ piece => piece.enclosed

theorem encloses_nothing : Encloses limits given (pure ()) := emits_nothing fun _ => enclosed_nil

theorem Encloses.andThen {first second : Compile Unit} (left : Encloses limits given first)
    (right : Encloses limits given second) : Encloses limits given (first >>= fun _ => second) :=
  Emits.andThen left right fun _ _ _ => Enclosed.append

theorem compileExpr_encloses (expr : Expr) : Encloses limits given (compileExpr expr) :=
  (compileExpr_compiled limits expr).here.encloses

theorem compileAll_encloses (items : List Expr) : Encloses limits given (compileAll items) :=
  (compileAll_compiles fun item _ => compileExpr_compiled limits item).encloses

theorem Encloses.grows {action : Compile Unit} (encloses : Encloses limits given action) (ready : now.Ready limits)
    (known : now.Within limits → given) (ran : action now = (.ok (), after)) :
    now.code.length ≤ after.code.length := by
  obtain ⟨code, progress⟩ := (encloses now ready known).of_ok ran
  rw [progress.position]
  exact Nat.le_add_right _ _

/-- Where the first operand ends, the rest of the code begins. -/
theorem ordered_of_progress {first second : Operand} {middle last : RestrictedBytecodeCompiler} {front code back : Code}
    {later : Block} (begun : first.before now = (.ok (), middle))
    (before : Progress limits now middle front (Enclosed now.code.length front))
    (ran : compileExpr first.expr middle = (.ok (), last))
    (emitted : Progress limits middle last code (Enclosed middle.code.length code))
    (rest : Progress limits last after back (Enclosed last.code.length back)) (within : after.Within limits)
    (stands : second.Stands now later) (starts : last.code.length ≤ later.start) : Ordered now after first second := by
  have left := (before.trans (emitted.trans rest)).known within
  obtain ⟨frontOk, codeOk, backOk⟩ := left
  have middleAt := before.position
  have lastAt : last.code.length = now.code.length + (extent Instr.size front + extent Instr.size code) := by
    rw [emitted.position, middleAt, Nat.add_assoc]
  refine ⟨front ++ code ++ back, ⟨middle.code.length, last.code.length⟩, later, ?_, ?_, ?_, stands, ?_⟩
  · rw [rest.emitted, emitted.emitted, before.emitted]
    simp
  · exact List.forall_mem_append.mpr ⟨List.forall_mem_append.mpr ⟨frontOk.fits, codeOk.fits⟩, backOk.fits⟩
  · exact ⟨middle, last, begun, ran, rfl⟩
  · rw [middleAt] at codeOk ⊢
    rw [lastAt] at backOk starts ⊢
    exact Flow.precedes_of_parts frontOk.closed codeOk.closed backOk.closed starts

/-- Between the two operands something is emitted that the second one waits for. -/
theorem orders_glued (first : Expr) {second : Expr} {between rest : Compile Unit}
    (betweenOk : Encloses limits given between)
    (restOk : Encloses limits given (between >>= fun _ => compileExpr second >>= fun _ => rest)) :
    Orders limits given
      (do
        compileExpr first
        between
        compileExpr second
        rest)
      ⟨first, pure ()⟩
      ⟨second, do
        compileExpr first
        between⟩ := by
  intro now after ready known within ran
  obtain ⟨_, last, ranFirst, ranRest⟩ := bind_eq_ok.mp ran
  obtain ⟨_, middle, ranBetween, ranTail⟩ := bind_eq_ok.mp ranRest
  obtain ⟨_, finish, ranSecond, _⟩ := bind_eq_ok.mp ranTail
  obtain ⟨code, emitted⟩ := (compileExpr_encloses first now ready fun _ => trivial).of_ok ranFirst
  have told : last.Within limits → given := fun within => known (within.of_grows emitted.grows)
  obtain ⟨back, later⟩ := (restOk last emitted.ready told).of_ok ranRest
  apply ordered_of_progress rfl ((Progress.start ready).imp fun _ => enclosed_nil) ranFirst emitted later within
  · exact ⟨middle, finish, bind_eq_ok.mpr ⟨(), last, ranFirst, ranBetween⟩, ranSecond, rfl⟩
  · exact betweenOk.grows emitted.ready told ranBetween

/-- A step that emits nothing comes first. -/
theorem Prepares.orders {α : Type} {prepare : Compile α} {ok facts : α → Prop} {next : α → Compile Unit}
    {first second : Expr} {beforeFirst beforeSecond : α → Compile Unit}
    (prepares : Prepares limits given prepare ok facts)
    (rest : ∀ value, ok value →
      Orders limits (given ∧ facts value) (next value) ⟨first, beforeFirst value⟩ ⟨second, beforeSecond value⟩) :
    Orders limits given (prepare >>= next) ⟨first, prepare >>= beforeFirst⟩ ⟨second, prepare >>= beforeSecond⟩ := by
  intro now after ready known within ran
  obtain ⟨value, middle, prepared, ranNext⟩ := bind_eq_ok.mp ran
  obtain ⟨holds, progress⟩ := (prepares now ready known).of_ok prepared
  have told : middle.Within limits → given ∧ facts value :=
    fun within => ⟨known (within.of_grows progress.grows), progress.known within⟩
  obtain ⟨code, earlier, later, emitted, fits, standsFirst, standsSecond, precedes⟩ :=
    rest value holds middle after progress.ready told within ranNext
  have same : middle.code = now.code := by
    rw [progress.emitted]
    simp
  rw [same] at emitted precedes
  refine ⟨code, earlier, later, emitted, fits, ?_, ?_, precedes⟩
  · obtain ⟨start, finish, begun, done⟩ := standsFirst
    exact ⟨start, finish, bind_eq_ok.mpr ⟨value, middle, prepared, begun⟩, done⟩
  · obtain ⟨start, finish, begun, done⟩ := standsSecond
    exact ⟨start, finish, bind_eq_ok.mpr ⟨value, middle, prepared, begun⟩, done⟩

theorem mem_inTurn {before : Compile Unit} {items : List Expr} {operand : Operand}
    (member : operand ∈ inTurn before items) :
    ∃ front back, items = front ++ operand.expr :: back ∧ operand.before = before >>= fun _ => compileAll front := by
  induction items generalizing before with
  | nil => cases member
  | cons item items ih =>
      rcases List.mem_cons.mp member with rfl | member
      · exact ⟨[], items, rfl, bind_pure_unit.symm⟩
      · obtain ⟨front, back, rfl, same⟩ := ih member
        refine ⟨item :: front, back, rfl, ?_⟩
        rw [same, compileAll_cons, bind_assoc]

/-- Operands that are compiled one after another are in order. -/
theorem inTurn_ordered {before rest : Compile Unit} {items : List Expr} (beforeOk : Encloses limits True before)
    (restOk : Encloses limits True rest) (ready : now.Ready limits) (within : after.Within limits)
    (ran : (do
      before
      compileAll items
      rest) now = (.ok (), after)) : (inTurn before items).Pairwise (Ordered now after) := by
  induction items generalizing before with
  | nil => exact List.Pairwise.nil
  | cons item items ih =>
      apply List.pairwise_cons.mpr
      constructor
      · intro later member
        obtain ⟨front, back, rfl, same⟩ := mem_inTurn member
        obtain ⟨_, middle, begun, ranItems⟩ := bind_eq_ok.mp ran
        rw [compileAll_cons, bind_assoc] at ranItems
        obtain ⟨_, last, ranItem, ranRest⟩ := bind_eq_ok.mp ranItems
        obtain ⟨front₀, started⟩ := (beforeOk now ready fun _ => trivial).of_ok begun
        obtain ⟨code, emitted⟩ := (compileExpr_encloses item middle started.ready fun _ => trivial).of_ok ranItem
        have following := ((compileAll_encloses (front ++ later.expr :: back)).andThen restOk) last emitted.ready
        obtain ⟨back₀, finished⟩ := (following fun _ => trivial).of_ok ranRest
        rw [compileAll_append, compileAll_cons, bind_assoc, bind_assoc] at ranRest
        obtain ⟨_, start, ranFront, ranTail⟩ := bind_eq_ok.mp ranRest
        obtain ⟨_, finish, ranLater, _⟩ := bind_eq_ok.mp ranTail
        have stands : later.Stands now ⟨start.code.length, finish.code.length⟩ := by
          refine ⟨start, finish, ?_, ranLater, rfl⟩
          rw [same, bind_assoc]
          exact bind_eq_ok.mpr ⟨(), middle, begun, bind_eq_ok.mpr ⟨(), last, ranItem, ranFront⟩⟩
        apply ordered_of_progress begun started ranItem emitted finished within stands
        exact (compileAll_encloses front).grows emitted.ready (fun _ => trivial) ranFront
      · apply ih (beforeOk.andThen (compileExpr_encloses item))
        simp only [compileAll_cons, bind_assoc] at ran ⊢
        exact ran

/-!
## One lemma for each kind of node
-/

/-- The operands are in order, whether they act or not. -/
def Course.Ordered (limits : Limits) (course : Course) : Prop :=
  ∀ now after : RestrictedBytecodeCompiler, now.Ready limits → after.Within limits →
    course.action now = (.ok (), after) → course.operands.Pairwise (Compiler.Ordered now after)

theorem Course.Ordered.inOrder {course : Course} (ordered : course.Ordered limits) : course.InOrder limits acts := by
  intro now after ready within ran
  exact (ordered now after ready within ran).imp fun holds _ _ => holds

theorem Orders.ordered {action : Compile Unit} {first second : Operand} (orders : Orders limits True action first second) :
    Course.Ordered limits ⟨action, [first, second]⟩ := by
  intro now after ready within ran
  exact List.pairwise_pair.mpr (orders now after ready (fun _ => trivial) within ran)

theorem pair_ordered {left right : Expr} {rest : Compile Unit} (restOk : Encloses limits True rest) :
    Course.Ordered limits
      ⟨do
        compileExpr left
        compileExpr right
        rest, inTurn (pure ()) [left, right]⟩ := by
  intro now after ready within ran
  apply inTurn_ordered encloses_nothing restOk ready within
  have none : compileAll [] = pure () := rfl
  simp only [compileAll_cons, none, bind_assoc, pure_bind]
  exact ran

/-- The count of the operands is checked first, and the operation follows them. -/
theorem counted_ordered {items : List Expr} {count limit : Nat} {message : String} {operation : Compile Unit}
    (operationOk : count ≤ limit → Encloses limits True operation) :
    Course.Ordered limits
      ⟨do
        ensureCount count limit message
        compileAll items
        operation, inTurn (ensureCount count limit message) items⟩ := by
  intro now after ready within ran
  have checks : Prepares limits True (ensureCount count limit message) _ _ := prepares_ensureCount count limit message
  obtain ⟨_, middle, checked, _⟩ := bind_eq_ok.mp ran
  obtain ⟨few, _⟩ := (checks now ready fun _ => trivial).of_ok checked
  exact inTurn_ordered (checks.emits fun _ => enclosed_nil) (operationOk few) ready within ran

theorem addAll_ordered (receiver spread : Expr) :
    Course.Ordered limits
      ⟨do
        let slot ← allocateLocal
        compileExpr receiver
        storeLocal slot
        loadLocal slot
        compileExpr spread
        callDynamic "addAll" 1
        loadLocal slot,
      [⟨receiver, do
        let _ ← allocateLocal
        pure ()⟩,
      ⟨spread, do
        let slot ← allocateLocal
        compileExpr receiver
        storeLocal slot
        loadLocal slot⟩]⟩ := by
  apply Orders.ordered
  apply prepares_allocateLocal.orders
  intro slot small
  have stored : Encloses limits (True ∧ slot < limits.locals) _ :=
    ((compiles_storeLocal small And.right).andThen (compiles_loadLocal small And.right)).encloses
  have spreads := (compiles_spread (compileExpr_compiled limits spread) small
    (And.right : True ∧ slot < limits.locals → _)).encloses
  have glued := orders_glued receiver stored (by simpa only [bind_assoc] using spreads)
  simpa only [bind_assoc] using glued

/-- A collection, and what the values to be added come from. -/
theorem orders_gathering (receiver source : Expr) {iterator result : Nat} {body : Compile Unit} {tidy named : Prop}
    (small : iterator < 256) (inside : given → iterator < limits.locals) (resultSmall : result < 256)
    (resultInside : given → result < limits.locals) (bodyOk : Compiles limits given body 0 0 tidy named) :
    Orders limits given
      (do
        compileExpr receiver
        storeLocal result
        compileExpr source
        callDynamic "get:iterator" 0
        storeLocal iterator
        let loopStart ← position
        loadLocal iterator
        callDynamic "moveNext" 0
        op .jumpIfFalse
        let endPatch ← reserveU16
        body
        op .jump
        u16 loopStart
        patchHere endPatch
        loadLocal result)
      ⟨receiver, pure ()⟩
      ⟨source, do
        compileExpr receiver
        storeLocal result⟩ :=
  orders_glued receiver (compiles_storeLocal resultSmall resultInside).encloses
    (compiles_gathering small inside resultSmall resultInside (compileExpr_compiled limits source) bodyOk).encloses

theorem listForIn_ordered (receiver source : Expr) :
    Course.Ordered limits ⟨compileExpr (.listForIn receiver source), (Expr.listForIn receiver source).operands⟩ := by
  apply Orders.ordered
  apply prepares_allocateLocal.orders
  intro result resultSmall
  apply prepares_allocateLocal.orders
  intro iterator small
  have adds : Compiles limits ((True ∧ result < limits.locals) ∧ iterator < limits.locals) _ 0 0 _ _ :=
    compiles_addCurrent small And.right resultSmall fun holds => holds.1.2
  have gathers := orders_gathering receiver source small And.right resultSmall (fun holds => holds.1.2) adds
  simpa only [bind_assoc] using gathers

/-- The value of each turn has a slot of its own. -/
theorem turns_ordered (receiver source : Expr) {body : Nat → Nat → Nat → Compile Unit} {tidy named : Prop}
    (bodyOk : ∀ result iterator current, result < 256 → iterator < 256 → current < 256 →
      Compiles limits (((True ∧ result < limits.locals) ∧ iterator < limits.locals) ∧ current < limits.locals)
        (body result iterator current) 0 0 tidy named) :
    Course.Ordered limits
      ⟨do
        let resultLocal ← allocateLocal
        let iteratorLocal ← allocateLocal
        let currentLocal ← allocateLocal
        compileExpr receiver
        storeLocal resultLocal
        compileExpr source
        callDynamic "get:iterator" 0
        storeLocal iteratorLocal
        let loopStart ← position
        loadLocal iteratorLocal
        callDynamic "moveNext" 0
        op .jumpIfFalse
        let endPatch ← reserveU16
        body resultLocal iteratorLocal currentLocal
        op .jump
        u16 loopStart
        patchHere endPatch
        loadLocal resultLocal,
      (Expr.mapForIn receiver source).operands⟩ := by
  apply Orders.ordered
  apply prepares_allocateLocal.orders
  intro result resultSmall
  apply prepares_allocateLocal.orders
  intro iterator small
  apply prepares_allocateLocal.orders
  intro current currentSmall
  exact orders_gathering receiver source small (fun holds => holds.1.2) resultSmall (fun holds => holds.1.1.2)
    (bodyOk result iterator current resultSmall small currentSmall)

theorem listForInMapped_ordered (receiver source : Expr) (item : Int64) (value : Expr) :
    Course.Ordered limits ⟨compileExpr (.listForInMapped receiver source item value),
      (Expr.listForInMapped receiver source item value).operands⟩ := by
  have ordered := turns_ordered receiver source fun _ _ _ resultSmall small currentSmall =>
    compiles_addValue small (fun holds => holds.1.2) resultSmall (fun holds => holds.1.1.2) currentSmall And.right
      (compileExpr_compiled limits value) item
  simp only [bind_assoc] at ordered
  exact ordered

theorem mapForIn_ordered (receiver source : Expr) :
    Course.Ordered limits ⟨compileExpr (.mapForIn receiver source), (Expr.mapForIn receiver source).operands⟩ := by
  have ordered : Course.Ordered limits _ := turns_ordered receiver source fun _ _ _ resultSmall small currentSmall =>
    compiles_putEntry small (fun holds => holds.1.2) resultSmall (fun holds => holds.1.1.2) currentSmall And.right
  simp only [bind_assoc] at ordered
  exact ordered

theorem mapForInMapped_ordered (receiver source : Expr) (entry : Int64) (key value : Expr) :
    Course.Ordered limits ⟨compileExpr (.mapForInMapped receiver source entry key value),
      (Expr.mapForInMapped receiver source entry key value).operands⟩ := by
  have ordered := turns_ordered receiver source fun _ _ _ resultSmall small currentSmall =>
    compiles_putValue small (fun holds => holds.1.2) resultSmall (fun holds => holds.1.1.2) currentSmall And.right
      (compileExpr_compiled limits key) (compileExpr_compiled limits value) entry
  simp only [bind_assoc] at ordered
  exact ordered

theorem received_ordered {receiver : Expr} {items : List Expr} {count limit : Nat} {message : String}
    {operation : Compile Unit} (operationOk : count ≤ limit → Encloses limits True operation) :
    Course.Ordered limits
      ⟨do
        ensureCount count limit message
        compileExpr receiver
        compileAll items
        operation, inTurn (ensureCount count limit message) (receiver :: items)⟩ := by
  have ordered : Course.Ordered limits ⟨_, inTurn (ensureCount count limit message) (receiver :: items)⟩ :=
    counted_ordered operationOk
  simp only [compileAll_cons, bind_assoc] at ordered
  exact ordered

theorem map_ordered (entries : List (Expr × Expr)) :
    Course.Ordered limits ⟨compileExpr (.map entries), (Expr.map entries).operands⟩ := by
  have same : compileExpr (.map entries) = (do
      ensureCount entries.length 0xffff "map expression has too many entries"
      compileAll (entries.flatMap fun entry => [entry.1, entry.2])
      op .makeMap
      u16 entries.length) := by
    rw [← compileAll_entries]
    rfl
  rw [same]
  exact counted_ordered fun few => (compiles_makeMap few).encloses

/-- Without `<`, operands are in order. -/
theorem courses_ordered {expr : Expr} (other : ∀ left right, expr ≠ .less left right) :
    ∀ course ∈ expr.courses, course.Ordered limits := by
  have alone : ∀ {course : Course}, course.Ordered limits → ∀ other ∈ [course], other.Ordered limits :=
    List.forall_mem_singleton.mpr
  cases expr with
  | less left right => exact absurd rfl (other left right)
  | binary operator left right =>
      have operated : Compiles limits True (op operator.opcode) 2 1 True True :=
        compiles_op (by cases operator <;> rfl) fun _ => piece_binary operator
      exact alone (pair_ordered operated.encloses)
  | setField receiver field value =>
      exact alone (pair_ordered (compiles_named rfl field fun _ _ => piece_setField).encloses)
  | call kind target args =>
      exact alone (counted_ordered fun few => (compiles_callTarget few kind target).encloses)
  | callDynamic receiver method names args =>
      exact alone (received_ordered fun few => (compiles_callMember few receiver method names).encloses)
  | callClosure closure names args =>
      exact alone (received_ordered fun few => (compiles_callClosure few closure names).encloses)
  | makeClosure closure captures =>
      exact alone (counted_ordered fun _ => (compiles_makeClosure closure).encloses)
  | newObject constructor typeNames names args =>
      exact alone (counted_ordered fun few => (compiles_newObject few constructor typeNames names).encloses)
  | concat parts => exact alone (counted_ordered fun few => (compiles_stringConcat few).encloses)
  | list items => exact alone (counted_ordered fun few => (compiles_makeList few).encloses)
  | map entries => exact alone (map_ordered entries)
  | addAll kind receiver spread => exact alone (addAll_ordered receiver spread)
  | listForIn receiver source => exact alone (listForIn_ordered receiver source)
  | listForInMapped receiver source item value => exact alone (listForInMapped_ordered receiver source item value)
  | mapForIn receiver source => exact alone (mapForIn_ordered receiver source)
  | mapForInMapped receiver source entry key value =>
      have turn : Course.Ordered limits ⟨_, inTurn (pure ()) [key, value]⟩ := pair_ordered encloses_nothing
      rw [bind_pure_unit] at turn
      exact List.forall_mem_cons.mpr ⟨mapForInMapped_ordered receiver source entry key value, alone turn⟩
  | _ => exact alone fun _ _ _ _ _ => List.Pairwise.nil

/-!
### The operands of `<`
-/

/-- An expression has code of its own. -/
theorem compileExpr_rises {expr : Expr} (ready : now.Ready limits) (within : after.Within limits)
    (ran : compileExpr expr now = (.ok (), after)) : now.code.length < after.code.length := by
  obtain ⟨code, progress⟩ := (compileExpr_compiled limits expr now ready fun _ => trivial).of_ok ran
  have some := (progress.known within).rises Nat.zero_lt_one
  rw [progress.position]
  cases code with
  | nil => exact absurd rfl some
  | cons instr code =>
      have positive := instr.size_pos
      rw [extent_cons]
      omega

/-- The code of the left operand ends where the code of both does. -/
theorem less_unordered {left right : Expr} (ready : now.Ready limits) (within : after.Within limits)
    (ran : compileExpr (.less left right) now = (.ok (), after)) :
    ¬ Ordered now after ⟨left, compileExpr right⟩ ⟨right, pure ()⟩ := by
  intro ordered
  obtain ⟨code, earlier, later, _, _, standsLeft, standsRight, precedes⟩ := ordered
  obtain ⟨_, middle, ranRight, ranRest⟩ := bind_eq_ok.mp ran
  obtain ⟨_, last, ranLeft, greater⟩ := bind_eq_ok.mp ranRest
  obtain ⟨start, finish, begun, done, rfl⟩ := standsLeft
  obtain ⟨start', finish', begun', done', rfl⟩ := standsRight
  obtain ⟨_, rfl⟩ := pure_eq_ok.mp begun'
  cases ranRight.symm.trans begun
  cases ranRight.symm.trans done'
  cases ranLeft.symm.trans done
  obtain ⟨_, first⟩ := (compileExpr_encloses right _ ready fun _ => trivial).of_ok ranRight
  obtain ⟨_, second⟩ := (compileExpr_encloses left _ first.ready fun _ => trivial).of_ok ranLeft
  have operated : Encloses limits True (op .greater) :=
    (compiles_op rfl fun _ => piece_binary .greater).encloses
  obtain ⟨_, third⟩ := (operated _ second.ready fun _ => trivial).of_ok greater
  have withinLast := within.of_grows third.grows
  have risesRight := compileExpr_rises ready (withinLast.of_grows second.grows) ranRight
  have risesLeft := compileExpr_rises first.ready withinLast ranLeft
  have early := Nat.lt_trans risesRight risesLeft
  exact precedes.leaves _ _ (Nat.le_refl _) early ⟨Nat.le_refl _, risesRight⟩ ⟨Nat.ne_of_lt early, .refl⟩

theorem inOrder_iff {expr : Expr} (occurs : Occurs limits expr) : InOrder limits acts expr ↔ Apart acts expr := by
  by_cases isLess : ∃ left right, expr = .less left right
  · obtain ⟨left, right, rfl⟩ := isLess
    constructor
    · intro inOrder both
      obtain ⟨now, after, ready, within, ran⟩ := occurs
      have ordered := inOrder _ (List.mem_singleton_self _) now after ready within ran
      exact less_unordered ready within ran (List.pairwise_pair.mp ordered both.1 both.2)
    · intro apart course member
      obtain rfl := List.mem_singleton.mp member
      intro now after _ _ _
      apply List.pairwise_pair.mpr
      intro actsLeft actsRight
      exact absurd ⟨actsLeft, actsRight⟩ apart
  · have other : ∀ left right, expr ≠ .less left right := fun left right same => isLess ⟨left, right, same⟩
    have apart : Apart acts expr := by
      cases expr with
      | less left right => exact absurd rfl (other left right)
      | _ => trivial
    exact iff_of_true (fun course member => (courses_ordered other course member).inOrder) apart

theorem all_inOrder_iff {expr : Expr} (occurs : Occurs limits expr) :
    expr.All (InOrder limits acts) ↔ expr.All (Apart acts) := by
  induction expr using Expr.induct with
  | step expr ih =>
      rw [Expr.all_iff, Expr.all_iff, inOrder_iff occurs]
      exact and_congr_right fun _ => forall₂_congr fun child member => ih child member (occurs.child member)

/-- The code of an expression and of all of its parts evaluates the operands that act in the order in which they
are written if and only if the operands of no `<` both act. -/
theorem operand_order_kept_iff (acts : Expr → Prop) {expr : Expr} {now after : RestrictedBytecodeCompiler}
    (sound : now.Sound) (compiled : compileExpr expr now = (.ok (), after)) :
    expr.All (InOrder after.used acts) ↔ expr.All (Apart acts) :=
  all_inOrder_iff (sound.occurs compiled)

end Order

/-!
## Calls
-/

namespace Expr

/-- Emits a call of its own, beside those of its operands. -/
def CallNode : Expr → Prop
  | .call _ _ _ | .callDynamic _ _ _ _ | .callClosure _ _ _ | .newObject _ _ _ _ | .yieldAll _
  | .yieldForIn _ _ _ _ _ | .addAll _ _ _ | .listForIn _ _ | .listForInMapped _ _ _ _ | .mapForIn _ _
  | .mapForInMapped _ _ _ _ _ => True
  | _ => False

def MakesCall (expr : Expr) : Prop := ¬ expr.All fun node => ¬ node.CallNode

end Expr

/-- `f() < x` -/
theorem operand_order_kept_before_argument :
    ∃ after, compileExpr (.less (.call .static "f" []) (.arg "x")) (start ["x"]) = (.ok (), after) ∧
      (Expr.less (.call .static "f" []) (.arg "x")).All (InOrder after.used Expr.MakesCall) := by
  have sound : (start ["x"]).Sound := sound_start (by decide)
  have compiled : compileExpr (.less (.call .static "f" []) (.arg "x")) (start ["x"]) =
      (.ok (), (compileExpr (.less (.call .static "f" []) (.arg "x")) (start ["x"])).2) := rfl
  refine ⟨_, compiled, (operand_order_kept_iff Expr.MakesCall sound compiled).mpr ?_⟩
  have quiet : ¬ (Expr.arg "x").MakesCall := fun calls => calls (.node id (by simp [Expr.children]))
  apply Expr.All.node (fun both => quiet both.2)
  intro child member
  simp only [Expr.children, List.mem_cons, List.not_mem_nil, or_false] at member
  rcases member with rfl | rfl
  · exact .node trivial (by simp [Expr.children])
  · exact .node trivial (by simp [Expr.children])

/-- The code of `f(1) < f(2)` calls `f` with 2 before it does so with 1. -/
theorem less_calls_right_operand_first :
    ∃ after, compileExpr (.less (.call .static "f" [.int 1]) (.call .static "f" [.int 2])) (start []) =
        (.ok (), after) ∧
      after.constants = [⟨.int, .int 2⟩, .text "f", ⟨.int, .int 1⟩] ∧
      after.code = assemble [.one .loadConst 0, ⟨.callStatic, 1, 1⟩, .one .loadConst 2, ⟨.callStatic, 1, 1⟩,
        .plain .greater] ∧
      ¬ (Expr.less (.call .static "f" [.int 1]) (.call .static "f" [.int 2])).All
        (InOrder after.used Expr.MakesCall) := by
  have sound : (start []).Sound := sound_start (by decide)
  have compiled : compileExpr (.less (.call .static "f" [.int 1]) (.call .static "f" [.int 2])) (start []) =
      (.ok (), (compileExpr (.less (.call .static "f" [.int 1]) (.call .static "f" [.int 2])) (start [])).2) := rfl
  refine ⟨_, compiled, rfl, rfl, ?_⟩
  intro all
  have calls : ∀ value, (Expr.call .static "f" [.int value]).MakesCall := by
    intro value silent
    exact (Expr.all_iff.mp silent).1 trivial
  have apart := (all_inOrder_iff (sound.occurs compiled)).mp all
  exact (Expr.all_iff.mp apart).1 ⟨calls 1, calls 2⟩

end CodePush.Compiler
