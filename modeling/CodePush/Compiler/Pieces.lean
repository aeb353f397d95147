import CodePush.Compiler.Emission

/-!
# Pieces of compiled code

Two sets of rules for emitted code: one for its operands and jump targets, the other for the
depth of the operand stack. A piece satisfies both, the second one under a condition on the
expression it was compiled from.
-/

set_option autoImplicit false

namespace CodePush.Compiler

open CodePush.Core CodePush.Bytecode CodePush.Foundation CodePush.Foundation.Assembly

/-!
## Operands and targets
-/

namespace Instr

/-- The operands refer to what the limits allow, constants of the right kind among it. -/
def Refers (limits : Limits) (instr : Instr) : Prop :=
  match instr.opcode with
  | .loadConst => instr.first < limits.constants.length
  | .loadArg => instr.first < limits.params
  | .loadLocal | .storeLocal => instr.first < limits.locals
  | .callClosure => instr.first ≠ 0 → ∃ names, names ≠ [] ∧
      limits.constants[instr.first - 1]? = some (.text (namedSuffix names))
  | .getField | .setField | .isType | .asType | .callStatic | .makeClosure | .callDynamic
  | .callOriginal | .newObject => ∃ text, limits.constants[instr.first]? = some (.text text)
  | _ => True

/-- The handler of a try instruction lies between it and its end. -/
def Ordered (pos : Nat) (instr : Instr) : Prop :=
  match instr.opcode with
  | .tryBegin | .tryFinally => pos < instr.first ∧ instr.first < instr.second
  | _ => True

/-- The names that a call lists are no more than its arguments. -/
def Counts (constants : List ConstantSpec) (instr : Instr) : Prop :=
  match instr.opcode with
  | .callClosure => instr.first ≠ 0 → ∀ text, constants[instr.first - 1]? = some (.text text) →
      countNamedArguments text true ≤ instr.second
  | .callDynamic | .callOriginal | .newObject =>
      ∀ text, constants[instr.first]? = some (.text text) →
        countNamedArguments text false ≤ instr.second
  | _ => True

end Instr

def linkRules (limits : Limits) : Rules Instr Unit where
  size := Instr.size
  accepts := fun pos instr _ => instr.Fits ∧ instr.Refers limits ∧ instr.Ordered pos
  next := fun _ _ _ => True
  jumps := fun instr _ target _ => target ∈ instr.targets

/-!
## Stack effects
-/

/-- `";captures:"`. -/
def capturesMarker : List Char := [';', 'c', 'a', 'p', 't', 'u', 'r', 'e', 's', ':']

/-- The number of captures that the text of a closure announces. -/
def closureCaptures (text : String) : Nat :=
  match splitAtMarker capturesMarker text.toList with
  | none => 0
  | some (_, after) =>
      (after.takeWhile Char.isDigit).foldl (fun value digit => value * 10 + (digit.toNat - 48)) 0

def constantText (constants : List ConstantSpec) (index : Nat) : String :=
  match constants[index]? with
  | some ⟨.string, .string text⟩ => text
  | _ => ""

theorem constantText_found {constants : List ConstantSpec} {index : Nat} {text : String}
    (found : constants[index]? = some (.text text)) : constantText constants index = text := by
  rw [constantText, found]
  rfl

namespace Instr

/-- The values that an instruction takes from the stack. -/
def pops (constants : List ConstantSpec) (instr : Instr) : Nat :=
  match instr.opcode with
  | .loadConst | .loadArg | .loadLocal | .jump | .tryBegin | .tryFinally | .endFinally | .rethrow => 0
  | .storeLocal | .pop | .jumpIfFalse | .jumpIfTrue | .getField | .isType | .asType | .throw | .await
  | .asyncReturn | .yield | .return => 1
  | .add | .sub | .mul | .div | .greater | .equal | .setField => 2
  | .makeList | .stringConcat => instr.first
  | .makeMap => 2 * instr.first
  | .callStatic | .callOriginal | .newObject => instr.second
  | .callDynamic | .callClosure => instr.second + 1
  | .makeClosure => closureCaptures (constantText constants instr.first)

/-- The values that it puts back before the next instruction, unless execution does not go
on there. -/
def pushes (instr : Instr) : Option Nat :=
  match instr.opcode with
  | .jump | .throw | .asyncReturn | .rethrow | .return => none
  | .storeLocal | .pop | .jumpIfFalse | .jumpIfTrue | .tryBegin | .tryFinally | .yield
  | .endFinally => some 0
  | .loadConst | .loadArg | .loadLocal | .add | .sub | .mul | .div | .greater | .equal | .makeList
  | .makeMap | .stringConcat | .getField | .setField | .isType | .asType | .callStatic
  | .callDynamic | .callOriginal | .callClosure | .makeClosure | .newObject | .await => some 1

/-- Where else execution may go on, and the values put back there: a handler finds the
exception on the stack. -/
def branches (instr : Instr) : Option (Nat × Nat) :=
  match instr.opcode with
  | .jump | .jumpIfFalse | .jumpIfTrue | .tryFinally => some (instr.first, 0)
  | .tryBegin => some (instr.first, 1)
  | _ => none

end Instr

/-- Depths of the stack; no instruction takes values from below `base`. -/
def depthRules (constants : List ConstantSpec) (base : Nat) : Rules Instr Nat where
  size := Instr.size
  accepts := fun _ instr depth => base + instr.pops constants ≤ depth
  next := fun instr depth after =>
    ∀ count, instr.pushes = some count → after = depth - instr.pops constants + count
  jumps := fun instr depth target after => ∃ count, instr.branches = some (target, count) ∧
    after = depth - instr.pops constants + count

/-!
## Pieces
-/

/-- Code that takes `need` values from the stack and leaves `give`. -/
structure Piece (limits : Limits) (pos : Nat) (code : Code) (need give : Nat)
    (tidy named : Prop) : Prop where
  linked : (linkRules limits).Typed [] pos code () ()
  counts : (∀ instr ∈ code, instr.Counts limits.constants) ↔ named
  balanced : tidy → ∀ base depth, base ≤ depth →
    (depthRules limits.constants base).Typed [] pos code (depth + need) (depth + give)
  /-- There is an instruction if values are added. -/
  rises : need < give → code ≠ []

section Pieces

variable {limits : Limits} {pos : Nat} {code first second : Code} {need middle give : Nat}
  {tidy tidy' named named' : Prop}

theorem Piece.nil : Piece limits pos [] need need True True where
  linked := Rules.typed_nil
  counts := by simp
  balanced := fun _ _ _ _ => Rules.typed_nil
  rises := fun less => absurd less (Nat.lt_irrefl need)

theorem Piece.append (left : Piece limits pos first need middle tidy named)
    (right : Piece limits (pos + extent Instr.size first) second middle give tidy' named') :
    Piece limits pos (first ++ second) need give (tidy ∧ tidy') (named ∧ named') where
  linked := left.linked.append right.linked
  counts := by rw [List.forall_mem_append, left.counts, right.counts]
  balanced := by
    intro tidy base depth above
    exact (left.balanced tidy.1 base depth above).append (right.balanced tidy.2 base depth above)
  rises := by
    intro less
    rcases Nat.lt_or_ge need middle with rises | falls
    · exact List.append_ne_nil_of_left_ne_nil (left.rises rises) second
    · exact List.append_ne_nil_of_right_ne_nil first (right.rises (Nat.lt_of_le_of_lt falls less))

/-- More values below those that a piece uses. -/
theorem Piece.frame (piece : Piece limits pos code need give tidy named) (below : Nat) :
    Piece limits pos code (below + need) (below + give) tidy named where
  linked := piece.linked
  counts := piece.counts
  balanced := by
    intro tidy base depth above
    have typed := piece.balanced tidy base (depth + below) (by omega)
    rwa [Nat.add_assoc, Nat.add_assoc] at typed
  rises := fun less => piece.rises (Nat.lt_of_add_lt_add_left less)

theorem Piece.imp (piece : Piece limits pos code need give tidy named)
    (weaker : tidy' → tidy) (same : named ↔ named') : Piece limits pos code need give tidy' named' where
  linked := piece.linked
  counts := piece.counts.trans same
  balanced := fun tidy => piece.balanced (weaker tidy)
  rises := piece.rises

theorem Piece.moved {pos' : Nat} (piece : Piece limits pos code need give tidy named)
    (same : pos = pos') : Piece limits pos' code need give tidy named := same ▸ piece

/-- An instruction after which execution goes on. -/
theorem Piece.single (instr : Instr) (fits : instr.Fits) (refers : instr.Refers limits)
    (ordered : instr.Ordered pos) (straight : instr.targets = [])
    (noBranch : instr.branches = none) (pushed : instr.pushes = some give)
    (popped : tidy → instr.pops limits.constants = need)
    (counted : instr.Counts limits.constants ↔ named) :
    Piece limits pos [instr] need give tidy named where
  linked := by
    refine Rules.typed_singleton ⟨fits, refers, ordered⟩ trivial ?_
    intro target promised jump
    simp [linkRules, straight] at jump
  rises := fun _ => List.cons_ne_nil _ _
  counts := by simpa using counted
  balanced := by
    intro tidy base depth above
    have popped := popped tidy
    refine Rules.typed_singleton ?_ ?_ ?_
    · show base + instr.pops limits.constants ≤ depth + need
      omega
    · intro count also
      cases pushed.symm.trans also
      omega
    · intro target promised jump
      obtain ⟨count, branch, _⟩ := jump
      rw [noBranch] at branch
      cases branch

/-!
### Single instructions
-/

theorem piece_pop : Piece limits pos [.plain .pop] 1 0 True True :=
  .single _ ⟨rfl, rfl⟩ trivial trivial rfl rfl rfl (fun _ => rfl) Iff.rfl

theorem piece_yield : Piece limits pos [.plain .yield] 1 0 True True :=
  .single _ ⟨rfl, rfl⟩ trivial trivial rfl rfl rfl (fun _ => rfl) Iff.rfl

theorem piece_await : Piece limits pos [.plain .await] 1 1 True True :=
  .single _ ⟨rfl, rfl⟩ trivial trivial rfl rfl rfl (fun _ => rfl) Iff.rfl

theorem piece_endFinally : Piece limits pos [.plain .endFinally] 0 0 True True :=
  .single _ ⟨rfl, rfl⟩ trivial trivial rfl rfl rfl (fun _ => rfl) Iff.rfl

theorem piece_binary (operator : BinaryOp) :
    Piece limits pos [.plain operator.opcode] 2 1 True True := by
  cases operator
  all_goals exact .single _ ⟨rfl, rfl⟩ trivial trivial rfl rfl rfl (fun _ => rfl) Iff.rfl

/-- Nothing follows a `throw`. -/
theorem piece_throw : Piece limits pos [.plain .throw] 1 1 True True where
  linked := by
    refine Rules.typed_singleton ⟨by decide, trivial, trivial⟩ trivial ?_
    intro target promised jump
    cases jump
  rises := fun _ => List.cons_ne_nil _ _
  counts := by
    simp only [List.forall_mem_cons, List.not_mem_nil, IsEmpty.forall_iff, implies_true, and_true,
      iff_true]
    trivial
  balanced := by
    intro _ base depth above
    refine Rules.typed_singleton (Nat.succ_le_succ above) ?_ ?_
    · intro count pushed
      cases pushed
    · intro target promised jump
      obtain ⟨count, branch, _⟩ := jump
      cases branch

theorem piece_loadArg {index : Nat} (small : index < 256) (inside : index < limits.params) :
    Piece limits pos [.one .loadArg index] 0 1 True True :=
  .single _ ⟨small, rfl⟩ inside trivial rfl rfl rfl (fun _ => rfl)
    Iff.rfl

theorem piece_loadLocal {slot : Nat} (small : slot < 256) (inside : slot < limits.locals) :
    Piece limits pos [.one .loadLocal slot] 0 1 True True :=
  .single _ ⟨small, rfl⟩ inside trivial rfl rfl rfl (fun _ => rfl)
    Iff.rfl

theorem piece_storeLocal {slot : Nat} (small : slot < 256) (inside : slot < limits.locals) :
    Piece limits pos [.one .storeLocal slot] 1 0 True True :=
  .single _ ⟨small, rfl⟩ inside trivial rfl rfl rfl (fun _ => rfl)
    Iff.rfl

theorem piece_loadConst {index : Nat} {constant : ConstantSpec} (small : index < 65536)
    (found : limits.constants[index]? = some constant) :
    Piece limits pos [.one .loadConst index] 0 1 True True :=
  .single _ ⟨small, rfl⟩ (List.getElem?_eq_some_iff.mp found).1 trivial rfl rfl rfl (fun _ => rfl)
    Iff.rfl

section Named

variable {index argc : Nat} {text : String}

theorem piece_getField (small : index < 65536)
    (found : limits.constants[index]? = some (.text text)) :
    Piece limits pos [.one .getField index] 1 1 True True :=
  .single _ ⟨small, rfl⟩ ⟨text, found⟩ trivial rfl rfl rfl (fun _ => rfl)
    Iff.rfl

theorem piece_setField (small : index < 65536)
    (found : limits.constants[index]? = some (.text text)) :
    Piece limits pos [.one .setField index] 2 1 True True :=
  .single _ ⟨small, rfl⟩ ⟨text, found⟩ trivial rfl rfl rfl (fun _ => rfl)
    Iff.rfl

theorem piece_isType (small : index < 65536)
    (found : limits.constants[index]? = some (.text text)) :
    Piece limits pos [.one .isType index] 1 1 True True :=
  .single _ ⟨small, rfl⟩ ⟨text, found⟩ trivial rfl rfl rfl (fun _ => rfl)
    Iff.rfl

theorem piece_asType (small : index < 65536)
    (found : limits.constants[index]? = some (.text text)) :
    Piece limits pos [.one .asType index] 1 1 True True :=
  .single _ ⟨small, rfl⟩ ⟨text, found⟩ trivial rfl rfl rfl (fun _ => rfl)
    Iff.rfl

theorem piece_makeClosure {captures : Nat} (small : index < 65536)
    (found : limits.constants[index]? = some (.text text)) :
    Piece limits pos [.one .makeClosure index] captures 1 (closureCaptures text = captures) True := by
  refine .single _ ⟨small, rfl⟩ ⟨text, found⟩ trivial rfl rfl rfl ?_ Iff.rfl
  intro announced
  show closureCaptures (constantText limits.constants index) = captures
  rw [constantText, found]
  exact announced

theorem piece_callStatic (small : index < 65536) (few : argc < 256)
    (found : limits.constants[index]? = some (.text text)) :
    Piece limits pos [⟨.callStatic, index, argc⟩] argc 1 True True :=
  .single _ ⟨small, few⟩ ⟨text, found⟩ trivial rfl rfl rfl (fun _ => rfl)
    Iff.rfl

theorem counts_text_iff {constants : List ConstantSpec} {bound : Nat}
    (found : constants[index]? = some (.text text)) :
    (∀ other, constants[index]? = some (.text other) → countNamedArguments other false ≤ bound) ↔
      countNamedArguments text false ≤ bound := by
  constructor
  · intro all
    exact all text found
  · intro here other also
    cases found.symm.trans also
    exact here

theorem piece_callOriginal (small : index < 65536) (few : argc < 256)
    (found : limits.constants[index]? = some (.text text)) :
    Piece limits pos [⟨.callOriginal, index, argc⟩] argc 1 True
      (countNamedArguments text false ≤ argc) :=
  .single _ ⟨small, few⟩ ⟨text, found⟩ trivial rfl rfl rfl (fun _ => rfl)
    (counts_text_iff found)

theorem piece_newObject (small : index < 65536) (few : argc < 256)
    (found : limits.constants[index]? = some (.text text)) :
    Piece limits pos [⟨.newObject, index, argc⟩] argc 1 True
      (countNamedArguments text false ≤ argc) :=
  .single _ ⟨small, few⟩ ⟨text, found⟩ trivial rfl rfl rfl (fun _ => rfl)
    (counts_text_iff found)

theorem piece_callDynamic (small : index < 65536) (few : argc < 256)
    (found : limits.constants[index]? = some (.text text)) :
    Piece limits pos [⟨.callDynamic, index, argc⟩] (argc + 1) 1 True
      (countNamedArguments text false ≤ argc) :=
  .single _ ⟨small, few⟩ ⟨text, found⟩ trivial rfl rfl rfl (fun _ => rfl)
    (counts_text_iff found)

/-- A call of the compiler's own, of a method without named arguments. -/
theorem piece_callMethod (small : index < 65536) (few : argc < 256)
    (found : limits.constants[index]? = some (.text text))
    (unnamed : countNamedArguments text false = 0) :
    Piece limits pos [⟨.callDynamic, index, argc⟩] (argc + 1) 1 True True :=
  (piece_callDynamic small few found).imp id (by simp [unnamed])

theorem piece_callClosure {names : List String} (small : index < 65536) (few : argc < 256)
    (found : names = [] ∧ index = 0 ∨ names ≠ [] ∧ index ≠ 0 ∧
      limits.constants[index - 1]? = some (.text (namedSuffix names))) :
    Piece limits pos [⟨.callClosure, index, argc⟩] (argc + 1) 1 True
      (names ≠ [] → countNamedArguments (namedSuffix names) true ≤ argc) := by
  have refers : (Instr.mk .callClosure index argc).Refers limits := by
    intro metadata
    rcases found with ⟨_, none⟩ | ⟨some, _, found⟩
    · exact absurd none metadata
    · exact ⟨names, some, found⟩
  refine .single _ ⟨small, few⟩ refers trivial rfl rfl rfl (fun _ => rfl) ?_
  show (index ≠ 0 → ∀ text, limits.constants[index - 1]? = some (.text text) →
    countNamedArguments text true ≤ argc) ↔ _
  rcases found with ⟨rfl, rfl⟩ | ⟨some, metadata, found⟩
  · simp
  · constructor
    · intro all _
      exact all metadata _ found
    · intro here _ other also
      cases found.symm.trans also
      exact here some

end Named

theorem piece_makeList {count : Nat} (few : count < 65536) :
    Piece limits pos [.one .makeList count] count 1 True True :=
  .single _ ⟨few, rfl⟩ trivial trivial rfl rfl rfl (fun _ => rfl)
    Iff.rfl

theorem piece_makeMap {count : Nat} (few : count < 65536) :
    Piece limits pos [.one .makeMap count] (2 * count) 1 True True :=
  .single _ ⟨few, rfl⟩ trivial trivial rfl rfl rfl (fun _ => rfl)
    Iff.rfl

theorem piece_stringConcat {count : Nat} (few : count < 65536) :
    Piece limits pos [.one .stringConcat count] count 1 True True :=
  .single _ ⟨few, rfl⟩ trivial trivial rfl rfl rfl (fun _ => rfl)
    Iff.rfl

/-!
### Jumps
-/

theorem link_jump {opcode : OpCode} (two : opcode.operandLen = 2)
    (jumps : opcode = .jump ∨ opcode = .jumpIfFalse) {target : Nat} (small : target < 65536) :
    (linkRules limits).Typed [(target, ())] pos [.one opcode target] () () := by
  refine Rules.typed_singleton ⟨?_, ?_, ?_⟩ trivial ?_
  · simp [Instr.Fits, Instr.one, two, small]
  · rcases jumps with rfl | rfl <;> trivial
  · rcases jumps with rfl | rfl <;> trivial
  · intro found _ member
    rcases jumps with rfl | rfl <;>
      simpa [linkRules, Instr.targets, Instr.one] using member

theorem depth_jump {constants : List ConstantSpec} {base depth after : Nat} (above : base ≤ depth)
    (target : Nat) :
    (depthRules constants base).Typed [(target, depth)] pos [.one .jump target] depth after := by
  refine Rules.typed_singleton above ?_ ?_
  · intro count pushed
    cases pushed
  · intro found promised jump
    obtain ⟨count, branch, rfl⟩ := jump
    cases branch
    exact List.mem_singleton.mpr rfl

theorem depth_test {constants : List ConstantSpec} {base depth : Nat} (above : base ≤ depth)
    (target : Nat) :
    (depthRules constants base).Typed [(target, depth)] pos [.one .jumpIfFalse target] (depth + 1)
      depth := by
  refine Rules.typed_singleton (Nat.succ_le_succ above) ?_ ?_
  · intro count pushed
    cases pushed
    rfl
  · intro found promised jump
    obtain ⟨count, branch, rfl⟩ := jump
    cases branch
    exact List.mem_singleton.mpr rfl

theorem counts_jump {constants : List ConstantSpec} {target : Nat} :
    (Instr.one .jump target).Counts constants := trivial

theorem counts_test {constants : List ConstantSpec} {target : Nat} :
    (Instr.one .jumpIfFalse target).Counts constants := trivial

theorem counts_tryBegin {constants : List ConstantSpec} {handler finish : Nat} :
    (Instr.mk .tryBegin handler finish).Counts constants := trivial

theorem counts_tryFinally {constants : List ConstantSpec} {handler finish : Nat} :
    (Instr.mk .tryFinally handler finish).Counts constants := trivial

variable {conditionCode thenCode elseCode bodyCode tailCode : Code}
  {tidy₁ tidy₂ tidy₃ named₁ named₂ named₃ : Prop} {thenAt label finish : Nat}

theorem Piece.conditional (condition : Piece limits pos conditionCode 0 1 tidy₁ named₁)
    (thenPlaced : thenAt = pos + extent Instr.size conditionCode + 3)
    (thenPiece : Piece limits thenAt thenCode 0 1 tidy₂ named₂)
    (labelled : label = thenAt + extent Instr.size thenCode + 3)
    (elsePiece : Piece limits label elseCode 0 1 tidy₃ named₃)
    (finished : finish = label + extent Instr.size elseCode) (small : finish < 65536) :
    Piece limits pos
      (conditionCode ++ (.one .jumpIfFalse label :: (thenCode ++ .one .jump finish :: elseCode)))
      0 1 (tidy₁ ∧ tidy₂ ∧ tidy₃) (named₁ ∧ named₂ ∧ named₃) where
  linked :=
    condition.linked.branch rfl (link_jump rfl (.inr rfl) (by omega)) thenPlaced thenPiece.linked
      rfl (link_jump rfl (.inl rfl) small) labelled elsePiece.linked finished
  rises := fun _ => by simp
  counts := by
    simp only [List.forall_mem_append, List.forall_mem_cons, condition.counts, thenPiece.counts,
      elsePiece.counts, counts_jump, counts_test, true_and]
  balanced := by
    intro tidy base depth above
    exact (condition.balanced tidy.1 base depth above).branch rfl (depth_test above label)
      thenPlaced (thenPiece.balanced tidy.2.1 base depth above) rfl
      (depth_jump (by omega) finish) labelled (elsePiece.balanced tidy.2.2 base depth above) finished

/-- Code in a loop that leaves the stack as it was, and may restart or leave the loop. -/
structure LoopPiece (limits : Limits) (pos : Nat) (code : Code) (loopStart finish : Nat)
    (tidy named : Prop) : Prop where
  linked : (linkRules limits).Typed [(loopStart, ()), (finish, ())] pos code () ()
  counts : (∀ instr ∈ code, instr.Counts limits.constants) ↔ named
  balanced : tidy → ∀ base depth, base ≤ depth →
    (depthRules limits.constants base).Typed [(loopStart, depth), (finish, depth)] pos code depth
      depth

theorem Piece.toLoop (piece : Piece limits pos code 0 0 tidy named) (loopStart finish : Nat) :
    LoopPiece limits pos code loopStart finish tidy named where
  linked := piece.linked.within
  counts := piece.counts
  balanced := fun tidy base depth above => (piece.balanced tidy base depth above).within

theorem LoopPiece.moved {loopStart pos' : Nat}
    (piece : LoopPiece limits pos code loopStart finish tidy named) (same : pos = pos') :
    LoopPiece limits pos' code loopStart finish tidy named := same ▸ piece

theorem LoopPiece.append {loopStart : Nat}
    (left : LoopPiece limits pos first loopStart finish tidy named)
    (right : LoopPiece limits (pos + extent Instr.size first) second loopStart finish tidy' named') :
    LoopPiece limits pos (first ++ second) loopStart finish (tidy ∧ tidy') (named ∧ named') where
  linked := left.linked.append right.linked
  counts := by rw [List.forall_mem_append, left.counts, right.counts]
  balanced := fun tidy base depth above =>
    (left.balanced tidy.1 base depth above).append (right.balanced tidy.2 base depth above)

/-- A guarded restart or exit of a loop. -/
theorem LoopPiece.guard (loopStart : Nat) {target : Nat}
    (condition : Piece limits pos conditionCode 0 1 tidy₁ named₁)
    (thenPlaced : thenAt = pos + extent Instr.size conditionCode + 3)
    (thenPiece : Piece limits thenAt thenCode 0 0 tidy₂ named₂)
    (labelled : label = thenAt + extent Instr.size thenCode + 3) (labelSmall : label < 65536)
    (targeted : target = loopStart ∨ target = finish) (small : target < 65536) :
    LoopPiece limits pos
      (conditionCode ++ (.one .jumpIfFalse label :: (thenCode ++ [.one .jump target])))
      loopStart finish (tidy₁ ∧ tidy₂) (named₁ ∧ named₂) where
  linked := by
    have guarded := condition.linked.guard rfl (link_jump rfl (.inr rfl) labelSmall) thenPlaced
      thenPiece.linked rfl (link_jump rfl (.inl rfl) small) labelled
    apply guarded.mono
    rcases targeted with rfl | rfl <;> simp
  counts := by
    simp only [List.forall_mem_append, List.forall_mem_cons, condition.counts, thenPiece.counts,
      counts_jump, counts_test, true_and, List.not_mem_nil, IsEmpty.forall_iff, implies_true, and_true]
  balanced := by
    intro tidy base depth above
    have guarded := (condition.balanced tidy.1 base depth above).guard rfl (depth_test above label)
      thenPlaced (thenPiece.balanced tidy.2 base depth above) rfl (depth_jump above target) labelled
    apply guarded.mono
    rcases targeted with rfl | rfl <;> simp

/-- A loop; its start is the target of the last jump of the body. -/
theorem Piece.cycle (condition : Piece limits pos conditionCode 0 1 tidy₁ named₁)
    (thenPlaced : thenAt = pos + extent Instr.size conditionCode + 3)
    (body : LoopPiece limits thenAt bodyCode pos finish tidy₂ named₂)
    (finished : finish = thenAt + extent Instr.size bodyCode + 3) (small : finish < 65536)
    (tail : Piece limits finish tailCode 0 1 tidy₃ named₃) :
    Piece limits pos
      (conditionCode ++ (.one .jumpIfFalse finish :: (bodyCode ++ .one .jump pos :: tailCode)))
      0 1 (tidy₁ ∧ tidy₂ ∧ tidy₃) (named₁ ∧ named₂ ∧ named₃) where
  linked :=
    condition.linked.cycle rfl (link_jump rfl (.inr rfl) small) thenPlaced body.linked rfl
      (link_jump rfl (.inl rfl) (by omega)) finished tail.linked
  rises := fun _ => by simp
  counts := by
    simp only [List.forall_mem_append, List.forall_mem_cons, condition.counts, body.counts,
      tail.counts, counts_jump, counts_test, true_and]
  balanced := by
    intro tidy base depth above
    exact (condition.balanced tidy.1 base depth above).cycle rfl (depth_test above finish) thenPlaced
      (body.balanced tidy.2.1 base depth above) rfl (depth_jump above pos) finished
      (tail.balanced tidy.2.2 base depth above)

/-!
### Protected code
-/

theorem link_try {opcode : OpCode} (tries : opcode = .tryBegin ∨ opcode = .tryFinally)
    {handler finish : Nat} (later : pos < handler) (ordered : handler < finish)
    (small : finish < 65536) :
    (linkRules limits).Typed [(handler, ()), (finish, ())] pos [⟨opcode, handler, finish⟩] () () := by
  have four : opcode.operandLen = 4 := by
    rcases tries with rfl | rfl <;> rfl
  refine Rules.typed_singleton ⟨?_, ?_, ?_⟩ trivial ?_
  · simp [Instr.Fits, four]
    omega
  · rcases tries with rfl | rfl <;> trivial
  · rcases tries with rfl | rfl <;> exact ⟨later, ordered⟩
  · intro found _ member
    rcases tries with rfl | rfl <;>
      simpa [linkRules, Instr.targets] using member

theorem depth_tryBegin {constants : List ConstantSpec} {base depth : Nat} (above : base ≤ depth)
    (handler finish : Nat) {exits : List (Nat × Nat)} :
    (depthRules constants base).Typed ((handler, depth + 1) :: exits) pos
      [⟨.tryBegin, handler, finish⟩] depth depth := by
  refine Rules.typed_singleton above ?_ ?_
  · intro count pushed
    cases pushed
    rfl
  · intro found promised jump
    obtain ⟨count, branch, rfl⟩ := jump
    cases branch
    exact List.mem_cons_self

theorem depth_tryFinally {constants : List ConstantSpec} {base depth : Nat} (above : base ≤ depth)
    (handler finish : Nat) {exits : List (Nat × Nat)} :
    (depthRules constants base).Typed ((handler, depth) :: exits) pos
      [⟨.tryFinally, handler, finish⟩] depth depth := by
  refine Rules.typed_singleton above ?_ ?_
  · intro count pushed
    cases pushed
    rfl
  · intro found promised jump
    obtain ⟨count, branch, rfl⟩ := jump
    cases branch
    exact List.mem_cons_self

variable {handlerCode : Code} {bodyAt handlerAt : Nat}

theorem Piece.tryCatch (bodyPlaced : bodyAt = pos + 5)
    (body : Piece limits bodyAt bodyCode 0 1 tidy₁ named₁)
    (handlerPlaced : handlerAt = bodyAt + extent Instr.size bodyCode + 3)
    (handler : Piece limits handlerAt handlerCode 1 1 tidy₂ named₂)
    (some : 0 < extent Instr.size handlerCode)
    (finished : finish = handlerAt + extent Instr.size handlerCode) (small : finish < 65536) :
    Piece limits pos
      (⟨.tryBegin, handlerAt, finish⟩ :: (bodyCode ++ .one .jump finish :: handlerCode))
      0 1 (tidy₁ ∧ tidy₂) (named₁ ∧ named₂) where
  linked := by
    have begun : (linkRules limits).Typed [(handlerAt, ()), (finish, ())] pos
        [⟨.tryBegin, handlerAt, finish⟩] () () :=
      link_try (.inl rfl) (by omega) (by omega) small
    have protect := begun.protect
      bodyPlaced body.linked rfl (link_jump rfl (.inl rfl) small) handlerPlaced handler.linked
      finished Rules.typed_nil
    simpa using protect
  rises := fun _ => by simp
  counts := by
    simp only [List.forall_mem_append, List.forall_mem_cons, body.counts, handler.counts,
      counts_jump, counts_tryBegin, true_and]
  balanced := by
    intro tidy base depth above
    have protect := (depth_tryBegin above handlerAt finish).protect bodyPlaced
      (body.balanced tidy.1 base depth above) rfl (depth_jump (by omega) finish) handlerPlaced
      (handler.balanced tidy.2 base depth above) finished Rules.typed_nil
    simpa using protect

/-- The body leaves `kept` values, which only a finalizer entered with as many could find. -/
theorem Piece.tryFinally {kept : Nat} (bodyPlaced : bodyAt = pos + 5)
    (body : Piece limits bodyAt bodyCode 0 kept tidy₁ named₁)
    (handlerPlaced : handlerAt = bodyAt + extent Instr.size bodyCode + 3)
    (handler : Piece limits handlerAt handlerCode 0 0 tidy₂ named₂)
    (some : 0 < extent Instr.size handlerCode)
    (finished : finish = handlerAt + extent Instr.size handlerCode) (small : finish < 65536)
    (tail : Piece limits finish tailCode 0 1 tidy₃ named₃) :
    Piece limits pos
      (⟨.tryFinally, handlerAt, finish⟩ ::
        (bodyCode ++ .one .jump finish :: (handlerCode ++ tailCode)))
      0 1 (kept = 0 ∧ tidy₁ ∧ tidy₂ ∧ tidy₃) (named₁ ∧ named₂ ∧ named₃) where
  linked :=
    (link_try (.inr rfl) (by omega) (by omega) small).protect bodyPlaced body.linked rfl
      (link_jump rfl (.inl rfl) small) handlerPlaced handler.linked finished tail.linked
  rises := fun _ => by simp
  counts := by
    simp only [List.forall_mem_append, List.forall_mem_cons, body.counts, handler.counts,
      tail.counts, counts_jump, counts_tryFinally, true_and]
  balanced := by
    intro tidy base depth above
    obtain ⟨rfl, tidy⟩ := tidy
    exact (depth_tryFinally above handlerAt finish).protect bodyPlaced
      (body.balanced tidy.1 base depth above) rfl (depth_jump above finish) handlerPlaced
      (handler.balanced tidy.2.1 base depth above) finished
      (tail.balanced tidy.2.2 base depth above)

end Pieces

end CodePush.Compiler
