import CodePush.Compiler.Balance
import CodePush.Compiler.Writer

/-!
# Compiled modules are accepted

What the compiler emits passes the validator of the runtime, except that the texts of
calls may announce more named arguments than the calls have: the compiler does not look
for separators in the names that it joins.
-/

set_option autoImplicit false

namespace CodePush.Compiler

open CodePush.Core CodePush.Bytecode CodePush.Foundation CodePush.Foundation.Action
  CodePush.Foundation.Assembly RestrictedBytecodeCompiler

/-!
## Operands
-/

section Operands

variable {function : BytecodeFunction} {pos : Nat} {instr : Instr}

/-- The bytes that the validator reads are the operands. -/
theorem Instr.decode_operands {code : Bytes} (decoded : Instr.decode code pos = some instr) :
    pos < code.length ∧ OpCode.fromByte (byteAt code pos) = some instr.opcode ∧
      (instr.opcode.operandLen = 1 → (byteAt code (pos + 1)).toNat = instr.first) ∧
      (2 ≤ instr.opcode.operandLen → readU16 code (pos + 1) = instr.first) ∧
      (instr.opcode.operandLen = 3 → (byteAt code (pos + 3)).toNat = instr.second) ∧
      (instr.opcode.operandLen = 4 → readU16 code (pos + 3) = instr.second) := by
  unfold Instr.decode at decoded
  split at decoded
  case isFalse => cases decoded
  case isTrue inside =>
    obtain ⟨opcode, byte, rfl⟩ := Option.map_eq_some_iff.mp decoded
    refine ⟨inside, ?_⟩
    cases opcode <;> simp [byte, OpCode.operandLen]

/-- The constants of the function are those of the compiler. -/
def SameConstants (lib : DartLib) (limits : Limits) (function : BytecodeFunction) : Prop :=
  List.Forall₂ (fun spec value => BinaryModuleWriter.constantOf lib spec = .ok value)
    limits.constants function.constants

variable {lib : DartLib} {limits : Limits}

theorem SameConstants.text (same : SameConstants lib limits function) {index : Nat} {text : String}
    (found : limits.constants[index]? = some (.text text)) :
    function.constantString? index = some text := by
  obtain ⟨inside, here⟩ := List.getElem?_eq_some_iff.mp found
  have inside' : index < function.constants.length := same.length_eq ▸ inside
  have related := same.get inside inside'
  simp only [List.get_eq_getElem, here] at related
  have value : Constant.string text = function.constants[index] := Except.ok.inj related
  rw [BytecodeFunction.constantString?, List.getElem?_eq_getElem inside', ← value]

theorem namedMarker_prefix {names : List String} (some : names ≠ []) :
    namedMarker.isPrefixOf (namedSuffix names).toList = true := by
  have nonempty : names.isEmpty = false := by simpa using some
  simp [namedSuffix, nonempty, namedMarker]

/-- The limits are those of the function. -/
structure Limited (limits : Limits) (function : BytecodeFunction) : Prop where
  params : limits.params = function.paramCount.toNat
  locals : limits.locals = function.localCount.toNat

theorem guard_ok_iff {condition : Prop} [Decidable condition] {text : String} :
    (if condition then err text else .ok ()) = (.ok () : Result Unit) ↔ ¬ condition := by
  by_cases holds : condition <;> simp [holds, err]

/-- Operands that refer to what there is pass, up to the names of calls. -/
theorem checkOperands_iff (same : SameConstants lib limits function)
    (limited : Limited limits function) (decoded : Instr.decode function.code pos = some instr)
    (refers : instr.Refers limits) :
    function.checkOperands pos instr.opcode = .ok () ↔ instr.Counts limits.constants := by
  obtain ⟨_, _, byte, word, argc, _⟩ := Instr.decode_operands decoded
  obtain ⟨opcode, first, second⟩ := instr
  have few : limits.constants.length = function.constants.length := same.length_eq
  dsimp only at byte word argc
  cases opcode
  case loadConst =>
    have inside : first < limits.constants.length := refers
    rw [few] at inside
    simp [BytecodeFunction.checkOperands, Instr.Counts, word (by decide), Nat.not_le.mpr inside]
  case loadArg =>
    have inside : first < limits.params := refers
    rw [limited.params] at inside
    simp [BytecodeFunction.checkOperands, Instr.Counts, byte rfl, Nat.not_le.mpr inside]
  case loadLocal | storeLocal =>
    have inside : first < limits.locals := refers
    rw [limited.locals] at inside
    simp [BytecodeFunction.checkOperands, Instr.Counts, byte rfl, Nat.not_le.mpr inside]
  case getField | setField | isType | asType | callStatic | makeClosure =>
    obtain ⟨text, found⟩ := refers
    simp [BytecodeFunction.checkOperands, Instr.Counts, word (by decide), same.text found]
  case callDynamic | callOriginal | newObject =>
    obtain ⟨text, found⟩ := refers
    refine Iff.trans ?_ (counts_text_iff found).symm
    simp only [BytecodeFunction.checkOperands, word (by decide), same.text found]
    rw [argc rfl, guard_ok_iff, Nat.not_lt]
  case callClosure =>
    by_cases none : first = 0
    · simp [BytecodeFunction.checkOperands, Instr.Counts, word (by decide), none]
    · obtain ⟨names, some, found⟩ := refers none
      have counted : (Instr.mk .callClosure first second).Counts limits.constants ↔
          countNamedArguments (namedSuffix names) true ≤ second := by
        constructor
        · intro counts
          exact counts none _ found
        · intro counts _ text also
          cases found.symm.trans also
          exact counts
      rw [counted]
      simp only [BytecodeFunction.checkOperands, word (by decide), if_neg none, same.text found,
        namedMarker_prefix some]
      rw [argc rfl]
      simp only [Bool.not_true, Bool.false_eq_true, if_false]
      rw [guard_ok_iff, Nat.not_lt]
  all_goals simp [BytecodeFunction.checkOperands, Instr.Counts]

end Operands

/-!
## The two passes
-/

/-- The offsets of the instructions. -/
def starts (pos : Nat) : Code → List Nat
  | [] => []
  | instr :: code => pos :: starts (pos + instr.size) code

theorem mem_starts {start pos : Nat} {code : Code} {instr : Instr}
    (placed : Placed Instr.size start code pos instr) : pos ∈ starts start code := by
  obtain ⟨before, after, rfl, rfl⟩ := placed
  induction before generalizing start with
  | nil => simp [starts]
  | cons head before ih =>
      rw [List.cons_append, starts, extent_cons, ← Nat.add_assoc]
      exact List.mem_cons_of_mem _ ih

section Passes

variable {function : BytecodeFunction} {whole : Code}
  (assembled : function.code = assemble whole)
  (decoded : ∀ pos instr, Placed Instr.size 0 whole pos instr →
    Instr.decode function.code pos = some instr)

include assembled decoded

/-- The first pass at the offset of an instruction. -/
theorem scanInstructions_placed {front back : Code} {instr : Instr} (split : whole = front ++ instr :: back) :
    function.scanInstructions (extent Instr.size front) = (do
      function.checkOperands (extent Instr.size front) instr.opcode
      let found ← function.scanInstructions (extent Instr.size (front ++ [instr]))
      .ok (extent Instr.size front :: found)) := by
  have placed : Placed Instr.size 0 whole (extent Instr.size front) instr :=
    ⟨front, back, split, by simp⟩
  obtain ⟨inside, byte, _⟩ := Instr.decode_operands (decoded _ _ placed)
  have next : extent Instr.size front + 1 + instr.opcode.operandLen =
      extent Instr.size (front ++ [instr]) := by
    rw [extent_append, extent_cons, extent_nil, Instr.size]
    omega
  have fits : ¬ extent Instr.size (front ++ [instr]) > function.code.length := by
    rw [assembled, split, assemble_length, extent_append, extent_append]
    simp
  rw [BytecodeFunction.scanInstructions, dif_pos inside]
  simp only [byte]
  rw [next, if_neg fits]

/-- The first pass finds the instructions that were assembled. -/
theorem scanInstructions_assembled {front back : Code} (split : whole = front ++ back)
    (checked : ∀ pos instr, Placed Instr.size 0 whole pos instr →
      function.checkOperands pos instr.opcode = .ok ()) :
    function.scanInstructions (extent Instr.size front) = .ok (starts (extent Instr.size front) back) := by
  induction back generalizing front with
  | nil =>
      have finished : ¬ extent Instr.size front < function.code.length := by
        rw [assembled, split]
        simp
      rw [BytecodeFunction.scanInstructions, dif_neg finished]
      rfl
  | cons instr back ih =>
      rw [scanInstructions_placed assembled decoded split,
        checked _ _ ⟨front, back, split, by simp⟩, ih (by simpa using split)]
      simp [starts]

/-- An instruction that the first pass does not accept makes it fail. -/
theorem checkOperands_of_scanned {front back : Code} (split : whole = front ++ back) {found : List Nat}
    (scanned : function.scanInstructions (extent Instr.size front) = .ok found) :
    ∀ instr ∈ back, ∃ pos, Placed Instr.size 0 whole pos instr ∧
      function.checkOperands pos instr.opcode = .ok () := by
  induction back generalizing front found with
  | nil => simp
  | cons head back ih =>
      rw [scanInstructions_placed assembled decoded split] at scanned
      obtain ⟨⟨⟩, checked, scanned⟩ := except_bind_eq_ok.mp scanned
      obtain ⟨rest, scanned, _⟩ := except_bind_eq_ok.mp scanned
      intro instr member
      cases member with
      | head => exact ⟨_, ⟨front, back, split, by simp⟩, checked⟩
      | tail _ member => exact ih (by simpa using split) scanned instr member

/-- The second pass accepts when every target does. -/
theorem checkTargets_assembled {found : List Nat} {front back : Code} (split : whole = front ++ back)
    (checked : ∀ pos instr, Placed Instr.size 0 whole pos instr →
      function.checkTarget found pos instr.opcode = .ok ()) :
    function.checkTargets found (extent Instr.size front) = .ok () := by
  induction back generalizing front with
  | nil =>
      have finished : ¬ extent Instr.size front < function.code.length := by
        rw [assembled, split]
        simp
      rw [BytecodeFunction.checkTargets, dif_neg finished]
  | cons instr back ih =>
      have placed : Placed Instr.size 0 whole (extent Instr.size front) instr :=
        ⟨front, back, split, by simp⟩
      obtain ⟨inside, byte, _⟩ := Instr.decode_operands (decoded _ _ placed)
      have next : extent Instr.size front + 1 + instr.opcode.operandLen =
          extent Instr.size (front ++ [instr]) := by
        rw [extent_append, extent_cons, extent_nil, Instr.size]
        omega
      rw [BytecodeFunction.checkTargets, dif_pos inside]
      simp only [byte]
      rw [checked _ _ placed, next, ih (by simpa using split)]
      rfl

end Passes

/-!
## Functions
-/

/-- The instruction that ends a function. -/
def closing (asyncKind : AsyncKind) : Instr :=
  .plain (if asyncKind = .asyncFuture then .asyncReturn else .return)

section Function

variable {lib : DartLib} {limits : Limits} {function : BytecodeFunction} {code : Code}
  {asyncKind : AsyncKind}

theorem closing_fits : (closing asyncKind).Fits := by
  unfold closing
  split <;> exact ⟨rfl, rfl⟩

theorem closing_counts {constants : List ConstantSpec} : (closing asyncKind).Counts constants := by
  unfold closing
  split <;> trivial

/-- Every target is an instruction, the one that ends the function included. -/
theorem checkTarget_linked (assembled : function.code = assemble (code ++ [closing asyncKind]))
    (linked : (linkRules limits).Typed [] 0 code () ()) {pos : Nat} {instr : Instr}
    (placed : Placed Instr.size 0 (code ++ [closing asyncKind]) pos instr)
    (decoded : Instr.decode function.code pos = some instr) :
    function.checkTarget (starts 0 (code ++ [closing asyncKind])) pos instr.opcode = .ok () := by
  rcases placed_append.mp placed with placed | placed
  · obtain ⟨_, ⟨_, _, ordered⟩, targets⟩ := linked.placed placed
    obtain ⟨_, _, _, word, _, second⟩ := Instr.decode_operands decoded
    have landing : ∀ target ∈ instr.targets, target < function.code.length ∧
        target ∈ starts 0 (code ++ [closing asyncKind]) := by
      intro target member
      have found : ∃ other, Placed Instr.size 0 (code ++ [closing asyncKind]) target other := by
        rcases targets target () member with rfl | ⟨other, found⟩
        · exact ⟨_, code, [], rfl, rfl⟩
        · exact ⟨other, placed_append.mpr (.inl found)⟩
      obtain ⟨other, found⟩ := found
      refine ⟨?_, mem_starts found⟩
      obtain ⟨before, after, split, rfl⟩ := found
      have wide := Instr.size_pos other
      rw [assembled, split, assemble_length, extent_append, extent_cons]
      omega
    obtain ⟨opcode, first, last⟩ := instr
    dsimp only at word second
    cases opcode
    case jump | jumpIfFalse | jumpIfTrue =>
      obtain ⟨inside, start⟩ := landing first (by simp [Instr.targets])
      simp [BytecodeFunction.checkTarget, word (by decide), Nat.not_le.mpr inside, start]
    case tryBegin | tryFinally =>
      obtain ⟨inside, start⟩ := landing first (by simp [Instr.targets])
      obtain ⟨inside', start'⟩ := landing last (by simp [Instr.targets])
      obtain ⟨later, earlier⟩ := ordered
      dsimp only at later earlier
      simp [BytecodeFunction.checkTarget, word (by decide), second rfl, Nat.not_le.mpr inside, start,
        Nat.not_le.mpr inside', start', Nat.not_le.mpr later, Nat.not_le.mpr earlier]
    all_goals rfl
  · obtain ⟨rfl, _⟩ := placed_singleton.mp placed
    unfold closing
    split <;> rfl

theorem validateBytecode_iff (same : SameConstants lib limits function)
    (limited : Limited limits function) (params : function.paramCount ≤ function.localCount)
    (assembled : function.code = assemble (code ++ [closing asyncKind]))
    (linked : (linkRules limits).Typed [] 0 code () ()) :
    function.validateBytecode = .ok () ↔ ∀ instr ∈ code, instr.Counts limits.constants := by
  have decoded : ∀ pos instr, Placed Instr.size 0 (code ++ [closing asyncKind]) pos instr →
      Instr.decode function.code pos = some instr := by
    intro pos instr placed
    have fits : instr.Fits := by
      rcases placed_append.mp placed with inside | last
      · obtain ⟨_, ⟨fits, _⟩, _⟩ := linked.placed inside
        exact fits
      · obtain ⟨rfl, _⟩ := placed_singleton.mp last
        exact closing_fits
    have located : Instr.decode ([] ++ (assemble (code ++ [closing asyncKind]) ++ [])) pos = some instr :=
      Instr.decode_placed placed fits
    rw [assembled]
    simpa using located
  have checks : ∀ pos instr, Placed Instr.size 0 code pos instr →
      (function.checkOperands pos instr.opcode = .ok () ↔ instr.Counts limits.constants) := by
    intro pos instr placed
    obtain ⟨_, ⟨_, refers, _⟩, _⟩ := linked.placed placed
    exact checkOperands_iff same limited (decoded pos instr (placed_append.mpr (.inl placed))) refers
  have closed : ∀ pos, function.checkOperands pos (closing asyncKind).opcode = .ok () := by
    intro pos
    unfold closing
    split <;> rfl
  have nonempty : function.code.isEmpty = false := by
    rw [assembled]
    simp [Instr.bytes]
  unfold BytecodeFunction.validateBytecode
  rw [if_neg (UInt8.not_lt.mpr params)]
  constructor
  · intro valid instr member
    obtain ⟨found, scanned, _⟩ := except_bind_eq_ok.mp valid
    obtain ⟨pos, placed, checked⟩ := checkOperands_of_scanned assembled decoded (List.nil_append _).symm
      scanned instr (List.mem_append_left _ member)
    rcases placed_append.mp placed with inside | last
    · exact (checks pos instr inside).mp checked
    · obtain ⟨rfl, _⟩ := placed_singleton.mp last
      exact closing_counts
  · intro counts
    have checked : ∀ pos instr, Placed Instr.size 0 (code ++ [closing asyncKind]) pos instr →
        function.checkOperands pos instr.opcode = .ok () := by
      intro pos instr placed
      rcases placed_append.mp placed with inside | last
      · obtain ⟨before, after, split, _⟩ := id inside
        exact (checks pos instr inside).mpr (counts instr (by simp [split]))
      · obtain ⟨rfl, _⟩ := placed_singleton.mp last
        exact closed pos
    have scanned := scanInstructions_assembled assembled decoded (List.nil_append _).symm checked
    have targeted := checkTargets_assembled assembled decoded (List.nil_append _).symm
      fun pos instr placed => checkTarget_linked assembled linked placed (decoded pos instr placed)
    refine except_bind_eq_ok.mpr ⟨_, scanned, ?_⟩
    rw [nonempty]
    exact targeted

end Function

/-!
## Source functions
-/

/-- What is known of a compiled function. -/
structure FunctionOf (lib : DartLib) (source : List (String × Object)) (params : List String) (body : Expr)
    (spec : FunctionSpec) (code : Code) : Prop where
  sourceName : Object.get source "name" = .string spec.name
  name : isBlank spec.name = false
  paramCount : spec.paramCount = params.length
  locals : spec.paramCount ≤ spec.localCount
  assembled : spec.code = assemble (code ++ [closing spec.asyncKind])
  piece : Piece ⟨spec.constants, spec.paramCount, spec.localCount⟩ 0 code 0 1
    (body.All Expr.TidyNode) (body.All Expr.NamedNode)
  debugSlots : ∀ entry ∈ spec.debugLocals, entry.1 < spec.localCount
  debugNames : ∀ entry ∈ spec.debugLocals, entry.2 ∈ params ∨ isBlank entry.2 = false
  sourceMap : ∀ entry ∈ spec.sourceMap, entry.1 = 0 ∧ isBlank entry.2 = false
  fits : spec.wrapped = false

theorem isBlank_of_isDartBlank {text : String} (visible : isDartBlank text = false) :
    isBlank text = false := by
  obtain ⟨char, member, kept⟩ : ∃ char ∈ text.toList, isDartWhiteSpace char = false := by
    simpa [isDartBlank] using visible
  simp only [isDartWhiteSpace, Bool.or_eq_false_iff] at kept
  have found : ∃ char ∈ text.toList, isWhiteSpace char = false := ⟨char, member, kept.1⟩
  simpa [isBlank] using found

theorem mem_sourceMapFor {location : Option String} {entry : Nat × String}
    (member : entry ∈ sourceMapFor location) : entry.1 = 0 ∧ isBlank entry.2 = false := by
  unfold sourceMapFor at member
  split at member
  · split at member
    · cases member
    case isFalse visible =>
      cases List.mem_singleton.mp member
      exact ⟨rfl, isBlank_of_isDartBlank (by simpa using visible)⟩
  · cases member

theorem compileBody_emits {body : Expr} {asyncKind : AsyncKind} {params : List String}
    {after : RestrictedBytecodeCompiler} (few : params.length ≤ 255)
    (compiled : compileBody body asyncKind (start params) = (.ok (), after)) :
    ∃ code, after.Sound ∧ (start params).Grows after ∧
      after.code = assemble (code ++ [closing asyncKind]) ∧
      Piece after.used 0 code 0 1 (body.All Expr.TidyNode) (body.All Expr.NamedNode) := by
  unfold compileBody at compiled
  rw [run_bind] at compiled
  split at compiled
  case h_1 value middle ended =>
    obtain ⟨code, sound, grows, emitted, piece⟩ := compileExpr_emits (sound_start few) ended
    cases compiled
    refine ⟨code, ⟨sound.params, sound.paramsBelow, sound.locals, sound.constants, sound.slots,
      sound.debug, sound.fits⟩, ⟨grows.params, grows.constants, grows.locals, grows.debug⟩, ?_, piece⟩
    have closed : (closing asyncKind).bytes =
        [opByte (if asyncKind = .asyncFuture then .asyncReturn else .return)] := by
      unfold closing
      split <;> rfl
    have whole : middle.code ++
        [opByte (if asyncKind = .asyncFuture then .asyncReturn else .return)] =
        assemble (code ++ [closing asyncKind]) := by
      simp [emitted, closed, start]
    exact whole
  case h_2 => cases compiled

theorem compileSourceFunction_spec {lib : DartLib} {source : List (String × Object)}
    {location : Option String} {spec : FunctionSpec}
    (compiled : compileSourceFunction lib source location = .ok spec) :
    ∃ params body code, sourceParams lib source = .ok params ∧ sourceBody lib source = .ok body ∧
      FunctionOf lib source params body spec code := by
  obtain ⟨params, paramsFound, compiled⟩ := except_bind_eq_ok.mp compiled
  obtain ⟨name, nameFound, compiled⟩ := except_bind_eq_ok.mp compiled
  obtain ⟨few, compiled⟩ := except_guard_eq_ok.mp compiled
  obtain ⟨body, bodyFound, compiled⟩ := except_bind_eq_ok.mp compiled
  dsimp only at compiled
  split at compiled
  · cases compiled
  case h_2 after ended =>
    cases compiled
    have few : params.length ≤ 255 := Nat.not_lt.mp few
    obtain ⟨code, sound, grows, emitted, piece⟩ := compileBody_emits few ended
    have names : Object.get source "name" = .string name ∧ isDartBlank name = false := by
      unfold sourceName at nameFound
      split at nameFound
      case h_1 found =>
        split at nameFound
        · cases nameFound
        case isFalse visible =>
          cases nameFound
          exact ⟨found, by simpa using visible⟩
      case h_2 => cases nameFound
    have sameParams : after.params = params := grows.params
    refine ⟨params, body, code, paramsFound, bodyFound, ?_⟩
    exact
      { sourceName := names.1
        name := isBlank_of_isDartBlank names.2
        paramCount := rfl
        locals := by
          have below := sound.paramsBelow
          rw [sameParams] at below
          exact Nat.le_of_lt below
        assembled := emitted
        piece := by
          rw [RestrictedBytecodeCompiler.used, sameParams] at piece
          exact piece
        debugSlots := sound.debug
        debugNames := by
          intro entry member
          obtain ⟨added, debug, visible⟩ := grows.debug
          have member : entry ∈ after.debugLocals := member
          rw [debug] at member
          rcases List.mem_append.mp member with member | member
          · obtain ⟨⟨param, slot⟩, found, rfl⟩ := List.mem_map.mp member
            obtain ⟨inside, same⟩ := List.mem_zipIdx' found
            exact .inl (same ▸ List.getElem_mem inside)
          · exact .inr (visible entry member)
        sourceMap := fun entry => mem_sourceMapFor
        fits := sound.fits }

/-!
## Modules
-/

theorem exists_of_mem_right {α β : Type} {related : α → β → Prop} {left : List α} {right : List β}
    (all : List.Forall₂ related left right) {item : β} (member : item ∈ right) :
    ∃ other ∈ left, related other item := by
  induction all with
  | nil => cases member
  | cons here _ ih =>
      cases member with
      | head => exact ⟨_, List.mem_cons_self, here⟩
      | tail _ member =>
          obtain ⟨other, found, same⟩ := ih member
          exact ⟨other, List.mem_cons_of_mem _ found, same⟩

theorem forall₂_through {α β γ : Type} {first : α → β → Prop} {second : β → γ → Prop} {left : List α}
    {middle : List β} {right : List γ} (all : List.Forall₂ first left middle)
    (all' : List.Forall₂ second middle right) :
    List.Forall₂ (fun item result => ∃ between, first item between ∧ second between result) left
      right := by
  induction all generalizing right with
  | nil =>
      cases all'
      exact .nil
  | cons here _ ih =>
      cases all' with
      | cons here' rest' => exact .cons ⟨_, here, here'⟩ (ih rest')

section Envelope

variable {lib : DartLib} {source : List (String × Object)} {params : List String} {body : Expr}
  {spec : FunctionSpec} {code : Code} {function : BytecodeFunction}
  (known : FunctionOf lib source params body spec code)
  (encodes : BinaryModuleWriter.Encodes lib spec function)

include known encodes

theorem FunctionOf.sourceMap_valid : function.validateSourceMap function.sourceMap = .ok () := by
  have positive : 0 < function.code.length := by
    rw [encodes.code, known.assembled, assemble_length, extent_append]
    have wide := Instr.size_pos (closing spec.asyncKind)
    simp only [extent_cons]
    omega
  have all : ∀ entry ∈ function.sourceMap,
      entry.bytecodeOffset.toNat = 0 ∧ isBlank entry.sourceLocation = false := by
    intro entry member
    obtain ⟨written, member, same⟩ := exists_of_mem_right encodes.sourceMap member
    rw [same.1, same.2]
    exact known.sourceMap written member
  generalize function.sourceMap = entries at all
  induction entries with
  | nil => rfl
  | cons entry entries ih =>
      obtain ⟨offset, visible⟩ := all entry List.mem_cons_self
      have inside : ¬ entry.bytecodeOffset.toNat ≥ function.code.length := by omega
      rw [BytecodeFunction.validateSourceMap, if_neg inside, if_neg (by simp [visible])]
      exact ih fun other member => all other (List.mem_cons_of_mem _ member)

theorem FunctionOf.debugLocals_valid (visible : ∀ param ∈ params, isBlank param = false) :
    function.validateDebugLocals function.debugLocals = .ok () := by
  have all : ∀ entry ∈ function.debugLocals,
      entry.slot.toNat < function.localCount.toNat ∧ isBlank entry.name = false := by
    intro entry member
    obtain ⟨written, member, same⟩ := exists_of_mem_right encodes.debugLocals member
    rw [same.1, same.2, encodes.localCount]
    refine ⟨known.debugSlots written member, ?_⟩
    rcases known.debugNames written member with param | named
    · exact visible _ param
    · exact named
  generalize function.debugLocals = entries at all
  induction entries with
  | nil => rfl
  | cons entry entries ih =>
      obtain ⟨slot, named⟩ := all entry List.mem_cons_self
      have inside : ¬ entry.slot.toNat ≥ function.paramCount.toNat + function.localCount.toNat := by
        omega
      rw [BytecodeFunction.validateDebugLocals, if_neg inside, if_neg (by simp [named])]
      exact ih fun other member => all other (List.mem_cons_of_mem _ member)

theorem FunctionOf.params_le_locals : function.paramCount ≤ function.localCount := by
  rw [UInt8.le_iff_toNat_le, encodes.paramCount, encodes.localCount]
  exact known.locals

/-- The function is accepted exactly when its calls list no more names than arguments. -/
theorem FunctionOf.validateBytecode_iff :
    function.validateBytecode = .ok () ↔ body.All Expr.NamedNode := by
  have assembled : function.code = assemble (code ++ [closing spec.asyncKind]) :=
    encodes.code.trans known.assembled
  have same : SameConstants lib ⟨spec.constants, spec.paramCount, spec.localCount⟩ function :=
    encodes.constants
  rw [Compiler.validateBytecode_iff same ⟨encodes.paramCount.symm, encodes.localCount.symm⟩
    (known.params_le_locals encodes) assembled known.piece.linked]
  exact known.piece.counts

end Envelope

/-- A compiled module: each function with what is known of it. -/
def ModuleOf (lib : DartLib) (sources : List (List (String × Object) × Option String))
    (functions : List BytecodeFunction) : Prop :=
  List.Forall₂ (fun source function => ∃ params body spec code,
    sourceParams lib source.1 = .ok params ∧ sourceBody lib source.1 = .ok body ∧
    FunctionOf lib source.1 params body spec code ∧ BinaryModuleWriter.Encodes lib spec function)
    sources functions

section Modules

variable {lib : DartLib} {sources : List (List (String × Object) × Option String)}
  {functions : List BytecodeFunction}

/-- The texts of the parameters are not blank. -/
def VisibleParams (lib : DartLib) (sources : List (List (String × Object) × Option String)) : Prop :=
  ∀ source ∈ sources, ∀ params, sourceParams lib source.1 = .ok params →
    ∀ param ∈ params, isBlank param = false

theorem validateEnvelopeFunctions_module (module : ModuleOf lib sources functions)
    (distinct : (sources.map fun source => Object.get source.1 "name").Nodup)
    (visible : VisibleParams lib sources) {names : List String}
    (fresh : ∀ name ∈ names, .string name ∉ sources.map fun source => Object.get source.1 "name") :
    validateEnvelopeFunctions names functions = .ok () := by
  induction module generalizing names with
  | nil => rfl
  | @cons source function sources functions here rest ih =>
      obtain ⟨params, body, spec, code, paramsFound, _, known, encodes⟩ := here
      rw [List.map_cons, List.nodup_cons] at distinct
      have named : function.name ∉ names := by
        intro member
        refine fresh _ member ?_
        rw [List.map_cons, known.sourceName, encodes.name]
        exact List.mem_cons_self
      have conventional : ¬ (function.returnConvention ≠ "tagged" ∧
          function.returnConvention ≠ "unboxed_int64") := by
        rw [encodes.returnConvention]
        rcases encodes.conventional with same | same <;> simp [same]
      have nonempty : function.code.isEmpty = false := by
        rw [encodes.code, known.assembled]
        simp [Instr.bytes]
      have later : validateEnvelopeFunctions (function.name :: names) functions = .ok () := by
        apply ih distinct.2
        · intro other member
          exact visible other (List.mem_cons_of_mem _ member)
        · intro name member
          rcases List.mem_cons.mp member with rfl | member
          · rw [encodes.name, ← known.sourceName]
            exact distinct.1
          · exact fun found => fresh name member (List.mem_cons_of_mem _ found)
      rw [validateEnvelopeFunctions, if_neg (by simp [encodes.name, known.name]), if_neg conventional,
        if_neg named, if_neg (UInt8.not_lt.mpr (known.params_le_locals encodes)),
        if_neg (by simp [nonempty]), known.sourceMap_valid encodes,
        known.debugLocals_valid encodes (visible source List.mem_cons_self params paramsFound), later]
      rfl

theorem validateFunctions_module (module : ModuleOf lib sources functions) :
    validateFunctions functions = .ok () ↔
      ∀ source ∈ sources, ∀ body, sourceBody lib source.1 = .ok body → body.All Expr.NamedNode := by
  induction module with
  | nil => simp [validateFunctions]
  | @cons source function sources functions here rest ih =>
      obtain ⟨params, body, spec, code, _, bodyFound, known, encodes⟩ := here
      rw [validateFunctions, List.forall_mem_cons, ← ih]
      constructor
      · intro valid
        obtain ⟨⟨⟩, first, valid⟩ := except_bind_eq_ok.mp valid
        refine ⟨?_, valid⟩
        intro other found
        cases bodyFound.symm.trans found
        exact (known.validateBytecode_iff encodes).mp first
      · intro named
        have first := (known.validateBytecode_iff encodes).mpr (named.1 body bodyFound)
        exact except_bind_eq_ok.mpr ⟨(), first, named.2⟩

end Modules

theorem compileModule_spec {lib : DartLib} {sources : List (List (String × Object) × Option String)}
    {specs : List FunctionSpec} (compiled : compileModule lib sources = .ok specs) :
    specs ≠ [] ∧ List.Forall₂ (fun source spec => ∃ params body code,
      sourceParams lib source.1 = .ok params ∧ sourceBody lib source.1 = .ok body ∧
      FunctionOf lib source.1 params body spec code) sources specs := by
  obtain ⟨found, mapped, compiled⟩ := except_bind_eq_ok.mp compiled
  obtain ⟨some, compiled⟩ := except_guard_eq_ok.mp compiled
  cases compiled
  refine ⟨by simpa using some, ?_⟩
  exact (except_mapM_eq_ok mapped).imp fun _ _ => compileSourceFunction_spec

/-- Compiled and encoded functions are accepted exactly when their calls list no more names
than arguments. -/
theorem fromBinary_compiled_iff {lib : DartLib}
    {sources : List (List (String × Object) × Option String)} {specs : List FunctionSpec} {bytes : Bytes}
    (compiled : compileModule lib sources = .ok specs)
    (encoded : encodeBinaryModule lib specs = .ok bytes)
    (distinct : (sources.map fun source => Object.get source.1 "name").Nodup)
    (visible : VisibleParams lib sources) :
    (∃ module, BytecodeModule.fromBinary bytes = .ok module) ↔
      ∀ source ∈ sources, ∀ body, sourceBody lib source.1 = .ok body → body.All Expr.NamedNode := by
  obtain ⟨some, known⟩ := compileModule_spec compiled
  obtain ⟨functions, same, found⟩ := encodeBinaryModule_reads encoded
  have module : ModuleOf lib sources functions := by
    refine (forall₂_through known same).imp ?_
    intro source function both
    obtain ⟨spec, ⟨params, body, code, paramsFound, bodyFound, known⟩, encodes⟩ := both
    exact ⟨params, body, spec, code, paramsFound, bodyFound, known, encodes⟩
  have nonempty : functions.isEmpty = false := by
    cases same with
    | nil => contradiction
    | cons => rfl
  have supported : ¬ (formatVersion < minSupportedModuleVersion ∨ formatVersion < formatVersion) := by
    decide
  have envelope : (BytecodeModule.mk formatVersion functions).validateEnvelope = .ok () := by
    rw [BytecodeModule.validateEnvelope, if_neg supported, if_neg (by simp [nonempty])]
    exact validateEnvelopeFunctions_module module distinct visible (by simp)
  rw [← validateFunctions_module module, BytecodeModule.fromBinary, found, except_ok_bind]
  constructor
  · intro accepted
    obtain ⟨module, accepted⟩ := accepted
    obtain ⟨⟨⟩, valid, _⟩ := except_bind_eq_ok.mp accepted
    obtain ⟨⟨⟩, _, valid⟩ := except_bind_eq_ok.mp valid
    exact valid
  · intro valid
    have validated : (BytecodeModule.mk formatVersion functions).validate = .ok () :=
      except_bind_eq_ok.mpr ⟨(), envelope, valid⟩
    exact ⟨⟨formatVersion, functions⟩, except_bind_eq_ok.mpr ⟨(), validated, rfl⟩⟩

theorem compiled_module_accepted_iff {lib : DartLib}
    {sources : List (List (String × Object) × Option String)} {specs : List FunctionSpec} {bytes : Bytes}
    (compiled : compileModule lib sources = .ok specs)
    (encoded : encodeBinaryModule lib specs = .ok bytes)
    (distinct : (sources.map fun source => Object.get source.1 "name").Nodup)
    (visible : VisibleParams lib sources) :
    ((∀ spec ∈ specs, spec.wrapped = false) ∧ ∃ module, BytecodeModule.fromBinary bytes = .ok module) ↔
      ∀ source ∈ sources, ∀ body, sourceBody lib source.1 = .ok body → body.All Expr.NamedNode := by
  have fits : ∀ spec ∈ specs, spec.wrapped = false := by
    intro spec member
    obtain ⟨_, known⟩ := compileModule_spec compiled
    obtain ⟨source, _, params, body, code, _, _, known⟩ := exists_of_mem_right known member
    exact known.fits
  rw [fromBinary_compiled_iff compiled encoded distinct visible]
  exact and_iff_right fits

/-- `int f(x) => x.m(`name`: null)`. -/
def namedCallSource (name : String) : List (String × Object) :=
  [("name", .string "f"), ("params", .list [.string "x"]),
    ("body", .map [("call_dynamic", .map [("receiver", .map [("arg", .string "x")]),
      ("method", .string "m"), ("args", .list []),
      ("named_args", .list [.map [("name", .string name), ("value", .map [("null", .bool true)])]])])])]

theorem namedCall_visible (name : String) : VisibleParams textLib [(namedCallSource name, none)] := by
  intro source member params found param paramMember
  cases List.mem_singleton.mp member
  cases found
  cases List.mem_singleton.mp paramMember
  decide

theorem namedCall_distinct (name : String) :
    ([(namedCallSource name, (none : Option String))].map fun source =>
      Object.get source.1 "name").Nodup := by simp

theorem namedCall_named {name : String} {body : Expr}
    (few : countNamedArguments ("m" ++ namedSuffix [name]) false ≤ 1)
    (same : body = .callDynamic (.arg "x") "m" [name] [.null]) : body.All Expr.NamedNode := by
  subst same
  refine .node few ?_
  intro child member
  simp only [Expr.children, List.mem_cons, List.not_mem_nil, or_false] at member
  rcases member with rfl | rfl
  · exact .node trivial (by simp [Expr.children])
  · exact .node trivial (by simp [Expr.children, Expr.null])

theorem single_name_accepted :
    ∃ specs bytes module, compileModule textLib [(namedCallSource "a", none)] = .ok specs ∧
      encodeBinaryModule textLib specs = .ok bytes ∧
      BytecodeModule.fromBinary bytes = .ok module := by
  obtain ⟨specs, compiled⟩ : ∃ specs,
      compileModule textLib [(namedCallSource "a", none)] = .ok specs := ⟨_, rfl⟩
  obtain ⟨bytes, encoded⟩ : ∃ bytes, encodeBinaryModule textLib specs = .ok bytes := by
    cases compiled
    exact ⟨_, rfl⟩
  have accepted := (compiled_module_accepted_iff compiled encoded (namedCall_distinct "a")
    (namedCall_visible "a")).mpr (by
      intro source member body found
      cases List.mem_singleton.mp member
      cases found
      exact namedCall_named (by decide) rfl)
  obtain ⟨module, valid⟩ := accepted.2
  exact ⟨specs, bytes, module, compiled, encoded, valid⟩

/-- The name of one argument is counted as two. -/
theorem comma_in_name_rejected :
    ¬ ∀ (lib : DartLib) (sources : List (List (String × Object) × Option String))
      (specs : List FunctionSpec) (bytes : Bytes), compileModule lib sources = .ok specs →
      encodeBinaryModule lib specs = .ok bytes →
      (sources.map fun source => Object.get source.1 "name").Nodup → VisibleParams lib sources →
      (∀ spec ∈ specs, spec.wrapped = false) ∧
        ∃ module, BytecodeModule.fromBinary bytes = .ok module := by
  intro all
  obtain ⟨specs, compiled⟩ : ∃ specs,
      compileModule textLib [(namedCallSource "a,b", none)] = .ok specs := ⟨_, rfl⟩
  obtain ⟨bytes, encoded⟩ : ∃ bytes, encodeBinaryModule textLib specs = .ok bytes := by
    cases compiled
    exact ⟨_, rfl⟩
  have accepted := (all textLib _ specs bytes compiled encoded (namedCall_distinct "a,b")
    (namedCall_visible "a,b")).2
  have named := (fromBinary_compiled_iff compiled encoded (namedCall_distinct "a,b")
    (namedCall_visible "a,b")).mp accepted _ List.mem_cons_self _ rfl
  have few : countNamedArguments ("m" ++ namedSuffix ["a,b"]) false ≤ 1 := (Expr.all_iff.mp named).1
  exact absurd few (by decide)

end CodePush.Compiler
