import CodePush.Compiler.Instructions

/-!
# What the compiler emits

The compiler's code is followed instruction by instruction. `Progress` says what has been
emitted since a given state, and each primitive of the compiler has one rule that
extends it. Facts that depend on the finished constant pool and the final number of
locals are kept relative to these limits, since both only grow.
-/

set_option autoImplicit false

namespace CodePush.Compiler

open CodePush.Core CodePush.Bytecode CodePush.Foundation CodePush.Foundation.Action
  CodePush.Foundation.Assembly

theorem mem_dropWhile {α : Type} {p : α → Bool} {item : α} {items : List α} (member : item ∈ items)
    (kept : p item = false) : item ∈ items.dropWhile p := by
  induction items with
  | nil => cases member
  | cons head items ih =>
      rw [List.dropWhile_cons]
      split
      case isTrue dropped =>
        cases member with
        | head => simp [kept] at dropped
        | tail _ member => exact ih member
      case isFalse => exact member

theorem isBlank_dartTrim {text : String} (named : isDartBlank text = false) :
    isBlank (dartTrim text) = false := by
  obtain ⟨char, member, kept⟩ : ∃ char ∈ text.toList, isDartWhiteSpace char = false := by
    simpa [isDartBlank] using named
  have remains : char ∈ (dartTrim text).toList := by
    simp only [dartTrim, String.toList_ofList, List.mem_reverse]
    apply mem_dropWhile _ kept
    rw [List.mem_reverse]
    exact mem_dropWhile member kept
  have visible : isWhiteSpace char = false := by
    simp only [isDartWhiteSpace, Bool.or_eq_false_iff] at kept
    exact kept.1
  have found : ∃ char ∈ (dartTrim text).toList, isWhiteSpace char = false := ⟨char, remains, visible⟩
  simpa [isBlank] using found

/-!
## States of the compiler
-/

/-- What the operands of a finished function may refer to. -/
structure Limits where
  constants : List ConstantSpec
  params : Nat
  locals : Nat

namespace RestrictedBytecodeCompiler

/-- The limits allow for everything the compiler has used so far. -/
structure Within (compiler : RestrictedBytecodeCompiler) (limits : Limits) : Prop where
  constants : compiler.constants <+: limits.constants
  params : compiler.params.length = limits.params
  locals : compiler.localCount ≤ limits.locals

/-- An invariant of the compiler, relative to the limits that its state will end within. -/
structure Ready (limits : Limits) (compiler : RestrictedBytecodeCompiler) : Prop where
  params : compiler.params.length ≤ 255
  paramsBelow : compiler.params.length < compiler.localCount
  locals : compiler.localCount ≤ 256
  constants : compiler.constants.length ≤ 65536
  slotsSmall : ∀ id slot, compiler.scopedLocals id = some slot → slot < 256
  slots : compiler.Within limits → ∀ id slot, compiler.scopedLocals id = some slot →
    slot < limits.locals
  debug : compiler.Within limits → ∀ entry ∈ compiler.debugLocals, entry.1 < limits.locals
  fits : compiler.wrapped = false

structure Grows (before after : RestrictedBytecodeCompiler) : Prop where
  params : after.params = before.params
  constants : before.constants <+: after.constants
  locals : before.localCount ≤ after.localCount
  debug : ∃ added, after.debugLocals = before.debugLocals ++ added ∧
    ∀ entry ∈ added, isBlank entry.2 = false

variable {before middle after : RestrictedBytecodeCompiler}

theorem Grows.refl (compiler : RestrictedBytecodeCompiler) : compiler.Grows compiler :=
  ⟨rfl, List.prefix_refl _, Nat.le_refl _, [], by simp, by simp⟩

theorem Grows.trans (first : before.Grows middle) (second : middle.Grows after) :
    before.Grows after := by
  obtain ⟨added, debug, named⟩ := first.debug
  obtain ⟨added', debug', named'⟩ := second.debug
  refine ⟨second.params.trans first.params, first.constants.trans second.constants,
    Nat.le_trans first.locals second.locals, added ++ added', by simp [debug, debug'], ?_⟩
  intro entry member
  rcases List.mem_append.mp member with member | member
  · exact named entry member
  · exact named' entry member

theorem Within.of_grows {limits : Limits} (within : after.Within limits)
    (grows : before.Grows after) : before.Within limits :=
  ⟨grows.constants.trans within.constants, grows.params ▸ within.params,
    Nat.le_trans grows.locals within.locals⟩

end RestrictedBytecodeCompiler

open RestrictedBytecodeCompiler

/-- The state `now` has been reached from `since`; the facts hold as soon as the limits allow
for `now`. -/
structure Stage (limits : Limits) (since now : RestrictedBytecodeCompiler) (facts : Prop) :
    Prop where
  ready : now.Ready limits
  grows : since.Grows now
  known : now.Within limits → facts

/-- The state `now` has been reached from `since` by emitting `code`. -/
structure Progress (limits : Limits) (since now : RestrictedBytecodeCompiler) (code : Code)
    (facts : Prop) : Prop extends Stage limits since now facts where
  emitted : now.code = since.code ++ assemble code

/-!
## One rule for each primitive
-/

section Primitives

variable {limits : Limits} {since now : RestrictedBytecodeCompiler} {code : Code} {facts : Prop}

theorem Progress.start (ready : since.Ready limits) : Progress limits since since [] True :=
  ⟨⟨ready, .refl since, fun _ => trivial⟩, by simp⟩

theorem Progress.position (progress : Progress limits since now code facts) :
    now.code.length = since.code.length + extent Instr.size code := by
  rw [progress.emitted, List.length_append, assemble_length]

/-- New bytes, in a state that is otherwise the same. -/
theorem Stage.rewrite (stage : Stage limits since now facts) (bytes : Bytes) {wrapped : Bool}
    (fits : wrapped = false) : Stage limits since { now with code := bytes, wrapped } facts where
  ready :=
    { params := stage.ready.params
      paramsBelow := stage.ready.paramsBelow
      locals := stage.ready.locals
      constants := stage.ready.constants
      slotsSmall := stage.ready.slotsSmall
      slots := fun within => stage.ready.slots ⟨within.constants, within.params, within.locals⟩
      debug := fun within => stage.ready.debug ⟨within.constants, within.params, within.locals⟩
      fits := fits }
  grows := stage.grows.trans ⟨rfl, List.prefix_refl _, Nat.le_refl _, [], by simp, by simp⟩
  known := fun within => stage.known ⟨within.constants, within.params, within.locals⟩

theorem Stage.emit (stage : Stage limits since now facts) {bytes : Bytes}
    {wrapped : Bool} {newCode : Code} (emitted : bytes = since.code ++ assemble newCode)
    (fits : wrapped = false) :
    Progress limits since { now with code := bytes, wrapped } newCode facts :=
  ⟨stage.rewrite bytes fits, emitted⟩

theorem op_spec (progress : Progress limits since now code facts) {opcode : OpCode}
    (alone : opcode.operandLen = 0) :
    Ensures (op opcode) now
      (fun _ now => Progress limits since now (code ++ [.plain opcode]) facts)
      (fun _ _ => True) := by
  apply ensures_modify
  apply progress.emit _ progress.ready.fits
  simp [progress.emitted, Instr.bytes, Instr.operandBytes, Instr.plain, alone]

/-- An instruction whose operand is one byte. -/
theorem u8_spec (progress : Progress limits since now code facts) {opcode : OpCode}
    (one : opcode.operandLen = 1) {operand : Nat} (small : operand < 256) :
    Ensures (op opcode >>= fun _ => u8 operand) now
      (fun _ now => Progress limits since now (code ++ [.one opcode operand]) facts)
      (fun _ _ => True) := by
  apply ensures_bind
  apply ensures_modify
  apply ensures_modify
  apply progress.emit
  · simp [progress.emitted, Instr.bytes, Instr.operandBytes, Instr.one, one]
  · simp [progress.ready.fits]
    omega

/-- An instruction whose operand is two bytes. -/
theorem u16_spec (progress : Progress limits since now code facts) {opcode : OpCode}
    (two : opcode.operandLen = 2) {operand : Nat} (small : operand < 65536) :
    Ensures (op opcode >>= fun _ => u16 operand) now
      (fun _ now => Progress limits since now (code ++ [.one opcode operand]) facts)
      (fun _ _ => True) := by
  apply ensures_bind
  apply ensures_modify
  apply ensures_modify
  apply progress.emit
  · simp [progress.emitted, Instr.bytes, Instr.operandBytes, Instr.one, two]
  · simp [progress.ready.fits]
    omega

/-- A jump whose target is still open, before the rest of the code. -/
theorem reserve_spec {β : Type} {next : Nat → Compile β}
    {returns : β → RestrictedBytecodeCompiler → Prop}
    (progress : Progress limits since now code facts) {opcode : OpCode}
    (two : opcode.operandLen = 2)
    (rest : ∀ now, Progress limits since now (code ++ [.one opcode 0]) facts →
      Ensures (next (since.code.length + extent Instr.size code + 1)) now returns
        (fun _ _ => True)) :
    Ensures (op opcode >>= fun _ => reserveU16 >>= next) now returns (fun _ _ => True) := by
  apply ensures_bind
  apply ensures_modify
  apply ensures_bind
  apply ensures_bind
  apply ensures_get
  apply ensures_bind
  apply ensures_modify
  apply ensures_pure
  have offset : (now.code ++ [opByte opcode]).length =
      since.code.length + extent Instr.size code + 1 := by
    simp [progress.position]
  rw [offset]
  apply rest
  apply progress.emit _ progress.ready.fits
  simp [progress.emitted, Instr.bytes, Instr.operandBytes, Instr.one, two, u16Bytes]

/-- A try instruction whose handler and end are still open, before the rest of the code. -/
theorem reserveTwo_spec {β : Type} {next : Nat → Nat → Compile β}
    {returns : β → RestrictedBytecodeCompiler → Prop}
    (progress : Progress limits since now code facts) {opcode : OpCode}
    (four : opcode.operandLen = 4)
    (rest : ∀ now, Progress limits since now (code ++ [⟨opcode, 0, 0⟩]) facts →
      Ensures (next (since.code.length + extent Instr.size code + 1)
        (since.code.length + extent Instr.size code + 3)) now returns (fun _ _ => True)) :
    Ensures (op opcode >>= fun _ => reserveU16 >>= fun first => reserveU16 >>= next first) now
      returns (fun _ _ => True) := by
  apply ensures_bind
  apply ensures_modify
  apply ensures_bind
  apply ensures_bind
  apply ensures_get
  apply ensures_bind
  apply ensures_modify
  apply ensures_pure
  apply ensures_bind
  apply ensures_bind
  apply ensures_get
  apply ensures_bind
  apply ensures_modify
  apply ensures_pure
  have first : (now.code ++ [opByte opcode]).length =
      since.code.length + extent Instr.size code + 1 := by
    simp [progress.position]
  have second : (now.code ++ [opByte opcode] ++ [0, 0]).length =
      since.code.length + extent Instr.size code + 3 := by
    simp [progress.position]
  rw [first, second]
  apply rest
  apply progress.emit _ progress.ready.fits
  simp [progress.emitted, Instr.bytes, Instr.operandBytes, four, u16Bytes]

theorem position_spec (progress : Progress limits since now code facts) :
    Ensures position now
      (fun pos after => pos = since.code.length + extent Instr.size code ∧
        Progress limits since after code facts)
      (fun _ _ => True) := by
  apply ensures_bind
  apply ensures_get
  apply ensures_pure
  exact ⟨progress.position, progress⟩

theorem extent_around (before after : Code) (instr : Instr) (start : Nat) :
    start + extent Instr.size (before ++ instr :: after) =
      start + extent Instr.size before + instr.size + extent Instr.size after := by
  simp [Nat.add_assoc]

/-- An operand that is still open is set to the end of the code. -/
theorem patchHere_spec {newCode : Code} {offset : Nat}
    (progress : Progress limits since now code facts)
    (patched : patchBytes (since.code ++ assemble code) offset
      (since.code.length + extent Instr.size code) = since.code ++ assemble newCode) :
    Ensures (patchHere offset) now
      (fun _ now => since.code.length + extent Instr.size code < 65536 ∧
        Progress limits since now newCode facts)
      (fun _ _ => True) := by
  apply ensures_bind
  refine (position_spec progress).mono ?_ (fun _ _ _ => trivial)
  intro pos now here
  obtain ⟨rfl, progress⟩ := here
  unfold patchU16
  split
  · exact ensures_throw trivial
  · apply ensures_modify
    refine ⟨by omega, progress.emit ?_ progress.ready.fits⟩
    rw [progress.emitted, patched]

section Patches

variable {before after : Code} {opcode : OpCode} {offset handler : Nat}

/-- The end of the code becomes the target of an earlier jump. -/
theorem patchJump_spec (progress : Progress limits since now (before ++ .one opcode 0 :: after) facts)
    (two : opcode.operandLen = 2)
    (located : offset = since.code.length + extent Instr.size before + 1) :
    Ensures (patchHere offset) now
      (fun _ now => ∃ label,
        label = since.code.length + extent Instr.size before + 3 + extent Instr.size after ∧
        label < 65536 ∧ Progress limits since now (before ++ .one opcode label :: after) facts)
      (fun _ _ => True) := by
  subst located
  refine (patchHere_spec progress (patchBytes_first _ _ _ (.inl two) _)).mono ?_ (fun _ _ _ => trivial)
  intro _ now patched
  refine ⟨_, ?_, patched.1, patched.2⟩
  rw [extent_around, Instr.size_one, two]

/-- The end of the code becomes the handler of an earlier try instruction. -/
theorem patchHandler_spec
    (progress : Progress limits since now (before ++ ⟨opcode, 0, 0⟩ :: after) facts)
    (four : opcode.operandLen = 4)
    (located : offset = since.code.length + extent Instr.size before + 1) :
    Ensures (patchHere offset) now
      (fun _ now => ∃ label,
        label = since.code.length + extent Instr.size before + 5 + extent Instr.size after ∧
        label < 65536 ∧ Progress limits since now (before ++ ⟨opcode, label, 0⟩ :: after) facts)
      (fun _ _ => True) := by
  subst located
  refine (patchHere_spec progress (patchBytes_first _ _ _ (.inr four) _)).mono ?_
    (fun _ _ _ => trivial)
  intro _ now patched
  refine ⟨_, ?_, patched.1, patched.2⟩
  rw [extent_around, Instr.size, four]

/-- The end of the code becomes the end of an earlier try instruction. -/
theorem patchEnd_spec
    (progress : Progress limits since now (before ++ ⟨opcode, handler, 0⟩ :: after) facts)
    (four : opcode.operandLen = 4)
    (located : offset = since.code.length + extent Instr.size before + 3) :
    Ensures (patchHere offset) now
      (fun _ now => ∃ label,
        label = since.code.length + extent Instr.size before + 5 + extent Instr.size after ∧
        label < 65536 ∧ Progress limits since now (before ++ ⟨opcode, handler, label⟩ :: after) facts)
      (fun _ _ => True) := by
  subst located
  refine (patchHere_spec progress (patchBytes_second _ _ _ four _)).mono ?_ (fun _ _ _ => trivial)
  intro _ now patched
  refine ⟨_, ?_, patched.1, patched.2⟩
  rw [extent_around, Instr.size, four]

/-- The jump back to the start of a loop, whose operand is emitted without a check: the
patch behind it fails if the offset does not fit. -/
theorem jumpBack_spec (progress : Progress limits since now (before ++ .one opcode 0 :: after) facts)
    (two : opcode.operandLen = 2)
    (located : offset = since.code.length + extent Instr.size before + 1) {loopStart : Nat}
    (earlier : loopStart ≤
      since.code.length + extent Instr.size before + 3 + extent Instr.size after) :
    Ensures (op .jump >>= fun _ => u16 loopStart >>= fun _ => patchHere offset) now
      (fun _ now => ∃ label,
        label = since.code.length + extent Instr.size before + 3 + extent Instr.size after + 3 ∧
        label < 65536 ∧
        Progress limits since now (before ++ .one opcode label :: (after ++ [.one .jump loopStart]))
          facts)
      (fun _ _ => True) := by
  apply ensures_bind
  apply ensures_modify
  apply ensures_bind
  apply ensures_modify
  apply ensures_bind
  apply ensures_bind
  apply ensures_get
  apply ensures_pure
  have length : (now.code ++ [opByte .jump] ++ u16Bytes loopStart).length =
      since.code.length + extent Instr.size before + 3 + extent Instr.size after + 3 := by
    rw [List.length_append, List.length_append, progress.position, extent_around, Instr.size_one, two]
    rfl
  dsimp only
  rw [length]
  unfold patchU16
  split
  · exact ensures_throw trivial
  · apply ensures_modify
    have jumped : now.code ++ [opByte .jump] ++ u16Bytes loopStart =
        since.code ++ assemble (before ++ .one opcode 0 :: (after ++ [.one .jump loopStart])) := by
      simp [progress.emitted, Instr.one, Instr.bytes, Instr.operandBytes, OpCode.operandLen]
    refine ⟨_, rfl, by omega, progress.emit ?_ ?_⟩
    · rw [jumped, located, patchBytes_first _ _ _ (.inl two)]
      rfl
    · simp [progress.ready.fits]
      omega

end Patches

/-- The constant is found in the pool or added to it. -/
theorem addConst_stage (stage : Stage limits since now facts) (constant : ConstantSpec) :
    Ensures (addConst constant) now
      (fun index after => index < 65536 ∧ after.code = now.code ∧
        Stage limits since after (facts ∧ limits.constants[index]? = some constant))
      (fun _ _ => True) := by
  apply ensures_bind
  apply ensures_get
  have bound := stage.ready.constants
  dsimp only
  split
  case h_1 index found =>
    obtain ⟨inside, here, _⟩ := List.findIdx?_eq_some_iff_getElem.mp found
    have same : now.constants[index] = constant := by simpa using here
    apply ensures_pure
    refine ⟨by omega, rfl, stage.ready, stage.grows, ?_⟩
    intro within
    refine ⟨stage.known within, ?_⟩
    obtain ⟨rest, whole⟩ := within.constants
    rw [← whole, List.getElem?_append_left inside, List.getElem?_eq_getElem inside, same]
  case h_2 =>
    split
    · exact ensures_throw trivial
    apply ensures_bind
    apply ensures_modify
    apply ensures_pure
    have weaker : ∀ {after : List ConstantSpec}, now.constants ++ [constant] <+: after →
        now.constants <+: after := fun added => (List.prefix_append _ _).trans added
    refine ⟨by omega, rfl, ?_, ?_, ?_⟩
    · exact
        { params := stage.ready.params
          paramsBelow := stage.ready.paramsBelow
          locals := stage.ready.locals
          constants := by simp; omega
          slotsSmall := stage.ready.slotsSmall
          slots := fun within =>
            stage.ready.slots ⟨weaker within.constants, within.params, within.locals⟩
          debug := fun within =>
            stage.ready.debug ⟨weaker within.constants, within.params, within.locals⟩
          fits := stage.ready.fits }
    · exact stage.grows.trans ⟨rfl, List.prefix_append _ _, Nat.le_refl _, [], by simp, by simp⟩
    · intro within
      refine ⟨stage.known ⟨weaker within.constants, within.params, within.locals⟩, ?_⟩
      obtain ⟨rest, whole⟩ := within.constants
      rw [← whole]
      simp

theorem addConst_spec (progress : Progress limits since now code facts) (constant : ConstantSpec) :
    Ensures (addConst constant) now
      (fun index now => index < 65536 ∧
        Progress limits since now code (facts ∧ limits.constants[index]? = some constant))
      (fun _ _ => True) := by
  refine (addConst_stage progress.toStage constant).mono ?_ (fun _ _ _ => trivial)
  intro index after added
  obtain ⟨small, same, stage⟩ := added
  exact ⟨small, stage, same.trans progress.emitted⟩

theorem loadConst_spec (progress : Progress limits since now code facts) (constant : ConstantSpec) :
    Ensures (loadConst constant) now
      (fun _ now => ∃ index, index < 65536 ∧
        Progress limits since now (code ++ [.one .loadConst index])
          (facts ∧ limits.constants[index]? = some constant))
      (fun _ _ => True) := by
  refine (addConst_spec progress constant).bind fun index now added => ?_
  obtain ⟨small, progress⟩ := added
  refine (u16_spec progress rfl small).mono ?_ (fun _ _ _ => trivial)
  intro _ now progress
  exact ⟨index, small, progress⟩

/-- An instruction with a text of the pool. -/
theorem named_spec (progress : Progress limits since now code facts) {opcode : OpCode}
    (two : opcode.operandLen = 2) (text : String) :
    Ensures (named opcode text) now
      (fun _ now => ∃ index, index < 65536 ∧
        Progress limits since now (code ++ [.one opcode index])
          (facts ∧ limits.constants[index]? = some (.text text)))
      (fun _ _ => True) := by
  -- the opcode is written before the constant is looked for
  apply ensures_bind
  apply ensures_modify
  refine (addConst_stage (progress.rewrite _ progress.ready.fits) (.text text)).bind
    fun index now added => ?_
  obtain ⟨small, same, stage⟩ := added
  apply ensures_modify
  refine ⟨index, small, stage.emit ?_ ?_⟩
  · simp [same, progress.emitted, Instr.bytes, Instr.operandBytes, Instr.one, two]
  · simp [stage.ready.fits]
    omega

/-- A call with a text of the pool. -/
theorem callNamed_spec (progress : Progress limits since now code facts) {opcode : OpCode}
    (three : opcode.operandLen = 3) (text : String) {argc : Nat} (few : argc < 256) :
    Ensures (callNamed opcode text argc) now
      (fun _ now => ∃ index, index < 65536 ∧
        Progress limits since now (code ++ [⟨opcode, index, argc⟩])
          (facts ∧ limits.constants[index]? = some (.text text)))
      (fun _ _ => True) := by
  apply ensures_bind
  apply ensures_bind
  apply ensures_modify
  refine (addConst_stage (progress.rewrite _ progress.ready.fits) (.text text)).bind
    fun index now added => ?_
  obtain ⟨small, same, stage⟩ := added
  apply ensures_modify
  apply ensures_modify
  refine ⟨index, small, stage.emit ?_ ?_⟩
  · simp [same, progress.emitted, Instr.bytes, Instr.operandBytes, three]
  · simp [stage.ready.fits]
    omega

/-- A call whose first operand is known. -/
theorem call_spec (progress : Progress limits since now code facts) {opcode : OpCode}
    (three : opcode.operandLen = 3) {index argc : Nat} (small : index < 65536) (few : argc < 256) :
    Ensures (op opcode >>= fun _ => u16 index >>= fun _ => u8 argc) now
      (fun _ now => Progress limits since now (code ++ [⟨opcode, index, argc⟩]) facts)
      (fun _ _ => True) := by
  apply ensures_bind
  apply ensures_modify
  apply ensures_bind
  apply ensures_modify
  apply ensures_modify
  apply progress.emit
  · simp [progress.emitted, Instr.bytes, Instr.operandBytes, three]
  · simp [progress.ready.fits]
    omega

theorem allocateLocal_spec (progress : Progress limits since now code facts) :
    Ensures allocateLocal now
      (fun slot now => slot < 256 ∧ Progress limits since now code (facts ∧ slot < limits.locals))
      (fun _ _ => True) := by
  apply ensures_bind
  apply ensures_get
  dsimp only
  split
  · exact ensures_throw trivial
  apply ensures_bind
  apply ensures_modify
  apply ensures_pure
  have weaker : ∀ {count : Nat}, now.localCount + 1 ≤ count → now.localCount ≤ count := by omega
  refine ⟨by omega, ⟨?_, ?_, ?_⟩, progress.emitted⟩
  · exact
      { params := progress.ready.params
        paramsBelow := Nat.lt_succ_of_lt progress.ready.paramsBelow
        locals := by
          show now.localCount + 1 ≤ 256
          omega
        constants := progress.ready.constants
        slotsSmall := progress.ready.slotsSmall
        slots := fun within =>
          progress.ready.slots ⟨within.constants, within.params, weaker within.locals⟩
        debug := fun within =>
          progress.ready.debug ⟨within.constants, within.params, weaker within.locals⟩
        fits := progress.ready.fits }
  · exact progress.grows.trans ⟨rfl, List.prefix_refl _, Nat.le_succ _, [], by simp, by simp⟩
  · intro within
    exact ⟨progress.known ⟨within.constants, within.params, weaker within.locals⟩, within.locals⟩

/-- A slot that the limits allow for, if there is one. -/
def SlotWithin (limits : Limits) (slot : Option Nat) : Prop :=
  ∀ index, slot = some index → index < limits.locals

theorem scopedLocal_spec (progress : Progress limits since now code facts) (id : Int64) :
    Ensures (scopedLocal id) now
      (fun slot after => (∀ index, slot = some index → index < 256) ∧
        Progress limits since after code (facts ∧ SlotWithin limits slot))
      (fun _ _ => True) := by
  apply ensures_bind
  apply ensures_get
  apply ensures_pure
  refine ⟨progress.ready.slotsSmall id, ⟨progress.ready, progress.grows, ?_⟩, progress.emitted⟩
  intro within
  exact ⟨progress.known within, progress.ready.slots within id⟩

theorem bindLocal_spec (progress : Progress limits since now code facts) (id : Int64)
    {slot : Option Nat} (small : ∀ index, slot = some index → index < 256)
    (inside : facts → SlotWithin limits slot) :
    Ensures (bindLocal id slot) now (fun _ now => Progress limits since now code facts)
      (fun _ _ => True) := by
  apply ensures_modify
  have updated : ∀ {bound : Nat}, (∀ index, slot = some index → index < bound) →
      (∀ other index, now.scopedLocals other = some index → index < bound) →
      ∀ other index, Function.update now.scopedLocals id slot other = some index →
        index < bound := by
    intro bound here elsewhere other index found
    by_cases same : other = id
    · subst same
      rw [Function.update_self] at found
      exact here index found
    · rw [Function.update_of_ne same] at found
      exact elsewhere other index found
  refine ⟨⟨?_, ?_, ?_⟩, progress.emitted⟩
  · exact
      { params := progress.ready.params
        paramsBelow := progress.ready.paramsBelow
        locals := progress.ready.locals
        constants := progress.ready.constants
        slotsSmall := updated small progress.ready.slotsSmall
        slots := fun within =>
          have within : now.Within limits := ⟨within.constants, within.params, within.locals⟩
          updated (inside (progress.known within)) (progress.ready.slots within)
        debug := fun within =>
          progress.ready.debug ⟨within.constants, within.params, within.locals⟩
        fits := progress.ready.fits }
  · exact progress.grows.trans ⟨rfl, List.prefix_refl _, Nat.le_refl _, [], by simp, by simp⟩
  · intro within
    exact progress.known ⟨within.constants, within.params, within.locals⟩

theorem nameLocal_spec (progress : Progress limits since now code facts) {slot : Nat}
    (inside : facts → slot < limits.locals) (name : Option String) :
    Ensures (nameLocal slot name) now (fun _ now => Progress limits since now code facts)
      (fun _ _ => True) := by
  unfold nameLocal
  cases name with
  | none => exact ensures_pure progress
  | some name =>
      dsimp only
      split
      · exact ensures_pure progress
      case isFalse named =>
        apply ensures_modify
        refine ⟨⟨?_, ?_, ?_⟩, progress.emitted⟩
        · exact
            { params := progress.ready.params
              paramsBelow := progress.ready.paramsBelow
              locals := progress.ready.locals
              constants := progress.ready.constants
              slotsSmall := progress.ready.slotsSmall
              slots := fun within =>
                progress.ready.slots ⟨within.constants, within.params, within.locals⟩
              debug := by
                intro within entry member
                have within : now.Within limits := ⟨within.constants, within.params, within.locals⟩
                rcases List.mem_append.mp member with member | member
                · exact progress.ready.debug within entry member
                · cases List.mem_singleton.mp member
                  exact inside (progress.known within)
              fits := progress.ready.fits }
        · refine progress.grows.trans ⟨rfl, List.prefix_refl _, Nat.le_refl _, [(slot, dartTrim name)],
            rfl, ?_⟩
          intro entry member
          cases List.mem_singleton.mp member
          exact isBlank_dartTrim (by simpa using named)
        · intro within
          exact progress.known ⟨within.constants, within.params, within.locals⟩

theorem ensureCount_spec (progress : Progress limits since now code facts) (count limit : Nat)
    (message : String) :
    Ensures (ensureCount count limit message) now
      (fun _ now => count ≤ limit ∧ Progress limits since now code facts) (fun _ _ => True) := by
  unfold ensureCount
  split
  · exact ensures_throw trivial
  · exact ensures_pure ⟨by omega, progress⟩

/-- The metadata operand is 0, or one more than the index of the names. -/
theorem closureMetadata_spec (progress : Progress limits since now code facts) (names : List String) :
    Ensures (closureMetadata names) now
      (fun operand now => operand < 65536 ∧
        Progress limits since now code (facts ∧ (names = [] ∧ operand = 0 ∨ names ≠ [] ∧
          operand ≠ 0 ∧ limits.constants[operand - 1]? = some (.text (namedSuffix names)))))
      (fun _ _ => True) := by
  unfold closureMetadata
  split
  case isTrue empty =>
    apply ensures_pure
    refine ⟨by omega, ⟨progress.ready, progress.grows, ?_⟩, progress.emitted⟩
    intro within
    exact ⟨progress.known within, .inl ⟨by simpa using empty, rfl⟩⟩
  case isFalse named =>
    refine (addConst_spec progress _).bind fun index now added => ?_
    obtain ⟨small, progress⟩ := added
    split
    · exact ensures_throw trivial
    apply ensures_pure
    refine ⟨by omega, ⟨progress.ready, progress.grows, ?_⟩, progress.emitted⟩
    intro within
    obtain ⟨facts, found⟩ := progress.known within
    exact ⟨facts, .inr ⟨by simpa using named, by omega, found⟩⟩

/-- Every remembered slot is one that may be bound again. -/
def Restorable (limits : Limits) (facts : Prop) (previous : List (Int64 × Option Nat)) : Prop :=
  ∀ entry ∈ previous, (∀ index, entry.2 = some index → index < 256) ∧
    (facts → SlotWithin limits entry.2)

theorem restore_spec (progress : Progress limits since now code facts)
    {previous : List (Int64 × Option Nat)} (restorable : Restorable limits facts previous) :
    Ensures (restore previous) now (fun _ now => Progress limits since now code facts)
      (fun _ _ => True) := by
  induction previous generalizing now with
  | nil => exact ensures_pure progress
  | cons entry previous ih =>
      obtain ⟨id, slot⟩ := entry
      have later : Restorable limits facts previous := fun entry member =>
        restorable entry (List.mem_cons_of_mem _ member)
      obtain ⟨small, inside⟩ := restorable (id, slot) List.mem_cons_self
      exact (ih progress later).bind fun _ now progress => bindLocal_spec progress id small inside

theorem Restorable.remember {previous : List (Int64 × Option Nat)}
    (restorable : Restorable limits facts previous) {slot : Option Nat}
    (small : ∀ index, slot = some index → index < 256) (inside : facts → SlotWithin limits slot)
    (id : Int64) : Restorable limits facts (remember previous id slot) := by
  intro entry member
  unfold Compiler.remember at member
  split at member
  · obtain ⟨old, oldMember, rfl⟩ := List.mem_map.mp member
    split
    · exact ⟨small, inside⟩
    · exact restorable old oldMember
  · rcases List.mem_append.mp member with member | member
    · exact restorable entry member
    · cases List.mem_singleton.mp member
      exact ⟨small, inside⟩

theorem Restorable.mono {stronger : Prop} {previous : List (Int64 × Option Nat)}
    (restorable : Restorable limits facts previous) (implied : stronger → facts) :
    Restorable limits stronger previous := fun entry member =>
  ⟨(restorable entry member).1, fun holds => (restorable entry member).2 (implied holds)⟩

end Primitives

end CodePush.Compiler
