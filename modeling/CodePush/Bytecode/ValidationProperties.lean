import CodePush.Bytecode.Validation
import CodePush.Foundation.Except

/-!
# Soundness of the bytecode validator

The validator decodes the code once, in order. Execution instead follows jumps
and handlers. Every offset that execution can reach is an offset of that one
linear decoding, or the end of the code.
-/

set_option autoImplicit false

namespace CodePush.Bytecode

open CodePush.Core CodePush.Foundation

namespace BytecodeFunction

/-!
## What the two passes establish
-/

/-- An instruction of the linear decoding that passed the first pass. -/
structure Decoded (function : BytecodeFunction) (pos : Nat) (opcode : OpCode) : Prop where
  inside : pos < function.code.length
  byte : OpCode.fromByte (byteAt function.code pos) = some opcode
  whole : pos + 1 + opcode.operandLen ≤ function.code.length
  operands : function.checkOperands pos opcode = .ok ()

/-- One step of the first pass that does not fail. -/
theorem scanInstructions_step {function : BytecodeFunction} {pos : Nat} {starts : List Nat}
    (inside : pos < function.code.length) (scanned : function.scanInstructions pos = .ok starts) :
    ∃ opcode rest, function.Decoded pos opcode ∧
      function.scanInstructions (pos + 1 + opcode.operandLen) = .ok rest ∧ starts = pos :: rest := by
  rw [scanInstructions, dif_pos inside] at scanned
  cases decoded : OpCode.fromByte (byteAt function.code pos) with
  | none => simp [decoded, err] at scanned
  | some opcode =>
      simp only [decoded] at scanned
      split at scanned
      case isTrue => cases scanned
      case isFalse whole =>
        obtain ⟨_, operands, scanned⟩ := except_bind_eq_ok.mp scanned
        obtain ⟨rest, remaining, shape⟩ := except_bind_eq_ok.mp scanned
        cases shape
        exact ⟨opcode, rest, ⟨inside, decoded, by omega, operands⟩, remaining, rfl⟩

theorem scanInstructions_end {function : BytecodeFunction} {pos : Nat} {starts : List Nat}
    (outside : ¬ pos < function.code.length) (scanned : function.scanInstructions pos = .ok starts) :
    starts = [] := by
  rw [scanInstructions, dif_neg outside] at scanned
  cases scanned
  rfl

/-- The starts of an accepted first pass are closed under falling through. -/
theorem scanInstructions_spec {function : BytecodeFunction} {pos : Nat} {starts : List Nat}
    (bounded : pos ≤ function.code.length) (scanned : function.scanInstructions pos = .ok starts) :
    (pos ∈ starts ∨ pos = function.code.length) ∧
      ∀ start ∈ starts, ∃ opcode, function.Decoded start opcode ∧
        (start + 1 + opcode.operandLen ∈ starts ∨
          start + 1 + opcode.operandLen = function.code.length) := by
  -- Induction on the bytes left; each step consumes at least the opcode byte.
  induction remaining : function.code.length - pos using Nat.strongRecOn
      generalizing pos starts with
  | _ left ih =>
      by_cases inside : pos < function.code.length
      · obtain ⟨opcode, rest, decoded, scannedRest, rfl⟩ := scanInstructions_step inside scanned
        obtain ⟨next, closed⟩ := ih _ (by omega) decoded.whole scannedRest rfl
        refine ⟨.inl List.mem_cons_self, ?_⟩
        intro start member
        rcases List.mem_cons.mp member with rfl | later
        · exact ⟨opcode, decoded, next.imp_left (List.mem_cons_of_mem _)⟩
        · obtain ⟨laterOpcode, laterDecoded, laterNext⟩ := closed start later
          exact ⟨laterOpcode, laterDecoded, laterNext.imp_left (List.mem_cons_of_mem _)⟩
      · have empty := scanInstructions_end inside scanned
        subst empty
        exact ⟨.inr (by omega), by simp⟩

/-- The second pass visits the starts of the first. -/
theorem checkTargets_spec {function : BytecodeFunction} {starts visited : List Nat} {pos : Nat}
    (scanned : function.scanInstructions pos = .ok visited)
    (checked : function.checkTargets starts pos = .ok ()) :
    ∀ start ∈ visited, ∀ opcode, OpCode.fromByte (byteAt function.code start) = some opcode →
      function.checkTarget starts start opcode = .ok () := by
  induction remaining : function.code.length - pos using Nat.strongRecOn
      generalizing pos visited with
  | _ left ih =>
      by_cases inside : pos < function.code.length
      · obtain ⟨opcode, rest, decoded, scannedRest, rfl⟩ := scanInstructions_step inside scanned
        rw [checkTargets, dif_pos inside] at checked
        simp only [decoded.byte] at checked
        obtain ⟨_, target, checkedRest⟩ := except_bind_eq_ok.mp checked
        intro start member startOpcode startByte
        rcases List.mem_cons.mp member with rfl | later
        · rw [decoded.byte] at startByte
          cases startByte
          exact target
        · exact ih _ (by omega) scannedRest checkedRest rfl start later startOpcode startByte
      · have empty := scanInstructions_end inside scanned
        subst empty
        simp

/-- An accepted function has a complete linear decoding whose targets were checked against it. -/
theorem validateBytecode_spec {function : BytecodeFunction}
    (valid : function.validateBytecode = .ok ()) :
    ∃ starts, function.scanInstructions 0 = .ok starts ∧ function.checkTargets starts 0 = .ok () := by
  unfold validateBytecode at valid
  split at valid
  case isTrue => cases valid
  case isFalse =>
    obtain ⟨starts, scanned, valid⟩ := except_bind_eq_ok.mp valid
    split at valid
    case isTrue => cases valid
    case isFalse => exact ⟨starts, scanned, valid⟩

/-- The `expect` of the second pass is never reached: the first pass has met the same bytes. -/
theorem checkTargets_ne_panic {function : BytecodeFunction} {starts visited : List Nat} {pos : Nat}
    (scanned : function.scanInstructions pos = .ok visited) (text : String) :
    function.checkTargets starts pos ≠ .error (.panic text) := by
  induction remaining : function.code.length - pos using Nat.strongRecOn
      generalizing pos visited with
  | _ left ih =>
      by_cases inside : pos < function.code.length
      · obtain ⟨opcode, rest, decoded, scannedRest, rfl⟩ := scanInstructions_step inside scanned
        rw [checkTargets, dif_pos inside]
        simp only [decoded.byte]
        cases target : function.checkTarget starts pos opcode with
        | error error =>
            intro panicked
            cases panicked
            unfold checkTarget at target
            simp only [err] at target
            split at target <;> (repeat' split at target) <;> cases target
        | ok => exact ih _ (by omega) scannedRest rfl
      · rw [checkTargets, dif_neg inside]
        simp

/-!
## The control-flow graph
-/

/-- What the operands of an instruction refer to. Targets are left to the graph. -/
def OperandsInRange (function : BytecodeFunction) (pos : Nat) : OpCode → Prop
  | .loadConst => readU16 function.code (pos + 1) < function.constants.length
  | .loadArg => (byteAt function.code (pos + 1)).toNat < function.paramCount.toNat
  | .loadLocal | .storeLocal => (byteAt function.code (pos + 1)).toNat < function.localCount.toNat
  | .callClosure =>
      readU16 function.code (pos + 1) = 0 ∨
        ∃ value, function.constants[readU16 function.code (pos + 1) - 1]? = some (.string value) ∧
          namedMarker <+: value.toList ∧
          countNamedArguments value true ≤ (byteAt function.code (pos + 3)).toNat
  | .getField | .setField | .isType | .asType | .callStatic | .makeClosure =>
      ∃ value, function.constants[readU16 function.code (pos + 1)]? = some (.string value)
  | .callDynamic | .callOriginal | .newObject =>
      ∃ value, function.constants[readU16 function.code (pos + 1)]? = some (.string value) ∧
        countNamedArguments value false ≤ (byteAt function.code (pos + 3)).toNat
  | _ => True

theorem constantString?_eq_some {function : BytecodeFunction} {idx : Nat} {value : String}
    (found : function.constantString? idx = some value) :
    function.constants[idx]? = some (.string value) := by
  unfold constantString? at found
  split at found
  case h_1 text constant =>
    cases found
    exact constant
  case h_2 => cases found

theorem checkOperands_inRange {function : BytecodeFunction} {pos : Nat} {opcode : OpCode}
    (checked : function.checkOperands pos opcode = .ok ()) : function.OperandsInRange pos opcode := by
  unfold checkOperands at checked
  simp only [err] at checked
  split at checked
  case h_1 | h_2 | h_3 | h_4 =>
    obtain ⟨small, _⟩ := except_guard_eq_ok.mp checked
    exact Nat.lt_of_not_le small
  case h_5 =>
    split at checked
    case isTrue zero => exact .inl zero
    case isFalse =>
      split at checked
      case h_1 => cases checked
      case h_2 value found =>
        obtain ⟨marked, checked⟩ := except_guard_eq_ok.mp checked
        obtain ⟨enough, _⟩ := except_guard_eq_ok.mp checked
        refine .inr ⟨value, constantString?_eq_some found, ?_, Nat.le_of_not_lt enough⟩
        exact List.isPrefixOf_iff_prefix.mp (by simpa using marked)
  case h_6 | h_7 | h_8 | h_9 | h_10 | h_11 =>
    split at checked
    case h_1 => cases checked
    case h_2 value found => exact ⟨value, constantString?_eq_some found⟩
  case h_12 | h_13 | h_14 =>
    split at checked
    case h_1 => cases checked
    case h_2 value found =>
      obtain ⟨enough, _⟩ := except_guard_eq_ok.mp checked
      exact ⟨value, constantString?_eq_some found, Nat.le_of_not_lt enough⟩
  case h_15 =>
    unfold OperandsInRange
    split <;> trivial

/-- The edges of the control-flow graph. Falling through is an edge of every
instruction, also of those that never do: the larger graph bounds the real one. -/
inductive Edge (function : BytecodeFunction) : Nat → Nat → Prop where
  | fallThrough {pos : Nat} {opcode : OpCode} :
      pos < function.code.length →
      OpCode.fromByte (byteAt function.code pos) = some opcode →
      Edge function pos (pos + 1 + opcode.operandLen)
  | jump {pos : Nat} {opcode : OpCode} :
      pos < function.code.length →
      OpCode.fromByte (byteAt function.code pos) = some opcode →
      opcode = .jump ∨ opcode = .jumpIfFalse ∨ opcode = .jumpIfTrue →
      Edge function pos (readU16 function.code (pos + 1))
  | handler {pos : Nat} {opcode : OpCode} :
      pos < function.code.length →
      OpCode.fromByte (byteAt function.code pos) = some opcode →
      opcode = .tryBegin ∨ opcode = .tryFinally →
      Edge function pos (readU16 function.code (pos + 1))
  | tryEnd {pos : Nat} {opcode : OpCode} :
      pos < function.code.length →
      OpCode.fromByte (byteAt function.code pos) = some opcode →
      opcode = .tryBegin ∨ opcode = .tryFinally →
      Edge function pos (readU16 function.code (pos + 3))

/-- Offsets that some control path from the entry reaches. -/
def Reachable (function : BytecodeFunction) : Nat → Prop :=
  Relation.ReflTransGen function.Edge 0

private theorem checkTarget_target {function : BytecodeFunction} {starts : List Nat} {pos : Nat}
    {opcode : OpCode}
    (kind : opcode = .jump ∨ opcode = .jumpIfFalse ∨ opcode = .jumpIfTrue ∨
      opcode = .tryBegin ∨ opcode = .tryFinally)
    (checked : function.checkTarget starts pos opcode = .ok ()) :
    readU16 function.code (pos + 1) ∈ starts := by
  rcases kind with rfl | rfl | rfl | rfl | rfl <;>
    simp only [checkTarget, err, except_guard_eq_ok, not_not] at checked <;>
    exact checked.2.1

private theorem checkTarget_end {function : BytecodeFunction} {starts : List Nat} {pos : Nat}
    {opcode : OpCode} (kind : opcode = .tryBegin ∨ opcode = .tryFinally)
    (checked : function.checkTarget starts pos opcode = .ok ()) :
    readU16 function.code (pos + 3) ∈ starts := by
  rcases kind with rfl | rfl <;>
    simp only [checkTarget, err, except_guard_eq_ok, not_not, reduceCtorEq, true_or, or_true,
      if_true] at checked <;>
    exact checked.2.2.2.1

/-- Control never leaves the linear decoding: every reachable offset is one of its
instruction starts or the end of the code, the instruction there lies inside the
code, and its operands refer to what the opcode requires. -/
theorem validateBytecode_control_flow (function : BytecodeFunction)
    (valid : function.validateBytecode = .ok ()) :
    ∃ starts, function.scanInstructions 0 = .ok starts ∧
      ∀ offset, function.Reachable offset →
        (offset ∈ starts ∨ offset = function.code.length) ∧
        (offset < function.code.length → ∃ opcode,
          OpCode.fromByte (byteAt function.code offset) = some opcode ∧
          offset + 1 + opcode.operandLen ≤ function.code.length ∧
          function.OperandsInRange offset opcode) := by
  obtain ⟨starts, scanned, checked⟩ := validateBytecode_spec valid
  obtain ⟨entry, closed⟩ := scanInstructions_spec (Nat.zero_le _) scanned
  have targets := checkTargets_spec scanned checked
  refine ⟨starts, scanned, ?_⟩
  have aligned : ∀ offset, function.Reachable offset →
      offset ∈ starts ∨ offset = function.code.length := by
    intro offset reached
    induction reached with
    | refl => exact entry
    | @tail from' to' _ edge previous =>
        -- An edge leaves an offset inside the code, so its source is a start.
        have source : ∀ {pos}, pos = from' → pos < function.code.length → pos ∈ starts := by
          rintro pos rfl inside
          rcases previous with member | finished
          · exact member
          · omega
        cases edge with
        | fallThrough inside byte =>
            obtain ⟨opcode, decoded, next⟩ := closed _ (source rfl inside)
            rw [decoded.byte] at byte
            cases byte
            exact next
        | jump inside byte kind =>
            refine .inl (checkTarget_target ?_ (targets _ (source rfl inside) _ byte))
            rcases kind with rfl | rfl | rfl <;> simp
        | handler inside byte kind =>
            refine .inl (checkTarget_target ?_ (targets _ (source rfl inside) _ byte))
            rcases kind with rfl | rfl <;> simp
        | tryEnd inside byte kind =>
            exact .inl (checkTarget_end kind (targets _ (source rfl inside) _ byte))
  intro offset reached
  refine ⟨aligned offset reached, ?_⟩
  intro inside
  rcases aligned offset reached with member | finished
  · obtain ⟨opcode, decoded, _⟩ := closed offset member
    exact ⟨opcode, decoded.byte, decoded.whole, checkOperands_inRange decoded.operands⟩
  · omega

/-- `LoadConst 0; Jump 6; Return`. -/
def jumpOverNothing : BytecodeFunction where
  name := "answer"
  returnConvention := "tagged"
  asyncKind := .sync
  paramCount := 0
  localCount := 0
  constants := [.int 42]
  code := [0x01, 0, 0, 0x30, 0, 6, 0xff]
  sourceMap := []
  debugLocals := []

theorem jumpOverNothing_valid : jumpOverNothing.validateBytecode = .ok () := by
  simp [validateBytecode, scanInstructions, checkTargets, jumpOverNothing, byteAt, OpCode.fromByte,
    OpCode.operandLen, checkOperands, readU16, checkTarget, bind, Except.bind]

theorem jumpOverNothing_control_flow :
    jumpOverNothing.validateBytecode = .ok () ∧
    ∃ starts, jumpOverNothing.scanInstructions 0 = .ok starts ∧
      ∀ offset, jumpOverNothing.Reachable offset →
        (offset ∈ starts ∨ offset = jumpOverNothing.code.length) ∧
        (offset < jumpOverNothing.code.length → ∃ opcode,
          OpCode.fromByte (byteAt jumpOverNothing.code offset) = some opcode ∧
          offset + 1 + opcode.operandLen ≤ jumpOverNothing.code.length ∧
          jumpOverNothing.OperandsInRange offset opcode) :=
  ⟨jumpOverNothing_valid, validateBytecode_control_flow jumpOverNothing jumpOverNothing_valid⟩

end BytecodeFunction

end CodePush.Bytecode
