import CodePush.Bytecode.ValidationProperties

/-!
# The AOT gate

`targets_for` walks the code of each function on its own, apart from the
validator, and collects the texts that calls by name refer to. The packaging
step refuses a module one of whose targets has no entry point in the release.
-/

set_option autoImplicit false

namespace CodePush.Bytecode

open CodePush.Core CodePush.Foundation

/-- `BTreeSet::insert`. Texts are ordered by their characters, as by their UTF-8 bytes. -/
def insertTarget (targets : List String) (target : String) : List String :=
  if target ∈ targets then targets else targets.orderedInsert (· ≤ ·) target

theorem mem_insertTarget {targets : List String} {target other : String} :
    other ∈ insertTarget targets target ↔ other = target ∨ other ∈ targets := by
  unfold insertTarget
  split
  case isTrue member =>
    constructor
    · exact .inr
    · rintro (rfl | present)
      · exact member
      · exact present
  case isFalse => exact List.mem_orderedInsert _

namespace BytecodeFunction

/-- The two variables of the loop. -/
structure Walk where
  pos : Nat
  targets : List String

/-- One round of the loop over the code; `none` is its end, also that by `break`. -/
def walkStep (function : BytecodeFunction) (opcodes : List OpCode) (walk : Walk) : Option Walk :=
  if walk.pos < function.code.length then
    match OpCode.fromByte (byteAt function.code walk.pos) with
    | none => none
    | some opcode =>
        let operandStart := walk.pos + 1
        let targets :=
          if opcode ∈ opcodes ∧ operandStart + 2 ≤ function.code.length then
            match function.constantString? (readU16 function.code operandStart) with
            | some target => insertTarget walk.targets target
            | none => walk.targets
          else walk.targets
        some ⟨operandStart + opcode.operandLen, targets⟩
  else none

/-- A round starts inside the code and leaves the opcode byte behind. -/
theorem walkStep_advances {function : BytecodeFunction} {opcodes : List OpCode} {walk next : Walk}
    (step : function.walkStep opcodes walk = some next) :
    walk.pos < function.code.length ∧ walk.pos < next.pos := by
  unfold walkStep at step
  split at step
  case isTrue inside =>
    split at step
    · cases step
    · cases step
      exact ⟨inside, by show walk.pos < walk.pos + 1 + _; omega⟩
  case isFalse => cases step

def walkFrom (function : BytecodeFunction) (opcodes : List OpCode) (walk : Walk) : List String :=
  match _step : function.walkStep opcodes walk with
  | none => walk.targets
  | some next => walkFrom function opcodes next
termination_by function.code.length - walk.pos
decreasing_by
  have := walkStep_advances _step
  omega

end BytecodeFunction

namespace BytecodeModule

def targetsFor (module : BytecodeModule) (opcodes : List OpCode) : List String :=
  module.functions.foldl (fun targets function => function.walkFrom opcodes ⟨0, targets⟩) []

def aotReferencedTargets (module : BytecodeModule) : List String :=
  module.targetsFor [.callStatic, .callOriginal]

def missingAotTargets (module : BytecodeModule) (aotPresent : List String) : List String :=
  module.aotReferencedTargets.filter (· ∉ aotPresent)

end BytecodeModule

/-!
## The walk and the linear decoding
-/

namespace BytecodeFunction

/-- The instruction at `pos` has one of the opcodes and names the target. -/
def Names (function : BytecodeFunction) (opcodes : List OpCode) (pos : Nat) (target : String) : Prop :=
  ∃ opcode ∈ opcodes, OpCode.fromByte (byteAt function.code pos) = some opcode ∧
    function.constants[readU16 function.code (pos + 1)]? = some (.string target)

theorem constantString?_iff {function : BytecodeFunction} {idx : Nat} {value : String} :
    function.constantString? idx = some value ↔ function.constants[idx]? = some (.string value) := by
  constructor
  · exact constantString?_eq_some
  · intro found
    unfold constantString?
    rw [found]

/-- At an instruction of the linear decoding, a round collects what it names and goes on with
the next instruction. -/
theorem walkStep_decoded {function : BytecodeFunction} {opcodes : List OpCode} {pos : Nat}
    {opcode : OpCode} (wide : ∀ opcode ∈ opcodes, 2 ≤ opcode.operandLen)
    (decoded : function.Decoded pos opcode) (targets : List String) :
    ∃ collected, function.walkStep opcodes ⟨pos, targets⟩ =
        some ⟨pos + 1 + opcode.operandLen, collected⟩ ∧
      ∀ target, target ∈ collected ↔ target ∈ targets ∨ function.Names opcodes pos target := by
  have names : ∀ target, function.Names opcodes pos target ↔
      opcode ∈ opcodes ∧ function.constantString? (readU16 function.code (pos + 1)) = some target := by
    intro target
    rw [constantString?_iff]
    constructor
    · rintro ⟨found, member, byte, constant⟩
      rw [decoded.byte] at byte
      cases byte
      exact ⟨member, constant⟩
    · rintro ⟨member, constant⟩
      exact ⟨opcode, member, decoded.byte, constant⟩
  unfold walkStep
  simp only [if_pos decoded.inside, decoded.byte]
  refine ⟨_, rfl, ?_⟩
  intro target
  rw [names]
  by_cases member : opcode ∈ opcodes
  · have fits : pos + 1 + 2 ≤ function.code.length := by
      have := wide opcode member
      have := decoded.whole
      omega
    rw [if_pos ⟨member, fits⟩]
    cases function.constantString? (readU16 function.code (pos + 1)) with
    | none => simp
    | some value => simp [mem_insertTarget, member, or_comm, eq_comm]
  · simp [member]

theorem walkFrom_next {function : BytecodeFunction} {opcodes : List OpCode} {walk next : Walk}
    (step : function.walkStep opcodes walk = some next) :
    function.walkFrom opcodes walk = function.walkFrom opcodes next := by
  rw [walkFrom]
  split
  case h_1 ended =>
    rw [step] at ended
    cases ended
  case h_2 other found =>
    rw [step] at found
    cases found
    rfl

theorem walkFrom_end {function : BytecodeFunction} {opcodes : List OpCode} {walk : Walk}
    (ended : function.walkStep opcodes walk = none) :
    function.walkFrom opcodes walk = walk.targets := by
  rw [walkFrom]
  split
  case h_1 => rfl
  case h_2 next found =>
    rw [ended] at found
    cases found

/-- The walk visits the instructions of the linear decoding and no other offset. -/
theorem mem_walkFrom {function : BytecodeFunction} {opcodes : List OpCode}
    (wide : ∀ opcode ∈ opcodes, 2 ≤ opcode.operandLen) {pos : Nat} {starts : List Nat}
    (scanned : function.scanInstructions pos = .ok starts) (targets : List String) (target : String) :
    target ∈ function.walkFrom opcodes ⟨pos, targets⟩ ↔
      target ∈ targets ∨ ∃ start ∈ starts, function.Names opcodes start target := by
  -- Induction on the bytes left, as for the scan itself.
  induction remaining : function.code.length - pos using Nat.strongRecOn
      generalizing pos starts targets with
  | _ left ih =>
      by_cases inside : pos < function.code.length
      · obtain ⟨opcode, rest, decoded, scannedRest, rfl⟩ := scanInstructions_step inside scanned
        obtain ⟨collected, step, gathered⟩ := walkStep_decoded wide decoded targets
        have later := ih _ (by omega) scannedRest collected rfl
        rw [walkFrom_next step, later, gathered]
        simp only [List.mem_cons, exists_eq_or_imp, or_assoc]
      · have empty := scanInstructions_end inside scanned
        subst empty
        have ended : function.walkStep opcodes ⟨pos, targets⟩ = none := if_neg inside
        rw [walkFrom_end ended]
        simp

/-- The state after so many rounds of the loop; `none` when it has ended before. -/
def rounds (function : BytecodeFunction) (opcodes : List OpCode) (walk : Walk) : Nat → Option Walk
  | 0 => some walk
  | count + 1 => (function.rounds opcodes walk count).bind (function.walkStep opcodes)

theorem rounds_le {function : BytecodeFunction} {opcodes : List OpCode} {walk reached : Walk}
    {count : Nat} (ran : function.rounds opcodes walk count = some reached) :
    walk.pos + count ≤ reached.pos := by
  induction count generalizing reached with
  | zero =>
      cases ran
      exact Nat.le_refl _
  | succ count ih =>
      obtain ⟨before, earlier, step⟩ := Option.bind_eq_some_iff.mp ran
      have started := ih earlier
      have advanced := (walkStep_advances step).2
      omega

/-- The walk ends after at most as many rounds as the code has bytes. -/
theorem rounds_end (function : BytecodeFunction) (opcodes : List OpCode) (walk : Walk) :
    function.rounds opcodes walk (function.code.length + 1) = none := by
  cases ran : function.rounds opcodes walk (function.code.length + 1) with
  | none => rfl
  | some reached =>
      obtain ⟨before, earlier, step⟩ := Option.bind_eq_some_iff.mp ran
      have started := rounds_le earlier
      have inside := (walkStep_advances step).1
      omega

end BytecodeFunction

/-!
## The gate
-/

theorem validateFunctions_mem {functions : List BytecodeFunction}
    (valid : validateFunctions functions = .ok ()) :
    ∀ function ∈ functions, function.validateBytecode = .ok () := by
  induction functions with
  | nil => simp
  | cons function functions ih =>
      obtain ⟨_, first, rest⟩ := except_bind_eq_ok.mp valid
      intro other member
      rcases List.mem_cons.mp member with rfl | later
      · exact first
      · exact ih rest other later

namespace BytecodeModule

/-- A call instruction at one of the validator's instruction boundaries names the target. -/
def CallsByName (module : BytecodeModule) (target : String) : Prop :=
  ∃ function ∈ module.functions, ∃ starts, function.scanInstructions 0 = .ok starts ∧
    ∃ start ∈ starts, function.Names [.callStatic, .callOriginal] start target

theorem mem_targets {opcodes : List OpCode} (wide : ∀ opcode ∈ opcodes, 2 ≤ opcode.operandLen)
    {functions : List BytecodeFunction} (valid : validateFunctions functions = .ok ())
    (targets : List String) (target : String) :
    target ∈ functions.foldl (fun targets function => function.walkFrom opcodes ⟨0, targets⟩) targets ↔
      target ∈ targets ∨ ∃ function ∈ functions, ∃ starts, function.scanInstructions 0 = .ok starts ∧
        ∃ start ∈ starts, function.Names opcodes start target := by
  induction functions generalizing targets with
  | nil => simp
  | cons function functions ih =>
      obtain ⟨_, first, rest⟩ := except_bind_eq_ok.mp valid
      obtain ⟨starts, scanned, _⟩ := BytecodeFunction.validateBytecode_spec first
      rw [List.foldl_cons, ih rest, BytecodeFunction.mem_walkFrom wide scanned]
      simp only [List.mem_cons, exists_eq_or_imp, or_assoc, scanned, Except.ok.injEq,
        exists_eq_left']

theorem mem_aotReferencedTargets {module : BytecodeModule} (valid : module.validate = .ok ())
    (target : String) : target ∈ module.aotReferencedTargets ↔ module.CallsByName target := by
  have functionsValid : validateFunctions module.functions = .ok () :=
    (except_bind_eq_ok.mp valid).choose_spec.2
  have wide : ∀ opcode ∈ [OpCode.callStatic, .callOriginal], 2 ≤ opcode.operandLen := by decide
  refine (mem_targets wide functionsValid [] target).trans ?_
  simp [CallsByName]

/-- The gate sees the calls that the validator sees: the targets are those that call
instructions at instruction boundaries name, every such instruction names one, a module is let
through exactly when all of them are present, and the walk ends on all code. -/
theorem aot_gate_exact :
    (∀ module : BytecodeModule, module.validate = .ok () →
      (∀ target, target ∈ module.aotReferencedTargets ↔ module.CallsByName target) ∧
      (∀ function ∈ module.functions, ∀ starts, function.scanInstructions 0 = .ok starts →
        ∀ start ∈ starts, ∀ opcode, OpCode.fromByte (byteAt function.code start) = some opcode →
          opcode = .callStatic ∨ opcode = .callOriginal →
          ∃ target ∈ module.aotReferencedTargets,
            function.constants[readU16 function.code (start + 1)]? = some (.string target)) ∧
      ∀ aotPresent, module.missingAotTargets aotPresent = [] ↔
        ∀ target, module.CallsByName target → target ∈ aotPresent) ∧
    ∀ (function : BytecodeFunction) opcodes walk,
      function.rounds opcodes walk (function.code.length + 1) = none := by
  refine ⟨?_, BytecodeFunction.rounds_end⟩
  intro module valid
  refine ⟨mem_aotReferencedTargets valid, ?_, ?_⟩
  · intro function member starts scanned start startMember opcode byte kind
    obtain ⟨_, closed⟩ := BytecodeFunction.scanInstructions_spec (Nat.zero_le _) scanned
    obtain ⟨found, decoded, _⟩ := closed start startMember
    rw [decoded.byte] at byte
    cases byte
    have operands := BytecodeFunction.checkOperands_inRange decoded.operands
    have named : ∃ target,
        function.constants[readU16 function.code (start + 1)]? = some (.string target) := by
      rcases kind with rfl | rfl
      · exact operands
      · exact operands.imp fun _ both => both.1
    obtain ⟨target, constant⟩ := named
    refine ⟨target, (mem_aotReferencedTargets valid target).mpr ?_, constant⟩
    refine ⟨function, member, starts, scanned, start, startMember, opcode, ?_, decoded.byte, constant⟩
    rcases kind with rfl | rfl <;> simp
  · intro aotPresent
    unfold missingAotTargets
    rw [List.filter_eq_nil_iff]
    simp only [decide_eq_true_eq, not_not, mem_aotReferencedTargets valid]

/-- A module with one call of the original function. -/
def callsOriginal : BytecodeModule where
  version := 3
  functions := [{
    name := "answer", returnConvention := "tagged", asyncKind := .sync, paramCount := 0
    localCount := 0, constants := [.string "lib::answer"]
    code := [0x52, 0, 0, 0, 0xff], sourceMap := [], debugLocals := [] }]

theorem callsOriginal_valid : callsOriginal.validate = .ok () := by
  have envelope : callsOriginal.validateEnvelope = .ok () := by decide
  have functions : validateFunctions callsOriginal.functions = .ok () := by
    simp [callsOriginal, validateFunctions, BytecodeFunction.validateBytecode,
      BytecodeFunction.scanInstructions, BytecodeFunction.checkTargets, byteAt, OpCode.fromByte,
      OpCode.operandLen, BytecodeFunction.checkOperands, BytecodeFunction.checkTarget, readU16,
      BytecodeFunction.constantString?, countNamedArguments, splitAtMarker, namedMarker, bind,
      Except.bind]
  exact except_bind_eq_ok.mpr ⟨(), envelope, functions⟩

/-- It is let through when the original function is present. -/
theorem callsOriginal_gated :
    callsOriginal.validate = .ok () ∧ callsOriginal.missingAotTargets ["lib::answer"] = [] := by
  refine ⟨callsOriginal_valid, ?_⟩
  refine ((aot_gate_exact.1 callsOriginal callsOriginal_valid).2.2 ["lib::answer"]).mpr ?_
  rintro target ⟨function, member, starts, _, start, _, opcode, _, _, constant⟩
  cases List.mem_singleton.mp member
  have first : (Constant.string target) = .string "lib::answer" := by
    simpa using List.mem_of_getElem? constant
  cases first
  exact List.mem_singleton.mpr rfl

end BytecodeModule

end CodePush.Bytecode
