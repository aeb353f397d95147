import CodePush.Bytecode.Validation
import CodePush.Compiler.Compiler
import CodePush.Foundation.Assembly

/-!
# Instructions in the emitted bytes

An instruction is an opcode with up to two operands, whose widths the opcode gives.
-/

set_option autoImplicit false

namespace CodePush.Compiler

open CodePush.Core CodePush.Bytecode CodePush.Foundation CodePush.Foundation.Assembly

/-- Operands that the opcode does not have are 0. -/
structure Instr where
  opcode : OpCode
  first : Nat
  second : Nat
  deriving Repr, DecidableEq

abbrev Code := List Instr

namespace Instr

def plain (opcode : OpCode) : Instr := ⟨opcode, 0, 0⟩

def one (opcode : OpCode) (operand : Nat) : Instr := ⟨opcode, operand, 0⟩

def operandBytes (instr : Instr) : Bytes :=
  match instr.opcode.operandLen with
  | 0 => []
  | 1 => [UInt8.ofNat instr.first]
  | 2 => u16Bytes instr.first
  | 3 => u16Bytes instr.first ++ [UInt8.ofNat instr.second]
  | _ => u16Bytes instr.first ++ u16Bytes instr.second

def bytes (instr : Instr) : Bytes := opByte instr.opcode :: instr.operandBytes

def size (instr : Instr) : Nat := 1 + instr.opcode.operandLen

@[simp] theorem size_plain (opcode : OpCode) : (plain opcode).size = 1 + opcode.operandLen := rfl

@[simp] theorem size_one (opcode : OpCode) (operand : Nat) :
    (one opcode operand).size = 1 + opcode.operandLen := rfl

@[simp] theorem size_mk (opcode : OpCode) (first second : Nat) :
    (mk opcode first second).size = 1 + opcode.operandLen := rfl

theorem size_pos (instr : Instr) : 0 < instr.size := by
  unfold Instr.size
  omega

/-- The operands fit their widths. -/
def Fits (instr : Instr) : Prop :=
  match instr.opcode.operandLen with
  | 0 => instr.first = 0 ∧ instr.second = 0
  | 1 => instr.first < 256 ∧ instr.second = 0
  | 2 => instr.first < 65536 ∧ instr.second = 0
  | 3 => instr.first < 65536 ∧ instr.second < 256
  | _ => instr.first < 65536 ∧ instr.second < 65536

instance (instr : Instr) : Decidable instr.Fits := by
  unfold Fits
  split <;> infer_instance

theorem fits_jump {opcode : OpCode} (two : opcode.operandLen = 2) {target : Nat} (small : target < 65536) :
    (one opcode target).Fits := by
  simp [Fits, one, two, small]

theorem fits_call {opcode : OpCode} (three : opcode.operandLen = 3) {index count : Nat}
    (small : index < 65536) (few : count < 256) : (mk opcode index count).Fits := by
  simp [Fits, three, small, few]

/-- The offsets that the instruction names. -/
def targets (instr : Instr) : List Nat :=
  match instr.opcode with
  | .jump | .jumpIfFalse | .jumpIfTrue => [instr.first]
  | .tryBegin | .tryFinally => [instr.first, instr.second]
  | _ => []

/-- The instruction that the bytes spell at an offset. -/
def decode (code : Bytes) (pos : Nat) : Option Instr :=
  if pos < code.length then
    (OpCode.fromByte (byteAt code pos)).map fun opcode =>
      match opcode.operandLen with
      | 0 => ⟨opcode, 0, 0⟩
      | 1 => ⟨opcode, (byteAt code (pos + 1)).toNat, 0⟩
      | 2 => ⟨opcode, readU16 code (pos + 1), 0⟩
      | 3 => ⟨opcode, readU16 code (pos + 1), (byteAt code (pos + 3)).toNat⟩
      | _ => ⟨opcode, readU16 code (pos + 1), readU16 code (pos + 3)⟩
  else none

end Instr

def assemble (code : Code) : Bytes := code.flatMap Instr.bytes

@[simp] theorem assemble_nil : assemble [] = [] := rfl

@[simp] theorem assemble_cons (instr : Instr) (code : Code) :
    assemble (instr :: code) = instr.bytes ++ assemble code := rfl

@[simp] theorem assemble_append (first second : Code) :
    assemble (first ++ second) = assemble first ++ assemble second := by
  simp [assemble]

theorem Instr.bytes_length (instr : Instr) : instr.bytes.length = instr.size := by
  obtain ⟨opcode, first, second⟩ := instr
  cases opcode <;> rfl

@[simp] theorem assemble_length (code : Code) : (assemble code).length = extent Instr.size code := by
  induction code with
  | nil => rfl
  | cons instr code ih => simp [ih, Instr.bytes_length]

/-!
## Reading the bytes back
-/

theorem fromByte_opByte (opcode : OpCode) : OpCode.fromByte (opByte opcode) = some opcode := by
  cases opcode <;> rfl

theorem byteAt_append (front back : Bytes) (offset : Nat) :
    byteAt (front ++ back) (front.length + offset) = byteAt back offset := by
  have later : (front ++ back)[front.length + offset]? = back[offset]? := by
    rw [List.getElem?_append_right (by omega), Nat.add_sub_cancel_left]
  simp only [byteAt, List.getD_eq_getElem?_getD, later]

theorem toNat_ofNat_small {value : Nat} (small : value < 256) : (UInt8.ofNat value).toNat = value := by
  simp [Nat.mod_eq_of_lt small]

theorem readU16_append (front back : Bytes) (offset : Nat) :
    readU16 (front ++ back) (front.length + offset) = readU16 back offset := by
  simp only [readU16, byteAt_append, Nat.add_assoc]

theorem readU16_u16Bytes {value : Nat} (small : value < 65536) (rest : Bytes) :
    readU16 (u16Bytes value ++ rest) 0 = value := by
  have high : value / 256 < 256 := by omega
  have low : (UInt8.ofNat value).toNat = value % 256 := by simp
  simp only [readU16, u16Bytes, byteAt, List.cons_append, List.getD_cons_zero, List.getD_cons_succ,
    toNat_ofNat_small high, low]
  omega

theorem Instr.decode_assembled (front back : Bytes) {instr : Instr} (fits : instr.Fits) :
    Instr.decode (front ++ (instr.bytes ++ back)) front.length = some instr := by
  have inside : front.length < (front ++ (instr.bytes ++ back)).length := by
    simp [Instr.bytes]
  have opcode : byteAt (front ++ (instr.bytes ++ back)) front.length = opByte instr.opcode :=
    byteAt_append front _ 0
  -- the operand bytes start behind the opcode
  have shifted : front ++ (instr.bytes ++ back) =
      (front ++ [opByte instr.opcode]) ++ (instr.operandBytes ++ back) := by
    simp [Instr.bytes]
  have at1 : front.length + 1 = (front ++ [opByte instr.opcode]).length + 0 := by simp
  have at3 : front.length + 3 = (front ++ [opByte instr.opcode]).length + 2 := by simp
  unfold Instr.decode
  rw [if_pos inside, opcode, fromByte_opByte, Option.map_some]
  congr 1
  unfold Instr.Fits at fits
  rw [shifted, at1, at3, readU16_append, readU16_append, byteAt_append, byteAt_append]
  obtain ⟨opcode, first, second⟩ := instr
  dsimp only at fits ⊢
  unfold Instr.operandBytes
  dsimp only
  split at fits
  case h_1 => rw [fits.1, fits.2]
  case h_2 =>
    simp only [byteAt, List.cons_append, List.getD_cons_zero, toNat_ofNat_small fits.1]
    rw [fits.2]
  case h_3 =>
    simp only [readU16_u16Bytes fits.1]
    rw [fits.2]
  case h_4 =>
    simp only [List.append_assoc, readU16_u16Bytes fits.1]
    simp [byteAt, u16Bytes, Nat.mod_eq_of_lt fits.2]
  case h_5 len0 len1 len2 len3 =>
    have shifted : readU16 (u16Bytes first ++ (u16Bytes second ++ back)) 2 =
        readU16 (u16Bytes second ++ back) 0 := rfl
    split
    · contradiction
    · contradiction
    · contradiction
    · contradiction
    · simp only [List.append_assoc, readU16_u16Bytes fits.1, shifted, readU16_u16Bytes fits.2]

/-- The bytes say which instructions they are. -/
theorem assemble_injective {first second : Code} (firstFits : ∀ instr ∈ first, instr.Fits)
    (secondFits : ∀ instr ∈ second, instr.Fits) (same : assemble first = assemble second) :
    first = second := by
  induction first generalizing second with
  | nil =>
      cases second with
      | nil => rfl
      | cons other rest => simp [Instr.bytes] at same
  | cons instr code ih =>
      cases second with
      | nil => simp [Instr.bytes] at same
      | cons other rest =>
          rw [List.forall_mem_cons] at firstFits secondFits
          rw [assemble_cons, assemble_cons] at same
          have decoded := Instr.decode_assembled [] (assemble code) firstFits.1
          rw [same, Instr.decode_assembled [] (assemble rest) secondFits.1] at decoded
          obtain rfl := Option.some.inj decoded
          rw [ih firstFits.2 secondFits.2 (List.append_cancel_left same)]

theorem Instr.decode_placed {front back : Bytes} {code : Code} {pos : Nat} {instr : Instr}
    (placed : Placed Instr.size front.length code pos instr) (fits : instr.Fits) :
    Instr.decode (front ++ (assemble code ++ back)) pos = some instr := by
  obtain ⟨before, after, rfl, rfl⟩ := placed
  have located := Instr.decode_assembled (front ++ assemble before) (assemble after ++ back) fits
  simpa using located

/-!
## Patching
-/

theorem patchBytes_append (front back : Bytes) (high low : UInt8) (value : Nat) :
    patchBytes (front ++ (high :: low :: back)) front.length value =
      front ++ (u16Bytes value ++ back) := by
  simp [patchBytes, u16Bytes]

/-- Patching sets the first operand of a jump. -/
theorem patchBytes_first (front : Bytes) (before after : Code) {instr : Instr}
    (operands : instr.opcode.operandLen = 2 ∨ instr.opcode.operandLen = 4) (value : Nat) :
    patchBytes (front ++ assemble (before ++ instr :: after))
      (front.length + extent Instr.size before + 1) value =
      front ++ assemble (before ++ { instr with first := value } :: after) := by
  have split : front ++ assemble (before ++ instr :: after) =
      (front ++ assemble before ++ [opByte instr.opcode]) ++
        (instr.operandBytes ++ assemble after) := by
    simp [Instr.bytes]
  have offset : front.length + extent Instr.size before + 1 =
      (front ++ assemble before ++ [opByte instr.opcode]).length := by
    simp [Nat.add_assoc]
  rw [split, offset]
  rcases operands with len | len
  · simp only [Instr.operandBytes, len, u16Bytes, List.cons_append, List.nil_append]
    rw [patchBytes_append]
    simp [Instr.bytes, Instr.operandBytes, len, u16Bytes]
  · simp only [Instr.operandBytes, len, u16Bytes, List.cons_append, List.nil_append]
    rw [patchBytes_append]
    simp [Instr.bytes, Instr.operandBytes, len, u16Bytes]

/-- Patching sets the second operand of a try instruction. -/
theorem patchBytes_second (front : Bytes) (before after : Code) {instr : Instr}
    (operands : instr.opcode.operandLen = 4) (value : Nat) :
    patchBytes (front ++ assemble (before ++ instr :: after))
      (front.length + extent Instr.size before + 3) value =
      front ++ assemble (before ++ { instr with second := value } :: after) := by
  have split : front ++ assemble (before ++ instr :: after) =
      (front ++ assemble before ++ (opByte instr.opcode :: u16Bytes instr.first)) ++
        (u16Bytes instr.second ++ assemble after) := by
    simp [Instr.bytes, Instr.operandBytes, operands]
  have offset : front.length + extent Instr.size before + 3 =
      (front ++ assemble before ++ (opByte instr.opcode :: u16Bytes instr.first)).length := by
    simp [Nat.add_assoc, u16Bytes]
  rw [split, offset]
  simp only [u16Bytes, List.cons_append, List.nil_append]
  rw [patchBytes_append]
  simp [Instr.bytes, Instr.operandBytes, operands, u16Bytes]

end CodePush.Compiler
