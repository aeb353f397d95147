import CodePush.Bytecode.Module
import CodePush.Foundation.Interning

/-!
# The constant pool

`ConstantPool` of `crates/fcb_core/src/bytecode.rs`, which looks for a constant with the derived
`PartialEq`. On doubles that is the equality of numbers, not of bits.
-/

set_option autoImplicit false

namespace CodePush.Bytecode

open CodePush.Core CodePush.Foundation

def positiveZero : UInt64 := 0
def negativeZero : UInt64 := 0x8000000000000000

/-- The bits below the sign. -/
def magnitude (bits : UInt64) : Nat := bits.toNat % 2 ^ 63

def isNaN (bits : UInt64) : Bool := magnitude bits > 0x7ff0000000000000

/-- `f64::eq`: a NaN equals nothing, and the zeros are equal. -/
def eqDouble (left right : UInt64) : Bool :=
  !isNaN left && !isNaN right && (left == right || (magnitude left == 0 && magnitude right == 0))

/-- `Constant::eq`. -/
def Constant.eq : Constant → Constant → Bool
  | .int left, .int right => left == right
  | .double left, .double right => eqDouble left right
  | .bool left, .bool right => left == right
  | .string left, .string right => left == right
  | .null, .null => true
  | _, _ => false

structure ConstantPool where
  constants : List Constant
  deriving DecidableEq

namespace ConstantPool

/-- `ConstantPool::default`. -/
def empty : ConstantPool := ⟨[]⟩

/-- `u16::try_from` of an index, with the pool's own error. -/
def index (idx : Nat) : Result UInt16 :=
  if idx < 65536 then .ok (UInt16.ofNat idx) else err "bytecode constant pool exceeds u16 index space"

def push (constant : Constant) (pool : ConstantPool) : Result UInt16 × ConstantPool :=
  match pool.constants.findIdx? (Constant.eq · constant) with
  | some idx => (index idx, pool)
  | none => (index pool.constants.length, { pool with constants := pool.constants ++ [constant] })

/-- The pool after these were pushed to an empty one. -/
def pushAll (constants : List Constant) : ConstantPool := runFrom push empty constants

end ConstantPool

/-!
## Equality of doubles
-/

theorem toNat_eq_magnitude (bits : UInt64) : bits.toNat = magnitude bits ∨ bits.toNat = 2 ^ 63 + magnitude bits := by
  have small := bits.toNat_lt
  unfold magnitude
  omega

theorem isZero_iff (bits : UInt64) : magnitude bits = 0 ↔ bits = positiveZero ∨ bits = negativeZero := by
  constructor
  · intro zero
    rcases toNat_eq_magnitude bits with plain | signed
    · left
      apply UInt64.toNat_inj.mp
      rw [plain, zero]
      rfl
    · right
      apply UInt64.toNat_inj.mp
      rw [signed, zero]
      rfl
  · intro either
    rcases either with rfl | rfl <;> rfl

theorem eqDouble_symm (left right : UInt64) : eqDouble left right = eqDouble right left := by
  unfold eqDouble
  rw [Bool.and_comm (!isNaN left), BEq.comm, Bool.and_comm (magnitude left == 0)]

theorem Constant.eq_symm (one other : Constant) : one.eq other = other.eq one := by
  cases one <;> cases other
  case int.int left right => exact BEq.comm
  case double.double left right => exact eqDouble_symm left right
  case bool.bool left right => exact BEq.comm
  case string.string left right => exact BEq.comm
  all_goals rfl

/-- Two constants that `==` does not tell from what is identical: zeros of either sign, or one NaN. -/
inductive Confused : Constant → Constant → Prop where
  | positive : Confused (.double positiveZero) (.double negativeZero)
  | negative : Confused (.double negativeZero) (.double positiveZero)
  | nan {bits : UInt64} (nan : isNaN bits = true) : Confused (.double bits) (.double bits)

theorem eqDouble_iff (left right : UInt64) :
    eqDouble left right = true ↔
      isNaN left = false ∧ isNaN right = false ∧ (left = right ∨ magnitude left = 0 ∧ magnitude right = 0) := by
  simp [eqDouble, and_assoc]

theorem Constant.eq_iff_of_not_confused {one other : Constant} (clear : ¬ Confused one other) :
    one.eq other = true ↔ one = other := by
  cases one <;> cases other
  case int.int left right => exact beq_iff_eq.trans (Constant.int.injEq left right ▸ Iff.rfl)
  case bool.bool left right => exact beq_iff_eq.trans (Constant.bool.injEq left right ▸ Iff.rfl)
  case string.string left right => exact beq_iff_eq.trans (Constant.string.injEq left right ▸ Iff.rfl)
  case null.null => exact iff_of_true rfl rfl
  case double.double left right =>
    show eqDouble left right = true ↔ _
    rw [eqDouble_iff, Constant.double.injEq]
    constructor
    · intro ⟨_, _, alike⟩
      rcases alike with same | ⟨leftZero, rightZero⟩
      · exact same
      · rcases (isZero_iff left).mp leftZero with rfl | rfl <;>
          rcases (isZero_iff right).mp rightZero with rfl | rfl
        · rfl
        · exact absurd .positive clear
        · exact absurd .negative clear
        · rfl
    · intro same
      subst same
      have number : isNaN left = false := by
        rw [← Bool.not_eq_true]
        exact fun nan => clear (.nan nan)
      exact ⟨number, number, .inl rfl⟩
  all_goals exact iff_of_false Bool.false_ne_true fun same => nomatch same

theorem Confused.eq_ne_iff {one other : Constant} (confused : Confused one other) :
    ¬ (one.eq other = true ↔ one = other) := by
  cases confused with
  | positive => decide
  | negative => decide
  | @nan bits nan =>
      intro exact
      have alike : eqDouble bits bits = true := exact.mpr rfl
      rw [eqDouble_iff, nan] at alike
      exact Bool.noConfusion alike.1

/-- What may be pushed: one of the zeros only, no NaN twice, and not more than an index can tell apart. -/
structure Distinguishable (constants : List Constant) : Prop where
  zeros : ¬ (.double positiveZero ∈ constants ∧ .double negativeZero ∈ constants)
  nans : ∀ bits, isNaN bits = true → constants.count (.double bits) ≤ 1
  few : constants.dedup.length ≤ 65536

theorem zeros_ne : Constant.double positiveZero ≠ .double negativeZero := by decide

/-- Both orders of two members. -/
theorem sublist_of_mem {α : Type} {items : List α} {one other : α} (first : one ∈ items) (second : other ∈ items)
    (apart : one ≠ other) : [one, other].Sublist items ∨ [other, one].Sublist items := by
  obtain ⟨before, after, rfl⟩ := List.append_of_mem first
  rw [List.mem_append, List.mem_cons] at second
  rcases second with earlier | same | later
  · right
    exact (List.singleton_sublist.mpr earlier).append (List.singleton_sublist.mpr List.mem_cons_self)
  · exact absurd same.symm apart
  · left
    exact ((List.singleton_sublist.mpr later).cons_cons one).trans (List.sublist_append_right before _)

theorem told_iff (constants : List Constant) :
    Told Constant.eq constants ↔
      ¬ (.double positiveZero ∈ constants ∧ .double negativeZero ∈ constants) ∧
        ∀ bits, isNaN bits = true → constants.count (.double bits) ≤ 1 := by
  unfold Told
  rw [List.pairwise_iff_forall_sublist]
  constructor
  · intro told
    constructor
    · intro ⟨positive, negative⟩
      rcases sublist_of_mem positive negative zeros_ne with front | front
      · exact Confused.positive.eq_ne_iff (told front)
      · exact Confused.negative.eq_ne_iff (told front)
    · intro bits nan
      by_contra twice
      have front := List.replicate_sublist_iff.mpr (Nat.lt_of_not_le twice)
      exact (Confused.nan nan).eq_ne_iff (told front)
  · intro ⟨zeros, nans⟩ one other front
    apply Constant.eq_iff_of_not_confused
    intro confused
    cases confused with
    | positive => exact zeros ⟨front.subset (by simp), front.subset (by simp)⟩
    | negative => exact zeros ⟨front.subset (by simp), front.subset (by simp)⟩
    | @nan bits nan =>
        have twice : 2 ≤ constants.count (.double bits) := List.replicate_sublist_iff.mp front
        have once := nans bits nan
        omega

/-!
## Runs of pushes
-/

namespace ConstantPool

theorem push_eq (constant : Constant) (pool : ConstantPool) :
    push constant pool =
      (index (intern Constant.eq constant pool.constants).1,
        ⟨(intern Constant.eq constant pool.constants).2⟩) := by
  unfold push intern
  cases pool.constants.findIdx? (Constant.eq · constant) <;> rfl

theorem pushAll_eq (constants : List Constant) : (pushAll constants).constants = poolOf Constant.eq constants := by
  induction constants using List.reverseRecOn with
  | nil => rfl
  | append_singleton constants constant ih =>
      rw [poolOf_concat, ← ih]
      unfold pushAll
      rw [runFrom_append]
      exact congrArg (·.2.constants) (push_eq constant _)

theorem index_ok {idx : Nat} (small : idx < 65536) : index idx = .ok (UInt16.ofNat idx) := if_pos small

theorem index_eq_ok {idx : Nat} {handed : UInt16} (ok : index idx = .ok handed) : handed.toNat = idx := by
  unfold index at ok
  split at ok
  case isTrue small =>
    cases ok
    simp [Nat.mod_eq_of_lt small]
  case isFalse => cases ok

/-- What is expected of a run of pushes. -/
structure Faithful (constants : List Constant) : Prop where
  /-- An index that is handed out is that of the constant in the final pool. -/
  indexed : ∀ before constant after idx, constants = before ++ constant :: after →
    (push constant (pushAll before)).1 = .ok idx → (pushAll constants).constants[idx.toNat]? = some constant
  distinct : (pushAll constants).constants.Nodup
  /-- A push that fails changes nothing. -/
  unchanged : ∀ before constant after error, constants = before ++ constant :: after →
    (push constant (pushAll before)).1 = .error error → (push constant (pushAll before)).2 = pushAll before

theorem length_of_unchanged {constants : List Constant}
    (unchanged : ∀ before constant after error, constants = before ++ constant :: after →
      (push constant (pushAll before)).1 = .error error →
      (push constant (pushAll before)).2 = pushAll before) :
    (poolOf Constant.eq constants).length ≤ 65536 := by
  induction constants using List.reverseRecOn with
  | nil => exact Nat.zero_le _
  | append_singleton constants constant ih =>
      have earlier : (poolOf Constant.eq constants).length ≤ 65536 := by
        apply ih
        intro before other after error split
        exact unchanged before other (after ++ [constant]) error (by rw [split]; simp)
      have last := unchanged constants constant [] (.message "bytecode constant pool exceeds u16 index space") rfl
      rw [push_eq, pushAll_eq] at last
      rw [poolOf_concat]
      rcases intern_cases constant (poolOf Constant.eq constants) with ⟨idx, _, taken, _⟩ | ⟨added, _⟩
      · rw [taken]
        exact earlier
      · rw [added] at last ⊢
        by_contra full
        rw [List.length_append, List.length_singleton] at full
        have kept := congrArg (·.constants.length) (last (if_neg (by omega)))
        rw [pushAll_eq] at kept
        simp at kept

/-- Where the pool does not outgrow its indices, every push succeeds. -/
theorem push_ok {constants before after : List Constant} {constant : Constant}
    (small : (poolOf Constant.eq constants).length ≤ 65536) (split : constants = before ++ constant :: after) :
    (push constant (pushAll before)).1 =
      .ok (UInt16.ofNat (intern Constant.eq constant (poolOf Constant.eq before)).1) := by
  have inside := index_inside Constant.eq split
  rw [push_eq, pushAll_eq]
  exact index_ok (Nat.lt_of_lt_of_le inside small)

/-- A pool is faithful if and only if the pushed constants are told apart by `==` and are few enough. -/
theorem pool_faithful_iff (constants : List Constant) : Faithful constants ↔ Distinguishable constants := by
  constructor
  · intro faithful
    have small := length_of_unchanged faithful.unchanged
    have distinct := faithful.distinct
    rw [pushAll_eq] at distinct
    have indexed : Indexed Constant.eq constants := by
      intro before constant after split
      have inside := index_inside Constant.eq split
      have held := faithful.indexed before constant after _ split (push_ok small split)
      rw [pushAll_eq, UInt16.toNat_ofNat_of_lt' (Nat.lt_of_lt_of_le inside small)] at held
      exact held
    obtain ⟨zeros, nans⟩ := (told_iff constants).mp (told_of_exact Constant.eq_symm indexed distinct)
    refine ⟨zeros, nans, ?_⟩
    rw [← length_poolOf indexed distinct]
    exact small
  · intro ⟨zeros, nans, few⟩
    obtain ⟨indexed, distinct⟩ := exact_of_told ((told_iff constants).mpr ⟨zeros, nans⟩)
    rw [← length_poolOf indexed distinct] at few
    constructor
    · intro before constant after idx split ok
      rw [push_eq, pushAll_eq] at ok
      rw [pushAll_eq, index_eq_ok ok]
      exact indexed before constant after split
    · rw [pushAll_eq]
      exact distinct
    · intro before constant after error split failed
      rw [push_ok few split] at failed
      cases failed

/-- A zero of each sign: the second is handed the index of the first. -/
theorem zeros_share_index :
    ¬ Faithful [.double positiveZero, .double negativeZero] ∧
      push (.double negativeZero) (pushAll [.double positiveZero]) = (.ok 0, ⟨[.double positiveZero]⟩) := by
  constructor
  · intro faithful
    have held := faithful.indexed [.double positiveZero] (.double negativeZero) [] 0 rfl (by decide)
    exact absurd held (by decide)
  · decide

end ConstantPool

end CodePush.Bytecode
