import Mathlib

/-!
# Code with jumps

Instructions laid out one after another from an offset. Pieces of code may jump to
offsets outside of them, their exits; pieces are joined by giving each the exits that it
uses, and a finished block needs none. The depth of an operand stack is treated in the
same way: a block is well behaved when every offset can be given one depth.
-/

set_option autoImplicit false

namespace CodePush.Foundation.Assembly

variable {ι : Type} (size : ι → Nat)

/-- The number of bytes that the code takes. -/
def extent (code : List ι) : Nat := (code.map size).sum

@[simp] theorem extent_nil : extent size ([] : List ι) = 0 := rfl

@[simp] theorem extent_cons (instr : ι) (code : List ι) :
    extent size (instr :: code) = size instr + extent size code := by
  simp [extent]

@[simp] theorem extent_append (first second : List ι) :
    extent size (first ++ second) = extent size first + extent size second := by
  simp [extent]

/-- The instruction stands at the offset. -/
def Placed (start : Nat) (code : List ι) (pos : Nat) (instr : ι) : Prop :=
  ∃ before after, code = before ++ instr :: after ∧ pos = start + extent size before

variable {size} {start pos : Nat} {code first second : List ι} {instr : ι}

theorem placed_append : Placed size start (first ++ second) pos instr ↔
    Placed size start first pos instr ∨ Placed size (start + extent size first) second pos instr := by
  constructor
  · intro placed
    obtain ⟨before, after, whole, rfl⟩ := placed
    rcases List.append_eq_append_iff.mp whole with ⟨middle, rfl, split⟩ | ⟨middle, rfl, split⟩
    · exact .inr ⟨middle, after, split, by simp [Nat.add_assoc]⟩
    · cases middle with
      | nil => exact .inr ⟨[], after, by simpa using split.symm, by simp⟩
      | cons head middle =>
          cases split
          exact .inl ⟨before, middle, rfl, rfl⟩
  · intro placed
    rcases placed with ⟨before, after, rfl, rfl⟩ | ⟨before, after, rfl, rfl⟩
    · exact ⟨before, after ++ second, by simp, rfl⟩
    · exact ⟨first ++ before, after, by simp, by simp [Nat.add_assoc]⟩

theorem placed_singleton {other : ι} : Placed size start [other] pos instr ↔
    other = instr ∧ pos = start := by
  constructor
  · intro placed
    obtain ⟨before, after, whole, rfl⟩ := placed
    cases before with
    | nil =>
        cases whole
        exact ⟨rfl, rfl⟩
    | cons head before => simp at whole
  · intro same
    obtain ⟨rfl, rfl⟩ := same
    exact ⟨[], [], rfl, rfl⟩

/-!
## Typed code
-/

/-- Rules that give a type to the machine's state before each instruction: what an
instruction needs at its offset, what holds after it, and what its jumps promise at their
targets. -/
structure Rules (ι α : Type) where
  size : ι → Nat
  accepts : Nat → ι → α → Prop
  next : ι → α → α → Prop
  jumps : ι → α → Nat → α → Prop

namespace Rules

variable {α : Type} (rules : Rules ι α)

/-- The type at the start of annotated code; `after` is the type behind its end. -/
def entry (code : List (ι × α)) (after : α) : α := (code.head?.map (·.2)).getD after

/-- The annotated code has this type at the offset. -/
def Has (start : Nat) (code : List (ι × α)) (after : α) (pos : Nat) (type : α) : Prop :=
  ∃ front back, code = front ++ back ∧ pos = start + extent (fun item => rules.size item.1) front ∧
    type = entry back after

/-- Every instruction accepts its type and hands the right one on, to the next instruction
and to its targets in the code or among the exits. -/
def Annotated (exits : List (Nat × α)) (start : Nat) (code : List (ι × α)) (after : α) : Prop :=
  ∀ front instr type back, code = front ++ (instr, type) :: back →
    rules.accepts (start + extent (fun item => rules.size item.1) front) instr type ∧
    rules.next instr type (entry back after) ∧
    ∀ target promised, rules.jumps instr type target promised →
      rules.Has start code after target promised ∨ (target, promised) ∈ exits

/-- The code can be annotated so that it leads from one type to another. -/
def Typed (exits : List (Nat × α)) (start : Nat) (code : List ι) (before after : α) : Prop :=
  ∃ annotated : List (ι × α), annotated.map (·.1) = code ∧ entry annotated after = before ∧
    rules.Annotated exits start annotated after

variable {rules} {exits more : List (Nat × α)} {before middle after : α}

theorem extent_annotated (code : List (ι × α)) :
    extent (fun item => rules.size item.1) code = extent rules.size (code.map (·.1)) := by
  simp [extent, Function.comp_def]

theorem typed_nil : rules.Typed exits start [] before before := by
  refine ⟨[], rfl, rfl, ?_⟩
  intro front instr type back whole
  simp at whole

theorem typed_singleton (accepted : rules.accepts start instr before)
    (next : rules.next instr before after)
    (inside : ∀ target promised, rules.jumps instr before target promised →
      (target, promised) ∈ exits) :
    rules.Typed exits start [instr] before after := by
  refine ⟨[(instr, before)], rfl, rfl, ?_⟩
  intro front instr' type back whole
  cases front with
  | cons head front => simp at whole
  | nil =>
      cases whole
      refine ⟨by simpa using accepted, next, ?_⟩
      intro target promised jump
      exact .inr (inside target promised jump)

theorem Has.left {left right : List (ι × α)} {type : α}
    (found : rules.Has start left (entry right after) pos type) :
    rules.Has start (left ++ right) after pos type := by
  obtain ⟨front, back, rfl, rfl, rfl⟩ := found
  refine ⟨front, back ++ right, by simp, rfl, ?_⟩
  cases back with
  | nil => rfl
  | cons head back => rfl

theorem Has.right {left right : List (ι × α)} {type : α}
    (found : rules.Has (start + extent (fun item => rules.size item.1) left) right after pos type) :
    rules.Has start (left ++ right) after pos type := by
  obtain ⟨front, back, rfl, rfl, rfl⟩ := found
  exact ⟨left ++ front, back, by simp, by simp [Nat.add_assoc], rfl⟩

theorem has_entry {annotated : List (ι × α)} :
    rules.Has start annotated after start (entry annotated after) :=
  ⟨[], annotated, rfl, by simp, rfl⟩

theorem has_after {annotated : List (ι × α)} :
    rules.Has start annotated after
      (start + extent (fun item => rules.size item.1) annotated) after :=
  ⟨annotated, [], by simp, rfl, rfl⟩

theorem Annotated.append {left right : List (ι × α)}
    (leftOk : rules.Annotated exits start left (entry right after))
    (rightOk : rules.Annotated exits (start + extent (fun item => rules.size item.1) left) right after) :
    rules.Annotated exits start (left ++ right) after := by
  intro front instr type back whole
  rcases List.append_eq_append_iff.mp whole with ⟨rest, rfl, split⟩ | ⟨rest, rfl, split⟩
  · obtain ⟨accepted, next, jumps⟩ := rightOk rest instr type back split
    refine ⟨by simpa [Nat.add_assoc] using accepted, next, ?_⟩
    intro target promised jump
    exact (jumps target promised jump).imp_left Has.right
  · cases rest with
    | nil =>
        obtain ⟨accepted, next, jumps⟩ := rightOk [] instr type back (by simpa using split.symm)
        refine ⟨by simpa using accepted, next, ?_⟩
        intro target promised jump
        exact (jumps target promised jump).imp_left Has.right
    | cons head rest =>
        cases split
        obtain ⟨accepted, next, jumps⟩ := leftOk front instr type rest rfl
        refine ⟨accepted, ?_, ?_⟩
        · cases rest with
          | nil => exact next
          | cons head rest => exact next
        · intro target promised jump
          exact (jumps target promised jump).imp_left Has.left

/-- Exits that the code itself provides are no exits. -/
theorem Annotated.close {annotated : List (ι × α)}
    (ok : rules.Annotated more start annotated after)
    (provided : ∀ exit ∈ more, rules.Has start annotated after exit.1 exit.2 ∨ exit ∈ exits) :
    rules.Annotated exits start annotated after := by
  intro front instr type back whole
  obtain ⟨accepted, next, jumps⟩ := ok front instr type back whole
  refine ⟨accepted, next, ?_⟩
  intro target promised jump
  rcases jumps target promised jump with found | found
  · exact .inl found
  · exact provided _ found

theorem Typed.mono (typed : rules.Typed exits start code before after)
    (subset : ∀ exit ∈ exits, exit ∈ more) : rules.Typed more start code before after := by
  obtain ⟨annotated, rfl, rfl, ok⟩ := typed
  exact ⟨annotated, rfl, rfl, ok.close fun exit member => .inr (subset exit member)⟩

/-- Code without exits of its own may stand anywhere. -/
theorem Typed.within (typed : rules.Typed [] start code before after) :
    rules.Typed exits start code before after :=
  typed.mono fun _ member => absurd member List.not_mem_nil

theorem Typed.append (left : rules.Typed exits start first before middle)
    (right : rules.Typed exits (start + extent rules.size first) second middle after) :
    rules.Typed exits start (first ++ second) before after := by
  obtain ⟨left, rfl, rfl, leftOk⟩ := left
  obtain ⟨right, rfl, rfl, rightOk⟩ := right
  rw [← extent_annotated] at rightOk
  refine ⟨left ++ right, by simp, ?_, leftOk.append rightOk⟩
  cases left with
  | nil => rfl
  | cons head left => rfl

/-- Both pieces may jump to the offset where they meet. -/
theorem Typed.join (label : Nat) (labelled : label = start + extent rules.size first)
    (left : rules.Typed ((label, middle) :: exits) start first before middle)
    (right : rules.Typed ((label, middle) :: exits) label second middle after) :
    rules.Typed exits start (first ++ second) before after := by
  subst labelled
  obtain ⟨left, rfl, rfl, leftOk⟩ := left
  obtain ⟨right, rfl, rfl, rightOk⟩ := right
  rw [← extent_annotated] at leftOk rightOk
  refine ⟨left ++ right, by simp, ?_, (leftOk.append rightOk).close ?_⟩
  · cases left with
    | nil => rfl
    | cons head left => rfl
  · intro exit member
    cases member with
    | head => exact .inl has_entry.right
    | tail _ member => exact .inr member

/-- The code may jump to its own start. -/
theorem Typed.loop (typed : rules.Typed ((start, before) :: exits) start code before after) :
    rules.Typed exits start code before after := by
  obtain ⟨annotated, rfl, rfl, ok⟩ := typed
  refine ⟨annotated, rfl, rfl, ok.close ?_⟩
  intro exit member
  cases member with
  | head => exact .inl has_entry
  | tail _ member => exact .inr member

/-- The code may jump to its own end. -/
theorem Typed.leave (label : Nat) (labelled : label = start + extent rules.size code)
    (typed : rules.Typed ((label, after) :: exits) start code before after) :
    rules.Typed exits start code before after := by
  subst labelled
  obtain ⟨annotated, rfl, rfl, ok⟩ := typed
  rw [← extent_annotated] at ok
  refine ⟨annotated, rfl, rfl, ok.close ?_⟩
  intro exit member
  cases member with
  | head => exact .inl has_after
  | tail _ member => exact .inr member

/-!
### What a typing means for execution
-/

/-- Every instruction of typed code is accepted, and jumps to an instruction or to the end. -/
theorem Typed.placed (typed : rules.Typed [] start code before after)
    (found : Placed rules.size start code pos instr) :
    ∃ type, rules.accepts pos instr type ∧
      ∀ target promised, rules.jumps instr type target promised →
        target = start + extent rules.size code ∨ ∃ other, Placed rules.size start code target other := by
  obtain ⟨annotated, rfl, _, ok⟩ := typed
  obtain ⟨front, back, whole, rfl⟩ := found
  obtain ⟨left, right, rfl, rfl, split⟩ := List.map_eq_append_iff.mp whole
  obtain ⟨item, right, rfl, rfl, _⟩ := List.map_eq_cons_iff.mp split
  obtain ⟨accepted, _, jumps⟩ := ok left item.1 item.2 right rfl
  rw [extent_annotated] at accepted
  refine ⟨item.2, accepted, ?_⟩
  intro target promised jump
  obtain ⟨front, back, whole, located, _⟩ :=
    (jumps target promised jump).resolve_right List.not_mem_nil
  rw [extent_annotated] at located
  rw [whole, List.map_append, extent_append]
  cases back with
  | nil => exact .inl (by simpa using located)
  | cons other back => exact .inr ⟨other.1, front.map (·.1), back.map (·.1), by simp, located⟩

/-- Types for the offsets of a piece of code without exits, one at most for each. -/
structure Layout (rules : Rules ι α) (start : Nat) (code : List ι) (before after : α)
    (has : Nat → α → Prop) : Prop where
  atStart : has start before
  atEnd : ∀ type, has (start + extent rules.size code) type → type = after
  unique : ∀ pos first second, has pos first → has pos second → first = second
  inside : ∀ pos type, has pos type → start ≤ pos ∧ pos ≤ start + extent rules.size code
  step : ∀ pos type, has pos type → pos < start + extent rules.size code →
    ∃ instr, Placed rules.size start code pos instr ∧ rules.accepts pos instr type ∧
      (∃ next, rules.next instr type next ∧ has (pos + rules.size instr) next) ∧
      ∀ target promised, rules.jumps instr type target promised → has target promised

/-- With instructions of positive size, two ways to cut the code at an offset are the same. -/
theorem front_unique {β : Type} {width : β → Nat} (positive : ∀ item, 0 < width item)
    {front back front' back' : List β} (whole : front ++ back = front' ++ back')
    (same : extent width front = extent width front') : front = front' := by
  induction front generalizing front' with
  | nil =>
      cases front' with
      | nil => rfl
      | cons head front' =>
          have some := positive head
          simp at same
          omega
  | cons head front ih =>
      cases front' with
      | nil =>
          have some := positive head
          simp at same
          omega
      | cons head' front' =>
          simp only [List.cons_append, List.cons.injEq] at whole
          obtain ⟨rfl, whole⟩ := whole
          rw [ih whole (by simpa using same)]

theorem Typed.layout (typed : rules.Typed [] start code before after)
    (positive : ∀ instr, 0 < rules.size instr) :
    ∃ has, Layout rules start code before after has := by
  obtain ⟨annotated, rfl, rfl, ok⟩ := typed
  have wide : ∀ item : ι × α, 0 < rules.size item.1 := fun item => positive item.1
  have unique : ∀ pos first second, rules.Has start annotated after pos first →
      rules.Has start annotated after pos second → first = second := by
    intro pos first second found found'
    obtain ⟨front, back, whole, located, rfl⟩ := found
    obtain ⟨front', back', whole', located', rfl⟩ := found'
    have same := front_unique wide (whole.symm.trans whole') (by omega)
    subst same
    rw [List.append_cancel_left (whole.symm.trans whole')]
  refine ⟨rules.Has start annotated after, has_entry, ?_, unique, ?_, ?_⟩
  · intro type found
    rw [← extent_annotated] at found
    exact unique _ _ _ found has_after
  · intro pos type found
    obtain ⟨front, back, rfl, rfl, _⟩ := found
    rw [← extent_annotated, extent_append]
    omega
  · intro pos type found before
    obtain ⟨front, back, rfl, rfl, rfl⟩ := found
    rw [← extent_annotated, extent_append] at before
    cases back with
    | nil => simp at before
    | cons item back =>
        obtain ⟨instr, type⟩ := item
        obtain ⟨accepted, next, jumps⟩ := ok front instr type back rfl
        refine ⟨instr, ?_, accepted, ⟨_, next, ?_⟩, ?_⟩
        · exact ⟨front.map (·.1), back.map (·.1), by simp, by rw [extent_annotated]⟩
        · exact ⟨front ++ [(instr, type)], back, by simp, by simp [Nat.add_assoc], rfl⟩
        · intro target promised jump
          exact (jumps target promised jump).resolve_right List.not_mem_nil

/-!
### Structured code

Sizes of single instructions stay abstract; a label is an offset with its equation.
-/

section Structured

variable {entered chosen result : α} {conditionCode thenCode elseCode guardCode bodyCode tailCode : List ι}
  {test jump begin : ι} {testAt thenAt jumpAt label finish : Nat}

/-- A test that leads to one of two pieces. -/
theorem Typed.branch (condition : rules.Typed [] start conditionCode before middle)
    (testPlaced : testAt = start + extent rules.size conditionCode)
    (tested : rules.Typed [(label, chosen)] testAt [test] middle entered)
    (thenPlaced : thenAt = testAt + rules.size test)
    (thenTyped : rules.Typed [] thenAt thenCode entered result)
    (jumpPlaced : jumpAt = thenAt + extent rules.size thenCode)
    (jumped : rules.Typed [(finish, after)] jumpAt [jump] result chosen)
    (labelled : label = jumpAt + rules.size jump)
    (elseTyped : rules.Typed [] label elseCode chosen after)
    (finished : finish = label + extent rules.size elseCode) :
    rules.Typed [] start (conditionCode ++ (test :: (thenCode ++ jump :: elseCode))) before after := by
  subst testPlaced thenPlaced jumpPlaced
  have front : rules.Typed [(label, chosen), (finish, after)] start
      (conditionCode ++ ([test] ++ (thenCode ++ [jump]))) before chosen := by
    refine condition.within.append ((tested.mono (by simp)).append ?_)
    simp only [extent_cons, extent_nil, Nat.add_zero]
    exact thenTyped.within.append (jumped.mono (by simp))
  have whole : rules.Typed [(finish, after)] start
      ((conditionCode ++ ([test] ++ (thenCode ++ [jump]))) ++ elseCode) before after := by
    refine front.join label ?_ elseTyped.within
    simp only [extent_append, extent_cons, extent_nil]
    omega
  have left := whole.leave finish (by
    simp only [extent_append, extent_cons, extent_nil]
    omega)
  simpa using left

/-- A test that, when it holds, runs a piece and jumps away. -/
theorem Typed.guard {target : Nat} (condition : rules.Typed [] start conditionCode before middle)
    (testPlaced : testAt = start + extent rules.size conditionCode)
    (tested : rules.Typed [(label, before)] testAt [test] middle entered)
    (thenPlaced : thenAt = testAt + rules.size test)
    (thenTyped : rules.Typed [] thenAt thenCode entered result)
    (jumpPlaced : jumpAt = thenAt + extent rules.size thenCode)
    (jumped : rules.Typed [(target, after)] jumpAt [jump] result before)
    (labelled : label = jumpAt + rules.size jump) :
    rules.Typed [(target, after)] start (conditionCode ++ (test :: (thenCode ++ [jump]))) before
      before := by
  subst testPlaced thenPlaced jumpPlaced
  have front : rules.Typed [(label, before), (target, after)] start
      (conditionCode ++ ([test] ++ (thenCode ++ [jump]))) before before := by
    refine condition.within.append ((tested.mono (by simp)).append ?_)
    simp only [extent_cons, extent_nil, Nat.add_zero]
    exact thenTyped.within.append (jumped.mono (by simp))
  have left := front.leave label (by
    simp only [extent_append, extent_cons, extent_nil]
    omega)
  simpa using left

/-- A loop with a test at its start; the guards may restart or leave it. -/
theorem Typed.cycle (condition : rules.Typed [] start conditionCode before middle)
    (testPlaced : testAt = start + extent rules.size conditionCode)
    (tested : rules.Typed [(finish, before)] testAt [test] middle before)
    (thenPlaced : thenAt = testAt + rules.size test)
    (bodyTyped : rules.Typed [(start, before), (finish, before)] thenAt bodyCode before before)
    (jumpPlaced : jumpAt = thenAt + extent rules.size bodyCode)
    (jumped : rules.Typed [(start, before)] jumpAt [jump] before before)
    (finished : finish = jumpAt + rules.size jump)
    (tailTyped : rules.Typed [] finish tailCode before after) :
    rules.Typed [] start (conditionCode ++ (test :: (bodyCode ++ jump :: tailCode))) before after := by
  subst testPlaced thenPlaced jumpPlaced
  have round : rules.Typed [(finish, before), (start, before)] start
      (conditionCode ++ ([test] ++ (bodyCode ++ [jump]))) before before := by
    refine condition.within.append ((tested.mono (by simp)).append ?_)
    simp only [extent_cons, extent_nil, Nat.add_zero]
    exact (bodyTyped.mono (by simp)).append (jumped.mono (by simp))
  have whole : rules.Typed [(start, before)] start
      ((conditionCode ++ ([test] ++ (bodyCode ++ [jump]))) ++ tailCode) before after := by
    refine round.join finish ?_ tailTyped.within
    simp only [extent_append, extent_cons, extent_nil]
    omega
  simpa using whole.loop

/-- A protected piece, its handler, and what follows both. -/
theorem Typed.protect {handler : α} {handlerCode : List ι} {bodyAt handlerAt : Nat}
    (begun : rules.Typed [(handlerAt, handler), (finish, middle)] start [begin] before entered)
    (bodyPlaced : bodyAt = start + rules.size begin)
    (bodyTyped : rules.Typed [] bodyAt bodyCode entered result)
    (jumpPlaced : jumpAt = bodyAt + extent rules.size bodyCode)
    (jumped : rules.Typed [(finish, middle)] jumpAt [jump] result handler)
    (handlerPlaced : handlerAt = jumpAt + rules.size jump)
    (handled : rules.Typed [] handlerAt handlerCode handler middle)
    (finished : finish = handlerAt + extent rules.size handlerCode)
    (tailTyped : rules.Typed [] finish tailCode middle after) :
    rules.Typed [] start (begin :: (bodyCode ++ jump :: (handlerCode ++ tailCode))) before after := by
  subst bodyPlaced jumpPlaced
  have front : rules.Typed [(handlerAt, handler), (finish, middle)] start
      ([begin] ++ (bodyCode ++ [jump])) before handler := by
    refine begun.append ?_
    simp only [extent_cons, extent_nil, Nat.add_zero]
    exact bodyTyped.within.append (jumped.mono (by simp))
  have covered : rules.Typed [(finish, middle)] start
      (([begin] ++ (bodyCode ++ [jump])) ++ handlerCode) before middle := by
    refine front.join handlerAt ?_ handled.within
    simp only [extent_append, extent_cons, extent_nil]
    omega
  have whole : rules.Typed [] start
      ((([begin] ++ (bodyCode ++ [jump])) ++ handlerCode) ++ tailCode) before after := by
    refine covered.join finish ?_ tailTyped.within
    simp only [extent_append, extent_cons, extent_nil]
    omega
  simpa using whole

end Structured

end Rules

end CodePush.Foundation.Assembly
