import CodePush.Compiler.Scopes

/-!
# Where an expression is compiled

What code means depends on the parameters, on the slots that the scopes name and on which slots are free. Every
part of the compiler leaves parameters and scopes as they were, so that each part of an expression is compiled at a
place that is known.
-/

set_option autoImplicit false

namespace CodePush.Compiler

open CodePush.Core CodePush.Bytecode CodePush.Foundation CodePush.Foundation.Action
  CodePush.Foundation.Assembly RestrictedBytecodeCompiler

/-!
## Places
-/

/-- The parameters, the slots that the scopes name, and where the free slots begin. -/
structure Place where
  params : List String
  scopes : Int64 → Option Nat
  free : Nat

namespace Place

/-- A named slot belongs to one local, and is not free. -/
structure Sound (place : Place) : Prop where
  taken : ∀ {id : Int64} {slot : Nat}, place.scopes id = some slot → slot < place.free
  apart : ∀ {id other : Int64} {slot : Nat}, place.scopes id = some slot → place.scopes other = some slot → id = other

/-- The compiler is at the place. -/
structure Here (place : Place) (now : RestrictedBytecodeCompiler) : Prop where
  params : now.params = place.params
  scopes : now.scopedLocals = place.scopes
  free : place.free ≤ now.localCount

/-- The slot is taken. -/
def above (place : Place) (slot : Nat) : Place := { place with free := slot + 1 }

/-- The slot is taken by a local. -/
def bind (place : Place) (id : Int64) (slot : Nat) : Place :=
  { place with scopes := Function.update place.scopes id (some slot), free := slot + 1 }

variable {place : Place} {slot : Nat} {now after : RestrictedBytecodeCompiler}

theorem Sound.above (sound : place.Sound) (unused : place.free ≤ slot) : (place.above slot).Sound where
  taken := fun found => Nat.lt_of_lt_of_le (sound.taken found) (Nat.le_succ_of_le unused)
  apart := sound.apart

theorem scopes_bind_self (id : Int64) : (place.bind id slot).scopes id = some slot := by
  simp [Place.bind]

theorem scopes_bind_other {id other : Int64} (different : other ≠ id) :
    (place.bind id slot).scopes other = place.scopes other := by
  simp [Place.bind, different]

theorem Sound.bind (sound : place.Sound) (unused : place.free ≤ slot) (id : Int64) : (place.bind id slot).Sound where
  taken := by
    intro other index found
    by_cases same : other = id
    · subst same
      rw [scopes_bind_self] at found
      cases found
      exact Nat.lt_succ_self slot
    · rw [scopes_bind_other same] at found
      exact Nat.lt_of_lt_of_le (sound.taken found) (Nat.le_succ_of_le unused)
  apart := by
    have older : ∀ {other : Int64} {index : Nat}, place.scopes other = some index → index ≠ slot := by
      intro other index found same
      have taken := sound.taken found
      omega
    intro first second index found found'
    by_cases same : first = id
    · by_cases same' : second = id
      · exact same.trans same'.symm
      · subst same
        rw [scopes_bind_self] at found
        rw [scopes_bind_other same'] at found'
        exact absurd (Option.some.inj found).symm (older found')
    · rw [scopes_bind_other same] at found
      by_cases same' : second = id
      · subst same'
        rw [scopes_bind_self] at found'
        exact absurd (Option.some.inj found').symm (older found)
      · rw [scopes_bind_other same'] at found'
        exact sound.apart found found'

theorem Here.lower (here : (place.above slot).Here now) (unused : place.free ≤ slot) : place.Here now :=
  ⟨here.params, here.scopes, Nat.le_trans (Nat.le_succ_of_le unused) here.free⟩

/-- A part of the compiler that has run leaves the place as it was. -/
theorem Here.stays {α : Type} {action : Compile α} [restores : Restores action] {value : α}
    (here : place.Here now) (ended : action now = (.ok value, after)) : place.Here after := by
  obtain ⟨scopes, params, slots, handsOut⟩ := restores.restored _ _ _ ended
  constructor
  · rw [params]
    exact here.params
  · rw [scopes]
    exact here.scopes
  · rw [handsOut.consecutive.2]
    exact Nat.le_trans here.free (Nat.le_add_right _ _)

theorem Here.allocated (here : place.Here now) (ended : allocateLocal now = (.ok slot, after)) :
    place.free ≤ slot ∧ (place.above slot).Here after := by
  obtain ⟨rfl, rfl⟩ := allocateLocal_ended ended
  exact ⟨here.free, here.params, here.scopes, Nat.le_refl _⟩

theorem Here.bound {id : Int64} (here : (place.above slot).Here now)
    (ended : bindLocal id (some slot) now = (.ok (), after)) : (place.bind id slot).Here after := by
  obtain rfl := bindLocal_ended ended
  exact ⟨here.params, congrArg (Function.update · id (some slot)) here.scopes, here.free⟩

theorem Here.unbound {id : Int64} (here : (place.bind id slot).Here now)
    (ended : bindLocal id (place.scopes id) now = (.ok (), after)) : (place.above slot).Here after := by
  obtain rfl := bindLocal_ended ended
  refine ⟨here.params, ?_, here.free⟩
  show Function.update now.scopedLocals id (place.scopes id) = place.scopes
  rw [here.scopes]
  show Function.update (Function.update place.scopes id (some slot)) id (place.scopes id) = place.scopes
  rw [Function.update_idem, Function.update_eq_self]

end Place

/-!
## Actions at a place

Rules about parts of the compiler are about any state that they start in. A part that is only looked at where it
starts fails elsewhere.
-/

open Classical in
/-- The action, where the compiler is at the place. -/
noncomputable def startingAt {α : Type} (place : Place) (action : Compile α) : Compile α := fun now =>
  if place.Here now then action now else (.error "", now)

/-- The actions do the same where the compiler is at the place. -/
def SameAt {α : Type} (place : Place) (first second : Compile α) : Prop :=
  ∀ now, place.Here now → first now = second now

section Actions

variable {limits : Limits} {given : Prop} {shape : Nat → Code → Prop} {α β : Type} {place : Place} {slot : Nat}
  {first second : Compile α} {next next' : α → Compile β} {now : RestrictedBytecodeCompiler}

theorem startingAt_here (here : place.Here now) : startingAt place first now = first now := if_pos here

theorem startingAt_elsewhere (elsewhere : ¬place.Here now) : startingAt place first now = (.error "", now) :=
  if_neg elsewhere

theorem SameAt.refl (action : Compile α) : SameAt place action action := fun _ _ => rfl

theorem SameAt.symm (same : SameAt place first second) : SameAt place second first :=
  fun now here => (same now here).symm

theorem SameAt.guard (action : Compile α) : SameAt place (startingAt place action) action :=
  fun _ here => startingAt_here here

/-- What follows is only looked at behind what has returned. -/
theorem bind_congr_ok (same : ∀ value after, first now = (.ok value, after) → next value after = next' value after) :
    (first >>= next) now = (first >>= next') now := by
  rw [Action.run_bind, Action.run_bind]
  rcases ended : first now with ⟨error | value, after⟩
  · rfl
  · exact same value after ended

theorem SameAt.bind [Restores first] (rest : ∀ value, SameAt place (next value) (next' value)) :
    SameAt place (first >>= next) (first >>= next') :=
  fun _ here => bind_congr_ok fun value _ ended => rest value _ (here.stays ended)

theorem SameAt.andThen {first second : Compile α} [Restores second]
    (same : SameAt place first second) (rest : ∀ value, SameAt place (next value) (next' value)) :
    SameAt place (first >>= next) (second >>= next') := by
  intro now here
  have front : (first >>= next) now = (second >>= next) now := by
    rw [Action.run_bind, Action.run_bind, same now here]
  rw [front]
  exact SameAt.bind rest now here

theorem SameAt.guardBind [Restores first]
    (rest : ∀ value, SameAt place (next value) (next' value)) :
    SameAt place (startingAt place first >>= next) (first >>= next') := .andThen (.guard first) rest

theorem SameAt.emits {first second : Compile Unit} (same : SameAt place first second)
    (emits : Emits limits given first shape) : Emits limits given (startingAt place second) shape := by
  intro now ready known
  by_cases here : place.Here now
  · exact (emits now ready known).congr ((startingAt_here here).trans (same now here).symm)
  · unfold Ensures
    rw [startingAt_elsewhere here]
    trivial

theorem Emits.startingAt {action : Compile Unit} (emits : Emits limits given action shape) (place : Place) :
    Emits limits given (startingAt place action) shape := SameAt.emits (SameAt.refl action) emits

/-- Only the smallest of the free slots counts. -/
theorem Emits.higher {action : Compile Unit} (emits : Emits limits given (Compiler.startingAt place action) shape)
    (unused : place.free ≤ slot) : Emits limits given (Compiler.startingAt (place.above slot) action) shape :=
  SameAt.emits (fun _ here => startingAt_here (here.lower unused)) emits

/-- One part after another. -/
theorem emitsAt_andThen {first second : Compile Unit} [Restores first]
    {shape₁ shape₂ : Nat → Code → Prop} (left : Emits limits given (startingAt place first) shape₁)
    (right : Emits limits given (startingAt place second) shape₂)
    (join : ∀ pos head tail, shape₁ pos head → shape₂ (pos + extent Instr.size head) tail →
      shape pos (head ++ tail)) :
    Emits limits given (startingAt place (first >>= fun _ => second)) shape :=
  SameAt.emits (.guardBind fun _ => .guard second) (left.andThen right join)

/-- A part without code, before what follows it. -/
theorem emitsAt_before {action : Compile α} {next : α → Compile Unit} {ok facts : α → Prop} [Restores action] (prepares : Prepares limits given action ok facts)
    (rest : ∀ value, ok value → Emits limits (given ∧ facts value) (startingAt place (next value)) shape) :
    Emits limits given (startingAt place (action >>= next)) shape :=
  SameAt.emits (.bind fun value => .guard (next value)) (prepares.before rest)

/-!
### Scopes and slots
-/

theorem SameAt.allocate {next next' : Nat → Compile β}
    (rest : ∀ slot, place.free ≤ slot → SameAt (place.above slot) (next slot) (next' slot)) :
    SameAt place (allocateLocal >>= next) (allocateLocal >>= next') := by
  intro now here
  apply bind_congr_ok
  intro slot after ended
  obtain ⟨unused, here⟩ := here.allocated ended
  exact rest slot unused after here

theorem SameAt.scopedLocal {next next' : Option Nat → Compile β} (id : Int64)
    (rest : SameAt place (next (place.scopes id)) (next' (place.scopes id))) :
    SameAt place (scopedLocal id >>= next) (scopedLocal id >>= next') := by
  intro now here
  apply bind_congr_ok
  intro previous after ended
  obtain ⟨rfl, rfl⟩ := scopedLocal_ended ended
  rw [here.scopes]
  exact rest _ here

theorem SameAt.bindLocal {next next' : Unit → Compile β} (id : Int64)
    (rest : ∀ value, SameAt (place.bind id slot) (next value) (next' value)) :
    SameAt (place.above slot) (bindLocal id (some slot) >>= next) (bindLocal id (some slot) >>= next') :=
  fun _ here => bind_congr_ok fun value _ ended => rest value _ (here.bound ended)

theorem SameAt.unbindLocal {next next' : Unit → Compile β} (id : Int64)
    (rest : ∀ value, SameAt (place.above slot) (next value) (next' value)) :
    SameAt (place.bind id slot) (Compiler.bindLocal id (place.scopes id) >>= next)
      (Compiler.bindLocal id (place.scopes id) >>= next') :=
  fun _ here => bind_congr_ok fun value _ ended => rest value _ (here.unbound ended)

/-- A new slot is one of the free ones. -/
theorem emitsAt_allocate {next : Nat → Compile Unit}
    (rest : ∀ slot, place.free ≤ slot → slot < 256 →
      Emits limits (given ∧ slot < limits.locals) (startingAt (place.above slot) (next slot)) shape) :
    Emits limits given (startingAt place (allocateLocal >>= next)) shape := by
  have whole : Emits limits given (allocateLocal >>= fun slot =>
      if place.free ≤ slot then startingAt (place.above slot) (next slot) else exit "") shape := by
    apply prepares_allocateLocal.before
    intro slot small
    split
    case isTrue unused => exact rest slot unused small
    case isFalse => exact emits_exit
  apply SameAt.emits _ whole
  apply SameAt.allocate
  intro slot unused
  rw [if_pos unused]
  exact .guard (next slot)

/-- A local is found where the scopes have it. -/
theorem emitsAt_scopedLocal {next : Option Nat → Compile Unit} (id : Int64)
    (rest : (∀ index, place.scopes id = some index → index < 256) →
      Emits limits (given ∧ SlotWithin limits (place.scopes id)) (startingAt place (next (place.scopes id))) shape) :
    Emits limits given (startingAt place (scopedLocal id >>= next)) shape := by
  have whole : Emits limits given (scopedLocal id >>= fun slot =>
      if slot = place.scopes id then startingAt place (next slot) else exit "") shape := by
    apply (prepares_scopedLocal id).before
    intro slot small
    split
    case isTrue same =>
      subst same
      exact rest small
    case isFalse => exact emits_exit
  apply SameAt.emits _ whole
  apply SameAt.scopedLocal
  rw [if_pos rfl]
  exact .guard _

/-- From here on the slot belongs to the local. -/
theorem emitsAt_bindLocal {next : Unit → Compile Unit} (small : slot < 256) (inside : given → slot < limits.locals)
    (id : Int64) (rest : Emits limits given (startingAt (place.bind id slot) (next ())) shape) :
    Emits limits given (startingAt (place.above slot) (bindLocal id (some slot) >>= next)) shape := by
  have bound : Prepares limits given (bindLocal id (some slot)) (fun _ => True) (fun _ => given) := by
    apply prepares_bindLocal
    · intro index same
      cases same
      exact small
    · intro holds index same
      cases same
      exact inside holds
  have whole : Emits limits given (bindLocal id (some slot) >>= fun value =>
      startingAt (place.bind id slot) (next value)) shape :=
    bound.before fun _ _ => rest.knowing And.left
  exact SameAt.emits (.bindLocal id fun value => .guard (next value)) whole

/-- From here on the local is where it was before. -/
theorem emitsAt_unbindLocal {next : Unit → Compile Unit} (id : Int64)
    (small : ∀ index, place.scopes id = some index → index < 256)
    (inside : given → SlotWithin limits (place.scopes id))
    (rest : Emits limits given (startingAt (place.above slot) (next ())) shape) :
    Emits limits given (startingAt (place.bind id slot) (bindLocal id (place.scopes id) >>= next)) shape := by
  have whole : Emits limits given (bindLocal id (place.scopes id) >>= fun value =>
      startingAt (place.above slot) (next value)) shape :=
    (prepares_bindLocal id small inside).before fun _ _ => rest.knowing And.left
  exact SameAt.emits (.unbindLocal id fun value => .guard (next value)) whole

/-- The body is compiled where the slot belongs to the local. -/
theorem emitsAt_withLocal {body : Compile Unit} (small : slot < 256) (inside : given → slot < limits.locals)
    (id : Int64) (emits : Emits limits given (startingAt (place.bind id slot) body) shape) :
    Emits limits given (startingAt (place.above slot) (withLocal id slot body)) shape := by
  apply SameAt.emits _ (emits.bound small inside id)
  apply SameAt.scopedLocal
  apply SameAt.bindLocal
  intro _
  exact fun now here => by rw [Action.run_bind, Action.run_bind, startingAt_here here]

end Actions

end CodePush.Compiler
