import CodePush.Reader.Statement

/-!
# Variables of Dart and locals of sources

The variables that a lowering function has bound hold the same values as their locals. Binding
one more variable under an id that is not in use keeps that.
-/

set_option autoImplicit false

namespace CodePush.Reader

open CodePush.Compiler CodePush.Foundation CodePush.Kernel

/-!
## Scopes
-/

section Scopes

variable {E : Type} {params known : List Variable} {scope : Scope E} {declared : Variable}

theorem insert_new {α : Type} {map : List (Variable × α)} (value : α)
    (fresh : declared ∉ map.map (·.1)) : insert declared value map = map ++ [(declared, value)] := by
  induction map with
  | nil => rfl
  | cons head rest ih =>
      simp only [List.map_cons, List.mem_cons, not_or] at fresh
      simp [insert, Ne.symm fresh.1, ih fresh.2]

theorem nodup_append_new {α : Type} {items : List α} {item : α} (distinct : items.Nodup)
    (fresh : item ∉ items) : (items ++ [item]).Nodup := by
  rw [List.nodup_append]
  refine ⟨distinct, List.nodup_singleton _, ?_⟩
  intro first member second other same
  rw [List.mem_singleton] at other
  exact fresh (by rwa [← other, ← same])

/-- The ids of a scope are different and below its size; its variables are among the known ones. -/
structure Scope.Sound (params known : List Variable) (scope : Scope E) : Prop where
  ids : (scope.locals.map (·.2)).Nodup
  bounded : ∀ entry ∈ scope.locals, entry.2 < scope.locals.length ∧ entry.2 < 2 ^ 63
  keys : (scope.locals.map (·.1)).Nodup
  locals : ∀ entry ∈ scope.locals, entry.1 ∈ known ∧ entry.1 ∉ params ∧
    entry.1 ∉ scope.closures.map (·.1)
  closures : ∀ entry ∈ scope.closures, entry.1 ∈ known
  params : ∀ param ∈ params, param ∈ known

theorem Scope.sound_empty : Scope.Sound params params (Scope.empty : Scope E) where
  ids := .nil
  bounded := by simp [Scope.empty]
  keys := .nil
  locals := by simp [Scope.empty]
  closures := by simp [Scope.empty]
  params := fun _ member => member

namespace Scope.Sound

theorem fresh_local (sound : scope.Sound params known) (fresh : declared ∉ known) :
    declared ∉ scope.locals.map (·.1) := by
  intro member
  obtain ⟨entry, entryMember, rfl⟩ := List.mem_map.mp member
  exact fresh (sound.locals entry entryMember).1

theorem fresh_closure (sound : scope.Sound params known) (fresh : declared ∉ known) :
    declared ∉ scope.closures.map (·.1) := by
  intro member
  obtain ⟨entry, entryMember, rfl⟩ := List.mem_map.mp member
  exact fresh (sound.closures entry entryMember)

theorem locals_bindLocal (sound : scope.Sound params known) (fresh : declared ∉ known) (id : Nat) :
    (scope.bindLocal declared id).locals = scope.locals ++ [(declared, id)] :=
  insert_new id (sound.fresh_local fresh)

theorem closures_bindClosure (sound : scope.Sound params known) (fresh : declared ∉ known)
    (function : E) :
    (scope.bindClosure declared function).closures = scope.closures ++ [(declared, function)] :=
  insert_new function (sound.fresh_closure fresh)

theorem bindLocal (sound : scope.Sound params known) (fresh : declared ∉ known) {id : Nat}
    (unused : id ∉ scope.locals.map (·.2)) (small : id ≤ scope.locals.length) (fits : id < 2 ^ 63) :
    (scope.bindLocal declared id).Sound params (declared :: known) := by
  have shape := sound.locals_bindLocal fresh id
  have unchanged : (scope.bindLocal declared id).closures = scope.closures := rfl
  constructor
  · rw [shape, List.map_append]
    exact nodup_append_new sound.ids unused
  · intro entry member
    rw [shape] at member ⊢
    rw [List.length_append, List.length_singleton]
    rcases List.mem_append.mp member with member | member
    · have bound := sound.bounded entry member
      omega
    · obtain rfl := List.mem_singleton.mp member
      exact ⟨by omega, fits⟩
  · rw [shape, List.map_append]
    exact nodup_append_new sound.keys (sound.fresh_local fresh)
  · intro entry member
    rw [shape] at member
    rw [unchanged]
    rcases List.mem_append.mp member with member | member
    · obtain ⟨isKnown, others⟩ := sound.locals entry member
      exact ⟨List.mem_cons_of_mem _ isKnown, others⟩
    · obtain rfl := List.mem_singleton.mp member
      exact ⟨List.mem_cons_self, fun param => fresh (sound.params _ param),
        sound.fresh_closure fresh⟩
  · intro entry member
    exact List.mem_cons_of_mem _ (sound.closures entry member)
  · intro param member
    exact List.mem_cons_of_mem _ (sound.params param member)

theorem bindClosure (sound : scope.Sound params known) (fresh : declared ∉ known) (function : E) :
    (scope.bindClosure declared function).Sound params (declared :: known) := by
  have shape := sound.closures_bindClosure fresh function
  have unchanged : (scope.bindClosure declared function).locals = scope.locals := rfl
  constructor
  · exact sound.ids
  · exact sound.bounded
  · exact sound.keys
  · intro entry member
    rw [unchanged] at member
    obtain ⟨isKnown, notParam, notClosure⟩ := sound.locals entry member
    refine ⟨List.mem_cons_of_mem _ isKnown, notParam, ?_⟩
    rw [shape, List.map_append, List.mem_append]
    rintro (closure | same)
    · exact notClosure closure
    · simp only [List.map_cons, List.map_nil, List.mem_singleton] at same
      exact fresh (same ▸ isKnown)
  · intro entry member
    rw [shape] at member
    rcases List.mem_append.mp member with member | member
    · exact List.mem_cons_of_mem _ (sound.closures entry member)
    · obtain rfl := List.mem_singleton.mp member
      exact List.mem_cons_self
  · intro param member
    exact List.mem_cons_of_mem _ (sound.params param member)

end Scope.Sound

/-- The loop of `_nextLocalId` from any start. -/
theorem nextLocalId_fold (locals : List (Variable × Nat)) (start : Nat) :
    let next := locals.foldl (fun next entry => if next ≤ entry.2 then entry.2 + 1 else next) start
    start ≤ next ∧ (∀ entry ∈ locals, entry.2 < next) ∧
      ∀ bound, start ≤ bound → (∀ entry ∈ locals, entry.2 < bound) → next ≤ bound := by
  induction locals generalizing start with
  | nil => simp
  | cons entry rest ih =>
      obtain ⟨above, members, least⟩ := ih (if start ≤ entry.2 then entry.2 + 1 else start)
      simp only [List.foldl_cons, List.forall_mem_cons]
      generalize List.foldl _ _ rest = next at above members least ⊢
      refine ⟨by split at above <;> omega, ⟨by split at above <;> omega, members⟩, ?_⟩
      rintro bound startBelow ⟨entryBelow, others⟩
      exact least bound (by split <;> omega) others

theorem lt_nextLocalId {locals : List (Variable × Nat)} {entry : Variable × Nat}
    (member : entry ∈ locals) : entry.2 < nextLocalId locals :=
  (nextLocalId_fold locals 0).2.1 entry member

theorem nextLocalId_le {locals : List (Variable × Nat)} {bound : Nat}
    (below : ∀ entry ∈ locals, entry.2 < bound) : nextLocalId locals ≤ bound :=
  (nextLocalId_fold locals 0).2.2 bound (Nat.zero_le _) below

theorem nextLocalId_append (locals : List (Variable × Nat)) (declared : Variable) :
    nextLocalId (locals ++ [(declared, nextLocalId locals)]) = nextLocalId locals + 1 := by
  simp [nextLocalId, List.foldl_append]

theorem localId_ok {id : Nat} {value : Int64} (made : localId id = .ok value) :
    id < 2 ^ 63 ∧ value = Int64.ofNat id := by
  unfold localId at made
  split at made
  case isTrue small =>
    cases made
    exact ⟨small, rfl⟩
  case isFalse => cases made

/-- An id that no local has, and that the invariant of the scope allows next. -/
structure Scope.Next (scope : Scope E) (id : Nat) : Prop where
  unused : id ∉ scope.locals.map (·.2)
  small : id ≤ scope.locals.length

/-- A counter of ids that has passed those in use. -/
structure Scope.Counts (scope : Scope E) (next : Nat) : Prop where
  above : ∀ entry ∈ scope.locals, entry.2 < next
  small : next ≤ scope.locals.length

theorem Scope.Counts.next {id : Nat} (counts : scope.Counts id) : scope.Next id where
  unused := by
    intro member
    obtain ⟨entry, entryMember, same⟩ := List.mem_map.mp member
    have below := counts.above entry entryMember
    omega
  small := counts.small

theorem Scope.Counts.bindLocal {next : Nat} (counts : scope.Counts next)
    (sound : scope.Sound params known) (fresh : declared ∉ known) :
    (scope.bindLocal declared next).Counts (next + 1) := by
  have shape := sound.locals_bindLocal fresh next
  constructor
  · intro entry member
    rw [shape] at member
    rcases List.mem_append.mp member with member | member
    · exact Nat.lt_succ_of_lt (counts.above entry member)
    · obtain rfl := List.mem_singleton.mp member
      exact Nat.lt_succ_self _
  · rw [shape, List.length_append, List.length_singleton]
    exact Nat.succ_le_succ counts.small

theorem Scope.Sound.counts (sound : scope.Sound params known) :
    scope.Counts (nextLocalId scope.locals) where
  above := fun _ member => lt_nextLocalId member
  small := nextLocalId_le fun entry member => (sound.bounded entry member).1

theorem Scope.Sound.length (sound : scope.Sound params known) : scope.Counts scope.locals.length where
  above := fun entry member => (sound.bounded entry member).1
  small := Nat.le_refl _

end Scopes

/-!
## Frames
-/

/-- A function that is called: its meaning in Dart, the machine that runs its source, the
arguments of the call, and which values are closures of a given function expression. -/
structure Setting (E ν ω : Type) where
  machine : Machine ν ω
  dart : Dart E ν ω
  rounds : Nat
  params : List Variable
  args : String → ν
  IsClosure : E → ν → Prop

namespace Setting

variable {E ν ω : Type} (setting : Setting E ν ω)

def exec (statement : Statement E) : Run Variable ν ω (Completion ν) :=
  Dart.exec setting.machine setting.dart setting.rounds statement

def execAll (statements : List (Statement E)) : Run Variable ν ω (Completion ν) :=
  Dart.execAll setting.machine setting.dart setting.rounds statements

def meaning (source : Expr) : Run Int64 ν ω ν :=
  Compiler.meaning setting.machine setting.args setting.rounds source

/-- The worlds are the same, locals hold what their variables do, the parameters have their
arguments, and the variables of closures hold them. -/
structure Related (scope : Scope E) (left : Frame Variable ν ω) (right : Frame Int64 ν ω) : Prop where
  world : left.world = right.world
  locals : ∀ entry ∈ scope.locals, left.vars entry.1 = right.vars (Int64.ofNat entry.2)
  params : ∀ param ∈ setting.params, left.vars param = setting.args (param.name.getD "")
  closures : ∀ entry ∈ scope.closures, setting.IsClosure entry.2 (left.vars entry.1)

/-- What the source of an expression does is what Dart does, with results related by `same`. -/
def Simulated {α β : Type} (scope : Scope E) (same : α → β → Prop) (first : Run Variable ν ω α)
    (second : Run Int64 ν ω β) : Prop :=
  Simulates (setting.Related scope) (setting.Related scope) same first second

def Translates (lower : E → Scope E → Lowering (Option Expr)) (same : ν → ν → Prop)
    (expression : E) : Prop :=
  ∀ known scope source, scope.Sound setting.params known → lower expression scope = .ok (some source) →
    setting.Simulated scope same (setting.dart.eval expression) (setting.meaning source)

variable {setting} {scope : Scope E} {params known : List Variable} {declared : Variable} {id : Nat}

theorem ofNat_ne {first second : Nat} (firstSmall : first < 2 ^ 63) (secondSmall : second < 2 ^ 63)
    (different : first ≠ second) : Int64.ofNat first ≠ Int64.ofNat second := by
  intro same
  have equal := congrArg Int64.toInt same
  rw [Int64.toInt_ofNat_of_lt firstSmall, Int64.toInt_ofNat_of_lt secondSmall] at equal
  omega

/-- The variable is declared, and the local is bound, with the same value. -/
theorem Related.bindLocal {left : Frame Variable ν ω} {right : Frame Int64 ν ω}
    (related : setting.Related scope left right) (sound : scope.Sound setting.params known)
    (fresh : declared ∉ known) (next : scope.Next id) (fits : id < 2 ^ 63) (value : ν) :
    setting.Related (scope.bindLocal declared id)
      { left with vars := Function.update left.vars declared value }
      { right with vars := Function.update right.vars (Int64.ofNat id) value } := by
  constructor
  · exact related.world
  · intro entry member
    rw [sound.locals_bindLocal fresh] at member
    rcases List.mem_append.mp member with member | member
    · have other : entry.1 ≠ declared := fun same => fresh (same ▸ (sound.locals entry member).1)
      have otherId : entry.2 ≠ id := fun same =>
        next.unused (same ▸ List.mem_map_of_mem (f := (·.2)) member)
      have otherSlot := ofNat_ne (sound.bounded entry member).2 fits otherId
      simp only [Function.update_of_ne other, Function.update_of_ne otherSlot]
      exact related.locals entry member
    · obtain rfl := List.mem_singleton.mp member
      simp
  · intro param member
    have other : param ≠ declared := fun same => fresh (same ▸ sound.params param member)
    simp only [Function.update_of_ne other]
    exact related.params param member
  · intro entry member
    have other : entry.1 ≠ declared := fun same => fresh (same ▸ sound.closures entry member)
    simp only [Function.update_of_ne other]
    exact related.closures entry member

/-- Leaving the scope of a local. -/
theorem Related.unbindLocal {left : Frame Variable ν ω} {right : Frame Int64 ν ω}
    (related : setting.Related (scope.bindLocal declared id) left right)
    (sound : scope.Sound setting.params known) (fresh : declared ∉ known) (next : scope.Next id)
    (fits : id < 2 ^ 63) (old : ν) :
    setting.Related scope left { right with vars := Function.update right.vars (Int64.ofNat id) old } := by
  constructor
  · exact related.world
  · intro entry member
    have otherId : entry.2 ≠ id := fun same =>
      next.unused (same ▸ List.mem_map_of_mem (f := (·.2)) member)
    have otherSlot := ofNat_ne (sound.bounded entry member).2 fits otherId
    simp only [Function.update_of_ne otherSlot]
    apply related.locals entry
    rw [sound.locals_bindLocal fresh]
    exact List.mem_append_left _ member
  · exact related.params
  · exact related.closures

/-- The variable is declared with a closure. -/
theorem Related.bindClosure {left : Frame Variable ν ω} {right : Frame Int64 ν ω}
    (related : setting.Related scope left right) (sound : scope.Sound setting.params known)
    (fresh : declared ∉ known) {function : E} {value : ν} (isClosure : setting.IsClosure function value) :
    setting.Related (scope.bindClosure declared function)
      { left with vars := Function.update left.vars declared value } right := by
  constructor
  · exact related.world
  · intro entry member
    have other : entry.1 ≠ declared := fun same => fresh (same ▸ (sound.locals entry member).1)
    simp only [Function.update_of_ne other]
    exact related.locals entry member
  · intro param member
    have other : param ≠ declared := fun same => fresh (same ▸ sound.params param member)
    simp only [Function.update_of_ne other]
    exact related.params param member
  · intro entry member
    rw [sound.closures_bindClosure fresh] at member
    rcases List.mem_append.mp member with member | member
    · have other : entry.1 ≠ declared := fun same => fresh (same ▸ sound.closures entry member)
      simp only [Function.update_of_ne other]
      exact related.closures entry member
    · obtain rfl := List.mem_singleton.mp member
      simpa using isClosure

theorem Related.unbindClosure {left : Frame Variable ν ω} {right : Frame Int64 ν ω} {function : E}
    (related : setting.Related (scope.bindClosure declared function) left right)
    (sound : scope.Sound setting.params known) (fresh : declared ∉ known) :
    setting.Related scope left right where
  world := related.world
  locals := related.locals
  params := related.params
  closures := fun entry member => related.closures entry (by
    rw [sound.closures_bindClosure fresh]
    exact List.mem_append_left _ member)

variable {α β : Type} {same : α → β → Prop}

/-- A declaration and a local binding. -/
theorem simulated_bindLocal {rest : Run Variable ν ω α} {body : Run Int64 ν ω β}
    (sound : scope.Sound setting.params known) (fresh : declared ∉ known) (next : scope.Next id)
    (fits : id < 2 ^ 63) (simulated : setting.Simulated (scope.bindLocal declared id) same rest body)
    (value : ν) :
    setting.Simulated scope same
      (do
        Run.write declared value
        rest)
      (Run.withVar (Int64.ofNat id) value body) := by
  intro left right related
  have bound := related.bindLocal sound fresh next fits value
  rw [Action.run_bind]
  unfold Run.withVar
  rcases simulated.ends bound with
    ⟨result, other, left', right', firstEnd, secondEnd, results, states⟩ |
      ⟨fault, left', right', firstEnd, secondEnd, states⟩
  · simp only [Run.write, firstEnd, secondEnd]
    exact ⟨results, states.unbindLocal sound fresh next fits _⟩
  · simp only [Run.write, firstEnd, secondEnd]
    exact ⟨trivial, states.unbindLocal sound fresh next fits _⟩

end Setting

end CodePush.Reader
