import CodePush.Foundation.Except
import CodePush.Linker.Inventory

/-!
# Which changes the linker sees

A function is left out of a patch when its hashes are those of the release. They cover the
signature and the printed body, with its white space collapsed, so that of a body whatever is
not printed, or only as white space, is lost; the default values of parameters, the async
marker and the initializers of fields are in none of them.
-/

set_option autoImplicit false

namespace CodePush.Linker

open CodePush.Core CodePush.Compiler CodePush.Foundation

/-!
## Maps
-/

section Maps

variable {α : Type} {key : String} {value : α} {map extended : List (String × α)}

theorem mem_insertNew (inserted : insertNew key value map = some extended) {entry : String × α} :
    entry ∈ extended ↔ entry = (key, value) ∨ entry ∈ map := by
  induction map generalizing extended with
  | nil =>
      cases inserted
      simp
  | cons head rest ih =>
      obtain ⟨other, first⟩ := head
      unfold insertNew at inserted
      split at inserted
      · cases inserted
        simp
      · split at inserted
        · cases inserted
        · obtain ⟨later, laterInserted, rfl⟩ := Option.map_eq_some_iff.mp inserted
          rw [List.mem_cons, ih laterInserted, List.mem_cons]
          tauto

/-- The keys of a map are in order, hence each occurs once. -/
def Sorted (map : List (String × α)) : Prop := map.Pairwise fun first second => first.1 < second.1

theorem sorted_insertNew (inserted : insertNew key value map = some extended) (sorted : Sorted map) :
    Sorted extended := by
  induction map generalizing extended with
  | nil =>
      cases inserted
      exact List.pairwise_singleton _ _
  | cons head rest ih =>
      obtain ⟨other, first⟩ := head
      obtain ⟨above, sortedRest⟩ := List.pairwise_cons.mp sorted
      unfold insertNew at inserted
      split at inserted
      case isTrue before =>
        cases inserted
        refine List.pairwise_cons.mpr ⟨?_, sorted⟩
        intro entry member
        rcases List.mem_cons.mp member with rfl | member
        · exact before
        · exact before.trans (above entry member)
      case isFalse notBefore =>
        split at inserted
        · cases inserted
        case isFalse different =>
          obtain ⟨later, laterInserted, rfl⟩ := Option.map_eq_some_iff.mp inserted
          refine List.pairwise_cons.mpr ⟨?_, ih laterInserted sortedRest⟩
          intro entry member
          rcases (mem_insertNew laterInserted).mp member with rfl | member
          · exact lt_of_le_of_ne (not_lt.mp notBefore) (Ne.symm different)
          · exact above entry member

theorem Sorted.unique (sorted : Sorted map) {other : α} (first : (key, value) ∈ map)
    (second : (key, other) ∈ map) : value = other := by
  induction map with
  | nil => cases first
  | cons head rest ih =>
      obtain ⟨above, sortedRest⟩ := List.pairwise_cons.mp sorted
      cases first with
      | head =>
          cases second with
          | head => rfl
          | tail _ second => exact absurd (above _ second) (lt_irrefl _)
      | tail _ first =>
          cases second with
          | head => exact absurd (above _ first) (lt_irrefl _)
          | tail _ second => exact ih sortedRest first second

theorem mem_of_lookup (found : map.lookup key = some value) : (key, value) ∈ map := by
  obtain ⟨before, after, rfl, _⟩ := List.lookup_eq_some_iff.mp found
  exact List.mem_append_right before List.mem_cons_self

theorem Sorted.lookup_iff (sorted : Sorted map) :
    map.lookup key = some value ↔ (key, value) ∈ map := by
  constructor
  · exact mem_of_lookup
  · intro member
    cases found : map.lookup key with
    | none =>
        rw [List.lookup_eq_none_iff] at found
        have different := found (key, value) member
        simp at different
    | some other => rw [sorted.unique (mem_of_lookup found) member]

theorem insertAll_spec {kind : String} {id : α → String} {items : List α}
    (inserted : insertAll kind id map items = .ok extended) (sorted : Sorted map) :
    Sorted extended ∧
      ∀ entry, entry ∈ extended ↔ entry ∈ map ∨ ∃ item ∈ items, entry = (id item, item) := by
  induction items generalizing map with
  | nil =>
      cases inserted
      simp [sorted]
  | cons item items ih =>
      unfold insertAll at inserted
      split at inserted
      · cases inserted
      case h_2 next added =>
        obtain ⟨sortedAll, members⟩ := ih inserted (sorted_insertNew added sorted)
        refine ⟨sortedAll, fun entry => ?_⟩
        rw [members, mem_insertNew added]
        simp only [List.mem_cons, exists_eq_or_imp]
        tauto

/-- What a map that is made of a list finds. -/
theorem lookup_insertAll {kind : String} {id : α → String} {items : List α}
    (inserted : insertAll kind id [] items = .ok map) :
    map.lookup key = some value ↔ value ∈ items ∧ id value = key := by
  obtain ⟨sorted, members⟩ := insertAll_spec inserted .nil
  rw [sorted.lookup_iff, members]
  constructor
  · rintro (none | ⟨item, member, same⟩)
    · cases none
    · cases same
      exact ⟨member, rfl⟩
  · rintro ⟨member, rfl⟩
    exact .inr ⟨value, member, rfl⟩

theorem mem_insertAll {kind : String} {id : α → String} {items : List α}
    (inserted : insertAll kind id [] items = .ok map) :
    (key, value) ∈ map ↔ value ∈ items ∧ id value = key := by
  rw [← (insertAll_spec inserted .nil).1.lookup_iff, lookup_insertAll inserted]

/-- No class or field is rejected iff those in both versions have the same hash. -/
theorem changedEntries_eq_nil_iff {kind otherKind : String} {id hash : α → String}
    {reason : RejectReason} {message : String} {releaseItems patchItems : List α}
    {release patch : List (String × α)} (old : insertAll kind id [] releaseItems = .ok release)
    (new : insertAll otherKind id [] patchItems = .ok patch) :
    changedEntries hash reason message release patch = [] ↔
      ∀ old ∈ releaseItems, ∀ new ∈ patchItems, id old = id new → hash old = hash new := by
  unfold changedEntries
  rw [List.filterMap_eq_nil_iff]
  constructor
  · intro quiet old oldMember new newMember same
    have kept := quiet (id new, new) ((mem_insertAll ‹_›).mpr ⟨newMember, rfl⟩)
    have found : release.lookup (id new) = some old :=
      (lookup_insertAll ‹_›).mpr ⟨oldMember, same⟩
    by_contra different
    simp [found, different] at kept
  · rintro same ⟨key, entry⟩ member
    obtain ⟨newMember, rfl⟩ := (mem_insertAll ‹_›).mp member
    cases found : release.lookup (id entry) with
    | none => simp [found]
    | some other =>
        obtain ⟨oldMember, sameId⟩ := (lookup_insertAll old).mp found
        simp [found, same other oldMember entry newMember sameId]

end Maps

/-!
## Plans
-/

section Plans

variable {releaseFunctions : List (String × FunctionInventoryEntry)} {plan : LinkerPlan}
  {function : FunctionInventoryEntry}

/-- The function is in the release, with the same hashes. -/
def Unmodified (releaseFunctions : List (String × FunctionInventoryEntry))
    (function : FunctionInventoryEntry) : Prop :=
  ∃ old, releaseFunctions.lookup function.functionId = some old ∧
    old.signatureHash = function.signatureHash ∧ old.bodyHash = function.bodyHash

/-- Neither a rejection nor a function to interpret. -/
def LinkerPlan.Quiet (plan : LinkerPlan) : Prop := plan.reject = [] ∧ plan.interpret = []

theorem planFunction_cases (releaseFunctions : List (String × FunctionInventoryEntry))
    (plan : LinkerPlan) (function : FunctionInventoryEntry) :
    (Unmodified releaseFunctions function ∧
      planFunction releaseFunctions plan function =
        { plan with unchanged := plan.unchanged ++ [function.decision] }) ∨
    (¬ Unmodified releaseFunctions function ∧
      (planFunction releaseFunctions plan function).unchanged = plan.unchanged ∧
      ¬ (planFunction releaseFunctions plan function).Quiet) := by
  unfold planFunction Unmodified LinkerPlan.Quiet
  cases releaseFunctions.lookup function.functionId with
  | none => simp
  | some old =>
      by_cases sameSignature : old.signatureHash = function.signatureHash
      · by_cases sameBody : old.bodyHash = function.bodyHash
        · simp [sameSignature, sameBody]
        · cases function.unsupportedReasons with
          | nil =>
              cases function.bytecodeSource with
              | none => simp [sameSignature, sameBody]
              | some source => simp [sameSignature, sameBody]
          | cons reason reasons => simp [sameSignature, sameBody]
      · simp [sameSignature]

theorem planFunctions_quiet_iff (functions : List FunctionInventoryEntry) :
    (functions.foldl (planFunction releaseFunctions) plan).Quiet ↔
      plan.Quiet ∧ ∀ function ∈ functions, Unmodified releaseFunctions function := by
  induction functions generalizing plan with
  | nil => simp
  | cons function functions ih =>
      rw [List.foldl_cons, ih, List.forall_mem_cons]
      rcases planFunction_cases releaseFunctions plan function with
        ⟨unmodified, next⟩ | ⟨modified, _, loud⟩
      · simp [next, unmodified, LinkerPlan.Quiet]
      · simp [modified, loud]

theorem mem_unchanged_iff (functions : List FunctionInventoryEntry) {decision : FunctionDecision} :
    decision ∈ (functions.foldl (planFunction releaseFunctions) plan).unchanged ↔
      decision ∈ plan.unchanged ∨
        ∃ function ∈ functions, Unmodified releaseFunctions function ∧ function.decision = decision := by
  induction functions generalizing plan with
  | nil => simp
  | cons function functions ih =>
      rw [List.foldl_cons, ih]
      rcases planFunction_cases releaseFunctions plan function with
        ⟨unmodified, next⟩ | ⟨modified, same, _⟩
      · simp [next, unmodified, or_assoc, eq_comm]
      · simp [modified, same]

/-- What a plan says about two inventories. -/
structure PlanSpec (release patch : KernelInventory) (plan : LinkerPlan) : Prop where
  unchanged : ∀ decision, decision ∈ plan.unchanged ↔
    ∃ new ∈ patch.functions, new.decision = decision ∧
      ∃ old ∈ release.functions, old.functionId = new.functionId ∧
        old.signatureHash = new.signatureHash ∧ old.bodyHash = new.bodyHash
  quiet : plan.Quiet ↔
    (∀ old ∈ release.classes, ∀ new ∈ patch.classes,
      old.classId = new.classId → old.shapeHash = new.shapeHash) ∧
    (∀ old ∈ release.topLevelFields, ∀ new ∈ patch.topLevelFields,
      old.fieldId = new.fieldId → old.signatureHash = new.signatureHash) ∧
    ∀ new ∈ patch.functions, ∃ old ∈ release.functions, old.functionId = new.functionId ∧
      old.signatureHash = new.signatureHash ∧ old.bodyHash = new.bodyHash

theorem unmodified_iff {release : KernelInventory}
    (mapped : release.functionMap = .ok releaseFunctions) :
    Unmodified releaseFunctions function ↔
      ∃ old ∈ release.functions, old.functionId = function.functionId ∧
        old.signatureHash = function.signatureHash ∧ old.bodyHash = function.bodyHash := by
  unfold Unmodified
  simp only [lookup_insertAll mapped, and_assoc]

theorem planBytecodeLink_spec {release patch : KernelInventory}
    (planned : planBytecodeLink release patch = .ok plan) : PlanSpec release patch plan := by
  unfold planBytecodeLink at planned
  obtain ⟨_, _, planned⟩ := except_bind_eq_ok.mp planned
  obtain ⟨_, _, planned⟩ := except_bind_eq_ok.mp planned
  obtain ⟨releaseFunctions, functionsMapped, planned⟩ := except_bind_eq_ok.mp planned
  obtain ⟨releaseClasses, oldClasses, planned⟩ := except_bind_eq_ok.mp planned
  obtain ⟨patchClasses, newClasses, planned⟩ := except_bind_eq_ok.mp planned
  obtain ⟨releaseFields, oldFields, planned⟩ := except_bind_eq_ok.mp planned
  obtain ⟨patchFields, newFields, planned⟩ := except_bind_eq_ok.mp planned
  cases planned
  constructor
  · intro decision
    rw [mem_unchanged_iff]
    simp only [List.not_mem_nil, false_or, unmodified_iff functionsMapped]
    constructor
    · rintro ⟨new, member, unmodified, same⟩
      exact ⟨new, member, same, unmodified⟩
    · rintro ⟨new, member, same, unmodified⟩
      exact ⟨new, member, unmodified, same⟩
  · rw [planFunctions_quiet_iff]
    simp only [unmodified_iff functionsMapped, LinkerPlan.Quiet, List.append_eq_nil_iff, and_true,
      changedEntries_eq_nil_iff oldClasses newClasses, changedEntries_eq_nil_iff oldFields newFields,
      and_assoc]

end Plans

/-!
## Versions
-/

section Agreement

variable {ν : Type}

/-- The default values of the positional and of the named parameters. -/
def FunctionNode.defaultValues (function : FunctionNode ν) : List (Option ν) × List (Option ν) :=
  (function.positionalParameters.map (·.initializer), function.namedParameters.map (·.initializer))

/-- Two versions of a function do the same. -/
structure Agree (old new : Declared ν) : Prop where
  body : old.function.body = new.function.body
  initializers : old.initializers = new.initializers
  defaultValues : old.function.defaultValues = new.function.defaultValues
  asyncMarker : old.function.asyncMarker = new.function.asyncMarker

/-- The fields of both versions have the same initializers. -/
structure InitializersAgree (release patch : Version ν) : Prop where
  topLevel : ∀ old ∈ release.fields, ∀ new ∈ patch.fields, old.libraryUri = new.libraryUri →
    old.field.name = new.field.name → old.field.initializer = new.field.initializer
  instanceFields : ∀ old ∈ release.classes, ∀ new ∈ patch.classes,
    old.libraryUri = new.libraryUri → old.body.name = new.body.name →
    ∀ oldField ∈ old.body.fields, ∀ newField ∈ new.body.fields,
      oldField.isStatic = false → newField.isStatic = false → oldField.name = newField.name →
      oldField.initializer = newField.initializer

/-- A function that the plan leaves out of the patch is the one of the release, and a plan
that reports nothing is made for versions that differ in no function and no field. -/
structure ChangesKept (release patch : Version ν) (plan : LinkerPlan) : Prop where
  unchanged : ∀ new ∈ patch.declared,
    (∃ decision ∈ plan.unchanged, decision.functionId = hash new.idText) →
    ∃ old ∈ release.declared, old.idText = new.idText ∧ Agree old new
  quiet : plan.Quiet →
    (∀ new ∈ patch.declared, ∃ old ∈ release.declared, old.idText = new.idText ∧ Agree old new) ∧
    InitializersAgree release patch

/-- The texts that the hashes of a function are made of. -/
structure SameTexts [Printer ν] (old new : Declared ν) : Prop where
  id : old.idText = new.idText
  signature : signature old.function = signature new.function
  body : old.bodyText = new.bodyText

/-- No hash of the patch is news. -/
structure LooksUnchanged [Printer ν] (release patch : Version ν) : Prop where
  classes : ∀ old ∈ release.classes, ∀ new ∈ patch.classes, old.idText = new.idText →
    old.shape = new.shape
  fields : ∀ old ∈ release.fields, ∀ new ∈ patch.fields, old.idText = new.idText →
    old.signature = new.signature
  functions : ∀ new ∈ patch.declared, ∃ old ∈ release.declared, SameTexts old new

/-- What differs shows in a text that is hashed. -/
structure NoHiddenChange [Printer ν] (release patch : Version ν) : Prop where
  functions : ∀ old ∈ release.declared, ∀ new ∈ patch.declared, SameTexts old new → Agree old new
  fields : LooksUnchanged release patch → InitializersAgree release patch

/-- The hash tells the texts of both versions apart. -/
def CollisionFree [Printer ν] (release patch : Version ν) : Prop :=
  ∀ first ∈ release.texts ++ patch.texts, ∀ second ∈ release.texts ++ patch.texts,
    hash first = hash second → first = second

end Agreement

theorem validateFunctions_nodup {seen : List String} {functions : List FunctionInventoryEntry}
    (valid : validateFunctions seen functions = .ok ()) :
    (functions.map (·.functionId)).Nodup ∧ ∀ function ∈ functions, function.functionId ∉ seen := by
  induction functions generalizing seen with
  | nil => simp
  | cons function functions ih =>
      unfold validateFunctions at valid
      split at valid
      · cases valid
      · split at valid
        · cases valid
        case isFalse fresh =>
          obtain ⟨distinct, others⟩ := ih valid
          simp only [List.mem_cons, not_or] at others
          constructor
          · rw [List.map_cons, List.nodup_cons]
            refine ⟨?_, distinct⟩
            intro member
            obtain ⟨other, otherMember, same⟩ := List.mem_map.mp member
            exact (others other otherMember).1 same
          · intro other member
            rcases List.mem_cons.mp member with rfl | member
            · exact fresh
            · exact (others other member).2

section Versions

variable {ν : Type} [Printer ν] {releaseLowering patchLowering : Lowering ν}
  {release patch : Version ν} {plan : LinkerPlan}

/-- The functions of a version have different ids. -/
theorem declared_unique {lowering : Lowering ν} {version : Version ν}
    (valid : (version.inventory lowering).validate = .ok ()) {first second : Declared ν}
    (firstMember : first ∈ version.declared) (secondMember : second ∈ version.declared)
    (same : hash first.idText = hash second.idText) : first = second := by
  have distinct := (validateFunctions_nodup (except_guard_eq_ok.mp valid).2).1
  rw [Version.inventory, List.map_map] at distinct
  exact List.inj_on_of_nodup_map distinct firstMember secondMember same

theorem planned_valid {oldInventory newInventory : KernelInventory}
    (planned : planBytecodeLink oldInventory newInventory = .ok plan) :
    oldInventory.validate = .ok () ∧ newInventory.validate = .ok () := by
  unfold planBytecodeLink at planned
  obtain ⟨_, oldValid, planned⟩ := except_bind_eq_ok.mp planned
  obtain ⟨_, newValid, _⟩ := except_bind_eq_ok.mp planned
  exact ⟨oldValid, newValid⟩

theorem hash_eq_iff (collisionFree : CollisionFree release patch) {old new : String}
    (oldMember : old ∈ release.texts) (newMember : new ∈ patch.texts) :
    hash old = hash new ↔ old = new :=
  ⟨collisionFree old (List.mem_append_left _ oldMember) new (List.mem_append_right _ newMember),
    fun same => by rw [same]⟩

theorem mem_texts_of_declared {version : Version ν} {declared : Declared ν}
    (member : declared ∈ version.declared) :
    declared.idText ∈ version.texts ∧ signature declared.function ∈ version.texts ∧
      declared.bodyText ∈ version.texts := by
  unfold Version.texts
  simp only [List.mem_append, List.mem_flatMap]
  refine ⟨.inl ⟨declared, member, ?_⟩, .inl ⟨declared, member, ?_⟩, .inl ⟨declared, member, ?_⟩⟩
  all_goals simp

theorem mem_texts_of_class {version : Version ν} {declared : DeclaredClass ν}
    (member : declared ∈ version.classes) :
    declared.idText ∈ version.texts ∧ declared.shape ∈ version.texts := by
  unfold Version.texts
  simp only [List.mem_append, List.mem_flatMap]
  refine ⟨.inr (.inl ⟨declared, member, ?_⟩), .inr (.inl ⟨declared, member, ?_⟩)⟩
  all_goals simp

theorem mem_texts_of_field {version : Version ν} {declared : DeclaredField ν}
    (member : declared ∈ version.fields) :
    declared.idText ∈ version.texts ∧ declared.signature ∈ version.texts := by
  unfold Version.texts
  simp only [List.mem_append, List.mem_flatMap]
  refine ⟨.inr (.inr ⟨declared, member, ?_⟩), .inr (.inr ⟨declared, member, ?_⟩)⟩
  all_goals simp

theorem entry_same_iff (collisionFree : CollisionFree release patch) {old new : Declared ν}
    (oldMember : old ∈ release.declared) (newMember : new ∈ patch.declared) :
    ((old.entry releaseLowering).functionId = (new.entry patchLowering).functionId ∧
      (old.entry releaseLowering).signatureHash = (new.entry patchLowering).signatureHash ∧
      (old.entry releaseLowering).bodyHash = (new.entry patchLowering).bodyHash) ↔
    SameTexts old new := by
  obtain ⟨oldId, oldSignature, oldBody⟩ := mem_texts_of_declared oldMember
  obtain ⟨newId, newSignature, newBody⟩ := mem_texts_of_declared newMember
  simp only [Declared.entry, hash_eq_iff collisionFree oldId newId,
    hash_eq_iff collisionFree oldSignature newSignature, hash_eq_iff collisionFree oldBody newBody]
  exact ⟨fun ⟨id, signature, body⟩ => ⟨id, signature, body⟩,
    fun same => ⟨same.id, same.signature, same.body⟩⟩

/-- The functions that a plan calls unchanged. -/
theorem unchanged_iff (collisionFree : CollisionFree release patch)
    (planned : planBytecodeLink (release.inventory releaseLowering)
      (patch.inventory patchLowering) = .ok plan)
    {new : Declared ν} (newMember : new ∈ patch.declared) :
    (∃ decision ∈ plan.unchanged, decision.functionId = hash new.idText) ↔
      ∃ old ∈ release.declared, SameTexts old new := by
  have spec := planBytecodeLink_spec planned
  constructor
  · rintro ⟨decision, member, same⟩
    obtain ⟨entry, entryMember, rfl, oldEntry, oldEntryMember, hashes⟩ := (spec.unchanged _).mp member
    obtain ⟨other, otherMember, rfl⟩ := List.mem_map.mp entryMember
    obtain ⟨old, oldMember, rfl⟩ := List.mem_map.mp oldEntryMember
    -- the ids of the patch are checked too, so the decision is about `new`
    obtain rfl := declared_unique (planned_valid planned).2 otherMember newMember same
    exact ⟨old, oldMember, (entry_same_iff collisionFree oldMember newMember).mp hashes⟩
  · rintro ⟨old, oldMember, same⟩
    refine ⟨(new.entry patchLowering).decision, (spec.unchanged _).mpr ?_, rfl⟩
    exact ⟨new.entry patchLowering, List.mem_map_of_mem newMember, rfl,
      old.entry releaseLowering, List.mem_map_of_mem oldMember,
      (entry_same_iff collisionFree oldMember newMember).mpr same⟩

theorem class_same_iff (collisionFree : CollisionFree release patch) {old new : DeclaredClass ν}
    (oldMember : old ∈ release.classes) (newMember : new ∈ patch.classes) :
    (old.entry.classId = new.entry.classId → old.entry.shapeHash = new.entry.shapeHash) ↔
      (old.idText = new.idText → old.shape = new.shape) := by
  obtain ⟨oldId, oldShape⟩ := mem_texts_of_class oldMember
  obtain ⟨newId, newShape⟩ := mem_texts_of_class newMember
  simp only [DeclaredClass.entry, hash_eq_iff collisionFree oldId newId,
    hash_eq_iff collisionFree oldShape newShape]

theorem field_same_iff (collisionFree : CollisionFree release patch) {old new : DeclaredField ν}
    (oldMember : old ∈ release.fields) (newMember : new ∈ patch.fields) :
    (old.entry.fieldId = new.entry.fieldId → old.entry.signatureHash = new.entry.signatureHash) ↔
      (old.idText = new.idText → old.signature = new.signature) := by
  obtain ⟨oldId, oldSignature⟩ := mem_texts_of_field oldMember
  obtain ⟨newId, newSignature⟩ := mem_texts_of_field newMember
  simp only [DeclaredField.entry, hash_eq_iff collisionFree oldId newId,
    hash_eq_iff collisionFree oldSignature newSignature]

theorem quiet_iff (collisionFree : CollisionFree release patch)
    (planned : planBytecodeLink (release.inventory releaseLowering)
      (patch.inventory patchLowering) = .ok plan) :
    plan.Quiet ↔ LooksUnchanged release patch := by
  rw [(planBytecodeLink_spec planned).quiet]
  simp only [Version.inventory, List.forall_mem_map]
  constructor
  · rintro ⟨classes, fields, functions⟩
    constructor
    · intro old oldMember new newMember
      exact (class_same_iff collisionFree oldMember newMember).mp (classes old oldMember new newMember)
    · intro old oldMember new newMember
      exact (field_same_iff collisionFree oldMember newMember).mp (fields old oldMember new newMember)
    · intro new newMember
      obtain ⟨entry, entryMember, hashes⟩ := functions new newMember
      obtain ⟨old, oldMember, rfl⟩ := List.mem_map.mp entryMember
      exact ⟨old, oldMember, (entry_same_iff collisionFree oldMember newMember).mp hashes⟩
  · intro looksUnchanged
    refine ⟨?_, ?_, ?_⟩
    · intro old oldMember new newMember
      apply (class_same_iff collisionFree oldMember newMember).mpr
      exact looksUnchanged.classes old oldMember new newMember
    · intro old oldMember new newMember
      apply (field_same_iff collisionFree oldMember newMember).mpr
      exact looksUnchanged.fields old oldMember new newMember
    · intro new newMember
      obtain ⟨old, oldMember, same⟩ := looksUnchanged.functions new newMember
      exact ⟨old.entry releaseLowering, List.mem_map_of_mem oldMember,
        (entry_same_iff collisionFree oldMember newMember).mpr same⟩

theorem changes_kept_iff (collisionFree : CollisionFree release patch)
    (planned : planBytecodeLink (release.inventory releaseLowering)
      (patch.inventory patchLowering) = .ok plan) :
    ChangesKept release patch plan ↔ NoHiddenChange release patch := by
  constructor
  · intro kept
    constructor
    · intro old oldMember new newMember same
      have unchanged := (unchanged_iff collisionFree planned newMember).mpr ⟨old, oldMember, same⟩
      obtain ⟨other, otherMember, otherId, agree⟩ := kept.unchanged new newMember unchanged
      rw [declared_unique (planned_valid planned).1 oldMember otherMember
        (congrArg hash (same.id.trans otherId.symm))]
      exact agree
    · intro looksUnchanged
      exact (kept.quiet ((quiet_iff collisionFree planned).mpr looksUnchanged)).2
  · intro visible
    have agreed : ∀ new ∈ patch.declared, (∃ old ∈ release.declared, SameTexts old new) →
        ∃ old ∈ release.declared, old.idText = new.idText ∧ Agree old new := by
      rintro new newMember ⟨old, oldMember, same⟩
      exact ⟨old, oldMember, same.id, visible.functions old oldMember new newMember same⟩
    constructor
    · intro new newMember unchanged
      exact agreed new newMember ((unchanged_iff collisionFree planned newMember).mp unchanged)
    · intro quiet
      have looksUnchanged := (quiet_iff collisionFree planned).mp quiet
      exact ⟨fun new newMember => agreed new newMember (looksUnchanged.functions new newMember),
        visible.fields looksUnchanged⟩

end Versions

/-- A node that is known by what is written for it. -/
structure Written where
  text : String
  deriving Repr, DecidableEq

instance : Printer Written where
  write := Written.text

/-- One function with an optional parameter. -/
def stepVersion (defaultValue body : String) : Version Written :=
  [{ uri := "package:app/main.dart"
     classes := []
     procedures :=
       [{ name := "step"
          kind := "ProcedureKind.Method"
          isStatic := true
          isExtensionMember := false
          isExtensionTypeMember := false
          function :=
            { returnType := "int"
              requiredParameterCount := 0
              typeParameters := []
              positionalParameters := [⟨"by", "int", false, some ⟨defaultValue⟩⟩]
              namedParameters := []
              body := some ⟨body⟩
              asyncMarker := .sync }
          location := "main.dart:1" }]
     fields := [] }]

def plainLowering : Lowering Written where
  bytecodeSource := fun _ _ _ => some (.map [])
  unsupportedReasons := fun _ _ _ => []

/-- A new body is interpreted, with whatever else changed in the function. -/
theorem new_body_kept :
    ChangesKept (stepVersion "1" "return by;") (stepVersion "2" "return by + by;")
      { unchanged := [], reject := []
        interpret := ((stepVersion "2" "return by + by;").inventory plainLowering).functions.map
          (·.decision) } := by
  have planned : planBytecodeLink ((stepVersion "1" "return by;").inventory plainLowering)
      ((stepVersion "2" "return by + by;").inventory plainLowering) = .ok
        { unchanged := [], reject := []
          interpret := ((stepVersion "2" "return by + by;").inventory plainLowering).functions.map
            (·.decision) } := by decide +kernel
  have collisionFree : CollisionFree (stepVersion "1" "return by;")
      (stepVersion "2" "return by + by;") := by
    unfold CollisionFree
    decide +kernel
  have different : ∀ old ∈ (stepVersion "1" "return by;").declared,
      ∀ new ∈ (stepVersion "2" "return by + by;").declared, old.bodyText ≠ new.bodyText := by
    decide
  apply (changes_kept_iff collisionFree planned).mpr
  constructor
  · intro old oldMember new newMember same
    exact absurd same.body (different old oldMember new newMember)
  · intro looksUnchanged
    constructor
    · intro old member
      cases member
    · intro old member
      cases member

/-- A new default value is not. -/
theorem default_value_change_dropped :
    ∃ plan, planBytecodeLink ((stepVersion "1" "return by;").inventory plainLowering)
        ((stepVersion "2" "return by;").inventory plainLowering) = .ok plan ∧
      CollisionFree (stepVersion "1" "return by;") (stepVersion "2" "return by;") ∧
      ¬ ChangesKept (stepVersion "1" "return by;") (stepVersion "2" "return by;") plan := by
  let functions := ((stepVersion "2" "return by;").inventory plainLowering).functions
  refine ⟨{ unchanged := functions.map (·.decision), interpret := [], reject := [] },
    by decide +kernel, ?_, ?_⟩
  · unfold CollisionFree
    decide +kernel
  · intro kept
    obtain ⟨same, _⟩ := kept.quiet ⟨rfl, rfl⟩
    obtain ⟨old, oldMember, _, agree⟩ := same _ (List.mem_singleton.mpr rfl)
    obtain rfl := List.mem_singleton.mp oldMember
    exact absurd agree.defaultValues (by decide)

end CodePush.Linker
