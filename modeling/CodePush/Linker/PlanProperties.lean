import CodePush.Foundation.Splits
import CodePush.Linker.ChangeDetection

/-!
# What a plan accounts for

The plan of a patch deals out its functions to the unchanged, the interpreted and the
rejected ones. Without a rejection everything that the patch shares with the release fits.
-/

set_option autoImplicit false

namespace CodePush.Linker

open CodePush.Foundation

/-!
## Functions
-/

/-- The function has a new body, which can be interpreted in the place of the old one. -/
structure Interpretable (old function : FunctionInventoryEntry) : Prop where
  id : old.functionId = function.functionId
  signature : old.signatureHash = function.signatureHash
  body : old.bodyHash ≠ function.bodyHash
  supported : function.unsupportedReasons = []
  source : function.bytecodeSource.isSome

/-- The function is the one of the release. -/
structure Kept (old function : FunctionInventoryEntry) : Prop where
  id : old.functionId = function.functionId
  signature : old.signatureHash = function.signatureHash
  body : old.bodyHash = function.bodyHash

/-- The rejection is about the function. -/
def Rejects (function : FunctionInventoryEntry) (rejection : RejectDecision) : Prop :=
  ∃ reason message, rejection = function.rejected reason message

/-- Each function is dealt with for its own reason. -/
structure Deals (release functions : List FunctionInventoryEntry) (before after : LinkerPlan)
    (kept changed rejected : List FunctionInventoryEntry) (rejections : List RejectDecision) : Prop where
  splits : Splits functions kept changed rejected
  unchanged : after.unchanged = before.unchanged ++ kept.map (·.decision)
  interpret : after.interpret = before.interpret ++ changed.map (·.decision)
  reject : after.reject = before.reject ++ rejections
  reasons : List.Forall₂ Rejects rejected rejections
  same : ∀ function ∈ kept, ∃ old ∈ release, Kept old function
  runs : ∀ function ∈ changed, ∃ old ∈ release, Interpretable old function

section Functions

variable {release : KernelInventory} {releaseFunctions : List (String × FunctionInventoryEntry)}

/-- What is done about a function. -/
theorem planFunction_verdict (mapped : release.functionMap = .ok releaseFunctions) (plan : LinkerPlan)
    (function : FunctionInventoryEntry) :
    ((∃ old ∈ release.functions, Kept old function) ∧
      planFunction releaseFunctions plan function =
        { plan with unchanged := plan.unchanged ++ [function.decision] }) ∨
    ((∃ old ∈ release.functions, Interpretable old function) ∧
      planFunction releaseFunctions plan function =
        { plan with interpret := plan.interpret ++ [function.decision] }) ∨
    ∃ rejection, Rejects function rejection ∧
      planFunction releaseFunctions plan function =
        { plan with reject := plan.reject ++ [rejection] } := by
  unfold planFunction
  cases found : releaseFunctions.lookup function.functionId with
  | none => exact .inr (.inr ⟨_, ⟨_, _, rfl⟩, rfl⟩)
  | some old =>
      obtain ⟨member, same⟩ := (lookup_insertAll mapped).mp found
      dsimp only
      split
      · exact .inr (.inr ⟨_, ⟨_, _, rfl⟩, rfl⟩)
      case isFalse signature =>
        split
        case isTrue body => exact .inl ⟨⟨old, member, same, not_not.mp signature, body⟩, rfl⟩
        case isFalse body =>
          cases supported : function.unsupportedReasons with
          | cons reason reasons => exact .inr (.inr ⟨_, ⟨_, _, rfl⟩, rfl⟩)
          | nil =>
              dsimp only
              split
              · exact .inr (.inr ⟨_, ⟨_, _, rfl⟩, rfl⟩)
              case isFalse source =>
                have carried : function.bytecodeSource.isSome := by
                  cases given : function.bytecodeSource with
                  | none => exact absurd (by rw [given]; rfl) source
                  | some value => rfl
                exact .inr (.inl ⟨⟨old, member, same, not_not.mp signature, body, supported, carried⟩, rfl⟩)

theorem planFunctions_deal (mapped : release.functionMap = .ok releaseFunctions)
    (functions : List FunctionInventoryEntry) (plan : LinkerPlan) :
    ∃ kept changed rejected rejections,
      Deals release.functions functions plan (functions.foldl (planFunction releaseFunctions) plan)
        kept changed rejected rejections := by
  induction functions generalizing plan with
  | nil => exact ⟨[], [], [], [], .nil, by simp, by simp, by simp, .nil, by simp, by simp⟩
  | cons function functions ih =>
      rw [List.foldl_cons]
      obtain ⟨kept, changed, rejected, rejections, deals⟩ :=
        ih (planFunction releaseFunctions plan function)
      rcases planFunction_verdict mapped plan function with
        ⟨same, next⟩ | ⟨runs, next⟩ | ⟨rejection, rejects, next⟩
      · refine ⟨function :: kept, changed, rejected, rejections, deals.splits.first, ?_, ?_, ?_,
          deals.reasons, List.forall_mem_cons.mpr ⟨same, deals.same⟩, deals.runs⟩
        · rw [deals.unchanged, next]
          simp
        · rw [deals.interpret, next]
        · rw [deals.reject, next]
      · refine ⟨kept, function :: changed, rejected, rejections, deals.splits.second, ?_, ?_, ?_,
          deals.reasons, deals.same, List.forall_mem_cons.mpr ⟨runs, deals.runs⟩⟩
        · rw [deals.unchanged, next]
        · rw [deals.interpret, next]
          simp
        · rw [deals.reject, next]
      · refine ⟨kept, changed, function :: rejected, rejection :: rejections, deals.splits.third, ?_, ?_, ?_,
          .cons rejects deals.reasons, deals.same, deals.runs⟩
        · rw [deals.unchanged, next]
        · rw [deals.interpret, next]
        · rw [deals.reject, next]
          simp

end Functions

/-!
## Plans
-/

/-- The rejection is about a class or a field that the two inventories share. -/
def RejectsShape (release patch : KernelInventory) (rejection : RejectDecision) : Prop :=
  (∃ old ∈ release.classes, ∃ new ∈ patch.classes, old.classId = new.classId ∧ old.shapeHash ≠ new.shapeHash ∧
    rejection = { functionId := new.classId, sourceLocation := none, rejectReason := .classShapeChanged
                  message := "class shape changed" }) ∨
  ∃ old ∈ release.topLevelFields, ∃ new ∈ patch.topLevelFields, old.fieldId = new.fieldId ∧
    old.signatureHash ≠ new.signatureHash ∧
    rejection = { functionId := new.fieldId, sourceLocation := none, rejectReason := .fieldSignatureChanged
                  message := "top-level field signature changed" }

/-- What the patch shares with the release fits into it. -/
structure Fits (release patch : KernelInventory) : Prop where
  functions : ∀ new ∈ patch.functions, ∃ old ∈ release.functions, old.functionId = new.functionId ∧
    old.signatureHash = new.signatureHash ∧
    (old.bodyHash ≠ new.bodyHash → new.bytecodeSource.isSome ∧ new.unsupportedReasons = [])
  classes : ∀ old ∈ release.classes, ∀ new ∈ patch.classes,
    old.classId = new.classId → old.shapeHash = new.shapeHash
  fields : ∀ old ∈ release.topLevelFields, ∀ new ∈ patch.topLevelFields,
    old.fieldId = new.fieldId → old.signatureHash = new.signatureHash

/-- The functions of the patch, each in one list of the plan and in their order. -/
structure Accounts (patch : KernelInventory) (shapes : List RejectDecision) (plan : LinkerPlan)
    (kept changed rejected : List FunctionInventoryEntry) : Prop where
  distinct : (patch.functions.map (·.functionId)).Nodup
  splits : Splits patch.functions kept changed rejected
  unchanged : plan.unchanged = kept.map (·.decision)
  interpret : plan.interpret = changed.map (·.decision)
  reject : ∃ rejections, plan.reject = shapes ++ rejections ∧ List.Forall₂ Rejects rejected rejections

section Plans

variable {release patch : KernelInventory} {plan : LinkerPlan}

theorem mem_changedEntries {α : Type} {kind otherKind : String} {id hash : α → String}
    {reason : RejectReason} {message : String} {releaseItems patchItems : List α}
    {releaseMap patchMap : List (String × α)} (old : insertAll kind id [] releaseItems = .ok releaseMap)
    (new : insertAll otherKind id [] patchItems = .ok patchMap) {rejection : RejectDecision}
    (member : rejection ∈ changedEntries hash reason message releaseMap patchMap) :
    ∃ one ∈ releaseItems, ∃ other ∈ patchItems, id one = id other ∧ hash one ≠ hash other ∧
      rejection = { functionId := id other, sourceLocation := none, rejectReason := reason, message } := by
  obtain ⟨⟨key, entry⟩, inside, rejected⟩ := List.mem_filterMap.mp member
  obtain ⟨entryMember, rfl⟩ := (mem_insertAll new).mp inside
  dsimp only at rejected
  cases found : releaseMap.lookup (id entry) with
  | none =>
      rw [found] at rejected
      cases rejected
  | some one =>
      obtain ⟨oneMember, same⟩ := (lookup_insertAll old).mp found
      rw [found] at rejected
      dsimp only at rejected
      split at rejected
      case isTrue different =>
        exact ⟨one, oneMember, entry, entryMember, same, different, (Option.some.inj rejected).symm⟩
      case isFalse => cases rejected

/-- A plan starts with the classes and the fields and deals out the functions. -/
theorem planBytecodeLink_deals (planned : planBytecodeLink release patch = .ok plan) :
    ∃ shapes kept changed rejected rejections,
      Deals release.functions patch.functions { unchanged := [], interpret := [], reject := shapes } plan
        kept changed rejected rejections ∧
      (∀ rejection ∈ shapes, RejectsShape release patch rejection) ∧
      (shapes = [] →
        (∀ old ∈ release.classes, ∀ new ∈ patch.classes,
          old.classId = new.classId → old.shapeHash = new.shapeHash) ∧
        ∀ old ∈ release.topLevelFields, ∀ new ∈ patch.topLevelFields,
          old.fieldId = new.fieldId → old.signatureHash = new.signatureHash) := by
  unfold planBytecodeLink at planned
  obtain ⟨_, _, planned⟩ := except_bind_eq_ok.mp planned
  obtain ⟨_, _, planned⟩ := except_bind_eq_ok.mp planned
  obtain ⟨releaseFunctions, functionsMapped, planned⟩ := except_bind_eq_ok.mp planned
  obtain ⟨releaseClasses, oldClasses, planned⟩ := except_bind_eq_ok.mp planned
  obtain ⟨patchClasses, newClasses, planned⟩ := except_bind_eq_ok.mp planned
  obtain ⟨releaseFields, oldFields, planned⟩ := except_bind_eq_ok.mp planned
  obtain ⟨patchFields, newFields, planned⟩ := except_bind_eq_ok.mp planned
  cases planned
  obtain ⟨kept, changed, rejected, rejections, deals⟩ :=
    planFunctions_deal functionsMapped patch.functions _
  refine ⟨_, kept, changed, rejected, rejections, deals, ?_, ?_⟩
  · intro rejection member
    rcases List.mem_append.mp member with member | member
    · exact .inl (mem_changedEntries oldClasses newClasses member)
    · exact .inr (mem_changedEntries oldFields newFields member)
  · intro none
    obtain ⟨classes, fields⟩ := List.append_eq_nil_iff.mp none
    exact ⟨(changedEntries_eq_nil_iff oldClasses newClasses).mp classes,
      (changedEntries_eq_nil_iff oldFields newFields).mp fields⟩

theorem Deals.function_fits {functions : List FunctionInventoryEntry} {before after : LinkerPlan}
    {kept changed : List FunctionInventoryEntry}
    (deals : Deals release.functions functions before after kept changed [] [])
    {new : FunctionInventoryEntry} (member : new ∈ functions) :
    ∃ old ∈ release.functions, old.functionId = new.functionId ∧ old.signatureHash = new.signatureHash ∧
      (old.bodyHash ≠ new.bodyHash → new.bytecodeSource.isSome ∧ new.unsupportedReasons = []) := by
  rcases deals.splits.mem_iff.mp member with inside | inside | inside
  · obtain ⟨old, oldMember, same⟩ := deals.same new inside
    exact ⟨old, oldMember, same.id, same.signature, fun different => absurd same.body different⟩
  · obtain ⟨old, oldMember, runs⟩ := deals.runs new inside
    exact ⟨old, oldMember, runs.id, runs.signature, fun _ => ⟨runs.source, runs.supported⟩⟩
  · cases inside

end Plans

/-- A plan accounts for every function of the patch, calls exactly those unchanged that
are, and rejects nothing only where the patch fits. -/
theorem plan_sound_and_complete (release patch : KernelInventory) (plan : LinkerPlan)
    (planned : planBytecodeLink release patch = .ok plan) :
    (∃ shapes kept changed rejected, (∀ rejection ∈ shapes, RejectsShape release patch rejection) ∧
      Accounts patch shapes plan kept changed rejected) ∧
    (∀ new ∈ patch.functions, (∃ decision ∈ plan.unchanged, decision.functionId = new.functionId) ↔
      ∃ old ∈ release.functions, Kept old new) ∧
    (plan.reject = [] → Fits release patch) := by
  have spec := planBytecodeLink_spec planned
  have distinct : (patch.functions.map (·.functionId)).Nodup :=
    (validateFunctions_nodup (except_guard_eq_ok.mp (planned_valid planned).2).2).1
  obtain ⟨shapes, kept, changed, rejected, rejections, deals, shaped, same⟩ :=
    planBytecodeLink_deals planned
  refine ⟨⟨shapes, kept, changed, rejected, shaped, distinct, deals.splits, deals.unchanged,
    deals.interpret, rejections, deals.reject, deals.reasons⟩, ?_, ?_⟩
  · intro new member
    constructor
    · rintro ⟨decision, inside, sameId⟩
      obtain ⟨other, otherMember, rfl, old, oldMember, id, signature, body⟩ := (spec.unchanged _).mp inside
      obtain rfl := List.inj_on_of_nodup_map distinct otherMember member sameId
      exact ⟨old, oldMember, id, signature, body⟩
    · rintro ⟨old, oldMember, kept⟩
      have unchanged := (spec.unchanged new.decision).mpr
        ⟨new, member, rfl, old, oldMember, kept.id, kept.signature, kept.body⟩
      exact ⟨new.decision, unchanged, rfl⟩
  · intro quiet
    have rejects : shapes ++ rejections = [] := by
      rw [← quiet, deals.reject]
    obtain ⟨rfl, rfl⟩ := List.append_eq_nil_iff.mp rejects
    have none := deals.reasons
    cases none
    obtain ⟨classes, fields⟩ := same rfl
    exact ⟨fun new member => deals.function_fits member, classes, fields⟩

def sampleFunction (id signatureHash bodyHash : String) (bytecode : Bool) : FunctionInventoryEntry where
  functionId := id
  libraryUri := "package:app/main.dart"
  enclosing := ""
  memberName := id
  signatureHash := signatureHash
  bodyHash := bodyHash
  sourceLocation := some "lib/main.dart:1"
  bytecodeSource := if bytecode then some (.map [("int", .int 1)]) else none
  unsupportedReasons := []

def sampleInventory (functions : List FunctionInventoryEntry) : KernelInventory where
  schemaVersion := kernelInventorySchemaVersion
  functions := functions
  classes := []
  topLevelFields := []

/-- The function with the old body is unchanged, and the new body is interpreted. -/
theorem sample_plan_fits :
    Fits (sampleInventory [sampleFunction "same" "sig" "old" false, sampleFunction "changed" "sig" "old" false])
      (sampleInventory [sampleFunction "same" "sig" "old" false, sampleFunction "changed" "sig" "new" true]) :=
  (plan_sound_and_complete
    (sampleInventory [sampleFunction "same" "sig" "old" false, sampleFunction "changed" "sig" "old" false])
    (sampleInventory [sampleFunction "same" "sig" "old" false, sampleFunction "changed" "sig" "new" true])
    { unchanged := [⟨"same", some "lib/main.dart:1"⟩], interpret := [⟨"changed", some "lib/main.dart:1"⟩]
      reject := [] } (by decide)).2.2 rfl

end CodePush.Linker
