import CodePush.Compiler.Ir
import CodePush.Core.Basic

/-!
# The linker

`plan_bytecode_link` and the checks of an inventory, as in `crates/fcb_core/src/linker.rs`.
A `BTreeMap` is the list of its entries in the order of their keys.
-/

set_option autoImplicit false

namespace CodePush.Linker

open CodePush.Core

def kernelInventorySchemaVersion : UInt32 := 1

inductive RejectReason where
  | missingBaselineFunction | signatureChanged | classShapeChanged | fieldSignatureChanged
  | unsupportedKernelNode | escapingCapturingClosure | returningCapturingClosure
  | passingCapturingClosure | asyncAwaitUnsupported | genericClosureUnsupported
  | functionTypeUnsupported | recordTypeUnsupported | missingBytecodeSource | originalTargetNotInAot
  deriving Repr, DecidableEq

structure FunctionInventoryEntry where
  functionId : String
  libraryUri : String
  enclosing : String
  memberName : String
  signatureHash : String
  bodyHash : String
  sourceLocation : Option String
  bytecodeSource : Option Compiler.Object
  unsupportedReasons : List RejectReason
  deriving Repr, DecidableEq

structure ClassInventoryEntry where
  classId : String
  shapeHash : String
  deriving Repr, DecidableEq

structure FieldInventoryEntry where
  fieldId : String
  signatureHash : String
  deriving Repr, DecidableEq

structure KernelInventory where
  schemaVersion : UInt32
  functions : List FunctionInventoryEntry
  classes : List ClassInventoryEntry
  topLevelFields : List FieldInventoryEntry
  deriving Repr, DecidableEq

structure FunctionDecision where
  functionId : String
  sourceLocation : Option String
  deriving Repr, DecidableEq

structure RejectDecision where
  functionId : String
  sourceLocation : Option String
  rejectReason : RejectReason
  message : String
  deriving Repr, DecidableEq

structure LinkerPlan where
  unchanged : List FunctionDecision
  interpret : List FunctionDecision
  reject : List RejectDecision
  deriving Repr, DecidableEq

/-!
## Checks and maps
-/

/-- `BTreeMap::insert` of a key that must be new. -/
def insertNew {α : Type} (key : String) (value : α) : List (String × α) → Option (List (String × α))
  | [] => some [(key, value)]
  | (other, entry) :: rest =>
      if key < other then some ((key, value) :: (other, entry) :: rest)
      else if key = other then none
      else (insertNew key value rest).map ((other, entry) :: ·)

/-- The loop of `function_map`, `class_map` and `field_map`. -/
def insertAll {α : Type} (kind : String) (id : α → String) (map : List (String × α)) :
    List α → Result (List (String × α))
  | [] => .ok map
  | item :: items =>
      match insertNew (id item) item map with
      | none => err s!"duplicate kernel inventory {kind} {id item}"
      | some map => insertAll kind id map items

def validateFunctions (seen : List String) : List FunctionInventoryEntry → Result Unit
  | [] => .ok ()
  | function :: functions =>
      if isBlank function.functionId then err "kernel inventory function_id must not be empty"
      else if function.functionId ∈ seen then
        err s!"duplicate kernel inventory function {function.functionId}"
      else validateFunctions (function.functionId :: seen) functions

namespace KernelInventory

def validate (inventory : KernelInventory) : Result Unit :=
  if inventory.schemaVersion ≠ kernelInventorySchemaVersion then
    err s!"unsupported kernel_inventory schema_version {inventory.schemaVersion}, expected {kernelInventorySchemaVersion}"
  else validateFunctions [] inventory.functions

def functionMap (inventory : KernelInventory) : Result (List (String × FunctionInventoryEntry)) :=
  insertAll "function" (·.functionId) [] inventory.functions

def classMap (inventory : KernelInventory) : Result (List (String × ClassInventoryEntry)) :=
  insertAll "class" (·.classId) [] inventory.classes

def fieldMap (inventory : KernelInventory) : Result (List (String × FieldInventoryEntry)) :=
  insertAll "field" (·.fieldId) [] inventory.topLevelFields

end KernelInventory

/-!
## The plan
-/

/-- The loop over classes or fields: what is in both and has another hash. -/
def changedEntries {α : Type} (hash : α → String) (reason : RejectReason) (message : String)
    (release patch : List (String × α)) : List RejectDecision :=
  patch.filterMap fun (id, patchEntry) =>
    match release.lookup id with
    | some releaseEntry =>
        if hash releaseEntry ≠ hash patchEntry then
          some { functionId := id, sourceLocation := none, rejectReason := reason, message }
        else none
    | none => none

def FunctionInventoryEntry.decision (function : FunctionInventoryEntry) : FunctionDecision where
  functionId := function.functionId
  sourceLocation := function.sourceLocation

def FunctionInventoryEntry.rejected (function : FunctionInventoryEntry) (rejectReason : RejectReason)
    (message : String) : RejectDecision where
  functionId := function.functionId
  sourceLocation := function.sourceLocation
  rejectReason := rejectReason
  message := message

/-- The body of the loop over the functions of the patch. -/
def planFunction (releaseFunctions : List (String × FunctionInventoryEntry)) (plan : LinkerPlan)
    (function : FunctionInventoryEntry) : LinkerPlan :=
  let reject := fun reason message =>
    { plan with reject := plan.reject ++ [function.rejected reason message] }
  match releaseFunctions.lookup function.functionId with
  | none => reject .missingBaselineFunction "function is not present in the release baseline"
  | some releaseFunction =>
      if releaseFunction.signatureHash ≠ function.signatureHash then
        reject .signatureChanged "function signature changed"
      else if releaseFunction.bodyHash = function.bodyHash then
        { plan with unchanged := plan.unchanged ++ [function.decision] }
      else
        match function.unsupportedReasons with
        | reason :: _ => reject reason "changed function contains unsupported Kernel nodes"
        | [] =>
            if function.bytecodeSource.isNone then
              reject .missingBytecodeSource "changed function has no bytecode source"
            else { plan with interpret := plan.interpret ++ [function.decision] }

def planBytecodeLink (release patch : KernelInventory) : Result LinkerPlan := do
  release.validate
  patch.validate
  let releaseFunctions ← release.functionMap
  let releaseClasses ← release.classMap
  let patchClasses ← patch.classMap
  let releaseFields ← release.fieldMap
  let patchFields ← patch.fieldMap
  let classes := changedEntries (·.shapeHash) .classShapeChanged "class shape changed" releaseClasses
    patchClasses
  let fields := changedEntries (·.signatureHash) .fieldSignatureChanged
    "top-level field signature changed" releaseFields patchFields
  let plan : LinkerPlan := { unchanged := [], interpret := [], reject := classes ++ fields }
  .ok (patch.functions.foldl (planFunction releaseFunctions) plan)

end CodePush.Linker
