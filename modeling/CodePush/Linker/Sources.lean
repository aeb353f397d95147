import CodePush.Compiler.Functions
import CodePush.Linker.Inventory

/-!
# The sources of functions

Which libraries of a component the reader takes, under which URI, the bytecode source it
makes of a procedure, as in `tool/fcb_kernel_reader.dart`, and the sources that
`_compileModuleFromPlan` collects for a plan. The lowering of bodies is a parameter here.
-/

set_option autoImplicit false

namespace CodePush.Linker

open CodePush.Core CodePush.Compiler

/-!
## Libraries
-/

/-- `Library.importUri`; `filePath` is `File.fromUri(uri).absolute.path` of a file URI. -/
structure ImportUri where
  scheme : String
  path : String
  text : String
  filePath : String
  deriving Repr, DecidableEq

structure KernelLibrary (ν : Type) where
  importUri : ImportUri
  classes : List (Class ν)
  procedures : List (Procedure ν)
  fields : List (Field ν)
  deriving Repr, DecidableEq

def ImportUri.inLib (project : String) (uri : ImportUri) : Bool :=
  (project ++ "/lib/").toList.isPrefixOf uri.filePath.toList

/-- `_isProjectLibrary`. -/
def ImportUri.isProjectLibrary (project packageName : String) (uri : ImportUri) : Bool :=
  if uri.scheme = "package" then
    uri.path = packageName || (packageName ++ "/").toList.isPrefixOf uri.path.toList
  else if uri.scheme = "file" then uri.inLib project
  else false

/-- `_canonicalLibraryUri`: a file under `lib` goes by the URI of its package. -/
def ImportUri.canonicalLibraryUri (project packageName : String) (uri : ImportUri) : String :=
  if uri.scheme = "file" ∧ uri.inLib project then
    s!"package:{packageName}/" ++
      String.ofList (uri.filePath.toList.drop (project ++ "/lib/").toList.length)
  else uri.text

abbrev Component (ν : Type) := List (KernelLibrary ν)

section Reader

variable {ν : Type}

/-- The project libraries of a component. -/
def Component.version (project packageName : String) (component : Component ν) : Version ν :=
  (component.filter (·.importUri.isProjectLibrary project packageName)).map fun library =>
    { uri := library.importUri.canonicalLibraryUri project packageName
      classes := library.classes
      procedures := library.procedures
      fields := library.fields }

/-!
## Bytecode sources
-/

/-- The members of a JSON object. -/
abbrev Source := List (String × Object)

/-- What `_returningClosureSource` finds: the members of `make_closure` besides its target,
the variables around it, and the function of the closure. -/
structure ReturnedClosure where
  captures : Source
  locals : List Object
  params : List String
  body : Object

/-- The lowering of types and bodies, of a library, for parameters. Each is `none` where the
reader gives up. -/
structure Bodies (ν : Type) where
  /-- `fcbKernelTypeName`. -/
  typeName : String → Option String
  /-- `_futureValueTypeArgs`. -/
  futureTypeArgs : String → Option Object
  asyncValue : String → List String → FunctionNode ν → Option Object
  generatorBody : String → List String → FunctionNode ν → Option Object
  returnedClosure : String → List String → FunctionNode ν → Option ReturnedClosure
  syncValue : String → List String → FunctionNode ν → Option Object
  expression : String → List String → FunctionNode ν → Option Object
  /-- The first reason that holds for a function without a source. -/
  reason : FunctionNode ν → RejectReason

def qualifiedName (enclosing memberName : String) : String :=
  if enclosing.isEmpty then memberName else s!"{enclosing}.{memberName}"

def futureValue (typeArgs value : Object) : Object :=
  .map [("new_object", .map [("constructor", .string "dart:async::class:_Future.value"),
    ("type_args", typeArgs), ("args", .list [value])])]

/-- The unnamed parameters of a lowered function are left out. -/
def FunctionNode.paramNames (function : FunctionNode ν) : List String :=
  ((function.positionalParameters ++ function.namedParameters).map (·.name)).filter (!·.isEmpty)

def nameList (names : List String) : Object := .list (names.map .string)

namespace Bodies

variable (bodies : Bodies ν) (libraryUri qualified : String) (function : FunctionNode ν)

def returnType : Object := ((bodies.typeName function.returnType).map Object.string).getD .null

def asyncFutureValueSource : Option Source :=
  if function.asyncMarker ≠ .async then none
  else do
    let typeArgs ← bodies.futureTypeArgs function.returnType
    let value ← bodies.asyncValue libraryUri function.paramNames function
    some [("name", .string s!"{libraryUri}::{qualified}"), ("params", nameList function.paramNames),
      ("body", futureValue typeArgs value), ("async_future", .bool true),
      ("async_future_value", .bool true)]

def generatorKind : AsyncMarker → Option String
  | .syncStar => some "sync_star"
  | .asyncStar => some "async_star"
  | _ => none

def generatorSource : Option Source := do
  let asyncKind ← generatorKind function.asyncMarker
  let body ← bodies.generatorBody libraryUri function.paramNames function
  some [("name", .string s!"{libraryUri}::{qualified}"), ("return_type", bodies.returnType function),
    ("params", nameList function.paramNames), ("body", body), ("async_kind", .string asyncKind)]

/-- The closure becomes a function of its own, named after the one that returns it. -/
def returningClosureSource : Option Source := do
  let closure ← bodies.returnedClosure libraryUri function.paramNames function
  let closureName := s!"{libraryUri}::{qualified}.<closure0>()"
  let makeClosure : Object :=
    .map [("make_closure", .map (("target", .string closureName) :: closure.captures))]
  let body : Object :=
    if closure.locals.isEmpty then makeClosure
    else .map [("let", .map [("locals", .list closure.locals), ("body", makeClosure)])]
  some [("name", .string s!"{libraryUri}::{qualified}"), ("params", nameList function.paramNames),
    ("body", body),
    ("extra_functions", .list [.map [("name", .string closureName), ("params", nameList closure.params),
      ("body", closure.body)]])]

def syncFutureValueSource : Option Source :=
  if function.asyncMarker ≠ .sync then none
  else do
    let typeArgs ← bodies.futureTypeArgs function.returnType
    let value ← bodies.syncValue libraryUri function.paramNames function
    let returnType := (bodies.typeName function.returnType).toList.map fun type =>
      ("return_type", Object.string type)
    some ([("name", .string s!"{libraryUri}::{qualified}")] ++ returnType ++
      [("params", nameList function.paramNames), ("body", futureValue typeArgs value)])

def expressionSource : Option Source := do
  let body ← bodies.expression libraryUri function.paramNames function
  some [("name", .string s!"{libraryUri}::{qualified}"), ("return_type", bodies.returnType function),
    ("params", nameList function.paramNames), ("body", body)]

/-- `_bytecodeSource`. -/
def bytecodeSource (enclosing : String) (procedure : Procedure ν) : Option Source :=
  let qualified := qualifiedName enclosing procedure.name
  let function := procedure.function
  bodies.asyncFutureValueSource libraryUri qualified function <|>
    bodies.generatorSource libraryUri qualified function <|>
    bodies.returningClosureSource libraryUri qualified function <|>
    bodies.syncFutureValueSource libraryUri qualified function <|>
    bodies.expressionSource libraryUri qualified function

end Bodies

/-- `_isAsyncSource`. -/
def isAsyncSource (source : Source) : Bool :=
  Object.get source "async_kind" = .string "sync_star" ||
    Object.get source "async_kind" = .string "async_star" ||
    Object.get source "async_future" = .bool true ||
    Object.get source "async_future_value" = .bool true

/-- `fcbUnsupportedReasons`. -/
def Bodies.unsupportedReasons (bodies : Bodies ν) (function : FunctionNode ν) (source : Option Source) :
    List RejectReason :=
  if function.asyncMarker ≠ .sync then
    if source.any isAsyncSource then [] else [.asyncAwaitUnsupported]
  else if source.isSome then []
  else [bodies.reason function]

def Bodies.lowering (bodies : Bodies ν) : Lowering ν where
  bytecodeSource := fun libraryUri enclosing procedure =>
    (bodies.bytecodeSource libraryUri enclosing procedure).map .map
  unsupportedReasons := fun libraryUri enclosing procedure =>
    bodies.unsupportedReasons procedure.function (bodies.bytecodeSource libraryUri enclosing procedure)

end Reader

/-!
## The sources of a plan
-/

/-- `extra_functions` of a source. -/
def extraSources (source : Source) : Except String (List Source) :=
  match Object.get source "extra_functions" with
  | .null => .ok []
  | .list items => items.mapM fun item =>
      match item with
      | .map extra => .ok extra
      | _ => .error "bytecode source extra function must be an object"
  | _ => .error "bytecode source extra_functions must be a list"

/-- The entry that the id stands for: the last one, where several have it. -/
def KernelInventory.find? (inventory : KernelInventory) (functionId : String) :
    Option FunctionInventoryEntry :=
  inventory.functions.reverse.find? (·.functionId = functionId)

def collectSource (inventory : KernelInventory) (decision : FunctionDecision) :
    Except String (List (Source × Option String)) :=
  match inventory.find? decision.functionId with
  | none => .error s!"linker selected missing function {decision.functionId}"
  | some function =>
      match function.bytecodeSource with
      | some (.map source) => do
          let extras ← extraSources source
          .ok ((source, decision.sourceLocation <|> function.sourceLocation) ::
            extras.map fun extra => (extra, none))
      | _ => .error s!"function {decision.functionId} has no bytecode_source"

/-- The functions that `_compileModuleFromPlan` compiles, in order. -/
def collectSources (inventory : KernelInventory) (decisions : List FunctionDecision) :
    Except String (List (Source × Option String)) :=
  (decisions.mapM (collectSource inventory)).map List.flatten

end CodePush.Linker
