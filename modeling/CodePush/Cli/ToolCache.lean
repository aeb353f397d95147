import CodePush.Core.Signing
import CodePush.Foundation.Runs

/-!
# The compiled kernel tool

`KernelManifestTool::prepare` of `cli/src/auto.rs`, which keeps a snapshot of the tool under `.fcb/tool-cache`, and the
reader that the tool loads from the directory of its sources.
-/

set_option autoImplicit false

namespace CodePush.Cli

open CodePush.Core CodePush.Foundation CodePush.Foundation.Action

/-!
## The tool and the SDK
-/

/-- The `dart` of a Flutter SDK. `version` is what `dart --version` prints if it succeeds. -/
structure Sdk where
  dart : String
  present : Bool
  version : Result (Option String)
  contents : Bytes

structure ToolPath where
  dir : String
  name : String
  deriving Repr, DecidableEq

def ToolPath.display (path : ToolPath) : String := s!"{path.dir}/{path.name}"

/-- What a command finds outside of `.fcb`. `ancestors` are the `tool` directories above the executable, nearest first,
and `sdkRoot` is the result of `kernel_sdk_root`. -/
structure World where
  files : String → String → Option Bytes
  manifestTool : Option ToolPath
  ancestors : List String
  sdk : Sdk
  sdkRoot : String

namespace World

variable (world : World)

def fileAt (path : ToolPath) : Option Bytes := world.files path.dir path.name

def cwdTool : ToolPath where
  dir := "tool"
  name := "fcb_kernel_manifest.dart"

def kernelInventoryToolPath : ToolPath :=
  match world.manifestTool with
  | some path => path
  | none =>
      if (world.fileAt cwdTool).isSome then cwdTool
      else
        let candidates := world.ancestors.map fun dir => { dir, name := "fcb_kernel_manifest.dart" : ToolPath }
        (candidates.find? fun path => (world.fileAt path).isSome).getD cwdTool

end World

/-- The first line, without a line break. -/
def firstLine (stdout : String) : Option String :=
  ((linesFrom [] stdout.toList).map String.ofList).head?

def dartSdkRev (sdk : Sdk) : Result String := do
  if sdk.present then
    match ← sdk.version with
    | some stdout => .ok (trim ((firstLine stdout).getD "unknown"))
    | none => .ok s!"{sdk.dart}:unknown"
  else .ok "dart:unknown"

def hashOptionalFile (lib : Primitives) : Option Bytes → String
  | some contents => lib.sha256Hex contents
  | none => "missing"

/-- The key of a snapshot. -/
def toolKey (lib : Primitives) (world : World) : Result String := do
  let dartRev ← dartSdkRev world.sdk
  let toolHash := hashOptionalFile lib (world.fileAt world.kernelInventoryToolPath)
  .ok (lib.sha256Hex (stringBytes s!"{dartRev}\n{toolHash}"))

/-!
## Compiling
-/

/-- A main file in its directory. -/
structure ToolSources where
  main : String
  files : String → Option Bytes

def World.sources (world : World) : ToolSources where
  main := world.kernelInventoryToolPath.name
  files := world.files world.kernelInventoryToolPath.dir

/-- What `dart compile kernel` reads in a file and what it writes. -/
structure Dart where
  /-- The files that a source imports or includes as parts. -/
  references : Bytes → List String
  compile : Sdk → ToolSources → Bytes

namespace Dart

variable (dart : Dart)

/-- The main file with every file that it imports or includes. -/
inductive Reached (sources : ToolSources) : String → Prop where
  | main : Reached sources sources.main
  | reference {name other : String} {contents : Bytes} (reached : Reached sources name)
      (found : sources.files name = some contents) (refers : other ∈ dart.references contents) : Reached sources other

/-- The files that are compiled are the same. -/
structure Agree (one other : ToolSources) : Prop where
  main : one.main = other.main
  files : ∀ name, dart.Reached one name → one.files name = other.files name

/-- The snapshot is a function of the files that are compiled and of the SDK. -/
def OfSources : Prop :=
  ∀ sdk one other, dart.Agree one other → dart.compile sdk one = dart.compile sdk other

end Dart

/-!
## The reader
-/

def kernelReaderParts : List String :=
  ["fcb_kernel_closure_audit.dart", "fcb_kernel_callback_inline.dart", "fcb_kernel_type_names.dart",
    "fcb_kernel_unsupported_audit.dart", "fcb_kernel_logical_expr.dart", "fcb_kernel_switch_expr.dart",
    "fcb_kernel_switch_statement_expr.dart", "fcb_kernel_async_expr.dart", "fcb_kernel_async_for_expr.dart",
    "fcb_kernel_async_loop_expr.dart", "fcb_kernel_collection_expr.dart", "fcb_kernel_collection_append_expr.dart",
    "fcb_kernel_generator_expr.dart", "fcb_kernel_generator_for_expr.dart",
    "fcb_kernel_generator_for_in_body_expr.dart", "fcb_kernel_generator_loop_expr.dart",
    "fcb_kernel_generator_stream_expr.dart", "fcb_kernel_generator_yield_expr.dart",
    "fcb_kernel_returning_closure.dart", "fcb_kernel_statement_expr.dart", "fcb_kernel_static_invocation_expr.dart",
    "fcb_kernel_reader_text.dart", "fcb_kernel_unary_binary_expr.dart"]

/-- The files of the bundle, from the directory of the tool. A file that is missing is an exception. -/
def writeKernelReaderBundle (files : String → Option Bytes) : Option (List (String × Bytes)) := do
  let parts ← kernelReaderParts.mapM fun part => (files part).map fun contents => (part, contents)
  let reader ← files "fcb_kernel_reader.dart"
  return parts ++ [("kernel_reader.dart", reader)]

/-!
## The cache
-/

/-- `compiled` is the world in which the last compilation succeeded; no command reads it. -/
structure Workshop where
  world : World
  key : Option String
  snapshot : Option Bytes
  compiled : Option World

/-- Nothing was compiled yet. -/
def Workshop.fresh (world : World) : Workshop where
  world
  key := none
  snapshot := none
  compiled := none

def Workshop.compile (shop : Workshop) (dart : Dart) : Workshop :=
  { shop with
    snapshot := some (dart.compile shop.world.sdk shop.world.sources)
    compiled := some shop.world }

/-- How a compilation and the writing of its key end. A failure leaves something in the file that was written. -/
inductive CompileRun where
  | notStarted (error : Error)
  | fails (left : Option Bytes)
  | keyLost (left : Option String) (error : Error)
  | succeeds

/-- A call, with what it finds outside of its files. -/
structure PrepareRun where
  createDir : Result Unit
  readTool : Result Unit
  compile : CompileRun

structure KernelManifestTool where
  dart : String
  snapshot : String
  sdkRoot : String
  toolDir : String

def World.preparedTool (world : World) : KernelManifestTool where
  dart := world.sdk.dart
  snapshot := ".fcb/tool-cache/fcb_kernel_manifest.dart.snapshot"
  sdkRoot := world.sdkRoot
  toolDir := world.kernelInventoryToolPath.dir

abbrev ToolOp (α : Type) := Action Error Workshop α

section Prepare

variable (lib : Primitives) (dart : Dart)

def compileTool (run : CompileRun) (tool : ToolPath) (key : String) : ToolOp Unit :=
  match run with
  | .notStarted error => throw error
  | .fails left => do
      modify fun shop => { shop with snapshot := left }
      throw (.message s!"failed to compile {tool.display}")
  | .keyLost left error => do
      modify fun shop => { shop.compile dart with key := left }
      throw error
  | .succeeds => modify fun shop => { shop.compile dart with key := some key }

/-- The key file is empty to the command if it is not there. -/
def prepare (run : PrepareRun) : ToolOp KernelManifestTool := do
  let shop ← get
  let tool := shop.world.kernelInventoryToolPath
  if (shop.world.fileAt tool).isNone then attempt (err s!"missing kernel inventory tool {tool.display}")
  else do
    attempt run.createDir
    attempt run.readTool
    let key ← attempt (toolKey lib shop.world)
    if shop.key.getD "" ≠ key ∨ shop.snapshot.isNone then compileTool dart run.compile tool key
    return shop.world.preparedTool

inductive ToolStep where
  | change (world : World)
  | prepare (run : PrepareRun)

def toolStep : ToolStep → Workshop → Result (Option KernelManifestTool) × Workshop
  | .change world, shop => (.ok none, { shop with world })
  | .prepare run, shop =>
      let (result, finish) := prepare lib dart run shop
      (result.map some, finish)

end Prepare

/-- What runs as the tool: the compiler of the snapshot, with the reader beside the sources. -/
def KernelManifestTool.parts (tool : KernelManifestTool) (shop : Workshop) :
    Option Bytes × Option (List (String × Bytes)) :=
  (shop.snapshot, writeKernelReaderBundle (shop.world.files tool.toolDir))

/-- Both parts from one state of the directory. -/
def Dart.toolOf (dart : Dart) (sdk : Sdk) (sources : ToolSources) : Option Bytes × Option (List (String × Bytes)) :=
  (some (dart.compile sdk sources), writeKernelReaderBundle sources.files)

end CodePush.Cli
