import CodePush.Cli.ToolCache
import CodePush.Core.Digests

/-!
# The tool that runs

The key of the compiled tool has the version of the SDK and the main file, not the files that are imported or included
by it. The tool that runs is compiled from the present files in each run in which no call finds its key with the
snapshot of other files, and a compilation that fails leaves no broken snapshot.
-/

set_option autoImplicit false

namespace CodePush.Cli

open CodePush.Core CodePush.Foundation CodePush.Foundation.Action

section Calls

variable {lib : Primitives} {dart : Dart} {run : PrepareRun} {shop finish : Workshop}

/-- What a call may do to the cache. -/
inductive Effect (lib : Primitives) (dart : Dart) (run : PrepareRun) (shop : Workshop) : Workshop → Prop where
  | none : Effect lib dart run shop shop
  | broken {left : Option Bytes} (fails : run.compile = .fails left) :
      Effect lib dart run shop { shop with snapshot := left }
  | keyLost {left : Option String} {error : Error} (lost : run.compile = .keyLost left error) :
      Effect lib dart run shop { shop.compile dart with key := left }
  | compiled {key : String} (known : toolKey lib shop.world = .ok key) (succeeds : run.compile = .succeeds) :
      Effect lib dart run shop { shop.compile dart with key := some key }

/-- A call that returns has found its key with a snapshot, or it has compiled the tool. -/
inductive Prepared (lib : Primitives) (dart : Dart) (shop : Workshop) : Workshop → Prop where
  | found {key : String} (known : toolKey lib shop.world = .ok key) (same : shop.key.getD "" = key)
      (present : shop.snapshot.isSome = true) : Prepared lib dart shop shop
  | compiled {key : String} (known : toolKey lib shop.world = .ok key) :
      Prepared lib dart shop { shop.compile dart with key := some key }

theorem compileTool_ends {key : String} (tool : ToolPath) (known : toolKey lib shop.world = .ok key) :
    Ensures (compileTool dart run.compile tool key) shop (fun _ finish =>
      Effect lib dart run shop finish ∧ Prepared lib dart shop finish) fun _ finish => Effect lib dart run shop finish := by
  unfold compileTool
  cases ends : run.compile with
  | notStarted error => exact ensures_throw .none
  | fails left =>
      apply ensures_bind
      apply ensures_modify
      exact ensures_throw (.broken ends)
  | keyLost left error =>
      apply ensures_bind
      apply ensures_modify
      exact ensures_throw (.keyLost ends)
  | succeeds => exact ensures_modify ⟨.compiled known ends, .compiled known⟩

theorem prepare_ends (lib : Primitives) (dart : Dart) (run : PrepareRun) (shop : Workshop) :
    Ensures (prepare lib dart run) shop (fun tool finish =>
      Effect lib dart run shop finish ∧ Prepared lib dart shop finish ∧
        tool.toolDir = shop.world.kernelInventoryToolPath.dir) fun _ finish => Effect lib dart run shop finish := by
  unfold prepare
  apply ensures_bind
  apply ensures_get
  dsimp only
  split
  · exact ensures_attempt (fun _ same => nomatch same) fun _ _ => .none
  · apply ensures_bind
    apply ensures_attempt _ fun _ _ => .none
    intro _ _
    apply ensures_bind
    apply ensures_attempt _ fun _ _ => .none
    intro _ _
    apply ensures_bind
    apply ensures_attempt _ fun _ _ => .none
    intro key known
    split
    case isTrue =>
      apply (compileTool_ends _ known).bind
      intro _ finish done
      exact ensures_pure ⟨done.1, done.2, rfl⟩
    case isFalse hit =>
      obtain ⟨same, present⟩ := not_or.mp hit
      apply ensures_pure
      refine ⟨.none, .found known (Decidable.not_not.mp same) ?_, rfl⟩
      rwa [Bool.not_eq_true, Option.isNone_eq_false_iff] at present

end Calls

/-!
## Runs
-/

/-- A call that finds its key with a snapshot comes with the SDK of the last compilation and with the same files,
imported and included ones among them. A compilation that fails leaves the snapshot alone or removes it. -/
structure PrepareRun.Keeps (lib : Primitives) (dart : Dart) (shop : Workshop) (run : PrepareRun) : Prop where
  sources : ∀ last key, shop.compiled = some last → toolKey lib shop.world = .ok key → shop.key.getD "" = key →
    shop.snapshot.isSome → last.sdk = shop.world.sdk ∧ dart.Agree last.sources shop.world.sources
  snapshot : ∀ left, run.compile = .fails left → left = shop.snapshot ∨ left = none

def ToolStep.Keeps (lib : Primitives) (dart : Dart) (shop : Workshop) : ToolStep → Prop
  | .change _ => True
  | .prepare run => run.Keeps lib dart shop

/-- A snapshot is what the last compilation wrote. -/
def Workshop.Coherent (dart : Dart) (shop : Workshop) : Prop :=
  ∀ bytes, shop.snapshot = some bytes →
    ∃ last, shop.compiled = some last ∧ bytes = dart.compile last.sdk last.sources

section Runs

variable {lib : Primitives} {dart : Dart} {run : PrepareRun} {shop finish : Workshop}

theorem coherent_fresh (world : World) : (Workshop.fresh world).Coherent dart := by
  intro bytes present
  cases present

theorem Workshop.Coherent.effect (coherent : shop.Coherent dart) (keeps : run.Keeps lib dart shop)
    (effect : Effect lib dart run shop finish) : finish.Coherent dart := by
  cases effect with
  | none => exact coherent
  | @broken left fails =>
      intro bytes present
      obtain same | gone := keeps.snapshot left fails
      · exact coherent bytes (same.symm.trans present)
      · rw [gone] at present
        cases present
  | keyLost =>
      intro bytes present
      exact ⟨shop.world, rfl, (Option.some.inj present).symm⟩
  | compiled =>
      intro bytes present
      exact ⟨shop.world, rfl, (Option.some.inj present).symm⟩

theorem Workshop.Coherent.step {step : ToolStep} (coherent : shop.Coherent dart)
    (keeps : step.Keeps lib dart shop) : (toolStep lib dart step shop).2.Coherent dart := by
  cases step with
  | change world => exact coherent
  | prepare run =>
      have ends := prepare_ends lib dart run shop
      show (prepare lib dart run shop).2.Coherent dart
      rcases outcome : prepare lib dart run shop with ⟨result, finish⟩
      cases result with
      | ok tool => exact coherent.effect keeps (ends.of_ok outcome).1
      | error error => exact coherent.effect keeps (ends.of_error outcome)

/-- What is found under its key is what compiling would write. -/
theorem Workshop.Coherent.prepared (coherent : shop.Coherent dart) (ofSources : dart.OfSources)
    (keeps : run.Keeps lib dart shop) (prepared : Prepared lib dart shop finish) :
    finish.world = shop.world ∧ finish.snapshot = some (dart.compile shop.world.sdk shop.world.sources) := by
  cases prepared with
  | @found key known same present =>
      obtain ⟨bytes, found⟩ := Option.isSome_iff_exists.mp present
      obtain ⟨last, compiled, rfl⟩ := coherent bytes found
      obtain ⟨sdk, agree⟩ := keeps.sources last key compiled known same present
      refine ⟨rfl, ?_⟩
      rw [found, sdk, ofSources _ _ _ agree]
  | compiled known => exact ⟨rfl, rfl⟩

/-- In a run of such calls, each call that succeeds returns the tool as its sources are now. -/
theorem prepared_tool_current (ofSources : dart.OfSources) {world : World} {steps : List ToolStep}
    {tool : KernelManifestTool}
    (kept : Guarded (toolStep lib dart) (fun shop step => step.Keeps lib dart shop) (Workshop.fresh world)
      (steps ++ [.prepare run]))
    (returned : prepare lib dart run (runFrom (toolStep lib dart) (Workshop.fresh world) steps) = (.ok tool, finish)) :
    tool.parts finish = dart.toolOf finish.world.sdk finish.world.sources := by
  obtain ⟨before, keeps, _⟩ := guarded_append.mp kept
  have coherent := before.invariant (fun shop => shop.Coherent dart)
    (fun shop step here allowed => here.step allowed) (coherent_fresh world)
  obtain ⟨_, prepared, dir⟩ := (prepare_ends lib dart run _).of_ok returned
  obtain ⟨unchanged, current⟩ := coherent.prepared ofSources keeps prepared
  unfold KernelManifestTool.parts Dart.toolOf
  rw [current, dir, unchanged]
  rfl

/-!
## Calls that go well
-/

def PrepareRun.quiet : PrepareRun where
  createDir := .ok ()
  readTool := .ok ()
  compile := .succeeds

theorem quiet_keeps {last : World} (compiled : shop.compiled = some last)
    (same : last.sdk = shop.world.sdk) (agree : dart.Agree last.sources shop.world.sources) :
    PrepareRun.quiet.Keeps lib dart shop where
  sources := by
    intro other key found _ _ _
    rw [compiled] at found
    obtain rfl := Option.some.inj found
    exact ⟨same, agree⟩
  snapshot := fun _ fails => nomatch fails

theorem quiet_keeps_fresh (world : World) : PrepareRun.quiet.Keeps lib dart (.fresh world) where
  sources := fun _ _ compiled => nomatch compiled
  snapshot := fun _ fails => nomatch fails

theorem prepare_quiet {key : String}
    (present : ¬(shop.world.fileAt shop.world.kernelInventoryToolPath).isNone = true)
    (known : toolKey lib shop.world = .ok key) :
    prepare lib dart .quiet shop =
      (.ok shop.world.preparedTool,
        if shop.key.getD "" ≠ key ∨ shop.snapshot.isNone then { shop.compile dart with key := some key } else shop) := by
  have chosen : prepare lib dart .quiet shop =
      (if (shop.world.fileAt shop.world.kernelInventoryToolPath).isNone then _ else
        attempt (toolKey lib shop.world) >>= fun key => do
          if shop.key.getD "" ≠ key ∨ shop.snapshot.isNone then
            modify fun shop => { shop.compile dart with key := some key }
          return shop.world.preparedTool : ToolOp KernelManifestTool) shop := rfl
  rw [chosen, if_neg present, known]
  show (if shop.key.getD "" ≠ key ∨ shop.snapshot.isNone then _ else _ : ToolOp KernelManifestTool) shop = _
  split
  · rfl
  · rfl

/-- What a first call leaves behind, and then an edit. -/
def editedShop (dart : Dart) (key : String) (world edited : World) : Workshop where
  world := edited
  key := some key
  snapshot := some (dart.compile world.sdk world.sources)
  compiled := some world

section Edits

variable {world edited : World} {key : String}

theorem runFrom_edited (present : ¬(world.fileAt world.kernelInventoryToolPath).isNone = true)
    (known : toolKey lib world = .ok key) :
    runFrom (toolStep lib dart) (Workshop.fresh world) [.prepare .quiet, .change edited] =
      editedShop dart key world edited := by
  have first : prepare lib dart .quiet (.fresh world) =
      (.ok world.preparedTool, { (Workshop.fresh world).compile dart with key := some key }) := by
    rw [prepare_quiet present known]
    exact congrArg (Prod.mk _) (if_pos (.inr rfl))
  show ({ (prepare lib dart .quiet (.fresh world)).2 with world := edited } : Workshop) = _
  rw [first]
  rfl

/-- After an edit of files that are not in the key, the tool is not compiled again. -/
theorem stale_after_edit (present : ¬(edited.fileAt edited.kernelInventoryToolPath).isNone = true)
    (same : toolKey lib edited = .ok key) :
    prepare lib dart .quiet (editedShop dart key world edited) =
      (.ok edited.preparedTool, editedShop dart key world edited) := by
  have hit : ¬((editedShop dart key world edited).key.getD "" ≠ key ∨
      (editedShop dart key world edited).snapshot.isNone = true) := by
    simp [editedShop]
  rw [prepare_quiet present same, if_neg hit]
  rfl

end Edits

end Runs

/-!
## A tool in two files
-/

def mainText : Bytes := stringBytes "part 'fcb_kernel_manifest_compiler.dart';\n"

/-- The compiler for the two files: it puts the part behind the main file. -/
def partDart : Dart where
  references := fun contents => if contents = mainText then ["fcb_kernel_manifest_compiler.dart"] else []
  compile := fun _ sources =>
    match sources.files sources.main with
    | none => []
    | some contents =>
        if contents = mainText then contents ++ (sources.files "fcb_kernel_manifest_compiler.dart").getD []
        else contents

theorem partDart_ofSources : partDart.OfSources := by
  intro sdk one other agree
  have main := agree.files one.main .main
  rw [agree.main] at main
  unfold partDart
  dsimp only
  rw [agree.main, main]
  cases found : other.files other.main with
  | none => rfl
  | some contents =>
      dsimp only
      split
      case isFalse => rfl
      case isTrue whole =>
        have reached : partDart.Reached one "fcb_kernel_manifest_compiler.dart" := by
          have here : one.files one.main = some contents := by rw [agree.main, main, found]
          apply Dart.Reached.reference .main here
          show _ ∈ (if contents = mainText then _ else _)
          rw [if_pos whole]
          exact List.mem_singleton_self _
        rw [agree.files _ reached]

/-- SHA-256 of the main file and of the text of its key. -/
def toolLib : Primitives :=
  { Primitives.refusing with
    sha256 := knownDigests
      [(mainText, [0x8e, 0x63, 0x29, 0x6c, 0xea, 0x3c, 0xc2, 0x63, 0x42, 0xe3, 0x10, 0x64, 0xdc, 0x23, 0x7a, 0x13,
        0x3f, 0x27, 0xe7, 0xfb, 0xcb, 0x5e, 0xd9, 0x49, 0x49, 0x3e, 0xbf, 0x29, 0x12, 0xb4, 0xb7, 0x67]),
      (stringBytes ("Dart SDK version: 3.5.0 (stable) on \"linux_x64\"\n" ++
        "8e63296cea3cc26342e31064dc237a133f27e7fbcb5ed949493ebf2912b4b767"),
        [0x74, 0x9d, 0x23, 0xcb, 0x32, 0xd9, 0x94, 0x83, 0xd2, 0x79, 0xa8, 0xb0, 0xc8, 0x03, 0x86, 0xfa,
        0x3e, 0x4d, 0x42, 0xec, 0xb8, 0x45, 0x28, 0xb7, 0x87, 0x80, 0x94, 0x2b, 0xd2, 0x34, 0x2d, 0xd9])] }

def versionLine : String := "Dart SDK version: 3.5.0 (stable) on \"linux_x64\"\n"

/-- A checkout with this compiler and this text about it. -/
def checkout (compiler readme : Bytes) : World where
  files := fun dir name =>
    if dir ≠ "tool" then none
    else if name = "README.md" then some readme
    else if name = "fcb_kernel_manifest.dart" then some mainText
    else if name = "fcb_kernel_manifest_compiler.dart" then some compiler
    else none
  manifestTool := none
  ancestors := []
  sdk := {
    dart := "vendor/flutter/bin/cache/dart-sdk/bin/dart"
    present := true
    version := .ok (some versionLine)
    contents := [] }
  sdkRoot := "vendor/flutter/engine/src/flutter/third_party/dart"

def checkoutRev : String := trim ((firstLine versionLine).getD "unknown")

def checkoutKey : String := toolLib.sha256Hex (stringBytes s!"{checkoutRev}\n{toolLib.sha256Hex mainText}")

theorem toolKey_checkout (compiler readme : Bytes) :
    toolKey toolLib (checkout compiler readme) = .ok checkoutKey := rfl

/-- The names that are reached in a checkout. -/
theorem checkout_reached {compiler readme : Bytes} {name : String}
    (reached : partDart.Reached (checkout compiler readme).sources name) : name ≠ "README.md" := by
  cases reached with
  | main =>
      show "fcb_kernel_manifest.dart" ≠ "README.md"
      decide
  | @reference other _ contents _ _ refers =>
      have listed : name ∈ (if contents = mainText then ["fcb_kernel_manifest_compiler.dart"] else []) := refers
      split at listed
      · rw [List.mem_singleton.mp listed]
        decide
      · cases listed

theorem checkout_agree (compiler readme other : Bytes) :
    partDart.Agree (checkout compiler readme).sources (checkout compiler other).sources where
  main := rfl
  files := by
    intro name reached
    have apart := checkout_reached reached
    show (if name = "README.md" then _ else _) = (if name = "README.md" then _ else _)
    rw [if_neg apart, if_neg apart]

/-- A first call, an edit of the text beside the tool and another call. -/
theorem prepared_tool_current_readme :
    let before := checkout (stringBytes "const version = 1;\n") []
    let after := checkout (stringBytes "const version = 1;\n") (stringBytes "The tool\n")
    after.preparedTool.parts (editedShop partDart checkoutKey before after) =
      partDart.toolOf after.sdk after.sources := by
  intro before after
  have known := toolKey_checkout (stringBytes "const version = 1;\n") []
  have same := toolKey_checkout (stringBytes "const version = 1;\n") (stringBytes "The tool\n")
  have between : runFrom (toolStep toolLib partDart) (Workshop.fresh before) [.prepare .quiet, .change after] = _ :=
    runFrom_edited (by decide) known
  have kept : Guarded (toolStep toolLib partDart) (fun shop step => step.Keeps toolLib partDart shop)
      (Workshop.fresh before) ([.prepare .quiet, .change after] ++ [.prepare .quiet]) := by
    apply guarded_append.mpr
    refine ⟨⟨quiet_keeps_fresh before, trivial, trivial⟩, ?_⟩
    rw [between]
    exact ⟨quiet_keeps rfl rfl (checkout_agree _ _ _), trivial⟩
  have returned : prepare toolLib partDart .quiet
      (runFrom (toolStep toolLib partDart) (Workshop.fresh before) [.prepare .quiet, .change after]) =
        (.ok after.preparedTool, editedShop partDart checkoutKey before after) := by
    rw [between]
    exact stale_after_edit (by decide) same
  exact prepared_tool_current partDart_ofSources kept returned

/-- The part that was edited is not in the snapshot. -/
theorem edited_part_is_stale :
    let shop := runFrom (toolStep toolLib partDart) (Workshop.fresh (checkout (stringBytes "const version = 1;\n") []))
      [.prepare .quiet, .change (checkout (stringBytes "const version = 2;\n") [])]
    partDart.OfSources ∧ ∃ tool, prepare toolLib partDart .quiet shop = (.ok tool, shop) ∧
      tool.parts shop ≠ partDart.toolOf shop.world.sdk shop.world.sources := by
  intro shop
  have known := toolKey_checkout (stringBytes "const version = 1;\n") []
  have same := toolKey_checkout (stringBytes "const version = 2;\n") []
  have reached : shop = _ := runFrom_edited (by decide) known
  rw [reached]
  refine ⟨partDart_ofSources, _, stale_after_edit (by decide) same, ?_⟩
  intro current
  have snapshots := Option.some.inj (congrArg Prod.fst current)
  revert snapshots
  decide

end CodePush.Cli
