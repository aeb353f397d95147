import CodePush.Updater.StateProperties
import CodePush.Bytecode.BinaryProperties

/-!
# Does an installed patch boot

After an install the new patch is pending. Reports on other patches may come in
before the next launch, since the download runs beside the application.
-/

set_option autoImplicit false

namespace CodePush.Updater

open CodePush.Core CodePush.Foundation CodePush.Bytecode

/-- An install or a launch that went through. -/
def Answer.completes : Answer → Bool
  | .installed => true
  | .launched _ => true
  | _ => false

/-- The call leaves the fate of `patchNumber` open: nothing is installed, nothing is
launched, and the patch is not marked bad. -/
def Quiet (lib : Primitives) (patchNumber : Nat) (disk : Disk) (call : Call) : Prop :=
  (perform lib call disk).1.completes = false ∧
    ∀ reason, call.request ≠ .markFailure patchNumber reason

/-- The call does not report success on another patch. A report on a patch that is
bad, or whose launch already failed, is refused. -/
def ReportsNoOther (patchNumber : Nat) (disk : Disk) (call : Call) : Prop :=
  call.request = .markSuccess → ∀ last, disk.state.lastLaunch = some last →
    last.patchNumber = patchNumber ∨ last.patchNumber ∈ disk.state.badPatches ∨
      ∃ reason, last.status = .failure reason

/-- The next launch takes this patch. -/
structure Awaiting (patchNumber : Nat) (state : State) : Prop where
  good : patchNumber ∉ state.badPatches
  installed : state.isInstalled patchNumber = true
  unattempted : state.bootAttempts = 0
  chosen : state.pendingPatchNumber = some patchNumber ∨
    state.pendingPatchNumber = none ∧ state.currentPatchNumber = patchNumber ∧
      state.lastKnownGoodPatchNumber = some patchNumber

theorem Awaiting.of_install {state : State} {releaseVersion : String} (patch : InstalledPatch)
    (good : patch.patchNumber ∉ state.badPatches) :
    Awaiting patch.patchNumber (state.install releaseVersion patch) where
  good := good
  installed := State.install_isInstalled (.inr rfl)
    (State.not_prunedBy_of_keeps (by simp [State.keepsOnPrune, State.addInstalled]))
  unattempted := rfl
  chosen := .inl rfl

theorem Awaiting.markFailure {state : State} {patchNumber other : Nat} {reason now : String}
    (awaiting : Awaiting patchNumber state) (different : other ≠ patchNumber) :
    Awaiting patchNumber (state.markFailure other reason now) where
  good := by
    have good := awaiting.good
    simp only [State.markFailure, State.markPatchBad]
    split
    · exact good
    · simp [good, different.symm]
  installed := awaiting.installed
  unattempted := rfl
  chosen := by
    rcases awaiting.chosen with pending | ⟨pending, current, known⟩
    · simp [State.markFailure, State.markPatchBad, pending, different.symm]
    · simp [State.markFailure, State.markPatchBad, pending, current, known, different.symm]

theorem Awaiting.succeeded {state : State} {patchNumber : Nat} {last : LastLaunch}
    (awaiting : Awaiting patchNumber state) (same : last.patchNumber = patchNumber) :
    Awaiting patchNumber (state.succeeded last) where
  good := awaiting.good
  installed := awaiting.installed
  unattempted := rfl
  chosen := .inr ⟨rfl, same, congrArg some same⟩

/-- One quiet call keeps the patch next in line. -/
theorem Awaiting.step {lib : Primitives} {patchNumber : Nat} {disk : Disk} {call : Call}
    (awaiting : Awaiting patchNumber disk.state) (quiet : Quiet lib patchNumber disk call)
    (reports : ReportsNoOther patchNumber disk call) :
    Awaiting patchNumber (perform lib call disk).2.state := by
  obtain ⟨incomplete, notBad⟩ := quiet
  have effect := perform_effect lib call disk
  generalize (perform lib call disk).2.state = after at effect ⊢
  generalize (perform lib call disk).1 = answered at effect incomplete
  cases effect with
  | failed => exact awaiting
  | installed => cases incomplete
  | launched => cases incomplete
  | ready => exact awaiting
  | succeeded asked launched good reported =>
      rcases reports asked _ launched with same | bad | ⟨reason, failed⟩
      · exact awaiting.succeeded same
      · exact absurd bad good
      · exact absurd failed (reported reason)
  | failure asked =>
      refine awaiting.markFailure ?_
      rintro rfl
      exact notBad _ asked

/-!
## The next launch
-/

/-- Settling does not change the selection before a third attempt. -/
theorem State.settleLastLaunch_select {state : State} (unattempted : state.bootAttempts = 0) :
    state.settleLastLaunch.selectLaunchPatchNumber = state.selectLaunchPatchNumber := by
  unfold State.settleLastLaunch
  split
  · rfl
  · rw [unattempted]
    rfl

theorem Awaiting.selected {state : State} {patchNumber : Nat}
    (awaiting : Awaiting patchNumber state) :
    state.selectLaunchPatchNumber = some patchNumber := by
  obtain ⟨good, installed, _, chosen⟩ := awaiting
  have usable : (decide (patchNumber ∉ state.badPatches) && state.isInstalled patchNumber) = true := by
    simp [good, installed]
  unfold State.selectLaunchPatchNumber State.launchCandidates
  rcases chosen with pending | ⟨pending, current, known⟩
  · rw [pending]
    exact List.find?_cons_of_pos usable
  · rw [pending, current, known]
    split
    · exact List.find?_cons_of_pos usable
    · exact List.find?_cons_of_pos usable

theorem Awaiting.launches {lib : Primitives} {patchNumber : Nat} {disk : Disk} {call : Call}
    (awaiting : Awaiting patchNumber disk.state) (asked : call.request = .launchPatch) :
    (∃ patch, (perform lib call disk).1 = .launched (some patch) ∧ patch.patchNumber = patchNumber) ∨
      ∃ error, (perform lib call disk).1 = .failed error ∧ call.env.Faulted error := by
  have effect := perform_effect lib call disk
  generalize (perform lib call disk).2.state = after at effect
  generalize (perform lib call disk).1 = answered at effect ⊢
  have selected : disk.state.settleLastLaunch.selectLaunchPatchNumber = some patchNumber := by
    rw [State.settleLastLaunch_select awaiting.unattempted]
    exact awaiting.selected
  cases effect with
  | failed faulted => exact .inr ⟨_, rfl, faulted asked⟩
  | launched =>
      obtain ⟨patch, found, number⟩ := State.launch_of_selected call.env.now selected
      exact .inl ⟨patch, by rw [found], number⟩
  | installed other => rw [asked] at other; cases other
  | ready other => rw [asked] at other; cases other
  | succeeded other => rw [asked] at other; cases other
  | failure other => rw [asked] at other; cases other

/-- An installed patch is launched next, whatever quiet calls come in between, as
long as none of them reports success on another patch. A launch can only fail
with an error of the file system. -/
theorem installed_patch_boots_next (lib : Primitives) (disk : Disk) (install launch : Call)
    (request : InstallRequest) (manifest : PatchManifest) (between : List Call)
    (asked : install.request = .install request)
    (accepted : acceptPatch lib install.env request = .ok manifest)
    (installed : (perform lib install disk).1 = .installed)
    (good : manifest.patchNumber ∉ disk.state.badPatches)
    (quiet : Guarded (perform lib) (Quiet lib manifest.patchNumber)
      (perform lib install disk).2 between)
    (reports : Guarded (perform lib) (ReportsNoOther manifest.patchNumber)
      (perform lib install disk).2 between)
    (launches : launch.request = .launchPatch) :
    let reached := runFrom (perform lib) (perform lib install disk).2 between
    (∃ patch, (perform lib launch reached).1 = .launched (some patch) ∧
      patch.patchNumber = manifest.patchNumber) ∨
    ∃ error, (perform lib launch reached).1 = .failed error ∧ launch.env.Faulted error := by
  have effect := perform_effect lib install disk
  have initially : Awaiting manifest.patchNumber (perform lib install disk).2.state := by
    generalize (perform lib install disk).2.state = after at effect ⊢
    rw [installed] at effect
    cases effect with
    | installed again accepts =>
        rw [asked] at again
        cases again
        rw [accepted] at accepts
        cases accepts
        exact Awaiting.of_install (installedRecord install.env manifest _) good
  have awaiting := (quiet.and reports).invariant
    (fun disk => Awaiting manifest.patchNumber disk.state)
    (fun disk call awaiting allowed => awaiting.step allowed.1 allowed.2) initially
  exact awaiting.launches launches

/-!
## Signed patches
-/

/-- The Ed25519 signatures of patches 1 to 3 below. -/
def sampleSignature : Nat → String × Bytes
  | 1 => ("0GND5zGggGatA/BVZawe88yFOn85gltmtB/Ehk6IJ+2Rcv3/Uo8BlnpAJnERSA7PioHm5YUSgx8VcGmC0JsdBw==",
      [208, 99, 67, 231, 49, 160, 128, 102, 173, 3, 240, 85, 101, 172, 30, 243, 204, 133, 58,
      127, 57, 130, 91, 102, 180, 31, 196, 134, 78, 136, 39, 237, 145, 114, 253, 255, 82, 143,
      1, 150, 122, 64, 38, 113, 17, 72, 14, 207, 138, 129, 230, 229, 133, 18, 131, 31, 21, 112,
      105, 130, 208, 155, 29, 7])
  | 2 => ("ClJLgw43SyyqV0J2Z16xCjs3BV5uO2dpJvTMPgAnOyKJHeuwAyPu2WlsMJmTVNCi/zCZ5wPQQbGqHhDFvW+RAA==",
      [10, 82, 75, 131, 14, 55, 75, 44, 170, 87, 66, 118, 103, 94, 177, 10, 59, 55, 5, 94, 110,
      59, 103, 105, 38, 244, 204, 62, 0, 39, 59, 34, 137, 29, 235, 176, 3, 35, 238, 217, 105,
      108, 48, 153, 147, 84, 208, 162, 255, 48, 153, 231, 3, 208, 65, 177, 170, 30, 16, 197,
      189, 111, 145, 0])
  | _ => ("ggWigPnPfXGN6Z7HuQ1AqoUHIuNtWrodsvSaLnzMQ//EAhvqf6/jZdyPNlNvwM8D56uQF/DjGxKiJe46k+38Bg==",
      [130, 5, 162, 128, 249, 207, 125, 113, 141, 233, 158, 199, 185, 13, 64, 170, 133, 7, 34,
      227, 109, 90, 186, 29, 178, 244, 154, 46, 124, 204, 67, 255, 196, 2, 27, 234, 127, 175,
      227, 101, 220, 143, 54, 83, 111, 192, 207, 3, 231, 171, 144, 23, 240, 227, 27, 18, 162,
      37, 238, 58, 147, 237, 252, 6])

def sampleKey : String × Bytes :=
  ("X76pTeL16gvki7J+Z5bSqlmsCvkcnHAazYlEIca4DCI=",
    [95, 190, 169, 77, 226, 245, 234, 11, 228, 139, 178, 126, 103, 150, 210, 170, 89, 172, 10,
    249, 28, 156, 112, 26, 205, 137, 68, 33, 198, 184, 12, 34])

def samplePayload : Bytes := BytecodeModule.olderModuleBytes

/-- The SHA-256 of the payload. -/
def sampleDigest : Bytes :=
  [1, 184, 253, 4, 93, 120, 136, 162, 201, 178, 55, 247, 63, 19, 42, 19, 1, 165, 219, 118, 220,
  240, 205, 118, 143, 132, 240, 40, 142, 196, 159, 63]

def sampleManifest (patchNumber : Nat) : PatchManifest where
  schemaVersion := 1
  appId := "counter"
  releaseVersion := "1.0.0"
  patchNumber := patchNumber
  channel := "stable"
  createdAt := "0"
  backend := "bytecode"
  platform := "android"
  arch := "arm64"
  payload :=
    { kind := "bytecode_module", compression := "none"
      hash := "01b8fd045d7888a2c9b237f73f132a1301a5db76dcf0cd768f84f0288ec49f3f"
      size := 48, downloadUrl := s!"patches/{patchNumber}"
      diffAlgorithm := none, baseHash := none, outputHash := none }
  policy := { rolloutPercentage := 100, allowDowngrade := false }
  signature := { algorithm := "ed25519", keyId := "dev", value := (sampleSignature patchNumber).1 }

/-- The file starts with the patch number, which is the only part that varies besides
the signature. -/
def sampleManifestFile (patchNumber : Nat) : Bytes :=
  stringBytes "\x7b\"patch_number\":" ++ UInt8.ofNat (48 + patchNumber) ::
    stringBytes (
      ",\"schema_version\":1,\"app_id\":\"counter\",\"release_version\":\"1.0.0\"," ++
      "\"channel\":\"stable\",\"created_at\":\"0\",\"backend\":\"bytecode\"," ++
      "\"platform\":\"android\",\"arch\":\"arm64\",\"payload\":" ++
      (sampleManifest patchNumber).payload.toValue.print ++ ",\"policy\":" ++
      (sampleManifest patchNumber).policy.toValue.print ++ ",\"signature\":" ++
      (sampleManifest patchNumber).signature.toValue.print ++ "\x7d")

/-- The SHA-256 of the manifest file of patch 1. -/
def sampleManifestDigest : Bytes :=
  [60, 170, 9, 208, 215, 25, 73, 212, 55, 62, 224, 55, 98, 165, 99, 240, 217, 199, 22, 178, 187,
  62, 177, 95, 213, 64, 148, 63, 163, 41, 108, 105]

/-- The libraries, at the inputs of the sample patches. -/
def sampleLib : Primitives where
  parseManifest := fun bytes =>
    match bytes[16]? with
    | some digit => .ok (sampleManifest (digit.toNat - 48))
    | none => .error (.json "EOF while parsing a value at line 1 column 16")
  parseModule := fun _ => .error (.json "expected value at line 1 column 1")
  parseSimpleDiff := fun _ => .error (.json "expected value at line 1 column 1")
  sha256 := fun bytes =>
    if bytes = samplePayload then sampleDigest
    else if bytes[16]? = some 49 then sampleManifestDigest
    else []
  decodeBase64 := fun text =>
    match (sampleKey :: [1, 2, 3].map sampleSignature).find? (·.1 = text) with
    | some (_, bytes) => .ok bytes
    | none => .error "Invalid symbol"
  encodeBase64 := fun bytes =>
    match (sampleKey :: [1, 2, 3].map sampleSignature).find? (·.2 = bytes) with
    | some (text, _) => text
    | none => ""
  verifyingKey := fun _ => .ok ()
  signature := fun _ => .ok ()
  verify := fun key _ signature =>
    if key = sampleKey.2 ∧ signature ∈ [1, 2, 3].map (fun number => (sampleSignature number).2) then
      .ok ()
    else .error "signature error"
  zstdDecode := fun _ => .error (.io "Unknown frame descriptor")
  bsdiffPatch := fun _ _ => .error (.io "failed to fill whole buffer")

def sampleEnv : Environment where
  now := "0"
  io := fun _ => .ok ()

def sampleCall (request : Request) : Call where
  env := sampleEnv
  request := request

def sampleInstall (patchNumber : Nat) : InstallRequest where
  manifestFile := sampleManifestFile patchNumber
  payloadFile := samplePayload
  publicKeyB64 := sampleKey.1
  baseline := none

/-- Patch 1 is installed and running. -/
def sampleHistory : List Call :=
  [sampleCall (.install (sampleInstall 1)), sampleCall .launchPatch]

def sampleDisk : Disk := runFrom (perform sampleLib) Disk.empty sampleHistory

/-- Patch 2 is installed; a report that some other patch failed does not keep it
from being launched. -/
theorem sample_patch_boots_next :
    let installed := perform sampleLib (sampleCall (.install (sampleInstall 2))) sampleDisk
    let between := [sampleCall .readyPatch, sampleCall (.markFailure 1 "crash")]
    let reached := runFrom (perform sampleLib) installed.2 between
    Guarded (perform sampleLib) (ReportsNoOther 2) installed.2 between ∧
    ((∃ patch, (perform sampleLib (sampleCall .launchPatch) reached).1 = .launched (some patch) ∧
      patch.patchNumber = 2) ∨
    ∃ error, (perform sampleLib (sampleCall .launchPatch) reached).1 = .failed error ∧
      sampleEnv.Faulted error) := by
  intro installed between reached
  have reports : Guarded (perform sampleLib) (ReportsNoOther 2) installed.2 between :=
    ⟨(by intro asked; cases asked), (by intro asked; cases asked), trivial⟩
  have accepted : acceptPatch sampleLib sampleEnv (sampleInstall 2) = .ok (sampleManifest 2) := by
    decide
  refine ⟨reports, installed_patch_boots_next sampleLib sampleDisk _ _ (sampleInstall 2)
    (sampleManifest 2) between rfl accepted (by decide) (by decide) ?_ reports rfl⟩
  refine ⟨⟨by decide, ?_⟩, ⟨by decide, ?_⟩, trivial⟩
  · intro reason asked
    cases asked
  · intro reason asked
    cases asked

/-- Patch 1 is running when patch 2 is installed. The report that patch 1 booted
takes back the pending update: patch 1 is launched again. -/
theorem success_report_drops_pending_patch :
    ¬ ∀ (lib : Primitives) (history : List Call) (install launch : Call) (request : InstallRequest)
        (manifest : PatchManifest) (between : List Call),
      let disk := runFrom (perform lib) Disk.empty history
      install.request = .install request →
      acceptPatch lib install.env request = .ok manifest →
      (perform lib install disk).1 = .installed →
      manifest.patchNumber ∉ disk.state.badPatches →
      Guarded (perform lib) (Quiet lib manifest.patchNumber) (perform lib install disk).2 between →
      launch.request = .launchPatch →
      let reached := runFrom (perform lib) (perform lib install disk).2 between
      (∃ patch, (perform lib launch reached).1 = .launched (some patch) ∧
        patch.patchNumber = manifest.patchNumber) ∨
      ∃ error, (perform lib launch reached).1 = .failed error ∧ launch.env.Faulted error := by
  intro durable
  have accepted : acceptPatch sampleLib sampleEnv (sampleInstall 2) = .ok (sampleManifest 2) := by
    decide
  have quiet : Guarded (perform sampleLib) (Quiet sampleLib 2)
      (perform sampleLib (sampleCall (.install (sampleInstall 2))) sampleDisk).2
      [sampleCall .markSuccess] := by
    refine ⟨⟨by decide, ?_⟩, trivial⟩
    intro reason asked
    cases asked
  have launched : (perform sampleLib (sampleCall .launchPatch)
      (runFrom (perform sampleLib)
        (perform sampleLib (sampleCall (.install (sampleInstall 2)))
          (runFrom (perform sampleLib) Disk.empty sampleHistory)).2
        [sampleCall .markSuccess])).1 =
      .launched (some (installedRecord sampleEnv (sampleManifest 1) none)) := by
    decide
  rcases durable sampleLib sampleHistory (sampleCall (.install (sampleInstall 2)))
    (sampleCall .launchPatch) (sampleInstall 2) (sampleManifest 2) [sampleCall .markSuccess] rfl
    accepted (by decide) (by decide) quiet rfl with ⟨patch, found, number⟩ | ⟨error, failed, _⟩
  · rw [launched] at found
    cases found
    cases number
  · rw [launched] at failed
    cases failed

end CodePush.Updater
