import CodePush.Core.Manifest
import CodePush.Foundation.Effects

/-!
# The updater

`Updater` of `crates/fcb_core/src/state.rs`: the persisted state, the patch
directories and the operations on them. Every call to the file system may fail;
`Environment` says which ones do. The parsed form of `state.json` stands for
the file, since the updater is its only writer.
-/

set_option autoImplicit false

namespace CodePush.Updater

open CodePush.Core CodePush.Foundation CodePush.Bytecode

def stateSchemaVersion : Nat := 2
def maxBootAttempts : Nat := 3
def maxRollbackEvents : Nat := 50

/-!
## Data
-/

/-- The `status` string of a launch; `failure:` is followed by the reason. Other
texts can only come from a file that another program wrote. -/
inductive LaunchStatus where
  | pendingSuccess
  | success
  | failure (reason : String)
  | other (text : String)
  deriving Repr, DecidableEq

structure LastLaunch where
  patchNumber : Nat
  status : LaunchStatus
  startedAt : String
  deriving Repr, DecidableEq

structure InstalledPatch where
  patchNumber : Nat
  backend : String
  manifestPath : String
  payloadPath : String
  artifactPath : Option String
  installedAt : String
  deriving Repr, DecidableEq

structure State where
  schemaVersion : Nat
  releaseVersion : String
  currentPatchNumber : Nat
  pendingPatchNumber : Option Nat
  lastKnownGoodPatchNumber : Option Nat
  bootAttempts : Nat
  badPatches : List Nat
  lastLaunch : Option LastLaunch
  installed : List InstalledPatch
  deriving Repr, DecidableEq

inductive EventType where
  | crashRollback
  | stateReset
  deriving Repr, DecidableEq

structure CrashRollbackEvent where
  eventType : EventType
  patchNumber : Nat
  bootAttempts : Nat
  lastKnownGoodPatchNumber : Option Nat
  timestamp : String
  reason : Option String
  deriving Repr, DecidableEq

/-- `patches/<number>`. -/
structure PatchDir where
  manifest : Option Bytes
  payload : Option Bytes
  artifact : Option Bytes
  deriving Repr, DecidableEq

inductive StateFile where
  | missing
  | corrupt (parseError : String)
  | saved (state : State)
  deriving Repr, DecidableEq

/-- The cache directory. The backups of corrupt state files are never read again
and are left out. -/
structure Disk where
  stateFile : StateFile
  patches : Nat → Option PatchDir
  events : List CrashRollbackEvent

inductive IoCall where
  | readState | backupState | saveState | appendEvent | readEvents | clearEvents
  | readManifest | readPayload | readBaseline
  | createPatchDir | writeManifest | writePayload | writeArtifact
  | readArtifact (path : String)
  | removePatchDir (patchNumber : Nat)
  deriving Repr, DecidableEq

/-- The clock, and the outcome of each file system call, during one operation. -/
structure Environment where
  now : String
  io : IoCall → Result Unit

abbrev Op (α : Type) := Action Error Disk α

/-- `State::default()` with the current schema version. -/
def State.fresh : State where
  schemaVersion := stateSchemaVersion
  releaseVersion := ""
  currentPatchNumber := 0
  pendingPatchNumber := none
  lastKnownGoodPatchNumber := none
  bootAttempts := 0
  badPatches := []
  lastLaunch := none
  installed := []

/-- A cache directory in which nothing was ever written. -/
def Disk.empty : Disk where
  stateFile := .missing
  patches := fun _ => none
  events := []

/-!
## Changes of the state
-/

/-- `u32::saturating_add(1)`. -/
def saturatingSucc (count : Nat) : Nat := min (count + 1) (2 ^ 32 - 1)

namespace State

def migrate (state : State) : State :=
  if state.schemaVersion < stateSchemaVersion then
    { state with
      lastKnownGoodPatchNumber :=
        if state.lastKnownGoodPatchNumber.isNone && decide (state.currentPatchNumber > 0) then
          some state.currentPatchNumber
        else state.lastKnownGoodPatchNumber
      schemaVersion := stateSchemaVersion }
  else state

def markPatchBad (state : State) (patchNumber : Nat) : State :=
  { state with
    badPatches :=
      if patchNumber ∈ state.badPatches then state.badPatches
      else state.badPatches ++ [patchNumber]
    currentPatchNumber :=
      if state.currentPatchNumber = patchNumber then
        (state.lastKnownGoodPatchNumber.filter (· ≠ patchNumber)).getD 0
      else state.currentPatchNumber
    pendingPatchNumber :=
      if state.pendingPatchNumber = some patchNumber then none else state.pendingPatchNumber
    lastKnownGoodPatchNumber :=
      if state.lastKnownGoodPatchNumber = some patchNumber then none
      else state.lastKnownGoodPatchNumber
    bootAttempts := 0 }

def isInstalled (state : State) (patchNumber : Nat) : Bool :=
  state.installed.any (·.patchNumber = patchNumber)

/-- `installed.iter().find(..)`. -/
def findInstalled (state : State) (patchNumber : Nat) : Option InstalledPatch :=
  state.installed.find? (·.patchNumber = patchNumber)

def launchCandidates (state : State) : List Nat :=
  state.pendingPatchNumber.toList ++
    (if state.currentPatchNumber > 0 then [state.currentPatchNumber] else []) ++
    state.lastKnownGoodPatchNumber.toList

def selectLaunchPatchNumber (state : State) : Option Nat :=
  state.launchCandidates.find? fun patchNumber =>
    decide (patchNumber ∉ state.badPatches) && state.isInstalled patchNumber

def isPendingSuccess (state : State) : Option Nat :=
  match state.lastLaunch with
  | some { patchNumber, status := .pendingSuccess, .. } => some patchNumber
  | _ => none

/-- The first half of `launch_patch`: an earlier launch that was never reported. -/
def settleLastLaunch (state : State) : State :=
  match state.isPendingSuccess with
  | none => state
  | some patchNumber =>
      let state :=
        if saturatingSucc state.bootAttempts ≥ maxBootAttempts then state.markPatchBad patchNumber
        else state
      { state with lastLaunch := none }

/-- The event that the first half logs. -/
def crashRollback (state : State) (now : String) : Option CrashRollbackEvent :=
  match state.isPendingSuccess with
  | none => none
  | some patchNumber =>
      if saturatingSucc state.bootAttempts ≥ maxBootAttempts then
        some
          { eventType := .crashRollback, patchNumber, bootAttempts := saturatingSucc state.bootAttempts
            lastKnownGoodPatchNumber := state.lastKnownGoodPatchNumber, timestamp := now
            reason := none }
      else none

/-- The second half of `launch_patch`, once a patch was found. -/
def recordLaunch (state : State) (patchNumber : Nat) (now : String) : State :=
  { state with
    bootAttempts := saturatingSucc state.bootAttempts
    lastLaunch := some { patchNumber, status := .pendingSuccess, startedAt := now } }

def keepsOnPrune (state : State) (patchNumber : Nat) : Bool :=
  decide (patchNumber = state.currentPatchNumber) ||
    decide (some patchNumber = state.pendingPatchNumber) ||
    decide (some patchNumber = state.lastKnownGoodPatchNumber)

end State

/-- The `while` loop of the install: what it removes, in order, and what remains.
It ends within as many rounds as there are records. -/
def pruneInstalled (keeps : Nat → Bool) :
    Nat → List InstalledPatch → List InstalledPatch × List InstalledPatch
  | 0, installed => ([], installed)
  | rounds + 1, installed =>
      if installed.length > 2 then
        match installed.find? (!keeps ·.patchNumber) with
        | none => ([], installed)
        | some old =>
            let rest := installed.eraseP (!keeps ·.patchNumber)
            let (removed, kept) := pruneInstalled keeps rounds rest
            (old :: removed, kept)
      else ([], installed)

/-- `sort_by_key(|p| p.patch_number)`, a stable sort. -/
def sortInstalled (installed : List InstalledPatch) : List InstalledPatch :=
  installed.insertionSort fun a b => a.patchNumber ≤ b.patchNumber

namespace State

/-- The state right before the pruning loop. -/
def addInstalled (state : State) (releaseVersion : String) (patch : InstalledPatch) : State :=
  { state with
    schemaVersion := stateSchemaVersion
    releaseVersion
    pendingPatchNumber := some patch.patchNumber
    bootAttempts := 0
    installed := sortInstalled
      (state.installed.filter (·.patchNumber ≠ patch.patchNumber) ++ [patch]) }

def pruned (state : State) : List InstalledPatch × List InstalledPatch :=
  pruneInstalled state.keepsOnPrune state.installed.length state.installed

end State

/-!
## Operations
-/

def io (env : Environment) (call : IoCall) : Op Unit := Action.attempt (env.io call)

def lift {α : Type} (result : Result α) : Op α := Action.attempt result

def appendRollbackEvent (env : Environment) (event : CrashRollbackEvent) : Op Unit := do
  io env .appendEvent
  modify fun disk =>
    let events := disk.events ++ [event]
    { disk with events := events.drop (events.length - maxRollbackEvents) }

def loadState (env : Environment) : Op State := do
  let disk ← get
  match disk.stateFile with
  | .missing => pure State.fresh
  | .corrupt parseError => do
      io env .readState
      io env .backupState
      modify fun disk => { disk with stateFile := .missing }
      appendRollbackEvent env
        { eventType := .stateReset, patchNumber := 0, bootAttempts := 0
          lastKnownGoodPatchNumber := none, timestamp := env.now
          reason := some s!"failed to parse state.json: {parseError}" }
      pure State.fresh
  | .saved state => do
      io env .readState
      pure state.migrate

def saveState (env : Environment) (state : State) : Op Unit := do
  io env .saveState
  modify fun disk => { disk with stateFile := .saved state }

/-- The files an install is given, and the key it verifies with. -/
structure InstallRequest where
  manifestFile : Bytes
  payloadFile : Bytes
  publicKeyB64 : String
  baseline : Option Bytes
  deriving Repr, DecidableEq

def validatePayloadContract (lib : Primitives) (manifest : PatchManifest) (payload : Bytes) :
    Result Unit :=
  if manifest.backend = "bytecode" then
    if manifest.payload.kind ≠ "bytecode_module" then
      err "bytecode backend requires bytecode_module payload"
    else do
      let _ ← BytecodeModule.fromSliceEnvelope lib.parseModule payload
      .ok ()
  else if manifest.backend = "snapshot_replace" then
    if manifest.payload.kind ≠ "binary_diff" then
      err "snapshot_replace backend requires binary_diff payload"
    else if manifest.payload.diffAlgorithm.isNone then
      err "snapshot_replace binary_diff requires diff_algorithm"
    else if manifest.payload.baseHash.isNone then
      err "snapshot_replace binary_diff requires base_hash"
    else if manifest.payload.outputHash.isNone then
      err "snapshot_replace binary_diff requires output_hash"
    else .ok ()
  else err s!"unsupported patch backend {manifest.backend}"

/-- The loop of `find_diff_base` over installed artifacts, latest first. A record's
artifact is the `libapp.so` of its own directory. -/
def findArtifact (lib : Primitives) (env : Environment) (patches : Nat → Option PatchDir)
    (expectedHash : String) : List InstalledPatch → Option Bytes
  | [] => none
  | patch :: older =>
      match patch.artifactPath with
      | none => findArtifact lib env patches expectedHash older
      | some path =>
          match env.io (.readArtifact path), (patches patch.patchNumber).bind (·.artifact) with
          | .ok _, some candidate =>
              if lib.sha256Hex candidate = expectedHash then some candidate
              else findArtifact lib env patches expectedHash older
          | _, _ => findArtifact lib env patches expectedHash older

def findDiffBase (lib : Primitives) (env : Environment) (patches : Nat → Option PatchDir)
    (expectedHash : String) (installed : List InstalledPatch) (baseline : Option Bytes) :
    Result Bytes :=
  match findArtifact lib env patches expectedHash installed.reverse with
  | some candidate => .ok candidate
  | none =>
      match baseline with
      | none =>
          err "no installed patch artifact matches base_hash and no baseline artifact provided"
      | some baseline => do
          env.io .readBaseline
          if lib.sha256Hex baseline ≠ expectedHash then
            err "baseline artifact sha256 does not match manifest base_hash"
          else .ok baseline

def snapshotReplaceChainedDiff (lib : Primitives) (env : Environment)
    (patches : Nat → Option PatchDir) (manifest : PatchManifest) (payload : Bytes)
    (installed : List InstalledPatch) (baseline : Option Bytes) : Result Bytes :=
  match manifest.payload.diffAlgorithm with
  | none => err "missing binary diff algorithm"
  | some diffAlgorithm =>
      match manifest.payload.baseHash with
      | none => err "snapshot_replace binary_diff requires base_hash"
      | some expectedBaseHash => do
          let base ← findDiffBase lib env patches expectedBaseHash installed baseline
          let artifact ← applyBinaryDiff lib diffAlgorithm base payload
          match manifest.payload.outputHash with
          | none => .ok artifact
          | some expectedOutputHash =>
              if lib.sha256Hex artifact ≠ expectedOutputHash then
                err "patched artifact sha256 mismatch"
              else .ok artifact

/-- The checks an install makes before it writes anything. -/
def acceptPatch (lib : Primitives) (env : Environment) (request : InstallRequest) :
    Result PatchManifest := do
  env.io .readManifest
  let manifest ← lib.parseManifest request.manifestFile
  verifyPatchManifest lib manifest request.publicKeyB64
  env.io .readPayload
  if lib.sha256Hex request.payloadFile ≠ manifest.payload.hash then err "payload sha256 mismatch"
  else do
    validatePayloadContract lib manifest request.payloadFile
    .ok manifest

def PatchDir.blank : PatchDir where
  manifest := none
  payload := none
  artifact := none

/-- One file of a patch directory; the others stay. -/
def Disk.updateDir (disk : Disk) (patchNumber : Nat) (update : PatchDir → PatchDir) : Disk :=
  { disk with
    patches := fun number =>
      if number = patchNumber then some (update ((disk.patches number).getD .blank))
      else disk.patches number }

def Disk.removeDir (disk : Disk) (patchNumber : Nat) : Disk :=
  { disk with
    patches := fun number => if number = patchNumber then none else disk.patches number }

/-- Failures to remove a directory are ignored. -/
def removePatchDirs (env : Environment) : List InstalledPatch → Op Unit
  | [] => pure ()
  | old :: others => do
      Action.ignore (env.io (.removePatchDir old.patchNumber)) (·.removeDir old.patchNumber)
      removePatchDirs env others

def artifactOf (lib : Primitives) (env : Environment) (request : InstallRequest)
    (manifest : PatchManifest) (state : State) : Op (Option String) :=
  if manifest.backend = "snapshot_replace" then do
    let disk ← get
    let artifact ← lift (snapshotReplaceChainedDiff lib env disk.patches manifest
      request.payloadFile state.installed request.baseline)
    io env .writeArtifact
    modify (·.updateDir manifest.patchNumber ({ · with artifact := some artifact }))
    pure (some s!"patches/{manifest.patchNumber}/libapp.so")
  else pure none

def installedRecord (env : Environment) (manifest : PatchManifest) (artifactPath : Option String) :
    InstalledPatch where
  patchNumber := manifest.patchNumber
  backend := manifest.backend
  manifestPath := s!"patches/{manifest.patchNumber}/manifest.json"
  payloadPath := s!"patches/{manifest.patchNumber}/payload.bin"
  artifactPath := artifactPath
  installedAt := env.now

def installPayloadWithBaseline (lib : Primitives) (env : Environment) (request : InstallRequest) :
    Op Unit := do
  let manifest ← lift (acceptPatch lib env request)
  io env .createPatchDir
  modify (·.updateDir manifest.patchNumber id)
  io env .writeManifest
  modify (·.updateDir manifest.patchNumber ({ · with manifest := some request.manifestFile }))
  io env .writePayload
  modify (·.updateDir manifest.patchNumber ({ · with payload := some request.payloadFile }))
  let state ← loadState env
  let artifactPath ← artifactOf lib env request manifest state
  let state := state.addInstalled manifest.releaseVersion (installedRecord env manifest artifactPath)
  let (removed, kept) := state.pruned
  removePatchDirs env removed
  saveState env { state with installed := kept }

def saveIfChanged (env : Environment) (changed : Bool) (state : State) : Op Unit :=
  if changed then saveState env state else pure ()

/-- The second half of `launch_patch`; `changed` says whether the first half left
something to save. -/
def launchSelected (env : Environment) (changed : Bool) (state : State) :
    Op (Option InstalledPatch) :=
  match state.selectLaunchPatchNumber with
  | none => do
      saveIfChanged env changed state
      pure none
  | some patchNumber =>
      match state.findInstalled patchNumber with
      | none => do
          saveIfChanged env changed state
          pure none
      | some installed => do
          saveState env (state.recordLaunch patchNumber env.now)
          pure (some installed)

def launchPatch (env : Environment) : Op (Option InstalledPatch) := do
  let state ← loadState env
  match state.crashRollback env.now with
  | none => pure ()
  | some event => appendRollbackEvent env event
  launchSelected env state.isPendingSuccess.isSome state.settleLastLaunch

def readyPatch (env : Environment) : Op (Option InstalledPatch) := do
  let state ← loadState env
  match state.pendingPatchNumber with
  | none => pure none
  | some patchNumber =>
      if patchNumber ∈ state.badPatches then pure none
      else pure (state.findInstalled patchNumber)

/-- The state after a launch was reported successful. -/
def State.succeeded (state : State) (last : LastLaunch) : State :=
  { state with
    currentPatchNumber := last.patchNumber
    lastKnownGoodPatchNumber := some last.patchNumber
    pendingPatchNumber := none
    bootAttempts := 0
    lastLaunch := some { last with status := .success } }

def State.markSuccess (state : State) : Result State :=
  match state.lastLaunch with
  | none => err "no last_launch to mark success"
  | some last =>
      if last.patchNumber ∈ state.badPatches then err "cannot mark a bad patch as successful"
      else
        match last.status with
        | .failure _ => err "cannot mark a failed launch as successful"
        | _ => .ok (state.succeeded last)

def markSuccess (env : Environment) : Op Unit := do
  let state ← loadState env
  let state ← lift state.markSuccess
  saveState env state

def State.markFailure (state : State) (patchNumber : Nat) (reason now : String) : State :=
  { state.markPatchBad patchNumber with
    lastLaunch := some { patchNumber, status := .failure reason, startedAt := now } }

def markFailure (env : Environment) (patchNumber : Nat) (reason : String) : Op Unit := do
  let state ← loadState env
  saveState env (state.markFailure patchNumber reason env.now)

/-- The log is absent when it is empty. -/
def rollbackEvents (env : Environment) : Op (List CrashRollbackEvent) := do
  let disk ← get
  if disk.events.isEmpty then pure []
  else do
    io env .readEvents
    pure disk.events

def clearRollbackEvents (env : Environment) : Op Unit := do
  let disk ← get
  if disk.events.isEmpty then pure ()
  else do
    io env .clearEvents
    modify fun disk => { disk with events := [] }

/-!
## Calls
-/

inductive Request where
  | install (request : InstallRequest)
  | launchPatch
  | readyPatch
  | markSuccess
  | markFailure (patchNumber : Nat) (reason : String)
  deriving Repr, DecidableEq

/-- A call of the updater and the environment it meets. -/
structure Call where
  env : Environment
  request : Request

inductive Answer where
  | installed
  | launched (patch : Option InstalledPatch)
  | ready (patch : Option InstalledPatch)
  | marked
  | failed (error : Error)
  deriving Repr, DecidableEq

def answer {α : Type} (onOk : α → Answer) : Result α × Disk → Answer × Disk
  | (.ok value, disk) => (onOk value, disk)
  | (.error error, disk) => (.failed error, disk)

def perform (lib : Primitives) (call : Call) (disk : Disk) : Answer × Disk :=
  match call.request with
  | .install request =>
      answer (fun _ => .installed) (installPayloadWithBaseline lib call.env request disk)
  | .launchPatch => answer .launched (launchPatch call.env disk)
  | .readyPatch => answer .ready (readyPatch call.env disk)
  | .markSuccess => answer (fun _ => .marked) (markSuccess call.env disk)
  | .markFailure patchNumber reason =>
      answer (fun _ => .marked) (markFailure call.env patchNumber reason disk)

end CodePush.Updater
