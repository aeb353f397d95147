import CodePush.Core.Basic
import CodePush.Foundation.Effects
import CodePush.Foundation.LexicalPath

/-!
# Builds on one machine

The artifacts that `fcb release` and `fcb patch` keep under `.fcb` for later patches, as in
`cli/src/main.rs` and `cli/src/auto.rs`. The files are told apart by where their paths lead.
What the build tools, the server and the file system answer is input.
-/

set_option autoImplicit false

namespace CodePush.Cli

open CodePush.Core CodePush.Foundation CodePush.Foundation.Action

/-!
## Paths
-/

/-- What a release is kept for. The texts are those of the server and of the command line. -/
structure ReleaseKey where
  appId : String
  releaseVersion : String
  platform : String
  arch : String
  deriving Repr, DecidableEq

structure PatchKey where
  releaseVersion : String
  patchNumber : Nat
  platform : String
  arch : String
  deriving Repr, DecidableEq

/-- `PathBuf::join`. -/
def joinPath (path part : String) : String := String.ofList (LexicalPath.extend path.toList part.toList)

def fcbDir : String := ".fcb"

def releaseCacheDir (key : ReleaseKey) : String :=
  ["apps", key.appId, "releases", key.releaseVersion, key.platform, key.arch].foldl joinPath fcbDir

def patchCacheDir (key : PatchKey) : String :=
  ["patches", key.releaseVersion, toString key.patchNumber, key.platform, key.arch].foldl joinPath fcbDir

def appSoPath (key : ReleaseKey) : String := joinPath (releaseCacheDir key) "app.so"

def releaseArtifactPath (key : ReleaseKey) : String := joinPath (releaseCacheDir key) "artifact.bin"

def patchArtifactPath (key : PatchKey) : String := joinPath (patchCacheDir key) "artifact.bin"

/-- The directory of a patch of the app: that of every app with this version. -/
def ReleaseKey.patch (key : ReleaseKey) (patchNumber : Nat) : PatchKey where
  releaseVersion := key.releaseVersion
  patchNumber
  platform := key.platform
  arch := key.arch

/-- The names on the way from the root of the file system. -/
abbrev Place := List (List Char)

/-- Where a path leads from the directory that the commands are run in, without links. -/
def place (directory : Place) (path : String) : Place := LexicalPath.locate directory path.toList

/-!
## Files
-/

/-- An artifact, with what it was built for, which is not in the file. -/
structure Built where
  release : ReleaseKey
  patchNumber : Option Nat
  bytes : Bytes
  deriving Repr, DecidableEq

/-- `files` has what is at a place, if it is an artifact. `built` has every artifact that was
kept, oldest first; no command reads it. -/
structure BuildCache where
  directory : Place
  directories : List Place
  files : Place → Option Built
  built : List Built

def BuildCache.empty (directory : Place) : BuildCache where
  directory
  directories := []
  files := fun _ => none
  built := []

abbrev CacheOp (α : Type) := Action Error BuildCache α

def BuildCache.file (cache : BuildCache) (path : String) : Option Built := cache.files (place cache.directory path)

def BuildCache.put (cache : BuildCache) (path : String) (built : Built) : BuildCache :=
  { cache with
    files := fun other => if other = place cache.directory path then some built else cache.files other }

def BuildCache.keep (cache : BuildCache) (built : Built) : BuildCache :=
  { cache with built := cache.built ++ [built] }

def BuildCache.makeDirectory (cache : BuildCache) (path : String) : BuildCache :=
  { cache with directories := place cache.directory path :: cache.directories }

/-- `fs::create_dir_all`, which makes the directories on the way as well. -/
def createDirAll (outcome : Result Unit) (path : String) : CacheOp Unit := do
  attempt outcome
  modify fun cache => cache.makeDirectory path

def BuildCache.hasDirectory (cache : BuildCache) (path : String) : Bool :=
  cache.directories.any fun made => (place cache.directory path).isPrefixOf made

def writeFile (outcome : FileWrite) (path : String) (built : Built) : CacheOp Unit :=
  match outcome with
  | .done => modify fun cache => cache.put path built
  | .refused error => throw error
  | .cut kept error => do
      modify fun cache => cache.put path { built with bytes := built.bytes.take kept }
      throw error

/-- What the file system answers for a path that is read. -/
inductive Look where
  | works
  /-- An error on the way to the file, for which `exists` is false. -/
  | unseen
  /-- Something is there that is not read, such as a directory. -/
  | unreadable (error : Error)
  deriving Repr, DecidableEq

/-- What reading the path gives, if something exists there. -/
def BuildCache.look (cache : BuildCache) (look : Look) (path : String) : Option (Result Built) :=
  match look with
  | .works => (cache.file path).map .ok
  | .unseen => none
  | .unreadable error => some (.error error)

/-- The answers for the three files that a base can be in. -/
structure BaseLooks where
  previous : Look
  appSo : Look
  artifact : Look
  deriving Repr, DecidableEq

def BaseLooks.working : BaseLooks where
  previous := .works
  appSo := .works
  artifact := .works

/-- The file at `release_artifact_path`. -/
def BuildCache.releaseArtifact (cache : BuildCache) (looks : BaseLooks) (key : ReleaseKey) :
    Option (Result Built) :=
  (cache.look looks.appSo (appSoPath key)).or (cache.look looks.artifact (releaseArtifactPath key))

def snapshotReplaceDiffBase (looks : BaseLooks) (key : ReleaseKey) (patchNumber : Nat) (cache : BuildCache) :
    Result Built :=
  match if patchNumber > 1 then
      cache.look looks.previous (patchArtifactPath (key.patch (patchNumber - 1))) else none with
  | some read => read
  | none =>
      match cache.releaseArtifact looks key with
      | some read => read
      | none =>
          err (s!"missing base artifact for snapshot_replace patch {patchNumber}: expected " ++
            s!"{patchArtifactPath (key.patch (patchNumber - 1))} or {releaseArtifactPath key}")

/-!
## Release
-/

/-- `fcb release`, with what it finds outside the cache. -/
structure ReleaseCommand where
  key : ReleaseKey
  /-- The backend of the app that the server knows. -/
  backend : Result String
  flutterBuild : Result Unit
  createDir : Result Unit
  appSo : Result Bytes
  writeAppSo : FileWrite
  kernelInventory : Result Bytes
  buildInfo : Result Unit
  /-- The manifest and the metadata of the release. -/
  writeMetadata : Result Unit
  writeArtifact : FileWrite
  createRelease : Result Unit

def collectReleaseArtifact (command : ReleaseCommand) (backend : String) : CacheOp Bytes :=
  if backend = "snapshot_replace" then
    if command.key.platform ≠ "android" then
      attempt (err "snapshot_replace release artifact is only supported on Android")
    else do
      let artifact ← attempt command.appSo
      let built : Built := { release := command.key, patchNumber := none, bytes := artifact }
      writeFile command.writeAppSo (appSoPath command.key) built
      modify fun cache => cache.keep built
      return artifact
  else if backend = "bytecode" then attempt command.kernelInventory
  else attempt (err s!"unsupported release backend: {backend}")

/-- The second copy of a release's artifact is not one more artifact. -/
def writeReleaseCache (command : ReleaseCommand) (backend : String) (artifact : Bytes) : CacheOp Unit := do
  attempt command.writeMetadata
  if backend = "snapshot_replace" ∧ command.key.platform = "android" then
    writeFile command.writeArtifact (releaseArtifactPath command.key)
      { release := command.key, patchNumber := none, bytes := artifact }
  else pure ()

def release (command : ReleaseCommand) : CacheOp Unit := do
  let backend ← attempt command.backend
  attempt command.flutterBuild
  createDirAll command.createDir (releaseCacheDir command.key)
  let artifact ← collectReleaseArtifact command backend
  attempt command.buildInfo
  writeReleaseCache command backend artifact
  attempt command.createRelease

/-!
## Patch
-/

/-- `fcb patch`, with what it finds outside the artifacts of the cache. -/
structure PatchCommand where
  key : ReleaseKey
  patchNumber : Nat
  backend : Result String
  createDir : Result Unit
  /-- The file that is passed with `--payload`. -/
  payload : Option (Result Bytes)
  acknowledged : Result Unit
  /-- The release's metadata, the builds and their comparison. -/
  prepared : Result Unit
  appSo : Result Bytes
  looks : BaseLooks
  createDiff : Bytes → Bytes → Result Bytes
  readModule : Bytes → Result Bytes
  compiled : Result (Option Bytes)
  writeReport : Result Unit
  writePayload : Result Unit
  writeArtifact : FileWrite
  /-- Signing the manifest and sending the patch to the server. -/
  createPatch : Result Unit

/-- The payload, and the artifact to keep for the next patch. -/
abbrev PatchPayload := Bytes × Option Bytes

def snapshotPayload (command : PatchCommand) (target : Bytes) : CacheOp (Option PatchPayload) := do
  let cache ← get
  let base ← attempt (snapshotReplaceDiffBase command.looks command.key command.patchNumber cache)
  let payload ← attempt (command.createDiff base.bytes target)
  return some (payload, some target)

def manualPatchPayload (command : PatchCommand) (backend : String) (file : Result Bytes) :
    CacheOp (Option PatchPayload) := do
  let target ← attempt file
  if backend = "snapshot_replace" then do
    attempt command.acknowledged
    snapshotPayload command target
  else if backend = "bytecode" then do
    let module ← attempt (command.readModule target)
    return some (module, none)
  else attempt (err s!"unsupported patch backend: {backend}")

def automaticPatchPayload (command : PatchCommand) (backend : String) : CacheOp (Option PatchPayload) := do
  let cache ← get
  if ¬ cache.hasDirectory (releaseCacheDir command.key) then
    attempt (err s!"missing release cache {releaseCacheDir command.key}; run 'fcb release' first")
  else do
    attempt command.prepared
    if backend = "snapshot_replace" then
      if command.key.platform ≠ "android" then
        attempt (err "snapshot_replace is only supported for Android")
      else do
        attempt command.acknowledged
        let target ← attempt command.appSo
        snapshotPayload command target
    else if backend = "bytecode" then do
      let module ← attempt command.compiled
      return module.map fun bytes => (bytes, none)
    else attempt (err s!"unsupported patch backend: {backend}")

/-- A rejection is put in the report; when that fails, its error is returned instead. -/
def reporting {α : Type} (writeReport : Result Unit) (payload : CacheOp α) : CacheOp α := fun cache =>
  match payload cache with
  | (.ok value, cache) => (.ok value, cache)
  | (.error error, cache) =>
      match writeReport with
      | .ok () => (.error error, cache)
      | .error other => (.error other, cache)

def keepPatchArtifact (command : PatchCommand) : Option Bytes → CacheOp Unit
  | none => pure ()
  | some artifact => do
      let built : Built := { release := command.key, patchNumber := some command.patchNumber, bytes := artifact }
      writeFile command.writeArtifact (patchArtifactPath (command.key.patch command.patchNumber)) built
      modify fun cache => cache.keep built

def patch (command : PatchCommand) : CacheOp Unit := do
  let backend ← attempt command.backend
  createDirAll command.createDir (patchCacheDir (command.key.patch command.patchNumber))
  let payload ← reporting command.writeReport (
    match command.payload with
    | some file => manualPatchPayload command backend file
    | none => automaticPatchPayload command backend)
  match payload with
  | none => attempt command.writeReport
  | some (_, artifact) => do
      attempt command.writePayload
      keepPatchArtifact command artifact
      attempt command.createPatch
      attempt command.writeReport

/-!
## Histories
-/

inductive BuildCommand where
  | release (command : ReleaseCommand)
  | patch (command : PatchCommand)

def buildStep : BuildCommand → BuildCache → Result Unit × BuildCache
  | .release command => release command
  | .patch command => patch command

end CodePush.Cli
