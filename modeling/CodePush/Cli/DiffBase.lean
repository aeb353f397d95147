import CodePush.Cli.BuildCache
import CodePush.Foundation.Runs

/-!
# The base of a patch

The releases in the cache are kept by app and the patches are not. As long as no two keys
share a path, the cache has the last artifact that was written to each of its files, and the
base of a patch is the app's own exactly when the last patch with the number before was built
for the app.
-/

set_option autoImplicit false

namespace CodePush.Cli

open CodePush.Core CodePush.Foundation CodePush.Foundation.Action

/-- The last artifact of a kind that was built. -/
def lastBuilt (built : List Built) (kind : Built → Bool) : Option Built := built.reverse.find? kind

def Built.isRelease (key : ReleaseKey) (built : Built) : Bool := built.release = key ∧ built.patchNumber = none

/-- Whether the artifact is written to the file of the patch. -/
def Built.isPatchAt (key : PatchKey) (built : Built) : Bool :=
  built.patchNumber = some key.patchNumber ∧ built.release.patch key.patchNumber = key

def Built.isPatchOf (key : ReleaseKey) (patchNumber : Nat) (built : Built) : Bool :=
  built.release = key ∧ built.patchNumber = some patchNumber

/-- The app's patch with the number before, or its release when there is none. -/
def ownBase (built : List Built) (key : ReleaseKey) (patchNumber : Nat) : Option Built :=
  (if patchNumber > 1 then lastBuilt built (Built.isPatchOf key (patchNumber - 1)) else none).or
    (lastBuilt built (Built.isRelease key))

/-- No other app built the patch with the number before last. -/
def PreviousPatchOwn (built : List Built) (key : ReleaseKey) (patchNumber : Nat) : Prop :=
  patchNumber > 1 → ∀ previous, lastBuilt built (Built.isPatchAt (key.patch (patchNumber - 1))) = some previous →
    previous.release.appId = key.appId

section LastBuilt

variable {built : List Built} {kind : Built → Bool} {last : Built}

theorem lastBuilt_concat : lastBuilt (built ++ [last]) kind =
    if kind last = true then some last else lastBuilt built kind := by
  unfold lastBuilt
  rw [List.reverse_concat, List.find?_cons]
  split
  case h_1 found => rw [if_pos found]
  case h_2 other => rw [if_neg (by rw [other]; exact Bool.false_ne_true)]

theorem lastBuilt_kind (found : lastBuilt built kind = some last) : kind last = true := List.find?_some found

/-- The last of a wider kind is the last of the narrower one that it belongs to. -/
theorem lastBuilt_narrower {wider : Built → Bool} (within : ∀ one, kind one = true → wider one = true)
    (found : lastBuilt built wider = some last) (here : kind last = true) :
    lastBuilt built kind = some last := by
  unfold lastBuilt at found ⊢
  obtain ⟨_, front, back, split, others⟩ := List.find?_eq_some_iff_append.mp found
  refine List.find?_eq_some_iff_append.mpr ⟨here, front, back, split, fun one member => ?_⟩
  cases is : kind one with
  | false => rfl
  | true =>
      have absent := others one member
      rw [within one is] at absent
      cases absent

theorem lastBuilt_none {wider : Built → Bool} (within : ∀ one, kind one = true → wider one = true)
    (absent : lastBuilt built wider = none) : lastBuilt built kind = none := by
  unfold lastBuilt at absent ⊢
  rw [List.find?_eq_none] at absent ⊢
  intro one member here
  exact absent one member (within one here)

end LastBuilt

section Kinds

variable {key : ReleaseKey} {built : Built} {patchNumber : Nat}

theorem isRelease_iff : built.isRelease key = true ↔ built.release = key ∧ built.patchNumber = none := by
  unfold Built.isRelease
  exact decide_eq_true_iff

theorem isPatchOf_iff :
    built.isPatchOf key patchNumber = true ↔ built.release = key ∧ built.patchNumber = some patchNumber := by
  unfold Built.isPatchOf
  exact decide_eq_true_iff

theorem isPatchAt_iff {at' : PatchKey} : built.isPatchAt at' = true ↔
    built.patchNumber = some at'.patchNumber ∧ built.release.patch at'.patchNumber = at' := by
  unfold Built.isPatchAt
  exact decide_eq_true_iff

/-- The file of a patch is shared by the apps that have a release of the version. -/
theorem isPatchAt_patch_iff : built.isPatchAt (key.patch patchNumber) = true ↔
    built.patchNumber = some patchNumber ∧ built.release = { key with appId := built.release.appId } := by
  rw [isPatchAt_iff]
  unfold ReleaseKey.patch
  rcases built with ⟨⟨appId, releaseVersion, platform, arch⟩, number, bytes⟩
  simp

theorem isPatchAt_of_isPatchOf (own : built.isPatchOf key patchNumber = true) :
    built.isPatchAt (key.patch patchNumber) = true := by
  obtain ⟨rfl, number⟩ := isPatchOf_iff.mp own
  exact isPatchAt_patch_iff.mpr ⟨number, rfl⟩

end Kinds

/-!
## Paths
-/

theorem place_joinPath (directory : Place) (path part : String) :
    place directory (joinPath path part) = place (place directory path) part := by
  unfold place joinPath
  rw [String.toList_ofList, LexicalPath.locate_extend]

theorem place_name {name : String} (isName : LexicalPath.IsName name.toList) (directory : Place) :
    place directory name = directory ++ [name.toList] :=
  LexicalPath.locate_name isName directory

theorem place_names {parts : List String} (areNames : ∀ part ∈ parts, LexicalPath.IsName part.toList)
    (directory : Place) (path : String) :
    place directory (parts.foldl joinPath path) = place directory path ++ parts.map String.toList := by
  induction parts generalizing path with
  | nil => simp
  | cons part parts ih =>
      rw [List.foldl_cons, ih fun other member => areNames other (List.mem_cons_of_mem _ member),
        place_joinPath, place_name (areNames part List.mem_cons_self), List.append_assoc]
      rfl

section Places

variable {directory : Place}

theorem place_appSo (key : ReleaseKey) :
    place directory (appSoPath key) = place directory (releaseCacheDir key) ++ ["app.so".toList] := by
  unfold appSoPath
  rw [place_joinPath]
  exact place_name ⟨by decide, by decide, by decide, by decide⟩ _

theorem isName_artifact : LexicalPath.IsName "artifact.bin".toList := ⟨by decide, by decide, by decide, by decide⟩

theorem place_releaseArtifact (key : ReleaseKey) : place directory (releaseArtifactPath key) =
    place directory (releaseCacheDir key) ++ ["artifact.bin".toList] := by
  unfold releaseArtifactPath
  rw [place_joinPath, place_name isName_artifact]

theorem place_patchArtifact (key : PatchKey) : place directory (patchArtifactPath key) =
    place directory (patchCacheDir key) ++ ["artifact.bin".toList] := by
  unfold patchArtifactPath
  rw [place_joinPath, place_name isName_artifact]

/-- No artifact is written over an `app.so`. -/
theorem appSo_ne_artifact (base : Place) (key : ReleaseKey) :
    place directory (appSoPath key) ≠ base ++ ["artifact.bin".toList] := by
  intro same
  rw [place_appSo] at same
  obtain ⟨_, last⟩ := List.append_inj' same rfl
  exact absurd last (by decide)

end Places

/-- No file that the base of one key is read from is written for another key. Only Android
releases are kept, and with them the patches that have a base; patch 0 is no base. -/
structure PathsApart (directory : Place) (keys : Set ReleaseKey) : Prop where
  releases : ∀ key ∈ keys, ∀ other ∈ keys, other.platform = "android" →
    place directory (releaseCacheDir key) = place directory (releaseCacheDir other) → key = other
  patches : ∀ key ∈ keys, ∀ other ∈ keys, other.platform = "android" → ∀ patchNumber number, 0 < patchNumber →
    place directory (patchCacheDir (key.patch patchNumber)) = place directory (patchCacheDir (other.patch number)) →
      key.patch patchNumber = other.patch number
  releaseOfPatch : ∀ key ∈ keys, ∀ other ∈ keys, other.platform = "android" → ∀ number,
    place directory (releaseCacheDir key) = place directory (patchCacheDir (other.patch number)) →
      key = other ∧ number = 0
  patchOfRelease : ∀ key ∈ keys, ∀ other ∈ keys, other.platform = "android" → ∀ patchNumber, 0 < patchNumber →
    place directory (patchCacheDir (key.patch patchNumber)) ≠ place directory (releaseCacheDir other)

/-- The texts of a key are names of files. -/
structure ReleaseKey.Plain (key : ReleaseKey) : Prop where
  appId : LexicalPath.IsName key.appId.toList
  releaseVersion : LexicalPath.IsName key.releaseVersion.toList
  platform : LexicalPath.IsName key.platform.toList
  arch : LexicalPath.IsName key.arch.toList

theorem isName_number (number : Nat) : LexicalPath.IsName (toString number).toList := by
  have digits : ∀ char ∈ (toString number).toList, char.isDigit = true := by
    intro char member
    rw [Nat.toString_eq_repr, Nat.toList_repr] at member
    exact toDigits_isDigit number char member
  have dot : '.' ∉ (toString number).toList := fun member => absurd (digits '.' member) (by decide)
  constructor
  · rw [Nat.toString_eq_repr, Nat.toList_repr]
    exact Nat.toDigits_ne_nil
  · intro same
    exact dot (by rw [same]; exact List.mem_cons_self)
  · intro same
    exact dot (by rw [same]; exact List.mem_cons_self)
  · exact fun member => absurd (digits '/' member) (by decide)

section Plain

variable {directory : Place} {key : ReleaseKey}

theorem ReleaseKey.Plain.place_release (plain : key.Plain) : place directory (releaseCacheDir key) =
    place directory fcbDir ++ ["apps".toList, key.appId.toList, "releases".toList, key.releaseVersion.toList,
      key.platform.toList, key.arch.toList] := by
  refine place_names ?_ directory fcbDir
  intro part member
  simp only [List.mem_cons, List.not_mem_nil, or_false] at member
  obtain rfl | rfl | rfl | rfl | rfl | rfl := member
  · exact ⟨by decide, by decide, by decide, by decide⟩
  · exact plain.appId
  · exact ⟨by decide, by decide, by decide, by decide⟩
  · exact plain.releaseVersion
  · exact plain.platform
  · exact plain.arch

theorem ReleaseKey.Plain.place_patch (plain : key.Plain) (patchNumber : Nat) :
    place directory (patchCacheDir (key.patch patchNumber)) =
      place directory fcbDir ++ ["patches".toList, key.releaseVersion.toList, (toString patchNumber).toList,
        key.platform.toList, key.arch.toList] := by
  refine place_names ?_ directory fcbDir
  intro part member
  simp only [ReleaseKey.patch, List.mem_cons, List.not_mem_nil, or_false] at member
  obtain rfl | rfl | rfl | rfl | rfl := member
  · exact ⟨by decide, by decide, by decide, by decide⟩
  · exact plain.releaseVersion
  · exact isName_number patchNumber
  · exact plain.platform
  · exact plain.arch

end Plain

/-- Keys that are made of names are apart. -/
theorem pathsApart_of_plain {directory : Place} {keys : Set ReleaseKey} (plain : ∀ key ∈ keys, key.Plain) :
    PathsApart directory keys := by
  have kinds : ∀ key ∈ keys, ∀ other ∈ keys, ∀ number,
      place directory (releaseCacheDir key) ≠ place directory (patchCacheDir (other.patch number)) := by
    intro key member other member' number same
    rw [(plain key member).place_release, (plain other member').place_patch] at same
    have lengths := congrArg List.length (List.append_cancel_left same)
    cases lengths
  constructor
  · intro key member other member' _ same
    rw [(plain key member).place_release, (plain other member').place_release] at same
    have parts := List.append_cancel_left same
    simp only [List.cons.injEq, String.toList_inj, true_and, and_true] at parts
    cases key
    cases other
    simp_all
  · intro key member other member' _ patchNumber number _ same
    rw [(plain key member).place_patch, (plain other member').place_patch] at same
    have parts := List.append_cancel_left same
    simp only [List.cons.injEq, String.toList_inj, true_and, and_true] at parts
    obtain ⟨release, numbers, platform, arch⟩ := parts
    unfold ReleaseKey.patch
    rw [release, platform, arch, Nat.repr_injective numbers]
  · intro key member other member' _ number same
    exact absurd same (kinds key member other member' number)
  · intro key member other member' _ patchNumber _ same
    exact kinds other member' key member patchNumber same.symm

/-!
## What the cache has
-/

/-- The files of the keys are the last artifacts that were built for them. -/
structure BuildCache.Current (directory : Place) (keys : Set ReleaseKey) (cache : BuildCache) : Prop where
  directory : cache.directory = directory
  built : ∀ built ∈ cache.built, built.release.platform = "android"
  releases : ∀ key ∈ keys, cache.file (appSoPath key) = lastBuilt cache.built (Built.isRelease key)
  /-- An `artifact.bin` of a release is there together with its `app.so`. -/
  artifacts : ∀ key ∈ keys, cache.file (appSoPath key) = none → cache.file (releaseArtifactPath key) = none
  patches : ∀ key ∈ keys, ∀ patchNumber, 0 < patchNumber →
    cache.file (patchArtifactPath (key.patch patchNumber)) =
      lastBuilt cache.built (Built.isPatchAt (key.patch patchNumber))

theorem lastBuilt_mem {built : List Built} {kind : Built → Bool} {last : Built}
    (found : lastBuilt built kind = some last) : last ∈ built :=
  List.mem_reverse.mp (List.mem_of_find?_eq_some found)

theorem current_empty (directory : Place) (keys : Set ReleaseKey) :
    (BuildCache.empty directory).Current directory keys :=
  ⟨rfl, fun _ member => absurd member List.not_mem_nil, fun _ _ => rfl, fun _ _ _ => rfl, fun _ _ _ _ => rfl⟩

section Writes

variable {directory : Place} {keys : Set ReleaseKey} {cache : BuildCache} {built : Built}

theorem BuildCache.file_put (cache : BuildCache) (path other : String) (built : Built) :
    (cache.put path built).file other =
      if place cache.directory other = place cache.directory path then some built else cache.file other := rfl

theorem BuildCache.file_keep (cache : BuildCache) (path : String) (built : Built) :
    (cache.keep built).file path = cache.file path := rfl

theorem BuildCache.built_keep (cache : BuildCache) (built : Built) :
    (cache.keep built).built = cache.built ++ [built] := rfl

theorem BuildCache.built_put (cache : BuildCache) (path : String) (built : Built) :
    (cache.put path built).built = cache.built := rfl

theorem BuildCache.file_put_ne (path other : String)
    (apart : place cache.directory other ≠ place cache.directory path) :
    (cache.put path built).file other = cache.file other := if_neg apart

/-- A release that is kept in `app.so`. -/
theorem BuildCache.Current.keepAppSo (current : cache.Current directory keys) (built : Built) (apart : PathsApart directory keys)
    (member : built.release ∈ keys) (android : built.release.platform = "android")
    (isRelease : built.patchNumber = none) :
    ((cache.put (appSoPath built.release) built).keep built).Current directory keys := by
  obtain ⟨rfl, platforms, releases, artifacts, patches⟩ := current
  have others : ∀ base : Place, base ++ ["artifact.bin".toList] ≠ place cache.directory (appSoPath built.release) :=
    fun base same => appSo_ne_artifact base built.release same.symm
  have only : ∀ key ∈ keys, key ≠ built.release →
      place cache.directory (appSoPath key) ≠ place cache.directory (appSoPath built.release) := by
    intro key here differs same
    rw [place_appSo, place_appSo] at same
    exact differs (apart.releases key here _ member android (List.append_cancel_right same))
  refine ⟨rfl, ?_, ?_, ?_, ?_⟩
  · intro one kept
    rcases List.mem_append.mp kept with before | last
    · exact platforms one before
    · rw [List.mem_singleton.mp last]
      exact android
  · intro key here
    rw [BuildCache.file_keep, BuildCache.built_keep, BuildCache.built_put, lastBuilt_concat]
    by_cases same : key = built.release
    · rw [if_pos (isRelease_iff.mpr ⟨same.symm, isRelease⟩), same, BuildCache.file_put, if_pos rfl]
    · rw [if_neg fun found => same (isRelease_iff.mp found).1.symm,
        BuildCache.file_put_ne _ _ (only key here same)]
      exact releases key here
  · intro key here
    rw [BuildCache.file_keep, BuildCache.file_keep]
    by_cases same : key = built.release
    · intro absent
      rw [same, BuildCache.file_put, if_pos rfl] at absent
      cases absent
    · rw [BuildCache.file_put_ne _ _ (only key here same), BuildCache.file_put_ne _ _ (by
        rw [place_releaseArtifact]
        exact others _)]
      exact artifacts key here
  · intro key here patchNumber positive
    rw [BuildCache.file_keep, BuildCache.built_keep, BuildCache.built_put, lastBuilt_concat, if_neg, BuildCache.file_put_ne]
    · exact patches key here patchNumber positive
    · rw [place_patchArtifact]
      exact others _
    · intro found
      cases isRelease.symm.trans (isPatchAt_iff.mp found).1

/-- The second copy of a release's artifact changes nothing. -/
theorem BuildCache.Current.putArtifact (current : cache.Current directory keys) (built : Built) (apart : PathsApart directory keys)
    (member : built.release ∈ keys) (android : built.release.platform = "android")
    (present : cache.file (appSoPath built.release) ≠ none) :
    (cache.put (releaseArtifactPath built.release) built).Current directory keys := by
  obtain ⟨rfl, platforms, releases, artifacts, patches⟩ := current
  have appSo : ∀ key, (cache.put (releaseArtifactPath built.release) built).file (appSoPath key) =
      cache.file (appSoPath key) := by
    intro key
    refine BuildCache.file_put_ne _ _ ?_
    rw [place_releaseArtifact]
    exact appSo_ne_artifact _ key
  refine ⟨rfl, platforms, ?_, ?_, ?_⟩
  · intro key here
    rw [appSo]
    exact releases key here
  · intro key here absent
    rw [appSo] at absent
    rw [BuildCache.file_put_ne]
    · exact artifacts key here absent
    · intro same
      rw [place_releaseArtifact, place_releaseArtifact] at same
      rw [apart.releases key here _ member android (List.append_cancel_right same)] at absent
      exact present absent
  · intro key here patchNumber positive
    rw [BuildCache.file_put_ne]
    · exact patches key here patchNumber positive
    · intro same
      rw [place_patchArtifact, place_releaseArtifact] at same
      exact apart.patchOfRelease key here _ member android patchNumber positive (List.append_cancel_right same)

/-- A patch that is kept; one with the number 0 may stand in its own release's place. -/
theorem BuildCache.Current.keepPatch (current : cache.Current directory keys) (built : Built) (apart : PathsApart directory keys)
    (member : built.release ∈ keys) (android : built.release.platform = "android") {patchNumber : Nat}
    (isPatch : built.patchNumber = some patchNumber)
    (present : patchNumber = 0 → cache.file (appSoPath built.release) ≠ none) :
    ((cache.put (patchArtifactPath (built.release.patch patchNumber)) built).keep built).Current directory keys := by
  obtain ⟨rfl, platforms, releases, artifacts, patches⟩ := current
  have appSo : ∀ key, (cache.put (patchArtifactPath (built.release.patch patchNumber)) built).file (appSoPath key) =
      cache.file (appSoPath key) := by
    intro key
    refine BuildCache.file_put_ne _ _ ?_
    rw [place_patchArtifact]
    exact appSo_ne_artifact _ key
  refine ⟨rfl, ?_, ?_, ?_, ?_⟩
  · intro one kept
    rcases List.mem_append.mp kept with before | last
    · exact platforms one before
    · rw [List.mem_singleton.mp last]
      exact android
  · intro key here
    rw [BuildCache.file_keep, BuildCache.built_keep, BuildCache.built_put, lastBuilt_concat, if_neg, appSo]
    · exact releases key here
    · intro found
      cases isPatch.symm.trans (isRelease_iff.mp found).2
  · intro key here
    rw [BuildCache.file_keep, BuildCache.file_keep, appSo]
    intro absent
    rw [BuildCache.file_put_ne]
    · exact artifacts key here absent
    · intro same
      rw [place_releaseArtifact, place_patchArtifact] at same
      obtain ⟨own, zero⟩ :=
        apart.releaseOfPatch key here _ member android patchNumber (List.append_cancel_right same)
      rw [own] at absent
      exact present zero absent
  · intro key here number positive
    rw [BuildCache.file_keep, BuildCache.built_keep, BuildCache.built_put, lastBuilt_concat]
    by_cases same : key.patch number = built.release.patch patchNumber
    · rw [same, BuildCache.file_put, if_pos rfl, if_pos (isPatchAt_iff.mpr ⟨isPatch, rfl⟩)]
    · rw [if_neg, BuildCache.file_put_ne]
      · exact patches key here number positive
      · intro here'
        rw [place_patchArtifact, place_patchArtifact] at here'
        exact same (apart.patches key here _ member android number patchNumber positive
          (List.append_cancel_right here'))
      · intro found
        obtain ⟨number', same'⟩ := isPatchAt_iff.mp found
        obtain rfl : patchNumber = (key.patch number).patchNumber := Option.some.inj (isPatch.symm.trans number')
        exact same same'.symm

end Writes

/-!
## The commands
-/

/-- An error leaves no part of an artifact in a file. -/
def WritesWhole (outcome : FileWrite) : Prop := ∀ kept error, outcome ≠ .cut kept error

def BuildCommand.key : BuildCommand → ReleaseKey
  | .release command => command.key
  | .patch command => command.key

def BuildCommand.Whole : BuildCommand → Prop
  | .release command => WritesWhole command.writeAppSo ∧ WritesWhole command.writeArtifact
  | .patch command => WritesWhole command.writeArtifact

/-- Commands for these keys that write artifacts whole. -/
def CommandsFor (keys : Set ReleaseKey) (history : List BuildCommand) : Prop :=
  ∀ command ∈ history, command.key ∈ keys ∧ command.Whole

section Bases

variable {cache : BuildCache} {key : ReleaseKey} {patchNumber : Nat}

theorem BuildCache.look_eq_ok {look : Look} {path : String} {built : Built}
    (found : cache.look look path = some (.ok built)) : cache.file path = some built := by
  cases look with
  | works =>
      obtain ⟨_, here, same⟩ := Option.map_eq_some_iff.mp found
      cases same
      exact here
  | unseen => cases found
  | unreadable => cases found

/-- A base comes from one of the three files. -/
theorem snapshotReplaceDiffBase_cases {looks : BaseLooks} {base : Built}
    (found : snapshotReplaceDiffBase looks key patchNumber cache = .ok base) :
    (1 < patchNumber ∧ cache.file (patchArtifactPath (key.patch (patchNumber - 1))) = some base) ∨
      cache.file (appSoPath key) = some base ∨ cache.file (releaseArtifactPath key) = some base := by
  unfold snapshotReplaceDiffBase at found
  split at found
  case h_1 previous read =>
    subst found
    split at read
    case isTrue later => exact .inl ⟨later, BuildCache.look_eq_ok read⟩
    case isFalse => cases read
  case h_2 =>
    split at found
    case h_1 released read =>
      subst found
      obtain appSo | ⟨_, artifact⟩ := Option.or_eq_some_iff.mp read
      · exact .inr (.inl (BuildCache.look_eq_ok appSo))
      · exact .inr (.inr (BuildCache.look_eq_ok artifact))
    case h_2 => cases found

theorem snapshotReplaceDiffBase_toOption (key : ReleaseKey) (patchNumber : Nat) (cache : BuildCache) :
    (snapshotReplaceDiffBase BaseLooks.working key patchNumber cache).toOption =
      (if patchNumber > 1 then cache.file (patchArtifactPath (key.patch (patchNumber - 1))) else none).or
        ((cache.file (appSoPath key)).or (cache.file (releaseArtifactPath key))) := by
  unfold snapshotReplaceDiffBase BuildCache.releaseArtifact BuildCache.look BaseLooks.working
  dsimp only
  cases cache.file (appSoPath key) with
  | none =>
      cases cache.file (releaseArtifactPath key) with
      | none =>
          split_ifs
          · cases cache.file (patchArtifactPath (key.patch (patchNumber - 1))) with
            | none => rfl
            | some => rfl
          · rfl
      | some =>
          split_ifs
          · cases cache.file (patchArtifactPath (key.patch (patchNumber - 1))) with
            | none => rfl
            | some => rfl
          · rfl
  | some =>
      split_ifs
      · cases cache.file (patchArtifactPath (key.patch (patchNumber - 1))) with
        | none => rfl
        | some => rfl
      · rfl

end Bases

section Commands

variable {directory : Place} {keys : Set ReleaseKey} {cache : BuildCache}

/-- Only Android patches have a base, and patch 0 has its release. -/
theorem BuildCache.Current.base_android (current : cache.Current directory keys) {looks : BaseLooks}
    {key : ReleaseKey} (member : key ∈ keys) {patchNumber : Nat} {base : Built}
    (found : snapshotReplaceDiffBase looks key patchNumber cache = .ok base) :
    key.platform = "android" ∧ (patchNumber = 0 → cache.file (appSoPath key) ≠ none) := by
  obtain ⟨later, previous⟩ | released | copy := snapshotReplaceDiffBase_cases found
  · refine ⟨?_, fun zero => by omega⟩
    rw [current.patches key member _ (by omega)] at previous
    obtain ⟨_, shared⟩ := isPatchAt_patch_iff.mp (lastBuilt_kind previous)
    have android := current.built base (lastBuilt_mem previous)
    rw [shared] at android
    exact android
  · refine ⟨?_, fun _ absent => by rw [absent] at released; cases released⟩
    rw [current.releases key member] at released
    have android := current.built base (lastBuilt_mem released)
    rwa [(isRelease_iff.mp (lastBuilt_kind released)).1] at android
  · have present : cache.file (appSoPath key) ≠ none := by
      intro absent
      rw [current.artifacts key member absent] at copy
      cases copy
    refine ⟨?_, fun _ => present⟩
    obtain ⟨release, released⟩ := Option.ne_none_iff_exists'.mp present
    rw [current.releases key member] at released
    have android := current.built release (lastBuilt_mem released)
    rwa [(isRelease_iff.mp (lastBuilt_kind released)).1] at android

theorem BuildCache.Current.makeDirectory (current : cache.Current directory keys) (path : String) :
    (cache.makeDirectory path).Current directory keys :=
  ⟨current.directory, current.built, current.releases, current.artifacts, current.patches⟩

theorem ensures_createDirAll {outcome : Result Unit} {path : String} (current : cache.Current directory keys) :
    Ensures (createDirAll outcome path) cache (fun _ finish => finish.Current directory keys)
      (fun _ finish => finish.Current directory keys) := by
  unfold createDirAll
  apply ensures_bind
  refine ensures_attempt (fun _ _ => ?_) fun _ _ => current
  exact ensures_modify (current.makeDirectory path)

theorem ensures_writeFile {outcome : FileWrite} (whole : WritesWhole outcome) (path : String) (built : Built) :
    Ensures (writeFile outcome path built) cache (fun _ finish => finish = cache.put path built)
      (fun _ finish => finish = cache) := by
  cases outcome with
  | done => exact ensures_modify rfl
  | refused error => exact ensures_throw rfl
  | cut kept error => exact absurd rfl (whole kept error)

/-- The artifact of a snapshot release is in `app.so` when it is collected. -/
theorem collectReleaseArtifact_current (apart : PathsApart directory keys) (command : ReleaseCommand)
    (backend : String) (member : command.key ∈ keys) (whole : WritesWhole command.writeAppSo)
    (current : cache.Current directory keys) :
    Ensures (collectReleaseArtifact command backend) cache
      (fun _ finish => finish.Current directory keys ∧
        (backend = "snapshot_replace" → finish.file (appSoPath command.key) ≠ none))
      (fun _ finish => finish.Current directory keys) := by
  unfold collectReleaseArtifact
  split
  case isTrue =>
    split
    case isTrue => exact ensures_attempt (fun _ same => nomatch same) fun _ _ => current
    case isFalse android =>
      apply ensures_bind
      refine ensures_attempt (fun artifact _ => ?_) fun _ _ => current
      apply ((ensures_writeFile whole _ _).mono (fun _ _ same => same) fun _ _ same => same ▸ current).bind
      intro _ finish same
      subst same
      apply ensures_bind
      apply ensures_modify
      apply ensures_pure
      have kept := current.keepAppSo ⟨command.key, none, artifact⟩ apart member (not_not.mp android) rfl
      refine ⟨kept, fun _ => ?_⟩
      rw [BuildCache.file_keep, BuildCache.file_put, if_pos rfl]
      exact Option.some_ne_none _
  case isFalse other =>
    split
    · exact ensures_attempt (fun _ _ => ⟨current, fun same => absurd same other⟩) fun _ _ => current
    · exact ensures_attempt (fun _ same => nomatch same) fun _ _ => current

theorem writeReleaseCache_current (apart : PathsApart directory keys) (command : ReleaseCommand)
    (backend : String) (artifact : Bytes) (member : command.key ∈ keys) (whole : WritesWhole command.writeArtifact)
    (current : cache.Current directory keys)
    (present : backend = "snapshot_replace" → cache.file (appSoPath command.key) ≠ none) :
    Ensures (writeReleaseCache command backend artifact) cache (fun _ finish => finish.Current directory keys)
      (fun _ finish => finish.Current directory keys) := by
  unfold writeReleaseCache
  apply ensures_bind
  refine ensures_attempt (fun _ _ => ?_) fun _ _ => current
  split
  case isTrue snapshot =>
    refine (ensures_writeFile whole _ _).mono ?_ fun _ _ same => same ▸ current
    intro _ finish same
    subst same
    exact current.putArtifact ⟨command.key, none, artifact⟩ apart member snapshot.2 (present snapshot.1)
  case isFalse => exact ensures_pure current

theorem release_current (apart : PathsApart directory keys) (command : ReleaseCommand)
    (member : command.key ∈ keys) (whole : (BuildCommand.release command).Whole)
    (current : cache.Current directory keys) :
    Ensures (release command) cache (fun _ finish => finish.Current directory keys)
      (fun _ finish => finish.Current directory keys) := by
  unfold release
  apply ensures_bind
  refine ensures_attempt (fun backend _ => ?_) fun _ _ => current
  apply ensures_bind
  refine ensures_attempt (fun _ _ => ?_) fun _ _ => current
  apply (ensures_createDirAll current).bind
  intro _ made current
  apply (collectReleaseArtifact_current apart command backend member whole.1 current).bind
  intro artifact collected there
  obtain ⟨current, present⟩ := there
  apply ensures_bind
  refine ensures_attempt (fun _ _ => ?_) fun _ _ => current
  apply (writeReleaseCache_current apart command backend artifact member whole.2 current present).bind
  intro _ written current
  exact ensures_attempt (fun _ _ => current) fun _ _ => current

/-- Finding the payload of a patch leaves the cache alone, and keeps an artifact only for a base. -/
def Based (command : PatchCommand) (cache : BuildCache) (value : Option PatchPayload) (finish : BuildCache) : Prop :=
  finish = cache ∧ ∀ payload artifact, value = some (payload, some artifact) →
    ∃ base, snapshotReplaceDiffBase command.looks command.key command.patchNumber cache = .ok base

theorem snapshotPayload_based (command : PatchCommand) (target : Bytes) :
    Ensures (snapshotPayload command target) cache (Based command cache) (fun _ finish => finish = cache) := by
  unfold snapshotPayload
  apply ensures_bind
  apply ensures_get
  apply ensures_bind
  refine ensures_attempt (fun base found => ?_) fun _ _ => rfl
  apply ensures_bind
  refine ensures_attempt (fun payload _ => ?_) fun _ _ => rfl
  exact ensures_pure ⟨rfl, fun _ _ _ => ⟨base, found⟩⟩

theorem manualPatchPayload_based (command : PatchCommand) (backend : String) (file : Result Bytes) :
    Ensures (manualPatchPayload command backend file) cache (Based command cache)
      (fun _ finish => finish = cache) := by
  unfold manualPatchPayload
  apply ensures_bind
  refine ensures_attempt (fun target _ => ?_) fun _ _ => rfl
  split
  · apply ensures_bind
    exact ensures_attempt (fun _ _ => snapshotPayload_based command target) fun _ _ => rfl
  · split
    · apply ensures_bind
      refine ensures_attempt (fun module _ => ?_) fun _ _ => rfl
      exact ensures_pure ⟨rfl, fun _ _ same => nomatch same⟩
    · exact ensures_attempt (fun _ same => nomatch same) fun _ _ => rfl

theorem automaticPatchPayload_based (command : PatchCommand) (backend : String) :
    Ensures (automaticPatchPayload command backend) cache (Based command cache)
      (fun _ finish => finish = cache) := by
  unfold automaticPatchPayload
  apply ensures_bind
  apply ensures_get
  split
  · exact ensures_attempt (fun _ same => nomatch same) fun _ _ => rfl
  · apply ensures_bind
    refine ensures_attempt (fun _ _ => ?_) fun _ _ => rfl
    split
    · split
      · exact ensures_attempt (fun _ same => nomatch same) fun _ _ => rfl
      · apply ensures_bind
        refine ensures_attempt (fun _ _ => ?_) fun _ _ => rfl
        apply ensures_bind
        exact ensures_attempt (fun target _ => snapshotPayload_based command target) fun _ _ => rfl
    · split
      · apply ensures_bind
        refine ensures_attempt (fun module _ => ?_) fun _ _ => rfl
        refine ensures_pure ⟨rfl, fun payload artifact same => ?_⟩
        obtain ⟨_, _, pair⟩ := Option.map_eq_some_iff.mp same
        cases pair
      · exact ensures_attempt (fun _ same => nomatch same) fun _ _ => rfl

theorem reporting_ensures {α : Type} {payload : CacheOp α} {returns : α → BuildCache → Prop} (writeReport : Result Unit)
    (ensured : Ensures payload cache returns (fun _ finish => finish = cache)) :
    Ensures (reporting writeReport payload) cache returns (fun _ finish => finish = cache) := by
  rcases ended : payload cache with ⟨error | value, finish⟩
  · obtain rfl := ensured.of_error ended
    have other : ∃ error', reporting writeReport payload finish = attempt (.error error') finish := by
      unfold reporting
      rw [ended]
      cases writeReport with
      | ok => exact ⟨error, rfl⟩
      | error other => exact ⟨other, rfl⟩
    obtain ⟨error', other⟩ := other
    refine Ensures.congr ?_ other
    exact ensures_attempt (fun _ same => nomatch same) fun _ _ => rfl
  · have holds := ensured.of_ok ended
    have other : reporting writeReport payload cache = (pure value : CacheOp α) finish := by
      unfold reporting
      rw [ended]
      rfl
    unfold Ensures
    rw [other]
    exact holds

theorem keepPatchArtifact_current (apart : PathsApart directory keys) (command : PatchCommand)
    (member : command.key ∈ keys) (whole : WritesWhole command.writeArtifact) (artifact : Option Bytes)
    (current : cache.Current directory keys)
    (based : artifact ≠ none → command.key.platform = "android" ∧
      (command.patchNumber = 0 → cache.file (appSoPath command.key) ≠ none)) :
    Ensures (keepPatchArtifact command artifact) cache (fun _ finish => finish.Current directory keys)
      (fun _ finish => finish.Current directory keys) := by
  cases artifact with
  | none => exact ensures_pure current
  | some artifact =>
      obtain ⟨android, present⟩ := based (Option.some_ne_none _)
      unfold keepPatchArtifact
      apply ((ensures_writeFile whole _ _).mono (fun _ _ same => same) fun _ _ same => same ▸ current).bind
      intro _ finish same
      subst same
      apply ensures_modify
      exact current.keepPatch ⟨command.key, some command.patchNumber, artifact⟩ apart member android rfl
        present

theorem patch_current (apart : PathsApart directory keys) (command : PatchCommand)
    (member : command.key ∈ keys) (whole : WritesWhole command.writeArtifact)
    (current : cache.Current directory keys) :
    Ensures (patch command) cache (fun _ finish => finish.Current directory keys)
      (fun _ finish => finish.Current directory keys) := by
  unfold patch
  apply ensures_bind
  refine ensures_attempt (fun backend _ => ?_) fun _ _ => current
  apply (ensures_createDirAll current).bind
  intro _ made current
  apply Ensures.bind
  · apply (reporting_ensures command.writeReport (?_ : Ensures _ made (Based command made) _)).mono
      (fun _ _ based => based)
    · intro _ _ same
      exact same ▸ current
    · split
      · exact manualPatchPayload_based command backend _
      · exact automaticPatchPayload_based command backend
  intro value finish based
  obtain ⟨rfl, based⟩ := based
  cases value with
  | none => exact ensures_attempt (fun _ _ => current) fun _ _ => current
  | some value =>
      obtain ⟨payload, artifact⟩ := value
      apply ensures_bind
      refine ensures_attempt (fun _ _ => ?_) fun _ _ => current
      have android : artifact ≠ none → command.key.platform = "android" ∧
          (command.patchNumber = 0 → finish.file (appSoPath command.key) ≠ none) := by
        intro present
        obtain ⟨artifact, rfl⟩ := Option.ne_none_iff_exists'.mp present
        obtain ⟨base, found⟩ := based payload artifact rfl
        exact current.base_android member found
      apply (keepPatchArtifact_current apart command member whole artifact current android).bind
      intro _ kept current
      apply ensures_bind
      refine ensures_attempt (fun _ _ => ?_) fun _ _ => current
      exact ensures_attempt (fun _ _ => current) fun _ _ => current

theorem buildStep_current (apart : PathsApart directory keys) (command : BuildCommand)
    (member : command.key ∈ keys) (whole : command.Whole) (current : cache.Current directory keys) :
    (buildStep command cache).2.Current directory keys := by
  cases command with
  | release command => exact Ensures.finally _ (release_current apart command member whole current)
  | patch command => exact Ensures.finally _ (patch_current apart command member whole current)

end Commands

/-- The cache after commands that are run in a directory without one. -/
def cacheAfter (directory : Place) (history : List BuildCommand) : BuildCache :=
  runFrom buildStep (BuildCache.empty directory) history

theorem runFrom_current {directory : Place} {keys : Set ReleaseKey} (apart : PathsApart directory keys)
    {history : List BuildCommand} (commands : CommandsFor keys history) {cache : BuildCache}
    (current : cache.Current directory keys) : (runFrom buildStep cache history).Current directory keys := by
  induction history generalizing cache with
  | nil => exact current
  | cons command history ih =>
      obtain ⟨member, whole⟩ := commands command List.mem_cons_self
      exact ih (fun other later => commands other (List.mem_cons_of_mem _ later))
        (buildStep_current apart command member whole current)

/-- The last patch in the file is the app's own last one, or is what stands in its place. -/
theorem BuildCache.Current.base_own_iff {directory : Place} {keys : Set ReleaseKey} {cache : BuildCache}
    (current : cache.Current directory keys) {key : ReleaseKey} (member : key ∈ keys) (patchNumber : Nat) :
    (snapshotReplaceDiffBase BaseLooks.working key patchNumber cache).toOption =
        ownBase cache.built key patchNumber ↔
      PreviousPatchOwn cache.built key patchNumber := by
  have released : (cache.file (appSoPath key)).or (cache.file (releaseArtifactPath key)) =
      lastBuilt cache.built (Built.isRelease key) := by
    rw [← current.releases key member]
    cases present : cache.file (appSoPath key) with
    | none => rw [current.artifacts key member present, Option.none_or]
    | some => rw [Option.some_or]
  rw [snapshotReplaceDiffBase_toOption, released]
  unfold ownBase PreviousPatchOwn
  by_cases later : patchNumber > 1
  case neg =>
    rw [if_neg later, if_neg later]
    exact iff_of_true rfl fun more => absurd more later
  rw [if_pos later, if_pos later, current.patches key member _ (by omega)]
  cases found : lastBuilt cache.built (Built.isPatchAt (key.patch (patchNumber - 1))) with
  | none =>
      rw [lastBuilt_none (fun _ => isPatchAt_of_isPatchOf) found]
      exact iff_of_true rfl fun _ _ same => nomatch same
  | some previous =>
      obtain ⟨number, shared⟩ := isPatchAt_patch_iff.mp (lastBuilt_kind found)
      rw [Option.some_or]
      constructor
      · intro same _ other here
        obtain rfl := Option.some.inj here
        -- what stands in its place is a release, and this is a patch
        obtain own | ⟨_, released⟩ := Option.or_eq_some_iff.mp same.symm
        · rw [(isPatchOf_iff.mp (lastBuilt_kind own)).1]
        · cases number.symm.trans (isRelease_iff.mp (lastBuilt_kind released)).2
      · intro own
        have here : previous.release = key := by
          rw [shared, own later previous rfl]
        rw [lastBuilt_narrower (fun _ => isPatchAt_of_isPatchOf) found (isPatchOf_iff.mpr ⟨here, number⟩)]
        rfl

/-!
## Shared paths
-/

/-- Commands for which everything outside the cache goes well. -/
def sampleRelease (key : ReleaseKey) (artifact : Bytes) : BuildCommand := .release
  { key
    backend := .ok "snapshot_replace"
    flutterBuild := .ok ()
    createDir := .ok ()
    appSo := .ok artifact
    writeAppSo := .done
    kernelInventory := .ok []
    buildInfo := .ok ()
    writeMetadata := .ok ()
    writeArtifact := .done
    createRelease := .ok () }

/-- A patch with `--payload`. -/
def samplePatchCommand (key : ReleaseKey) (patchNumber : Nat) (artifact : Bytes) : PatchCommand where
  key
  patchNumber
  backend := .ok "snapshot_replace"
  createDir := .ok ()
  payload := some (.ok artifact)
  acknowledged := .ok ()
  prepared := .ok ()
  appSo := .ok artifact
  looks := BaseLooks.working
  createDiff := fun base target => .ok (base ++ target)
  readModule := fun file => .ok file
  compiled := .ok none
  writeReport := .ok ()
  writePayload := .ok ()
  writeArtifact := .done
  createPatch := .ok ()

def samplePatch (key : ReleaseKey) (patchNumber : Nat) (artifact : Bytes) : BuildCommand :=
  .patch (samplePatchCommand key patchNumber artifact)

section Sharing

variable {directory : Place} {keys : Set ReleaseKey} {cache : BuildCache} {key other : ReleaseKey} {number : Nat}
  {artifact : Bytes}

theorem sampleRelease_cache (android : key.platform = "android") :
    (buildStep (sampleRelease key artifact) cache).2 =
      (((cache.makeDirectory (releaseCacheDir key)).put (appSoPath key) ⟨key, none, artifact⟩).keep
        ⟨key, none, artifact⟩).put (releaseArtifactPath key) ⟨key, none, artifact⟩ := by
  simp only [buildStep, sampleRelease, release, collectReleaseArtifact, writeReleaseCache, createDirAll, writeFile,
    android, ne_eq, not_true_eq_false, if_false]
  rfl

theorem samplePatch_cache {base : Built}
    (found : snapshotReplaceDiffBase BaseLooks.working key number cache = .ok base) :
    (buildStep (samplePatch key number artifact) cache).2 =
      ((cache.makeDirectory (patchCacheDir (key.patch number))).put (patchArtifactPath (key.patch number))
        ⟨key, some number, artifact⟩).keep ⟨key, some number, artifact⟩ := by
  have made : snapshotReplaceDiffBase BaseLooks.working key number
      (cache.makeDirectory (patchCacheDir (key.patch number))) = .ok base := found
  have payload : snapshotPayload (samplePatchCommand key number artifact) artifact
      (cache.makeDirectory (patchCacheDir (key.patch number))) =
        (.ok (some (base.bytes ++ artifact, some artifact)),
          cache.makeDirectory (patchCacheDir (key.patch number))) :=
    bind_eq_ok.mpr ⟨_, _, rfl, bind_eq_ok.mpr ⟨base, _, attempt_eq_ok.mpr ⟨made, rfl⟩, rfl⟩⟩
  have manual : manualPatchPayload (samplePatchCommand key number artifact) "snapshot_replace" (.ok artifact)
      (cache.makeDirectory (patchCacheDir (key.patch number))) =
        (.ok (some (base.bytes ++ artifact, some artifact)),
          cache.makeDirectory (patchCacheDir (key.patch number))) :=
    bind_eq_ok.mpr ⟨_, _, rfl, bind_eq_ok.mpr ⟨_, _, rfl, payload⟩⟩
  have reported : reporting (.ok ()) (manualPatchPayload (samplePatchCommand key number artifact) "snapshot_replace"
      (.ok artifact)) (cache.makeDirectory (patchCacheDir (key.patch number))) =
        (.ok (some (base.bytes ++ artifact, some artifact)),
          cache.makeDirectory (patchCacheDir (key.patch number))) := by
    unfold reporting
    rw [manual]
  have run : patch (samplePatchCommand key number artifact) cache =
      (.ok (), ((cache.makeDirectory (patchCacheDir (key.patch number))).put (patchArtifactPath (key.patch number))
        ⟨key, some number, artifact⟩).keep ⟨key, some number, artifact⟩) :=
    bind_eq_ok.mpr ⟨_, _, rfl, bind_eq_ok.mpr ⟨_, _, rfl, bind_eq_ok.mpr ⟨_, _, reported, rfl⟩⟩⟩
  exact congrArg Prod.snd run

theorem sampleRelease_for (member : key ∈ keys) (artifact : Bytes) :
    (sampleRelease key artifact).key ∈ keys ∧ (sampleRelease key artifact).Whole :=
  ⟨member, fun _ _ same => (nomatch same), fun _ _ same => (nomatch same)⟩

theorem samplePatch_for (member : key ∈ keys) (number : Nat) (artifact : Bytes) :
    (samplePatch key number artifact).key ∈ keys ∧ (samplePatch key number artifact).Whole :=
  ⟨member, fun _ _ same => (nomatch same)⟩

/-- What a release leaves in the files. -/
theorem sampleRelease_file (android : key.platform = "android") {directory : Place}
    (stands : cache.directory = directory) (path : String) :
    (buildStep (sampleRelease key artifact) cache).2.file path =
      if place directory path = place directory (releaseArtifactPath key) ∨
        place directory path = place directory (appSoPath key) then some ⟨key, none, artifact⟩
      else cache.file path := by
  subst stands
  have stored : (buildStep (sampleRelease key artifact) cache).2.file path =
      if place cache.directory path = place cache.directory (releaseArtifactPath key) then some ⟨key, none, artifact⟩
      else if place cache.directory path = place cache.directory (appSoPath key) then some ⟨key, none, artifact⟩
      else cache.file path := by
    rw [sampleRelease_cache android]
    rfl
  rw [stored]
  by_cases copy : place cache.directory path = place cache.directory (releaseArtifactPath key)
  · rw [if_pos copy, if_pos (.inl copy)]
  · rw [if_neg copy]
    by_cases appSo : place cache.directory path = place cache.directory (appSoPath key)
    · rw [if_pos appSo, if_pos (.inr appSo)]
    · rw [if_neg appSo, if_neg (not_or.mpr ⟨copy, appSo⟩)]

theorem sampleRelease_built (android : key.platform = "android") :
    (buildStep (sampleRelease key artifact) cache).2.built = cache.built ++ [⟨key, none, artifact⟩] := by
  rw [sampleRelease_cache android]
  rfl

theorem sampleRelease_directory (android : key.platform = "android") :
    (buildStep (sampleRelease key artifact) cache).2.directory = cache.directory := by
  rw [sampleRelease_cache android]
  rfl

end Sharing

/-- In some history of the keys, a base is not the app's own although no other app built the
patch before. -/
def Misled (directory : Place) (keys : Set ReleaseKey) : Prop :=
  ∃ history, CommandsFor keys history ∧ ∃ key ∈ keys, ∃ patchNumber,
    PreviousPatchOwn (cacheAfter directory history).built key patchNumber ∧
      (snapshotReplaceDiffBase BaseLooks.working key patchNumber (cacheAfter directory history)).toOption ≠
        ownBase (cacheAfter directory history).built key patchNumber

section Misled

variable {directory : Place} {keys : Set ReleaseKey} {key other : ReleaseKey} {number patchNumber : Nat}

/-- A release and nothing else. -/
theorem released_eq (android : other.platform = "android") (path : String) :
    (cacheAfter directory [sampleRelease other [1]]).file path =
        (if place directory path = place directory (releaseArtifactPath other) ∨
          place directory path = place directory (appSoPath other) then some ⟨other, none, [1]⟩ else none) ∧
      (cacheAfter directory [sampleRelease other [1]]).built = [⟨other, none, [1]⟩] :=
  ⟨sampleRelease_file android rfl path, sampleRelease_built android⟩

/-- A release and a patch of it. -/
theorem patched_eq (android : other.platform = "android") (number : Nat) (path : String) :
    (cacheAfter directory [sampleRelease other [1], samplePatch other number [2]]).file path =
        (if place directory path = place directory (patchArtifactPath (other.patch number)) then
          some ⟨other, some number, [2]⟩ else (cacheAfter directory [sampleRelease other [1]]).file path) ∧
      (cacheAfter directory [sampleRelease other [1], samplePatch other number [2]]).built =
        [⟨other, none, [1]⟩, ⟨other, some number, [2]⟩] ∧
      (cacheAfter directory [sampleRelease other [1], samplePatch other number [2]]).directory = directory := by
  have place_eq : (cacheAfter directory [sampleRelease other [1]]).directory = directory :=
    sampleRelease_directory android
  have present : (cacheAfter directory [sampleRelease other [1]]).file (appSoPath other) =
      some ⟨other, none, [1]⟩ := by
    rw [(released_eq android _).1, if_pos (.inr rfl)]
  have found : ∃ base, snapshotReplaceDiffBase BaseLooks.working other number
      (cacheAfter directory [sampleRelease other [1]]) = .ok base := by
    have base := snapshotReplaceDiffBase_toOption other number (cacheAfter directory [sampleRelease other [1]])
    rw [present, Option.some_or] at base
    cases read : snapshotReplaceDiffBase BaseLooks.working other number
        (cacheAfter directory [sampleRelease other [1]]) with
    | ok base => exact ⟨base, rfl⟩
    | error error =>
        rw [read] at base
        exact absurd (Option.or_eq_none_iff.mp base.symm).2 (Option.some_ne_none _)
  obtain ⟨base, found⟩ := found
  have after : cacheAfter directory [sampleRelease other [1], samplePatch other number [2]] = _ :=
    samplePatch_cache found
  refine ⟨?_, ?_, ?_⟩
  · have stored : (cacheAfter directory [sampleRelease other [1], samplePatch other number [2]]).file path =
        if place (cacheAfter directory [sampleRelease other [1]]).directory path =
            place (cacheAfter directory [sampleRelease other [1]]).directory (patchArtifactPath (other.patch number)) then
          some ⟨other, some number, [2]⟩
        else (cacheAfter directory [sampleRelease other [1]]).file path := by
      rw [after]
      rfl
    rw [stored, place_eq]
  · rw [after, BuildCache.built_keep, BuildCache.built_put]
    change (cacheAfter directory [sampleRelease other [1]]).built ++ _ = _
    rw [(released_eq android (appSoPath other)).2]
    rfl
  · rw [after]
    exact place_eq

/-- The release is made again behind its patch. -/
theorem rereleased_eq (android : other.platform = "android") (number : Nat) (path : String) :
    let history := [sampleRelease other [1], samplePatch other number [2], sampleRelease other [3]]
    (cacheAfter directory history).file path =
        (if place directory path = place directory (releaseArtifactPath other) ∨
          place directory path = place directory (appSoPath other) then some ⟨other, none, [3]⟩
        else (cacheAfter directory [sampleRelease other [1], samplePatch other number [2]]).file path) ∧
      (cacheAfter directory history).built =
        [⟨other, none, [1]⟩, ⟨other, some number, [2]⟩, ⟨other, none, [3]⟩] := by
  obtain ⟨_, built, made⟩ := patched_eq android number path
  refine ⟨sampleRelease_file android made path, (sampleRelease_built android).trans ?_⟩
  exact congrArg (· ++ [⟨other, none, [3]⟩]) built

theorem commandsFor_released (member : other ∈ keys) : CommandsFor keys [sampleRelease other [1]] := by
  intro command here
  rw [List.mem_singleton.mp here]
  exact sampleRelease_for member [1]

theorem commandsFor_patched (member : other ∈ keys) (number : Nat) :
    CommandsFor keys [sampleRelease other [1], samplePatch other number [2]] := by
  intro command here
  rcases List.mem_cons.mp here with rfl | last
  · exact sampleRelease_for member [1]
  · rw [List.mem_singleton.mp last]
    exact samplePatch_for member number [2]

/-- Two releases with one directory. -/
theorem misled_of_releases (member : key ∈ keys) (member' : other ∈ keys) (android : other.platform = "android")
    (same : place directory (releaseCacheDir key) = place directory (releaseCacheDir other)) (differs : key ≠ other) :
    Misled directory keys := by
  refine ⟨[sampleRelease other [1]], commandsFor_released member', key, member, 1, fun later => by omega, ?_⟩
  have appSo : place directory (appSoPath key) = place directory (appSoPath other) := by
    rw [place_appSo, place_appSo, same]
  rw [snapshotReplaceDiffBase_toOption, if_neg (lt_irrefl 1), (released_eq android (appSoPath key)).1,
    if_pos (.inr appSo), (released_eq android (appSoPath key)).2]
  simp [ownBase, lastBuilt, Built.isRelease, Ne.symm differs]

/-- A release in the place of another key's patch. -/
theorem misled_of_patchOfRelease (member : key ∈ keys) (member' : other ∈ keys) (android : other.platform = "android")
    (positive : 0 < patchNumber)
    (same : place directory (patchCacheDir (key.patch patchNumber)) = place directory (releaseCacheDir other)) :
    Misled directory keys := by
  have shared : place directory (patchArtifactPath (key.patch patchNumber)) =
      place directory (releaseArtifactPath other) := by
    rw [place_patchArtifact, place_releaseArtifact, same]
  by_cases own : key = other
  · subst own
    refine ⟨[sampleRelease key [1], samplePatch key patchNumber [2], sampleRelease key [3]], ?_, key, member,
      patchNumber + 1, ?_⟩
    · intro command here
      simp only [List.mem_cons, List.not_mem_nil, or_false] at here
      obtain rfl | rfl | rfl := here
      · exact sampleRelease_for member [1]
      · exact samplePatch_for member patchNumber [2]
      · exact sampleRelease_for member [3]
    obtain ⟨file, built⟩ := rereleased_eq android patchNumber (patchArtifactPath (key.patch patchNumber))
    rw [if_pos (.inl shared)] at file
    rw [snapshotReplaceDiffBase_toOption, built, if_pos (by omega), Nat.add_sub_cancel, file]
    simp [PreviousPatchOwn, ownBase, lastBuilt, Built.isRelease, Built.isPatchOf, Built.isPatchAt, ReleaseKey.patch,
      positive]
  · refine ⟨[sampleRelease other [1]], commandsFor_released member', key, member, patchNumber + 1, ?_⟩
    rw [snapshotReplaceDiffBase_toOption, (released_eq android (appSoPath key)).2, if_pos (by omega),
      Nat.add_sub_cancel, (released_eq android _).1, if_pos (.inl shared)]
    simp [PreviousPatchOwn, ownBase, lastBuilt, Built.isRelease, Built.isPatchOf, Built.isPatchAt, Ne.symm own]

/-- A patch in the place of another key's release, or of its own where it may be a base. -/
theorem misled_of_releaseOfPatch (member : key ∈ keys) (member' : other ∈ keys) (android : other.platform = "android")
    (same : place directory (releaseCacheDir key) = place directory (patchCacheDir (other.patch number)))
    (differs : ¬ (key = other ∧ number = 0)) : Misled directory keys := by
  by_cases own : key = other
  · subst own
    have positive : 0 < number := Nat.pos_of_ne_zero fun zero => differs ⟨rfl, zero⟩
    exact misled_of_patchOfRelease member member android positive same.symm
  by_cases releases : place directory (releaseCacheDir key) = place directory (releaseCacheDir other)
  · exact misled_of_releases member member' android releases own
  refine ⟨[sampleRelease other [1], samplePatch other number [2]], commandsFor_patched member' number, key, member, 1,
    fun later => by omega, ?_⟩
  have shared : place directory (releaseArtifactPath key) = place directory (patchArtifactPath (other.patch number)) := by
    rw [place_patchArtifact, place_releaseArtifact, same]
  have absent : (cacheAfter directory [sampleRelease other [1], samplePatch other number [2]]).file (appSoPath key) =
      none := by
    rw [(patched_eq android number _).1, if_neg, (released_eq android _).1, if_neg]
    · intro here
      rcases here with copy | appSo
      · rw [place_releaseArtifact] at copy
        exact appSo_ne_artifact _ key copy
      · rw [place_appSo, place_appSo] at appSo
        exact releases (List.append_cancel_right appSo)
    · rw [place_patchArtifact]
      exact appSo_ne_artifact _ key
  rw [snapshotReplaceDiffBase_toOption, absent, (patched_eq android number (releaseArtifactPath key)).1,
    if_pos shared, (patched_eq android number (appSoPath key)).2.1]
  simp [ownBase, lastBuilt, Built.isRelease, Ne.symm own]

/-- Two patches with one directory. -/
theorem misled_of_patches (member : key ∈ keys) (member' : other ∈ keys) (android : other.platform = "android")
    (positive : 0 < patchNumber)
    (same : place directory (patchCacheDir (key.patch patchNumber)) = place directory (patchCacheDir (other.patch number)))
    (differs : key.patch patchNumber ≠ other.patch number) : Misled directory keys := by
  refine ⟨[sampleRelease other [1], samplePatch other number [2]], commandsFor_patched member' number, key, member,
    patchNumber + 1, ?_⟩
  have shared : place directory (patchArtifactPath (key.patch patchNumber)) =
      place directory (patchArtifactPath (other.patch number)) := by
    rw [place_patchArtifact, place_patchArtifact, same]
  have notPatch : Built.isPatchAt (key.patch patchNumber) ⟨other, some number, [2]⟩ = false := by
    rw [← Bool.not_eq_true, isPatchAt_iff]
    intro found
    obtain ⟨numbers, patch⟩ := found
    rw [← Option.some.inj numbers] at patch
    exact differs patch.symm
  have notOwn : Built.isPatchOf key patchNumber ⟨other, some number, [2]⟩ = false := by
    rw [← Bool.not_eq_true]
    intro found
    rw [isPatchAt_of_isPatchOf found] at notPatch
    cases notPatch
  rw [snapshotReplaceDiffBase_toOption, (patched_eq android number (appSoPath key)).2.1, if_pos (by omega),
    Nat.add_sub_cancel, (patched_eq android number _).1, if_pos shared]
  have patches : ∀ {kind : Built → Bool}, kind ⟨other, none, [1]⟩ = false → kind ⟨other, some number, [2]⟩ = false →
      lastBuilt [⟨other, none, [1]⟩, ⟨other, some number, [2]⟩] kind = none := by
    intro kind release patch
    simp [lastBuilt, release, patch]
  constructor
  · intro _ previous found
    rw [Nat.add_sub_cancel, patches (by simp [Built.isPatchAt]) notPatch] at found
    cases found
  · unfold ownBase
    rw [if_pos (by omega), Nat.add_sub_cancel, patches (by simp [Built.isPatchOf]) notOwn, Option.none_or,
      Option.some_or]
    intro same
    have released := (isRelease_iff.mp (lastBuilt_kind same.symm)).2
    cases released

end Misled

theorem misled_of_shared {directory : Place} {keys : Set ReleaseKey} (shared : ¬PathsApart directory keys) :
    Misled directory keys := by
  by_contra led
  refine shared ⟨?_, ?_, ?_, ?_⟩
  · intro key member other member' android same
    by_contra differs
    exact led (misled_of_releases member member' android same differs)
  · intro key member other member' android patchNumber number positive same
    by_contra differs
    exact led (misled_of_patches member member' android positive same differs)
  · intro key member other member' android number same
    by_contra differs
    exact led (misled_of_releaseOfPatch member member' android same differs)
  · intro key member other member' android patchNumber positive same
    exact led (misled_of_patchOfRelease member member' android positive same)

/-- While no two of the keys share a path, the base is the app's own exactly when no other app
built the patch before; when two of them do, a base can be another's all the same. -/
theorem diff_base_own_iff (directory : Place) (keys : Set ReleaseKey) :
    (PathsApart directory keys → ∀ history, CommandsFor keys history → ∀ key ∈ keys, ∀ patchNumber,
      ((snapshotReplaceDiffBase BaseLooks.working key patchNumber (cacheAfter directory history)).toOption =
          ownBase (cacheAfter directory history).built key patchNumber ↔
        PreviousPatchOwn (cacheAfter directory history).built key patchNumber)) ∧
    (¬PathsApart directory keys → Misled directory keys) := by
  constructor
  · intro apart history commands key member patchNumber
    exact (runFrom_current apart commands (current_empty directory keys)).base_own_iff member patchNumber
  · exact misled_of_shared

def androidKey (appId : String) : ReleaseKey where
  appId
  releaseVersion := "1.0.0"
  platform := "android"
  arch := "arm64-v8a"

/-- The two apps whose releases are used here. -/
def sampleKeys : Set ReleaseKey := {androidKey "counter", androidKey "shop"}

theorem sampleKeys_plain : ∀ key ∈ sampleKeys, key.Plain := by
  intro key member
  obtain rfl | rfl := member
  · exact ⟨⟨by decide, by decide, by decide, by decide⟩, ⟨by decide, by decide, by decide, by decide⟩,
      ⟨by decide, by decide, by decide, by decide⟩, ⟨by decide, by decide, by decide, by decide⟩⟩
  · exact ⟨⟨by decide, by decide, by decide, by decide⟩, ⟨by decide, by decide, by decide, by decide⟩,
      ⟨by decide, by decide, by decide, by decide⟩, ⟨by decide, by decide, by decide, by decide⟩⟩

set_option maxRecDepth 4000 in
/-- One app's release and its patch. -/
theorem own_patch_is_base :
    let history := [sampleRelease (androidKey "counter") [1], samplePatch (androidKey "counter") 1 [3]]
    (snapshotReplaceDiffBase BaseLooks.working (androidKey "counter") 2 (cacheAfter [] history)).toOption =
      ownBase (cacheAfter [] history).built (androidKey "counter") 2 := by
  intro history
  have commands : CommandsFor sampleKeys history := by
    intro command here
    simp only [history, List.mem_cons, List.not_mem_nil, or_false] at here
    obtain rfl | rfl := here
    · exact sampleRelease_for (.inl rfl) [1]
    · exact samplePatch_for (.inl rfl) 1 [3]
  refine ((diff_base_own_iff [] sampleKeys).1 (pathsApart_of_plain sampleKeys_plain) history commands
    (androidKey "counter") (.inl rfl) 2).mpr ?_
  intro _ previous found
  have last : previous = ⟨androidKey "counter", some 1, [3]⟩ := by
    have built : (cacheAfter [] history).built =
        [⟨androidKey "counter", none, [1]⟩, ⟨androidKey "counter", some 1, [3]⟩] := by decide
    rw [built] at found
    exact (Option.some.inj found).symm
  rw [last]

/-- Two apps with one version; the second patches last. -/
def twoApps : List BuildCommand :=
  [sampleRelease (androidKey "counter") [1], sampleRelease (androidKey "shop") [2],
    samplePatch (androidKey "counter") 1 [3], samplePatch (androidKey "shop") 1 [4]]

set_option maxRecDepth 4000 in
theorem other_app_is_base :
    snapshotReplaceDiffBase BaseLooks.working (androidKey "counter") 2 (cacheAfter [] twoApps) =
        .ok { release := androidKey "shop", patchNumber := some 1, bytes := [4] } ∧
      ownBase (cacheAfter [] twoApps).built (androidKey "counter") 2 =
        some { release := androidKey "counter", patchNumber := some 1, bytes := [3] } := by
  decide

end CodePush.Cli
