import CodePush.Server.PatchStore
import CodePush.Server.Storage

/-!
# Keys of payloads

The key of a payload joins the fields of its upload with slashes, and the fields may hold
slashes themselves. Two uploads share a key exactly if the slashes can be read both ways.
-/

set_option autoImplicit false

namespace CodePush.Server

open CodePush.Core CodePush.Foundation CodePush.Foundation.Action

/-!
## Reading a key
-/

namespace PatchKey

/-- The parts of the four texts of an upload, one after the other. -/
def fieldParts (key : PatchKey) : List (List Char) :=
  slashParts key.appId ++ (slashParts key.releaseVersion ++ (slashParts key.platform ++ slashParts key.arch))

theorem slashParts_storageKey (key : PatchKey) :
    slashParts key.storageKey =
      orgDirectories key.orgId ++ "patches".toList ::
        (key.fieldParts ++ (slashParts (toString key.patchNumber.toInt) ++ ["payload.bin".toList])) := by
  unfold storageKey fieldParts
  rw [slashParts_orgScoped, slashParts_payloadKey]
  simp only [List.append_assoc]

/-- What every accepted upload is checked for. -/
structure Proper (key : PatchKey) : Prop where
  named : key.orgId.isEmpty = false
  org : '/' ∉ key.orgId.toList
  appId : key.appId.isEmpty = false
  releaseVersion : key.releaseVersion.isEmpty = false

/-- Numbers are written without slashes, and differently. -/
theorem slashParts_number (value : Int) : slashParts (toString value) = [(toString value).toList] := by
  refine slashParts_whole ?_
  rw [Int.toString_eq_repr, Int.repr_eq_if]
  have digits : ∀ number : Nat, '/' ∉ (Nat.repr number).toList := by
    intro number member
    rw [Nat.toList_repr] at member
    exact absurd (toDigits_isDigit number '/' member) (by decide)
  split
  · exact digits _
  · rw [String.toList_append]
    intro member
    rcases List.mem_append.mp member with sign | digit
    · exact absurd sign (by decide)
    · exact digits _ digit

theorem toString_injective {one other : Int} (same : toString one = toString other) : one = other := by
  have read : ∀ {left right : Nat}, Nat.repr left = Nat.repr right → left = right := by
    intro left right same
    have digits := congrArg String.toList same
    rw [Nat.toList_repr, Nat.toList_repr] at digits
    rw [← foldl_toDigits left, digits, foldl_toDigits]
  have unsigned : ∀ {left right : Nat}, Nat.repr left ≠ "-" ++ Nat.repr right := by
    intro left right same
    have digits := congrArg (fun text => text.toList.head?) same
    rw [Nat.toList_repr, String.toList_append] at digits
    exact toDigits_head left (by decide) digits
  rw [Int.toString_eq_repr, Int.toString_eq_repr, Int.repr_eq_if, Int.repr_eq_if] at same
  split at same
  case isTrue positive =>
    split at same
    case isTrue positive' =>
      have numbers := read same
      omega
    case isFalse => exact absurd same unsigned
  case isFalse negative =>
    split at same
    case isTrue => exact absurd same.symm unsigned
    case isFalse negative' =>
      have numbers := read (String.append_right_inj "-" |>.mp same)
      omega

theorem Proper.orgDirectories_eq {key : PatchKey} (proper : key.Proper) :
    orgDirectories key.orgId = if key.orgId = defaultOrgID then [] else ["orgs".toList, key.orgId.toList] := by
  unfold orgDirectories
  rw [slashParts_whole proper.org, proper.named]
  simp only [Bool.false_eq_true, false_or]

/-- The parts of a key, with its literal parts as parameters. -/
theorem scopedParts_injective {orgs patches payload number number' : List Char} (apart : patches ≠ orgs)
    {org org' : String} {fields fields' : List (List Char)}
    (same : (if org = defaultOrgID then [] else [orgs, org.toList]) ++
        patches :: (fields ++ ([number] ++ [payload])) =
      (if org' = defaultOrgID then [] else [orgs, org'.toList]) ++
        patches :: (fields' ++ ([number'] ++ [payload]))) :
    org = org' ∧ number = number' ∧ fields = fields' := by
  have rest : org = org' ∧ fields ++ ([number] ++ [payload]) = fields' ++ ([number'] ++ [payload]) := by
    by_cases default : org = defaultOrgID
    · by_cases default' : org' = defaultOrgID
      · rw [if_pos default, if_pos default'] at same
        exact ⟨default.trans default'.symm, (List.cons.inj same).2⟩
      · rw [if_pos default, if_neg default'] at same
        exact absurd (List.cons.inj same).1 apart
    · by_cases default' : org' = defaultOrgID
      · rw [if_neg default, if_pos default'] at same
        exact absurd (List.cons.inj same).1.symm apart
      · rw [if_neg default, if_neg default'] at same
        obtain ⟨named, parts⟩ := List.cons.inj (List.cons.inj same).2
        exact ⟨String.ext named, (List.cons.inj parts).2⟩
  obtain ⟨fields, tail⟩ := List.append_inj' rest.2 rfl
  exact ⟨rest.1, (List.cons.inj tail).1, fields⟩

/-- A key tells the organization, the number, and the parts of the fields without their bounds. -/
theorem storageKey_eq_iff {one other : PatchKey} (proper : one.Proper) (proper' : other.Proper) :
    one.storageKey = other.storageKey ↔
      one.orgId = other.orgId ∧ one.patchNumber = other.patchNumber ∧ one.fieldParts = other.fieldParts := by
  have parts : one.storageKey = other.storageKey ↔ slashParts one.storageKey = slashParts other.storageKey :=
    ⟨congrArg slashParts, slashParts_injective⟩
  rw [parts, slashParts_storageKey, slashParts_storageKey, proper.orgDirectories_eq, proper'.orgDirectories_eq,
    slashParts_number, slashParts_number]
  constructor
  · intro same
    obtain ⟨org, number, fields⟩ := scopedParts_injective (by decide) same
    exact ⟨org, Int64.toInt_inj.mp (toString_injective (String.ext number)), fields⟩
  · rintro ⟨org, number, fields⟩
    rw [org, number, fields]

/-!
## Uploads that share a key with no other
-/

/-- The slashes of the texts can be read in one way: only an app's first character, or the
whole of a release, may be one. -/
structure Divided (key : PatchKey) : Prop where
  appId : '/' ∉ key.appId.toList.tail
  releaseVersion : key.releaseVersion = "/" ∨ '/' ∉ key.releaseVersion.toList
  platform : '/' ∉ key.platform.toList
  arch : '/' ∉ key.arch.toList

theorem slashParts_singleton_nil {text : String} (empty : slashParts text = [[]]) : text.isEmpty = true := by
  have same : text = "" := slashParts_injective empty
  rw [same]
  rfl

/-- Parts that are divided at most at the start of the first text, and into nothing in the
second, are divided in one way. -/
theorem parts_unique {α : Type} {app release platform arch app' release' platform' arch' : List (List α)}
    (some : app ≠ [[]]) (single : (∃ name, app = [name]) ∨ ∃ name, app = [[], name])
    (some' : app' ≠ [[]]) (filled : app' ≠ [])
    (someRelease : release ≠ [[]]) (whole : (∃ name, release = [name]) ∨ release = [[], []])
    (someRelease' : release' ≠ [[]]) (filled' : release' ≠ [])
    (one : ∃ name, platform = [name]) (one' : ∃ name, arch = [name]) (filledPlatform : platform' ≠ [])
    (filledArch : arch' ≠ [])
    (same : app ++ (release ++ (platform ++ arch)) = app' ++ (release' ++ (platform' ++ arch'))) :
    app' = app ∧ release' = release ∧ platform' = platform ∧ arch' = arch := by
  obtain ⟨platform, rfl⟩ := one
  obtain ⟨arch, rfl⟩ := one'
  obtain ⟨name', app', rfl⟩ := List.exists_cons_of_ne_nil filled
  obtain ⟨version', release', rfl⟩ := List.exists_cons_of_ne_nil filled'
  obtain ⟨system', platform', rfl⟩ := List.exists_cons_of_ne_nil filledPlatform
  obtain ⟨machine', arch', rfl⟩ := List.exists_cons_of_ne_nil filledArch
  have lengths := congrArg List.length same
  simp only [List.length_append, List.length_cons] at lengths
  have nil_of : ∀ {list : List (List α)}, list.length = 0 → list = [] := List.length_eq_zero_iff.mp
  rcases single with ⟨name, rfl⟩ | ⟨name, rfl⟩
  · rcases whole with ⟨version, rfl⟩ | rfl
    · simp only [List.length_cons, List.length_nil] at lengths
      obtain rfl := @nil_of app' (by omega)
      obtain rfl := @nil_of release' (by omega)
      obtain rfl := @nil_of platform' (by omega)
      obtain rfl := @nil_of arch' (by omega)
      simpa [eq_comm, and_assoc] using same
    · simp only [List.length_cons, List.length_nil] at lengths
      cases app' with
      | nil =>
          cases release' with
          | nil =>
              simp at same someRelease'
              exact absurd same.2.1 someRelease'
          | cons next release' =>
              simp only [List.length_cons] at lengths
              obtain rfl := @nil_of release' (by omega)
              obtain rfl := @nil_of platform' (by omega)
              obtain rfl := @nil_of arch' (by omega)
              simpa [eq_comm, and_assoc] using same
      | cons next app' =>
          simp only [List.length_cons] at lengths
          obtain rfl := @nil_of app' (by omega)
          obtain rfl := @nil_of release' (by omega)
          simp at same someRelease'
          exact absurd same.2.2.1 someRelease'
  · rcases whole with ⟨version, rfl⟩ | rfl
    · cases app' with
      | nil =>
          simp at same some'
          exact absurd same.1 some'
      | cons next app' =>
          simp only [List.length_cons, List.length_nil] at lengths
          obtain rfl := @nil_of app' (by omega)
          obtain rfl := @nil_of release' (by omega)
          obtain rfl := @nil_of platform' (by omega)
          obtain rfl := @nil_of arch' (by omega)
          simpa [eq_comm, and_assoc] using same
    · cases app' with
      | nil =>
          simp at same some'
          exact absurd same.1 some'
      | cons next app' =>
          simp only [List.length_cons, List.length_nil] at lengths
          cases app' with
          | nil =>
              cases release' with
              | nil =>
                  simp at same someRelease'
                  exact absurd same.2.2.1 someRelease'
              | cons last release' =>
                  simp only [List.length_cons, List.length_nil] at lengths
                  obtain rfl := @nil_of release' (by omega)
                  obtain rfl := @nil_of platform' (by omega)
                  obtain rfl := @nil_of arch' (by omega)
                  simpa [eq_comm, and_assoc] using same
          | cons last app' =>
              simp only [List.length_cons] at lengths
              obtain rfl := @nil_of app' (by omega)
              obtain rfl := @nil_of release' (by omega)
              simp at same someRelease'
              exact absurd same.2.2.2.1 someRelease'

theorem slashParts_ne_empty {text : String} (named : text.isEmpty = false) : slashParts text ≠ [[]] := by
  intro empty
  rw [slashParts_singleton_nil empty] at named
  cases named

/-- A divided upload shares its key with no other. -/
theorem Divided.unique {key other : PatchKey} (divided : key.Divided) (proper : key.Proper)
    (proper' : other.Proper) (same : other.storageKey = key.storageKey) : other = key := by
  obtain ⟨org, number, fields⟩ := (storageKey_eq_iff proper' proper).mp same
  have single : (∃ name, slashParts key.appId = [name]) ∨ ∃ name, slashParts key.appId = [[], name] := by
    cases chars : key.appId.toList with
    | nil => exact .inl ⟨_, slashParts_whole (by simp [chars])⟩
    | cons first rest =>
        have later := divided.appId
        rw [chars, List.tail_cons] at later
        by_cases slash : first = '/'
        · refine .inr ⟨rest, ?_⟩
          unfold slashParts
          rw [chars, slash, List.splitOn_cons_eq_if_modifyHead, if_pos (beq_self_eq_true _),
            List.splitOn_eq_singleton later]
        · refine .inl ⟨_, slashParts_whole ?_⟩
          rw [chars, List.mem_cons, not_or]
          exact ⟨fun here => slash here.symm, later⟩
  have whole : (∃ name, slashParts key.releaseVersion = [name]) ∨ slashParts key.releaseVersion = [[], []] := by
    rcases divided.releaseVersion with slash | none
    · rw [slash]
      exact .inr (by decide)
    · exact .inl ⟨_, slashParts_whole none⟩
  obtain ⟨app, release, platform, arch⟩ := parts_unique (slashParts_ne_empty proper.appId) single
    (slashParts_ne_empty proper'.appId) (slashParts_ne_nil _) (slashParts_ne_empty proper.releaseVersion) whole
    (slashParts_ne_empty proper'.releaseVersion) (slashParts_ne_nil _)
    ⟨_, slashParts_whole divided.platform⟩ ⟨_, slashParts_whole divided.arch⟩ (slashParts_ne_nil _)
    (slashParts_ne_nil _) fields.symm
  have app := slashParts_injective app
  have release := slashParts_injective release
  have platform := slashParts_injective platform
  have arch := slashParts_injective arch
  cases key
  cases other
  simp_all

/-- A text with a slash, cut at one. -/
theorem exists_cut {text : String} (slash : '/' ∈ text.toList) :
    ∃ left right, text = left ++ "/" ++ right := by
  obtain ⟨front, back, same⟩ := List.append_of_mem slash
  refine ⟨String.ofList front, String.ofList back, String.ext ?_⟩
  simp [same]

theorem left_ne_cut {left right : String} : left ≠ left ++ "/" ++ right := by
  intro same
  have lengths := congrArg (fun text => text.toList.length) same
  simp only [String.toList_append, List.length_append] at lengths
  have slash : "/".toList.length = 1 := by decide
  omega

theorem right_ne_cut {left right : String} : right ≠ left ++ "/" ++ right := by
  intro same
  have lengths := congrArg (fun text => text.toList.length) same
  simp only [String.toList_append, List.length_append] at lengths
  have slash : "/".toList.length = 1 := by decide
  omega

theorem cut_isEmpty (left right : String) : (left ++ "/" ++ right).isEmpty = false := by
  rw [Bool.eq_false_iff, ne_eq, String.isEmpty_iff]
  intro empty
  have lengths := congrArg (fun text => text.toList.length) empty
  simp only [String.toList_append, List.length_append] at lengths
  have slash : "/".toList.length = 1 := by decide
  have none : "".toList.length = 0 := by decide
  omega

/-- Another reading of the slashes of an upload. -/
structure Recut (key other : PatchKey) : Prop where
  org : other.orgId = key.orgId
  number : other.patchNumber = key.patchNumber
  fields : other.fieldParts = key.fieldParts
  appId : other.appId.isEmpty = false
  releaseVersion : other.releaseVersion.isEmpty = false

theorem Recut.proper {key other : PatchKey} (recut : Recut key other) (proper : key.Proper) : other.Proper :=
  ⟨recut.org.symm ▸ proper.named, recut.org.symm ▸ proper.org, recut.appId, recut.releaseVersion⟩

theorem Recut.storageKey {key other : PatchKey} (recut : Recut key other) (proper : key.Proper) :
    other.storageKey = key.storageKey :=
  (storageKey_eq_iff (recut.proper proper) proper).mpr ⟨recut.org, recut.number, recut.fields⟩

/-- The slashes of an upload that is not divided can be read in another way. -/
theorem exists_recut {key : PatchKey} (proper : key.Proper) (undivided : ¬ key.Divided) :
    ∃ other, Recut key other ∧ other ≠ key := by
  by_cases arch : '/' ∈ key.arch.toList
  · obtain ⟨left, right, same⟩ := exists_cut arch
    refine ⟨{ key with platform := key.platform ++ "/" ++ left, arch := right },
      ⟨rfl, rfl, ?_, proper.appId, proper.releaseVersion⟩, ?_⟩
    · unfold fieldParts
      simp only [same, slashParts_append, List.append_assoc]
    · intro equal
      exact right_ne_cut ((congrArg PatchKey.arch equal).trans same)
  by_cases platform : '/' ∈ key.platform.toList
  · obtain ⟨left, right, same⟩ := exists_cut platform
    refine ⟨{ key with platform := left, arch := right ++ "/" ++ key.arch },
      ⟨rfl, rfl, ?_, proper.appId, proper.releaseVersion⟩, ?_⟩
    · unfold fieldParts
      simp only [same, slashParts_append, List.append_assoc]
    · intro equal
      exact left_ne_cut ((congrArg PatchKey.platform equal).trans same)
  by_cases app : '/' ∈ key.appId.toList.tail
  · have cut : ∃ left right, left.isEmpty = false ∧ key.appId = left ++ "/" ++ right := by
      cases chars : key.appId.toList with
      | nil =>
          rw [chars] at app
          cases app
      | cons first rest =>
          rw [chars, List.tail_cons] at app
          obtain ⟨front, back, same⟩ := List.append_of_mem app
          refine ⟨String.ofList (first :: front), String.ofList back, ?_, String.ext ?_⟩
          · simp [String.ext_iff]
          · simp [chars, same]
    obtain ⟨left, right, some, same⟩ := cut
    refine ⟨{ key with appId := left, releaseVersion := right ++ "/" ++ key.releaseVersion },
      ⟨rfl, rfl, ?_, some, cut_isEmpty _ _⟩, ?_⟩
    · unfold fieldParts
      simp only [same, slashParts_append, List.append_assoc]
    · intro equal
      exact left_ne_cut ((congrArg PatchKey.appId equal).trans same)
  have release : '/' ∈ key.releaseVersion.toList ∧ key.releaseVersion ≠ "/" := by
    by_contra simple
    refine undivided ⟨app, ?_, platform, arch⟩
    by_cases single : key.releaseVersion = "/"
    · exact .inl single
    · exact .inr fun slash => simple ⟨slash, single⟩
  obtain ⟨left, right, same⟩ := exists_cut release.1
  by_cases start : left = ""
  · subst start
    refine ⟨{ key with appId := key.appId ++ "/" ++ "", releaseVersion := right },
      ⟨rfl, rfl, ?_, cut_isEmpty _ _, ?_⟩, ?_⟩
    · unfold fieldParts
      simp only [same, slashParts_append, List.append_assoc]
    · rw [Bool.eq_false_iff, ne_eq, String.isEmpty_iff]
      intro none
      have none : right = "" := none
      rw [none] at same
      exact release.2 same
    · intro equal
      exact right_ne_cut ((congrArg PatchKey.releaseVersion equal).trans same)
  · refine ⟨{ key with releaseVersion := left, platform := right ++ "/" ++ key.platform },
      ⟨rfl, rfl, ?_, proper.appId, ?_⟩, ?_⟩
    · unfold fieldParts
      simp only [same, slashParts_append, List.append_assoc]
    · rw [Bool.eq_false_iff, ne_eq, String.isEmpty_iff]
      exact start
    · intro equal
      exact left_ne_cut ((congrArg PatchKey.releaseVersion equal).trans same)

theorem Recut.payloadKey {key other : PatchKey} (recut : Recut key other) :
    patchPayloadKey other.appId other.releaseVersion other.platform other.arch other.patchNumber =
      patchPayloadKey key.appId key.releaseVersion key.platform key.arch key.patchNumber := by
  have parts : ∀ left right : List (List Char), left = right → ∀ number,
      "patches".toList :: (left ++ number) = "patches".toList :: (right ++ number) := by
    intro left right same number
    rw [same]
  apply slashParts_injective
  rw [slashParts_payloadKey, slashParts_payloadKey, recut.number]
  simpa only [fieldParts, List.append_assoc] using parts _ _ recut.fields _

end PatchKey

/-!
## Accepted uploads
-/

/-- A server with the storage accepts an upload of the key. -/
def Accepted (storage : StorageCall → Except String Unit) (key : PatchKey) : Prop :=
  ∃ (env : Environment) (orgId : Option String) (body : Except String Json) (db : Database)
    (request : CreatePatchRequest), env.storage = storage ∧
    body.bind CreatePatchRequest.unmarshal = .ok request ∧ request.keyIn orgId = key ∧
    (createPatch env orgId body db).1 = .ok .ok

section Accepted

variable {env : Environment} {orgId : Option String} {body : Except String Json} {db : Database}
  {request : CreatePatchRequest} {payload : Bytes}

theorem mem_dropWhile_of_visible {chars : List Char} {char : Char} (visible : isWhiteSpace char = false)
    (member : char ∈ chars) : char ∈ chars.dropWhile isWhiteSpace := by
  rw [← List.takeWhile_append_dropWhile (p := isWhiteSpace) (l := chars)] at member
  rcases List.mem_append.mp member with taken | dropped
  · rw [List.mem_takeWhile_imp taken] at visible
    cases visible
  · exact dropped

theorem mem_trim {text : String} {char : Char} (visible : isWhiteSpace char = false)
    (member : char ∈ text.toList) : char ∈ (trim text).toList := by
  unfold trim
  rw [String.toList_ofList, List.mem_reverse]
  apply mem_dropWhile_of_visible visible
  rw [List.mem_reverse]
  exact mem_dropWhile_of_visible visible member

/-- The id of an organization has no slash. -/
theorem validateOrgID_slash {text org : String} (normal : validateOrgID text = .ok org) : '/' ∉ text.toList := by
  intro slash
  have inside := mem_trim (by decide) slash
  unfold validateOrgID at normal
  dsimp only at normal
  split at normal
  case isTrue empty =>
    rw [String.isEmpty_iff] at empty
    rw [empty] at inside
    cases inside
  case isFalse =>
    split at normal
    case isTrue named => exact absurd (List.all_eq_true.mp named '/' inside) (by decide)
    case isFalse => cases normal

theorem Admitted.proper {ensured : Database} (admitted : Admitted env orgId body db request payload ensured) :
    (request.keyIn orgId).Proper := by
  have checked := checkUpload_checked admitted.checked
  have normal : ∃ org, validateOrgID (currentOrgID orgId) = .ok org := by
    rcases ensureAppInOrg_ends admitted.app with ⟨⟨org, readable⟩, _⟩ | ⟨org, normal, _⟩
    · exact ⟨org, readable.normal⟩
    · exact ⟨org, normal⟩
  obtain ⟨org, normal⟩ := normal
  exact ⟨currentOrgID_ne_empty orgId, validateOrgID_slash normal, checked.appId, checked.releaseVersion⟩

theorem checkUpload_of_checked (checked : Checked env request payload) :
    checkUpload env request = .ok payload := by
  have present : ¬ (request.manifest.appId.isEmpty ∨ request.manifest.releaseVersion.isEmpty ∨
      request.manifest.patchNumber = 0) := by
    simp [checked.appId, checked.releaseVersion, checked.patchNumber]
  unfold checkUpload
  dsimp only
  rw [if_neg present, checked.decoded]
  dsimp only
  rw [if_neg (not_not.mpr checked.size), if_neg (not_not.mpr checked.hash),
    if_neg (not_not.mpr checked.downloadUrl)]

/-- The body of a request. -/
def CreatePatchRequest.marshal (request : CreatePatchRequest) : Json :=
  .obj [("manifest", request.manifest.marshal), ("payload_b64", .str request.payloadB64)]

theorem CreatePatchRequest.unmarshal_marshal (request : CreatePatchRequest) :
    CreatePatchRequest.unmarshal request.marshal = .ok request := by
  simp [CreatePatchRequest.unmarshal, CreatePatchRequest.marshal, decodeStruct, decodeMembers,
    CreatePatchRequest.assign, fieldNamed_of_mem, CreatePatchRequest.zero,
    PatchManifest.unmarshal_marshal, decodeString]

theorem CreatePatchRequest.parsed (request : CreatePatchRequest) :
    (Except.ok request.marshal : Except String Json).bind CreatePatchRequest.unmarshal = .ok request :=
  request.unmarshal_marshal

theorem Accepted.proper {storage : StorageCall → Except String Unit} {key : PatchKey}
    (accepted : Accepted storage key) : key.Proper := by
  obtain ⟨env, orgId, body, db, request, _, parsed, rfl, answered⟩ := accepted
  have ends := createPatch_ended env orgId body db
  rw [answered] at ends
  generalize (createPatch env orgId body db).2 = after at ends
  cases ends with
  | stored admitted storable listed =>
      cases parsed.symm.trans admitted.parsed
      exact admitted.proper

/-- An admitted upload is accepted if its payload and its row can be written. -/
theorem Admitted.accepted {ensured : Database} {org : String}
    (admitted : Admitted env orgId body db request payload ensured)
    (takes : Storable env (request.keyIn orgId).storageKey ensured)
    (there : AppReadable env.again (currentOrgID orgId) request.manifest.appId ensured org)
    (inserts : env.sql .insertPatch = .ok ()) : (createPatch env orgId body db).1 = .ok .ok := by
  have lists : ∀ key payload, ∃ after, putPatchInOrg env (currentOrgID orgId)
      (request.manifest.uploaded (currentOrgID orgId)) (ensured.withObject key payload) = (.ok (), after) := by
    intro key payload
    refine putPatchInOrg_ok_iff.mpr ⟨⟨org, ?_⟩, inserts⟩
    exact ⟨there.normal, there.selects, there.found, there.platforms, there.abis⟩
  have ends := createPatch_ended env orgId body db
  generalize (createPatch env orgId body db).1 = answer at ends ⊢
  generalize (createPatch env orgId body db).2 = after at ends
  cases ends with
  | rejected _ unacceptable => exact absurd admitted.checked (unacceptable _ _ admitted.parsed)
  | appless parsed _ fails =>
      cases parsed.symm.trans admitted.parsed
      cases fails.symm.trans admitted.app
  | stopped admitted' refused =>
      obtain ⟨rfl, rfl, rfl⟩ := admitted.unique admitted'
      cases refused with
      | taken _ found => exact absurd found (Opened.not_there_of_missing takes.missing)
      | unread fails => exact absurd takes.toKeyFree fails
      | unwritten _ fails => cases fails.symm.trans takes.writes
  | unlisted admitted' _ fails =>
      obtain ⟨rfl, rfl, rfl⟩ := admitted.unique admitted'
      obtain ⟨after, listed⟩ := lists _ _
      cases fails.symm.trans listed
  | stored => rfl

/-- The other reading is accepted as well, by a server that has its app and no payloads. -/
theorem Accepted.recut {storage : StorageCall → Except String Unit} {key other : PatchKey}
    (accepted : Accepted storage key) (recut : key.Recut other) : Accepted storage other := by
  have proper := accepted.proper
  obtain ⟨env, orgId, body, db, request, sameStorage, parsed, rfl, answered⟩ := accepted
  have ends := createPatch_ended env orgId body db
  rw [answered] at ends
  generalize (createPatch env orgId body db).2 = after at ends
  cases ends with
  | @stored _ payload _ _ admitted storable listed =>
      cases parsed.symm.trans admitted.parsed
      have checked := checkUpload_checked admitted.checked
      obtain ⟨⟨org, readable⟩, _⟩ := putPatchInOrg_ok_iff.mp ⟨_, listed⟩
      let again : CreatePatchRequest :=
        { request with
          manifest :=
            { request.manifest with
              appId := other.appId
              releaseVersion := other.releaseVersion
              platform := other.platform
              arch := other.arch } }
      let server : Environment := { env with sql := fun _ => .ok (), sqlAgain := fun _ => .ok () }
      let tables : Database :=
        { db with
          objects := ∅
          directories := []
          apps := db.apps.insert (org, other.appId)
            { name := "", channel := "", publicKey := "", createdAt := 0, updatedAt := 0 } }
      have named : again.keyIn orgId = other := by
        have org : other.orgId = currentOrgID orgId := recut.org
        have number : other.patchNumber = request.manifest.patchNumber := recut.number
        cases other
        simp_all [again, CreatePatchRequest.keyIn, PatchManifest.keyIn]
      have address : again.manifest.expectedKey = request.manifest.expectedKey := by
        have same := recut.payloadKey
        rw [← named] at same
        exact same
      have passes : checkUpload server again = .ok payload := checkUpload_of_checked
        { appId := recut.appId
          releaseVersion := recut.releaseVersion
          patchNumber := checked.patchNumber
          decoded := checked.decoded
          size := checked.size
          hash := checked.hash
          downloadUrl := checked.downloadUrl.trans address.symm }
      have found : (tables.apps.lookup (org, again.manifest.appId)).isSome := by
        rw [AList.lookup_insert]
        rfl
      have there : AppReadable server (currentOrgID orgId) again.manifest.appId tables org :=
        ⟨readable.normal, rfl, found, rfl, fun _ => rfl⟩
      have there' : AppReadable server.again (currentOrgID orgId) again.manifest.appId tables org :=
        ⟨readable.normal, rfl, found, rfl, fun _ => rfl⟩
      have key : (again.keyIn orgId).storageKey = (request.keyIn orgId).storageKey := by
        rw [named]
        exact recut.storageKey proper
      have takes : Storable server (again.keyIn orgId).storageKey tables := by
        rw [key]
        exact ⟨⟨storable.reads, opened_empty rfl rfl⟩, storable.writes⟩
      have admitted' : Admitted server orgId (.ok again.marshal) tables again payload tables :=
        ⟨again.parsed, passes, ensureAppInOrg_there there⟩
      exact ⟨server, orgId, .ok again.marshal, tables, again, sameStorage, again.parsed, named,
        admitted'.accepted takes there' rfl⟩

/-!
## Objects and their uploads
-/

/-- An upload among the calls has the key. -/
def UploadedBy (calls : List PatchCall) (key : PatchKey) : Prop :=
  ∃ call ∈ calls, ∃ orgId body request, call.request = .create orgId body ∧
    body.bind CreatePatchRequest.unmarshal = .ok request ∧ request.keyIn orgId = key

theorem UploadedBy.mono {calls later : List PatchCall} {key : PatchKey} (uploaded : UploadedBy calls key) :
    UploadedBy (calls ++ later) key := by
  obtain ⟨call, member, rest⟩ := uploaded
  exact ⟨call, List.mem_append_left _ member, rest⟩

/-- Every object is that of an upload, and every directory is above one's. -/
structure StorageUploaded (db : Database) (calls : List PatchCall) : Prop where
  objects : ∀ address ∈ db.objects.keys, ∃ key : PatchKey, key.Proper ∧ key.storageKey = address ∧
    UploadedBy calls key
  directories : ∀ path ∈ db.directories, ∃ key : PatchKey, UploadedBy calls key ∧ KeyAbove path key.storageKey

section Storage

variable {calls : List PatchCall}

theorem StorageUploaded.mono (uploaded : StorageUploaded db calls) {after : Database}
    (same : after.objects = db.objects ∧ after.directories = db.directories) (later : List PatchCall) :
    StorageUploaded after (calls ++ later) := by
  constructor
  · intro address member
    rw [same.1] at member
    obtain ⟨key, proper, here, by_⟩ := uploaded.objects address member
    exact ⟨key, proper, here, by_.mono⟩
  · intro path member
    rw [same.2] at member
    obtain ⟨key, by_, above⟩ := uploaded.directories path member
    exact ⟨key, by_.mono, above⟩

theorem StorageUploaded.withObject (uploaded : StorageUploaded db calls) {key : PatchKey} (proper : key.Proper)
    (by_ : UploadedBy calls key) (payload : Bytes) :
    StorageUploaded (db.withObject key.storageKey payload) calls := by
  constructor
  · intro address member
    rw [← AList.mem_keys] at member
    rcases (AList.mem_insert _).mp member with here | before
    · exact ⟨key, proper, here.symm, by_⟩
    · exact uploaded.objects address (AList.mem_keys.mp before)
  · exact uploaded.directories

theorem StorageUploaded.withDirectory (uploaded : StorageUploaded db calls) {key : PatchKey}
    (by_ : UploadedBy calls key) {path : String} (above : KeyAbove path key.storageKey) :
    StorageUploaded (db.withDirectory path) calls := by
  constructor
  · exact uploaded.objects
  · intro other member
    rcases (mem_withDirectory db path other).mp member with before | ⟨rfl, _⟩
    · exact uploaded.directories other before
    · exact ⟨key, by_, above⟩

theorem changePatch_storage (env : Environment) (orgId : Option String)
    (body : Except String PromotePatchRequest)
    (change : PromotePatchRequest → PatchManifest → PatchManifest) :
    (changePatch env orgId body change db).2.objects = db.objects ∧
      (changePatch env orgId body change db).2.directories = db.directories := by
  refine Ensures.finally (fun after : Database => after.objects = db.objects ∧ after.directories = db.directories)
    ((changePatch_ensures env orgId body change db).mono ?_ ?_)
  · rintro _ after ⟨_, _, _, _, _, _, rfl⟩
    exact ⟨rfl, rfl⟩
  · rintro _ after rfl
    exact ⟨rfl, rfl⟩

/-- One step: what an upload leaves in the storage is at or above its key. -/
theorem servePatch_storage (call : PatchCall) (uploaded : StorageUploaded db calls) :
    StorageUploaded (servePatch call db).2 (calls ++ [call]) := by
  obtain ⟨env, request⟩ := call
  cases request with
  | create orgId body =>
      have own : ∀ {request payload ensured}, Admitted env orgId body db request payload ensured →
          StorageUploaded ensured (calls ++ [⟨env, .create orgId body⟩]) ∧
            UploadedBy (calls ++ [⟨env, .create orgId body⟩]) (request.keyIn orgId) := by
        intro request payload ensured admitted
        exact ⟨uploaded.mono admitted.storage _, _, List.mem_append_right _ List.mem_cons_self, orgId, body,
          request, rfl, admitted.parsed, rfl⟩
      have ends := createPatch_ended env orgId body db
      change StorageUploaded (createPatch env orgId body db).2 _
      generalize (createPatch env orgId body db).1 = answer at ends
      generalize (createPatch env orgId body db).2 = after at ends ⊢
      cases ends with
      | rejected | appless => exact uploaded.mono ⟨rfl, rfl⟩ _
      | stopped admitted refused =>
          obtain ⟨kept, by_⟩ := own admitted
          cases refused with
          | taken | unread => exact kept
          | unwritten =>
              unfold Database.afterFailedPut
              split
              · split
                case isTrue above => exact kept.withDirectory by_ above
                case isFalse => exact kept
              · exact kept.withObject admitted.proper by_ _
              · exact kept
      | unlisted admitted =>
          obtain ⟨kept, by_⟩ := own admitted
          exact kept.withObject admitted.proper by_ _
      | @stored request payload ensured after admitted storable listed =>
          obtain ⟨kept, by_⟩ := own admitted
          obtain ⟨rfl, _⟩ := (putPatchInOrg_ensures env _ _ _).of_ok listed
          have put := kept.withObject admitted.proper by_ payload
          exact ⟨put.objects, put.directories⟩
  | promote orgId body => exact uploaded.mono (changePatch_storage env orgId body _) _
  | rollback orgId body => exact uploaded.mono (changePatch_storage env orgId body _) _

/-- In a run that starts with an empty storage, all of it comes from uploads. -/
theorem run_storage (later : List PatchCall) (uploaded : StorageUploaded db calls) :
    StorageUploaded (runFrom servePatch db later) (calls ++ later) := by
  induction later generalizing db calls with
  | nil =>
      rw [List.append_nil]
      exact uploaded
  | cons call later ih =>
      rw [List.append_cons]
      exact ih (servePatch_storage call uploaded)

/-- With a directory, the path of one key leads through the other. -/
def Crosses : StorageKind → String → String → Prop
  | .s3, _, _ => False
  | .localFS _ _, one, other => KeyAbove one other ∨ KeyAbove other one

/-- What is found under a divided key that no other crosses is its own. -/
theorem StorageUploaded.own (uploaded : StorageUploaded db calls) {kind : StorageKind} {key : PatchKey}
    (proper : key.Proper) (divided : key.Divided)
    (apart : ∀ other, UploadedBy calls other → ¬ Crosses kind other.storageKey key.storageKey)
    (found : db.opened kind key.storageKey ≠ .missing) : UploadedBy calls key := by
  by_contra foreign
  refine found (opened_missing ?_ ?_)
  · by_contra there
    have member : key.storageKey ∈ db.objects.keys := by
      rw [← AList.mem_keys, ← AList.lookup_isSome, Option.isSome_iff_ne_none]
      exact there
    obtain ⟨other, proper', same, by_⟩ := uploaded.objects _ member
    rw [divided.unique proper proper' same] at by_
    exact foreign by_
  · cases kind with
    | s3 => exact .inl rfl
    | localFS notDirectory isDirectory =>
        refine .inr ⟨?_, ?_⟩
        · rintro (⟨object, member, above⟩ | ⟨path, member, leads⟩)
          · obtain ⟨other, _, rfl, by_⟩ := uploaded.objects object member
            exact apart other by_ (.inr above)
          · obtain ⟨other, by_, above⟩ := uploaded.directories path member
            exact apart other by_ (.inr (.of_leads leads above))
        · rintro ⟨object, member, above⟩
          obtain ⟨other, _, rfl, by_⟩ := uploaded.objects object member
          exact apart other by_ (.inl above)

end Storage

/-!
## Refusals
-/

def Database.withoutObjects (db : Database) : Database := { db with objects := ∅, directories := [] }

/-- The databases differ in their storage at most. -/
def SameTables (left right : Database) : Prop :=
  ∃ objects directories, right = { left with objects, directories }

theorem SameTables.seesApps (org : String) : SeesApps SameTables org := by
  have puts : ∀ (key : String × String) (entries : List AppPlatform) {left right : Database}, SameTables left right →
      SameTables (entries.foldl (fun db entry => db.putPlatform key entry) left)
        (entries.foldl (fun db entry => db.putPlatform key entry) right) := by
    intro key entries
    induction entries with
    | nil => exact id
    | cons entry entries ih =>
        rintro left _ ⟨objects, directories, rfl⟩
        exact ih ⟨objects, directories, rfl⟩
  constructor
  · rintro left _ ⟨objects, directories, rfl⟩
    rfl
  · rintro left _ ⟨objects, directories, rfl⟩ id
    rfl
  · rintro left _ ⟨objects, directories, rfl⟩ id
    rfl
  · rintro left _ ⟨objects, directories, rfl⟩ now id app
    exact ⟨objects, directories, rfl⟩
  · rintro left _ ⟨objects, directories, rfl⟩ id
    exact ⟨objects, directories, rfl⟩
  · exact fun same id entries => puts (org, id) entries same

/-- What an upload is refused for with an empty storage is no object: where this is all it needs,
something is under its key. -/
theorem opened_of_refused (accepted : (createPatch env orgId body db.withoutObjects).1 = .ok .ok)
    (parsed : body.bind CreatePatchRequest.unmarshal = .ok request)
    (refused : (createPatch env orgId body db).1 ≠ .ok .ok) :
    (request.keyIn orgId).Proper ∧ db.opened env.storageKind (request.keyIn orgId).storageKey ≠ .missing := by
  have ends := createPatch_ended env orgId body db.withoutObjects
  rw [accepted] at ends
  generalize (createPatch env orgId body db.withoutObjects).2 = after at ends
  cases ends with
  | @stored _ payload ensured _ admitted storable listed =>
      cases parsed.symm.trans admitted.parsed
      refine ⟨admitted.proper, fun missing => refused ?_⟩
      have respects : Respects SameTables (ensureAppInOrg env (currentOrgID orgId) request.manifest.appId) :=
        ensureAppInOrg_respects env (fun _ => SameTables.seesApps _) request.manifest.appId
      have alike := respects db.withoutObjects db ⟨db.objects, db.directories, rfl⟩
      rw [admitted.app] at alike
      rcases app : ensureAppInOrg env (currentOrgID orgId) request.manifest.appId db with ⟨outcome, reached⟩
      rw [app] at alike
      obtain ⟨rfl, objects, directories, same⟩ := alike
      have admitted' : Admitted env orgId body db request payload reached := ⟨parsed, admitted.checked, app⟩
      obtain ⟨⟨org, readable⟩, inserts⟩ := putPatchInOrg_ok_iff.mp ⟨_, listed⟩
      have there : AppReadable env.again (currentOrgID orgId) request.manifest.appId reached org := by
        subst same
        exact ⟨readable.normal, readable.selects, readable.found, readable.platforms, readable.abis⟩
      exact admitted'.accepted ⟨⟨storable.reads, (admitted'.opened _ _).trans missing⟩, storable.writes⟩ there inserts

end Accepted

/-- An upload shares its key with no other that is accepted exactly if its texts are divided by
their slashes in one way. If they are, and no other key crosses its own in a directory, then it
is refused for an object only where that is its own: an upload of the same patch stored it. -/
theorem storageKey_unique_iff (storage : StorageCall → Except String Unit) :
    (∀ key : PatchKey, Accepted storage key →
      ((∀ other, Accepted storage other → other.storageKey = key.storageKey → other = key) ↔ key.Divided)) ∧
    ∀ (start : Database) (history : List PatchCall) (env : Environment) (orgId : Option String)
      (body : Except String Json) (request : CreatePatchRequest),
      start.objects = ∅ → start.directories = [] → body.bind CreatePatchRequest.unmarshal = .ok request →
      (request.keyIn orgId).Divided →
      (∀ other, UploadedBy history other →
        ¬ Crosses env.storageKind other.storageKey (request.keyIn orgId).storageKey) →
      (createPatch env orgId body (runFrom servePatch start history).withoutObjects).1 = .ok .ok →
      (createPatch env orgId body (runFrom servePatch start history)).1 ≠ .ok .ok →
        UploadedBy history (request.keyIn orgId) := by
  constructor
  · intro key accepted
    constructor
    · intro unique
      by_contra undivided
      obtain ⟨other, recut, differs⟩ := PatchKey.exists_recut accepted.proper undivided
      exact differs (unique other (accepted.recut recut) (recut.storageKey accepted.proper))
    · intro divided other accepted' same
      exact divided.unique accepted.proper accepted'.proper same
  · intro start history env orgId body request objects directories parsed divided apart accepted refused
    obtain ⟨proper, found⟩ := opened_of_refused accepted parsed refused
    have initially : StorageUploaded start [] := by
      constructor
      · intro address member
        rw [objects] at member
        cases member
      · intro path member
        rw [directories] at member
        cases member
    exact (run_storage history initially).own proper divided apart found

/-- The storage of a server with a directory. -/
def directoryStorage : StorageCall → Except String Unit
  | .get key => validateObjectKey (stringBytes key)
  | .put key => validateObjectKey (stringBytes key)

def directoryEnv : Environment :=
  { abcEnv with
    storageKind := .localFS (fun key => "open " ++ key ++ ": not a directory")
      (fun key => "read " ++ key ++ ": is a directory")
    storage := directoryStorage }

/-- An upload with the fields, to the address that belongs to them. -/
def fieldsRequest (releaseVersion platform : String) : CreatePatchRequest where
  manifest :=
    { PatchManifest.ofUpload abcUpload with
      releaseVersion
      platform
      payload := { PayloadManifest.ofUpload abcUpload.payload with
        downloadUrl := patchPayloadKey "app" releaseVersion platform "arm64" 1 } }
  payloadB64 := "YWJj"

def fieldsKey (releaseVersion platform : String) : PatchKey :=
  (fieldsRequest releaseVersion platform).keyIn none

def fieldsCall (releaseVersion platform : String) : PatchCall where
  env := directoryEnv
  request := .create none (.ok (fieldsRequest releaseVersion platform).marshal)

theorem fields_accepted {releaseVersion platform : String}
    (answered : (servePatch (fieldsCall releaseVersion platform) (Database.migrated 0)).1 = .ok .ok) :
    Accepted directoryStorage (fieldsKey releaseVersion platform) := by
  exact ⟨directoryEnv, none, .ok (fieldsRequest releaseVersion platform).marshal, Database.migrated 0,
    fieldsRequest releaseVersion platform, rfl, (fieldsRequest releaseVersion platform).parsed, rfl, answered⟩

theorem uploadedBy_fieldsCall {releaseVersion platform : String} {key : PatchKey}
    (uploaded : UploadedBy [fieldsCall releaseVersion platform] key) : key = fieldsKey releaseVersion platform := by
  obtain ⟨call, member, orgId, body, request, asked, parsed, rfl⟩ := uploaded
  cases List.mem_singleton.mp member
  cases asked
  cases (fieldsRequest releaseVersion platform).parsed.symm.trans parsed
  rfl

/-- A plain upload has a key of its own; a second one is refused for the first. -/
theorem plain_upload_key :
    (Accepted directoryStorage (fieldsKey "1/ios" "x") → (fieldsKey "1/ios" "x").storageKey =
      (fieldsKey "1" "ios").storageKey → fieldsKey "1/ios" "x" = fieldsKey "1" "ios") ∧
    UploadedBy [fieldsCall "1" "ios"] (fieldsKey "1" "ios") := by
  have divided : (fieldsKey "1" "ios").Divided := ⟨by decide, .inr (by decide), by decide, by decide⟩
  have accepted : Accepted directoryStorage (fieldsKey "1" "ios") := fields_accepted (by decide)
  have apart : ∀ other, UploadedBy [fieldsCall "1" "ios"] other →
      ¬ Crosses directoryEnv.storageKind other.storageKey (fieldsKey "1" "ios").storageKey := by
    intro other uploaded
    rw [uploadedBy_fieldsCall uploaded]
    rintro (above | above)
    · exact above.2 rfl
    · exact above.2 rfl
  have again : (createPatch directoryEnv none (.ok (fieldsRequest "1" "ios").marshal)
      (runFrom servePatch (Database.migrated 0) [fieldsCall "1" "ios"])).1 =
      .error { status := 409, message := "payload object already exists" } := by decide
  have alone : (createPatch directoryEnv none (.ok (fieldsRequest "1" "ios").marshal)
      (runFrom servePatch (Database.migrated 0) [fieldsCall "1" "ios"]).withoutObjects).1 = .ok .ok := by decide
  refine ⟨((storageKey_unique_iff directoryStorage).1 _ accepted).mpr divided _,
    (storageKey_unique_iff directoryStorage).2 (Database.migrated 0) [fieldsCall "1" "ios"] directoryEnv none
      (.ok (fieldsRequest "1" "ios").marshal) (fieldsRequest "1" "ios") rfl rfl
      (fieldsRequest "1" "ios").parsed divided apart alone ?_⟩
  rw [again]
  intro same
  cases same

/-- A key that leads through the one of a plain upload takes its place. -/
example : (servePatch (fieldsCall "1" "ios") (runFrom servePatch (Database.migrated 0)
    [fieldsCall "1/ios/arm64/1/payload.bin" "x"])).1 =
      .error { status := 409, message := "payload object already exists" } := by decide

/-- Release `1/ios` for `x` and release `1` for `ios/x` are accepted, with one key. -/
theorem slashes_share_key :
    ¬ ∀ (storage : StorageCall → Except String Unit) (one other : PatchKey), Accepted storage one →
      Accepted storage other → one.storageKey = other.storageKey → one = other := by
  intro injective
  have same := injective directoryStorage (fieldsKey "1/ios" "x") (fieldsKey "1" "ios/x")
    (fields_accepted (by decide)) (fields_accepted (by decide)) (by decide)
  revert same
  decide

end CodePush.Server
