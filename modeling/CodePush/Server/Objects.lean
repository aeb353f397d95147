import CodePush.Server.StoreProperties

/-!
# Objects of the storage

An object is found under its key. The directory of `LocalFSStorage` also has paths above
and below: a key above an object opens as a directory, and one below an object not at all.
-/

set_option autoImplicit false

namespace CodePush.Server

open CodePush.Core CodePush.Foundation CodePush.Foundation.Action

/-!
## Paths
-/

theorem slashParts_append (left right : String) :
    slashParts (left ++ "/" ++ right) = slashParts left ++ slashParts right := by
  unfold slashParts
  rw [String.toList_append, String.toList_append, List.append_assoc]
  exact List.splitOn_append_cons_self _ _

theorem slashParts_injective {left right : String} (same : slashParts left = slashParts right) : left = right := by
  have texts := congrArg (fun parts => ['/'].intercalate parts) same
  unfold slashParts at texts
  rw [List.intercalate_splitOn, List.intercalate_splitOn] at texts
  exact String.ext texts

theorem slashParts_whole {text : String} (whole : '/' ∉ text.toList) : slashParts text = [text.toList] :=
  List.splitOn_eq_singleton whole

theorem slashParts_ne_nil (text : String) : slashParts text ≠ [] := List.splitOn_ne_nil _ _

theorem slashParts_payloadKey (appId releaseVersion platform arch : String) (patchNumber : Int64) :
    slashParts (patchPayloadKey appId releaseVersion platform arch patchNumber) =
      "patches".toList :: (slashParts appId ++ (slashParts releaseVersion ++ (slashParts platform ++
        (slashParts arch ++ (slashParts (toString patchNumber.toInt) ++ ["payload.bin".toList]))))) := by
  have joined : ∀ number : String,
      "patches/" ++ appId ++ "/" ++ releaseVersion ++ "/" ++ platform ++ "/" ++ arch ++ "/" ++ number ++
        "/payload.bin" =
      "patches" ++ "/" ++ (appId ++ "/" ++ (releaseVersion ++ "/" ++ (platform ++ "/" ++ (arch ++ "/" ++
        (number ++ "/" ++ "payload.bin"))))) := by
    intro number
    apply String.ext
    simp
  have first : slashParts "patches" = ["patches".toList] := slashParts_whole (by decide)
  have last : slashParts "payload.bin" = ["payload.bin".toList] := slashParts_whole (by decide)
  change slashParts ("patches/" ++ appId ++ "/" ++ releaseVersion ++ "/" ++ platform ++ "/" ++ arch ++ "/" ++
    toString patchNumber.toInt ++ "/payload.bin") = _
  rw [joined, slashParts_append, slashParts_append, slashParts_append, slashParts_append, slashParts_append,
    slashParts_append, first, last]
  rfl

/-- The directories of an organization's payloads, above those of its own directory. -/
def orgDirectories (org : String) : List (List Char) :=
  if org.isEmpty ∨ org = defaultOrgID then [] else "orgs".toList :: slashParts org

theorem slashParts_orgScoped (org key : String) :
    slashParts (orgScopedPayloadKey org key) = orgDirectories org ++ slashParts key := by
  unfold orgScopedPayloadKey orgDirectories
  split
  · rfl
  · have joined : s!"orgs/{org}/{key}" = "orgs" ++ "/" ++ (org ++ "/" ++ key) := by
      change "orgs/" ++ org ++ "/" ++ key = _
      apply String.ext
      simp
    have first : slashParts "orgs" = ["orgs".toList] := slashParts_whole (by decide)
    rw [joined, slashParts_append, slashParts_append, first]
    simp only [List.cons_append, List.nil_append]

/-- A path that leads into one above a key is itself above the key. -/
theorem KeyAbove.of_leads {upper path key : String} (leads : slashParts upper <+: slashParts path)
    (above : KeyAbove path key) : KeyAbove upper key := by
  refine ⟨leads.trans above.1, ?_⟩
  rintro rfl
  exact above.2 (slashParts_injective (above.1.eq_of_length (above.1.length_le.antisymm leads.length_le)))

/-!
## What is found
-/

section Found

variable {db : Database} {kind : StorageKind} {key : String} {payload : Bytes}

theorem opened_object (stored : db.objects.lookup key = some payload) : db.opened kind key = .object payload := by
  unfold Database.opened
  rw [stored]

theorem opened_congr {after : Database} (objects : after.objects = db.objects)
    (directories : after.directories = db.directories) : after.opened kind key = db.opened kind key := by
  have directory : after.IsDirectory key ↔ db.IsDirectory key := by
    simp only [Database.IsDirectory, objects, directories]
  have barred : after.Barred key ↔ db.Barred key := by
    simp only [Database.Barred, objects]
  unfold Database.opened
  rw [objects]
  simp only [directory, barred]

theorem absent_of_missing (missing : db.opened kind key = .missing) : db.objects.lookup key = none := by
  cases found : db.objects.lookup key with
  | none => rfl
  | some payload =>
      rw [opened_object found] at missing
      cases missing

/-- Without anything at, above or below the key, nothing is found. -/
theorem opened_missing (absent : db.objects.lookup key = none)
    (apart : kind = .s3 ∨ ¬ db.IsDirectory key ∧ ¬ db.Barred key) : db.opened kind key = .missing := by
  unfold Database.opened
  rw [absent]
  rcases apart with rfl | ⟨plain, open_⟩
  · rfl
  · cases kind with
    | s3 => rfl
    | localFS notDirectory isDirectory =>
        dsimp only
        rw [if_neg plain, if_neg open_]

theorem opened_empty (objects : db.objects = ∅) (directories : db.directories = []) :
    db.opened kind key = .missing := by
  have none : ∀ object, object ∉ db.objects.keys := by
    intro object member
    rw [objects] at member
    cases member
  refine opened_missing ?_ (.inr ⟨?_, ?_⟩)
  · rw [objects]
    rfl
  · rintro (⟨object, member, _⟩ | ⟨path, member, _⟩)
    · exact none object member
    · rw [directories] at member
      cases member
  · rintro ⟨object, member, _⟩
    exact none object member

/-- Something to open is under the key. -/
def Opened.There : Opened → Prop
  | .object _ | .directory _ => True
  | .missing | .failed _ => False

theorem Opened.not_there_of_missing {opened : Opened} (missing : opened = .missing) : ¬ opened.There := by
  rw [missing]
  exact id

end Found

/-!
## What an upload does to the storage
-/

/-- `Get` says that there is no object. -/
structure KeyFree (env : Environment) (key : String) (db : Database) : Prop where
  reads : env.storage (.get key) = .ok ()
  missing : db.opened env.storageKind key = .missing

/-- The storage takes the payload. -/
structure Storable (env : Environment) (key : String) (db : Database) : Prop extends KeyFree env key db where
  writes : env.storage (.put key) = .ok ()

inductive PutRefused (env : Environment) (key : String) (payload : Bytes) (db : Database) :
    HttpError → Database → Prop where
  | taken (reads : env.storage (.get key) = .ok ()) (there : (db.opened env.storageKind key).There) :
      PutRefused env key payload db { status := 409, message := "payload object already exists" } db
  | unread {message : String} (fails : ¬ KeyFree env key db)
      (untold : ¬ (env.storage (.get key) = .ok () ∧ (db.opened env.storageKind key).There)) :
      PutRefused env key payload db { status := 500, message } db
  | unwritten {message : String} (free : KeyFree env key db)
      (fails : env.storage (.put key) = .error message) :
      PutRefused env key payload db { status := 500, message } (db.afterFailedPut env key payload)

section Puts

variable {env : Environment} {key : String} {payload : Bytes} {db : Database}

theorem lookForObject_ensures (env : Environment) (key : String) (payload : Bytes) (db : Database) :
    Ensures (lookForObject env key) db (fun _ after => KeyFree env key db ∧ after = db)
      (fun error after => PutRefused env key payload db error after) := by
  unfold lookForObject
  cases reads : env.storage (.get key) with
  | error message =>
      have unread : env.storage (.get key) ≠ .ok () := by
        intro read
        cases reads.symm.trans read
      refine ensures_bind (ensures_attempt (fun _ ended => by cases ended) ?_)
      rintro _ ⟨⟩
      exact .unread (fun looked => unread looked.reads) fun both => unread both.1
  | ok =>
      refine ensures_bind (ensures_attempt (fun _ _ => ?_) fun _ ended => by cases ended)
      refine ensures_bind (ensures_get ?_)
      cases opened : db.opened env.storageKind key with
      | missing => exact ensures_attempt (fun _ _ => ⟨⟨reads, opened⟩, rfl⟩) fun _ ended => by cases ended
      | object stored =>
          refine ensures_attempt (fun _ ended => by cases ended) ?_
          rintro _ ⟨⟩
          exact .taken reads (by rw [opened]; trivial)
      | directory readError =>
          refine ensures_attempt (fun _ ended => by cases ended) ?_
          rintro _ ⟨⟩
          exact .taken reads (by rw [opened]; trivial)
      | failed message =>
          refine ensures_attempt (fun _ ended => by cases ended) ?_
          rintro _ ⟨⟩
          refine .unread ?_ ?_
          · intro looked
            cases opened.symm.trans looked.missing
          · rintro ⟨_, there⟩
            rw [opened] at there
            exact there

theorem putObject_ensures (env : Environment) (key : String) (payload : Bytes) (db : Database) :
    Ensures (putObject env key payload) db
      (fun _ after => Storable env key db ∧ after = db.withObject key payload)
      (fun error after => PutRefused env key payload db error after) := by
  apply (lookForObject_ensures env key payload db).bind
  rintro _ _ ⟨looked, rfl⟩
  unfold storePayload
  cases writes : env.storage (.put key) with
  | ok => exact ensures_modify ⟨⟨looked, writes⟩, rfl⟩
  | error message => exact ensures_bind (ensures_modify (ensures_throw (.unwritten looked writes)))

theorem mem_withDirectory (db : Database) (path other : String) :
    other ∈ (db.withDirectory path).directories ↔
      other ∈ db.directories ∨ other = path ∧ ¬ db.IsDirectory path := by
  unfold Database.withDirectory
  dsimp only
  split
  case isTrue there => simp [there]
  case isFalse absent =>
    rw [List.mem_cons, or_comm]
    simp [absent]

/-- A failed `Put` changes the storage only, and its objects by the payload at most. -/
theorem afterFailedPut_eq (env : Environment) (key : String) (payload : Bytes) (db : Database) :
    db.afterFailedPut env key payload = db.withObject key payload ∨
      ∃ directories, db.afterFailedPut env key payload = { db with directories } := by
  unfold Database.afterFailedPut
  split
  · split
    · exact .inr ⟨_, rfl⟩
    · exact .inr ⟨_, rfl⟩
  · exact .inl rfl
  · exact .inr ⟨_, rfl⟩

/-- A refused upload changes the storage only, and adds at most its payload. -/
theorem PutRefused.state {error : HttpError} {after : Database}
    (refused : PutRefused env key payload db error after) :
    (db.objects.lookup key = none ∧ after = db.withObject key payload) ∨
      ∃ directories, after = { db with directories } := by
  cases refused with
  | taken | unread => exact .inr ⟨_, rfl⟩
  | unwritten looked =>
      rcases afterFailedPut_eq env key payload db with same | same
      · exact .inl ⟨absent_of_missing looked.missing, same⟩
      · exact .inr same

theorem PutRefused.patches {error : HttpError} {after : Database}
    (refused : PutRefused env key payload db error after) : after.patches = db.patches := by
  rcases refused.state with ⟨_, same⟩ | ⟨_, same⟩
  · rw [same]
    rfl
  · rw [same]

theorem PutRefused.status {error : HttpError} {after : Database}
    (refused : PutRefused env key payload db error after) : error.status = 409 ∨ error.status = 500 := by
  cases refused with
  | taken => exact .inl rfl
  | unread | unwritten => exact .inr rfl

theorem PutRefused.conflict_iff {error : HttpError} {after : Database}
    (refused : PutRefused env key payload db error after) :
    error.status = 409 ↔ env.storage (.get key) = .ok () ∧ (db.opened env.storageKind key).There := by
  have internal : (500 : Nat) ≠ 409 := by decide
  cases refused with
  | taken reads there => exact iff_of_true rfl ⟨reads, there⟩
  | unread _ untold => exact iff_of_false internal untold
  | unwritten looked => exact iff_of_false internal fun both => Opened.not_there_of_missing looked.missing both.2

end Puts

end CodePush.Server
