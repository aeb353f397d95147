import CodePush.Updater.RuntimeProperties

/-!
# Resumed downloads

A download continues a partial file that an earlier one left behind. Only the hash of the
whole payload tells whether the partial file belonged to it; if it did not, the next download
finds the file too long to be continued and starts over.
-/

set_option autoImplicit false

namespace CodePush.Updater

open CodePush.Core CodePush.Foundation CodePush.Foundation.Action

/-!
## Requests for a file
-/

/-- What a request is answered with: the reads of the body, and the body as a text. -/
inductive Response where
  | answered (status : Nat) (reads : List (Except String Bytes)) (text : String)
  | failed (text : String)

/-- The answer to each attempt, with the first byte of the range that it asks for. -/
structure Http where
  get : String → Nat → Option Nat → Response
  readFile : String → Result Bytes

def maxBodyBytes : Nat := 64 * 1024 * 1024

/-- `read_body_with_cancel`; `cancel` answers the polls of the flag, which are numbered. -/
def readBodyWithCancel (cancel : Nat → Bool) :
    (poll : Nat) → (out : Bytes) → (reads : List (Except String Bytes)) → Result Bytes
  | poll, out, [] => if cancel poll then err "operation cancelled" else .ok out
  | poll, out, read :: reads =>
      if cancel poll then err "operation cancelled"
      else
        match read with
        | .error text => .error (.io text)
        | .ok chunk =>
            if chunk.isEmpty then .ok out
            else if maxBodyBytes < out.length + chunk.length then err "response body exceeds 64 MiB limit"
            else readBodyWithCancel cancel (poll + 1) (out ++ chunk) reads

/-- The loop over the attempts. -/
def downloadAttempts (http : Http) (cancel : Nat → Bool) (url : String) :
    (attempts : List Nat) → (effectiveOffset poll : Nat) → (lastError : Option Error) →
      Result (Bytes × Bool)
  | [], _, _, lastError => .error (lastError.getD (.panic "retry loop should retain last error"))
  | attempt :: attempts, effectiveOffset, poll, lastError =>
      if cancel poll then err "operation cancelled"
      else
        match http.get url attempt (if effectiveOffset > 0 then some effectiveOffset else none) with
        | .answered status reads text =>
            -- A range that the server does not have: the next attempt asks for the whole file.
            if status = 416 ∧ effectiveOffset > 0 then
              downloadAttempts http cancel url attempts 0 (poll + 1) lastError
            else if status = 206 then
              (readBodyWithCancel cancel (poll + 1) [] reads).map (·, true)
            else if 200 ≤ status ∧ status < 300 then
              (readBodyWithCancel cancel (poll + 1) [] reads).map (·, false)
            else if shouldRetryStatus status && canRetry attempt then
              downloadAttempts http cancel url attempts effectiveOffset (poll + 1) lastError
            else err s!"server returned HTTP {status}: {text}"
        | .failed text =>
            if canRetry attempt then
              downloadAttempts http cancel url attempts effectiveOffset (poll + 1) (some (.http text))
            else .error (.http text)

def isRemote (url : String) : Bool :=
  "http://".toList.isPrefixOf url.toList || "https://".toList.isPrefixOf url.toList

/-- `download_bytes_from_with_cancel`; the flag says whether the bytes are to be appended. -/
def downloadBytesFrom (http : Http) (cancel : Nat → Bool) (url : String) (offset : Nat) :
    Result (Bytes × Bool) :=
  if isRemote url then downloadAttempts http cancel url (List.range (retryDelays + 1)) offset 0 none
  else if cancel 0 then err "operation cancelled"
  else (http.readFile url).map (·, false)

/-!
## A server that has the file
-/

/-- No read fails, and none ends the body before its time. -/
def Delivers (reads : List (Except String Bytes)) (body : Bytes) : Prop :=
  ∃ chunks : List Bytes, reads = chunks.map .ok ∧ [] ∉ chunks ∧ chunks.flatten = body

/-- The server answers with the file, or with the rest of it. -/
structure Serves (http : Http) (url : String) (file : Bytes) : Prop where
  remote : isRemote url = true
  whole : ∀ attempt, ∃ reads text, http.get url attempt none = .answered 200 reads text ∧
    Delivers reads file
  rest : ∀ attempt offset, offset < file.length → ∃ reads text,
    http.get url attempt (some offset) = .answered 206 reads text ∧ Delivers reads (file.drop offset)
  beyond : ∀ attempt offset, file.length ≤ offset → ∃ reads text,
    http.get url attempt (some offset) = .answered 416 reads text

/-- The server knows no ranges: it answers every request with the whole file. -/
structure Sends (http : Http) (url : String) (file : Bytes) : Prop where
  remote : isRemote url = true
  whole : ∀ attempt range, ∃ reads text, http.get url attempt range = .answered 200 reads text ∧
    Delivers reads file

/-- A call that is not cancelled, on files that work. -/
structure Uncancelled (session : Session) (http : Http) : Prop where
  download : ∀ url offset,
    session.server.download url offset = downloadBytesFrom http (fun _ => false) url offset
  cancelled : ∀ point, session.cancelled point = false
  files : ∀ operation, session.files operation = .ok ()

/-- The body, if it is not too long. -/
def limited (body : Bytes) : Result Bytes :=
  if body.length ≤ maxBodyBytes then .ok body else err "response body exceeds 64 MiB limit"

section Bodies

variable {http : Http} {url : String} {file body : Bytes} {reads : List (Except String Bytes)}

/-- A body is read to its end unless it is too long. -/
theorem readBody_chunks (chunks : List Bytes) (filled : [] ∉ chunks) (poll : Nat) (out : Bytes)
    (short : out.length ≤ maxBodyBytes) :
    readBodyWithCancel (fun _ => false) poll out (chunks.map .ok) = limited (out ++ chunks.flatten) := by
  unfold limited
  induction chunks generalizing poll out with
  | nil => simp [readBodyWithCancel, short]
  | cons chunk chunks ih =>
      obtain ⟨some_, later⟩ := not_or.mp (fun either => filled (List.mem_cons.mpr either))
      have some_ : chunk.isEmpty = false := List.isEmpty_eq_false_iff.mpr (Ne.symm some_)
      simp only [List.map_cons, readBodyWithCancel, some_, Bool.false_eq_true, if_false]
      split
      case isTrue long =>
        rw [if_neg]
        rw [List.flatten_cons, List.length_append, List.length_append]
        omega
      case isFalse within =>
        rw [ih later (poll + 1) (out ++ chunk) (by simp only [List.length_append]; omega)]
        simp only [List.append_assoc, List.flatten_cons]

theorem Delivers.read (delivers : Delivers reads body) (poll : Nat) :
    readBodyWithCancel (fun _ => false) poll [] reads = limited body := by
  obtain ⟨chunks, rfl, filled, rfl⟩ := delivers
  exact readBody_chunks chunks filled poll [] (Nat.zero_le _)

/-- What a request for the file from the offset on comes to. -/
theorem Serves.downloadBytesFrom (serves : Serves http url file) (offset : Nat) :
    downloadBytesFrom http (fun _ => false) url offset =
      if 0 < offset ∧ offset < file.length then (limited (file.drop offset)).map (·, true)
      else (limited file).map (·, false) := by
  have attempts : List.range (retryDelays + 1) = [0, 1, 2, 3, 4] := rfl
  -- An attempt that asks for the whole file.
  have whole : ∀ attempt attempts poll lastError,
      downloadAttempts http (fun _ => false) url (attempt :: attempts) 0 poll lastError =
        (limited file).map (·, false) := by
    intro attempt attempts poll lastError
    obtain ⟨reads, text, answered, delivers⟩ := serves.whole attempt
    simp only [downloadAttempts, Bool.false_eq_true, if_false, gt_iff_lt, lt_irrefl, answered]
    rw [if_neg (by decide), if_neg (by decide), if_pos (by decide), delivers.read]
  unfold Updater.downloadBytesFrom
  rw [if_pos serves.remote, attempts]
  rcases Nat.eq_zero_or_pos offset with rfl | positive
  · rw [whole, if_neg (fun both => lt_irrefl 0 both.1)]
  by_cases inside : offset < file.length
  · obtain ⟨reads, text, answered, delivers⟩ := serves.rest 0 offset inside
    rw [if_pos ⟨positive, inside⟩]
    simp only [downloadAttempts, Bool.false_eq_true, if_false, gt_iff_lt, positive, if_true, answered]
    rw [if_neg (by decide), delivers.read]
  · obtain ⟨reads, text, answered⟩ := serves.beyond 0 offset (Nat.le_of_not_lt inside)
    rw [if_neg (fun both => inside both.2), ← whole 1 [2, 3, 4] 1 none, Updater.downloadAttempts]
    simp only [Bool.false_eq_true, if_false, gt_iff_lt, positive, if_true, answered, and_self]

theorem Sends.downloadBytesFrom (sends : Sends http url file) (offset : Nat) :
    downloadBytesFrom http (fun _ => false) url offset = (limited file).map (·, false) := by
  have attempts : List.range (retryDelays + 1) = [0, 1, 2, 3, 4] := rfl
  obtain ⟨reads, text, answered, delivers⟩ := sends.whole 0 (if offset > 0 then some offset else none)
  unfold Updater.downloadBytesFrom
  rw [if_pos sends.remote, attempts, downloadAttempts, answered]
  dsimp only
  rw [if_neg Bool.false_ne_true, if_neg (by simp), if_neg (by decide), if_pos (by decide), delivers.read]

end Bodies

/-!
## One call
-/

/-- What the partial file becomes, if the rest of the file can be read. -/
def fetched (file : Bytes) (dir : DownloadDir) : Option Bytes :=
  let offset := resumeOffset dir
  if 0 < offset ∧ offset < file.length then
    (limited (file.drop offset)).toOption.map ((dir.part.getD []).take offset ++ ·)
  else (limited file).toOption

/-- What a call leaves in the directory that has completed a part but does not return it. -/
def DownloadDir.left (dir : DownloadDir) : (part : Option Bytes) → DownloadDir
  | some part => { dir with part := some part, progress := some s!"{part.length}" }
  | none => { dir with part := dir.part.map (·.take (resumeOffset dir)) }

def leftBehind (file : Bytes) (dir : DownloadDir) : DownloadDir := dir.left (fetched file dir)

section Call

variable {session : Session} {http : Http} {lib : Primitives} {patch : PatchCheck} {file : Bytes}
  {url : String} {key : DownloadKey}

theorem attemptOn_returns {α : Type} {result : Result α} {value : α} {device : Device}
    {returns : α → Device → Prop} {fails : Error → Device → Prop} (returned : result = .ok value)
    (holds : returns value device) : Ensures (attemptOn result) device returns fails := by
  refine ensures_attempt (fun other found => ?_) (fun error failed => ?_)
  · cases returned.symm.trans found
    exact holds
  · cases returned.symm.trans failed

theorem Uncancelled.ensureNotCancelled (uncancelled : Uncancelled session http) (point : CancelPoint) :
    ensureNotCancelled session point = .ok () := by
  simp [Updater.ensureNotCancelled, uncancelled.cancelled point]

/-- Nothing is cut off a partial file that the progress covers. -/
theorem take_resumeOffset {dir : DownloadDir} (covered : ¬ resumeOffset dir < (dir.part.getD []).length) :
    { dir with part := dir.part.map (·.take (resumeOffset dir)) } = dir := by
  obtain ⟨manifest, payload, _ | part, progress⟩ := dir
  · rfl
  · have whole : part.take (resumeOffset ⟨manifest, payload, some part, progress⟩) = part :=
      List.take_of_length_le (Nat.le_of_not_lt covered)
    simp [whole]

theorem limited_eq (body : Bytes) :
    limited body = .ok body ∨ ∃ error, limited body = .error error := by
  unfold limited
  split
  · exact .inl rfl
  · exact .inr ⟨_, rfl⟩

theorem completed_of_serves (uncancelled : Uncancelled session http) (serves : Serves http url file)
    (dir : DownloadDir) : completed session url dir = fetched file dir := by
  unfold completed fetched
  rw [uncancelled.download, serves.downloadBytesFrom]
  dsimp only
  by_cases inside : 0 < resumeOffset dir ∧ resumeOffset dir < file.length
  · rw [if_pos inside, if_pos inside]
    rcases limited_eq (file.drop (resumeOffset dir)) with whole | ⟨error, refused⟩
    · rw [whole]
      exact congrArg some (if_pos (by simpa using inside.1))
    · rw [refused]
      rfl
  · rw [if_neg inside, if_neg inside]
    rcases limited_eq file with whole | ⟨error, refused⟩
    · rw [whole]
      rfl
    · rw [refused]
      rfl

/-- Where no ranges are known, nothing of a partial file is used. -/
theorem completed_of_sends (uncancelled : Uncancelled session http) (sends : Sends http url file)
    (dir : DownloadDir) : completed session url dir = (limited file).toOption := by
  unfold completed
  rw [uncancelled.download, sends.downloadBytesFrom]
  rcases limited_eq file with whole | ⟨error, refused⟩
  · rw [whole]
    rfl
  · rw [refused]
    rfl

/-- The request from the offset on, after the partial file was cut back to it. -/
theorem requested_completes (uncancelled : Uncancelled session http) (dir : DownloadDir) {key : DownloadKey}
    {cut : Device}
    (was : cut.cache.downloads key = { dir with part := dir.part.map (·.take (resumeOffset dir)) }) :
    Ensures (do
      let (bytes, append) ← attemptOn (session.server.download url (resumeOffset dir))
      attemptOn (ensureNotCancelled session .payload)
      attemptOn (session.files .writePart)
      let part := if append && decide (resumeOffset dir > 0) then
        (dir.part.getD []).take (resumeOffset dir) ++ bytes else bytes
      modify (updateDownload key ({ · with part := some part }))
      attemptOn (session.files .writeProgress)
      modify (updateDownload key ({ · with progress := some s!"{part.length}" }))
      pure part : DeviceOp Bytes) cut
      (fun part after => completed session url dir = some part ∧
        after.cache.downloads key = dir.left (completed session url dir))
      (fun _ after => completed session url dir = none ∧
        after.cache.downloads key = dir.left (completed session url dir)) := by
  unfold completed
  rcases session.server.download url (resumeOffset dir) with error | ⟨bytes, append⟩
  · exact ensures_bind (ensures_attempt (fun _ ended => by cases ended) (fun _ _ => ⟨rfl, was⟩))
  · refine ensures_bind (attemptOn_returns rfl ?_)
    refine ensures_bind (attemptOn_returns (uncancelled.ensureNotCancelled _) ?_)
    refine ensures_bind (attemptOn_returns (uncancelled.files _) (ensures_bind (ensures_modify ?_)))
    refine ensures_bind (attemptOn_returns (uncancelled.files _) (ensures_bind (ensures_modify ?_)))
    refine ensures_pure ⟨rfl, ?_⟩
    rw [updateDownload_downloads, updateDownload_downloads, was]
    rfl

/-- The partial file after a download. -/
theorem downloadResumablePayload_completes (uncancelled : Uncancelled session http) (url : String)
    (key : DownloadKey) (device : Device) :
    Ensures (downloadResumablePayload session url key) device
      (fun part after => completed session url (device.cache.downloads key) = some part ∧
        after.cache.downloads key =
          (device.cache.downloads key).left (completed session url (device.cache.downloads key)))
      (fun _ after => completed session url (device.cache.downloads key) = none ∧
        after.cache.downloads key =
          (device.cache.downloads key).left (completed session url (device.cache.downloads key))) := by
  refine ensures_bind (ensures_get ?_)
  generalize here : device.cache.downloads key = dir
  dsimp only
  split
  case isTrue longer =>
    refine ensures_bind (attemptOn_returns (uncancelled.files _) (ensures_bind (ensures_modify ?_)))
    apply requested_completes uncancelled dir
    rw [updateDownload_downloads, here]
  case isFalse covered =>
    apply requested_completes uncancelled dir
    rw [take_resumeOffset covered, here]

/-- The check has named the two files; its hash tells the payload from every other. -/
structure Announces (lib : Primitives) (patch : PatchCheck) (manifest payload : Bytes) : Prop where
  manifestHash : lib.sha256Hex manifest = patch.manifestHash
  payloadHash : lib.sha256Hex payload = patch.payloadHash
  only : ∀ other, lib.sha256Hex other = patch.payloadHash → other = payload

/-- The files of the patch can be downloaded. -/
structure Offers (http : Http) (patch : PatchCheck) (manifest payload : Bytes) : Prop where
  manifest : ∃ append, downloadBytesFrom http (fun _ => false) patch.manifestUrl 0 = .ok (manifest, append)
  payload : Serves http patch.payloadUrl payload

theorem ensureHash_of_eq {label expected : String} {bytes : Bytes} (same : lib.sha256Hex bytes = expected) :
    ensureHash lib label bytes expected = .ok () := by
  simp [ensureHash, same]

/-- A call that returns has moved what it returns to its place. -/
theorem downloadPatchFiles_stores (lib : Primitives) (session : Session) (runtime : Runtime)
    (patch : PatchCheck) (device : Device) :
    Ensures (downloadPatchFiles lib session runtime patch) device
      (fun files after => lib.sha256Hex files.2 = patch.payloadHash ∧
        (after.cache.downloads (downloadKey runtime patch)).payload = some files.2)
      (fun _ _ => True) := by
  have anyhow : ∀ {α β : Type} (result : Result α) (next : α → DeviceOp β) (start : Device)
      (returns : β → Device → Prop),
      (∀ value, result = .ok value → Ensures (next value) start returns (fun _ _ => True)) →
      Ensures (attemptOn result >>= next) start returns (fun _ _ => True) :=
    fun _ _ _ _ holds => ensures_bind (ensures_attempt holds fun _ _ => trivial)
  refine anyhow _ _ _ _ fun _ _ => anyhow _ _ _ _ fun _ _ => anyhow _ _ _ _ ?_
  rintro ⟨manifestBytes, _⟩ _
  refine anyhow _ _ _ _ fun _ _ => anyhow _ _ _ _ fun _ _ => anyhow _ _ _ _ fun _ _ => ?_
  refine ensures_bind (ensures_modify (ensures_bind ?_))
  refine (downloadResumablePayload_ensures session _ _ _).mono ?_ (fun _ _ _ => trivial)
  intro payloadBytes after _
  refine anyhow _ _ _ _ fun _ _ => anyhow _ _ _ _ fun _ _ => anyhow _ _ _ _ fun _ checked => ?_
  refine anyhow _ _ _ _ fun _ _ => ensures_bind (ensures_modify (ensures_pure ⟨ensureHash_eq_ok checked, ?_⟩))
  exact congrArg DownloadDir.payload updateDownload_downloads

theorem DownloadDir.left_manifest (dir : DownloadDir) (part manifest : Option Bytes) :
    { dir with manifest }.left part = { dir.left part with manifest } := by
  cases part with
  | none => rfl
  | some part => rfl

/-- What an uncancelled call comes to. -/
theorem downloadPatchFiles_completes {manifest payload : Bytes} (uncancelled : Uncancelled session http)
    (announces : Announces lib patch manifest payload)
    (served : ∃ append, downloadBytesFrom http (fun _ => false) patch.manifestUrl 0 = .ok (manifest, append))
    (runtime : Runtime) (device : Device) :
    let dir := device.cache.downloads (downloadKey runtime patch)
    let part := completed session patch.payloadUrl dir
    Ensures (downloadPatchFiles lib session runtime patch) device (fun _ _ => part = some payload)
      (fun _ after => part ≠ some payload ∧
        after.cache.downloads (downloadKey runtime patch) = { dir.left part with manifest := some manifest }) := by
  intro dir part
  obtain ⟨append, served⟩ := served
  rw [← uncancelled.download] at served
  refine ensures_bind (attemptOn_returns (uncancelled.files _) ?_)
  refine ensures_bind (attemptOn_returns (uncancelled.ensureNotCancelled _) ?_)
  refine ensures_bind (attemptOn_returns served ?_)
  refine ensures_bind (attemptOn_returns (uncancelled.ensureNotCancelled _) ?_)
  refine ensures_bind (attemptOn_returns (ensureHash_of_eq announces.manifestHash) ?_)
  refine ensures_bind (attemptOn_returns (uncancelled.files _) (ensures_bind (ensures_modify ?_)))
  apply ensures_bind
  have completes := downloadResumablePayload_completes uncancelled patch.payloadUrl (downloadKey runtime patch)
    (updateDownload (downloadKey runtime patch) ({ · with manifest := some manifest }) device)
  rw [updateDownload_downloads, DownloadDir.left_manifest] at completes
  refine Ensures.mono completes ?_ ?_
  · rintro bytes after ⟨found, left⟩
    have found : part = some bytes := found
    refine ensures_bind (attemptOn_returns (uncancelled.files _) ?_)
    refine ensures_bind (attemptOn_returns (uncancelled.ensureNotCancelled _) ?_)
    refine ensures_bind (ensures_attempt (fun _ checked => ?_) (fun _ mismatch => ?_))
    · have whole := announces.only bytes (ensureHash_eq_ok checked)
      refine ensures_bind (attemptOn_returns (uncancelled.files _) (ensures_bind (ensures_modify ?_)))
      exact ensures_pure (found.trans (congrArg some whole))
    · refine ⟨?_, left⟩
      intro whole
      cases found.symm.trans whole
      cases mismatch.symm.trans (ensureHash_of_eq announces.payloadHash)
  · rintro error after ⟨missing, left⟩
    have missing : part = none := missing
    refine ⟨?_, left⟩
    intro found
    cases missing.symm.trans found

/-- The same from a server that knows ranges. -/
theorem downloadPatchFiles_fetches {manifest payload : Bytes} (uncancelled : Uncancelled session http)
    (announces : Announces lib patch manifest payload) (offers : Offers http patch manifest payload)
    (runtime : Runtime) (device : Device) :
    Ensures (downloadPatchFiles lib session runtime patch) device
      (fun _ _ => fetched payload (device.cache.downloads (downloadKey runtime patch)) = some payload)
      (fun _ after => fetched payload (device.cache.downloads (downloadKey runtime patch)) ≠ some payload ∧
        after.cache.downloads (downloadKey runtime patch) =
          { leftBehind payload (device.cache.downloads (downloadKey runtime patch)) with
            manifest := some manifest }) := by
  have completes := downloadPatchFiles_completes uncancelled announces offers.manifest runtime device
  dsimp only at completes
  rw [completed_of_serves uncancelled offers.payload] at completes
  exact completes

end Call

/-!
## Two calls
-/

/-- Where the next call resumes, if nothing but the content of the partial file was wrong. -/
theorem parseProgress_toString (number : Nat) :
    parseProgress s!"{number}" = if number < 2 ^ 64 then some number else none := by
  have text : s!"{number}".toList = Nat.toDigits 10 number := by simp [Nat.repr]
  have dense : trim s!"{number}" = s!"{number}" := by
    apply trim_of_dense
    intro char member
    rw [text] at member
    exact isWhiteSpace_of_isDigit (toDigits_isDigit number char member)
  have present : (Nat.toDigits 10 number).isEmpty = false :=
    List.isEmpty_eq_false_iff.mpr Nat.toDigits_ne_nil
  unfold parseProgress
  rw [dense, text]
  dsimp only
  rw [if_neg (toDigits_head number (by decide)), present, List.all_eq_true.mpr (toDigits_isDigit number),
    foldl_toDigits]
  rfl

theorem resumeOffset_le (dir : DownloadDir) : resumeOffset dir ≤ (dir.part.getD []).length := by
  unfold resumeOffset
  dsimp only
  split
  · exact Nat.min_le_right _ _
  · exact le_refl _

/-- A partial file that was written to its end is resumed at its end. -/
theorem resumeOffset_written (dir : DownloadDir) (part : Bytes) :
    resumeOffset { dir with part := some part, progress := some s!"{part.length}" } = part.length := by
  unfold resumeOffset
  dsimp only [Option.bind]
  rw [parseProgress_toString]
  by_cases fits : part.length < 2 ^ 64
  · rw [if_pos fits]
    exact Nat.min_self _
  · simp only [if_neg fits, Option.getD_some]

/-- Cutting a partial file back does not change where it is resumed. -/
theorem resumeOffset_cut (dir : DownloadDir) :
    resumeOffset { dir with part := dir.part.map (·.take (resumeOffset dir)) } = resumeOffset dir := by
  have bounded := resumeOffset_le dir
  have shorter : ((dir.part.map (·.take (resumeOffset dir))).getD []).length = resumeOffset dir := by
    cases given : dir.part with
    | none => simpa [given, eq_comm] using bounded
    | some part => simpa [given] using bounded
  generalize offset : resumeOffset dir = start at *
  unfold resumeOffset at offset ⊢
  dsimp only at offset ⊢
  rw [shorter]
  split
  case h_1 progress read =>
    rw [read] at offset
    dsimp only at offset
    omega
  case h_2 => rfl

/-- What the partial file has of the file, up to where it is resumed, is right, and the rest
is not too long. -/
structure Resumes (dir : DownloadDir) (file : Bytes) : Prop where
  begun : 0 < resumeOffset dir
  unfinished : resumeOffset dir < file.length
  beginning : (dir.part.getD []).take (resumeOffset dir) = file.take (resumeOffset dir)
  rest : file.length - resumeOffset dir ≤ maxBodyBytes

section Fetched

variable {file part body : Bytes} {dir : DownloadDir}

theorem limited_toOption (body : Bytes) :
    (limited body).toOption = if body.length ≤ maxBodyBytes then some body else none := by
  unfold limited
  split
  · rfl
  · rfl

/-- A partial file that is completed has the length of the file. -/
theorem length_of_fetched (found : fetched file dir = some part) : part.length = file.length := by
  have bounded := resumeOffset_le dir
  unfold fetched at found
  dsimp only at found
  rw [limited_toOption, limited_toOption] at found
  split at found
  case isTrue inside =>
    split at found
    · cases found
      simp only [List.length_append, List.length_take, List.length_drop]
      omega
    · cases found
  case isFalse =>
    split at found
    · cases found
      rfl
    · cases found

theorem fetched_eq_file_iff :
    fetched file dir = some file ↔
      Resumes dir file ∨ (¬ (0 < resumeOffset dir ∧ resumeOffset dir < file.length) ∧
        file.length ≤ maxBodyBytes) := by
  have bounded := resumeOffset_le dir
  unfold fetched
  dsimp only
  rw [limited_toOption, limited_toOption]
  by_cases inside : 0 < resumeOffset dir ∧ resumeOffset dir < file.length
  · have resumes : Resumes dir file ↔ (dir.part.getD []).take (resumeOffset dir) = file.take (resumeOffset dir) ∧
        file.length - resumeOffset dir ≤ maxBodyBytes :=
      ⟨fun ⟨_, _, beginning, rest⟩ => ⟨beginning, rest⟩, fun ⟨beginning, rest⟩ =>
        ⟨inside.1, inside.2, beginning, rest⟩⟩
    rw [if_pos inside, resumes, List.length_drop]
    have same : (dir.part.getD []).take (resumeOffset dir) ++ file.drop (resumeOffset dir) = file ↔
        (dir.part.getD []).take (resumeOffset dir) = file.take (resumeOffset dir) := by
      conv_lhs => rw [← List.take_append_drop (resumeOffset dir) file]
      rw [List.drop_left' (by simp; omega), List.append_left_inj]
    by_cases short : file.length - resumeOffset dir ≤ maxBodyBytes
    · simp [short, inside, same]
    · simp [short, inside]
  · have other : ¬ Resumes dir file := fun resumes => inside ⟨resumes.begun, resumes.unfinished⟩
    rw [if_neg inside]
    by_cases short : file.length ≤ maxBodyBytes
    · simp [short, inside]
    · simp [short, other]

/-- After a call that failed, the next one asks for the same rest, or for the whole file. -/
theorem fetched_leftBehind (manifest : Option Bytes) :
    fetched file { leftBehind file dir with manifest } =
      if (fetched file dir).isSome then (limited file).toOption else none := by
  change fetched file (leftBehind file dir) = _
  unfold leftBehind DownloadDir.left
  cases found : fetched file dir with
  | some part =>
      have length := length_of_fetched found
      have finished : resumeOffset { dir with part := some part, progress := some s!"{part.length}" } =
          file.length := (resumeOffset_written dir part).trans length
      unfold fetched
      dsimp only
      rw [finished, if_neg (fun inside => lt_irrefl _ inside.2)]
      rfl
  | none =>
      have same := resumeOffset_cut dir
      have kept : ((dir.part.map (·.take (resumeOffset dir))).getD []).take (resumeOffset dir) =
          (dir.part.getD []).take (resumeOffset dir) := by
        cases dir.part with
        | none => rfl
        | some part => simp [List.take_take]
      have again : fetched file { dir with part := dir.part.map (·.take (resumeOffset dir)) } =
          fetched file dir := by
        unfold fetched
        dsimp only
        rw [same, kept]
      exact again.trans found

/-- One of two calls completes the file exactly if the whole file is not too long, or the
partial file only lacks the rest. -/
theorem fetched_within_two_iff (manifest : Option Bytes) :
    (fetched file dir = some file ∨ fetched file { leftBehind file dir with manifest } = some file) ↔
      file.length ≤ maxBodyBytes ∨ Resumes dir file := by
  rw [fetched_leftBehind, fetched_eq_file_iff, limited_toOption]
  constructor
  · rintro ((resumes | ⟨_, short⟩) | later)
    · exact .inr resumes
    · exact .inl short
    · split at later
      · split at later
        case isTrue short => exact .inl short
        case isFalse => cases later
      · cases later
  · rintro (short | resumes)
    · by_cases inside : 0 < resumeOffset dir ∧ resumeOffset dir < file.length
      · right
        have found : (fetched file dir).isSome = true := by
          unfold fetched
          dsimp only
          rw [if_pos inside, limited_toOption, if_pos (by rw [List.length_drop]; omega)]
          rfl
        rw [if_pos found, if_pos short]
      · exact .inl (.inr ⟨inside, short⟩)
    · exact .inl (.inl resumes)

end Fetched

theorem two_calls_iff {lib : Primitives} {patch : PatchCheck} {manifest payload : Bytes}
    (announces : Announces lib patch manifest payload) {first second : Session} {http http' : Http}
    (uncancelled : Uncancelled first http) (uncancelled' : Uncancelled second http')
    (offers : Offers http patch manifest payload) (offers' : Offers http' patch manifest payload)
    (runtime : Runtime) (device : Device) :
    let once := downloadPatchFiles lib first runtime patch device
    let twice := downloadPatchFiles lib second runtime patch once.2
    (once.1.isOk = true ∨ twice.1.isOk = true) ↔ payload.length ≤ maxBodyBytes ∨
      Resumes (device.cache.downloads (downloadKey runtime patch)) payload := by
  intro once twice
  have fetches := downloadPatchFiles_fetches uncancelled announces offers runtime device
  have one : once.1.isOk = true ↔ _ := fetches.isOk_iff
  have two : twice.1.isOk = true ↔ _ :=
    (downloadPatchFiles_fetches uncancelled' announces offers' runtime once.2).isOk_iff
  rw [one, two, ← fetched_within_two_iff (some manifest)]
  by_cases found : fetched payload (device.cache.downloads (downloadKey runtime patch)) = some payload
  · exact iff_of_true (.inl found) (.inl found)
  · have left : once.2.cache.downloads (downloadKey runtime patch) =
        { leftBehind payload (device.cache.downloads (downloadKey runtime patch)) with
          manifest := some manifest } := by
      change (downloadPatchFiles lib first runtime patch device).2.cache.downloads _ = _
      rcases ended : downloadPatchFiles lib first runtime patch device with ⟨error | files, after⟩
      · exact (fetches.of_error ended).2
      · exact absurd (fetches.of_ok ended) found
    rw [left]

/-- No call returns another payload, whatever it meets. Of two calls that are not cancelled
one returns, exactly if the payload is not too long or the partial file only lacks the rest. -/
theorem resumable_download_converges (lib : Primitives) (runtime : Runtime) (patch : PatchCheck)
    (manifest payload : Bytes) (announces : Announces lib patch manifest payload) :
    (∀ (session : Session) (device : Device) (files : Bytes × Bytes) (after : Device),
      downloadPatchFiles lib session runtime patch device = (.ok files, after) →
        files.2 = payload ∧ (after.cache.downloads (downloadKey runtime patch)).payload = some payload) ∧
    ∀ (first second : Session) (http http' : Http), Uncancelled first http → Uncancelled second http' →
      Offers http patch manifest payload → Offers http' patch manifest payload → ∀ device : Device,
        let once := downloadPatchFiles lib first runtime patch device
        let twice := downloadPatchFiles lib second runtime patch once.2
        (once.1.isOk = true ∨ twice.1.isOk = true) ↔ payload.length ≤ maxBodyBytes ∨
          Resumes (device.cache.downloads (downloadKey runtime patch)) payload := by
  constructor
  · intro session device files after returned
    obtain ⟨hash, stored⟩ := (downloadPatchFiles_stores lib session runtime patch device).of_ok returned
    have same := announces.only files.2 hash
    exact ⟨same, by rw [stored, same]⟩
  · intro first second http http' uncancelled uncancelled' offers offers' device
    exact two_calls_iff announces uncancelled uncancelled' offers offers' runtime device

/-!
## A file server
-/

/-- The body arrives byte by byte. -/
def bytewise (body : Bytes) : List (Except String Bytes) := body.map fun byte => .ok [byte]

def fileServer (files : String → Bytes) : Http where
  get := fun url _ range =>
    match range with
    | none => .answered 200 (bytewise (files url)) ""
    | some offset =>
        if offset < (files url).length then .answered 206 (bytewise ((files url).drop offset)) ""
        else .answered 416 [] ""
  readFile := fun _ => .error (.io "No such file or directory (os error 2)")

theorem bytewise_delivers (body : Bytes) : Delivers (bytewise body) body :=
  ⟨body.map ([·]), by simp [bytewise], by simp, List.flatMap_singleton' body⟩

theorem fileServer_serves (files : String → Bytes) {url : String} (remote : isRemote url = true) :
    Serves (fileServer files) url (files url) where
  remote := remote
  whole := fun _ => ⟨_, _, rfl, bytewise_delivers _⟩
  rest := fun _ _ inside => ⟨_, _, if_pos inside, bytewise_delivers _⟩
  beyond := fun _ _ outside => ⟨_, _, if_neg (Nat.not_lt_of_le outside)⟩

theorem fileServer_offers (files : String → Bytes) (patch : PatchCheck)
    (manifestUrl : isRemote patch.manifestUrl = true) (payloadUrl : isRemote patch.payloadUrl = true)
    (short : (files patch.manifestUrl).length ≤ maxBodyBytes) :
    Offers (fileServer files) patch (files patch.manifestUrl) (files patch.payloadUrl) := by
  refine ⟨⟨false, ?_⟩, fileServer_serves files payloadUrl⟩
  rw [(fileServer_serves files manifestUrl).downloadBytesFrom, if_neg (fun both => lt_irrefl 0 both.1), limited,
    if_pos short]
  rfl

/-- A session that meets the file server and nothing else. -/
def fileSession (files : String → Bytes) : Session :=
  { sampleSession with
    server := { sampleServer with download := downloadBytesFrom (fileServer files) fun _ => false } }

theorem fileSession_uncancelled (files : String → Bytes) :
    Uncancelled (fileSession files) (fileServer files) :=
  ⟨fun _ _ => rfl, fun _ => rfl, fun _ => rfl⟩

/-- `{}`. -/
def emptyObject : Bytes := [123, 125]

/-- `abc`, after a partial file with `xy`. -/
def mixedPayload : Bytes := [120, 121, 99]

/-- The digests of `emptyObject`, `mixedPayload` and the payload. -/
def digestLib (payload digest : Bytes) : Primitives :=
  { sampleLib with
    sha256 := fun bytes =>
      if bytes = payload then digest
      else if bytes = emptyObject then
        [68, 19, 111, 163, 85, 179, 103, 138, 17, 70, 173, 22, 247, 232, 100, 158, 148, 251, 79, 194, 31,
          231, 126, 131, 16, 192, 96, 246, 28, 170, 255, 138]
      else if bytes = mixedPayload then
        [173, 107, 96, 193, 172, 46, 61, 149, 130, 139, 136, 103, 62, 109, 34, 195, 17, 201, 33, 249, 96,
          111, 8, 188, 41, 103, 191, 189, 17, 122, 154, 67]
      else [] }

def filePatch (payloadHash : String) : PatchCheck where
  patchNumber := 1
  manifestUrl := "http://localhost:8080/manifest"
  payloadUrl := "http://localhost:8080/payload"
  manifestHash := "44136fa355b3678a1146ad16f7e8649e94fb4fc21fe77e8310c060f61caaff8a"
  payloadHash := payloadHash

def patchFiles (payload : Bytes) (url : String) : Bytes :=
  if url = "http://localhost:8080/manifest" then emptyObject else payload

theorem digestLib_announces {payload digest : Bytes} {payloadHash : String} (other : emptyObject ≠ payload)
    (hashed : String.join (digest.map hexByte) = payloadHash)
    (apart : payloadHash ∉ ["44136fa355b3678a1146ad16f7e8649e94fb4fc21fe77e8310c060f61caaff8a",
      "ad6b60c1ac2e3d95828b88673e6d22c311c921f9606f08bc2967bfbd117a9a43", ""]) :
    Announces (digestLib payload digest) (filePatch payloadHash) emptyObject payload := by
  have digests : ∀ bytes, bytes ≠ payload → (digestLib payload digest).sha256Hex bytes ∈
      ["44136fa355b3678a1146ad16f7e8649e94fb4fc21fe77e8310c060f61caaff8a",
        "ad6b60c1ac2e3d95828b88673e6d22c311c921f9606f08bc2967bfbd117a9a43", ""] := by
    intro bytes different
    unfold Primitives.sha256Hex digestLib
    dsimp only
    rw [if_neg different]
    split
    · decide
    · split
      · decide
      · decide
  refine ⟨?_, ?_, ?_⟩
  · unfold Primitives.sha256Hex digestLib
    dsimp only
    rw [if_neg other, if_pos rfl]
    show String.join _ = "44136fa355b3678a1146ad16f7e8649e94fb4fc21fe77e8310c060f61caaff8a"
    decide
  · unfold Primitives.sha256Hex digestLib
    dsimp only
    rw [if_pos rfl]
    exact hashed
  · intro bytes same
    by_contra different
    refine apart ?_
    have listed := digests bytes different
    rw [same] at listed
    exact listed

/-- The files of the sample patch are offered. -/
theorem filePatch_offers (payload : Bytes) (payloadHash : String) :
    Offers (fileServer (patchFiles payload)) (filePatch payloadHash) emptyObject payload := by
  exact fileServer_offers (patchFiles payload) (filePatch payloadHash)
    (show isRemote "http://localhost:8080/manifest" = true by decide)
    (show isRemote "http://localhost:8080/payload" = true by decide)
    (show emptyObject.length ≤ maxBodyBytes by decide)

/-- A device with a partial file that does not belong to the payload. -/
def mixedDevice : Device :=
  updateDownload (downloadKey sampleRuntime (filePatch ""))
    (fun dir => { dir with part := some [120, 121], progress := some "2" }) sampleDevice

def abcPayload : Bytes := [97, 98, 99]

def abcDigest : Bytes :=
  [186, 120, 22, 191, 143, 1, 207, 234, 65, 65, 64, 222, 93, 174, 34, 35, 176, 3, 97, 163, 150, 23, 122, 156,
    180, 16, 255, 97, 242, 0, 21, 173]

def abcPatch : PatchCheck := filePatch "ba7816bf8f01cfea414140de5dae2223b00361a396177a9cb410ff61f20015ad"

/-- The second call downloads what the first one could not complete. -/
theorem mixed_partial_recovered :
    let once := downloadPatchFiles (digestLib abcPayload abcDigest) (fileSession (patchFiles abcPayload))
      sampleRuntime abcPatch mixedDevice
    let twice := downloadPatchFiles (digestLib abcPayload abcDigest) (fileSession (patchFiles abcPayload))
      sampleRuntime abcPatch once.2
    once.1.isOk = true ∨ twice.1.isOk = true := by
  have announces : Announces (digestLib abcPayload abcDigest) abcPatch emptyObject abcPayload :=
    digestLib_announces (by decide) (by decide) (by decide)
  have offers := filePatch_offers abcPayload abcPatch.payloadHash
  exact ((resumable_download_converges _ sampleRuntime abcPatch _ _ announces).2 _ _ _ _
    (fileSession_uncancelled (patchFiles abcPayload)) (fileSession_uncancelled (patchFiles abcPayload))
    offers offers mixedDevice).mpr (.inl (by decide))

/-- The digest of 64 MiB and one more byte, all of them zero. -/
def zerosDigest : Bytes :=
  [145, 153, 9, 119, 52, 89, 133, 170, 240, 58, 241, 53, 143, 79, 152, 157, 126, 175, 152, 91, 88, 82, 158,
    251, 114, 246, 19, 197, 136, 246, 89, 154]

/-- A payload that no response may hold is never downloaded. -/
theorem oversized_payload_fails :
    ¬ ∀ (lib : Primitives) (runtime : Runtime) (patch : PatchCheck) (manifest payload : Bytes),
      Announces lib patch manifest payload → ∀ (first second : Session) (http http' : Http),
      Uncancelled first http → Uncancelled second http' → Offers http patch manifest payload →
      Offers http' patch manifest payload → ∀ device : Device,
        let once := downloadPatchFiles lib first runtime patch device
        let twice := downloadPatchFiles lib second runtime patch once.2
        once.1.isOk = true ∨ twice.1.isOk = true := by
  intro converges
  obtain ⟨payload, zeros⟩ : ∃ payload : Bytes, payload = List.replicate (maxBodyBytes + 1) 0 := ⟨_, rfl⟩
  have long : payload.length = maxBodyBytes + 1 := by rw [zeros, List.length_replicate]
  have other : emptyObject ≠ payload := by
    intro same
    rw [← same] at long
    exact absurd long (by decide)
  have announces := digestLib_announces other (show String.join (zerosDigest.map hexByte) =
    "91990977345985aaf03af1358f4f989d7eaf985b58529efb72f613c588f6599a" by decide) (by decide)
  have offers := filePatch_offers payload "91990977345985aaf03af1358f4f989d7eaf985b58529efb72f613c588f6599a"
  have uncancelled := fileSession_uncancelled (patchFiles payload)
  have one := converges _ sampleRuntime _ _ _ announces _ _ _ _ uncancelled uncancelled offers offers
    sampleDevice
  rcases (two_calls_iff announces uncancelled uncancelled offers offers sampleRuntime sampleDevice).mp one with
    short | resumes
  · omega
  · exact absurd resumes.begun (by decide)

end CodePush.Updater
