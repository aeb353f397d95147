import CodePush.Updater.Resume

/-!
# Requests that are tried again

The loops of `Client` in `crates/fcb_core/src/server_api.rs`. A loop that runs off its end
unwraps the last transport error, so it must not get there without one. The reset of a
refused range uses up an attempt and keeps no error.
-/

set_option autoImplicit false

namespace CodePush.Updater

open CodePush.Core CodePush.Foundation

/-!
## The client
-/

structure Client where
  baseUrl : String
  token : Option String
  deriving Repr, DecidableEq

/-- The base without the slashes at its end. -/
def Client.new (baseUrl : String) : Client where
  baseUrl := String.ofList (baseUrl.toList.reverse.dropWhile (· = '/')).reverse
  token := none

def Client.withToken (client : Client) (token : String) : Client :=
  if isBlank token then client else { client with token := some token }

inductive Method where
  | get | post
  deriving Repr, DecidableEq

/-- A request as it is handed to the agent; `json` is its body. -/
structure ClientRequest where
  method : Method
  url : String
  query : List (String × String)
  authorization : Option String
  json : Option String
  deriving Repr, DecidableEq

def Client.checkRequest (client : Client) (request : CheckRequest) : ClientRequest where
  method := .get
  url := s!"{client.baseUrl}/v1/patches/check"
  query :=
    [("app_id", request.appId), ("release_version", request.releaseVersion),
      ("platform", request.platform), ("arch", request.arch), ("channel", request.channel),
      ("current_patch_number", s!"{request.currentPatchNumber}"), ("client_id", request.clientId)] ++
    match request.orgId with
    | some orgId => if isBlank orgId then [] else [("org_id", orgId)]
    | none => []
  authorization := none
  json := none

def Client.postRequest (client : Client) (path json : String) : ClientRequest where
  method := .post
  url := client.baseUrl ++ path
  query := []
  authorization := client.token.map fun token => s!"Bearer {token}"
  json := some json

def Client.getRequest (client : Client) (path : String) : ClientRequest where
  method := .get
  url := client.baseUrl ++ path
  query := []
  authorization := client.token.map fun token => s!"Bearer {token}"
  json := none

/-- `RETRY_DELAYS` in microseconds. -/
def retryDelaysMicros : List Nat := [50000, 200000, 800000, 3200000]

/-- `retry_delay`; `seed` is the time of the clock. -/
def retryDelay (seed attempt : Nat) : Result Nat :=
  match retryDelaysMicros[attempt]? with
  | none => .error (.panic s!"index out of bounds: the len is 4 but the index is {attempt}")
  | some baseMicros =>
      let jitterMicros := baseMicros / 4
      let span := jitterMicros * 2 + 1
      .ok (baseMicros - jitterMicros + seed % span)

/-- What the network makes of the attempts of one call. `readJson` reads the body of a
response as a value. -/
structure Exchanges (α : Type) where
  respond : ClientRequest → Nat → Response
  seed : Nat → Nat
  readJson : List (Except String Bytes) → Except String α

section Loops

variable {α : Type} (exchanges : Exchanges α)

/-- The loop of `check`, `post_json` and `get_json`; they differ in what they make of a
successful response. -/
def requestAttempts {β : Type} (request : ClientRequest)
    (accept : List (Except String Bytes) → Result β) :
    (attempts : List Nat) → (lastError : Option Error) → Result β
  | [], lastError => .error (lastError.getD (.panic "retry loop should retain last error"))
  | attempt :: attempts, lastError =>
      match exchanges.respond request attempt with
      | .answered status reads text =>
          if 200 ≤ status ∧ status < 300 then accept reads
          else if shouldRetryStatus status && canRetry attempt then do
            let _ ← retryDelay (exchanges.seed attempt) attempt
            requestAttempts request accept attempts lastError
          else err s!"server returned HTTP {status}: {text}"
      | .failed text =>
          if canRetry attempt then do
            let _ ← retryDelay (exchanges.seed attempt) attempt
            requestAttempts request accept attempts (some (.http text))
          else .error (.http text)

def readBodyJson (reads : List (Except String Bytes)) : Result α :=
  match exchanges.readJson reads with
  | .ok value => .ok value
  | .error text => .error (.http text)

def Client.getJson (client : Client) (path : String) : Result α :=
  requestAttempts exchanges (client.getRequest path) (readBodyJson exchanges)
    (List.range (retryDelays + 1)) none

/-- `json` is what `serde_json::to_value` makes of the value. -/
def Client.postJson (client : Client) (path : String) (json : Except String String) : Result Unit :=
  match json with
  | .error text => .error (.json text)
  | .ok json =>
      requestAttempts exchanges (client.postRequest path json) (fun _ => .ok ())
        (List.range (retryDelays + 1)) none

end Loops

def Client.check (exchanges : Exchanges CheckResponse) (client : Client) (request : CheckRequest) :
    Result CheckResponse :=
  requestAttempts exchanges (client.checkRequest request) (readBodyJson exchanges)
    (List.range (retryDelays + 1)) none

/-!
## Calls that return
-/

section Retained

variable {α : Type}

/-- An error that was kept is a transport error. -/
def Retained (lastError : Option Error) : Prop := ∀ error, lastError = some error → ∃ text, error = .http text

theorem retained_none : Retained none := fun _ same => nomatch same

theorem retained_http (text : String) : Retained (some (.http text)) := by
  intro error same
  cases same
  exact ⟨text, rfl⟩

/-- Behind the loop, only a kept error saves the call. -/
theorem returns_lastError_iff {lastError : Option Error} (retained : Retained lastError) :
    Returns (.error (lastError.getD (.panic "retry loop should retain last error")) : Result α) ↔
      lastError ≠ none := by
  cases lastError with
  | none =>
      refine iff_of_false (fun returns => returns _ rfl) (fun some => some rfl)
  | some error =>
      obtain ⟨text, rfl⟩ := retained error rfl
      exact iff_of_true (returns_http text) nofun

end Retained

/-- The pause before another attempt is in the table. -/
theorem retryDelay_of_canRetry (seed : Nat) {attempt : Nat} (again : canRetry attempt = true) :
    ∃ delay, retryDelay seed attempt = .ok delay := by
  have small : attempt < retryDelaysMicros.length := of_decide_eq_true again
  unfold retryDelay
  rw [List.getElem?_eq_getElem small]
  exact ⟨_, rfl⟩

/-!
## Requests without a range
-/

/-- The last attempt is not repeated, so the loop does not run off its end. -/
theorem requestAttempts_returns {α β : Type} (exchanges : Exchanges α) (request : ClientRequest)
    {accept : List (Except String Bytes) → Result β} (accepts : ∀ reads, Returns (accept reads))
    {attempts : List Nat} (ends : ∃ attempt ∈ attempts, canRetry attempt = false)
    (lastError : Option Error) :
    Returns (requestAttempts exchanges request accept attempts lastError) := by
  induction attempts generalizing lastError with
  | nil =>
      obtain ⟨attempt, member, _⟩ := ends
      cases member
  | cons attempt attempts ih =>
      have again : canRetry attempt = true → ∃ attempt ∈ attempts, canRetry attempt = false := by
        intro again
        obtain ⟨other, member, ended⟩ := ends
        rcases List.mem_cons.mp member with rfl | member
        · cases again.symm.trans ended
        · exact ⟨other, member, ended⟩
      unfold requestAttempts
      cases exchanges.respond request attempt with
      | answered status reads text =>
          dsimp only
          split
          · exact accepts reads
          · split
            case isTrue retried =>
              have later := (Bool.and_eq_true _ _).mp retried
              obtain ⟨delay, paused⟩ := retryDelay_of_canRetry (exchanges.seed attempt) later.2
              rw [paused]
              exact ih (again later.2) lastError
            case isFalse => exact returns_err _
      | failed text =>
          dsimp only
          split
          case isTrue later =>
            obtain ⟨delay, paused⟩ := retryDelay_of_canRetry (exchanges.seed attempt) later
            rw [paused]
            exact ih (again later) _
          case isFalse => exact returns_http text

/-- The attempts that the loops make end with one that is not repeated. -/
theorem attempts_end : ∃ attempt ∈ List.range (retryDelays + 1), canRetry attempt = false :=
  ⟨4, by decide, by decide⟩

section Requests

variable {α : Type} (exchanges : Exchanges α) (client : Client) (path : String)

theorem readBodyJson_returns (reads : List (Except String Bytes)) :
    Returns (readBodyJson exchanges reads) := by
  unfold readBodyJson
  cases exchanges.readJson reads with
  | ok value => exact returns_ok value
  | error text => exact returns_http text

theorem getJson_returns : Returns (client.getJson exchanges path) :=
  requestAttempts_returns exchanges _ (readBodyJson_returns exchanges) attempts_end none

theorem postJson_returns (json : Except String String) :
    Returns (client.postJson exchanges path json) := by
  cases json with
  | error text => exact fun _ same => nomatch same
  | ok json => exact requestAttempts_returns exchanges _ (fun _ => returns_ok ()) attempts_end none

end Requests

theorem check_returns (exchanges : Exchanges CheckResponse) (client : Client) (request : CheckRequest) :
    Returns (Client.check exchanges client request) :=
  requestAttempts_returns exchanges _ (readBodyJson_returns exchanges) attempts_end none

/-!
## Downloads
-/

section Downloads

variable (http : Http) (cancel : Nat → Bool) (url : String)

theorem readBodyWithCancel_returns (poll : Nat) (out : Bytes) (reads : List (Except String Bytes)) :
    Returns (readBodyWithCancel cancel poll out reads) := by
  induction reads generalizing poll out with
  | nil =>
      unfold readBodyWithCancel
      split
      · exact returns_err _
      · exact returns_ok out
  | cons read reads ih =>
      unfold readBodyWithCancel
      split
      · exact returns_err _
      · cases read with
        | error text =>
            intro _ same
            cases same
        | ok chunk =>
            dsimp only
            split
            · exact returns_ok out
            · split
              · exact returns_err _
              · exact ih _ _

/-- The server refuses the range. -/
def RangeRefused (attempt offset : Nat) : Prop :=
  ∃ reads text, http.get url attempt (some offset) = .answered 416 reads text

/-- The server has an error of its own. -/
def ServerError (attempt offset : Nat) : Prop :=
  ∃ status reads text, http.get url attempt (some offset) = .answered status reads text ∧ 500 ≤ status

/-- The only attempts that a download ends on without an answer and without an error. -/
structure RangeRefusedLast (offset : Nat) : Prop where
  remote : isRemote url = true
  resumed : 0 < offset
  polls : ∀ attempt ≤ retryDelays, cancel attempt = false
  errors : ∀ attempt < retryDelays, ServerError http url attempt offset
  refused : RangeRefused http url retryDelays offset

variable {http cancel url}

/-- Once the whole file is asked for, the last attempt is not repeated. -/
theorem downloadAttempts_whole_returns {attempts : List Nat}
    (ends : ∃ attempt ∈ attempts, canRetry attempt = false) (poll : Nat) (lastError : Option Error) :
    Returns (downloadAttempts http cancel url attempts 0 poll lastError) := by
  induction attempts generalizing poll lastError with
  | nil =>
      obtain ⟨attempt, member, _⟩ := ends
      cases member
  | cons attempt attempts ih =>
      have again : canRetry attempt = true → ∃ attempt ∈ attempts, canRetry attempt = false := by
        intro again
        obtain ⟨other, member, ended⟩ := ends
        rcases List.mem_cons.mp member with rfl | member
        · cases again.symm.trans ended
        · exact ⟨other, member, ended⟩
      unfold downloadAttempts
      split
      · exact returns_err _
      simp only [gt_iff_lt, lt_irrefl, if_false]
      cases http.get url attempt none with
      | answered status reads text =>
          simp only [and_false, if_false]
          split
          · exact (readBodyWithCancel_returns _ _ _ _).map _
          · split
            · exact (readBodyWithCancel_returns _ _ _ _).map _
            · split
              case isTrue retried => exact ih (again ((Bool.and_eq_true _ _).mp retried).2) _ _
              case isFalse => exact returns_err _
      | failed text =>
          dsimp only
          split
          case isTrue later => exact ih (again later) _ _
          case isFalse => exact returns_http text

/-- An error that was kept is returned behind the loop. -/
theorem downloadAttempts_kept_returns (attempts : List Nat) (offset poll : Nat)
    {lastError : Option Error} (retained : Retained lastError) (kept : lastError ≠ none) :
    Returns (downloadAttempts http cancel url attempts offset poll lastError) := by
  induction attempts generalizing offset poll lastError with
  | nil => exact (returns_lastError_iff retained).mpr kept
  | cons attempt attempts ih =>
      unfold downloadAttempts
      split
      · exact returns_err _
      cases http.get url attempt _ with
      | answered status reads text =>
          dsimp only
          split
          · exact ih _ _ retained kept
          · split
            · exact (readBodyWithCancel_returns _ _ _ _).map _
            · split
              · exact (readBodyWithCancel_returns _ _ _ _).map _
              · split
                · exact ih _ _ retained kept
                · exact returns_err _
      | failed text =>
          dsimp only
          split
          · exact ih _ _ (retained_http text) (Option.some_ne_none _)
          · exact returns_http text

/-- An attempt that may be repeated passes the panic on exactly if the server has an error. -/
theorem downloadAttempts_retry_iff {attempt : Nat} {attempts : List Nat} {offset poll : Nat}
    (again : canRetry attempt = true) (ends : ∃ attempt ∈ attempts, canRetry attempt = false)
    (resumed : 0 < offset) :
    ¬ Returns (downloadAttempts http cancel url (attempt :: attempts) offset poll none) ↔
      cancel poll = false ∧ ServerError http url attempt offset ∧
        ¬ Returns (downloadAttempts http cancel url attempts offset (poll + 1) none) := by
  unfold ServerError
  rw [downloadAttempts]
  simp only [gt_iff_lt, resumed, if_true, and_true]
  cases cancel poll with
  | true => simp [returns_err]
  | false =>
      simp only [Bool.false_eq_true, if_false, true_and]
      cases http.get url attempt (some offset) with
      | answered status reads text =>
          simp only [Response.answered.injEq, again, Bool.and_true]
          split
          case isTrue refused =>
            subst refused
            refine iff_of_false (not_not.mpr (downloadAttempts_whole_returns ends _ _)) ?_
            intro both
            obtain ⟨⟨status, _, _, ⟨rfl, _⟩, high⟩, _⟩ := both
            omega
          case isFalse =>
            have body : ∀ append : Bool, Returns
                ((readBodyWithCancel cancel (poll + 1) [] reads).map (·, append)) :=
              fun append => (readBodyWithCancel_returns _ _ _ _).map _
            by_cases high : 500 ≤ status
            · have retried : shouldRetryStatus status = true := decide_eq_true high
              rw [if_neg (by omega), if_neg (by omega), if_pos retried]
              exact ⟨fun panics => ⟨⟨status, reads, text, ⟨rfl, rfl, rfl⟩, high⟩, panics⟩, And.right⟩
            · have final : shouldRetryStatus status = false := decide_eq_false high
              refine iff_of_false (not_not.mpr ?_) ?_
              · rw [final]
                split
                · exact body true
                · split
                  · exact body false
                  · exact returns_err _
              · intro both
                obtain ⟨⟨other, _, _, ⟨rfl, _⟩, high'⟩, _⟩ := both
                exact high high'
      | failed text =>
          simp only [again, if_true, reduceCtorEq, false_and, exists_false, iff_false, not_not]
          exact downloadAttempts_kept_returns _ _ _ (retained_http text) (Option.some_ne_none _)

/-- At the last attempt, a refused range leaves the loop with nothing. -/
theorem downloadAttempts_last_iff {attempt offset poll : Nat} (last : canRetry attempt = false)
    (resumed : 0 < offset) :
    ¬ Returns (downloadAttempts http cancel url [attempt] offset poll none) ↔
      cancel poll = false ∧ RangeRefused http url attempt offset := by
  unfold RangeRefused
  rw [downloadAttempts]
  simp only [gt_iff_lt, resumed, if_true, and_true]
  cases cancel poll with
  | true => simp [returns_err]
  | false =>
      simp only [Bool.false_eq_true, if_false, true_and]
      cases http.get url attempt (some offset) with
      | answered status reads text =>
          simp only [Response.answered.injEq, last, Bool.and_false, Bool.false_eq_true, if_false]
          split
          case isTrue refused =>
            subst refused
            refine iff_of_true ?_ ⟨reads, text, rfl, rfl, rfl⟩
            exact fun returns => ((returns_lastError_iff retained_none).mp returns) rfl
          case isFalse other =>
            refine iff_of_false (not_not.mpr ?_) ?_
            · split
              · exact (readBodyWithCancel_returns _ _ _ _).map _
              · split
                · exact (readBodyWithCancel_returns _ _ _ _).map _
                · exact returns_err _
            · intro refused
              obtain ⟨_, _, same, _⟩ := refused
              exact other same
      | failed text =>
          simp only [last, Bool.false_eq_true, if_false, reduceCtorEq, exists_false, iff_false, not_not]
          exact returns_http text

theorem downloadBytesFrom_returns_iff (files : ∀ path, Returns (http.readFile path)) (offset : Nat) :
    Returns (downloadBytesFrom http cancel url offset) ↔ ¬ RangeRefusedLast http cancel url offset := by
  unfold downloadBytesFrom
  split
  case isFalse localPath =>
    refine iff_of_true ?_ (fun last => localPath last.remote)
    split
    · exact returns_err _
    · exact (files url).map _
  case isTrue remote =>
    rcases Nat.eq_zero_or_pos offset with rfl | resumed
    · exact iff_of_true (downloadAttempts_whole_returns attempts_end _ _)
        (fun last => lt_irrefl 0 last.resumed)
    have attempts : List.range (retryDelays + 1) = [0, 1, 2, 3, 4] := rfl
    -- one line for each attempt: the four that may be repeated, and the last
    rw [← not_iff_not, not_not, attempts,
      downloadAttempts_retry_iff rfl ⟨4, by decide, rfl⟩ resumed,
      downloadAttempts_retry_iff rfl ⟨4, by decide, rfl⟩ resumed,
      downloadAttempts_retry_iff rfl ⟨4, by decide, rfl⟩ resumed,
      downloadAttempts_retry_iff rfl ⟨4, by decide, rfl⟩ resumed,
      downloadAttempts_last_iff rfl resumed]
    constructor
    · intro all
      obtain ⟨poll₀, error₀, poll₁, error₁, poll₂, error₂, poll₃, error₃, poll₄, refused⟩ := all
      refine ⟨remote, resumed, ?_, ?_, refused⟩
      · intro attempt early
        match attempt, early with
        | 0, _ => exact poll₀
        | 1, _ => exact poll₁
        | 2, _ => exact poll₂
        | 3, _ => exact poll₃
        | 4, _ => exact poll₄
      · intro attempt early
        match attempt, early with
        | 0, _ => exact error₀
        | 1, _ => exact error₁
        | 2, _ => exact error₂
        | 3, _ => exact error₃
    · intro last
      have polls := last.polls
      have errors := last.errors
      exact ⟨polls 0 (by decide), errors 0 (by decide), polls 1 (by decide), errors 1 (by decide),
        polls 2 (by decide), errors 2 (by decide), polls 3 (by decide), errors 3 (by decide),
        polls 4 (by decide), last.refused⟩

end Downloads

/-!
## All loops
-/

theorem retry_loops_return_iff {α : Type} (client : Client) (checks : Exchanges CheckResponse)
    (exchanges : Exchanges α) (request : CheckRequest) (path : String) (json : Except String String)
    (http : Http) (files : ∀ path, Returns (http.readFile path)) (cancel : Nat → Bool) (url : String)
    (offset : Nat) :
    ((∀ seed attempt, canRetry attempt = true → Returns (retryDelay seed attempt)) ∧
      Returns (Client.check checks client request) ∧ Returns (client.postJson exchanges path json) ∧
      Returns (client.getJson exchanges path) ∧ Returns (downloadBytesFrom http cancel url offset)) ↔
    ¬ RangeRefusedLast http cancel url offset := by
  have pauses : ∀ seed attempt, canRetry attempt = true → Returns (retryDelay seed attempt) := by
    intro seed attempt again
    obtain ⟨delay, paused⟩ := retryDelay_of_canRetry seed again
    rw [paused]
    exact returns_ok delay
  rw [← downloadBytesFrom_returns_iff files offset]
  constructor
  · intro all
    exact all.2.2.2.2
  · intro downloads
    exact ⟨pauses, check_returns checks client request, postJson_returns exchanges client path json,
      getJson_returns exchanges client path, downloads⟩

/-- A server that is overloaded, and then has less of the file than was asked for. -/
def recoveringServer : Http where
  get := fun _ attempt range =>
    if attempt < 4 then .answered 503 [] "overloaded"
    else
      match range with
      | some _ => .answered 416 [] ""
      | none => .answered 200 [.ok [1]] ""
  readFile := fun _ => .error (.io "No such file or directory (os error 2)")

theorem recoveringServer_files (path : String) : Returns (recoveringServer.readFile path) :=
  fun _ same => nomatch same

/-- A download from the start is not affected. -/
theorem recovering_download_returns :
    Returns (downloadBytesFrom recoveringServer (fun _ => false) "https://cdn.example/payload" 0) := by
  have loops := retry_loops_return_iff (Client.new "https://cdn.example/")
    { respond := fun _ _ => .failed "connection refused", seed := fun _ => 0
      readJson := fun _ => .error "EOF while parsing a value at line 1 column 0" }
    ({ respond := fun _ _ => .failed "connection refused", seed := fun _ => 0
       readJson := fun _ => .ok () } : Exchanges Unit)
    { serverUrl := "https://cdn.example", orgId := none, appId := "app", releaseVersion := "1.0.0+1"
      platform := "android", arch := "arm64-v8a", channel := "stable", currentPatchNumber := 0
      clientId := "client" }
    "/v1/events" (.ok "{}") recoveringServer recoveringServer_files (fun _ => false)
    "https://cdn.example/payload" 0
  exact (loops.mpr fun last => lt_irrefl 0 last.resumed).2.2.2.2

theorem refused_range_panics :
    ¬ ∀ (http : Http) (cancel : Nat → Bool) (url : String) (offset : Nat),
      (∀ path, Returns (http.readFile path)) → Returns (downloadBytesFrom http cancel url offset) := by
  intro all
  exact all recoveringServer (fun _ => false) "https://cdn.example/payload" 10 recoveringServer_files
    "retry loop should retain last error" (by decide)

end CodePush.Updater
