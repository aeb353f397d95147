import CodePush.Core.Canonical
import CodePush.Foundation.CappedLog
import CodePush.Updater.Downgrade
import CodePush.Updater.Runtime

/-!
# The rollback log

`events.log` is a text file with one event a line, rewritten by every append, read back line by
line, and removed once all of its events have been posted. The updater's model keeps the
events as a list; here the file itself goes along with it.
-/

set_option autoImplicit false

namespace CodePush.Updater

open CodePush.Core CodePush.Foundation CodePush.Foundation.Action

/-!
## Lines
-/

/-- The texts of `event_type`. -/
def EventType.text : EventType → String
  | .crashRollback => "crash_rollback"
  | .stateReset => "state_reset"

def CrashRollbackEvent.toValue (event : CrashRollbackEvent) : Json :=
  .obj ([("event_type", .str event.eventType.text), ("patch_number", .num event.patchNumber),
    ("boot_attempts", .num event.bootAttempts),
    ("last_known_good_patch_number",
      match event.lastKnownGoodPatchNumber with
      | none => .null
      | some patchNumber => .num patchNumber),
    ("timestamp", .str event.timestamp)] ++
      (event.reason.map fun reason => ("reason", Json.str reason)).toList)

/-- `serde_json::to_string`. -/
def CrashRollbackEvent.line (event : CrashRollbackEvent) : String := event.toValue.print

/-- The lines of the file that are not blank. -/
def logLines (content : String) : List String := (lines content).filter fun line => !isBlank line

def logText (kept : List String) : String := "\n".intercalate kept ++ "\n"

/-- The content that `append_rollback_event` writes. -/
def appendLine (file : Option String) (line : String) : String :=
  let kept := (file.map logLines).getD [] ++ [line]
  logText (kept.drop (kept.length - maxRollbackEvents))

/-- `rollback_events`; `parse` is `serde_json::from_str`. -/
def readLog (parse : String → Result CrashRollbackEvent) : Option String →
    Result (List CrashRollbackEvent)
  | none => .ok []
  | some content => (logLines content).mapM parse

/-!
## Flushing
-/

/-- The posts of a flush up to the first that fails: how many were accepted. -/
def postEvents (post : Nat → Result Unit) : Nat → List CrashRollbackEvent → Nat × Result Unit
  | sent, [] => (sent, .ok ())
  | sent, _ :: events =>
      match post sent with
      | .ok () => postEvents post (sent + 1) events
      | .error error => (sent, .error error)

/-- `flush_rollback_events` of a configured runtime: the number of accepted posts, the result,
and the file. -/
def flushLog (parse : String → Result CrashRollbackEvent) (env : Environment)
    (post : Nat → Result Unit) (file : Option String) : (Nat × Result Unit) × Option String :=
  if file.isNone then ((0, .ok ()), file)
  else
    match env.io .readEvents with
    | .error error => ((0, .error error), file)
    | .ok () =>
        match readLog parse file with
        | .error error => ((0, .error error), file)
        | .ok events =>
            if events.isEmpty then ((0, .ok ()), file)
            else
              match postEvents post 0 events with
              | (sent, .error error) => ((sent, .error error), file)
              | (sent, .ok ()) =>
                  match env.io .clearEvents with
                  | .error error => ((sent, .error error), file)
                  | .ok () => ((sent, .ok ()), none)

/-!
## Runs
-/

/-- The events that a launch appends: one for a state file that cannot be parsed, or one for a
patch that has used up its attempts. -/
def launchEvents (env : Environment) (disk : Disk) : List CrashRollbackEvent :=
  match disk.stateFile with
  | .missing => []
  | .corrupt parseError =>
      match env.io .readState, env.io .backupState, env.io .appendEvent with
      | .ok (), .ok (), .ok () =>
          [{ eventType := .stateReset, patchNumber := 0, bootAttempts := 0
             lastKnownGoodPatchNumber := none, timestamp := env.now
             reason := some s!"failed to parse state.json: {parseError}" }]
      | _, _, _ => []
  | .saved state =>
      match env.io .readState, env.io .appendEvent with
      | .ok (), .ok () => (state.migrate.crashRollback env.now).toList
      | _, _ => []

/-- The cache directory with the text of `events.log`. -/
structure LogState where
  disk : Disk
  file : Option String

/-- Between launches and flushes, anything may happen to the state file and the patches. -/
inductive LogInput where
  | launch (env : Environment)
  | flush (env : Environment) (post : Nat → Result Unit)
  | elsewhere (stateFile : StateFile) (patches : Nat → Option PatchDir)

inductive LogAnswer where
  | launched (appended : List CrashRollbackEvent)
  | flushed (sent : Nat) (result : Result Unit)
  | elsewhere

def logStep (parse : String → Result CrashRollbackEvent) (input : LogInput) (state : LogState) :
    LogAnswer × LogState :=
  match input with
  | .launch env =>
      let events := launchEvents env state.disk
      (.launched events,
        { disk := (launchPatch env state.disk).2
          file := events.foldl (fun file event => some (appendLine file event.line)) state.file })
  | .flush env post =>
      let flushed := flushLog parse env post state.file
      (.flushed flushed.1.1 flushed.1.2,
        { disk := { state.disk with events := if flushed.2.isNone then [] else state.disk.events }
          file := flushed.2 })
  | .elsewhere stateFile patches =>
      (.elsewhere, { state with disk := { state.disk with stateFile, patches } })

/-- What happened to the log: the events in the order they were appended, how many of them
there were at the last flush that was completed, and which ones were accepted. -/
def trackLog (history : LogHistory CrashRollbackEvent) (_ : LogState) (_ : LogInput)
    (answer : LogAnswer) (_ : LogState) : LogHistory CrashRollbackEvent :=
  match answer with
  | .launched appended => history.append appended
  | .flushed sent (.ok ()) => (history.hand maxRollbackEvents sent).clear
  | .flushed sent (.error _) => history.hand maxRollbackEvents sent
  | .elsewhere => history

/-!
## Printed events
-/

/-- What a line of the log consists of. -/
def Printable (chars : List Char) : Prop := ∀ char ∈ chars, 0x20 ≤ char.toNat

instance (chars : List Char) : Decidable (Printable chars) :=
  List.decidableBAll (fun char : Char => 0x20 ≤ char.toNat) chars

theorem Printable.cons {char : Char} {chars : List Char} (one : 0x20 ≤ char.toNat)
    (others : Printable chars) : Printable (char :: chars) := by
  intro symbol member
  rcases List.mem_cons.mp member with rfl | member
  · exact one
  · exact others symbol member

theorem Printable.append {front back : List Char} (one : Printable front) (two : Printable back) :
    Printable (front ++ back) := by
  intro char member
  rcases List.mem_append.mp member with member | member
  · exact one char member
  · exact two char member

/-- Control characters are escaped. -/
theorem escapeChar_printable (char : Char) : Printable (Json.escapeChar char).toList := by
  by_cases special : char.toNat < 0x20 ∨ char.toNat = 0x22 ∨ char.toNat = 0x5c
  · have checked : specialChars.all (fun char =>
        decide (Printable (Json.escapeChar char).toList)) = true := by decide
    exact of_decide_eq_true (List.all_eq_true.mp checked char (mem_specialChars special))
  · rw [escapeChar_plain special]
    intro symbol member
    rw [List.mem_singleton.mp member]
    omega

theorem printString_printable (text : String) : Printable (Json.printString text).toList := by
  rw [toList_printString]
  intro symbol member
  rw [List.mem_cons, List.mem_append, List.mem_flatMap] at member
  rcases member with rfl | ⟨char, _, member⟩ | member
  · decide
  · exact escapeChar_printable char symbol member
  · rw [List.mem_singleton.mp member]
    decide

theorem toString_printable (value : Int) : Printable (toString value).toList := by
  intro char member
  have numeric := toString_numeric value char member
  unfold isNumeric at numeric
  rw [Bool.or_eq_true] at numeric
  rcases numeric with digit | minus
  · unfold Char.isDigit at digit
    rw [Bool.and_eq_true, decide_eq_true_eq] at digit
    have low : 48 ≤ char.val.toNat := digit.1
    show 0x20 ≤ char.val.toNat
    omega
  · rw [beq_iff_eq.mp minus]
    decide

mutual

theorem print_printable : ∀ value : Json, Printable value.print.toList
  | .null => by decide
  | .bool value => by cases value <;> decide
  | .num value => toString_printable value
  | .str value => printString_printable value
  | .arr items => by
      rw [Json.print, String.toList_append, String.toList_append]
      exact (Printable.append (by decide) (printItems_printable items)).append (by decide)
  | .obj members => by
      rw [Json.print, String.toList_append, String.toList_append]
      exact (Printable.append (by decide) (printMembers_printable members)).append (by decide)

theorem printItems_printable : ∀ items : List Json, Printable (Json.printItems items).toList
  | [] => by decide
  | item :: items => by
      rw [toList_printItems]
      refine (print_printable item).append ?_
      cases items with
      | nil => decide
      | cons next items =>
          exact Printable.cons (by decide) (printItems_printable (next :: items))

theorem printMembers_printable : ∀ members : List (String × Json),
    Printable (Json.printMembers members).toList
  | [] => by decide
  | (key, value) :: members => by
      rw [toList_printMembers]
      refine (printString_printable key).append (Printable.cons (by decide) ?_)
      refine (print_printable value).append ?_
      cases members with
      | nil => decide
      | cons next members =>
          exact Printable.cons (by decide) (printMembers_printable (next :: members))

end

/-!
## The file
-/

theorem Printable.not_mem {chars : List Char} (printable : Printable chars) {char : Char}
    (control : char.toNat < 0x20) : char ∉ chars := by
  intro member
  have visible := printable char member
  omega

theorem intercalate_concat {α : Type} (separator : List α) (parts : List (List α)) (present : parts ≠ []) :
    separator.intercalate parts ++ separator = separator.intercalate (parts ++ [[]]) := by
  induction parts with
  | nil => exact absurd rfl present
  | cons part parts ih =>
      cases parts with
      | nil => simp
      | cons next parts =>
          have later := ih (List.cons_ne_nil next parts)
          simpa [List.intercalate_cons_cons] using later

/-- Lines without control characters are read back as they were written. -/
theorem lines_logText {kept : List String} (present : kept ≠ [])
    (printable : ∀ line ∈ kept, Printable line.toList) : lines (logText kept) = kept := by
  have text : (logText kept).toList =
      ['\n'].intercalate (kept.map String.toList ++ [[]]) := by
    rw [logText, String.toList_append, String.toList_intercalate]
    exact intercalate_concat ['\n'] (kept.map String.toList) (by simpa using present)
  have parts : (logText kept).toList.splitOn '\n' = kept.map String.toList ++ [[]] := by
    rw [text]
    apply List.splitOn_intercalate
    · intro part member
      rcases List.mem_append.mp member with member | member
      · obtain ⟨line, inside, rfl⟩ := List.mem_map.mp member
        exact (printable line inside).not_mem (by decide)
      · rw [List.mem_singleton.mp member]
        exact List.not_mem_nil
    · simp
  unfold lines
  rw [parts]
  dsimp only
  rw [List.getLast?_concat, if_pos rfl, List.dropLast_concat, List.map_map]
  have same : ∀ line ∈ kept,
      ((fun line : List Char =>
        String.ofList (if line.getLast? = some '\r' then line.dropLast else line)) ∘
          String.toList) line = line := by
    intro line inside
    dsimp only [Function.comp]
    rw [if_neg, String.ofList_toList]
    intro last
    exact (printable line inside).not_mem (by decide) (List.mem_of_getLast? last)
  calc
    kept.map _ = kept.map id := List.map_congr_left same
    _ = kept := List.map_id kept

theorem CrashRollbackEvent.line_printable (event : CrashRollbackEvent) : Printable event.line.toList :=
  print_printable event.toValue

theorem CrashRollbackEvent.line_not_blank (event : CrashRollbackEvent) : isBlank event.line = false := by
  unfold line toValue
  rw [Json.print, isBlank, String.toList_append, String.toList_append]
  rfl

/-- The content of `events.log`: there is no file before the first event. -/
def logFile : List CrashRollbackEvent → Option String
  | [] => none
  | events => some (logText (events.map CrashRollbackEvent.line))

theorem logFile_of_ne_nil {events : List CrashRollbackEvent} (present : events ≠ []) :
    logFile events = some (logText (events.map CrashRollbackEvent.line)) := by
  cases events with
  | nil => exact absurd rfl present
  | cons event events => rfl

theorem logLines_logText {events : List CrashRollbackEvent} (present : events ≠ []) :
    logLines (logText (events.map CrashRollbackEvent.line)) = events.map CrashRollbackEvent.line := by
  have read : lines (logText (events.map CrashRollbackEvent.line)) =
      events.map CrashRollbackEvent.line := by
    apply lines_logText
    · simpa using present
    · intro line member
      obtain ⟨event, _, rfl⟩ := List.mem_map.mp member
      exact event.line_printable
  rw [logLines, read, List.filter_eq_self]
  intro line member
  obtain ⟨event, _, rfl⟩ := List.mem_map.mp member
  rw [event.line_not_blank]
  rfl

theorem kept_logFile (events : List CrashRollbackEvent) :
    ((logFile events).map logLines).getD [] = events.map CrashRollbackEvent.line := by
  cases events with
  | nil => rfl
  | cons event events =>
      rw [logFile_of_ne_nil (List.cons_ne_nil event events)]
      exact logLines_logText (List.cons_ne_nil event events)

/-- Appending to the file appends to its events. -/
theorem appendLine_logFile (events : List CrashRollbackEvent) (event : CrashRollbackEvent) :
    some (appendLine (logFile events) event.line) =
      logFile (newest maxRollbackEvents (events ++ [event])) := by
  have present : newest maxRollbackEvents (events ++ [event]) ≠ [] := by
    rw [← List.length_pos_iff, length_newest, List.length_append, List.length_singleton]
    unfold maxRollbackEvents
    omega
  rw [logFile_of_ne_nil present, appendLine, kept_logFile]
  have appended : events.map CrashRollbackEvent.line ++ [event.line] =
      (events ++ [event]).map CrashRollbackEvent.line := by
    rw [List.map_append, List.map_singleton]
  rw [appended, newest, List.length_map, List.map_drop]

theorem appendLines_logFile (appended events : List CrashRollbackEvent) :
    appended.foldl (fun file event => some (appendLine file event.line)) (logFile events) =
      logFile (appended.foldl (fun events event => newest maxRollbackEvents (events ++ [event]))
        events) := by
  induction appended generalizing events with
  | nil => rfl
  | cons event appended ih =>
      rw [List.foldl_cons, List.foldl_cons, appendLine_logFile]
      exact ih _

/-- The file is read back as its events. -/
theorem readLog_logFile {parse : String → Result CrashRollbackEvent} {events : List CrashRollbackEvent}
    (escapes : ∀ event ∈ events, parse event.line = .ok event) :
    readLog parse (logFile events) = .ok events := by
  have parsed : ∀ events : List CrashRollbackEvent,
      (∀ event ∈ events, parse event.line = .ok event) →
      (events.map CrashRollbackEvent.line).mapM parse = .ok events := by
    intro events escapes
    induction events with
    | nil => rfl
    | cons event events ih =>
        rw [List.map_cons, List.mapM_cons, escapes event List.mem_cons_self,
          ih fun other member => escapes other (List.mem_cons_of_mem _ member)]
        rfl
  cases events with
  | nil => rfl
  | cons event events =>
      rw [logFile_of_ne_nil (List.cons_ne_nil event events)]
      change (logLines _).mapM parse = _
      rw [logLines_logText (List.cons_ne_nil event events)]
      exact parsed (event :: events) escapes

/-!
## Steps
-/

/-- A launch appends its events one by one, whether it succeeds or not. -/
theorem launchPatch_events (env : Environment) (disk : Disk) :
    (launchPatch env disk).2.events =
      (launchEvents env disk).foldl (fun events event => newest maxRollbackEvents (events ++ [event]))
        disk.events := by
  generalize appended : (launchEvents env disk).foldl
    (fun events event => newest maxRollbackEvents (events ++ [event])) disk.events = events
  have selected : ∀ (state : State) (loaded : Disk), loaded.events = events →
      Ensures (launchSelected env state.isPendingSuccess.isSome state.settleLastLaunch) loaded
        (fun _ after => after.events = events) (fun _ after => after.events = events) := by
    intro state loaded same
    rw [← same]
    exact launchSelected_events env _ _ loaded
  suffices ends : Ensures (launchPatch env) disk (fun _ after => after.events = events)
      (fun _ after => after.events = events) from
    ends.outcome (fun _ (after : Disk) => after.events = events)
  unfold launchEvents at appended
  apply ensures_bind
  apply ensures_bind
  apply ensures_get
  cases file : disk.stateFile with
  | missing =>
      rw [file] at appended
      exact ensures_pure (ensures_bind (ensures_pure (selected State.fresh disk appended)))
  | corrupt parseError =>
      rw [file] at appended
      dsimp only at appended ⊢
      unfold appendRollbackEvent io
      apply ensures_bind
      refine ensures_attempt (fun _ read => ?_) (fun _ read => ?_)
      case refine_2 =>
        rw [read] at appended
        exact appended
      apply ensures_bind
      refine ensures_attempt (fun _ backup => ?_) (fun _ backup => ?_)
      case refine_2 =>
        rw [read, backup] at appended
        exact appended
      apply ensures_bind
      apply ensures_modify
      apply ensures_bind
      apply ensures_bind
      refine ensures_attempt (fun _ append => ?_) (fun _ append => ?_)
      case refine_2 =>
        rw [read, backup, append] at appended
        exact appended
      rw [read, backup, append] at appended
      apply ensures_modify
      exact ensures_pure (ensures_bind (ensures_pure (selected State.fresh _ appended)))
  | saved state =>
      rw [file] at appended
      dsimp only at appended ⊢
      unfold io
      apply ensures_bind
      refine ensures_attempt (fun _ read => ?_) (fun _ read => ?_)
      case refine_2 =>
        rw [read] at appended
        exact appended
      apply ensures_pure
      cases logged : state.migrate.crashRollback env.now with
      | none =>
          have same : disk.events = events := by
            rw [read, logged] at appended
            cases append : env.io .appendEvent with
            | error _ =>
                rw [append] at appended
                exact appended
            | ok _ =>
                rw [append] at appended
                exact appended
          exact selected state.migrate disk same
      | some event =>
          unfold appendRollbackEvent io
          apply ensures_bind
          apply ensures_bind
          refine ensures_attempt (fun _ append => ?_) (fun _ append => ?_)
          case refine_2 =>
            rw [read, append] at appended
            exact appended
          rw [read, append, logged] at appended
          exact ensures_modify (selected state.migrate _ appended)

theorem postEvents_ok {post : Nat → Result Unit} {sent accepted : Nat}
    {events : List CrashRollbackEvent} (posted : postEvents post sent events = (accepted, .ok ())) :
    accepted = sent + events.length := by
  induction events generalizing sent with
  | nil =>
      cases posted
      rfl
  | cons event events ih =>
      unfold postEvents at posted
      split at posted
      · rw [ih posted, List.length_cons]
        omega
      · cases posted

/-- A flush either fails and leaves the file alone, or posts all events and removes it. -/
theorem flushLog_logFile {parse : String → Result CrashRollbackEvent} {events : List CrashRollbackEvent}
    (escapes : ∀ event ∈ events, parse event.line = .ok event) (env : Environment)
    (post : Nat → Result Unit) :
    (∃ sent error, flushLog parse env post (logFile events) = ((sent, .error error), logFile events)) ∨
      flushLog parse env post (logFile events) = ((events.length, .ok ()), none) := by
  cases events with
  | nil => exact .inr rfl
  | cons event events =>
      unfold flushLog
      rw [readLog_logFile escapes, logFile_of_ne_nil (List.cons_ne_nil event events)]
      dsimp only [Option.isNone_some, List.isEmpty_cons]
      rw [if_neg Bool.false_ne_true]
      cases env.io .readEvents with
      | error error => exact .inl ⟨0, error, rfl⟩
      | ok _ =>
          dsimp only
          rw [if_neg Bool.false_ne_true]
          rcases posted : postEvents post 0 (event :: events) with ⟨sent, error | _⟩
          · exact .inl ⟨sent, error, rfl⟩
          · have all := postEvents_ok posted
            cases env.io .clearEvents with
            | error error => exact .inl ⟨sent, error, rfl⟩
            | ok _ =>
                right
                rw [all, Nat.zero_add]

/-!
## Nothing is lost
-/

/-- What holds of the log throughout a run. -/
structure Logged (parse : String → Result CrashRollbackEvent) (state : LogState)
    (history : LogHistory CrashRollbackEvent) : Prop where
  accounted : history.Accounted maxRollbackEvents
  content : state.disk.events = history.content maxRollbackEvents
  file : state.file = logFile state.disk.events
  readable : ∀ event ∈ history.appended, parse event.line = .ok event

namespace Logged

variable {parse : String → Result CrashRollbackEvent} {state : LogState}
  {history : LogHistory CrashRollbackEvent}

theorem start (parse : String → Result CrashRollbackEvent) {disk : Disk} (fresh : disk.events = []) :
    Logged parse ⟨disk, none⟩ .start where
  accounted := .start
  content := fresh
  file := by
    rw [fresh]
    rfl
  readable := fun _ member => absurd member List.not_mem_nil

theorem readable_content (logged : Logged parse state history) :
    ∀ event ∈ state.disk.events, parse event.line = .ok event := by
  intro event member
  rw [logged.content] at member
  exact logged.readable event (List.mem_of_mem_drop (List.mem_of_mem_drop member))

theorem launch (logged : Logged parse state history) (env : Environment)
    (escapes : ∀ event ∈ launchEvents env state.disk, parse event.line = .ok event) :
    Logged parse (logStep parse (.launch env) state).2 (history.append (launchEvents env state.disk)) where
  accounted := logged.accounted.append _
  content := by
    change (launchPatch env state.disk).2.events = _
    rw [launchPatch_events, LogHistory.content_append logged.accounted.within, logged.content]
  file := by
    change List.foldl _ state.file _ = logFile (launchPatch env state.disk).2.events
    rw [launchPatch_events, logged.file, appendLines_logFile]
  readable := by
    intro event member
    rcases List.mem_append.mp member with earlier | now
    · exact logged.readable event earlier
    · exact escapes event now

theorem flush (logged : Logged parse state history) (env : Environment) (post : Nat → Result Unit) :
    Logged parse (logStep parse (.flush env post) state).2
      (trackLog history state (.flush env post) (logStep parse (.flush env post) state).1
        (logStep parse (.flush env post) state).2) := by
  dsimp only [logStep]
  rw [logged.file]
  rcases flushLog_logFile logged.readable_content env post with ⟨sent, error, failed⟩ | all
  · rw [failed]
    dsimp only [trackLog]
    have same : (if (logFile state.disk.events).isNone then [] else state.disk.events) =
        state.disk.events := by
      cases state.disk.events with
      | nil => rfl
      | cons event events => rfl
    rw [same]
    exact { accounted := logged.accounted.hand sent, content := logged.content, file := rfl
            readable := logged.readable }
  · rw [all]
    dsimp only [trackLog]
    rw [logged.content]
    exact { accounted := logged.accounted.clear, content := LogHistory.content_clear.symm, file := rfl
            readable := logged.readable }

end Logged

/-- The report of a state file whose parse error spans two lines. -/
def sampleReset : CrashRollbackEvent where
  eventType := .stateReset
  patchNumber := 0
  bootAttempts := 0
  lastKnownGoodPatchNumber := none
  timestamp := "1"
  reason := some "failed to parse state.json: expected \"x\"\nat line 2"

def sampleParse (line : String) : Result CrashRollbackEvent :=
  if line = sampleReset.line then .ok sampleReset else err "expected value"

end CodePush.Updater
