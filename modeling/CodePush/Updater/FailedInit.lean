import CodePush.Updater.RuntimeProperties

/-!
# Initialisations that fail

`fcb_init` reads seven fields one after another and assigns each at once. When one is
refused, the fields in front of it stay as they were just set. The setters of single fields
assign nothing before the text is accepted.
-/

set_option autoImplicit false

namespace CodePush.Updater

open CodePush.Core CodePush.Foundation

/-!
## Fields
-/

/-- The fields of `FcbInitParams`. -/
inductive InitField where
  | cacheDir | appId | channel | releaseVersion | platform | arch | publicKey
  deriving Repr, DecidableEq

/-- The order in which `fcb_init` reads them. -/
def initOrder : List InitField := [.cacheDir, .appId, .channel, .releaseVersion, .platform, .arch, .publicKey]

def InitField.text (params : InitParams) : InitField → Option Bytes
  | .cacheDir => params.cacheDir
  | .appId => params.appId
  | .channel => params.channel
  | .releaseVersion => params.releaseVersion
  | .platform => params.platform
  | .arch => params.arch
  | .publicKey => params.publicKeyPem

def InitField.parse (lib : Primitives) (field : InitField) (value : String) : Result String :=
  match field with
  | .publicKey => normalizePublicKeyB64 lib value
  | _ => .ok value

def Runtime.field (runtime : Runtime) : InitField → String
  | .cacheDir => runtime.cacheDir
  | .appId => runtime.appId
  | .channel => runtime.channel
  | .releaseVersion => runtime.releaseVersion
  | .platform => runtime.platform
  | .arch => runtime.arch
  | .publicKey => runtime.publicKeyB64

def Runtime.setField (runtime : Runtime) (field : InitField) (value : String) : Runtime :=
  match field with
  | .cacheDir => { runtime with cacheDir := value }
  | .appId => { runtime with appId := value }
  | .channel => { runtime with channel := value }
  | .releaseVersion => { runtime with releaseVersion := value }
  | .platform => { runtime with platform := value }
  | .arch => { runtime with arch := value }
  | .publicKey => { runtime with publicKeyB64 := value }

/-- The value that the field is to get; `none` for a null or empty text. -/
def InitField.value (lib : Primitives) (params : InitParams) (field : InitField) : Result (Option String) :=
  match readCstr (field.text params) with
  | .error error => .error error
  | .ok text => if text.isEmpty then .ok none else (field.parse lib text).map some

/-- One field of an initialisation. -/
def readField (lib : Primitives) (params : InitParams) (runtime : Runtime) (field : InitField) :
    Except Runtime Runtime :=
  match field.value lib params with
  | .error error => .error (runtime.setError error)
  | .ok none => .ok runtime
  | .ok (some value) => .ok (runtime.setField field value)

section Fields

variable {lib : Primitives} {params : InitParams}

theorem Runtime.field_setField (runtime : Runtime) (field other : InitField) (value : String) :
    (runtime.setField field value).field other = if other = field then value else runtime.field other := by
  cases field <;> cases other <;> rfl

theorem Runtime.lastCheck_setField (runtime : Runtime) (field : InitField) (value : String) :
    (runtime.setField field value).lastCheck = runtime.lastCheck := by
  cases field <;> rfl

theorem Runtime.field_setError (runtime : Runtime) (error : Error) (field : InitField) :
    (runtime.setError error).field field = runtime.field field := by
  cases field <;> rfl

theorem Runtime.field_forget (runtime : Runtime) (field : InitField) :
    ({ runtime with lastCheck := none } : Runtime).field field = runtime.field field := by
  cases field <;> rfl

theorem readField_eq (field : InitField) (runtime : Runtime) :
    readField lib params runtime field =
      initField (field.text params) (fun value runtime => (field.parse lib value).map (runtime.setField field))
        runtime := by
  unfold readField initField InitField.value
  cases readCstr (field.text params) with
  | error error => rfl
  | ok text =>
      dsimp only
      by_cases empty : text.isEmpty = true
      · rw [if_pos empty, if_pos empty]
      · rw [if_neg empty, if_neg empty]
        cases field.parse lib text with
        | error error => rfl
        | ok value => rfl

/-- `fcb_init` forgets the last check and reads the fields in order. -/
theorem initRuntime_eq (runtime : Runtime) :
    initRuntime lib params runtime =
      initOrder.foldlM (readField lib params) { runtime with lastCheck := none } := by
  have key : ∀ runtime, readField lib params runtime .publicKey =
      initField params.publicKeyPem (fun value runtime => do
        let key ← normalizePublicKeyB64 lib value
        .ok { runtime with publicKeyB64 := key }) runtime := by
    intro runtime
    rw [readField_eq]
    rfl
  simp only [initOrder, List.foldlM_cons, List.foldlM_nil, key, readField_eq, bind_pure]
  rfl

end Fields

/-!
## What a failure leaves
-/

/-- The configuration of the runtime is the same. -/
structure SameConfiguration (before after : Runtime) : Prop where
  cacheDir : after.cacheDir = before.cacheDir
  appId : after.appId = before.appId
  channel : after.channel = before.channel
  releaseVersion : after.releaseVersion = before.releaseVersion
  platform : after.platform = before.platform
  arch : after.arch = before.arch
  publicKey : after.publicKeyB64 = before.publicKeyB64
  lastCheck : after.lastCheck = before.lastCheck

theorem sameConfiguration_iff {before after : Runtime} :
    SameConfiguration before after ↔
      (∀ field, after.field field = before.field field) ∧ after.lastCheck = before.lastCheck := by
  constructor
  · intro same
    refine ⟨fun field => ?_, same.lastCheck⟩
    cases field with
    | cacheDir => exact same.cacheDir
    | appId => exact same.appId
    | channel => exact same.channel
    | releaseVersion => exact same.releaseVersion
    | platform => exact same.platform
    | arch => exact same.arch
    | publicKey => exact same.publicKey
  · intro same
    obtain ⟨fields, lastCheck⟩ := same
    exact ⟨fields .cacheDir, fields .appId, fields .channel, fields .releaseVersion, fields .platform,
      fields .arch, fields .publicKey, lastCheck⟩

/-- The text of the field is valid. -/
def InitField.Accepted (lib : Primitives) (params : InitParams) (field : InitField) : Prop :=
  ∃ value, field.value lib params = .ok value

/-- The text of the field is null or empty, or says what the runtime has already. -/
def InitField.Idle (lib : Primitives) (params : InitParams) (runtime : Runtime) (field : InitField) : Prop :=
  field.value lib params = .ok none ∨ field.value lib params = .ok (some (runtime.field field))

/-- Nothing was remembered of a check, and nothing new is in front of the first field that is refused. -/
def NothingSetBeforeRefusal (lib : Primitives) (params : InitParams) (runtime : Runtime) : Prop :=
  ∀ front refused back, initOrder = front ++ refused :: back → (∀ field ∈ front, field.Accepted lib params) →
    ¬refused.Accepted lib params →
      runtime.lastCheck = none ∧ ∀ field ∈ front, field.Idle lib params runtime

section Failures

variable {lib : Primitives} {params : InitParams} {runtime : Runtime}

theorem readField_refused (runtime : Runtime) {field : InitField} (refused : ¬field.Accepted lib params) :
    ∃ error, readField lib params runtime field = .error (runtime.setError error) := by
  unfold readField
  cases value : field.value lib params with
  | error error => exact ⟨error, rfl⟩
  | ok value' => exact absurd ⟨value', value⟩ refused

/-- A field that is read changes itself only, and stays the same exactly when it is idle. -/
theorem readField_accepted {field : InitField} (accepted : field.Accepted lib params) :
    ∃ after, readField lib params runtime field = .ok after ∧ after.lastCheck = runtime.lastCheck ∧
      (∀ other, other ≠ field → after.field other = runtime.field other) ∧
      (after.field field = runtime.field field ↔ field.Idle lib params runtime) := by
  unfold readField InitField.Idle
  obtain ⟨value, read⟩ := accepted
  rw [read]
  cases value with
  | none => exact ⟨runtime, rfl, rfl, fun _ _ => rfl, iff_of_true rfl (.inl rfl)⟩
  | some value =>
      refine ⟨_, rfl, runtime.lastCheck_setField field value, fun other apart => ?_, ?_⟩
      · rw [runtime.field_setField, if_neg apart]
      · rw [runtime.field_setField, if_pos rfl]
        constructor
        · intro same
          exact .inr (same ▸ rfl)
        · intro idle
          obtain none | same := idle
          · cases none
          · exact Option.some.inj (Except.ok.inj same)

theorem idle_congr {before : Runtime} {field : InitField} (same : before.field field = runtime.field field) :
    field.Idle lib params before ↔ field.Idle lib params runtime := by
  unfold InitField.Idle
  rw [same]

/-- The fields in front of a refused one. -/
theorem readFields_accepted (runtime : Runtime) {fields : List InitField} (distinct : fields.Nodup)
    (accepted : ∀ field ∈ fields, field.Accepted lib params) :
    ∃ after, fields.foldlM (readField lib params) runtime = .ok after ∧
      after.lastCheck = runtime.lastCheck ∧ (∀ other, other ∉ fields → after.field other = runtime.field other) ∧
      ∀ field ∈ fields, after.field field = runtime.field field ↔ field.Idle lib params runtime := by
  induction fields generalizing runtime with
  | nil => exact ⟨runtime, rfl, rfl, fun _ _ => rfl, fun _ member => nomatch member⟩
  | cons field fields ih =>
      obtain ⟨absent, distinct⟩ := List.nodup_cons.mp distinct
      obtain ⟨middle, read, check, others, own⟩ := readField_accepted (accepted field List.mem_cons_self)
      obtain ⟨after, rest, check', others', own'⟩ :=
        ih middle distinct fun other member => accepted other (List.mem_cons_of_mem _ member)
      refine ⟨after, ?_, check'.trans check, fun other outside => ?_, fun other member => ?_⟩
      · rw [List.foldlM_cons, read]
        exact rest
      · have apart : other ≠ field := fun same => outside (same ▸ List.mem_cons_self)
        rw [others' other fun member => outside (List.mem_cons_of_mem _ member), others other apart]
      · obtain rfl | member := List.mem_cons.mp member
        · rw [others' other absent]
          exact own
        · have apart : other ≠ field := fun same => absent (same ▸ member)
          rw [← others other apart, own' other member, idle_congr (others other apart)]

theorem all_or_first_refused (lib : Primitives) (params : InitParams) (fields : List InitField) :
    (∀ field ∈ fields, field.Accepted lib params) ∨
      ∃ front refused back, fields = front ++ refused :: back ∧
        (∀ field ∈ front, field.Accepted lib params) ∧ ¬refused.Accepted lib params := by
  induction fields with
  | nil => exact .inl fun _ member => nomatch member
  | cons field fields ih =>
      by_cases accepted : field.Accepted lib params
      case neg => exact .inr ⟨[], field, fields, rfl, (fun _ member => nomatch member), accepted⟩
      obtain all | ⟨front, refused, back, split, before, here⟩ := ih
      · refine .inl fun other member => ?_
        obtain rfl | member := List.mem_cons.mp member
        · exact accepted
        · exact all other member
      · refine .inr ⟨field :: front, refused, back, by rw [split]; rfl, fun other member => ?_, here⟩
        obtain rfl | member := List.mem_cons.mp member
        · exact accepted
        · exact before other member

/-- With every text valid the call succeeds. -/
theorem fcbInit_accepted {session : Session} {device : Device}
    (accepted : ∀ field ∈ initOrder, field.Accepted lib params) :
    (fcbInit lib session params device).1 = 0 := by
  obtain ⟨after, read, _⟩ :=
    readFields_accepted { device.runtime with lastCheck := none } (by decide) accepted
  unfold fcbInit
  rw [initRuntime_eq, read]

/-- A refused text: the call fails, and the configuration is the same exactly when nothing was set. -/
theorem fcbInit_refused (session : Session) (device : Device) {front back : List InitField}
    {refused : InitField} (split : initOrder = front ++ refused :: back)
    (accepted : ∀ field ∈ front, field.Accepted lib params) (here : ¬refused.Accepted lib params) :
    (fcbInit lib session params device).1 = -1 ∧
      (SameConfiguration device.runtime (fcbInit lib session params device).2.runtime ↔
        device.runtime.lastCheck = none ∧ ∀ field ∈ front, field.Idle lib params device.runtime) := by
  have distinct : front.Nodup := by
    have all : initOrder.Nodup := by decide
    rw [split] at all
    exact (List.nodup_append.mp all).1
  obtain ⟨after, read, check, others, own⟩ :=
    readFields_accepted { device.runtime with lastCheck := none } distinct accepted
  obtain ⟨error, failed⟩ := readField_refused after here
  have whole : initRuntime lib params device.runtime = .error (after.setError error) := by
    rw [initRuntime_eq, split, List.foldlM_append, read]
    change List.foldlM (readField lib params) after (refused :: back) = _
    rw [List.foldlM_cons, failed]
    rfl
  unfold fcbInit
  rw [whole]
  refine ⟨rfl, ?_⟩
  rw [sameConfiguration_iff]
  constructor
  · intro same
    obtain ⟨fields, lastCheck⟩ := same
    refine ⟨lastCheck.symm.trans check, fun field member => ?_⟩
    have here := (own field member).mp (by
      rw [← after.field_setError error, fields, device.runtime.field_forget])
    exact (idle_congr (device.runtime.field_forget field)).mp here
  · intro idle
    obtain ⟨lastCheck, idle⟩ := idle
    refine ⟨fun field => ?_, check.trans lastCheck.symm⟩
    have same : after.field field = device.runtime.field field := by
      rw [← device.runtime.field_forget]
      by_cases member : field ∈ front
      · exact (own field member).mpr ((idle_congr (device.runtime.field_forget field)).mpr (idle field member))
      · exact others field member
    rw [← same]
    exact after.field_setError error field

end Failures

/-- A setter that refuses its text changes nothing. -/
theorem fcbSet_failed {persists : Bool} {text : Option Bytes} {set : String → Runtime → Result Runtime}
    {device : Device} (failed : (fcbSet persists text set device).1 ≠ 0) :
    SameConfiguration device.runtime (fcbSet persists text set device).2.runtime := by
  unfold fcbSet at failed ⊢
  cases read : readCstr text with
  | error error => exact ⟨rfl, rfl, rfl, rfl, rfl, rfl, rfl, rfl⟩
  | ok value =>
      rw [read] at failed
      dsimp only at failed ⊢
      cases assigned : set value device.runtime with
      | error error => exact ⟨rfl, rfl, rfl, rfl, rfl, rfl, rfl, rfl⟩
      | ok runtime =>
          rw [assigned] at failed
          exact absurd rfl failed

theorem failed_init_unchanged_iff (lib : Primitives) (session : Session) (params : InitParams) (device : Device) :
    ((fcbInit lib session params device).1 ≠ 0 →
        SameConfiguration device.runtime (fcbInit lib session params device).2.runtime) ↔
      NothingSetBeforeRefusal lib params device.runtime := by
  constructor
  · intro unchanged front refused back split accepted here
    obtain ⟨failed, same⟩ := fcbInit_refused session device split accepted here
    exact same.mp (unchanged (by rw [failed]; decide))
  · intro nothing failed
    obtain all | ⟨front, refused, back, split, accepted, here⟩ :=
      all_or_first_refused lib params initOrder
    · exact absurd (fcbInit_accepted all) failed
    · exact (fcbInit_refused session device split accepted here).2.mpr (nothing front refused back split accepted here)

/-- Another app, on a channel that is not UTF-8. -/
def mixedParams : InitParams where
  appId := some (stringBytes "shop")
  channel := some [0xff]
  releaseVersion := none
  platform := none
  arch := none
  cacheDir := none
  publicKeyPem := none

def counterDevice : Device := { Device.new with runtime := { Runtime.new with appId := "counter" } }

theorem mixed_identity_left :
    (fcbInit sampleLib sampleSession mixedParams counterDevice).1 = -1 ∧
      (fcbInit sampleLib sampleSession mixedParams counterDevice).2.runtime.appId = "shop" ∧
      ¬SameConfiguration counterDevice.runtime
        (fcbInit sampleLib sampleSession mixedParams counterDevice).2.runtime := by
  have left : (fcbInit sampleLib sampleSession mixedParams counterDevice).1 = -1 ∧
      (fcbInit sampleLib sampleSession mixedParams counterDevice).2.runtime.appId = "shop" := by
    decide +kernel
  refine ⟨left.1, left.2, fun same => ?_⟩
  have other : "shop" = "counter" := left.2.symm.trans same.appId
  exact absurd other (by decide)

end CodePush.Updater
