import CodePush.Core.Canonical
import CodePush.Core.Digests
import CodePush.Foundation.FirstCome

/-!
# Pinned keys

`ensure_pinned_public_key` of `cli/src/main.rs`. A pin is a file that is named after the
server and the app, both escaped; two apps whose escaped names are the same share a pin.
-/

set_option autoImplicit false

namespace CodePush.Cli

open CodePush.Core CodePush.Foundation

/-- The characters that `safe_filename` keeps. -/
def isFilenameChar (char : Char) : Bool :=
  char.isAlphanum || char == '-' || char == '_' || char == '.'

def safeFilename (value : String) : String :=
  String.ofList (value.toList.map fun char => if isFilenameChar char then char else '_')

/-- The server and the app that a key is pinned for. -/
structure PinScope where
  server : String
  appId : String
  deriving Repr, DecidableEq

def PinScope.filename (scope : PinScope) : String :=
  s!"{safeFilename scope.server}__{safeFilename scope.appId}.sha256"

/-- The content of the files in `trusted_keys`. -/
abbrev Pins := String → Option String

/-- What the file system answers to one call: `seen` is whether `exists` finds a file that is
there, which an error on the way to it prevents. -/
structure PinIo where
  createDir : Result Unit
  seen : Bool
  read : Result Unit
  write : FileWrite
  deriving DecidableEq

structure PinIo.Works (io : PinIo) : Prop where
  createDir : io.createDir = .ok ()
  seen : io.seen = true
  read : io.read = .ok ()
  write : io.write = .done

def PinIo.working : PinIo where
  createDir := .ok ()
  seen := true
  read := .ok ()
  write := .done

theorem PinIo.working_works : PinIo.working.Works := ⟨rfl, rfl, rfl, rfl⟩

/-- A server and an app with what the file system answers for them. -/
structure PinUse where
  scope : PinScope
  io : PinIo
  deriving DecidableEq

structure PinCall extends PinUse where
  publicKey : String
  deriving DecidableEq

/-- A pin that is asked for when the file system works. -/
def PinScope.call (scope : PinScope) (publicKey : String) : PinCall where
  scope
  io := PinIo.working
  publicKey

def Pins.put (pins : Pins) (filename content : String) : Pins :=
  fun name => if name = filename then some content else pins name

def writePin (write : FileWrite) (filename line : String) (pins : Pins) : Result Unit × Pins :=
  match write with
  | .done => (.ok (), pins.put filename line)
  | .refused error => (.error error, pins)
  | .cut kept error => (.error error, pins.put filename (String.ofList (line.toList.take kept)))

def ensurePinnedPublicKey (lib : Primitives) (call : PinCall) (pins : Pins) : Result Unit × Pins :=
  match call.io.createDir with
  | .error error => (.error error, pins)
  | .ok () =>
      let fingerprint := lib.sha256Hex (stringBytes call.publicKey)
      match if call.io.seen then pins call.scope.filename else none with
      | some pinned =>
          match call.io.read with
          | .error error => (.error error, pins)
          | .ok () =>
              if trim pinned ≠ fingerprint then
                (err s!"public key fingerprint mismatch for app {call.scope.appId}; refusing to install", pins)
              else (.ok (), pins)
      | none => writePin call.io.write call.scope.filename s!"{fingerprint}\n" pins

/-- The pins after calls on a new cache directory. -/
def pinsAfter (lib : Primitives) (calls : List PinCall) : Pins :=
  runFrom (ensurePinnedPublicKey lib) (fun _ => none) calls

/-- What a call returns after others. -/
def pinResult (lib : Primitives) (calls : List PinCall) (call : PinCall) : Result Unit :=
  (ensurePinnedPublicKey lib call (pinsAfter lib calls)).1

/-- In every sequence of calls like these, a call fails if and only if an earlier one for its
scope succeeded with another key, and calls for other scopes make no difference. -/
structure PinsApart (lib : Primitives) (uses : Set PinUse) : Prop where
  fails_iff : ∀ (calls : List PinCall) (call : PinCall), (∀ other ∈ calls, other.toPinUse ∈ uses) →
    call.toPinUse ∈ uses →
      (pinResult lib calls call ≠ .ok () ↔
        ∃ front earlier back, calls = front ++ earlier :: back ∧ earlier.scope = call.scope ∧
          pinResult lib front earlier = .ok () ∧ earlier.publicKey ≠ call.publicKey)
  independent : ∀ (calls : List PinCall) (call : PinCall), (∀ other ∈ calls, other.toPinUse ∈ uses) →
    call.toPinUse ∈ uses →
      pinResult lib calls call = pinResult lib (calls.filter (·.scope = call.scope)) call

/-!
## Pins as a board
-/

section Board

variable {lib : Primitives}

/-- A call claims the name of its pin for its key's fingerprint. -/
def PinCall.claim (lib : Primitives) (call : PinCall) : FirstCome.Claim String String :=
  (call.scope.filename, lib.sha256Hex (stringBytes call.publicKey))

/-- The fingerprints in the files. -/
def board (pins : Pins) : String → Option String := fun name => (pins name).map trim

theorem fingerprint_dense (bytes : Bytes) :
    ∀ char ∈ (lib.sha256Hex bytes).toList, isWhiteSpace char = false :=
  hexBytes_dense (lib.sha256 bytes)

/-- The line that is written reads back as the fingerprint. -/
theorem trim_fingerprint (bytes : Bytes) : trim s!"{lib.sha256Hex bytes}\n" = lib.sha256Hex bytes := by
  have line : s!"{lib.sha256Hex bytes}\n" = String.ofList ((lib.sha256Hex bytes).toList ++ ['\n']) := by
    rw [← String.toList_inj, String.toList_append, String.toList_ofList]
    rfl
  rw [line, trim_blank_right (forall_mem_of_all (by decide)), String.ofList_toList, trim_of_dense (fingerprint_dense bytes)]

/-- A call that the file system lets work claims its pin. -/
theorem ensurePinnedPublicKey_claim {call : PinCall} (works : call.io.Works) (pins : Pins) :
    ((ensurePinnedPublicKey lib call pins).1 = .ok () ↔
        (FirstCome.claim (call.claim lib) (board pins)).1 = true) ∧
      board (ensurePinnedPublicKey lib call pins).2 = (FirstCome.claim (call.claim lib) (board pins)).2 := by
  unfold ensurePinnedPublicKey FirstCome.claim PinCall.claim board
  rw [works.createDir, works.seen, if_pos rfl]
  dsimp only
  cases found : pins call.scope.filename with
  | some pinned =>
      rw [works.read]
      by_cases same : trim pinned = lib.sha256Hex (stringBytes call.publicKey)
      · simp [same]
      · simp [same, err]
  | none =>
      rw [works.write]
      refine ⟨iff_of_true rfl rfl, ?_⟩
      funext name
      simp only [writePin, Pins.put, Option.map_none]
      by_cases here : name = call.scope.filename
      · rw [if_pos here, if_pos here, Option.map_some, trim_fingerprint]
      · rw [if_neg here, if_neg here]

section Working

variable {calls : List PinCall} {call : PinCall}

theorem board_pinsAfter (works : ∀ call ∈ calls, call.io.Works) :
    board (pinsAfter lib calls) = FirstCome.boardAfter (calls.map (PinCall.claim lib)) := by
  induction calls using List.reverseRecOn with
  | nil => rfl
  | append_singleton calls call ih =>
      have front : ∀ call ∈ calls, call.io.Works := fun other member => works other (List.mem_append_left _ member)
      have last : call.io.Works := works call (List.mem_append_right _ List.mem_cons_self)
      rw [List.map_append, List.map_singleton, FirstCome.boardAfter_concat, ← ih front,
        ← (ensurePinnedPublicKey_claim last _).2]
      unfold pinsAfter
      rw [runFrom_append]
      rfl

theorem pinResult_ok_iff (works : ∀ call ∈ calls, call.io.Works) (last : call.io.Works) :
    pinResult lib calls call = .ok () ↔
      FirstCome.acceptedAfter (calls.map (PinCall.claim lib)) (call.claim lib) = true := by
  unfold pinResult FirstCome.acceptedAfter
  rw [(ensurePinnedPublicKey_claim last _).1, board_pinsAfter works]

/-- A call that fails says for which app. -/
theorem pinResult_eq (calls : List PinCall) (last : call.io.Works) :
    pinResult lib calls call = .ok () ∨ pinResult lib calls call =
      err s!"public key fingerprint mismatch for app {call.scope.appId}; refusing to install" := by
  unfold pinResult ensurePinnedPublicKey
  rw [last.createDir, last.read, last.write]
  dsimp only
  split
  · split
    · exact .inr rfl
    · exact .inl rfl
  · exact .inl rfl

theorem claim_value_iff (collisionFree : Function.Injective lib.sha256) {one other : PinCall} :
    (one.claim lib).2 = (other.claim lib).2 ↔ one.publicKey = other.publicKey := by
  unfold PinCall.claim
  rw [sha256Hex_eq_iff, collisionFree.eq_iff]
  constructor
  · exact stringBytes_injective
  · intro same
    rw [same]

/-- A call fails exactly when an earlier one under the same file name succeeded with another key. -/
theorem pinResult_fails_iff (collisionFree : Function.Injective lib.sha256)
    (works : ∀ call ∈ calls, call.io.Works) (last : call.io.Works) :
    pinResult lib calls call ≠ .ok () ↔
      ∃ front earlier back, calls = front ++ earlier :: back ∧
        earlier.scope.filename = call.scope.filename ∧ pinResult lib front earlier = .ok () ∧
        earlier.publicKey ≠ call.publicKey := by
  have before : ∀ {front earlier back}, calls = front ++ earlier :: back →
      (∀ call ∈ front, call.io.Works) ∧ earlier.io.Works := by
    intro front earlier back split
    subst split
    exact ⟨fun other member => works other (List.mem_append_left _ member),
      works earlier (List.mem_append_right _ List.mem_cons_self)⟩
  rw [Ne, pinResult_ok_iff works last, Bool.not_eq_true, FirstCome.refused_iff]
  constructor
  · intro refused
    obtain ⟨claims, claim, later, split, same, accepted, other⟩ := refused
    obtain ⟨front, rest, listed, rfl, tail⟩ := List.map_eq_append_iff.mp split
    obtain ⟨earlier, back, rfl, rfl, rfl⟩ := List.map_eq_cons_iff.mp tail
    obtain ⟨front', earlier'⟩ := before listed
    exact ⟨front, earlier, back, listed, same, (pinResult_ok_iff front' earlier').mpr accepted,
      fun key => other ((claim_value_iff collisionFree).mpr key)⟩
  · intro failed
    obtain ⟨front, earlier, back, listed, same, succeeded, other⟩ := failed
    obtain ⟨front', earlier'⟩ := before listed
    refine ⟨front.map (PinCall.claim lib), earlier.claim lib, back.map (PinCall.claim lib), ?_, same,
      (pinResult_ok_iff front' earlier').mp succeeded,
      fun key => other ((claim_value_iff collisionFree).mp key)⟩
    rw [listed, List.map_append, List.map_cons]

/-- Calls under other file names make no difference. -/
theorem pinResult_filter (works : ∀ call ∈ calls, call.io.Works) (last : call.io.Works) :
    pinResult lib (calls.filter (·.scope.filename = call.scope.filename)) call = pinResult lib calls call := by
  have kept : ∀ other ∈ calls.filter (·.scope.filename = call.scope.filename), other.io.Works :=
    fun other member => works other (List.mem_of_mem_filter member)
  have accepted : pinResult lib (calls.filter (·.scope.filename = call.scope.filename)) call = .ok () ↔
      pinResult lib calls call = .ok () := by
    have mapped : (calls.filter (·.scope.filename = call.scope.filename)).map (PinCall.claim lib) =
        (calls.map (PinCall.claim lib)).filter (·.1 = (call.claim lib).1) := by
      rw [List.filter_map]
      rfl
    rw [pinResult_ok_iff kept last, pinResult_ok_iff works last, mapped, FirstCome.accepted_filter]
  obtain ok | failed := pinResult_eq calls last
  · rw [ok]
    exact accepted.mpr ok
  · obtain ok' | failed' := pinResult_eq (calls.filter (·.scope.filename = call.scope.filename)) last
    · rw [ok', accepted.mp ok']
    · rw [failed, failed']

end Working

end Board

/-!
## The file system
-/

section Needs

variable {lib : Primitives} {uses : Set PinUse} {use : PinUse}

/-- With no pin there, a call needs the directory and the write. -/
theorem first_needs {publicKey : String} (succeeds : pinResult lib [] ⟨use, publicKey⟩ = .ok ()) :
    use.io.createDir = .ok () ∧ use.io.write = .done := by
  unfold pinResult ensurePinnedPublicKey at succeeds
  cases created : use.io.createDir with
  | error error =>
      rw [created] at succeeds
      cases succeeds
  | ok made =>
      rw [created] at succeeds
      have absent : (if use.io.seen then pinsAfter lib [] use.scope.filename else none) = none := ite_self none
      rw [absent] at succeeds
      cases written : use.io.write with
      | done => exact ⟨rfl, rfl⟩
      | refused error =>
          rw [written] at succeeds
          cases succeeds
      | cut kept error =>
          rw [written] at succeeds
          cases succeeds

/-- The pin that a first call leaves. -/
theorem pinsAfter_first (publicKey : String) (created : use.io.createDir = .ok ()) (written : use.io.write = .done) :
    pinsAfter lib [⟨use, publicKey⟩] =
      Pins.put (fun _ => none) use.scope.filename s!"{lib.sha256Hex (stringBytes publicKey)}\n" := by
  have absent : (if use.io.seen then (none : Option String) else none) = none := ite_self none
  unfold pinsAfter runFrom runFrom ensurePinnedPublicKey
  rw [created]
  dsimp only
  rw [absent, written]
  rfl

/-- A call with another key is refused only if the pin that is there is found. -/
theorem refusal_needs_seen {publicKey other : String} (created : use.io.createDir = .ok ())
    (written : use.io.write = .done) (refused : pinResult lib [⟨use, publicKey⟩] ⟨use, other⟩ ≠ .ok ()) :
    use.io.seen = true := by
  cases seen : use.io.seen with
  | true => rfl
  | false =>
      refine absurd ?_ refused
      unfold pinResult ensurePinnedPublicKey
      rw [created, seen, if_neg Bool.false_ne_true, written]
      rfl

/-- The same call succeeds again only if the pin can be read. -/
theorem repetition_needs_read {publicKey : String} (created : use.io.createDir = .ok ())
    (written : use.io.write = .done) (seen : use.io.seen = true)
    (succeeds : pinResult lib [⟨use, publicKey⟩] ⟨use, publicKey⟩ = .ok ()) : use.io.read = .ok () := by
  unfold pinResult at succeeds
  rw [pinsAfter_first publicKey created written] at succeeds
  unfold ensurePinnedPublicKey Pins.put at succeeds
  rw [created, seen, if_pos rfl, if_pos rfl] at succeeds
  cases read : use.io.read with
  | ok => rfl
  | error error =>
      rw [read] at succeeds
      cases succeeds

/-- Pins are apart only where the file system works. -/
theorem PinsApart.works (apart : PinsApart lib uses) (member : use ∈ uses) : use.io.Works := by
  have single : ∀ {publicKey : String}, ∀ call ∈ [PinCall.mk use publicKey], call.toPinUse ∈ uses := by
    intro publicKey call here
    rw [List.mem_singleton.mp here]
    exact member
  have first : pinResult lib [] ⟨use, "a"⟩ = .ok () := by
    by_contra failed
    obtain ⟨front, earlier, back, split, _⟩ := (apart.fails_iff [] ⟨use, "a"⟩ (List.forall_mem_nil _) member).mp failed
    cases front with
    | nil => cases split
    | cons => cases split
  obtain ⟨created, written⟩ := first_needs first
  have again : pinResult lib [⟨use, "a"⟩] ⟨use, "a"⟩ = .ok () := by
    by_contra failed
    obtain ⟨front, earlier, back, split, _, _, other⟩ := (apart.fails_iff _ ⟨use, "a"⟩ single member).mp failed
    have only : earlier ∈ [PinCall.mk use "a"] := by
      rw [split]
      exact List.mem_append_right _ List.mem_cons_self
    rw [List.mem_singleton.mp only] at other
    exact other rfl
  have refused : pinResult lib [⟨use, "a"⟩] ⟨use, "b"⟩ ≠ .ok () :=
    (apart.fails_iff _ ⟨use, "b"⟩ single member).mpr
      ⟨[], ⟨use, "a"⟩, [], rfl, rfl, first, show "a" ≠ "b" by decide⟩
  have seen := refusal_needs_seen created written refused
  exact ⟨created, seen, repetition_needs_read created written seen again, written⟩

end Needs

theorem pins_apart_iff (lib : Primitives) (collisionFree : Function.Injective lib.sha256)
    (uses : Set PinUse) :
    PinsApart lib uses ↔
      (∀ use ∈ uses, use.io.Works) ∧ Set.InjOn PinScope.filename (PinUse.scope '' uses) := by
  constructor
  · intro apart
    refine ⟨fun use member => apart.works member, ?_⟩
    rintro _ ⟨one, member, rfl⟩ _ ⟨other, member', rfl⟩ same
    by_contra different
    have only : ∀ call ∈ [PinCall.mk one "a"], call.toPinUse ∈ uses ∧ call.scope = one.scope := by
      intro call here
      rw [List.mem_singleton.mp here]
      exact ⟨member, rfl⟩
    have failed : pinResult lib [⟨one, "a"⟩] ⟨other, "b"⟩ ≠ .ok () := by
      rw [pinResult_fails_iff collisionFree (fun call here => apart.works (only call here).1) (apart.works member')]
      refine ⟨[], ⟨one, "a"⟩, [], rfl, same, ?_, show "a" ≠ "b" by decide⟩
      exact (pinResult_ok_iff (List.forall_mem_nil _) (apart.works member)).mpr rfl
    obtain ⟨front, earlier, back, split, scope, _⟩ :=
      (apart.fails_iff _ ⟨other, "b"⟩ (fun call here => (only call here).1) member').mp failed
    have first : earlier ∈ [PinCall.mk one "a"] := by
      rw [split]
      exact List.mem_append_right _ List.mem_cons_self
    rw [(only earlier first).2] at scope
    exact different scope
  · intro condition
    obtain ⟨works, distinct⟩ := condition
    have scope_of : ∀ {one other : PinCall}, one.toPinUse ∈ uses → other.toPinUse ∈ uses →
        one.scope.filename = other.scope.filename → one.scope = other.scope := by
      intro one other member member' same
      exact distinct (Set.mem_image_of_mem _ member) (Set.mem_image_of_mem _ member') same
    constructor
    · intro calls call inside member
      rw [pinResult_fails_iff collisionFree (fun other here => works _ (inside other here)) (works _ member)]
      constructor
      · intro failed
        obtain ⟨front, earlier, back, split, same, rest⟩ := failed
        have here : earlier.toPinUse ∈ uses := inside earlier (by
          rw [split]
          exact List.mem_append_right _ List.mem_cons_self)
        exact ⟨front, earlier, back, split, scope_of here member same, rest⟩
      · intro failed
        obtain ⟨front, earlier, back, split, same, rest⟩ := failed
        exact ⟨front, earlier, back, split, by rw [same], rest⟩
    · intro calls call inside member
      rw [← pinResult_filter (fun other here => works _ (inside other here)) (works _ member)]
      congr 1
      apply List.filter_congr
      intro other here
      rw [decide_eq_decide]
      constructor
      · intro same
        exact scope_of (inside other here) member same
      · intro same
        rw [same]

/-- The SHA-256 of the keys `first` and `second`. -/
def firstDigest : Bytes :=
  [167, 147, 123, 100, 184, 202, 165, 143, 3, 114, 27, 182, 186, 207, 92, 120, 203, 35, 95, 235,
    224, 231, 11, 27, 132, 205, 153, 84, 20, 97, 160, 142]

def secondDigest : Bytes :=
  [22, 54, 122, 172, 182, 122, 74, 1, 124, 141, 168, 171, 149, 104, 44, 203, 57, 8, 99, 120, 15,
    113, 20, 221, 160, 160, 224, 197, 86, 68, 199, 196]

def pinLib : Primitives :=
  { Primitives.refusing with
    sha256 := fun bytes =>
      if bytes = stringBytes "first" then firstDigest
      else if bytes = stringBytes "second" then secondDigest
      else 0 :: bytes }

theorem pinLib_collisionFree : Function.Injective pinLib.sha256 := by
  have known : ∀ bytes, (bytes = stringBytes "first" ∧ pinLib.sha256 bytes = firstDigest) ∨
      (bytes = stringBytes "second" ∧ pinLib.sha256 bytes = secondDigest) ∨
      pinLib.sha256 bytes = 0 :: bytes := by
    intro bytes
    simp only [pinLib]
    split
    case isTrue first => exact .inl ⟨first, rfl⟩
    case isFalse =>
      split
      case isTrue second => exact .inr (.inl ⟨second, rfl⟩)
      case isFalse => exact .inr (.inr rfl)
  have apart : firstDigest ≠ secondDigest := by decide
  intro one other same
  obtain ⟨first, digest⟩ | ⟨second, digest⟩ | digest := known one
  · obtain ⟨first', digest'⟩ | ⟨second', digest'⟩ | digest' := known other
    · rw [first, first']
    · exact absurd (digest.symm.trans (same.trans digest')) apart
    · cases digest.symm.trans (same.trans digest')
  · obtain ⟨first', digest'⟩ | ⟨second', digest'⟩ | digest' := known other
    · exact absurd (digest.symm.trans (same.trans digest')) apart.symm
    · rw [second, second']
    · cases digest.symm.trans (same.trans digest')
  · obtain ⟨first', digest'⟩ | ⟨second', digest'⟩ | digest' := known other
    · cases digest.symm.trans (same.trans digest')
    · cases digest.symm.trans (same.trans digest')
    · exact (List.cons.inj (digest.symm.trans (same.trans digest'))).2

def PinScope.use (scope : PinScope) : PinUse where
  scope
  io := PinIo.working

def counterScope : PinScope := ⟨"https://codepush.example.com", "counter"⟩
def shopScope : PinScope := ⟨"https://codepush.example.com", "shop"⟩

theorem two_apps_pinned_apart : PinsApart pinLib {counterScope.use, shopScope.use} := by
  apply (pins_apart_iff pinLib pinLib_collisionFree _).mpr
  have apart : counterScope.filename ≠ shopScope.filename := by decide
  constructor
  · intro use member
    obtain rfl | rfl := member
    · exact PinIo.working_works
    · exact PinIo.working_works
  · rintro _ ⟨one, member, rfl⟩ _ ⟨other, member', rfl⟩ same
    obtain rfl | rfl := member
    · obtain rfl | rfl := member'
      · rfl
      · exact absurd same apart
    · obtain rfl | rfl := member'
      · exact absurd same.symm apart
      · rfl

def slashScope : PinScope := ⟨"https://codepush.example.com", "team/app"⟩
def underscoreScope : PinScope := ⟨"https://codepush.example.com", "team_app"⟩

/-- The first key of one app is pinned for the other. -/
theorem escaped_app_shares_pin :
    pinResult pinLib [] (underscoreScope.call "second") = .ok () ∧
      pinResult pinLib [slashScope.call "first"] (underscoreScope.call "second") =
        err "public key fingerprint mismatch for app team_app; refusing to install" ∧
      ¬PinsApart pinLib {slashScope.use, underscoreScope.use} := by
  have refused : pinResult pinLib [slashScope.call "first"] (underscoreScope.call "second") =
      err "public key fingerprint mismatch for app team_app; refusing to install" := by
    decide
  refine ⟨rfl, refused, fun apart => ?_⟩
  have inside : ∀ other ∈ [slashScope.call "first"],
      other.toPinUse ∈ ({slashScope.use, underscoreScope.use} : Set PinUse) := by
    intro other here
    rw [List.mem_singleton.mp here]
    exact .inl rfl
  have alone := apart.independent [slashScope.call "first"] (underscoreScope.call "second") inside (.inr rfl)
  rw [refused] at alone
  cases alone

end CodePush.Cli
