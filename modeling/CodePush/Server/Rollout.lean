import CodePush.Server.CheckHistory
import CodePush.Server.PromotionConcurrency

/-!
# Rollouts

Raising the rollout of a patch takes no offer from a device, and none that is newer.
-/

set_option autoImplicit false

namespace CodePush.Server

open CodePush.Core CodePush.Foundation Action

/-!
## The offered row
-/

section Selection

variable {db : Database} {query : CheckQuery} {current : Int64}

/-- A row that stands above the current patch of the device. -/
def Database.Newer (db : Database) (query : CheckQuery) (current number : Int64) (row : PatchRow) : Prop :=
  db.patches.lookup (query.key number) = some row ∧ row.active = true ∧ current < number

/-- The device may have the patch of the row. -/
def Fits (query : CheckQuery) (row : PatchRow) (patch : PatchManifest) : Prop :=
  decodedRow row = some patch ∧ matchesQuery query patch = true

/-- The device may not have the patch of the row. -/
def Passed (query : CheckQuery) (row : PatchRow) : Prop :=
  ∃ patch, decodedRow row = some patch ∧ matchesQuery query patch = false

theorem firstEligible_eq_some {rows : List PatchRow} {patch : PatchManifest} :
    (firstEligible query rows db).1 = .ok (some patch) ↔
      ∃ front row back, rows = front ++ row :: back ∧ Fits query row patch ∧
        ∀ other ∈ front, Passed query other := by
  induction rows with
  | nil =>
      constructor
      · intro ended
        cases ended
      · rintro ⟨front, row, back, same, _⟩
        cases front <;> cases same
  | cons row rows ih =>
      unfold firstEligible
      rw [run_bind]
      unfold stored Action.attempt
      cases read : PatchManifest.zero.unmarshal row.manifestJson with
      | error text =>
          have unread : ∀ patch, decodedRow row ≠ some patch := by
            intro patch decoded
            rw [decodedRow_eq_some, read] at decoded
            cases decoded
          constructor
          · intro ended
            cases ended
          · rintro ⟨front, other, back, same, fits, before⟩
            cases front with
            | nil =>
                obtain ⟨rfl, rfl⟩ := List.cons.inj same
                exact absurd fits.1 (unread patch)
            | cons first front =>
                obtain ⟨rfl, rfl⟩ := List.cons.inj same
                obtain ⟨passed, decoded, _⟩ := before row List.mem_cons_self
                exact absurd decoded (unread passed)
      | ok first =>
          have decoded : decodedRow row = some first := decodedRow_eq_some.mpr read
          dsimp only
          cases taken : matchesQuery query first with
          | true =>
              rw [if_pos (of_decide_eq_true taken)]
              constructor
              · intro ended
                cases ended
                exact ⟨[], row, rows, rfl, ⟨decoded, taken⟩, fun _ member => by cases member⟩
              · rintro ⟨front, other, back, same, fits, before⟩
                cases front with
                | nil =>
                    obtain ⟨rfl, rfl⟩ := List.cons.inj same
                    cases decoded.symm.trans fits.1
                    rfl
                | cons _ front =>
                    obtain ⟨rfl, rfl⟩ := List.cons.inj same
                    obtain ⟨passed, decoded', untaken⟩ := before row List.mem_cons_self
                    cases decoded.symm.trans decoded'
                    rw [taken] at untaken
                    cases untaken
          | false =>
              rw [if_neg (of_decide_eq_false taken), ih]
              constructor
              · rintro ⟨front, other, back, rfl, fits, before⟩
                refine ⟨row :: front, other, back, rfl, fits, ?_⟩
                intro passed member
                cases member with
                | head => exact ⟨first, decoded, taken⟩
                | tail _ member => exact before passed member
              · rintro ⟨front, other, back, same, fits, before⟩
                cases front with
                | nil =>
                    obtain ⟨rfl, rfl⟩ := List.cons.inj same
                    cases decoded.symm.trans fits.1
                    cases taken.symm.trans fits.2
                | cons _ front =>
                    obtain ⟨rfl, rfl⟩ := List.cons.inj same
                    exact ⟨front, other, back, rfl, fits, fun passed member =>
                      before passed (List.mem_cons_of_mem _ member)⟩

/-- The rows that are read, with their keys and in their order. -/
def Database.newerEntries (db : Database) (query : CheckQuery) (current : Int64) :
    List ((_ : PatchKey) × PatchRow) :=
  (db.patches.entries.filter fun entry =>
    decide (entry.1 = query.key entry.1.patchNumber ∧ entry.2.active ∧ current < entry.1.patchNumber)).insertionSort
      fun left right => right.1.patchNumber ≤ left.1.patchNumber

theorem mem_newerEntries {entry : (_ : PatchKey) × PatchRow} :
    entry ∈ db.newerEntries query current ↔
      entry.1 = query.key entry.1.patchNumber ∧ db.Newer query current entry.1.patchNumber entry.2 := by
  obtain ⟨key, row⟩ := entry
  simp only [Database.newerEntries, List.mem_insertionSort, List.mem_filter, decide_eq_true_eq]
  constructor
  · rintro ⟨listed, own, active, newer⟩
    refine ⟨own, ?_, active, newer⟩
    rw [← own]
    exact AList.mem_lookup_iff.mpr listed
  · rintro ⟨own, found, active, newer⟩
    refine ⟨AList.mem_lookup_iff.mp ?_, own, active, newer⟩
    rw [own]
    exact found

/-- One number has one row, so the rows that are read go strictly down. -/
theorem newerEntries_strict :
    (db.newerEntries query current).Pairwise fun one other => other.1.patchNumber < one.1.patchNumber := by
  let before : ((_ : PatchKey) × PatchRow) → ((_ : PatchKey) × PatchRow) → Prop :=
    fun left right => right.1.patchNumber ≤ left.1.patchNumber
  have : Std.Total before := ⟨fun left right => Int64.le_total _ _⟩
  have : IsTrans _ before := ⟨fun _ _ _ first second => Int64.le_trans second first⟩
  have distinct : (db.newerEntries query current).Nodup :=
    (List.perm_insertionSort before _).nodup_iff.mpr (db.patches.nodupKeys.nodup.filter _)
  have ordered : (db.newerEntries query current).Pairwise before := List.pairwise_insertionSort before _
  refine (ordered.and distinct).imp_of_mem ?_
  rintro ⟨key, row⟩ ⟨key', row'⟩ first second ⟨low, apart⟩
  refine Int64.lt_of_le_of_ne low ?_
  intro numbers
  obtain ⟨own, found, _⟩ := mem_newerEntries.mp first
  obtain ⟨own', found', _⟩ := mem_newerEntries.mp second
  dsimp only at numbers own own' found found'
  obtain rfl : key = key' := by
    rw [own, own', numbers]
  rw [Option.some.inj (found.symm.trans found')] at apart
  exact apart rfl

/-- The row with the greatest number that the device may have, if all above it can be read. -/
theorem firstEligible_newer {patch : PatchManifest} :
    (firstEligible query (db.newerPatches query current) db).1 = .ok (some patch) ↔
      ∃ number row, db.Newer query current number row ∧ Fits query row patch ∧
        ∀ higher other, db.Newer query current higher other → number < higher → Passed query other := by
  have rows : db.newerPatches query current = (db.newerEntries query current).map (·.2) := rfl
  have splits : (∃ front row back, db.newerPatches query current = front ++ row :: back ∧
        Fits query row patch ∧ ∀ other ∈ front, Passed query other) ↔
      ∃ front entry back, db.newerEntries query current = front ++ entry :: back ∧
        Fits query entry.2 patch ∧ ∀ other ∈ front, Passed query other.2 := by
    rw [rows]
    constructor
    · rintro ⟨front, row, back, same, fits, ahead⟩
      obtain ⟨front', rest, entries, rfl, tail⟩ := List.map_eq_append_iff.mp same
      obtain ⟨entry, back', rfl, rfl, rfl⟩ := List.map_eq_cons_iff.mp tail
      exact ⟨front', entry, back', entries, fits, fun other member =>
        ahead _ (List.mem_map_of_mem member)⟩
    · rintro ⟨front, entry, back, same, fits, ahead⟩
      refine ⟨front.map (·.2), entry.2, back.map (·.2), ?_, fits, ?_⟩
      · rw [same, List.map_append, List.map_cons]
      · intro other member
        obtain ⟨entry', member', rfl⟩ := List.mem_map.mp member
        exact ahead entry' member'
  rw [firstEligible_eq_some, splits, exists_split_iff (fun _ _ => Int64.lt_asymm) newerEntries_strict]
  constructor
  · rintro ⟨entry, member, fits, above⟩
    refine ⟨entry.1.patchNumber, entry.2, (mem_newerEntries.mp member).2, fits, ?_⟩
    intro higher other newer
    exact above ⟨query.key higher, other⟩ (mem_newerEntries.mpr ⟨rfl, newer⟩)
  · rintro ⟨number, row, newer, fits, above⟩
    refine ⟨⟨query.key number, row⟩, mem_newerEntries.mpr ⟨rfl, newer⟩, fits, ?_⟩
    rintro other member higher
    exact above _ other.2 (mem_newerEntries.mp member).2 higher

theorem getAppInOrg_of_patches {env : Environment} {orgId id : String} (patches) :
    (getAppInOrg env orgId id { db with patches }).1 = (getAppInOrg env orgId id db).1 := by
  rw [← getAppInOrgSteps_run]
  exact ((getAppInOrgSteps_steady orgId id).run ⟨patches, rfl⟩).1.symm

/-- A patch is offered if the app is there, the query succeeds and a row is found. -/
theorem bestPatchInOrg_eq_some {env : Environment} {patch : PatchManifest} :
    (bestPatchInOrg env query current db).1 = .ok (some patch) ↔
      (∃ app, (getAppInOrg env query.org query.appId db).1 = .ok app) ∧ env.sql .selectPatches = .ok () ∧
        (firstEligible query (db.newerPatches query current) db).1 = .ok (some patch) := by
  have kept := getAppInOrg_ensures env query.org query.appId db
  unfold bestPatchInOrg
  rcases ended : getAppInOrg env query.org query.appId db with ⟨error | app, after⟩
  · dsimp only
    split <;> simp
  · obtain rfl : after = db := kept.of_ok ended
    have read : (get : StoreOp Database) after = (.ok after, after) := rfl
    dsimp only
    rw [run_bind]
    unfold exec Action.attempt
    cases env.sql .selectPatches with
    | error text => simp
    | ok _ =>
        dsimp only
        rw [run_bind, read]
        simp

end Selection

/-!
## Another rollout
-/

/-- The row of a patch with another rollout. -/
def PatchRow.withRollout (row : PatchRow) (patch : PatchManifest) (rollout : Int64) : PatchRow :=
  { row with
    activeRollout := rollout
    manifestJson := { patch with activeRollout := rollout }.marshal }

/-- The same database but for the rollout of one patch. A row that cannot be read has none. -/
def Database.withRollout (db : Database) (key : PatchKey) (rollout : Int64) : Database :=
  match db.patches.lookup key with
  | none => db
  | some row =>
      match PatchManifest.zero.unmarshal row.manifestJson with
      | .error _ => db
      | .ok patch => { db with patches := db.patches.insert key (row.withRollout patch rollout) }

/-- The manifests carry the numbers of their rows. -/
def Database.Numbered (db : Database) : Prop :=
  ∀ key row patch, db.patches.lookup key = some row → decodedRow row = some patch →
    patch.patchNumber = key.patchNumber

section Raising

variable {db : Database} {query : CheckQuery} {current raised : Int64} {key : PatchKey} {row : PatchRow}
  {patch : PatchManifest}

theorem decodedRow_withRollout (row : PatchRow) (patch : PatchManifest) (rollout : Int64) :
    decodedRow (row.withRollout patch rollout) = some { patch with activeRollout := rollout } :=
  decodedRow_eq_some.mpr (PatchManifest.unmarshal_marshal _)

theorem Database.withRollout_eq (stored : db.patches.lookup key = some row)
    (decoded : decodedRow row = some patch) (rollout : Int64) :
    db.withRollout key rollout =
      { db with patches := db.patches.insert key (row.withRollout patch rollout) } := by
  unfold Database.withRollout
  rw [stored]
  dsimp only
  rw [decodedRow_eq_some.mp decoded]

theorem matchesQuery_raised (fits : matchesQuery query patch = true) (raises : patch.activeRollout ≤ raised) :
    matchesQuery query { patch with activeRollout := raised } = true := by
  obtain ⟨named, inside⟩ := of_decide_eq_true fits
  refine decide_eq_true ⟨named, ?_⟩
  rw [eligible_iff] at inside ⊢
  have more := Int64.le_iff_toInt_le.mp raises
  dsimp only
  omega

/-- The rows above a patch are read as before, except for the one whose rollout is raised. -/
theorem Database.newer_withRollout (stored : db.patches.lookup key = some row)
    (decoded : decodedRow row = some patch) {number : Int64} {other : PatchRow} :
    (db.withRollout key raised).Newer query current number other ↔
      (query.key number ≠ key ∧ db.Newer query current number other) ∨
      (query.key number = key ∧ db.Newer query current number row ∧ other = row.withRollout patch raised) := by
  rw [Database.withRollout_eq stored decoded]
  unfold Database.Newer
  dsimp only
  by_cases here : query.key number = key
  · rw [here, AList.lookup_insert, stored]
    constructor
    · rintro ⟨same, active, newer⟩
      cases same
      exact .inr ⟨rfl, ⟨rfl, active, newer⟩, rfl⟩
    · rintro (⟨apart, _⟩ | ⟨_, ⟨_, active, newer⟩, rfl⟩)
      · exact absurd rfl apart
      · exact ⟨rfl, active, newer⟩
  · rw [AList.lookup_insert_ne here]
    simp [here]

/-- The offer after the raise: the same patch, or a newer one. -/
theorem Database.Numbered.raise (numbered : db.Numbered) (stored : db.patches.lookup key = some row)
    (decoded : decodedRow row = some patch) (raises : patch.activeRollout ≤ raised) {best : PatchManifest}
    (offered : (firstEligible query (db.newerPatches query current) db).1 = .ok (some best)) :
    ∃ better, (firstEligible query ((db.withRollout key raised).newerPatches query current)
        (db.withRollout key raised)).1 = .ok (some better) ∧
      (better = best ∨ better = { best with activeRollout := raised } ∨
        best.patchNumber < better.patchNumber) := by
  obtain ⟨number, chosen, newer, fits, above⟩ := firstEligible_newer.mp offered
  have own : best.patchNumber = number := numbered _ _ _ newer.1 fits.1
  have newer_iff := @Database.newer_withRollout db query current raised key row patch stored decoded
  -- the raised patch is taken if it stands above the old offer and now matches
  by_cases overtakes : ∃ higher, query.key higher = key ∧ number < higher ∧
      db.Newer query current higher row ∧ matchesQuery query { patch with activeRollout := raised } = true
  · obtain ⟨higher, here, ahead, high, taken⟩ := overtakes
    refine ⟨{ patch with activeRollout := raised }, firstEligible_newer.mpr
      ⟨higher, row.withRollout patch raised, newer_iff.mpr (.inr ⟨here, high, rfl⟩),
        ⟨decodedRow_withRollout .., taken⟩, ?_⟩, .inr (.inr ?_)⟩
    · intro top other there beyond
      rcases newer_iff.mp there with ⟨_, before⟩ | ⟨same, _⟩
      · exact above top other before (Int64.lt_trans ahead beyond)
      · have numbers : top = higher := congrArg PatchKey.patchNumber (same.trans here.symm)
        rw [numbers] at beyond
        exact absurd beyond Int64.lt_irrefl
    · have number' : patch.patchNumber = key.patchNumber := numbered key row patch stored decoded
      rw [own]
      dsimp only
      rw [number', ← here]
      exact ahead
  · have passed : ∀ higher other, (db.withRollout key raised).Newer query current higher other →
        number < higher → Passed query other := by
      intro higher other there beyond
      rcases newer_iff.mp there with ⟨_, before⟩ | ⟨here, before, rfl⟩
      · exact above higher other before beyond
      · refine ⟨_, decodedRow_withRollout .., ?_⟩
        refine Bool.eq_false_iff.mpr fun taken => ?_
        exact overtakes ⟨higher, here, beyond, before, taken⟩
    by_cases here : query.key number = key
    · obtain rfl : chosen = row := Option.some.inj (newer.1.symm.trans (here ▸ stored))
      cases fits.1.symm.trans decoded
      exact ⟨_, firstEligible_newer.mpr ⟨number, _, newer_iff.mpr (.inr ⟨here, newer, rfl⟩),
        ⟨decodedRow_withRollout .., matchesQuery_raised fits.2 raises⟩, passed⟩, .inr (.inl rfl)⟩
    · exact ⟨best, firstEligible_newer.mpr ⟨number, chosen, newer_iff.mpr (.inl ⟨here, newer⟩), fits,
        passed⟩, .inl rfl⟩

/-- A promotion of an active patch that keeps its channel gives it another rollout. -/
theorem Tracks.promotion_withRollout {events : List PatchEvent} (tracks : Tracks db events)
    {env : Environment} {org : Option String} {request : PromotePatchRequest} {reply : Reply}
    {after : Database} (promoted : promotePatch env org (.ok request) db = (.ok reply, after))
    (stored : db.patches.lookup (request.keyIn (currentOrgID org)) = some row)
    (active : row.active = true) (decoded : decodedRow row = some patch)
    (channel : request.channel = patch.activeChannel) :
    after.patches =
      (db.withRollout (request.keyIn (currentOrgID org)) request.rolloutPercentage).patches := by
  obtain ⟨_, row', read, same, found, unmarshals, rfl⟩ :=
    (changePatch_ensures env org (.ok request) _ db).of_ok promoted
  cases same
  obtain rfl := Option.some.inj (stored.symm.trans found)
  cases (decodedRow_eq_some.mp decoded).symm.trans unmarshals
  obtain ⟨uploaded, tracked, isActive, named, rollout, rfl, _, read⟩ := tracks.decoded stored
  cases unmarshals.symm.trans read
  obtain rfl : isActive = true := active
  obtain rfl : request.channel = named := channel
  have own : uploaded.keyIn (currentOrgID org) = request.keyIn (currentOrgID org) := tracked.own
  rw [Database.withRollout_eq stored decoded]
  change db.patches.insert (uploaded.keyIn (currentOrgID org)) _ = _
  rw [own]
  rfl

theorem Tracks.numbered {events : List PatchEvent} (tracks : Tracks db events) : db.Numbered :=
  fun _ _ _ stored read => tracks.patchNumber stored read

end Raising

/-- Whatever the server has handled, manifests carry the numbers of their rows; and then raising
the rollout of a patch leaves a device with the patch that it was offered, or a newer one. -/
theorem rollout_monotone :
    (∀ (start : Database) (history : List PatchCall), start.patches = ∅ →
      (runFrom servePatch start history).Numbered) ∧
    ∀ (db : Database), db.Numbered → ∀ (env : Environment) (query : CheckQuery) (current : Int64)
      (key : PatchKey) (row : PatchRow) (patch : PatchManifest) (raised : Int64),
      db.patches.lookup key = some row → PatchManifest.zero.unmarshal row.manifestJson = .ok patch →
      patch.activeRollout ≤ raised →
      ∀ best, (bestPatchInOrg env query current db).1 = .ok (some best) →
        ∃ better, (bestPatchInOrg env query current (db.withRollout key raised)).1 = .ok (some better) ∧
          (better = best ∨ better = { best with activeRollout := raised } ∨
            best.patchNumber < better.patchNumber) := by
  constructor
  · intro start history empty
    exact (run_tracks history (tracks_empty empty)).numbered
  · intro db numbered env query current key row patch raised stored read raises best offered
    have decoded := decodedRow_eq_some.mpr read
    obtain ⟨⟨app, known⟩, reads, first⟩ := bestPatchInOrg_eq_some.mp offered
    obtain ⟨better, taken, newer⟩ := numbered.raise stored decoded raises first
    refine ⟨better, bestPatchInOrg_eq_some.mpr ⟨⟨app, ?_⟩, reads, taken⟩, newer⟩
    rw [Database.withRollout_eq stored decoded, getAppInOrg_of_patches]
    exact known

/-- The patch is promoted to a part of the devices. -/
def partialPromotion : PatchCall where
  env := abcEnv
  request := .promote (some defaultOrgID) (.ok
    { appId := "app", releaseVersion := "1", platform := "ios", arch := "arm64"
      patchNumber := 1, channel := "stable", rolloutPercentage := 20 })

def partlyPromoted : Database := runFrom servePatch abcDatabase [abcCreation, partialPromotion]

/-- The number of the offered patch. -/
def offers (offer : Except StoreError (Option PatchManifest)) (number : Int64) : Bool :=
  match offer with
  | .ok (some patch) => patch.patchNumber = number
  | _ => false

/-- The device is among the first fifth; it keeps the patch when everyone gets it. -/
theorem partial_rollout_raised :
    offers (bestPatchInOrg abcEnv abcCheck 0 partlyPromoted).1 1 = true ∧
      ∃ better, (bestPatchInOrg abcEnv abcCheck 0 (partlyPromoted.withRollout (abcCheck.key 1) 100)).1 =
        .ok (some better) ∧ 1 ≤ better.patchNumber := by
  have offered : offers (bestPatchInOrg abcEnv abcCheck 0 partlyPromoted).1 1 = true := by decide
  have rolled : (partlyPromoted.patches.lookup (abcCheck.key 1)).map (fun row =>
      (decodedRow row).map (·.activeRollout)) = some (some 20) := by decide
  refine ⟨offered, ?_⟩
  obtain ⟨row, stored, read⟩ := Option.map_eq_some_iff.mp rolled
  obtain ⟨patch, decoded, rollout⟩ := Option.map_eq_some_iff.mp read
  unfold offers at offered
  split at offered
  case h_1 best found =>
    obtain ⟨better, answered, newer⟩ := rollout_monotone.2 partlyPromoted
      (rollout_monotone.1 abcDatabase [abcCreation, partialPromotion] rfl) abcEnv abcCheck 0 _ row patch 100
      stored (decodedRow_eq_some.mp decoded) (by rw [rollout]; decide) best found
    refine ⟨better, answered, ?_⟩
    have number : best.patchNumber = 1 := of_decide_eq_true offered
    rcases newer with rfl | rfl | above
    · exact Int64.le_of_eq number.symm
    · exact Int64.le_of_eq number.symm
    · rw [number] at above
      exact Int64.le_of_lt above
  case h_2 => cases offered

end CodePush.Server
