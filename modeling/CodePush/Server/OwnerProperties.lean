import CodePush.Server.RoleProperties

/-!
# The last owner of an organization

Updating and removing a member refuse to take the last owner away. Adding a member
also rewrites the role of one who exists, without that guard: the only owner can
give himself a lower role.
-/

set_option autoImplicit false

namespace CodePush.Server

open CodePush.Core CodePush.Foundation CodePush.Foundation.Action

namespace Database

def HasOwner (db : Database) (org : String) : Prop := ∃ userId, db.IsOwner org userId

def OnlyOwner (db : Database) (org : String) (userId : Int) : Prop :=
  db.IsOwner org userId ∧ ∀ other, db.IsOwner org other → other = userId

end Database

/-!
## Counting owners
-/

section Owners

variable {db after : Database} {org : String} {userId : Int}

theorem isOwner_iff_mem :
    db.IsOwner org userId ↔ ∃ row, ⟨(org, userId), row⟩ ∈ db.memberships.entries ∧ row.role = .owner := by
  simp [Database.IsOwner, ← AList.mem_lookup_iff]

theorem mem_owners {entry : (_ : String × Int) × MembershipRow} :
    entry ∈ db.memberships.entries.filter (fun entry => entry.1.1 = org ∧ entry.2.role = .owner) ↔
      entry ∈ db.memberships.entries ∧ entry.1.1 = org ∧ entry.2.role = .owner := by
  simp

theorem ownerCount_of_onlyOwner (only : db.OnlyOwner org userId) : db.ownerCount org ≤ 1 := by
  unfold Database.ownerCount
  have distinct : ((db.memberships.entries.filter fun entry =>
      entry.1.1 = org ∧ entry.2.role = .owner).map Sigma.fst).Nodup :=
    (List.filter_sublist.map Sigma.fst).nodup db.memberships.nodupKeys
  have same : ∀ key ∈ (db.memberships.entries.filter fun entry =>
      entry.1.1 = org ∧ entry.2.role = .owner).map Sigma.fst, key = (org, userId) := by
    intro key member
    obtain ⟨⟨⟨org', other⟩, row⟩, found, rfl⟩ := List.mem_map.mp member
    obtain ⟨stored, rfl, owns⟩ := mem_owners.mp found
    rw [only.2 other (isOwner_iff_mem.mpr ⟨row, stored, owns⟩)]
  have bounded := (List.eq_replicate_of_mem same ▸ distinct : (List.replicate _ (org, userId)).Nodup)
  simpa using List.nodup_replicate.mp bounded

theorem Database.HasOwner.of_memberships (owned : db.HasOwner org)
    (same : after.memberships = db.memberships) : after.HasOwner org := by
  obtain ⟨userId, owner⟩ := owned
  refine ⟨userId, ?_⟩
  unfold Database.IsOwner
  rw [same]
  exact owner

/-- A write to one membership leaves an owner unless it is the only owner's. -/
theorem Database.HasOwner.of_others {id : String} (owned : db.HasOwner org)
    (others : ∀ key, key ≠ (id, userId) → after.memberships.lookup key = db.memberships.lookup key)
    (spare : id = org → ¬ db.OnlyOwner org userId) : after.HasOwner org := by
  have kept : ∀ other, (org, other) ≠ (id, userId) → db.IsOwner org other → after.HasOwner org := by
    intro other outside owner
    refine ⟨other, ?_⟩
    unfold Database.IsOwner
    rw [others _ outside]
    exact owner
  obtain ⟨first, owner⟩ := owned
  by_cases outside : (org, first) = (id, userId)
  · cases outside
    have another := spare rfl
    simp only [Database.OnlyOwner, not_and, not_forall] at another
    obtain ⟨other, otherOwner, different⟩ := another owner
    exact kept other (fun same => different (congrArg Prod.snd same)) otherOwner
  · exact kept first outside owner

/-- At most one membership differs, and it is an owner's afterwards or was not the
only owner's before. -/
def Database.Spares (before after : Database) : Prop :=
  after.memberships = before.memberships ∨
    ∃ id userId, (∀ key, key ≠ (id, userId) →
      after.memberships.lookup key = before.memberships.lookup key) ∧
      (after.IsOwner id userId ∨ ¬ before.OnlyOwner id userId)

theorem Database.Spares.hasOwner (spares : db.Spares after) (owned : db.HasOwner org) :
    after.HasOwner org := by
  rcases spares with same | ⟨id, member, others, spare⟩
  · exact owned.of_memberships same
  · by_cases here : id = org
    · subst here
      rcases spare with owner | spare
      · exact ⟨member, owner⟩
      · exact owned.of_others others fun _ => spare
    · exact owned.of_others others fun same => absurd same here

end Owners

/-!
## The guarded writes
-/

section Writes

variable {env : Environment} {db after : Database}

theorem orgRoleForUser_eq_ok {orgId : String} {userId : Int} {role : OrgRole} :
    orgRoleForUser env orgId userId db = (.ok role, after) ↔
      after = db ∧ env.sql .selectRole = .ok () ∧ ∃ id, validateOrgID orgId = .ok id ∧
        (db.memberships.lookup (id, userId)).map (·.role) = some role := by
  simp only [orgRoleForUser, bind_eq_ok, attempt_eq_ok, exec_eq_ok, get_eq_ok, row_eq_ok, pure_eq_ok,
    Option.map_eq_some_iff]
  constructor
  · rintro ⟨id, _, ⟨normal, rfl⟩, _, _, ⟨asked, rfl⟩, _, _, ⟨rfl, rfl⟩, row, _, ⟨found, rfl⟩, rfl, rfl⟩
    exact ⟨rfl, asked, id, normal, row, found, rfl⟩
  · rintro ⟨rfl, asked, id, normal, row, found, rfl⟩
    exact ⟨id, _, ⟨normal, rfl⟩, (), _, ⟨asked, rfl⟩, _, _, ⟨rfl, rfl⟩, row, _, ⟨found, rfl⟩, rfl, rfl⟩

theorem keepLastOwner_ok {orgId : String} {losesOwner : Bool} {result : Unit}
    (passed : keepLastOwner env orgId losesOwner db = (.ok result, after)) :
    after = db ∧ (losesOwner = true → 1 < db.ownerCount orgId) := by
  unfold keepLastOwner at passed
  split at passed
  case isTrue =>
    simp only [orgOwnerCount, bind_eq_ok, exec_eq_ok, get_eq_ok, pure_eq_ok] at passed
    obtain ⟨count, _, ⟨_, _, ⟨_, rfl⟩, _, _, ⟨rfl, rfl⟩, rfl, rfl⟩, passed⟩ := passed
    split at passed
    case isTrue => exact absurd passed throw_ne_ok
    case isFalse many =>
      obtain ⟨_, rfl⟩ := pure_eq_ok.mp passed
      exact ⟨rfl, fun _ => Nat.lt_of_not_le many⟩
  case isFalse keeps =>
    obtain ⟨_, rfl⟩ := pure_eq_ok.mp passed
    exact ⟨rfl, fun loses => absurd loses keeps⟩

/-- The guard has found the member's role, and a second owner if it was needed. -/
theorem not_onlyOwner_of_guard {id : String} {userId : Int} {currentRole : OrgRole}
    {losesOwner : Bool}
    (read : (db.memberships.lookup (id, userId)).map (·.role) = some currentRole)
    (loses : currentRole = .owner → losesOwner = true)
    (many : losesOwner = true → 1 < db.ownerCount id) : ¬ db.OnlyOwner id userId := by
  intro only
  have owner : some currentRole = some OrgRole.owner := read.symm.trans only.1
  have few := ownerCount_of_onlyOwner only
  exact absurd (many (loses (Option.some.inj owner))) (Nat.not_lt.mpr few)

theorem updateOrgMemberRole_spares (env : Environment) (orgId : String) (userId : Int)
    (role : String) (db : Database) :
    Ensures (updateOrgMemberRole env orgId userId role) db (fun _ after => db.Spares after)
      (fun _ after => after = db) := by
  refine ensures_bind (ensures_attempt (fun id normal => ?_) (fun _ _ => rfl))
  split
  · exact ensures_throw rfl
  case h_2 newRole _ =>
    apply ensures_bind
    refine ((ensures_self _ db).and (orgRoleForUser_ensures env id userId db)).mono ?_
      (fun _ _ failed => failed.2)
    rintro currentRole _ ⟨read, rfl, _⟩
    obtain ⟨_, _, id', normal', found⟩ := orgRoleForUser_eq_ok.mp read
    cases (validateOrgID_idem normal).symm.trans normal'
    apply ensures_bind
    refine ((ensures_self _ _).and (keepLastOwner_ensures env id _ _)).mono ?_
      (fun _ _ failed => failed.2)
    rintro _ _ ⟨kept, rfl⟩
    have many := (keepLastOwner_ok kept).2
    refine ensures_bind (exec_ensures ?_ (fun _ => rfl))
    refine ensures_bind (ensures_get ?_)
    refine ensures_bind (row_ensures (fun old _ => ?_) rfl)
    apply ensures_modify
    refine .inr ⟨id, userId, fun key outside => AList.lookup_insert_ne outside, ?_⟩
    by_cases owner : newRole = .owner
    · refine .inl ?_
      simp [Database.IsOwner, owner]
    · refine .inr (not_onlyOwner_of_guard found ?_ many)
      intro current
      simp [current, owner]

theorem removeOrgMember_spares (env : Environment) (orgId : String) (userId : Int) (db : Database) :
    Ensures (removeOrgMember env orgId userId) db (fun _ after => db.Spares after)
      (fun _ after => after = db) := by
  refine ensures_bind (ensures_attempt (fun id normal => ?_) (fun _ _ => rfl))
  apply ensures_bind
  refine ((ensures_self _ db).and (orgRoleForUser_ensures env id userId db)).mono ?_
    (fun _ _ failed => failed.2)
  rintro currentRole _ ⟨read, rfl, _⟩
  obtain ⟨_, _, id', normal', found⟩ := orgRoleForUser_eq_ok.mp read
  cases (validateOrgID_idem normal).symm.trans normal'
  apply ensures_bind
  refine ((ensures_self _ _).and (keepLastOwner_ensures env id _ _)).mono ?_
    (fun _ _ failed => failed.2)
  rintro _ _ ⟨kept, rfl⟩
  have many := (keepLastOwner_ok kept).2
  refine ensures_bind (exec_ensures ?_ (fun _ => rfl))
  refine ensures_bind (ensures_get ?_)
  refine ensures_bind (row_ensures (fun old _ => ?_) rfl)
  apply ensures_modify
  refine .inr ⟨id, userId, fun key outside => AList.lookup_erase_ne outside, .inr ?_⟩
  refine not_onlyOwner_of_guard found ?_ many
  intro current
  simp [current]

end Writes

/-!
## Adding a member
-/

def Database.withMember (db : Database) (now : Nat) (key : String × Int) (role : OrgRole) : Database :=
  let row := match db.memberships.lookup key with
    | some old => { old with role }
    | none => { role, createdAt := now }
  { db with memberships := db.memberships.insert key row }

section Additions

variable {env : Environment} {db after : Database}

theorem withMember_role {now : Nat} {key : String × Int} {role : OrgRole} :
    ((db.withMember now key role).memberships.lookup key).map (·.role) = some role := by
  unfold Database.withMember
  split <;> simp

theorem withMember_others {now : Nat} {key other : String × Int} {role : OrgRole}
    (outside : other ≠ key) :
    (db.withMember now key role).memberships.lookup other = db.memberships.lookup other :=
  AList.lookup_insert_ne outside

theorem addOrgMember_eq_ok {orgId : String} {request : OrgMemberRequest} {result : Unit} :
    addOrgMember env orgId request db = (.ok result, after) ↔
      ∃ id role userId, validateOrgID orgId = .ok id ∧ normalizeOrgRole request.role = some role ∧
        (requestedUser env request db).1 = .ok userId ∧ env.sql .selectOrganization = .ok () ∧
        db.Exists id ∧ env.sql .insertMembership = .ok () ∧
        after = db.withMember env.now (id, userId) role := by
  simp only [addOrgMember, bind_eq_ok, attempt_eq_ok]
  constructor
  · rintro ⟨id, _, ⟨normal, rfl⟩, added⟩
    rcases read : normalizeOrgRole request.role with _ | role
    · rw [read] at added
      exact absurd added throw_ne_ok
    · rw [read] at added
      simp only [getOrganization, bind_eq_ok, attempt_eq_ok, exec_eq_ok, get_eq_ok, row_eq_ok,
        modify_eq_ok] at added
      obtain ⟨userId, _, requested, org, _, ⟨_, _, ⟨normal', rfl⟩, _, _, ⟨asked, rfl⟩, _, _, ⟨rfl, rfl⟩,
        row, _, ⟨found, rfl⟩, named⟩, _, _, ⟨written, rfl⟩, rfl⟩ := added
      obtain ⟨_, rfl⟩ := pure_eq_ok.mp named
      cases (validateOrgID_idem normal).symm.trans normal'
      have same := ((requestedUser_ensures env request _).of_ok requested).1
      subst same
      refine ⟨id, role, userId, normal, rfl, by rw [requested], asked, ?_, written, rfl⟩
      simp [Database.Exists, found]
  · rintro ⟨id, role, userId, normal, read, requested, asked, existing, written, rfl⟩
    obtain ⟨row, found⟩ := Option.isSome_iff_exists.mp existing
    have same : requestedUser env request db = (.ok userId, db) := by
      have kept := requestedUser_ensures env request db
      rcases ended : requestedUser env request db with ⟨outcome, finish⟩
      rw [ended] at requested
      obtain rfl : outcome = .ok userId := requested
      rw [(kept.of_ok ended).1]
    refine ⟨id, db, ⟨normal, rfl⟩, ?_⟩
    rw [read]
    simp only [getOrganization, bind_eq_ok, attempt_eq_ok, exec_eq_ok, get_eq_ok, row_eq_ok,
      modify_eq_ok]
    exact ⟨userId, db, same, _, db, ⟨_, _, ⟨validateOrgID_idem normal, rfl⟩, (), _, ⟨asked, rfl⟩, _, _,
      ⟨rfl, rfl⟩, row, _, ⟨found, rfl⟩, rfl⟩, (), db, ⟨written, rfl⟩, rfl⟩

theorem requireOrgRole_eq_ok {org : String} {minRole : OrgRole} {userId : Int} {result : Unit} :
    requireOrgRole env org minRole userId db = (.ok result, after) ↔
      after = db ∧ userId ≠ 0 ∧ env.sql .selectRole = .ok () ∧ ∃ id role, validateOrgID org = .ok id ∧
        (db.memberships.lookup (id, userId)).map (·.role) = some role ∧
        roleRank minRole ≤ roleRank role := by
  unfold requireOrgRole
  constructor
  · intro passed
    split at passed
    case isTrue => exact absurd passed throw_ne_ok
    case isFalse known =>
      obtain ⟨allowed, middle, asked, passed⟩ := bind_eq_ok.mp passed
      split at passed
      case isFalse => exact absurd passed throw_ne_ok
      case isTrue granted =>
        obtain ⟨_, rfl⟩ := pure_eq_ok.mp passed
        have asked := answering_eq_ok.mp asked
        unfold userHasOrgRole at asked
        rcases read : orgRoleForUser env org userId db with ⟨error | role, finish⟩
        · rw [read] at asked
          dsimp only at asked
          split at asked
          · cases asked
            cases granted
          · cases asked
        · rw [read] at asked
          cases asked
          obtain ⟨rfl, selected, id, normal, found⟩ := orgRoleForUser_eq_ok.mp read
          exact ⟨rfl, known, selected, id, role, normal, found, of_decide_eq_true granted⟩
  · rintro ⟨rfl, known, selected, id, role, normal, found, high⟩
    have read : orgRoleForUser env org userId after = (.ok role, after) :=
      orgRoleForUser_eq_ok.mpr ⟨rfl, selected, id, normal, found⟩
    rw [if_neg known]
    refine bind_eq_ok.mpr ⟨true, after, answering_eq_ok.mpr ?_, rfl⟩
    simp [userHasOrgRole, read, high]

theorem caller_eq_some {cookie : String} {userId : Int} :
    caller env cookie db = some userId ↔ requireSession env cookie db = (.ok userId, db) := by
  have kept := requireSession_ensures env cookie db
  unfold caller
  constructor
  · intro called
    rcases ended : requireSession env cookie db with ⟨error | found, finish⟩
    · rw [ended] at called
      cases called
    · rw [ended] at called
      cases called
      rw [kept.of_ok ended]
  · intro ended
    rw [ended]
    rfl

end Additions

/-!
## Requests
-/

/-- The only owner of the organization adds himself with a lower role, and no
statement of the request fails. -/
def DemotesLastOwner (org : String) (db : Database) (call : Call) : Prop :=
  ∃ cookie path request userId role,
    call.request = .admin cookie (.addMember path (.ok request)) ∧
    caller call.env cookie db = some userId ∧ userId ≠ 0 ∧
    validateOrgID path = .ok org ∧ db.Exists org ∧ db.OnlyOwner org userId ∧
    (requestedUser call.env request db).1 = .ok userId ∧
    normalizeOrgRole request.role = some role ∧ role ≠ .owner ∧
    call.env.sql .selectRole = .ok () ∧ call.env.sql .selectOrganization = .ok () ∧
    call.env.sql .insertMembership = .ok ()

section Steps

variable {db : Database} {org : String}

theorem Database.Spares.of_memberships {after : Database} (same : after.memberships = db.memberships) :
    db.Spares after := .inl same

theorem adminCreateOrg_spares (env : Environment) (userId : Int)
    (body : Except String OrganizationBody) (db : Database) :
    Ensures (adminCreateOrg env userId body) db (fun _ after => db.Spares after)
      (fun _ after => db.Spares after) := by
  apply ensures_bind
  refine parsedBody_ensures ?_ (fun _ _ => .inl rfl)
  intro org _
  apply ensures_bind
  apply answering_ensures
  refine (putOrganization_ensures env org db).mono ?_ (fun _ _ same => .inl (by rw [same]))
  intro _ put same
  apply ensures_bind
  apply answering_ensures
  refine ((ensures_self _ _).and (addOrgMember_ensures env org.id _ put)).mono ?_
    (fun _ _ kept => .inl (by rw [kept.2, same]))
  rintro _ after ⟨added, _⟩
  apply ensures_pure
  obtain ⟨id, role, creator, _, owner, _, _, _, _, rfl⟩ := addOrgMember_eq_ok.mp added
  have asOwner : role = .owner := by
    have normal : normalizeOrgRole "owner" = some .owner := by decide
    exact Option.some.inj (owner.symm.trans normal)
  refine .inr ⟨id, creator, ?_, .inl ?_⟩
  · intro key outside
    rw [withMember_others outside, same]
  · subst asOwner
    exact withMember_role

/-- A guarded route only reads before its handler runs. -/
theorem ownerRoute_spares {env : Environment} {path : String} {userId : Int}
    {route : Handler Reply}
    (spares : Ensures route db (fun _ after => db.Spares after) (fun _ after => after = db)) :
    Ensures (do
      requireOrgRole env path .owner userId
      route) db (fun _ after => db.Spares after) (fun _ after => db.Spares after) := by
  apply ensures_bind
  refine (requireOrgRole_ensures env path .owner userId db).mono ?_ (fun _ _ same => .inl (by rw [same]))
  rintro _ _ ⟨rfl, _⟩
  exact spares.mono (fun _ _ holds => holds) (fun _ _ same => .inl (by rw [same]))

theorem adminUpdateOrgMember_spares (env : Environment) (path member : String)
    (body : Except String String) (db : Database) :
    Ensures (adminUpdateOrgMember env path member body) db (fun _ after => db.Spares after)
      (fun _ after => after = db) := by
  apply ensures_bind
  refine (memberId_ensures member db).mono ?_ (fun _ _ same => same)
  rintro userId _ rfl
  apply ensures_bind
  refine parsedBody_ensures ?_ (fun _ _ => rfl)
  intro role _
  apply ensures_bind
  apply answering_ensures
  refine (updateOrgMemberRole_spares env path userId role _).mono ?_ (fun _ _ same => same)
  intro _ _ spares
  exact ensures_pure spares

theorem adminRemoveOrgMember_spares (env : Environment) (path member : String) (db : Database) :
    Ensures (adminRemoveOrgMember env path member) db (fun _ after => db.Spares after)
      (fun _ after => after = db) := by
  apply ensures_bind
  refine (memberId_ensures member db).mono ?_ (fun _ _ same => same)
  rintro userId _ rfl
  apply ensures_bind
  apply answering_ensures
  refine (removeOrgMember_spares env path userId _).mono ?_ (fun _ _ same => same)
  intro _ _ spares
  exact ensures_pure spares

/-- What an accepted add request found and wrote. -/
theorem addMember_ok {env : Environment} {cookie path : String} {body : Except String OrgMemberRequest}
    {reply : Reply} {after : Database}
    (added : handle env (.admin cookie (.addMember path body)) db = (.ok reply, after)) :
    ∃ request userId id role member, body = .ok request ∧ caller env cookie db = some userId ∧
      userId ≠ 0 ∧ env.sql .selectRole = .ok () ∧ validateOrgID path = .ok id ∧
      db.IsOwner id userId ∧ normalizeOrgRole request.role = some role ∧
      (requestedUser env request db).1 = .ok member ∧ env.sql .selectOrganization = .ok () ∧
      db.Exists id ∧ env.sql .insertMembership = .ok () ∧
      after = db.withMember env.now (id, member) role := by
  obtain ⟨userId, _, session, added⟩ := bind_eq_ok.mp added
  have called : caller env cookie db = some userId := by
    rw [caller, session]
    rfl
  cases (caller_eq_some.mp called).symm.trans session
  obtain ⟨_, _, guarded, added⟩ := bind_eq_ok.mp added
  obtain ⟨same, known, selected, id, held, normal, found, high⟩ := requireOrgRole_eq_ok.mp guarded
  rw [same] at added
  have owner : db.IsOwner id userId := by
    rw [Database.IsOwner, found, owner_of_roleRank high]
  obtain ⟨request, _, parsed, stored⟩ := bind_eq_ok.mp added
  obtain ⟨body_eq, same⟩ := parsedBody_eq_ok.mp parsed
  rw [same] at stored
  obtain ⟨_, _, written, finished⟩ := bind_eq_ok.mp stored
  obtain ⟨_, rfl⟩ := pure_eq_ok.mp finished
  obtain ⟨id', role, member, normal', read, requested, asked, existing, inserted, rfl⟩ :=
    addOrgMember_eq_ok.mp (answering_eq_ok.mp written)
  cases normal.symm.trans normal'
  exact ⟨request, userId, id, role, member, body_eq, called, known, selected, normal, owner, read,
    requested, asked, existing, inserted, rfl⟩

theorem insertUser_spares (env : Environment) (user : User) (db : Database) :
    Ensures (insertUser env user) db (fun _ after => after.memberships = db.memberships)
      (fun _ after => after = db) := by
  refine ensures_bind (exec_ensures ?_ (fun _ => rfl))
  refine ensures_bind (ensures_get ?_)
  dsimp only
  split
  · exact ensures_throw rfl
  · refine ensures_bind (ensures_modify ?_)
    exact ensures_pure rfl

theorem insertToken_ensures (env : Environment) (orgId name : String) (db : Database) :
    Ensures (insertToken env orgId name) db
      (fun _ after => ∃ row : CliToken, row.orgId = orgId ∧
        (∀ token ∈ db.cliTokens, token.tokenHash ≠ row.tokenHash) ∧
        after = { db with cliTokens := db.cliTokens ++ [row] })
      (fun _ after => after = db) := by
  refine ensures_bind (ensures_attempt (fun token _ => ?_) (fun _ _ => rfl))
  refine ensures_bind (exec_ensures ?_ (fun _ => rfl))
  refine ensures_bind (ensures_get ?_)
  split
  case isTrue => exact ensures_throw rfl
  case isFalse fresh =>
    refine ensures_bind (ensures_modify ?_)
    refine ensures_pure ⟨_, rfl, ?_, rfl⟩
    intro token member same
    exact fresh (List.any_eq_true.mpr ⟨token, member, decide_eq_true same⟩)

/-- The first user becomes an owner unless the membership is there already. -/
theorem setupFirstUser_spares (env : Environment) (request : SetupRequest) (hash : String)
    (db : Database) :
    Ensures (setupFirstUser env request hash) db (fun _ after => db.Spares after) (fun _ _ => True) := by
  refine ensures_bind (exec_ensures ?_ (fun _ => trivial))
  apply ensures_bind
  refine (insertUser_spares env _ db).mono ?_ (fun _ _ _ => trivial)
  intro userId created same
  refine ensures_bind (exec_ensures ?_ (fun _ => trivial))
  refine Ensures.bind
    (@ensures_modify _ _ _ _ _ (fun _ organized => organized.memberships = db.memberships) ?_) ?_
  · split
    · exact same
    · exact same
  intro _ organized same
  refine ensures_bind (exec_ensures ?_ (fun _ => trivial))
  refine ensures_bind (ensures_modify ?_)
  apply ensures_bind
  refine (insertToken_ensures env defaultOrgID _ _).mono ?_ (fun _ _ _ => trivial)
  rintro token _ ⟨row, _, _, rfl⟩
  refine ensures_bind (exec_ensures (ensures_pure ?_) (fun _ => trivial))
  split
  · exact .inl same
  · refine .inr ⟨defaultOrgID, userId, ?_, .inl ?_⟩
    · intro key outside
      rw [← same]
      exact AList.lookup_insert_ne outside
    · simp [Database.IsOwner]

theorem setup_spares (env : Environment) (body : Except String SetupRequest) (db : Database) :
    Ensures (setup env body) db (fun _ after => db.Spares after) (fun _ after => db.Spares after) := by
  apply ensures_bind
  apply answering_ensures
  refine exec_ensures ?_ (fun _ => .inl rfl)
  refine ensures_bind (ensures_get ?_)
  split
  · exact ensures_throw (.inl rfl)
  apply ensures_bind
  refine parsedBody_ensures ?_ (fun _ _ => .inl rfl)
  intro request _
  split
  · exact ensures_throw (.inl rfl)
  split
  · exact ensures_throw (.inl rfl)
  · apply ensures_bind
    apply answering_ensures
    apply transaction_ensures
    refine (setupFirstUser_spares env request _ db).mono ?_ (fun _ _ _ => .inl rfl)
    intro _ _ spares
    exact ensures_pure spares

theorem login_spares (env : Environment) (body : Except String LoginRequest) (db : Database) :
    Ensures (login env body) db (fun _ after => db.Spares after) (fun _ after => db.Spares after) := by
  apply ensures_bind
  refine parsedBody_ensures ?_ (fun _ _ => .inl rfl)
  intro request _
  apply ensures_bind
  apply answering_ensures
  refine ensures_bind (exec_ensures ?_ (fun _ => .inl rfl))
  refine ensures_bind (ensures_get ?_)
  refine ensures_bind (row_ensures (fun userId _ => ?_) (.inl rfl))
  refine ensures_bind (row_ensures (fun user _ => ensures_pure ?_) (.inl rfl))
  split
  · exact ensures_throw (.inl rfl)
  split
  · exact ensures_throw (.inl rfl)
  · apply ensures_bind
    apply answering_ensures
    refine ensures_bind (exec_ensures ?_ (fun _ => .inl rfl))
    refine ensures_bind (ensures_get ?_)
    split
    · exact ensures_throw (.inl rfl)
    · exact ensures_modify (ensures_pure (.inl rfl))

theorem logout_spares (env : Environment) (cookie : String) (db : Database) :
    Ensures (logout env cookie) db (fun _ after => db.Spares after) (fun _ after => db.Spares after) := by
  unfold logout
  split
  · exact ensures_pure (.inl rfl)
  · refine ensures_bind (ensures_ignore ?_ ?_)
    · exact ensures_pure (.inl rfl)
    · exact ensures_pure (.inl rfl)

/-- Every admin request but an accepted addition of a member. -/
theorem handleAdmin_spares (env : Environment) (userId : Int) (request : AdminRequest) (db : Database) :
    Ensures (handleAdmin env userId request) db
      (fun _ after => (∃ path body, request = .addMember path body) ∨ db.Spares after)
      (fun _ after => db.Spares after) := by
  cases request with
  | listOrgs =>
      exact (adminListOrgs_ensures env userId db).mono
        (fun _ _ same => .inr (.inl (by rw [same]))) (fun _ _ same => .inl (by rw [same]))
  | createOrg body =>
      exact (adminCreateOrg_spares env userId body db).mono (fun _ _ => .inr) (fun _ _ spares => spares)
  | listMembers path =>
      apply ensures_bind
      refine (requireOrgRole_ensures env path .member userId db).mono ?_ (fun _ _ same => .inl (by rw [same]))
      rintro _ _ ⟨rfl, _⟩
      exact (adminListOrgMembers_ensures env path _).mono
        (fun _ _ same => .inr (.inl (by rw [same]))) (fun _ _ same => .inl (by rw [same]))
  | addMember path body =>
      apply ensures_bind
      refine (requireOrgRole_ensures env path .owner userId db).mono ?_ (fun _ _ same => .inl (by rw [same]))
      rintro _ _ ⟨rfl, _⟩
      exact (adminAddOrgMember_ensures env path body _).mono
        (fun _ _ _ => .inl ⟨path, body, rfl⟩) (fun _ _ same => .inl (by rw [same]))
  | updateMember path member body =>
      exact (ownerRoute_spares (adminUpdateOrgMember_spares env path member body db)).mono
        (fun _ _ => .inr) (fun _ _ spares => spares)
  | removeMember path member =>
      exact (ownerRoute_spares (adminRemoveOrgMember_spares env path member db)).mono
        (fun _ _ => .inr) (fun _ _ spares => spares)

theorem handle_spares (env : Environment) (request : Request) (db : Database) :
    Ensures (handle env request) db
      (fun _ after => (∃ cookie path body, request = .admin cookie (.addMember path body)) ∨
        db.Spares after)
      (fun _ after => db.Spares after) := by
  cases request with
  | setup body => exact (setup_spares env body db).mono (fun _ _ => .inr) (fun _ _ spares => spares)
  | login body => exact (login_spares env body db).mono (fun _ _ => .inr) (fun _ _ spares => spares)
  | logout cookie => exact (logout_spares env cookie db).mono (fun _ _ => .inr) (fun _ _ spares => spares)
  | admin cookie request =>
      apply ensures_bind
      refine (requireSession_ensures env cookie db).mono ?_ (fun _ _ same => .inl same)
      rintro userId _ rfl
      refine (handleAdmin_spares env userId request _).mono ?_ (fun _ _ spares => spares)
      rintro _ _ (⟨path, body, rfl⟩ | spares)
      · exact .inl ⟨cookie, path, body, rfl⟩
      · exact .inr spares
  | operatorAddsUser user =>
      apply ensures_bind
      apply answering_ensures
      refine (insertUser_spares env user db).mono ?_ (fun _ _ same => .inl (by rw [same]))
      intro _ _ same
      exact ensures_pure (.inr (.inl same))

/-- An accepted addition leaves an owner unless it demotes the last one. -/
theorem addition_hasOwner {call : Call} {cookie path : String} {body : Except String OrgMemberRequest}
    (asked : call.request = .admin cookie (.addMember path body)) {reply : Reply} {after : Database}
    (added : handle call.env call.request db = (.ok reply, after)) (owned : db.HasOwner org) :
    after.HasOwner org ↔ ¬ DemotesLastOwner org db call := by
  rw [asked] at added
  obtain ⟨request, userId, id, role, member, rfl, called, known, selected, normal, owner, read,
    requested, found, existing, inserted, rfl⟩ := addMember_ok added
  constructor
  · rintro ⟨other, remains⟩
    rintro ⟨cookie', path', request', userId', role', asked', called', _, normal', _, only, requested',
      read', lower, _⟩
    cases asked.symm.trans asked'
    cases called.symm.trans called'
    cases normal.symm.trans normal'
    cases requested.symm.trans requested'
    cases read.symm.trans read'
    by_cases self : other = userId
    · subst self
      have now : some role = some OrgRole.owner := withMember_role.symm.trans remains
      exact lower (Option.some.inj now)
    · unfold Database.IsOwner at remains
      rw [withMember_others (fun same => self (congrArg Prod.snd same))] at remains
      exact self (only.2 other remains)
  · intro spared
    by_cases asOwner : role = .owner
    · have spares : db.Spares (db.withMember call.env.now (id, member) role) :=
        .inr ⟨id, member, fun key outside => withMember_others outside, .inl (asOwner ▸ withMember_role)⟩
      exact spares.hasOwner owned
    · refine owned.of_others (fun key outside => withMember_others outside) ?_
      rintro rfl only
      obtain rfl : userId = member := only.2 userId owner
      exact spared ⟨cookie, path, request, userId, role, asked, called, known, normal, existing, only,
        requested, read, asOwner, selected, found, inserted⟩

/-- A demotion of the last owner is accepted. -/
theorem demotion_accepted {call : Call} (demotes : DemotesLastOwner org db call) :
    ∃ reply after, handle call.env call.request db = (.ok reply, after) := by
  obtain ⟨cookie, path, request, userId, role, asked, called, known, normal, existing, only, requested,
    read, _, selected, found, inserted⟩ := demotes
  have guarded : requireOrgRole call.env path .owner userId db = (.ok (), db) :=
    requireOrgRole_eq_ok.mpr ⟨rfl, known, selected, org, .owner, normal, only.1, le_refl _⟩
  have added : addOrgMember call.env path request db =
      (.ok (), db.withMember call.env.now (org, userId) role) :=
    addOrgMember_eq_ok.mpr ⟨org, role, userId, normal, read, requested, found, existing, inserted, rfl⟩
  refine ⟨.ok, db.withMember call.env.now (org, userId) role, ?_⟩
  rw [asked]
  exact bind_eq_ok.mpr ⟨userId, db, caller_eq_some.mp called, bind_eq_ok.mpr ⟨(), db, guarded,
    bind_eq_ok.mpr ⟨request, db, parsedBody_eq_ok.mpr ⟨rfl, rfl⟩,
      bind_eq_ok.mpr ⟨(), _, answering_eq_ok.mpr added, rfl⟩⟩⟩⟩

theorem serve_hasOwner_iff {call : Call} (owned : db.HasOwner org) :
    (serve call db).2.HasOwner org ↔ ¬ DemotesLastOwner org db call := by
  rcases ended : serve call db with ⟨error | reply, after⟩
  · have spares := (handle_spares call.env call.request db).of_error ended
    refine iff_of_true (spares.hasOwner owned) ?_
    intro demotes
    obtain ⟨_, _, accepted⟩ := demotion_accepted demotes
    cases ended.symm.trans accepted
  · rcases (handle_spares call.env call.request db).of_ok ended with ⟨cookie, path, body, asked⟩ | spares
    · exact addition_hasOwner asked ended owned
    · refine iff_of_true (spares.hasOwner owned) ?_
      rintro ⟨cookie, path, request, userId, role, asked, rest⟩
      have added : handle call.env call.request db = (.ok reply, after) := ended
      refine (addition_hasOwner asked added owned).mp (spares.hasOwner owned) ?_
      exact ⟨cookie, path, request, userId, role, asked, rest⟩

end Steps

/-- In a run, the organization has an owner after each request exactly when no
request demotes its last owner. -/
theorem owner_kept_iff_no_demotion (org : String) (db : Database) (owned : db.HasOwner org)
    (calls : List Call) :
    (∀ served, served <+: calls → (runFrom serve db served).HasOwner org) ↔
      Guarded serve (fun reached call => ¬ DemotesLastOwner org reached call) db calls :=
  kept_iff_guarded (Database.HasOwner · org) (fun _ _ owned => serve_hasOwner_iff owned) owned

/-!
## The owner of one organization
-/

/-- The server after its first user has created the organization `acme`. -/
def acmeDatabase : Database := runFrom serve (sampleDatabase "admin") [createAcme]

def demoteSelf : Call :=
  sampleCall "" (.admin userToken.1 (.addMember "acme" (.ok { username := "", userId := 1, role := "member" })))

theorem acmeDatabase_hasOwner : acmeDatabase.HasOwner "acme" := by
  refine ⟨1, ?_⟩
  unfold Database.IsOwner
  decide

/-- The owner adds another user and stays. -/
theorem acme_owner_kept_on_addition :
    acmeDatabase.HasOwner "acme" ∧
      ∀ served, served <+: [addReader] → (runFrom serve acmeDatabase served).HasOwner "acme" := by
  refine ⟨acmeDatabase_hasOwner, ?_⟩
  refine (owner_kept_iff_no_demotion "acme" acmeDatabase acmeDatabase_hasOwner [addReader]).mpr ⟨?_, trivial⟩
  rintro ⟨cookie, path, request, userId, role, asked, called, _, _, _, _, requested, _⟩
  cases asked
  have reader : (requestedUser (sampleEnv "") { username := "reader", userId := 0, role := "member" }
      acmeDatabase).1 = .ok 2 := by decide
  have admin : caller (sampleEnv "") userToken.1 acmeDatabase = some 1 := by decide
  cases admin.symm.trans called
  cases reader.symm.trans requested

/-- The only owner adds himself as a member, and the organization has no owner. -/
theorem owner_adds_himself_as_member :
    ¬ ∀ (org : String) (db : Database), db.HasOwner org → ∀ calls : List Call,
      (∀ call ∈ calls, ∃ cookie request, call.request = .admin cookie request) →
      (runFrom serve db calls).HasOwner org := by
  intro kept
  obtain ⟨userId, owner⟩ := kept "acme" acmeDatabase acmeDatabase_hasOwner [demoteSelf] (by
    intro call member
    cases List.mem_singleton.mp member
    exact ⟨_, _, rfl⟩)
  obtain ⟨row, stored, owns⟩ := isOwner_iff_mem.mp owner
  have ownerless : ∀ entry ∈ (runFrom serve acmeDatabase [demoteSelf]).memberships.entries,
      entry.1.1 = "acme" → entry.2.role ≠ .owner := by decide
  exact ownerless _ stored rfl owns

end CodePush.Server
