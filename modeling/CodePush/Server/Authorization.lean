import CodePush.Server.Writes

/-!
# Who may change an organization

The routes with an organization in their path ask for a role in it first. Their
aliases, which act on the default organization, ask for a session only; and a
request that creates an organization also adds its caller to one that exists.
-/

set_option autoImplicit false

namespace CodePush.Server

open CodePush.Core CodePush.Foundation CodePush.Foundation.Action

/-- The user has at least the role. -/
def Database.HasRole (db : Database) (org : String) (userId : Int) (minRole : OrgRole) : Prop :=
  ∃ role, (db.memberships.lookup (org, userId)).map (·.role) = some role ∧
    roleRank minRole ≤ roleRank role

/-- The role that the route with an organization in its path demands. To create an
organization writes an owner, as adding a member does. -/
def AdminRequest.minRole : AdminRequest → OrgRole
  | .listOrgs | .listMembers _ => .member
  | .createOrg _ | .addMember _ _ | .updateMember _ _ _ | .removeMember _ _ => .owner

namespace RouteRequest

/-- The cookie of a request that an admin session authenticates. -/
def session : RouteRequest → Option String
  | .request (.admin cookie _) => some cookie
  | .operation cookie _ _ => some cookie
  | _ => none

def minRole : RouteRequest → OrgRole
  | .request (.admin _ asked) => asked.minRole
  | .operation _ _ asked => asked.minRole
  | _ => .member

end RouteRequest

/-- What the server does not check: an alias that writes is called by an owner of the
default organization, and an organization that exists is created by its owner. -/
structure Entitled (db : Database) (call : RouteCall) : Prop where
  aliases : ∀ cookie operation userId, call.request = .operation cookie none operation →
    caller call.env cookie db = some userId → operation.minRole = .owner →
    db.IsOwner defaultOrgID userId
  creates : ∀ request, call.request = .request request → CreatesOwnOrNew db ⟨call.env, request⟩

section Steps

variable {db : Database} {org : String} {userId : Int}

theorem Database.IsOwner.hasRole (owner : db.IsOwner org userId) (minRole : OrgRole) :
    db.HasRole org userId minRole := by
  refine ⟨.owner, owner, ?_⟩
  cases minRole <;> decide

/-- An operation leaves every organization but its own alone. -/
theorem OrgOperation.handle_sameOrg (env : Environment) (path : String) (operation : OrgOperation)
    (valid : validateOrgID org = .ok org) (foreign : validateOrgID path ≠ .ok org) :
    Ensures (operation.handle env path) db (fun _ after => db.SameOrg after org)
      (fun _ after => db.SameOrg after org) := by
  -- A path that names no organization stands for the default one, as it does in the store.
  have current : validateOrgID (currentOrgID (some path)) ≠ .ok org := by
    cases named : path.isEmpty with
    | false =>
        rw [currentOrgID_some named]
        exact foreign
    | true =>
        have blank : path = "" := by simpa using named
        have same : validateOrgID "" = validateOrgID (currentOrgID (some "")) := by decide
        rw [blank] at foreign ⊢
        rw [← same]
        exact foreign
  refine (operation.handle_writes env path db).mono ?_ (fun _ _ writes => writes.sameOrg valid foreign)
  rintro _ after (writes | writes)
  · exact writes.sameOrg valid foreign
  · exact writes.sameOrg valid current

theorem serveOperation_sameOrg (env : Environment) (operation : OrgOperation) (path : Option String)
    (valid : validateOrgID org = .ok org)
    (entitled : path = none → operation.minRole = .owner → db.IsOwner defaultOrgID userId) :
    Ensures (serveOperation env userId operation path) db
      (fun _ after => db.SameOrg after org ∨ db.HasRole org userId operation.minRole)
      (fun _ after => db.SameOrg after org ∨ db.HasRole org userId operation.minRole) := by
  cases path with
  | some path =>
      apply ensures_bind
      refine (requireOrgRole_ensures env path _ userId db).mono ?_ (fun _ _ same => .inl (by rw [same]; exact .refl))
      rintro _ _ ⟨rfl, id, role, normal, found, high⟩
      by_cases own : id = org
      · subst own
        exact (ensures_self _ _).mono (fun _ _ _ => .inr ⟨role, found, high⟩)
          (fun _ _ _ => .inr ⟨role, found, high⟩)
      · have foreign : validateOrgID path ≠ .ok org := by
          intro named
          exact own (Except.ok.inj (normal.symm.trans named))
        exact (operation.handle_sameOrg env path valid foreign).mono (fun _ _ same => .inl same)
          (fun _ _ same => .inl same)
  | none =>
      by_cases own : defaultOrgID = org
      · subst own
        cases demanded : operation.minRole with
        | owner =>
            have owner := entitled rfl demanded
            exact (ensures_self _ _).mono (fun _ _ _ => .inr (owner.hasRole _))
              (fun _ _ _ => .inr (owner.hasRole _))
        | member =>
            exact (operation.handle_reads env defaultOrgID demanded db).mono
              (fun _ _ same => .inl (by rw [same]; exact .refl))
              (fun _ _ same => .inl (by rw [same]; exact .refl))
        | admin => cases operation <;> cases demanded
      · have foreign : validateOrgID defaultOrgID ≠ .ok org := by
          intro named
          exact own (Except.ok.inj (defaultOrgID_valid.symm.trans named))
        exact (operation.handle_sameOrg env defaultOrgID valid foreign).mono (fun _ _ same => .inl same)
          (fun _ _ same => .inl same)

theorem map_snd {α β : Type} (convert : α → β) (handler : Handler α) (db : Database) :
    ((convert <$> handler) db).2 = (handler db).2 := by
  rw [map_eq_pure_bind, run_bind]
  rcases handler db with ⟨_ | _, _⟩ <;> rfl

theorem serve_admin_sameOrg {env : Environment} {cookie : String} {request : AdminRequest}
    (entitled : CreatesOwnOrNew db ⟨env, .admin cookie request⟩) (existing : db.Exists org) :
    db.SameOrg (handle env (.admin cookie request) db).2 org ∨
      ∃ userId, caller env cookie db = some userId ∧ db.IsOwner org userId := by
  have writes : AccountWrites db (handle env (.admin cookie request) db).2 := by
    apply Ensures.finally (AccountWrites db)
    apply ensures_bind
    refine (requireSession_writes env cookie db).mono ?_ (fun _ _ writes => writes)
    rintro userId _ rfl
    exact handleAdmin_writes env userId request _
  rcases serve_admin_ensures rfl entitled with same | ⟨userId, called, decided⟩
  · refine .inl (writes.sameOrg fun member => ?_)
    exact congrArg (·.lookup (org, member)) same
  · by_cases owner : db.IsOwner org userId
    · exact .inr ⟨userId, called, owner⟩
    · refine .inl (writes.sameOrg fun member => ?_)
      by_contra changed
      exact owner (decided org member changed existing)

theorem sessionOperation_sameOrg {env : Environment} {cookie : String} {path : Option String}
    {operation : OrgOperation} (valid : validateOrgID org = .ok org)
    (entitled : ∀ userId, caller env cookie db = some userId → path = none →
      operation.minRole = .owner → db.IsOwner defaultOrgID userId) :
    db.SameOrg (route env (.operation cookie path operation) db).2 org ∨
      ∃ userId, caller env cookie db = some userId ∧ db.HasRole org userId operation.minRole := by
  apply Ensures.finally fun after => db.SameOrg after org ∨
    ∃ userId, caller env cookie db = some userId ∧ db.HasRole org userId operation.minRole
  apply ensures_bind
  refine ((requireSession_ensures env cookie db).and
    ((requireSession_writes env cookie db).and (ensures_self _ _))).mono ?_ ?_
  · rintro userId checked ⟨rfl, _, ended⟩
    have called : caller env cookie checked = some userId := by
      simp [caller, ended, Except.toOption]
    have written := serveOperation_sameOrg env operation path valid (entitled userId called)
    exact written.mono (fun _ _ written => written.imp id fun role => ⟨userId, called, role⟩)
      (fun _ _ written => written.imp id fun role => ⟨userId, called, role⟩)
  · rintro _ after ⟨same, writes, _⟩
    exact .inl (writes.sameOrg fun userId => congrArg (·.lookup (org, userId)) same)

/-- A request with a session changes an organization only for a user with the role. -/
theorem serveRoute_sameOrg {call : RouteCall} {cookie : String}
    (formed : db.WellFormed) (asked : call.request.session = some cookie)
    (entitled : Entitled db call) (existing : db.Exists org) :
    db.SameOrg (serveRoute call db).2 org ∨
      ∃ userId, caller call.env cookie db = some userId ∧ db.HasRole org userId call.request.minRole := by
  have valid := formed.organizations org existing
  obtain ⟨env, request⟩ := call
  cases request with
  | request request =>
      cases request with
      | admin session request =>
          cases asked
          have written := serve_admin_sameOrg (entitled.creates _ rfl) existing
          have ended : (serveRoute ⟨env, .request (.admin cookie request)⟩ db).2 =
              (handle env (.admin cookie request) db).2 := map_snd _ _ _
          rw [ended]
          exact written.imp id fun ⟨userId, called, owner⟩ => ⟨userId, called, owner.hasRole _⟩
      | _ => cases asked
  | operation session path operation =>
      cases asked
      refine sessionOperation_sameOrg valid ?_
      rintro userId called rfl demanded
      exact entitled.aliases cookie operation userId rfl called demanded
  | bearer authorization request => cases asked

end Steps

/-!
## Runs
-/

/-- In a run whose aliases are called by owners, a request with a session changes an
organization only if its user has the role that the route with the organization in
its path demands. -/
theorem organizations_changed_only_by_role_holders (now : Nat) (calls : List RouteCall)
    (allowed : Guarded serveRoute Entitled (Database.migrated now) calls)
    (before after : List RouteCall) (call : RouteCall) (split : calls = before ++ call :: after)
    (cookie : String) (asked : call.request.session = some cookie) (org : String) :
    let reached := runFrom serveRoute (Database.migrated now) before
    reached.Exists org → ¬ reached.SameOrg (serveRoute call reached).2 org →
      ∃ userId, caller call.env cookie reached = some userId ∧
        reached.HasRole org userId call.request.minRole := by
  intro reached existing changed
  rw [split] at allowed
  have here : Entitled reached call := (guarded_append.mp allowed).2.1
  rcases serveRoute_sameOrg (reachable_wellFormed now before) asked here existing with same | role
  · exact absurd same changed
  · exact role

/-!
## An alias
-/

def Call.routeCall (call : Call) : RouteCall where
  env := call.env
  request := .request call.request

def routeHistory (username : String) : List RouteCall := (sampleHistory username).map Call.routeCall

/-- The logged-in user creates an app in the default organization through the alias. -/
def createShop : RouteCall where
  env := sampleEnv ""
  request := .operation userToken.1 none (.createApp (.ok (App.new "shop" "Shop")))

def routeDatabase (username : String) : Database :=
  runFrom serveRoute (Database.migrated 0) (routeHistory username)

theorem createShop_changes (username : String) (created : ((serveRoute createShop
      (routeDatabase username)).2.apps.lookup (defaultOrgID, "shop")).isSome ≠
      ((routeDatabase username).apps.lookup (defaultOrgID, "shop")).isSome) :
    ¬ (routeDatabase username).SameOrg (serveRoute createShop (routeDatabase username)).2
      defaultOrgID := by
  intro same
  exact created (congrArg Option.isSome (same.apps "shop"))

theorem entitled_of_other {db : Database} {call : RouteCall} (other : call.request.session = none) :
    Entitled db call := by
  constructor
  · intro cookie operation userId asked
    rw [asked] at other
    cases other
  · intro request asked cookie admin userId id made
    dsimp only at made
    rw [asked, made] at other
    cases other

theorem owner_creates_shop :
    ∃ userId, caller (sampleEnv "") userToken.1 (routeDatabase "admin") = some userId ∧
      (routeDatabase "admin").HasRole defaultOrgID userId .owner := by
  have called : caller (sampleEnv "") userToken.1 (routeDatabase "admin") = some 1 := by decide
  have owner : (routeDatabase "admin").IsOwner defaultOrgID 1 := by
    unfold Database.IsOwner
    decide
  have existing : (routeDatabase "admin").Exists defaultOrgID := by
    unfold Database.Exists
    decide
  have allowed : Guarded serveRoute Entitled (Database.migrated 0) (routeHistory "admin" ++ [createShop]) := by
    refine ⟨entitled_of_other rfl, entitled_of_other rfl, entitled_of_other rfl, ⟨?_, ?_⟩, trivial⟩
    · intro cookie operation userId asked asker _
      cases asked
      cases called.symm.trans asker
      exact owner
    · intro request asked
      cases asked
  exact organizations_changed_only_by_role_holders 0 (routeHistory "admin" ++ [createShop]) allowed
    (routeHistory "admin") [] createShop rfl userToken.1 rfl defaultOrgID existing
    (createShop_changes "admin" (by decide))

/-- A user without any membership creates an app in the default organization. -/
theorem alias_skips_role_check :
    ¬ ∀ (now : Nat) (calls before after : List RouteCall) (call : RouteCall) (cookie org : String),
      calls = before ++ call :: after → call.request.session = some cookie →
      let reached := runFrom serveRoute (Database.migrated now) before
      reached.Exists org → ¬ reached.SameOrg (serveRoute call reached).2 org →
      ∃ userId, caller call.env cookie reached = some userId ∧
        reached.HasRole org userId call.request.minRole := by
  intro secure
  have existing : (routeDatabase "reader").Exists defaultOrgID := by
    unfold Database.Exists
    decide
  have changed := createShop_changes "reader" (by decide)
  obtain ⟨userId, called, role, found, high⟩ := secure 0 (routeHistory "reader" ++ [createShop])
    (routeHistory "reader") [] createShop userToken.1 defaultOrgID rfl rfl existing changed
  have reader : caller (sampleEnv "") userToken.1 (routeDatabase "reader") = some 2 := by decide
  cases reader.symm.trans called
  have none : ((routeDatabase "reader").memberships.lookup (defaultOrgID, 2)).map (·.role) = none := by
    decide
  cases none.symm.trans found

end CodePush.Server
