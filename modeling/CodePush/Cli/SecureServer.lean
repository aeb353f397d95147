import CodePush.Core.Basic
import CodePush.Foundation.Uri

/-!
# Servers that keys are fetched from

`enforce_secure_server` of `cli/src/main.rs`, against the host that a client connects to.
The two take the same host out of a text unless it has user information that looks like a
loopback host.
-/

set_option autoImplicit false

namespace CodePush.Cli

open CodePush.Core CodePush.Foundation

/-- The hosts that plain HTTP is allowed to. -/
def loopbackHosts : List (List Char) := ["localhost".toList, "127.0.0.1".toList, "::1".toList]

/-- The host that `enforce_secure_server` compares, of the text after `http://`. -/
def serverHost (rest : List Char) : List Char :=
  match rest.takeWhile (· != '/') with
  | '[' :: value => value.takeWhile (· != ']')
  | hostPort => hostPort.takeWhile (· != ':')

def enforceSecureServer (server : String) : Result Unit :=
  if "https://".toList.isPrefixOf server.toList then .ok ()
  else if "http://".toList.isPrefixOf server.toList ∧ serverHost (server.toList.drop 7) ∈ loopbackHosts then .ok ()
  else err "HTTPS is required when fetching public keys from non-localhost servers"

/-- A client of the server uses TLS, or does not leave the machine. -/
def SecurePeer (server : String) : Prop :=
  Uri.scheme server.toList = "https".toList ∨ ∀ host, Uri.hostOf server.toList = some host → host ∈ loopbackHosts

/-- How user information starts that is taken for a loopback host. -/
def loopbackMarks : List (List Char) :=
  ["localhost:".toList, "127.0.0.1:".toList, "[localhost]".toList, "[127.0.0.1]".toList, "[::1]".toList]

/-- Plain HTTP to another host, behind user information that looks like a loopback host. -/
def Disguised (server : String) : Prop :=
  ∃ userinfo back host, server.toList = "http://".toList ++ (userinfo ++ '@' :: back) ∧
    (∀ char ∈ userinfo, Uri.inAuthority char = true) ∧ '@' ∉ Uri.authority back ∧
    (∃ mark ∈ loopbackMarks, mark <+: userinfo) ∧
    Uri.host (Uri.authority back) = some host ∧ host ∉ loopbackHosts

section Hosts

variable {rest userinfo back : List Char}

/-- Nothing that ends an authority or its user information is part of a loopback host. -/
theorem loopback_plain {name : List Char} (loopback : name ∈ loopbackHosts) :
    (∀ char ∈ name, Uri.inAuthority char = true) ∧ '@' ∉ name := by
  have plain : ∀ name ∈ loopbackHosts, name.all (Uri.inAuthority · == true) = true ∧ '@' ∉ name := by decide
  obtain ⟨inside, unsigned⟩ := plain name loopback
  exact ⟨forall_mem_of_all inside, unsigned⟩

theorem inAuthority_not_slash {char : Char} (inside : Uri.inAuthority char = true) : (char != '/') = true := by
  unfold Uri.inAuthority at inside
  simp only [Bool.and_eq_true] at inside
  exact inside.1.1

theorem serverHost_bracket {value : List Char} :
    serverHost ('[' :: value) = (value.takeWhile (· != '/')).takeWhile (· != ']') := rfl

theorem serverHost_name (plain : rest.head? ≠ some '[') :
    serverHost rest = (rest.takeWhile (· != '/')).takeWhile (· != ':') := by
  unfold serverHost
  split
  case h_1 value cut =>
    have first : (rest.takeWhile (· != '/')).head? = some '[' := by
      rw [cut]
      rfl
    exact absurd (Uri.head?_of_takeWhile first) plain
  case h_2 => rfl

/-- Without user information the host that is compared is the host of the URI. -/
theorem host_of_serverHost (loopback : serverHost rest ∈ loopbackHosts) {host : List Char}
    (connects : Uri.host (Uri.authority rest) = some host) : host = serverHost rest := by
  obtain ⟨plain, _⟩ := loopback_plain loopback
  by_cases bracket : rest.head? = some '['
  · obtain ⟨value, rfl⟩ := List.head?_eq_some_iff.mp bracket
    rw [serverHost_bracket] at plain ⊢
    rw [← Uri.takeWhile_within (fun _ => inAuthority_not_slash) plain]
    exact Uri.host_bracket connects
  · rw [serverHost_name bracket] at plain ⊢
    rw [← Uri.takeWhile_within (fun _ => inAuthority_not_slash) plain]
    have first : (Uri.authority rest).head? ≠ some '[' := fun first => bracket (Uri.head?_of_takeWhile first)
    rw [Uri.host_name first] at connects
    exact (Option.some.inj connects).symm

/-- User information that starts with such a mark is taken for the host. -/
theorem serverHost_of_mark {mark : List Char} (member : mark ∈ loopbackMarks) (starts : mark <+: userinfo) :
    serverHost (userinfo ++ '@' :: back) ∈ loopbackHosts := by
  obtain ⟨more, rfl⟩ := starts
  simp only [loopbackMarks, List.mem_cons, List.not_mem_nil, or_false] at member
  obtain rfl | rfl | rfl | rfl | rfl := member
  · exact List.mem_cons_self
  · exact List.mem_cons_of_mem _ List.mem_cons_self
  · exact List.mem_cons_self
  · exact List.mem_cons_of_mem _ List.mem_cons_self
  · exact List.mem_cons_of_mem _ (List.mem_cons_of_mem _ List.mem_cons_self)

/-- User information that is taken for a loopback host starts with such a mark. -/
theorem mark_of_serverHost (inside : ∀ char ∈ userinfo, Uri.inAuthority char = true)
    (loopback : serverHost (userinfo ++ '@' :: back) ∈ loopbackHosts) :
    ∃ mark ∈ loopbackMarks, mark <+: userinfo := by
  have whole : ∀ front : List Char, (∀ char ∈ front, Uri.inAuthority char = true) →
      (front ++ '@' :: back).takeWhile (· != '/') = front ++ '@' :: back.takeWhile (· != '/') := by
    intro front inside
    rw [List.takeWhile_append_of_pos fun char member => inAuthority_not_slash (inside char member)]
    rfl
  obtain ⟨_, plain⟩ := loopback_plain loopback
  by_cases bracket : userinfo.head? = some '['
  · obtain ⟨value, rfl⟩ := List.head?_eq_some_iff.mp bracket
    rw [List.cons_append, serverHost_bracket,
      whole value fun char member => inside char (List.mem_cons_of_mem _ member)] at loopback plain
    have starts := Uri.ended_prefix (by decide) plain
    simp only [loopbackHosts, List.mem_cons, List.not_mem_nil, or_false] at loopback
    obtain name | name | name := loopback
    · rw [name] at starts
      exact ⟨"[localhost]".toList, by decide, List.cons_prefix_cons.mpr ⟨rfl, starts⟩⟩
    · rw [name] at starts
      exact ⟨"[127.0.0.1]".toList, by decide, List.cons_prefix_cons.mpr ⟨rfl, starts⟩⟩
    · rw [name] at starts
      exact ⟨"[::1]".toList, by decide, List.cons_prefix_cons.mpr ⟨rfl, starts⟩⟩
  · have first : (userinfo ++ '@' :: back).head? ≠ some '[' := by
      cases userinfo with
      | nil => simp
      | cons char userinfo => exact bracket
    rw [serverHost_name first, whole userinfo inside] at loopback plain
    have starts := Uri.ended_prefix (by decide) plain
    have ended : ':' ∉ (userinfo ++ '@' :: back.takeWhile (· != '/')).takeWhile (· != ':') :=
      fun member => absurd (List.mem_takeWhile_imp member) (by decide)
    simp only [loopbackHosts, List.mem_cons, List.not_mem_nil, or_false] at loopback
    obtain name | name | name := loopback
    · rw [name] at starts
      exact ⟨"localhost:".toList, by decide, starts⟩
    · rw [name] at starts
      exact ⟨"127.0.0.1:".toList, by decide, starts⟩
    · rw [name] at ended
      exact absurd ended (by decide)

end Hosts

theorem enforceSecureServer_http {server : String} {rest : List Char}
    (plain : server.toList = "http://".toList ++ rest) :
    enforceSecureServer server = .ok () ↔ serverHost rest ∈ loopbackHosts := by
  have tls : "https://".toList.isPrefixOf ("http://".toList ++ rest) = false := rfl
  unfold enforceSecureServer
  rw [plain, tls, if_neg Bool.false_ne_true]
  constructor
  · intro accepted
    by_contra other
    rw [if_neg fun loopback => other loopback.2] at accepted
    cases accepted
  · intro loopback
    exact if_pos ⟨rfl, loopback⟩

/-- What is accepted starts with one of the two schemes. -/
theorem enforceSecureServer_cases {server : String} (accepted : enforceSecureServer server = .ok ()) :
    Uri.scheme server.toList = "https".toList ∨ ∃ rest, server.toList = "http://".toList ++ rest := by
  unfold enforceSecureServer at accepted
  split at accepted
  case isTrue tls =>
    obtain ⟨rest, split⟩ := List.isPrefixOf_iff_prefix.mp tls
    left
    rw [← split]
    rfl
  case isFalse =>
    split at accepted
    case isTrue loopback =>
      obtain ⟨rest, split⟩ := List.isPrefixOf_iff_prefix.mp loopback.1
      exact .inr ⟨rest, split.symm⟩
    case isFalse => cases accepted

theorem hostOf_http {uri rest : List Char} (plain : uri = "http://".toList ++ rest) :
    Uri.hostOf uri = Uri.host (Uri.hostPort (Uri.authority rest)) := by
  rw [plain]
  rfl

theorem plain_http_stays_on_loopback_iff (server : String) :
    (enforceSecureServer server = .ok () → SecurePeer server) ↔ ¬Disguised server := by
  constructor
  · intro secure disguised
    obtain ⟨userinfo, back, host, split, inside, plain, ⟨mark, member, starts⟩, connects, other⟩ := disguised
    obtain tls | loopback := secure ((enforceSecureServer_http split).mpr (serverHost_of_mark member starts))
    · rw [split] at tls
      cases tls
    · apply other
      apply loopback
      rw [hostOf_http split, Uri.authority_append inside]
      have at' : Uri.authority ('@' :: back) = '@' :: Uri.authority back := rfl
      rw [at', Uri.hostPort_userinfo plain]
      exact connects
  · intro honest accepted
    obtain tls | ⟨rest, split⟩ := enforceSecureServer_cases accepted
    · exact .inl tls
    right
    intro host connects
    rw [hostOf_http split] at connects
    have loopback := (enforceSecureServer_http split).mp accepted
    by_cases user : '@' ∈ Uri.authority rest
    case neg =>
      rw [Uri.hostPort_plain user] at connects
      rw [host_of_serverHost loopback connects]
      exact loopback
    obtain ⟨userinfo, hostPort, cut, plain⟩ := Uri.exists_userinfo user
    obtain ⟨tail, whole, ends⟩ := Uri.authority_split rest
    rw [cut, Uri.hostPort_userinfo plain] at connects
    have inAuthority : ∀ char ∈ userinfo ++ '@' :: hostPort, Uri.inAuthority char = true := by
      intro char member
      rw [← cut] at member
      exact Uri.inAuthority_of_mem member
    have inside : ∀ char ∈ userinfo, Uri.inAuthority char = true :=
      fun char member => inAuthority char (List.mem_append_left _ member)
    have again : Uri.authority (hostPort ++ tail) = hostPort := by
      rw [Uri.authority_append fun char member =>
        inAuthority char (List.mem_append_right _ (List.mem_cons_of_mem _ member)), ends, List.append_nil]
    rw [cut, List.append_assoc, List.cons_append] at whole
    rw [whole] at split loopback
    by_contra other
    refine honest ⟨userinfo, hostPort ++ tail, host, split, inside, ?_, mark_of_serverHost inside loopback, ?_, other⟩
    · rw [again]
      exact plain
    · rw [again]
      exact connects

theorem userinfo_sends_key_request_elsewhere :
    enforceSecureServer "http://localhost:80@evil.com/" = .ok () ∧
      Uri.hostOf "http://localhost:80@evil.com/".toList = some "evil.com".toList ∧
      ¬SecurePeer "http://localhost:80@evil.com/" := by
  refine ⟨by decide, by decide, fun secure => ?_⟩
  obtain tls | loopback := secure
  · exact absurd tls (by decide)
  · exact absurd (loopback "evil.com".toList (by decide)) (by decide)

end CodePush.Cli
