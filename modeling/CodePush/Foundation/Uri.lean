import Mathlib

/-!
# The host of a URI

The generic syntax of RFC 3986, as far as it says which host a client connects to: the
authority ends at `/`, `?` or `#`, the user information at its last `@`, and an address in
brackets at the closing one.
-/

set_option autoImplicit false

namespace CodePush.Foundation.Uri

def inAuthority (char : Char) : Bool := char != '/' && char != '?' && char != '#'

/-- The authority of what follows `//`. -/
def authority (rest : List Char) : List Char := rest.takeWhile inAuthority

/-- The authority without the user information. -/
def hostPort (authority : List Char) : List Char := (authority.reverse.takeWhile (· != '@')).reverse

/-- `none` where a bracket is not closed, or something else than a port follows the closing one. -/
def host (hostPort : List Char) : Option (List Char) :=
  match hostPort with
  | '[' :: address =>
      match address.dropWhile (· != ']') with
      | [_] => some (address.takeWhile (· != ']'))
      | _ :: ':' :: _ => some (address.takeWhile (· != ']'))
      | _ => none
  | _ => some (hostPort.takeWhile (· != ':'))

def scheme (uri : List Char) : List Char := uri.takeWhile (· != ':')

/-- The host of a URI with an authority. -/
def hostOf (uri : List Char) : Option (List Char) :=
  match uri.dropWhile (· != ':') with
  | ':' :: '/' :: '/' :: rest => host (hostPort (authority rest))
  | _ => none

section Authorities

variable {front rest : List Char}

theorem authority_append (inside : ∀ char ∈ front, inAuthority char = true) :
    authority (front ++ rest) = front ++ authority rest :=
  List.takeWhile_append_of_pos inside

theorem inAuthority_of_mem {char : Char} (member : char ∈ authority rest) : inAuthority char = true :=
  List.mem_takeWhile_imp member

/-- What follows an authority does not belong to it. -/
theorem authority_split (rest : List Char) : ∃ tail, rest = authority rest ++ tail ∧ authority tail = [] := by
  refine ⟨rest.dropWhile inAuthority, (List.takeWhile_append_dropWhile).symm, ?_⟩
  unfold authority
  rw [List.takeWhile_eq_nil_iff]
  intro present
  have stops := List.dropWhile_get_zero_not inAuthority rest present
  exact stops

theorem host_name (plain : rest.head? ≠ some '[') : host rest = some (rest.takeWhile (· != ':')) := by
  unfold host
  split
  case h_1 => exact absurd rfl plain
  case h_2 => rfl

theorem host_bracket {address name : List Char} (found : host ('[' :: address) = some name) :
    name = address.takeWhile (· != ']') := by
  unfold host at found
  split at found
  case h_1 text inside same =>
    obtain rfl := (List.cons.inj same).2
    split at found
    · exact (Option.some.inj found).symm
    · exact (Option.some.inj found).symm
    · cases found
  case h_2 other => exact absurd rfl (other address)

/-- What starts a word starts the text. -/
theorem head?_of_takeWhile {keeps : Char → Bool} {char : Char}
    (first : (rest.takeWhile keeps).head? = some char) : rest.head? = some char := by
  rw [List.head?_takeWhile] at first
  exact (Option.filter_eq_some_iff.mp first).1

theorem hostPort_plain (plain : '@' ∉ rest) : hostPort rest = rest := by
  unfold hostPort
  rw [List.takeWhile_eq_self_iff.mpr, List.reverse_reverse]
  intro char member
  rw [bne_iff_ne]
  intro same
  exact plain (same ▸ List.mem_reverse.mp member)

theorem hostPort_userinfo (plain : '@' ∉ rest) : hostPort (front ++ '@' :: rest) = rest := by
  unfold hostPort
  rw [List.reverse_append, List.reverse_cons, List.append_assoc, List.takeWhile_append_of_pos]
  · simp
  · intro char member
    rw [bne_iff_ne]
    intro same
    exact plain (same ▸ List.mem_reverse.mp member)

/-- The user information ends at the last `@`. -/
theorem exists_userinfo {authority : List Char} (member : '@' ∈ authority) :
    ∃ front rest, authority = front ++ '@' :: rest ∧ '@' ∉ rest := by
  obtain ⟨back, front, split, plain⟩ := List.eq_append_cons_of_mem (List.mem_reverse.mpr member)
  refine ⟨front.reverse, back.reverse, ?_, fun member => plain (List.mem_reverse.mp member)⟩
  rw [← authority.reverse_reverse, split]
  simp

/-- A word that holds no end of the text is the same in the shorter text. -/
theorem takeWhile_within {shorter longer keeps : Char → Bool} {text : List Char}
    (within : ∀ char, shorter char = true → longer char = true)
    (inside : ∀ char ∈ (text.takeWhile longer).takeWhile keeps, shorter char = true) :
    (text.takeWhile shorter).takeWhile keeps = (text.takeWhile longer).takeWhile keeps := by
  induction text with
  | nil => rfl
  | cons char text ih =>
      by_cases long : longer char = true
      case neg =>
        have short : ¬shorter char = true := fun here => long (within char here)
        rw [List.takeWhile_cons_of_neg long, List.takeWhile_cons_of_neg short]
      rw [List.takeWhile_cons_of_pos long] at inside ⊢
      by_cases kept : keeps char = true
      case pos =>
        rw [List.takeWhile_cons_of_pos kept] at inside ⊢
        rw [List.takeWhile_cons_of_pos (inside char List.mem_cons_self), List.takeWhile_cons_of_pos kept,
          ih fun other member => inside other (List.mem_cons_of_mem _ member)]
      case neg =>
        rw [List.takeWhile_cons_of_neg kept]
        by_cases short : shorter char = true
        · rw [List.takeWhile_cons_of_pos short, List.takeWhile_cons_of_neg kept]
        · rw [List.takeWhile_cons_of_neg short]
          rfl

/-- A word that ends in front of a mark it does not hold stands in front of the mark, its end included. -/
theorem ended_prefix {stop mark : Char} (apart : stop ≠ mark)
    (plain : mark ∉ (front ++ mark :: rest).takeWhile (· != stop)) :
    (front ++ mark :: rest).takeWhile (· != stop) ++ [stop] <+: front := by
  induction front with
  | nil =>
      have goes : (mark != stop) = true := bne_iff_ne.mpr apart.symm
      rw [List.nil_append, List.takeWhile_cons, if_pos goes] at plain
      exact absurd List.mem_cons_self plain
  | cons char front ih =>
      rw [List.cons_append] at plain ⊢
      by_cases ended : char = stop
      · subst ended
        rw [List.takeWhile_cons_of_neg (by simp)]
        exact List.prefix_append [char] front
      · have goes : (char != stop) = true := bne_iff_ne.mpr ended
        rw [List.takeWhile_cons, if_pos goes] at plain ⊢
        exact List.cons_prefix_cons.mpr ⟨rfl, ih fun member => plain (List.mem_cons_of_mem _ member)⟩

end Authorities

end CodePush.Foundation.Uri
