import CodePush.Core.Manifest
import CodePush.Foundation.Codes
import CodePush.Foundation.Tables

/-!
# Canonical JSON

A printed value can be read back in one way only, and its canonical form does not depend
on the order of its members.
-/

set_option autoImplicit false

namespace CodePush.Core

open CodePush.Foundation

/-!
## Texts and numbers
-/

/-- The characters that are escaped. -/
def specialChars : List Char := ((List.range 0x20) ++ [0x22, 0x5c]).map Char.ofNat

theorem mem_specialChars {char : Char}
    (special : char.toNat < 0x20 ∨ char.toNat = 0x22 ∨ char.toNat = 0x5c) : char ∈ specialChars := by
  refine List.mem_map.mpr ⟨char.toNat, ?_, Char.ofNat_toNat char⟩
  simpa [List.mem_append] using special

/-- No escape starts another one. -/
theorem escapes_apart : ∀ one ∈ specialChars, ∀ other ∈ specialChars,
    (Json.escapeChar one).toList <+: (Json.escapeChar other).toList → one = other := by
  have checked : specialChars.all (fun one => specialChars.all fun other =>
      decide ((Json.escapeChar one).toList <+: (Json.escapeChar other).toList → one = other)) = true := by
    decide
  intro one special other otherSpecial
  exact of_decide_eq_true (List.all_eq_true.mp (List.all_eq_true.mp checked one special) other otherSpecial)

theorem escapes_start : ∀ char ∈ specialChars, (Json.escapeChar char).toList.head? = some '\\' := by
  have checked : specialChars.all (fun char =>
      decide ((Json.escapeChar char).toList.head? = some '\\')) = true := by decide
  intro char special
  exact of_decide_eq_true (List.all_eq_true.mp checked char special)

theorem escapeChar_plain {char : Char}
    (plain : ¬ (char.toNat < 0x20 ∨ char.toNat = 0x22 ∨ char.toNat = 0x5c)) :
    (Json.escapeChar char).toList = [char] := by
  simp only [not_or, not_lt] at plain
  obtain ⟨printable, quote, backslash⟩ := plain
  unfold Json.escapeChar
  split
  all_goals try omega
  split
  · omega
  · exact String.toList_singleton char

/-- An escaped character is a single one, or starts with a backslash. -/
theorem escapeChar_cases (char : Char) :
    (char ∈ specialChars ∧ (Json.escapeChar char).toList.head? = some '\\') ∨
      ((Json.escapeChar char).toList = [char] ∧ char ≠ '\\' ∧ char ≠ '"') := by
  by_cases special : char.toNat < 0x20 ∨ char.toNat = 0x22 ∨ char.toNat = 0x5c
  · exact .inl ⟨mem_specialChars special, escapes_start char (mem_specialChars special)⟩
  · refine .inr ⟨escapeChar_plain special, ?_, ?_⟩
    · rintro rfl
      exact special (by decide)
    · rintro rfl
      exact special (by decide)

theorem escapeChar_determines :
    Determines (fun _ => True) fun char => (Json.escapeChar char).toList := by
  intro one other rest rest' _ _ same
  dsimp only at same
  have head := congrArg List.head? same
  rcases escapeChar_cases one with ⟨special, starts⟩ | ⟨plain, notSpecial, _⟩
  · rcases escapeChar_cases other with ⟨special', starts'⟩ | ⟨plain', notSpecial', _⟩
    · have apart : one = other := by
        have left : (Json.escapeChar one).toList <+: (Json.escapeChar one).toList ++ rest :=
          ⟨rest, rfl⟩
        have right : (Json.escapeChar other).toList <+: (Json.escapeChar one).toList ++ rest :=
          ⟨rest', same.symm⟩
        rcases List.prefix_or_prefix_of_prefix left right with front | front
        · exact escapes_apart one special other special' front
        · exact (escapes_apart other special' one special front).symm
      subst apart
      exact ⟨rfl, List.append_cancel_left same⟩
    · rw [plain', List.head?_append, starts] at head
      exact absurd (Option.some.inj head).symm notSpecial'
  · rcases escapeChar_cases other with ⟨special', starts'⟩ | ⟨plain', notSpecial', _⟩
    · rw [plain, List.head?_append, List.head?_append, starts'] at head
      exact absurd (Option.some.inj head) notSpecial
    · rw [plain, plain'] at same
      exact List.cons.inj same

theorem escapeChar_starts (char : Char) :
    ∃ symbol rest, (Json.escapeChar char).toList = symbol :: rest ∧ symbol ≠ '"' := by
  rcases escapeChar_cases char with ⟨_, starts⟩ | ⟨plain, _, notQuote⟩
  · obtain ⟨rest, word⟩ := List.head?_eq_some_iff.mp starts
    exact ⟨'\\', rest, word, by decide⟩
  · exact ⟨char, [], plain, notQuote⟩

theorem toList_printString (text : String) : (Json.printString text).toList =
    '"' :: ((text.toList.flatMap fun char => (Json.escapeChar char).toList) ++ ['"']) := by
  simp [Json.printString, String.toList_join, List.flatMap_map]

theorem printString_determines : Determines (fun _ => True) fun text => (Json.printString text).toList := by
  intro one other rest rest' _ _ same
  simp only [toList_printString, List.cons_append, List.append_assoc, List.nil_append] at same
  obtain ⟨texts, ends⟩ := escapeChar_determines.flatMap escapeChar_starts rfl rfl (List.cons.inj same).2
  exact ⟨String.toList_inj.mp texts, (List.cons.inj ends).2⟩

def isNumeric (char : Char) : Bool := char.isDigit || char == '-'

theorem toString_numeric (value : Int) : ∀ char ∈ (toString value).toList, isNumeric char = true := by
  intro char member
  rw [Int.toString_eq_repr, Int.repr_eq_if] at member
  have digits : ∀ number : Nat, char ∈ number.repr.toList → isNumeric char = true := by
    intro number inside
    have digit : char ∈ Nat.toDigits 10 number := by simpa [Nat.repr] using inside
    simp [isNumeric, Nat.isDigit_of_mem_toDigits (by decide) (by decide) digit]
  split at member
  · exact digits _ member
  · rw [String.toList_append] at member
    rcases List.mem_append.mp member with minus | inside
    · have sign : char = '-' := by simpa using minus
      rw [sign]
      decide
    · exact digits _ inside

theorem repr_injective {one other : Nat} (same : one.repr = other.repr) : one = other := by
  have digits : Nat.toDigits 10 one = Nat.toDigits 10 other := by
    simpa [Nat.repr] using congrArg String.toList same
  rw [← @Nat.ofDigitChars_ten_toDigits one, digits, Nat.ofDigitChars_ten_toDigits]

theorem repr_starts (number : Nat) : number.repr.toList.head? ≠ some '-' := by
  intro minus
  have digit : '-' ∈ Nat.toDigits 10 number := by simpa [Nat.repr] using List.mem_of_head? minus
  cases Nat.isDigit_of_mem_toDigits (by decide) (by decide) digit

theorem toString_ne_nil (value : Int) : (toString value).toList ≠ [] := by
  have present : ∀ number : Nat, number.repr.toList ≠ [] := by
    intro number none
    have digits : Nat.toDigits 10 number = [] := by
      simp only [Nat.repr, String.toList_ofList] at none
      exact none
    have zero : number = 0 := by
      rw [← @Nat.ofDigitChars_ten_toDigits number, digits, Nat.ofDigitChars_nil]
    rw [zero] at digits
    cases digits
  rw [Int.toString_eq_repr, Int.repr_eq_if]
  split
  · exact present _
  · simp

theorem toString_injective {one other : Int} (same : (toString one).toList = (toString other).toList) :
    one = other := by
  rw [Int.toString_eq_repr, Int.toString_eq_repr, Int.repr_eq_if, Int.repr_eq_if] at same
  split at same
  · split at same
    · have magnitudes := repr_injective (String.toList_inj.mp same)
      omega
    · refine absurd ?_ (repr_starts one.toNat)
      rw [same]
      simp
  · split at same
    · refine absurd ?_ (repr_starts other.toNat)
      rw [← same]
      simp
    · have magnitudes := repr_injective (String.toList_inj.mp (by simpa using same))
      omega

theorem toString_determines : Determines
    (fun rest => ∀ symbol, rest.head? = some symbol → isNumeric symbol = false)
    fun value : Int => (toString value).toList :=
  Determines.of_letters (fun _ _ same => toString_injective same) toString_numeric

/-!
## Values
-/

/-- What a value starts with tells its kind. -/
def Json.kind : Json → Nat
  | .null => 0
  | .bool _ => 1
  | .num _ => 2
  | .str _ => 3
  | .arr _ => 4
  | .obj _ => 5

def kindOf (char : Char) : Nat :=
  if isNumeric char then 2
  else if char = 'n' then 0
  else if char = 't' ∨ char = 'f' then 1
  else if char = '"' then 3
  else if char = '[' then 4
  else if char = '\x7b' then 5
  else 6

theorem print_starts (value : Json) :
    ∃ symbol rest, value.print.toList = symbol :: rest ∧ kindOf symbol = value.kind := by
  cases value with
  | null => exact ⟨'n', _, rfl, rfl⟩
  | bool value =>
      cases value with
      | false => exact ⟨'f', _, rfl, rfl⟩
      | true => exact ⟨'t', _, rfl, rfl⟩
  | num value =>
      rw [Json.print]
      cases digits : (toString value).toList with
      | nil => exact absurd digits (toString_ne_nil value)
      | cons symbol rest =>
          have numeric := toString_numeric value symbol (by rw [digits]; exact List.mem_cons_self)
          exact ⟨symbol, rest, rfl, by rw [kindOf, if_pos numeric]; rfl⟩
  | str value =>
      rw [Json.print, toList_printString]
      exact ⟨'"', _, rfl, rfl⟩
  | arr items =>
      rw [Json.print, String.toList_append, String.toList_append]
      exact ⟨'[', _, rfl, rfl⟩
  | obj members =>
      rw [Json.print, String.toList_append, String.toList_append]
      exact ⟨'\x7b', _, rfl, rfl⟩

/-- What may follow a value: nothing, or a mark that no value starts with. -/
def Closes (rest : List Char) : Prop :=
  ∀ symbol, rest.head? = some symbol → symbol = ',' ∨ symbol = ']' ∨ symbol = '\x7d'

theorem Closes.numeric {rest : List Char} (closes : Closes rest) :
    ∀ symbol, rest.head? = some symbol → isNumeric symbol = false := by
  intro symbol first
  rcases closes symbol first with rfl | rfl | rfl
  · decide
  · decide
  · decide

/-- A value that is not the first one of its list. -/
def laterItems : List Json → List Char
  | [] => []
  | items => ',' :: (Json.printItems items).toList

def laterMembers : List (String × Json) → List Char
  | [] => []
  | members => ',' :: (Json.printMembers members).toList

theorem toList_printItems (item : Json) (items : List Json) :
    (Json.printItems (item :: items)).toList = item.print.toList ++ laterItems items := by
  cases items with
  | nil => simp [Json.printItems, laterItems]
  | cons next items => simp [Json.printItems, laterItems]

theorem toList_printMembers (key : String) (value : Json) (members : List (String × Json)) :
    (Json.printMembers ((key, value) :: members)).toList =
      (Json.printString key).toList ++ ':' :: (value.print.toList ++ laterMembers members) := by
  cases members with
  | nil => simp [Json.printMembers, laterMembers]
  | cons next members => simp [Json.printMembers, laterMembers]

theorem closes_laterItems (items : List Json) (rest : List Char) : Closes (laterItems items ++ ']' :: rest) := by
  intro symbol first
  cases items with
  | nil => exact .inr (.inl (Option.some.inj first).symm)
  | cons next items => exact .inl (Option.some.inj first).symm

theorem closes_laterMembers (members : List (String × Json)) (rest : List Char) :
    Closes (laterMembers members ++ '\x7d' :: rest) := by
  intro symbol first
  cases members with
  | nil => exact .inr (.inr (Option.some.inj first).symm)
  | cons next members => exact .inl (Option.some.inj first).symm

/-- Values that start alike are of one kind. -/
theorem kind_eq {one other : Json} {rest rest' : List Char}
    (same : one.print.toList ++ rest = other.print.toList ++ rest') : one.kind = other.kind := by
  obtain ⟨symbol, word, starts, kind⟩ := print_starts one
  obtain ⟨symbol', word', starts', kind'⟩ := print_starts other
  rw [starts, starts'] at same
  rw [← kind, ← kind', (List.cons.inj same).1]

theorem print_ne_close {value : Json} {rest rest' : List Char} {close : Char} (closing : kindOf close = 6) :
    value.print.toList ++ rest ≠ close :: rest' := by
  intro same
  obtain ⟨symbol, word, starts, kind⟩ := print_starts value
  rw [starts] at same
  rw [(List.cons.inj same).1, closing] at kind
  cases value <;> cases kind

mutual

/-- A printed value determines the value and where it ends. -/
theorem print_determines : ∀ (one other : Json) (rest rest' : List Char), Closes rest → Closes rest' →
    one.print.toList ++ rest = other.print.toList ++ rest' → one = other ∧ rest = rest'
  | .null, other, rest, rest', closes, closes', same => by
      have kind := kind_eq same
      cases other with
      | null => exact ⟨rfl, List.append_cancel_left same⟩
      | _ => cases kind
  | .bool value, other, rest, rest', closes, closes', same => by
      have kind := kind_eq same
      cases other with
      | bool value' =>
          cases value <;> cases value'
          · exact ⟨rfl, List.append_cancel_left same⟩
          · cases (List.cons.inj same).1
          · cases (List.cons.inj same).1
          · exact ⟨rfl, List.append_cancel_left same⟩
      | _ => cases kind
  | .num value, other, rest, rest', closes, closes', same => by
      have kind := kind_eq same
      cases other with
      | num value' =>
          rw [Json.print, Json.print] at same
          obtain ⟨rfl, ends⟩ := toString_determines closes.numeric closes'.numeric same
          exact ⟨rfl, ends⟩
      | _ => cases kind
  | .str value, other, rest, rest', closes, closes', same => by
      have kind := kind_eq same
      cases other with
      | str value' =>
          rw [Json.print, Json.print] at same
          obtain ⟨rfl, ends⟩ := printString_determines trivial trivial same
          exact ⟨rfl, ends⟩
      | _ => cases kind
  | .arr items, other, rest, rest', closes, closes', same => by
      have kind := kind_eq same
      cases other with
      | arr items' =>
          simp only [Json.print, String.toList_append, List.append_assoc] at same
          obtain ⟨rfl, ends⟩ := items_determine items items' rest rest' (List.cons.inj same).2
          exact ⟨rfl, ends⟩
      | _ => cases kind
  | .obj members, other, rest, rest', closes, closes', same => by
      have kind := kind_eq same
      cases other with
      | obj members' =>
          simp only [Json.print, String.toList_append, List.append_assoc] at same
          obtain ⟨rfl, ends⟩ := members_determine members members' rest rest' (List.cons.inj same).2
          exact ⟨rfl, ends⟩
      | _ => cases kind

theorem items_determine : ∀ (items items' : List Json) (rest rest' : List Char),
    (Json.printItems items).toList ++ ']' :: rest = (Json.printItems items').toList ++ ']' :: rest' →
    items = items' ∧ rest = rest'
  | [], [], rest, rest', same => ⟨rfl, (List.cons.inj same).2⟩
  | [], item' :: items', rest, rest', same => by
      rw [toList_printItems, List.append_assoc] at same
      exact absurd same.symm (print_ne_close (by decide))
  | item :: items, [], rest, rest', same => by
      rw [toList_printItems, List.append_assoc] at same
      exact absurd same (print_ne_close (by decide))
  | item :: items, item' :: items', rest, rest', same => by
      rw [toList_printItems, toList_printItems, List.append_assoc, List.append_assoc] at same
      obtain ⟨rfl, later⟩ := print_determines item item' _ _ (closes_laterItems items rest)
        (closes_laterItems items' rest') same
      cases items with
      | nil =>
          cases items' with
          | nil => exact ⟨rfl, (List.cons.inj later).2⟩
          | cons next' items' => cases (List.cons.inj later).1
      | cons next items =>
          cases items' with
          | nil => cases (List.cons.inj later).1
          | cons next' items' =>
              obtain ⟨others, ends⟩ := items_determine (next :: items) (next' :: items') rest rest'
                (List.cons.inj later).2
              exact ⟨by rw [others], ends⟩

theorem members_determine : ∀ (members members' : List (String × Json)) (rest rest' : List Char),
    (Json.printMembers members).toList ++ '\x7d' :: rest =
      (Json.printMembers members').toList ++ '\x7d' :: rest' →
    members = members' ∧ rest = rest'
  | [], [], rest, rest', same => ⟨rfl, (List.cons.inj same).2⟩
  | [], (key', value') :: members', rest, rest', same => by
      rw [toList_printMembers, toList_printString] at same
      cases (List.cons.inj same).1
  | (key, value) :: members, [], rest, rest', same => by
      rw [toList_printMembers, toList_printString] at same
      cases (List.cons.inj same).1
  | (key, value) :: members, (key', value') :: members', rest, rest', same => by
      rw [toList_printMembers, toList_printMembers] at same
      simp only [List.append_assoc, List.cons_append] at same
      obtain ⟨rfl, named⟩ := printString_determines trivial trivial same
      obtain ⟨rfl, later⟩ := print_determines value value' _ _ (closes_laterMembers members rest)
        (closes_laterMembers members' rest') (List.cons.inj named).2
      cases members with
      | nil =>
          cases members' with
          | nil => exact ⟨rfl, (List.cons.inj later).2⟩
          | cons next' members' => cases (List.cons.inj later).1
      | cons next members =>
          cases members' with
          | nil => cases (List.cons.inj later).1
          | cons next' members' =>
              obtain ⟨others, ends⟩ := members_determine (next :: members) (next' :: members') rest rest'
                (List.cons.inj later).2
              exact ⟨by rw [others], ends⟩

end

theorem print_injective {one other : Json} (same : one.print = other.print) : one = other := by
  have nothing : Closes [] := fun _ first => by cases first
  exact (print_determines one other [] [] nothing nothing (by rw [same])).1

/-!
## Orders of members
-/

mutual

/-- The members of the objects stand in another order, at any depth. -/
def Json.Reordered : Json → Json → Prop
  | .null, other => other = .null
  | .bool value, other => other = .bool value
  | .num value, other => other = .num value
  | .str value, other => other = .str value
  | .arr items, other => ∃ items', other = .arr items' ∧ ReorderedItems items items'
  | .obj members, other => ∃ members', other = .obj members' ∧ (members.map (·.1)).Nodup ∧
      ReorderedMembers members members'

def Json.ReorderedItems : List Json → List Json → Prop
  | [], others => others = []
  | item :: items, others => ∃ item' items', others = item' :: items' ∧ Reordered item item' ∧
      ReorderedItems items items'

def Json.ReorderedMembers : List (String × Json) → List (String × Json) → Prop
  | [], others => others = []
  | (key, value) :: members, others => ∃ before value' after, others = before ++ (key, value') :: after ∧
      Reordered value value' ∧ ReorderedMembers members (before ++ after)

end

theorem normalizeMembers_eq (members : List (String × Json)) :
    Json.normalizeMembers members = members.map fun member => (member.1, member.2.normalize) := by
  induction members with
  | nil => rfl
  | cons member members ih =>
      obtain ⟨key, value⟩ := member
      rw [Json.normalizeMembers, ih]
      rfl

theorem keys_normalizeMembers (members : List (String × Json)) :
    (Json.normalizeMembers members).map (·.1) = members.map (·.1) := by
  rw [normalizeMembers_eq, List.map_map]
  rfl

/-- Members with distinct keys are sorted in one way. -/
theorem sorted_eq_of_perm {members members' : List (String × Json)} (distinct : (members.map (·.1)).Nodup)
    (same : members.Perm members') :
    members.insertionSort (fun a b => a.1 ≤ b.1) = members'.insertionSort fun a b => a.1 ≤ b.1 := by
  apply insertionSort_eq_of_perm
  · intro one other
    exact String.le_total one.1 other.1
  · intro one other third first second
    exact String.le_trans first second
  · exact same
  · intro one oneMember other otherMember first second
    exact List.inj_on_of_nodup_map distinct oneMember otherMember (String.le_antisymm first second)

mutual

theorem normalize_reordered : ∀ {one other : Json}, one.Reordered other → one.normalize = other.normalize
  | .null, _, same => by rw [Json.Reordered.eq_def] at same; rw [same]
  | .bool value, _, same => by rw [Json.Reordered.eq_def] at same; rw [same]
  | .num value, _, same => by rw [Json.Reordered.eq_def] at same; rw [same]
  | .str value, _, same => by rw [Json.Reordered.eq_def] at same; rw [same]
  | .arr items, _, same => by
      rw [Json.Reordered.eq_def] at same
      obtain ⟨items', rfl, reordered⟩ := same
      rw [Json.normalize, Json.normalize, normalizeItems_reordered reordered]
  | .obj members, _, same => by
      rw [Json.Reordered.eq_def] at same
      obtain ⟨members', rfl, distinct, reordered⟩ := same
      rw [Json.normalize, Json.normalize]
      refine congrArg Json.obj (sorted_eq_of_perm ?_ (normalizeMembers_reordered reordered))
      rw [keys_normalizeMembers]
      exact distinct

theorem normalizeItems_reordered : ∀ {items items' : List Json}, Json.ReorderedItems items items' →
    Json.normalizeItems items = Json.normalizeItems items'
  | [], _, same => by rw [Json.ReorderedItems.eq_def] at same; rw [same]
  | item :: items, _, same => by
      rw [Json.ReorderedItems.eq_def] at same
      obtain ⟨item', items', rfl, first, rest⟩ := same
      rw [Json.normalizeItems, Json.normalizeItems, normalize_reordered first, normalizeItems_reordered rest]

theorem normalizeMembers_reordered : ∀ {members members' : List (String × Json)},
    Json.ReorderedMembers members members' →
    (Json.normalizeMembers members).Perm (Json.normalizeMembers members')
  | [], _, same => by rw [Json.ReorderedMembers.eq_def] at same; rw [same]
  | (key, value) :: members, _, same => by
      rw [Json.ReorderedMembers.eq_def] at same
      obtain ⟨before, value', after, rfl, first, rest⟩ := same
      have others := normalizeMembers_reordered rest
      rw [normalizeMembers_eq (before ++ after), List.map_append] at others
      rw [Json.normalizeMembers, normalizeMembers_eq (before ++ (key, value') :: after), List.map_append,
        List.map_cons, ← normalize_reordered first]
      exact (others.cons _).trans List.perm_middle.symm

end

/-- Canonical JSON does not depend on the order of members. -/
theorem canonicalJson_reordered {one other : Json} (reordered : one.Reordered other) :
    canonicalJson one = canonicalJson other := by
  rw [canonicalJson, canonicalJson, normalize_reordered reordered]

theorem stringBytes_injective {one other : String} (same : stringBytes one = stringBytes other) : one = other := by
  have read := stringFromUtf8_stringBytes one
  rw [same, stringFromUtf8_stringBytes other] at read
  exact (Except.ok.inj read).symm

theorem canonicalJson_eq_iff {one other : Json} :
    canonicalJson one = canonicalJson other ↔ one.normalize = other.normalize := by
  constructor
  · intro same
    exact print_injective (stringBytes_injective same)
  · intro same
    rw [canonicalJson, canonicalJson, same]

/-!
## Members
-/

theorem field?_eq_some_iff {members : List (String × Json)} (distinct : (members.map (·.1)).Nodup)
    {key : String} {value : Json} : Json.field? members key = some value ↔ (key, value) ∈ members := by
  unfold Json.field?
  constructor
  · intro found
    obtain ⟨member, first, rfl⟩ := Option.map_eq_some_iff.mp found
    have named : member.1 = key := by simpa using List.find?_some first
    rw [← named]
    exact List.mem_of_find?_eq_some first
  · intro inside
    cases first : members.find? (·.1 == key) with
    | none =>
        have absent := List.find?_eq_none.mp first (key, value) inside
        simp at absent
    | some member =>
        have named : member.1 = key := by simpa using List.find?_some first
        rw [List.inj_on_of_nodup_map distinct (List.mem_of_find?_eq_some first) inside named]
        rfl

theorem field?_normalizeMembers (members : List (String × Json)) (key : String) :
    Json.field? (Json.normalizeMembers members) key = (Json.field? members key).map Json.normalize := by
  unfold Json.field?
  rw [normalizeMembers_eq, List.find?_map, Option.map_map, Option.map_map]
  rfl

theorem perm_of_normalize {members members' : List (String × Json)}
    (same : (Json.obj members).normalize = (Json.obj members').normalize) :
    (Json.normalizeMembers members).Perm (Json.normalizeMembers members') := by
  rw [Json.normalize, Json.normalize] at same
  have first := List.perm_insertionSort (fun a b : String × Json => a.1 ≤ b.1) (Json.normalizeMembers members)
  have second := List.perm_insertionSort (fun a b : String × Json => a.1 ≤ b.1) (Json.normalizeMembers members')
  rw [Json.obj.inj same] at first
  exact first.symm.trans second

/-- Objects with one canonical form have the same members, up to their order. -/
theorem field?_of_normalize {members members' : List (String × Json)} (distinct : (members.map (·.1)).Nodup)
    (distinct' : (members'.map (·.1)).Nodup)
    (same : (Json.obj members).normalize = (Json.obj members').normalize) (key : String) :
    (Json.field? members key).map Json.normalize = (Json.field? members' key).map Json.normalize := by
  rw [← field?_normalizeMembers, ← field?_normalizeMembers]
  rw [← keys_normalizeMembers] at distinct distinct'
  apply Option.ext
  intro value
  rw [field?_eq_some_iff distinct, field?_eq_some_iff distinct', (perm_of_normalize same).mem_iff]

/-- Rows with the same distinct keys in the same order are equal if they are permuted. -/
theorem eq_of_perm_of_keys {members members' : List (String × Json)} (distinct : (members.map (·.1)).Nodup)
    (keys : members.map (·.1) = members'.map (·.1)) (same : members.Perm members') : members = members' := by
  induction members generalizing members' with
  | nil => exact same.nil_eq
  | cons member members ih =>
      cases members' with
      | nil => exact absurd same.symm.nil_eq (by simp)
      | cons member' members' =>
          have named : member.1 = member'.1 := (List.cons.inj keys).1
          have inside : member' ∈ member :: members := same.symm.subset List.mem_cons_self
          obtain rfl : member = member' :=
            List.inj_on_of_nodup_map distinct List.mem_cons_self inside named
          rw [ih (List.nodup_cons.mp distinct).2 (List.cons.inj keys).2 same.cons_inv]

/-- Objects with one canonical form and the same keys have the same members. -/
theorem normalizeMembers_of_normalize {members members' : List (String × Json)}
    (same : (Json.obj members).normalize = (Json.obj members').normalize)
    (distinct : (members.map (·.1)).Nodup) (keys : members.map (·.1) = members'.map (·.1)) :
    Json.normalizeMembers members = Json.normalizeMembers members' := by
  apply eq_of_perm_of_keys _ _ (perm_of_normalize same)
  · rw [keys_normalizeMembers]
    exact distinct
  · rw [keys_normalizeMembers, keys_normalizeMembers]
    exact keys

end CodePush.Core
