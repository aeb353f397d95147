import CodePush.Cli.AotEntryPoints

/-!
# Ids of the AOT entry points

The ids of `normalize_entry` for the names that Dart allows. A name and its mangled text get one id.
-/

set_option autoImplicit false

namespace CodePush.Cli

open CodePush.Core

/-!
## Names of Dart
-/

/-- Letters, digits, `_` and `$`. -/
def isNameChar (char : Char) : Bool := char.isAlphanum || char == '_' || char == '$'

def IsIdentifier (name : List Char) : Prop := name ≠ [] ∧ ∀ char ∈ name, isNameChar char = true

/-- The operators that a class may declare. -/
def operators : List String :=
  ["<", ">", "<=", ">=", "==", "-", "unary-", "+", "/", "~/", "*", "%", "|", "^", "&", "<<", ">>", ">>>",
    "[]=", "[]", "~"]

/-- An identifier with mangles in it. -/
structure Mangled (mangled name : List Char) : Prop where
  identifier : IsIdentifier name
  stripped : Stripped mangled name

/-- The text of a member in the sizes, and the text without mangles. -/
inductive MemberText : List Char → List Char → Prop where
  | method {mangled name : List Char} (text : Mangled mangled name) : MemberText mangled name
  | getter {mangled name : List Char} (text : Mangled mangled name) :
      MemberText ("get:".toList ++ mangled) ("get:".toList ++ name)
  | setter {mangled name : List Char} (text : Mangled mangled name) :
      MemberText ("set:".toList ++ mangled) ("set:".toList ++ name)
  | operator {text : String} (declared : text ∈ operators) : MemberText text.toList text.toList
  | unnamedConstructor {mangled name : List Char} (text : Mangled mangled name) :
      MemberText ("new ".toList ++ (mangled ++ ['.'])) ("new ".toList ++ (name ++ ['.']))
  | constructor {mangled name mangledLast last : List Char} (text : Mangled mangled name)
      (lastText : Mangled mangledLast last) :
      MemberText ("new ".toList ++ (mangled ++ '.' :: mangledLast)) ("new ".toList ++ (name ++ '.' :: last))

/-- The class of an entry, absent or empty for a member of the library. -/
inductive ClassText : Option String → Option String → Prop where
  | absent : ClassText none none
  | empty : ClassText (some "") (some "")
  | named {mangled name : List Char} (text : Mangled mangled name) :
      ClassText (some (String.ofList mangled)) (some (String.ofList name))

/-- No tag, or a word in brackets and a blank. -/
inductive IsTag : List Char → Prop where
  | absent : IsTag []
  | word {word : List Char} (closed : ']' ∉ word) : IsTag ('[' :: (word ++ "] ".toList))

/-!
## Mangled texts
-/

section Texts

variable {mangled name text out back outBack : List Char} {char : Char}

theorem Stripped.mem (stripped : Stripped text out) (member : char ∈ text) :
    char = '@' ∨ char.isDigit = true ∨ char ∈ out := by
  induction stripped with
  | nil => cases member
  | mangle nonempty digit maximal later ih =>
      rw [List.mem_cons, List.mem_append] at member
      obtain at' | inDigits | inRest := member
      · exact .inl at'
      · exact .inr (.inl (digit _ inDigits))
      · exact ih inRest
  | keep plain later ih =>
      rw [List.mem_cons] at member ⊢
      obtain same | inRest := member
      · exact .inr (.inr (.inl same))
      · obtain at' | digit | kept := ih inRest
        · exact .inl at'
        · exact .inr (.inl digit)
        · exact .inr (.inr (.inr kept))

theorem head_append (front : text.head?.any Char.isDigit = false) (behind : back.head?.any Char.isDigit = false) :
    (text ++ back).head?.any Char.isDigit = false := by
  cases text with
  | nil => exact behind
  | cons char text => exact front

theorem Stripped.append (stripped : Stripped text out) (behind : Stripped back outBack)
    (undigit : back.head?.any Char.isDigit = false) : Stripped (text ++ back) (out ++ outBack) := by
  induction stripped with
  | nil => exact behind
  | mangle nonempty digit maximal later ih =>
      rw [List.cons_append, List.append_assoc]
      exact .mangle nonempty digit (head_append maximal undigit) ih
  | keep plain later ih => exact .keep (fun same => head_append (plain same) undigit) ih

/-- A text without `@` is kept. -/
theorem Stripped.behind (stripped : Stripped text out) (plain : '@' ∉ back) :
    Stripped (back ++ text) (back ++ out) := by
  induction back with
  | nil => exact stripped
  | cons char back ih =>
      rw [List.mem_cons, not_or] at plain
      exact .keep (fun same => absurd same.symm plain.1) (ih plain.2)

theorem stripped_plain (plain : '@' ∉ text) : Stripped text text := by
  have kept := Stripped.nil.behind plain
  rw [List.append_nil] at kept
  exact kept

theorem stripMangle_stripped (stripped : Stripped text out) (ascii : ∀ char ∈ out, isAscii char = true) :
    stripMangle (String.ofList text) = String.ofList out := by
  unfold stripMangle
  rw [stringBytes_eq, String.toList_ofList, stripBytes_stripped stripped, (flatMap_written_iff out).mpr ascii]

theorem digit_isNameChar (digit : char.isDigit = true) : isNameChar char = true := by
  unfold isNameChar Char.isAlphanum
  rw [digit, Bool.or_true]
  rfl

theorem isNameChar_ascii (named : isNameChar char = true) : isAscii char = true := by
  unfold isNameChar Char.isAlphanum Char.isAlpha Char.isUpper Char.isLower at named
  unfold isAscii
  simp only [Bool.or_eq_true, Bool.and_eq_true, decide_eq_true_eq, beq_iff_eq] at named
  obtain ((( upper | lower) | digit) | rfl) | rfl := named
  · have small : char.toNat ≤ 90 := UInt32.le_iff_toNat_le.mp upper.2
    exact decide_eq_true (by omega)
  · have small : char.toNat ≤ 122 := UInt32.le_iff_toNat_le.mp lower.2
    exact decide_eq_true (by omega)
  · exact digit_ascii digit
  · rfl
  · rfl

theorem IsIdentifier.ascii (identifier : IsIdentifier name) : ∀ char ∈ name, isAscii char = true :=
  fun char member => isNameChar_ascii (identifier.2 char member)

theorem IsIdentifier.self (identifier : IsIdentifier name) : Mangled name name := by
  refine ⟨identifier, stripped_plain ?_⟩
  intro member
  exact absurd (identifier.2 '@' member) (by decide)

/-- A mangled name holds letters, digits, `_`, `$` and `@`. -/
theorem Mangled.absent (mangledName : Mangled mangled name) (other : isNameChar char = false) (plain : char ≠ '@') :
    char ∉ mangled := by
  intro member
  rw [← Bool.not_eq_true] at other
  obtain at' | digit | kept := mangledName.stripped.mem member
  · exact plain at'
  · exact other (digit_isNameChar digit)
  · exact other (mangledName.identifier.2 char kept)

theorem Mangled.ne_nil (mangledName : Mangled mangled name) : mangled ≠ [] := by
  intro none
  have stripped := mangledName.stripped
  rw [none] at stripped
  cases stripped
  exact mangledName.identifier.1 rfl

theorem Mangled.strip (mangledName : Mangled mangled name) :
    stripMangle (String.ofList mangled) = String.ofList name :=
  stripMangle_stripped mangledName.stripped mangledName.identifier.ascii

end Texts

/-!
## Entries of members
-/

section Members

variable {mangled name tag text : List Char}

theorem addressable_of (starts : skippedStarts.any (·.toList.isPrefixOf text) = false) (open' : '<' ∉ text) :
    notAddressable text = false := by
  unfold notAddressable
  have closure : '<' ∈ "<anonymous closure".toList := by decide
  have unnamed : '<' ∈ "<anonymous".toList := by decide
  rw [starts, splitAtMarker_absent closure open', splitAtMarker_absent unnamed open']
  rfl

/-- Every skipped start has a character that no name has. -/
theorem skippedStarts_other :
    skippedStarts.all (·.toList.any fun char => !isNameChar char && char != '@') = true := by
  decide

theorem Mangled.not_skipped (text : Mangled mangled name) :
    skippedStarts.any (·.toList.isPrefixOf mangled) = false := by
  rw [List.any_eq_false]
  intro marker member
  obtain ⟨char, inMarker, other⟩ := List.any_eq_true.mp (List.all_eq_true.mp skippedStarts_other marker member)
  simp only [Bool.and_eq_true, Bool.not_eq_true', bne_iff_ne] at other
  rw [isPrefixOf_absent inMarker (text.absent other.1 other.2)]
  exact Bool.false_ne_true

theorem Mangled.absent_behind {front : List Char} {char : Char} (text : Mangled mangled name)
    (notFront : char ∉ front) (other : isNameChar char = false) (plain : char ≠ '@') : char ∉ front ++ mangled := by
  rw [List.mem_append, not_or]
  exact ⟨notFront, text.absent other plain⟩

theorem operators_addressable : operators.all (fun text => !notAddressable text.toList) = true := by
  decide

theorem MemberText.self (member : MemberText mangled name) : MemberText name name := by
  cases member with
  | method text => exact .method text.identifier.self
  | getter text => exact .getter text.identifier.self
  | setter text => exact .setter text.identifier.self
  | operator declared => exact .operator declared
  | unnamedConstructor text => exact .unnamedConstructor text.identifier.self
  | constructor text lastText => exact .constructor text.identifier.self lastText.identifier.self

theorem MemberText.addressable (member : MemberText mangled name) : notAddressable mangled = false := by
  cases member with
  | method text => exact addressable_of text.not_skipped (text.absent (by decide) (by decide))
  | getter text => exact addressable_of rfl (text.absent_behind (by decide) (by decide) (by decide))
  | setter text => exact addressable_of rfl (text.absent_behind (by decide) (by decide) (by decide))
  | operator declared =>
      have checked := List.all_eq_true.mp operators_addressable _ declared
      rw [Bool.not_eq_true'] at checked
      exact checked
  | unnamedConstructor text =>
      apply addressable_of rfl
      have absent : '<' ∉ _ := text.absent (by decide) (by decide)
      simp [absent]
  | constructor text lastText =>
      apply addressable_of rfl
      have absent : '<' ∉ _ := text.absent (by decide) (by decide)
      have absentLast : '<' ∉ _ := lastText.absent (by decide) (by decide)
      simp [absent, absentLast]

theorem untagged_of_closed (closed : '[' ∉ text) : untagged text = text := by
  have first : (text.head? == some '[') = false := by
    cases text with
    | nil => rfl
    | cons char text =>
        rw [List.mem_cons, not_or] at closed
        exact beq_eq_false_iff_ne.mpr fun same => closed.1 (Option.some.inj same).symm
  unfold untagged
  rw [first]

theorem operators_untagged : operators.all (fun text => untagged text.toList == text.toList) = true := by
  decide

theorem MemberText.untagged (member : MemberText mangled name) : untagged mangled = mangled := by
  cases member with
  | method text => exact untagged_of_closed (text.absent (by decide) (by decide))
  | getter text => exact untagged_of_closed (text.absent_behind (by decide) (by decide) (by decide))
  | setter text => exact untagged_of_closed (text.absent_behind (by decide) (by decide) (by decide))
  | operator declared => exact eq_of_beq (List.all_eq_true.mp operators_untagged _ declared)
  | unnamedConstructor text =>
      apply untagged_of_closed
      have absent : '[' ∉ _ := text.absent (by decide) (by decide)
      simp [absent]
  | constructor text lastText =>
      apply untagged_of_closed
      have absent : '[' ∉ _ := text.absent (by decide) (by decide)
      have absentLast : '[' ∉ _ := lastText.absent (by decide) (by decide)
      simp [absent, absentLast]

theorem untagged_tag (isTag : IsTag tag) (untaggedText : untagged text = text) : untagged (tag ++ text) = text := by
  cases isTag with
  | absent => exact untaggedText
  | @word word closed =>
      have behind : ']' ∉ '[' :: word := by
        rw [List.mem_cons, not_or]
        exact ⟨by decide, closed⟩
      have found : splitAtMarker "] ".toList ('[' :: word ++ "] ".toList ++ text) = some ('[' :: word, text) :=
        splitAtMarker_first behind
      have first : ('[' :: word ++ "] ".toList ++ text).head? = some '[' := rfl
      show untagged ('[' :: word ++ "] ".toList ++ text) = text
      unfold untagged
      rw [found, first]
      rfl

/-!
## Ids
-/

/-- The id of a member: its library, then its class and itself, or itself alone. -/
def memberId (library : String) («class» : Option String) (member : String) : String :=
  match «class» with
  | some «class» =>
      if «class».isEmpty then library ++ "::" ++ member else library ++ "::class:" ++ «class» ++ "." ++ member
  | none => library ++ "::" ++ member

/-- The text of a constructor has its class. -/
def addressedId (library : String) («class» : Option String) (name : List Char) : String :=
  if "new ".toList.isPrefixOf name then library ++ "::class:" ++ String.ofList (name.drop "new ".toList.length)
  else memberId library «class» (String.ofList name)

theorem operators_kept : operators.all (fun text => !"new ".toList.isPrefixOf text.toList &&
    text.toList.all fun char => isAscii char && char != '@') = true := by
  decide

/-- A constructor's text is stripped behind `new `, any other text from its start. -/
theorem MemberText.strip (member : MemberText mangled name) :
    ("new ".toList.isPrefixOf mangled = true ∧ "new ".toList.isPrefixOf name = true ∧
      stripMangle (String.ofList (mangled.drop "new ".toList.length)) =
        String.ofList (name.drop "new ".toList.length)) ∨
    ("new ".toList.isPrefixOf mangled = false ∧ "new ".toList.isPrefixOf name = false ∧
      stripMangle (String.ofList mangled) = String.ofList name) := by
  have blank : ' ' ∈ "new ".toList := by decide
  cases member with
  | method text =>
      right
      have absent : ' ' ∉ mangled := text.absent (by decide) (by decide)
      have absent' : ' ' ∉ name := text.identifier.self.absent (by decide) (by decide)
      exact ⟨isPrefixOf_absent blank absent, isPrefixOf_absent blank absent', text.strip⟩
  | getter text =>
      right
      refine ⟨rfl, rfl, stripMangle_stripped (text.stripped.behind (by decide)) ?_⟩
      exact List.forall_mem_append.mpr ⟨forall_mem_of_all (by decide), text.identifier.ascii⟩
  | setter text =>
      right
      refine ⟨rfl, rfl, stripMangle_stripped (text.stripped.behind (by decide)) ?_⟩
      exact List.forall_mem_append.mpr ⟨forall_mem_of_all (by decide), text.identifier.ascii⟩
  | @operator text declared =>
      right
      have checked := List.all_eq_true.mp operators_kept text declared
      simp only [Bool.and_eq_true, Bool.not_eq_true', List.all_eq_true, bne_iff_ne] at checked
      obtain ⟨notNew, chars⟩ := checked
      refine ⟨notNew, notNew, stripMangle_stripped (stripped_plain ?_) fun char member => (chars char member).1⟩
      exact fun member => (chars '@' member).2 rfl
  | @unnamedConstructor _ name text =>
      left
      have ascii : ∀ char ∈ name ++ ['.'], isAscii char = true :=
        List.forall_mem_append.mpr ⟨text.identifier.ascii, forall_mem_of_all (by decide)⟩
      exact ⟨rfl, rfl, stripMangle_stripped (text.stripped.append (stripped_plain (by decide)) rfl) ascii⟩
  | @constructor _ name mangledLast last text lastText =>
      left
      have ascii : ∀ char ∈ name ++ '.' :: last, isAscii char = true := by
        rw [List.forall_mem_append, List.forall_mem_cons]
        exact ⟨text.identifier.ascii, rfl, lastText.identifier.ascii⟩
      have dotted : Stripped ('.' :: mangledLast) ('.' :: last) := .keep (fun same => by cases same) lastText.stripped
      exact ⟨rfl, rfl, stripMangle_stripped (text.stripped.append dotted rfl) ascii⟩

theorem Mangled.not_empty (text : Mangled mangled name) : (String.ofList mangled).isEmpty = false := by
  rw [← Bool.not_eq_true, String.isEmpty_iff]
  intro none
  exact text.ne_nil (String.ofList_inj.mp none)

theorem ClassText.self {«class» plainClass : Option String} (classText : ClassText «class» plainClass) :
    ClassText plainClass plainClass := by
  cases classText with
  | absent => exact .absent
  | empty => exact .empty
  | named text => exact .named text.identifier.self

/-- The entry of a member has the id of the member without mangles. -/
theorem normalizeEntry_member {«class» plainClass : Option String} (library : String) (isTag : IsTag tag)
    (classText : ClassText «class» plainClass) (member : MemberText mangled name) :
    normalizeEntry ⟨some library, «class», String.ofList (tag ++ mangled)⟩ =
      if library.isEmpty then none else some (addressedId library plainClass name) := by
  unfold normalizeEntry addressedId
  simp only [Option.bind_eq_bind, Option.bind_some, String.toList_ofList, untagged_tag isTag member.untagged,
    member.addressable]
  obtain ⟨isNew, isNew', stripped⟩ | ⟨notNew, notNew', stripped⟩ := member.strip
  · rw [isNew, isNew', stripped]
    rfl
  · rw [notNew, notNew', stripped]
    cases classText with
    | absent => rfl
    | empty => rfl
    | named text =>
        unfold memberId
        simp only [text.not_empty, text.identifier.self.not_empty, text.strip]
        rfl

end Members

/-- Stripping is exact for the names of ASCII characters and no others. The names of Dart are such names: an entry
with mangles has the id of the entry without them. -/
theorem strip_mangle_exact_iff (name : String) :
    (Stripped name.toList (stripMangle name).toList ↔ ∀ char ∈ name.toList, isAscii char = true) ∧
      ∀ (library : Option String) («class» plainClass : Option String) (tag mangled plain : List Char),
        IsTag tag → ClassText «class» plainClass → MemberText mangled plain →
          normalizeEntry ⟨library, «class», String.ofList (tag ++ mangled)⟩ =
            normalizeEntry ⟨library, plainClass, String.ofList (tag ++ plain)⟩ := by
  refine ⟨stripped_iff_ascii name, ?_⟩
  intro library «class» plainClass tag mangled plain isTag classText member
  cases library with
  | none => rfl
  | some library =>
      rw [normalizeEntry_member library isTag classText member,
        normalizeEntry_member library isTag classText.self member.self]

/-- A private method of a private class, and its entry without mangles. -/
theorem refreshState_exact :
    Stripped "_refreshState@337133756".toList (stripMangle "_refreshState@337133756").toList ∧
      normalizeEntry ⟨some "package:app/main.dart", some (String.ofList "_AppState@337133756".toList),
          String.ofList ("[Optimized] ".toList ++ "_refreshState@337133756".toList)⟩ =
        normalizeEntry ⟨some "package:app/main.dart", some (String.ofList "_AppState".toList),
          String.ofList ("[Optimized] ".toList ++ "_refreshState".toList)⟩ := by
  have digits : ∀ char ∈ "337133756".toList, char.isDigit = true := forall_mem_of_all (by decide)
  have key : Stripped "@337133756".toList [] := .mangle (by decide) digits rfl .nil
  have mangledClass : Mangled "_AppState@337133756".toList "_AppState".toList :=
    ⟨⟨by decide, forall_mem_of_all (by decide)⟩, key.behind (show '@' ∉ "_AppState".toList by decide)⟩
  have mangledMethod : Mangled "_refreshState@337133756".toList "_refreshState".toList :=
    ⟨⟨by decide, forall_mem_of_all (by decide)⟩, key.behind (show '@' ∉ "_refreshState".toList by decide)⟩
  exact ⟨(strip_mangle_exact_iff _).1.mpr (forall_mem_of_all (by decide)),
    (strip_mangle_exact_iff "").2 _ _ _ _ _ _ (.word (show ']' ∉ "Optimized".toList by decide))
      (.named mangledClass) (.method mangledMethod)⟩

/-- The two bytes of `é` become two characters. -/
theorem accent_not_kept :
    stripMangle "é" = "Ã©" ∧ ¬ Stripped "é".toList (stripMangle "é").toList := by
  have bytes : stringBytes "é" = [0xc3, 0xa9] := by decide
  constructor
  · unfold stripMangle
    rw [bytes, stripBytes_cons rfl, stripBytes_cons rfl, stripBytes]
    decide
  · rw [stripped_iff_ascii]
    intro ascii
    exact absurd (ascii 'é' (by decide)) (by decide)

end CodePush.Cli
