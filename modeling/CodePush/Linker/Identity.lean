import CodePush.Foundation.Codes
import CodePush.Linker.ChangeDetection
import CodePush.Linker.Sources

/-!
# Inventory identity

What tells two members of a program apart. The id of a function is the hash of a text that
can be read back; the name of a bytecode source is only the library and the qualified name,
which a getter and its setter share.
-/

set_option autoImplicit false

namespace CodePush.Linker

open CodePush.Core CodePush.Compiler CodePush.Foundation

/-!
## Names
-/

/-- The names that the front end gives to classes and members. -/
def isName (text : String) : Bool :=
  text.toList.all fun char => char ≠ ':' && char ≠ '.' && char ≠ ')' && char ≠ '\n'

structure Version.Lexical {ν : Type} (version : Version ν) : Prop where
  classes : ∀ library ∈ version, ∀ klass ∈ library.classes, isName klass.name
  members : ∀ declared ∈ version.declared, isName declared.name

theorem isName_spec {text : String} (named : isName text) :
    ':' ∉ text.toList ∧ '.' ∉ text.toList ∧ ')' ∉ text.toList ∧ '\n' ∉ text.toList := by
  have every := List.all_eq_true.mp named
  refine ⟨?_, ?_, ?_, ?_⟩
  all_goals
    intro member
    exact absurd (every _ member) (by decide)

theorem isName_take {text : String} (named : isName text) (count : Nat) :
    isName (String.ofList (text.toList.take count)) := by
  apply List.all_eq_true.mpr
  intro char member
  rw [String.toList_ofList] at member
  exact List.all_eq_true.mp named char (List.mem_of_mem_take member)

/-- Where a member stands: in the library, in a class or in an extension. -/
inductive Enclosing : String → Prop where
  | library : Enclosing ""
  | klass {name : String} (named : isName name) : Enclosing ("class:" ++ name)
  | extension : Enclosing "extension"
  | named {name : String} (named : isName name) : Enclosing ("extension:" ++ name)

theorem Enclosing.of_extension {ν : Type} {procedure : Procedure ν} (named : isName procedure.name) :
    Enclosing (extensionEnclosing procedure) := by
  unfold extensionEnclosing
  split
  · exact .library
  · split
    · exact .named (isName_take named _)
    · exact .extension

theorem Version.Lexical.enclosing {ν : Type} {version : Version ν} (lexical : version.Lexical)
    {declared : Declared ν}
    (member : declared ∈ version.declared) : Enclosing declared.enclosing := by
  have memberNamed := lexical.members declared member
  obtain ⟨library, inVersion, inLibrary⟩ := List.mem_flatMap.mp member
  rcases List.mem_append.mp inLibrary with inClass | topLevel
  · obtain ⟨klass, present, inClass⟩ := List.mem_flatMap.mp inClass
    have named := lexical.classes library inVersion klass present
    rcases List.mem_append.mp inClass with inside | inside
    all_goals
      obtain ⟨member, _, rfl⟩ := List.mem_map.mp inside
      exact .klass named
  · obtain ⟨procedure, _, rfl⟩ := List.mem_map.mp topLevel
    exact .of_extension memberNamed

/-!
## Qualified names
-/

/-- At most one colon and none in front: no two in a row. -/
structure FewColons (word : List Char) : Prop where
  few : word.count ':' ≤ 1
  starts : word.head? ≠ some ':'

theorem cut_colons {front front' word word' : List Char} (few : FewColons word)
    (few' : FewColons word') (same : front ++ ':' :: ':' :: word = front' ++ ':' :: ':' :: word') :
    front = front' ∧ word = word' := by
  have apart : ∀ {between one other : List Char}, FewColons one →
      ':' :: ':' :: one = between ++ ':' :: ':' :: other → between = [] := by
    intro between one other fewOne cut
    match between with
    | [] => rfl
    | [symbol] =>
        have starts : one = ':' :: other := (List.cons.inj (List.cons.inj cut).2).2
        refine absurd ?_ fewOne.starts
        rw [starts]
        rfl
    | first :: second :: between =>
        have longer : one = between ++ ':' :: ':' :: other := (List.cons.inj (List.cons.inj cut).2).2
        have many := fewOne.few
        rw [longer, List.count_append, List.count_cons_self, List.count_cons_self] at many
        omega
  obtain ⟨between, rfl, rest⟩ | ⟨between, rfl, rest⟩ := List.append_eq_append_iff.mp same
  · obtain rfl := apart few rest
    simpa using rest
  · obtain rfl := apart few' rest
    simpa using rest.symm

theorem Enclosing.fewColons {enclosing : String} (stands : Enclosing enclosing) :
    FewColons enclosing.toList := by
  cases stands with
  | library => exact ⟨by simp, by simp⟩
  | klass named =>
      have plain := List.count_eq_zero.mpr (isName_spec named).1
      exact ⟨by simp [plain], by simp⟩
  | extension => exact ⟨by decide, by decide⟩
  | named named =>
      have plain := List.count_eq_zero.mpr (isName_spec named).1
      exact ⟨by simp [plain], by simp⟩

theorem Enclosing.plain {enclosing : String} (stands : Enclosing enclosing) :
    ')' ∉ enclosing.toList ∧ '\n' ∉ enclosing.toList := by
  cases stands with
  | library => simp
  | klass named =>
      obtain ⟨_, _, noParenthesis, noBreak⟩ := isName_spec named
      simp [noParenthesis, noBreak]
  | extension => decide
  | named named =>
      obtain ⟨_, _, noParenthesis, noBreak⟩ := isName_spec named
      simp [noParenthesis, noBreak]

theorem toList_qualifiedName (enclosing name : String) : (qualifiedName enclosing name).toList =
    if enclosing.isEmpty then name.toList else enclosing.toList ++ '.' :: name.toList := by
  unfold qualifiedName
  split
  · rfl
  · have text : s!"{enclosing}.{name}" = enclosing ++ "." ++ name := rfl
    simp [text]

theorem qualifiedName_fewColons {enclosing name : String} (stands : Enclosing enclosing)
    (named : isName name) : FewColons (qualifiedName enclosing name).toList := by
  have plain := List.count_eq_zero.mpr (isName_spec named).1
  rw [toList_qualifiedName]
  split
  · refine ⟨by simp [plain], ?_⟩
    intro starts
    exact (isName_spec named).1 (List.mem_of_head? starts)
  case isFalse inside =>
    have few := stands.fewColons
    refine ⟨by simp [plain, few.few], ?_⟩
    cases shape : enclosing.toList with
    | nil => exact absurd (by simpa [String.isEmpty_iff] using shape) inside
    | cons first rest =>
        have starts := few.starts
        rw [shape] at starts
        exact starts

theorem qualifiedName_plain {enclosing name : String} (stands : Enclosing enclosing)
    (named : isName name) : ')' ∉ (qualifiedName enclosing name).toList := by
  have noParenthesis := (isName_spec named).2.2.1
  rw [toList_qualifiedName]
  split
  · exact noParenthesis
  · simp [stands.plain.1, noParenthesis]

theorem qualifiedName_injective {enclosing enclosing' name name' : String} (named : isName name)
    (named' : isName name') (same : qualifiedName enclosing name = qualifiedName enclosing' name') :
    enclosing = enclosing' ∧ name = name' := by
  have plain := (isName_spec named).2.1
  have plain' := (isName_spec named').2.1
  have letters := congrArg String.toList same
  rw [toList_qualifiedName, toList_qualifiedName] at letters
  split at letters
  case isTrue outside =>
    split at letters
    case isTrue outside' =>
      rw [String.isEmpty_iff.mp outside, String.isEmpty_iff.mp outside']
      exact ⟨rfl, String.toList_inj.mp letters⟩
    case isFalse =>
      refine absurd ?_ plain
      rw [letters]
      simp
  case isFalse =>
    split at letters
    case isTrue =>
      refine absurd ?_ plain'
      rw [← letters]
      simp
    case isFalse =>
      obtain ⟨enclosings, names⟩ := cut_last plain plain' letters
      exact ⟨String.toList_inj.mp enclosings, String.toList_inj.mp names⟩

/-!
## What names and ids determine
-/

section Members

variable {ν : Type}

/-- The member that a call by name means. -/
def Declared.SamePlace (first second : Declared ν) : Prop :=
  first.libraryUri = second.libraryUri ∧ first.enclosing = second.enclosing ∧ first.name = second.name

/-- What else goes into the id. -/
def Declared.SameShape (first second : Declared ν) : Prop :=
  signature first.function = signature second.function ∧
    first.function.typeParameters.length = second.function.typeParameters.length

def Declared.sourceName (declared : Declared ν) : String :=
  s!"{declared.libraryUri}::{qualifiedName declared.enclosing declared.name}"

def Declared.closureName (declared : Declared ν) : String :=
  s!"{declared.libraryUri}::{qualifiedName declared.enclosing declared.name}.<closure0>()"

end Members

section Texts

variable {ν : Type} {version : Version ν} {first second : Declared ν}

theorem toList_sourceName (declared : Declared ν) : declared.sourceName.toList =
    declared.libraryUri.toList ++
      ':' :: ':' :: (qualifiedName declared.enclosing declared.name).toList := by
  have spelled : declared.sourceName =
      declared.libraryUri ++ "::" ++ qualifiedName declared.enclosing declared.name := rfl
  simp [spelled]

theorem sourceName_inj (lexical : version.Lexical) (firstMember : first ∈ version.declared)
    (secondMember : second ∈ version.declared) (same : first.sourceName = second.sourceName) :
    first.SamePlace second := by
  have firstNamed := lexical.members first firstMember
  have secondNamed := lexical.members second secondMember
  have letters := congrArg String.toList same
  rw [toList_sourceName, toList_sourceName] at letters
  obtain ⟨libraries, qualified⟩ := cut_colons
    (qualifiedName_fewColons (lexical.enclosing firstMember) firstNamed)
    (qualifiedName_fewColons (lexical.enclosing secondMember) secondNamed) letters
  exact ⟨String.toList_inj.mp libraries,
    qualifiedName_injective firstNamed secondNamed (String.toList_inj.mp qualified)⟩

theorem sourceName_of_samePlace (same : first.SamePlace second) :
    first.sourceName = second.sourceName := by
  obtain ⟨libraries, enclosings, names⟩ := same
  rw [Declared.sourceName, Declared.sourceName, libraries, enclosings, names]

theorem closureName_inj (same : first.closureName = second.closureName) :
    first.sourceName = second.sourceName := by
  have spelled : ∀ declared : Declared ν, declared.closureName = declared.sourceName ++ ".<closure0>()" :=
    fun _ => rfl
  have letters := congrArg String.toList same
  rw [spelled, spelled, String.toList_append, String.toList_append] at letters
  exact String.toList_inj.mp (List.append_cancel_right letters)

/-- No member has the name of a closure, which ends in a parenthesis. -/
theorem sourceName_ne_closureName (lexical : version.Lexical)
    (firstMember : first ∈ version.declared) : first.sourceName ≠ second.closureName := by
  intro same
  have spelled : second.closureName = second.sourceName ++ ".<closure0>()" := rfl
  have plain := qualifiedName_plain (lexical.enclosing firstMember)
    (lexical.members first firstMember)
  have last := congrArg (fun text => text.toList.getLast?) same
  simp only [spelled, toList_sourceName, String.toList_append] at last
  rw [List.getLast?_append_of_ne_nil _ (by simp), List.getLast?_append_of_ne_nil _ (by decide)] at last
  have parenthesis : ')' ∈ ':' :: ':' :: (qualifiedName first.enclosing first.name).toList :=
    List.mem_of_getLast? last
  simp [plain] at parenthesis

/-!
## Ids
-/

theorem toDigits_visible (number : Nat) :
    ∀ char ∈ Nat.toDigits 16 number, isWhiteSpace char = false := by
  have digits : ∀ digit < 16, isWhiteSpace (Nat.digitChar digit) = false := by decide
  induction number using Nat.strongRecOn with
  | ind number ih =>
      intro char member
      rw [Nat.toDigits_eq_if (by decide)] at member
      split at member
      case isTrue small =>
        rw [List.mem_singleton.mp member]
        exact digits number small
      case isFalse large =>
        rcases List.mem_append.mp member with front | last
        · exact ih (number / 16) (by omega) char front
        · rw [List.mem_singleton.mp last]
          exact digits (number % 16) (Nat.mod_lt _ (by decide))

theorem hash_visible (text : String) : ∀ char ∈ (hash text).toList, isWhiteSpace char = false := by
  intro char member
  simp only [hash, String.toList_ofList] at member
  rcases List.mem_append.mp member with zeros | digits
  · rw [List.eq_of_mem_replicate zeros]
    decide
  · exact toDigits_visible _ char digits

theorem hash_not_blank (text : String) : isBlank (hash text) = false := by
  have some : (hash text).toList ≠ [] := by
    simp only [hash, String.toList_ofList]
    exact List.append_ne_nil_of_right_ne_nil _ Nat.toDigits_ne_nil
  obtain ⟨char, member⟩ := List.exists_mem_of_ne_nil _ some
  have visible := hash_visible text char member
  apply Bool.eq_false_iff.mpr
  intro blank
  rw [List.all_eq_true.mp blank char member] at visible
  cases visible

/-- The text of an id is read back from its end, where no part holds a line break. -/
theorem idText_eq_iff (lexical : version.Lexical) (firstMember : first ∈ version.declared)
    (secondMember : second ∈ version.declared) :
    first.idText = second.idText ↔ first.SamePlace second ∧
      hash (signature first.function) = hash (signature second.function) ∧
      first.function.typeParameters.length = second.function.typeParameters.length := by
  have spelled : ∀ declared : Declared ν, declared.idText.toList =
      (((declared.libraryUri.toList ++ '\n' :: declared.enclosing.toList) ++
        '\n' :: declared.name.toList) ++ '\n' :: (hash (signature declared.function)).toList) ++
        '\n' :: (Nat.repr declared.function.typeParameters.length).toList := by
    intro declared
    have text : declared.idText = declared.libraryUri ++ "\n" ++ declared.enclosing ++ "\n" ++
        declared.name ++ "\n" ++ hash (signature declared.function) ++ "\n" ++
        Nat.repr declared.function.typeParameters.length := rfl
    simp [text]
  have noBreak : ∀ declared ∈ version.declared, '\n' ∉ declared.name.toList ∧
      '\n' ∉ declared.enclosing.toList := fun declared member =>
    ⟨(isName_spec (lexical.members declared member)).2.2.2, (lexical.enclosing member).plain.2⟩
  have hashBreak : ∀ text, '\n' ∉ (hash text).toList := by
    intro text member
    cases hash_visible text '\n' member
  have numberBreak : ∀ number, '\n' ∉ (Nat.repr number).toList := by
    intro number member
    rw [Nat.toList_repr] at member
    cases toDigits_isDigit number '\n' member
  constructor
  · intro same
    have letters := congrArg String.toList same
    rw [spelled, spelled] at letters
    obtain ⟨letters, counts⟩ := cut_last (numberBreak _) (numberBreak _) letters
    obtain ⟨letters, hashes⟩ := cut_last (hashBreak _) (hashBreak _) letters
    obtain ⟨letters, names⟩ :=
      cut_last (noBreak first firstMember).1 (noBreak second secondMember).1 letters
    obtain ⟨libraries, enclosings⟩ :=
      cut_last (noBreak first firstMember).2 (noBreak second secondMember).2 letters
    refine ⟨⟨String.toList_inj.mp libraries, String.toList_inj.mp enclosings,
      String.toList_inj.mp names⟩, String.toList_inj.mp hashes, ?_⟩
    rw [Nat.toList_repr, Nat.toList_repr] at counts
    rw [← foldl_toDigits first.function.typeParameters.length, counts, foldl_toDigits]
  · rintro ⟨⟨libraries, enclosings, names⟩, hashes, counts⟩
    rw [Declared.idText, Declared.idText, libraries, enclosings, names, hashes, counts]

end Texts

/-!
## The functions of an entry
-/

/-- The name that a source gives to its function. -/
def nameOf (source : Source) : String :=
  match Object.get source "name" with
  | .string name => name
  | _ => ""

/-- What an entry puts into a module: its source and those of its closures. -/
def FunctionInventoryEntry.sources (function : FunctionInventoryEntry) : List Source :=
  match function.bytecodeSource with
  | some (.map source) => source :: (extraSources source).toOption.getD []
  | _ => []

def FunctionInventoryEntry.names (function : FunctionInventoryEntry) : List String :=
  function.sources.map nameOf

/-- The reader lowers the member, and nothing speaks against it. -/
def Declared.Carries {ν : Type} (bodies : Bodies ν) (declared : Declared ν) : Prop :=
  ∃ procedure source, declared.member = .procedure procedure ∧
    bodies.bytecodeSource declared.libraryUri declared.enclosing procedure = some source ∧
    (procedure.function.asyncMarker = .sync ∨ isAsyncSource source)

/-- The closure of a source, if it has one, is a source of its own. -/
structure Named (source : Source) (name closureName : String) : Prop where
  name : nameOf source = name
  extras : extraSources source = .ok [] ∨
    ∃ extra, extraSources source = .ok [extra] ∧ nameOf extra = closureName

section Sources

variable {ν : Type} {bodies : Bodies ν} {declared : Declared ν}

theorem bytecodeSource_named {procedure : Procedure ν} {source : Source}
    (member : declared.member = .procedure procedure)
    (found : bodies.bytecodeSource declared.libraryUri declared.enclosing procedure = some source) :
    Named source declared.sourceName declared.closureName := by
  have same : declared.name = procedure.name := by rw [Declared.name, member]
  rw [Declared.sourceName, Declared.closureName, same]
  simp only [Bodies.bytecodeSource, Option.orElse_eq_some] at found
  rcases found with found | ⟨_, found | ⟨_, found | ⟨_, found | ⟨_, found⟩⟩⟩⟩
  · unfold Bodies.asyncFutureValueSource at found
    split at found
    · cases found
    · obtain ⟨typeArgs, _, found⟩ := Option.bind_eq_some_iff.mp found
      obtain ⟨value, _, found⟩ := Option.bind_eq_some_iff.mp found
      cases found
      exact ⟨rfl, .inl rfl⟩
  · obtain ⟨asyncKind, _, found⟩ := Option.bind_eq_some_iff.mp found
    obtain ⟨body, _, found⟩ := Option.bind_eq_some_iff.mp found
    cases found
    exact ⟨rfl, .inl rfl⟩
  · obtain ⟨closure, _, found⟩ := Option.bind_eq_some_iff.mp found
    cases found
    exact ⟨rfl, .inr ⟨_, rfl, rfl⟩⟩
  · unfold Bodies.syncFutureValueSource at found
    split at found
    · cases found
    · obtain ⟨typeArgs, _, found⟩ := Option.bind_eq_some_iff.mp found
      obtain ⟨value, _, found⟩ := Option.bind_eq_some_iff.mp found
      cases found
      refine ⟨rfl, .inl ?_⟩
      cases bodies.typeName procedure.function.returnType with
      | none => rfl
      | some type => rfl
  · obtain ⟨body, _, found⟩ := Option.bind_eq_some_iff.mp found
    cases found
    exact ⟨rfl, .inl rfl⟩

/-- Nothing speaks against a function that is lowered, unless it is asynchronous and its
source is not. -/
theorem supported_iff {function : FunctionNode ν} {source : Option Source} :
    (bodies.unsupportedReasons function source).isEmpty = true ↔
      ∃ lowered, source = some lowered ∧ (function.asyncMarker = .sync ∨ isAsyncSource lowered) := by
  unfold Bodies.unsupportedReasons
  by_cases sync : function.asyncMarker = .sync
  · cases source with
    | none => simp [sync]
    | some lowered => simp [sync]
  · cases source with
    | none => simp [sync]
    | some lowered =>
        by_cases async : isAsyncSource lowered = true
        · simp [sync, async]
        · simp [sync, async]

variable [Printer ν]

theorem entry_source_iff {source : Source} :
    (declared.entry bodies.lowering).bytecodeSource = some (.map source) ↔
      ∃ procedure, declared.member = .procedure procedure ∧
        bodies.bytecodeSource declared.libraryUri declared.enclosing procedure = some source ∧
        (procedure.function.asyncMarker = .sync ∨ isAsyncSource source) := by
  unfold Declared.entry
  cases declared.member with
  | constructor constructor => simp
  | procedure procedure =>
      simp only [Member.procedure.injEq, exists_eq_left']
      change (if (bodies.unsupportedReasons procedure.function
          (bodies.bytecodeSource declared.libraryUri declared.enclosing procedure)).isEmpty then
        (bodies.bytecodeSource declared.libraryUri declared.enclosing procedure).map Object.map
      else none) = some (Object.map source) ↔ _
      by_cases supported : (bodies.unsupportedReasons procedure.function
          (bodies.bytecodeSource declared.libraryUri declared.enclosing procedure)).isEmpty = true
      · rw [if_pos supported]
        obtain ⟨lowered, found, fits⟩ := supported_iff.mp supported
        simp only [found, Option.map_some, Option.some.injEq, Object.map.injEq]
        constructor
        · rintro rfl
          exact ⟨rfl, fits⟩
        · rintro ⟨rfl, _⟩
          rfl
      · rw [if_neg supported]
        simp only [reduceCtorEq, false_iff]
        rintro ⟨found, fits⟩
        exact supported (supported_iff.mpr ⟨source, found, fits⟩)

/-- No other member puts anything into a module. -/
theorem entry_names_of_not_carries (none : ¬ declared.Carries bodies) :
    (declared.entry bodies.lowering).names = [] := by
  cases found : (declared.entry bodies.lowering).bytecodeSource with
  | none => simp [FunctionInventoryEntry.names, FunctionInventoryEntry.sources, found]
  | some object =>
      cases object with
      | map source =>
          obtain ⟨procedure, member, lowered, fits⟩ := entry_source_iff.mp found
          exact absurd ⟨procedure, source, member, lowered, fits⟩ none
      | _ => simp [FunctionInventoryEntry.names, FunctionInventoryEntry.sources, found]

theorem entry_names_of_carries (carries : declared.Carries bodies) :
    (declared.entry bodies.lowering).names = [declared.sourceName] ∨
      (declared.entry bodies.lowering).names = [declared.sourceName, declared.closureName] := by
  obtain ⟨procedure, source, member, lowered, fits⟩ := carries
  have found := entry_source_iff.mpr ⟨procedure, member, lowered, fits⟩
  obtain ⟨name, extras⟩ := bytecodeSource_named member lowered
  rw [FunctionInventoryEntry.names, FunctionInventoryEntry.sources, found]
  rcases extras with extras | ⟨extra, extras, closureName⟩
  · simp [extras, name, Except.toOption]
  · simp [extras, name, closureName, Except.toOption]

end Sources

/-!
## Identity
-/

/-- Ids tell entries apart, names tell functions apart, and so the checks for duplicates
pass: that of an inventory, and that of any module which takes each entry at most once. -/
structure Identified (inventory : KernelInventory) : Prop where
  ids : (inventory.functions.map (·.functionId)).Nodup
  names : (inventory.functions.flatMap (·.names)).Nodup
  validated : inventory.validate = .ok ()
  modules : ∀ (lib : DartLib) (decisions : List FunctionDecision) collected specs,
    (decisions.map (·.functionId)).Nodup → collectSources inventory decisions = .ok collected →
    compileModule lib collected = .ok specs → (specs.map (·.name)).Nodup

/-- Members of one place differ in signature or number of type parameters, and at most one
of them carries a source. -/
def Version.Separated {ν : Type} (bodies : Bodies ν) (version : Version ν) : Prop :=
  version.declared.Pairwise fun first second => first.SamePlace second →
    ¬ first.SameShape second ∧ ¬ (first.Carries bodies ∧ second.Carries bodies)

section Versions

variable {ν : Type} [Printer ν] {bodies : Bodies ν} {version : Version ν}

theorem functionId_eq_iff (lexical : version.Lexical) (collisionFree : CollisionFree version version)
    {first second : Declared ν} (firstMember : first ∈ version.declared)
    (secondMember : second ∈ version.declared) :
    hash first.idText = hash second.idText ↔ first.SamePlace second ∧ first.SameShape second := by
  have firstTexts := mem_texts_of_declared firstMember
  have secondTexts := mem_texts_of_declared secondMember
  rw [hash_eq_iff collisionFree firstTexts.1 secondTexts.1,
    idText_eq_iff lexical firstMember secondMember,
    hash_eq_iff collisionFree firstTexts.2.1 secondTexts.2.1]
  rfl

theorem ids_nodup_iff (bodies : Bodies ν) (lexical : version.Lexical)
    (collisionFree : CollisionFree version version) :
    ((version.inventory bodies.lowering).functions.map (·.functionId)).Nodup ↔
      version.declared.Pairwise fun first second =>
        ¬ (first.SamePlace second ∧ first.SameShape second) := by
  rw [Version.inventory, List.map_map, List.Nodup, List.pairwise_map]
  apply List.Pairwise.iff_of_mem
  intro first second firstMember secondMember
  exact not_congr (functionId_eq_iff lexical collisionFree firstMember secondMember)

theorem entry_names_nodup (lexical : version.Lexical) {declared : Declared ν}
    (member : declared ∈ version.declared) : (declared.entry bodies.lowering).names.Nodup := by
  by_cases carries : declared.Carries bodies
  · rcases entry_names_of_carries carries with names | names
    · rw [names]
      exact List.nodup_singleton _
    · rw [names]
      simpa using sourceName_ne_closureName lexical member
  · rw [entry_names_of_not_carries carries]
    exact List.nodup_nil

theorem disjoint_names_iff (lexical : version.Lexical) {first second : Declared ν}
    (firstMember : first ∈ version.declared) (secondMember : second ∈ version.declared) :
    (first.entry bodies.lowering).names.Disjoint (second.entry bodies.lowering).names ↔
      ¬ (first.SamePlace second ∧ first.Carries bodies ∧ second.Carries bodies) := by
  constructor
  · rintro disjoint ⟨same, firstCarries, secondCarries⟩
    have own : ∀ {declared : Declared ν}, declared.Carries bodies →
        declared.sourceName ∈ (declared.entry bodies.lowering).names := by
      intro declared carries
      rcases entry_names_of_carries carries with names | names <;> simp [names]
    apply disjoint (own firstCarries)
    rw [sourceName_of_samePlace same]
    exact own secondCarries
  · intro apart name inFirst inSecond
    by_cases firstCarries : first.Carries bodies
    · by_cases secondCarries : second.Carries bodies
      · apply apart
        refine ⟨sourceName_inj lexical firstMember secondMember ?_, firstCarries, secondCarries⟩
        have either : ∀ {declared : Declared ν}, declared.Carries bodies →
            name ∈ (declared.entry bodies.lowering).names →
            name = declared.sourceName ∨ name = declared.closureName := by
          intro declared carries inside
          rcases entry_names_of_carries carries with names | names
          · rw [names] at inside
            exact .inl (List.mem_singleton.mp inside)
          · rw [names] at inside
            simpa using inside
        rcases either firstCarries inFirst with rfl | rfl
        · rcases either secondCarries inSecond with same | same
          · exact same
          · exact absurd same (sourceName_ne_closureName lexical firstMember)
        · rcases either secondCarries inSecond with same | same
          · exact absurd same.symm (sourceName_ne_closureName lexical secondMember)
          · exact closureName_inj same
      · rw [entry_names_of_not_carries secondCarries] at inSecond
        cases inSecond
    · rw [entry_names_of_not_carries firstCarries] at inFirst
      cases inFirst

theorem names_nodup_iff (bodies : Bodies ν) (lexical : version.Lexical) :
    ((version.inventory bodies.lowering).functions.flatMap (·.names)).Nodup ↔
      version.declared.Pairwise fun first second =>
        ¬ (first.SamePlace second ∧ first.Carries bodies ∧ second.Carries bodies) := by
  rw [Version.inventory, List.flatMap_map, List.nodup_flatMap]
  constructor
  · rintro ⟨_, apart⟩
    exact apart.imp_of_mem fun firstMember secondMember disjoint =>
      (disjoint_names_iff lexical firstMember secondMember).mp disjoint
  · intro apart
    exact ⟨fun _ member => entry_names_nodup lexical member,
      apart.imp_of_mem fun firstMember secondMember distinct =>
        (disjoint_names_iff lexical firstMember secondMember).mpr distinct⟩

theorem validateFunctions_of_nodup {seen : List String} {functions : List FunctionInventoryEntry}
    (shown : ∀ function ∈ functions, isBlank function.functionId = false)
    (distinct : (functions.map (·.functionId)).Nodup)
    (fresh : ∀ function ∈ functions, function.functionId ∉ seen) :
    validateFunctions seen functions = .ok () := by
  induction functions generalizing seen with
  | nil => rfl
  | cons function functions ih =>
      obtain ⟨first, rest⟩ := List.nodup_cons.mp distinct
      have here := fresh function List.mem_cons_self
      unfold validateFunctions
      rw [if_neg (by simp [shown function List.mem_cons_self]), if_neg here]
      refine ih (fun other member => shown other (List.mem_cons_of_mem _ member)) rest ?_
      intro other member inside
      rcases List.mem_cons.mp inside with same | inside
      · exact first (List.mem_map.mpr ⟨other, member, same⟩)
      · exact fresh other (List.mem_cons_of_mem _ member) inside

theorem validate_of_nodup
    (distinct : ((version.inventory bodies.lowering).functions.map (·.functionId)).Nodup) :
    (version.inventory bodies.lowering).validate = .ok () := by
  refine except_guard_eq_ok.mpr ⟨fun wrong => wrong rfl, ?_⟩
  refine validateFunctions_of_nodup ?_ distinct fun _ _ => List.not_mem_nil
  intro function member
  obtain ⟨declared, _, rfl⟩ := List.mem_map.mp member
  exact hash_not_blank declared.idText

end Versions

/-!
## Modules
-/

theorem find?_spec {inventory : KernelInventory} {functionId : String}
    {function : FunctionInventoryEntry} (found : inventory.find? functionId = some function) :
    function ∈ inventory.functions ∧ function.functionId = functionId :=
  ⟨List.mem_reverse.mp (List.mem_of_find?_eq_some found), by simpa using List.find?_some found⟩

theorem collectSource_names {inventory : KernelInventory} {decision : FunctionDecision}
    {collected : List (Source × Option String)}
    (collects : collectSource inventory decision = .ok collected) :
    ∃ function ∈ inventory.functions, function.functionId = decision.functionId ∧
      collected.map (nameOf ·.1) = function.names := by
  unfold collectSource at collects
  split at collects
  case h_1 => cases collects
  case h_2 function found =>
    obtain ⟨member, same⟩ := find?_spec found
    refine ⟨function, member, same, ?_⟩
    split at collects
    case h_1 source carried =>
      obtain ⟨extras, listed, collects⟩ := except_bind_eq_ok.mp collects
      cases collects
      simp [FunctionInventoryEntry.names, FunctionInventoryEntry.sources, carried, listed,
        Except.toOption]
    case h_2 => cases collects

/-- A plan takes entries of the inventory, one for each decision. -/
theorem collectSources_names {inventory : KernelInventory} {decisions : List FunctionDecision}
    {collected : List (Source × Option String)}
    (collects : collectSources inventory decisions = .ok collected) :
    ∃ taken : List FunctionInventoryEntry, (∀ function ∈ taken, function ∈ inventory.functions) ∧
      taken.map (·.functionId) = decisions.map (·.functionId) ∧
      collected.map (nameOf ·.1) = taken.flatMap (·.names) := by
  obtain ⟨parts, mapped, rfl⟩ := except_map_eq_ok.mp collects
  have each := except_mapM_eq_ok mapped
  clear collects mapped
  induction each with
  | nil => exact ⟨[], by simp, rfl, rfl⟩
  | cons here _ ih =>
      obtain ⟨function, member, same, names⟩ := collectSource_names here
      obtain ⟨taken, members, ids, later⟩ := ih
      refine ⟨function :: taken, ?_, ?_, ?_⟩
      · exact List.forall_mem_cons.mpr ⟨member, members⟩
      · rw [List.map_cons, List.map_cons, same, ids]
      · rw [List.flatten_cons, List.map_append, names, later, List.flatMap_cons]

theorem compileSourceFunction_name {lib : DartLib} {source : Source} {location : Option String}
    {spec : FunctionSpec} (compiled : compileSourceFunction lib source location = .ok spec) :
    spec.name = nameOf source := by
  obtain ⟨params, _, compiled⟩ := except_bind_eq_ok.mp compiled
  obtain ⟨name, named, compiled⟩ := except_bind_eq_ok.mp compiled
  have same : nameOf source = name := by
    cases found : Object.get source "name" with
    | string text =>
        simp only [sourceName, found] at named
        split at named
        · cases named
        · cases named
          simp only [nameOf, found]
    | _ =>
        simp only [sourceName, found] at named
        cases named
  split at compiled
  · cases compiled
  · obtain ⟨body, _, compiled⟩ := except_bind_eq_ok.mp compiled
    dsimp only at compiled
    split at compiled
    · cases compiled
    · cases compiled
      exact same.symm

theorem compileModule_names {lib : DartLib} {collected : List (Source × Option String)}
    {specs : List FunctionSpec} (compiled : compileModule lib collected = .ok specs) :
    specs.map (·.name) = collected.map (nameOf ·.1) := by
  obtain ⟨each, mapped, checked⟩ := except_bind_eq_ok.mp compiled
  obtain ⟨some, same⟩ := except_guard_eq_ok.mp checked
  cases same
  have pairs := except_mapM_eq_ok mapped
  clear compiled mapped checked some
  induction pairs with
  | nil => rfl
  | cons here _ ih =>
      rw [List.map_cons, List.map_cons, ih, compileSourceFunction_name here]

theorem modules_of_names {inventory : KernelInventory}
    (names : (inventory.functions.flatMap (·.names)).Nodup) (lib : DartLib)
    (decisions : List FunctionDecision) (collected : List (Source × Option String))
    (specs : List FunctionSpec) (distinct : (decisions.map (·.functionId)).Nodup)
    (collects : collectSources inventory decisions = .ok collected)
    (compiled : compileModule lib collected = .ok specs) : (specs.map (·.name)).Nodup := by
  obtain ⟨taken, members, ids, together⟩ := collectSources_names collects
  obtain ⟨own, apart⟩ := List.nodup_flatMap.mp names
  rw [compileModule_names compiled, together, List.nodup_flatMap]
  refine ⟨fun function member => own function (members function member), ?_⟩
  have symmetric : Std.Symm (Function.onFun List.Disjoint FunctionInventoryEntry.names) :=
    ⟨fun _ _ disjoint _ inSecond inFirst => disjoint inFirst inSecond⟩
  rw [← ids] at distinct
  apply (List.Nodup.of_map _ distinct).imp_of_mem
  intro first second firstMember secondMember different
  exact apart.forall (members first firstMember) (members second secondMember) different

/-!
## The inventory of a component
-/

/-- Members are told apart by id and by name exactly in programs where no two of one place
have one signature and number of type parameters, or a source each. -/
theorem identified_iff_separated {ν : Type} [Printer ν] (bodies : Bodies ν) (project packageName : String)
    (component : Component ν) (lexical : (component.version project packageName).Lexical)
    (collisionFree : CollisionFree (component.version project packageName)
      (component.version project packageName)) :
    Identified ((component.version project packageName).inventory bodies.lowering) ↔
      (component.version project packageName).Separated bodies := by
  constructor
  · intro identified
    have ids := (ids_nodup_iff bodies lexical collisionFree).mp identified.ids
    have names := (names_nodup_iff bodies lexical).mp identified.names
    refine (ids.and names).imp ?_
    intro first second apart same
    exact ⟨fun shape => apart.1 ⟨same, shape⟩, fun carry => apart.2 ⟨same, carry⟩⟩
  · intro separated
    have ids := (ids_nodup_iff bodies lexical collisionFree).mpr
      (separated.imp fun apart both => (apart both.1).1 both.2)
    have names := (names_nodup_iff bodies lexical).mpr
      (separated.imp fun apart both => (apart both.1).2 both.2)
    exact
      { ids
        names
        validated := validate_of_nodup ids
        modules := modules_of_names names }

/-!
## Accessors
-/

section Accessors

variable {ν : Type}

/-- A signature up to the parameters. -/
def signatureHead (function : FunctionNode ν) : String :=
  function.returnType ++ ":" ++ toString function.requiredParameterCount ++ ":" ++
    ",".intercalate (function.typeParameters.map typeParameterText) ++ ":"

theorem signature_eq (function : FunctionNode ν) : signature function = signatureHead function ++
    ",".intercalate (function.positionalParameters.map variableSignature) ++ ":" ++
    ",".intercalate (function.namedParameters.map variableSignature) := rfl

theorem signatureHead_last (function : FunctionNode ν) :
    (signatureHead function).toList.getLast? = some ':' := by
  simp only [signatureHead, String.toList_append]
  rw [List.getLast?_append_of_ne_nil _ (by decide)]
  rfl

theorem variableSignature_last (parameter : Variable ν) :
    (variableSignature parameter).toList.getLast? = some 'e' := by
  have text : variableSignature parameter =
      parameter.name ++ ":" ++ parameter.type ++ ":" ++ toString parameter.isRequired := rfl
  have required : (toString parameter.isRequired).toList.getLast? = some 'e' := by
    cases parameter.isRequired <;> decide
  have some : (toString parameter.isRequired).toList ≠ [] := by
    cases parameter.isRequired <;> decide
  rw [text, String.toList_append, List.getLast?_append_of_ne_nil _ some, required]

/-- A getter and a setter never share an id: their signatures end differently. -/
theorem accessor_signatures_differ {getter setter : FunctionNode ν} {parameter : Variable ν}
    (getterPositional : getter.positionalParameters = []) (getterNamed : getter.namedParameters = [])
    (setterPositional : setter.positionalParameters = [parameter])
    (setterNamed : setter.namedParameters = []) : signature getter ≠ signature setter := by
  intro same
  rw [signature_eq, signature_eq, getterPositional, getterNamed, setterPositional, setterNamed] at same
  have letters := congrArg String.toList same
  simp only [List.map_nil, List.map_cons, String.intercalate_nil, String.intercalate_singleton,
    String.toList_append, String.toList_empty, List.append_nil] at letters
  have ends := congrArg List.getLast? (List.append_cancel_right letters)
  have some : (variableSignature parameter).toList ≠ [] := by
    intro none
    have last := variableSignature_last parameter
    rw [none] at last
    cases last
  rw [signatureHead_last, List.getLast?_append_of_ne_nil _ some, variableSignature_last] at ends
  cases ends

end Accessors

def accessor (kind body : String) (parameters : List (Variable Written)) : Procedure Written where
  name := "level"
  kind := kind
  isStatic := true
  isExtensionMember := false
  isExtensionTypeMember := false
  function :=
    { returnType := if parameters.isEmpty then "int" else "void"
      requiredParameterCount := parameters.length
      typeParameters := []
      positionalParameters := parameters
      namedParameters := []
      body := some ⟨body⟩
      asyncMarker := .sync }
  location := "main.dart:1"

/-- `int get level => 1;` -/
def levelGetter : Procedure Written := accessor "ProcedureKind.Getter" "return 1;" []

/-- `set level(int value) => value;` -/
def levelSetter : Procedure Written :=
  accessor "ProcedureKind.Setter" "return value;" [⟨"value", "int", false, none⟩]

def levelComponent (procedures : List (Procedure Written)) : Component Written :=
  [{ importUri := ⟨"package", "app/main.dart", "package:app/main.dart", ""⟩
     classes := []
     procedures
     fields := [] }]

/-- What the reader makes of the two bodies. -/
def levelBodies : Bodies Written where
  typeName := some
  futureTypeArgs := fun _ => none
  asyncValue := fun _ _ _ => none
  generatorBody := fun _ _ _ => none
  returnedClosure := fun _ _ _ => none
  syncValue := fun _ _ _ => none
  expression := fun _ _ function =>
    match function.body with
    | some ⟨"return 1;"⟩ => some (.map [("int", .int 1)])
    | some ⟨"return value;"⟩ => some (.map [("arg", .string "value")])
    | _ => none
  reason := fun _ => .unsupportedKernelNode

/-- A getter alone is told apart. -/
theorem getter_identified :
    Identified (((levelComponent [levelGetter]).version "/app" "app").inventory levelBodies.lowering) := by
  refine (identified_iff_separated levelBodies "/app" "app" (levelComponent [levelGetter])
    ⟨?_, ?_⟩ ?_).mpr ?_
  · decide
  · decide
  · unfold CollisionFree
    decide +kernel
  · exact List.pairwise_singleton _ _

/-- A getter and its setter are not. -/
theorem accessors_share_name :
    ¬ ∀ (bodies : Bodies Written) (project packageName : String) (component : Component Written),
      (component.version project packageName).Lexical →
      CollisionFree (component.version project packageName) (component.version project packageName) →
      Identified ((component.version project packageName).inventory bodies.lowering) := by
  intro always
  have identified := always levelBodies "/app" "app" (levelComponent [levelGetter, levelSetter])
    ⟨by decide, by decide⟩ (by unfold CollisionFree; decide +kernel)
  exact absurd identified.names (by decide)

end CodePush.Linker
