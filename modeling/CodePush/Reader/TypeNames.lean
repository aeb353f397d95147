import CodePush.Compiler.Functions

/-!
# Names of types

`fcbKernelTypeName` of `tool/fcb_kernel_type_names.dart`, the `is` and `as` expressions of
`tool/fcb_kernel_reader.dart` that carry its result, and the source of a function, from whose
`return_type` the compiler chooses a return convention.

The types are those of `package:kernel`. A type that is not an interface type with a bound class is
read from its `toString()`.
-/

set_option autoImplicit false

namespace CodePush.Reader

open CodePush.Compiler

/-!
## Types of the Kernel
-/

/-- What an interface type declares. It is never undetermined. -/
inductive Nullability where
  | nonNullable | nullable | legacy
  deriving Repr, DecidableEq

def Nullability.suffix : Nullability → List Char
  | .nonNullable => []
  | .nullable => ['?']
  | .legacy => ['*']

/-- Every other type can be undetermined. -/
def nullabilitySuffix : Option Nullability → List Char
  | some nullability => nullability.suffix
  | none => ['%']

/-- The types that are printed with a nullability and are not interface types. -/
inductive TypeKind where
  | function | record | futureOr | typeParameter | structuralParameter | intersection | extension | never
  deriving Repr, DecidableEq

def TypeKind.text : TypeKind → String
  | .function => "FunctionType"
  | .record => "RecordType"
  | .futureOr => "FutureOrType"
  | .typeParameter => "TypeParameterType"
  | .structuralParameter => "StructuralParameterType"
  | .intersection => "IntersectionType"
  | .extension => "ExtensionType"
  | .never => "NeverType"

/-- The types that declare no nullability. -/
inductive FixedType where
  | dynamic | void | null | invalid
  deriving Repr, DecidableEq

/-- The two parts of `toString()`, the second of them in parentheses. -/
def FixedType.text : FixedType → String × String
  | .dynamic => ("DynamicType", "dynamic")
  | .void => ("VoidType", "void")
  | .null => ("NullType", "Null")
  | .invalid => ("InvalidType", "<invalid>")

/-- The characters of a class name: no white space and no sign that types are printed with. -/
def isNameChar (char : Char) : Bool :=
  !isDartWhiteSpace char && !"?*<>(),:".toList.contains char

/-- A bound class. `library` is the text of its import URI. -/
structure KernelClass where
  library : String
  name : String
  plain : ∀ char ∈ name.toList, isNameChar char = true

/-- `printed` is what stands between the parentheses of `toString()` and before the suffix. The class
of an `unbound` type cannot be looked up. -/
inductive DartType where
  | interface (klass : KernelClass) (args : List DartType) (nullability : Nullability)
  | unbound (printed : String) (nullability : Nullability)
  | written (kind : TypeKind) (printed : String) (nullability : Option Nullability)
  | fixed (type : FixedType)

/-- `toString()`. -/
def printedType (kind printed : String) (suffix : List Char) : List Char :=
  kind.toList ++ '(' :: (printed.toList ++ (suffix ++ [')']))

/-!
## Names
-/

/-- `String.trim` on characters. -/
def trimmed (raw : List Char) : List Char := (raw.dropWhile isDartWhiteSpace).rdropWhile isDartWhiteSpace

theorem dartTrim_toList (text : String) : (dartTrim text).toList = trimmed text.toList := by
  simp [dartTrim, trimmed, List.rdropWhile]

def interfaceMarker : List Char := "InterfaceType(".toList

def unwrapInterface (text : List Char) : List Char :=
  if interfaceMarker.isPrefixOf text && text.getLast? == some ')' then
    (text.drop interfaceMarker.length).dropLast
  else text

def isNullabilitySign (char : Char) : Bool := char == '?' || char == '*'

def stripNullability (text : List Char) : List Char := text.rdropWhile isNullabilitySign

/-- The text before the first `<` and the one from there to the last character, a `>`. -/
def splitTypeArguments (text : List Char) : Option (List Char × List Char) :=
  if '<' ∈ text ∧ text.getLast? = some '>' then
    some (text.takeWhile (· != '<'), ((text.dropWhile (· != '<')).drop 1).dropLast)
  else none

def isIdentifierStart (char : Char) : Bool := char.isAlpha || char == '_'

def isIdentifierChar (char : Char) : Bool := char.isAlphanum || char == '_'

def coreMarker : List Char := "core::".toList

def dartCoreMarker : List Char := "dart:core::".toList

/-- The identifier after a marker. -/
def identifierAfter (marker text : List Char) : Option (List Char) :=
  if marker.isPrefixOf text then
    match text.drop marker.length with
    | [] => none
    | first :: rest => if isIdentifierStart first then some (first :: rest.takeWhile isIdentifierChar) else none
  else none

/-- The group of the first match of `(?:dart:)?core::([A-Za-z_][A-Za-z0-9_]*)`. -/
def firstCoreName : List Char → Option (List Char)
  | [] => none
  | char :: rest =>
      (identifierAfter dartCoreMarker (char :: rest)).or
        ((identifierAfter coreMarker (char :: rest)).or (firstCoreName rest))

def withoutCore (text : List Char) : List Char :=
  if dartCoreMarker.isPrefixOf text then text.drop dartCoreMarker.length
  else if coreMarker.isPrefixOf text then text.drop coreMarker.length
  else text

def simpleTypeNames : List (List Char) :=
  ["int", "double", "num", "bool", "String", "Object", "Null", "List", "Map", "dynamic", "void"].map
    String.toList

def allowedName (text : List Char) : Option (List Char) :=
  if text ∈ simpleTypeNames then some text else none

/-- The end of `_normalizeSimpleTypeName`. -/
def simpleTypeName (text : List Char) : Option (List Char) :=
  allowedName (withoutCore ((firstCoreName text).getD text))

/-- The beginning of `_normalizeSimpleTypeName`. -/
def strippedTypeName (raw : List Char) : List Char := stripNullability (unwrapInterface (trimmed raw))

theorem length_dropWhile_le {α : Type} (test : α → Bool) (items : List α) :
    (items.dropWhile test).length ≤ items.length :=
  (List.dropWhile_sublist test).length_le

theorem length_strippedTypeName (raw : List Char) : (strippedTypeName raw).length ≤ raw.length := by
  rw [strippedTypeName]
  have shortTrim : (trimmed raw).length ≤ raw.length := by
    have shortFront := length_dropWhile_le isDartWhiteSpace raw
    have shortBack := (List.rdropWhile_prefix isDartWhiteSpace (raw.dropWhile isDartWhiteSpace)).length_le
    exact Nat.le_trans shortBack shortFront
  have shortUnwrap : (unwrapInterface (trimmed raw)).length ≤ (trimmed raw).length := by
    unfold unwrapInterface
    split
    · simp only [List.length_dropLast, List.length_drop]
      omega
    · exact Nat.le_refl _
  have shortStrip := (List.rdropWhile_prefix isNullabilitySign (unwrapInterface (trimmed raw))).length_le
  exact Nat.le_trans shortStrip (Nat.le_trans shortUnwrap shortTrim)

theorem splitTypeArguments_shorter {text base inner : List Char}
    (found : splitTypeArguments text = some (base, inner)) :
    base.length < text.length ∧ inner.length < text.length := by
  unfold splitTypeArguments at found
  split at found
  case isFalse => cases found
  case isTrue angled =>
    obtain ⟨rfl, rfl⟩ := Prod.mk.inj (Option.some.inj found)
    have whole := congrArg List.length (List.takeWhile_append_dropWhile (p := (· != '<')) (l := text))
    have kept : text.dropWhile (· != '<') ≠ [] := by
      intro gone
      have others := List.dropWhile_eq_nil_iff.mp gone '<' angled.1
      simp at others
    have nonempty := List.length_pos_of_ne_nil kept
    simp only [List.length_append] at whole
    simp only [List.length_dropLast, List.length_drop]
    omega

theorem length_of_mem_splitOn {inner piece : List Char} (member : piece ∈ inner.splitOn ',') :
    piece.length ≤ inner.length := by
  have whole : [','].intercalate (inner.splitOn ',') = inner := List.intercalate_splitOn ','
  rw [← whole]
  clear whole
  revert member
  induction inner.splitOn ',' with
  | nil => exact fun member => nomatch member
  | cons first rest ih =>
      intro member
      cases rest with
      | nil =>
          obtain rfl := List.mem_singleton.mp member
          simp
      | cons second later =>
          simp only [List.intercalate_cons_cons, List.length_append]
          rcases List.mem_cons.mp member with rfl | member
          · omega
          · have within := ih member
            omega

/-- `_normalizeSimpleTypeName`. -/
def normalizeSimpleTypeName (raw : List Char) : Option (List Char) :=
  match _found : splitTypeArguments (strippedTypeName raw) with
  | some (base, inner) =>
      let args := (inner.splitOn ',').attach.map fun piece => normalizeSimpleTypeName piece.1
      match normalizeSimpleTypeName base, args.mapM id with
      | some base, some args => some (base ++ '<' :: [','].intercalate args ++ ['>'])
      | _, _ => none
  | none => simpleTypeName (strippedTypeName raw)
termination_by raw.length
decreasing_by
  all_goals
    have shorter := splitTypeArguments_shorter _found
    have short := length_strippedTypeName raw
  · have within := length_of_mem_splitOn piece.2
    exact Nat.lt_of_le_of_lt within (Nat.lt_of_lt_of_le shorter.2 short)
  · exact Nat.lt_of_lt_of_le shorter.1 short

def classTypeName (klass : KernelClass) : Option String :=
  if klass.library = "dart:core" then
    (normalizeSimpleTypeName klass.name.toList).map String.ofList
  else some (klass.library ++ "::" ++ klass.name)

mutual

/-- `fcbKernelTypeName`. -/
def typeName : DartType → Option String
  | .interface klass args _ => do
      let base ← classTypeName klass
      if args.isEmpty then some base
      else
        let names ← typeNames args
        some (base ++ "<" ++ ",".intercalate names ++ ">")
  | .unbound printed nullability =>
      (normalizeSimpleTypeName (printedType "InterfaceType" printed nullability.suffix)).map String.ofList
  | .written kind printed nullability =>
      (normalizeSimpleTypeName (printedType kind.text printed (nullabilitySuffix nullability))).map
        String.ofList
  | .fixed type =>
      (normalizeSimpleTypeName (printedType type.text.1 type.text.2 [])).map String.ofList

def typeNames : List DartType → Option (List String)
  | [] => some []
  | type :: types => do
      let name ← typeName type
      let names ← typeNames types
      some (name :: names)

end

/-!
## Consumers
-/

/-- An `is` expression whose operand has been lowered. Other ways to read it follow when this fails. -/
def isExpr (value : Option Expr) (type : DartType) : Option Expr := do
  let value ← value
  let type ← typeName type
  some (.isType value type)

/-- An `as` expression. -/
def asExpr (value : Option Expr) (type : DartType) : Option Expr := do
  let value ← value
  let type ← typeName type
  some (.asType value type)

/-- The source of a function. -/
def functionSource (name : String) (returnType : DartType) (params : List String)
    (body : List (String × Object)) : List (String × Object) :=
  [("name", .string name),
    ("return_type", match typeName returnType with | some type => .string type | none => .null),
    ("params", .list (params.map .string)),
    ("body", .map body)]

/-!
## What Dart distinguishes
-/

mutual

/-- The type in which nothing is nullable. -/
def DartType.erased : DartType → DartType
  | .interface klass args _ => .interface klass (DartType.erasedAll args) .nonNullable
  | .unbound printed _ => .unbound printed .nonNullable
  | .written kind printed _ => .written kind printed (some .nonNullable)
  | .fixed type => .fixed type

def DartType.erasedAll : List DartType → List DartType
  | [] => []
  | type :: types => type.erased :: DartType.erasedAll types

end

def KernelClass.IsInt (klass : KernelClass) : Prop := klass.library = "dart:core" ∧ klass.name = "int"

/-- Whether `null is T`, where the type by itself says so. -/
def DartType.acceptsNull : DartType → Option Bool
  | .interface klass _ .nonNullable => some (klass.library = "dart:core" ∧ klass.name = "Null")
  | .interface _ _ _ => some true
  | .unbound _ .nonNullable => none
  | .unbound _ _ => some true
  | .written .never _ (some .nonNullable) => some false
  | .written _ _ (some .nonNullable) => none
  | .written _ _ (some _) => some true
  | .written _ _ none => none
  | .fixed .invalid => none
  | .fixed _ => some true

/-- An unbound reference is known by its text alone. -/
def NamesInt (printed : String) : Prop :=
  splitTypeArguments (stripNullability printed.toList) = none ∧
    simpleTypeName (stripNullability printed.toList) = some "int".toList

/-- The non-nullable `int`. -/
def DartType.IsInt : DartType → Prop
  | .interface klass args nullability => klass.IsInt ∧ args = [] ∧ nullability = .nonNullable
  | .unbound printed nullability => NamesInt printed ∧ nullability = .nonNullable
  | .written _ _ _ => False
  | .fixed _ => False

/-- A nullable `int`, or another type whose text mentions `int` before every other core class. -/
def DartType.ReadsAsInt : DartType → Prop
  | .interface klass args nullability => klass.IsInt ∧ args = [] ∧ nullability ≠ .nonNullable
  | .unbound printed nullability => NamesInt printed ∧ nullability ≠ .nonNullable
  | .written _ printed _ => firstCoreName printed.toList = some "int".toList
  | .fixed _ => False

/-- Tests and casts differ between types that differ in nullability, at any depth. -/
def TestsApart (type : DartType) : Prop :=
  ∀ other, other.erased = type.erased → other ≠ type → ∀ value,
    isExpr (some value) other ≠ isExpr (some value) type ∧
      asExpr (some value) other ≠ asExpr (some value) type

/-- Whether `null` passes can be read off the lowered tests and casts. -/
def NullTestsExact (type : DartType) : Prop :=
  ∃ acceptsNull : Expr → Bool, ∀ other accepts value test, other.erased = type.erased →
    other.acceptsNull = some accepts →
    (isExpr (some value) other = some test ∨ asExpr (some value) other = some test) →
    acceptsNull test = accepts

def ConventionExact (lib : DartLib) (returnType : DartType) : Prop :=
  ∀ name params body,
    returnConventionForSource lib (functionSource name returnType params body) = "unboxed_int64" →
      returnType.IsInt

/-!
## The name of a text
-/

theorem normalizeSimpleTypeName_congr {raw raw' : List Char}
    (same : strippedTypeName raw = strippedTypeName raw') :
    normalizeSimpleTypeName raw = normalizeSimpleTypeName raw' := by
  rw [normalizeSimpleTypeName, normalizeSimpleTypeName, same]

theorem normalizeSimpleTypeName_simple {raw : List Char}
    (whole : splitTypeArguments (strippedTypeName raw) = none) :
    normalizeSimpleTypeName raw = simpleTypeName (strippedTypeName raw) := by
  rw [normalizeSimpleTypeName]
  split
  case h_1 found => rw [whole] at found; cases found
  case h_2 => rfl

theorem trimmed_of_ends {first last : Char} {middle : List Char} (firstDense : isDartWhiteSpace first = false)
    (lastDense : isDartWhiteSpace last = false) :
    trimmed (first :: (middle ++ [last])) = first :: (middle ++ [last]) := by
  rw [trimmed, List.dropWhile_cons_of_neg (by simp [firstDense]), ← List.cons_append]
  exact List.rdropWhile_concat_neg _ _ _ (by simp [lastDense])

theorem stripNullability_append_suffix (text : List Char) (nullability : Nullability) :
    stripNullability (text ++ nullability.suffix) = stripNullability text := by
  cases nullability with
  | nonNullable => rw [Nullability.suffix, List.append_nil]
  | nullable => exact List.rdropWhile_concat_pos _ _ _ rfl
  | legacy => exact List.rdropWhile_concat_pos _ _ _ rfl

theorem interfaceMarker_eq : interfaceMarker = "InterfaceType".toList ++ ['('] := by decide

theorem unwrapInterface_interface (text : List Char) :
    unwrapInterface (interfaceMarker ++ (text ++ [')'])) = text := by
  have marked : interfaceMarker.isPrefixOf (interfaceMarker ++ (text ++ [')'])) = true :=
    List.isPrefixOf_iff_prefix.mpr (List.prefix_append _ _)
  have closed : (interfaceMarker ++ (text ++ [')'])).getLast? = some ')' := by
    rw [← List.append_assoc, List.getLast?_append_of_ne_nil _ (by simp), List.getLast?_singleton]
  rw [unwrapInterface, marked, closed, Bool.true_and, beq_self_eq_true, if_pos rfl, List.drop_left,
    List.dropLast_concat]

/-- The suffix of an interface type is stripped. -/
theorem strippedTypeName_interface (printed : String) (nullability : Nullability) :
    strippedTypeName (printedType "InterfaceType" printed nullability.suffix) =
      stripNullability printed.toList := by
  have shape : printedType "InterfaceType" printed nullability.suffix =
      interfaceMarker ++ ((printed.toList ++ nullability.suffix) ++ [')']) := by
    simp [printedType, interfaceMarker_eq]
  have dense : trimmed (interfaceMarker ++ ((printed.toList ++ nullability.suffix) ++ [')'])) =
      interfaceMarker ++ ((printed.toList ++ nullability.suffix) ++ [')']) := by
    rw [← List.append_assoc]
    exact trimmed_of_ends (by decide) (by decide)
  rw [strippedTypeName, shape, dense, unwrapInterface_interface, stripNullability_append_suffix]

/-!
## Core names in a text
-/

/-- Ends an identifier and stands in no marker. -/
def isForeign (char : Char) : Bool := !isIdentifierChar char && char != ':'

theorem markers_native {marker : List Char} (isMarker : marker = coreMarker ∨ marker = dartCoreMarker) :
    ∀ char ∈ marker, isForeign char = false := by
  rcases isMarker with rfl | rfl
  · exact Core.forall_mem_of_all (by decide)
  · exact Core.forall_mem_of_all (by decide)

theorem colon_mem_marker {marker : List Char} (isMarker : marker = coreMarker ∨ marker = dartCoreMarker) :
    ':' ∈ marker := by
  rcases isMarker with rfl | rfl <;> decide

/-- What follows a foreign character is out of a marker's reach. -/
theorem marker_prefix_append {marker front : List Char} {char : Char} {rest : List Char}
    (isMarker : marker = coreMarker ∨ marker = dartCoreMarker) (foreign : isForeign char = true)
    (marked : marker <+: front ++ char :: rest) : marker <+: front := by
  rcases List.prefix_or_prefix_of_prefix marked (List.prefix_append front (char :: rest)) with inFront | ⟨more, rfl⟩
  · exact inFront
  · have within := (List.prefix_append_right_inj front).mp marked
    cases more with
    | nil => simp
    | cons first later =>
        obtain rfl := (List.cons_prefix_cons.mp within).1
        have native := markers_native isMarker first (by simp)
        rw [native] at foreign
        cases foreign

theorem takeWhile_append_stop {test : Char → Bool} {char : Char} (stops : test char = false)
    (front rest : List Char) : (front ++ char :: rest).takeWhile test = front.takeWhile test := by
  induction front with
  | nil => simp [stops]
  | cons first later ih => simp [List.takeWhile_cons, ih]

theorem identifierAfter_append {marker : List Char} {char : Char}
    (isMarker : marker = coreMarker ∨ marker = dartCoreMarker) (foreign : isForeign char = true)
    (front rest : List Char) :
    identifierAfter marker (front ++ char :: rest) = identifierAfter marker front := by
  have noIdentifier : isIdentifierChar char = false := by
    simp only [isForeign, Bool.and_eq_true, Bool.not_eq_true'] at foreign
    exact foreign.1
  have noStart : isIdentifierStart char = false := by
    simp only [isIdentifierChar, Char.isAlphanum, Bool.or_eq_false_iff] at noIdentifier
    simp [isIdentifierStart, noIdentifier]
  by_cases marked : marker <+: front
  · obtain ⟨more, rfl⟩ := marked
    have isPrefix : ∀ back, marker.isPrefixOf (marker ++ back) = true := fun back =>
      List.isPrefixOf_iff_prefix.mpr (List.prefix_append _ _)
    rw [List.append_assoc, identifierAfter, identifierAfter, isPrefix, isPrefix, if_pos rfl, if_pos rfl,
      List.drop_left, List.drop_left]
    cases more with
    | nil => simp [noStart]
    | cons first later => simp [takeWhile_append_stop noIdentifier]
  · have unmarked : ¬ marker <+: front ++ char :: rest := fun longer =>
      marked (marker_prefix_append isMarker foreign longer)
    rw [identifierAfter, identifierAfter, if_neg (by simpa using unmarked), if_neg (by simpa using marked)]

/-- A match does not reach across a foreign character. -/
theorem firstCoreName_append {char : Char} (foreign : isForeign char = true) (front rest : List Char) :
    firstCoreName (front ++ char :: rest) = (firstCoreName front).or (firstCoreName rest) := by
  have skips := fun {marker} (isMarker : marker = coreMarker ∨ marker = dartCoreMarker) front =>
    identifierAfter_append isMarker foreign front rest
  induction front with
  | nil =>
      have here := skips (.inl rfl) []
      have here' := skips (.inr rfl) []
      rw [List.nil_append] at here here' ⊢
      rw [firstCoreName.eq_1, firstCoreName.eq_2, here, here']
      rfl
  | cons first later ih =>
      have here := skips (.inl rfl) (first :: later)
      have here' := skips (.inr rfl) (first :: later)
      rw [List.cons_append] at here here' ⊢
      rw [firstCoreName, firstCoreName, here, here', ih, Option.or_assoc, Option.or_assoc]

theorem marker_not_prefix {marker text : List Char}
    (isMarker : marker = coreMarker ∨ marker = dartCoreMarker) (noColon : ':' ∉ text) :
    ¬ marker <+: text :=
  fun marked => noColon (marked.subset (colon_mem_marker isMarker))

theorem firstCoreName_of_noColon {text : List Char} (noColon : ':' ∉ text) : firstCoreName text = none := by
  induction text with
  | nil => rfl
  | cons first later ih =>
      have unmarked := fun {marker} (isMarker : marker = coreMarker ∨ marker = dartCoreMarker) =>
        marker_not_prefix isMarker noColon
      rw [firstCoreName, identifierAfter, if_neg (by simpa using unmarked (.inr rfl)), identifierAfter,
        if_neg (by simpa using unmarked (.inl rfl)), ih (fun member => noColon (List.mem_cons_of_mem _ member))]
      rfl

theorem withoutCore_of_noMarker {text : List Char}
    (unmarked : ∀ marker, marker = coreMarker ∨ marker = dartCoreMarker → ¬ marker <+: text) :
    withoutCore text = text := by
  rw [withoutCore, if_neg (by simpa using unmarked _ (.inr rfl)), if_neg (by simpa using unmarked _ (.inl rfl))]

theorem isIdentifierChar_of_identifierAfter {marker text name : List Char}
    (found : identifierAfter marker text = some name) : ∀ char ∈ name, isIdentifierChar char = true := by
  unfold identifierAfter at found
  split at found
  case isFalse => cases found
  case isTrue =>
    cases after : text.drop marker.length with
    | nil => rw [after] at found; cases found
    | cons first rest =>
        simp only [after] at found
        split at found
        case isFalse => cases found
        case isTrue starts =>
          obtain rfl := Option.some.inj found
          intro char member
          rcases List.mem_cons.mp member with rfl | member
          · simp only [isIdentifierStart, Bool.or_eq_true] at starts
            rcases starts with letter | underscore
            · simp [isIdentifierChar, Char.isAlphanum, letter]
            · simp [isIdentifierChar, underscore]
          · exact List.mem_takeWhile_imp member

theorem isIdentifierChar_of_firstCoreName {text name : List Char} (found : firstCoreName text = some name) :
    ∀ char ∈ name, isIdentifierChar char = true := by
  induction text with
  | nil => cases found
  | cons first later ih =>
      rw [firstCoreName, Option.or_eq_some_iff, Option.or_eq_some_iff] at found
      rcases found with here | ⟨_, here | ⟨_, inLater⟩⟩
      · exact isIdentifierChar_of_identifierAfter here
      · exact isIdentifierChar_of_identifierAfter here
      · exact ih inLater

/-- A match decides the name. -/
theorem simpleTypeName_of_firstCoreName {text name : List Char} (found : firstCoreName text = some name) :
    simpleTypeName text = allowedName name := by
  have noColon : ':' ∉ name := fun member =>
    absurd (isIdentifierChar_of_firstCoreName found ':' member) (by decide)
  rw [simpleTypeName, found, Option.getD_some, withoutCore_of_noMarker fun _ isMarker =>
    marker_not_prefix isMarker noColon]

/-!
## Types that are read from their text
-/

/-- The kinds of types that are not interface types. -/
structure IsOtherKind (kind : String) : Prop where
  letters : ∀ char ∈ kind.toList, char.isAlpha = true
  dense : ∀ char ∈ kind.toList, isDartWhiteSpace char = false
  nonempty : kind.toList ≠ []
  other : kind.toList ≠ "InterfaceType".toList

theorem TypeKind.isOtherKind (kind : TypeKind) : IsOtherKind kind.text := by
  constructor
  · exact Core.forall_mem_of_all (by cases kind <;> decide)
  · exact Core.forall_mem_of_all (by cases kind <;> decide)
  · cases kind <;> decide
  · cases kind <;> decide

theorem FixedType.isOtherKind (type : FixedType) : IsOtherKind type.text.1 := by
  constructor
  · exact Core.forall_mem_of_all (by cases type <;> decide)
  · exact Core.forall_mem_of_all (by cases type <;> decide)
  · cases type <;> decide
  · cases type <;> decide

section OtherKinds

variable {kind printed : String} {suffix : List Char}

theorem IsOtherKind.not_mem (isKind : IsOtherKind kind) {char : Char} (sign : char.isAlpha = false) :
    char ∉ kind.toList := by
  intro member
  rw [isKind.letters char member] at sign
  cases sign

theorem getLast?_printedType : (printedType kind printed suffix).getLast? = some ')' := by
  have shape : printedType kind printed suffix =
      (kind.toList ++ '(' :: (printed.toList ++ suffix)) ++ [')'] := by simp [printedType]
  rw [shape, List.getLast?_append_of_ne_nil _ (by simp), List.getLast?_singleton]

theorem interfaceMarker_not_prefix (isKind : IsOtherKind kind) :
    ¬ interfaceMarker <+: printedType kind printed suffix := by
  intro ⟨rest, same⟩
  rw [interfaceMarker_eq, List.append_assoc, printedType] at same
  have fronts := congrArg (List.takeWhile (· != '(')) same
  rw [List.singleton_append, takeWhile_append_stop (by decide), takeWhile_append_stop (by decide)] at fronts
  have whole : kind.toList.takeWhile (· != '(') = kind.toList := by
    rw [List.takeWhile_eq_self_iff]
    intro char member
    have ne : char ≠ '(' := fun h => isKind.not_mem (by decide) (h ▸ member)
    simpa using ne
  rw [whole] at fronts
  exact isKind.other (fronts.symm.trans (by decide))

/-- Such a text is left as it is. -/
theorem strippedTypeName_printedType (isKind : IsOtherKind kind) :
    strippedTypeName (printedType kind printed suffix) = printedType kind printed suffix := by
  have dense : trimmed (printedType kind printed suffix) = printedType kind printed suffix := by
    cases shape : kind.toList with
    | nil => exact absurd shape isKind.nonempty
    | cons first more =>
        have dense := isKind.dense first (by rw [shape]; exact List.mem_cons_self)
        have whole : printedType kind printed suffix =
            first :: ((more ++ '(' :: (printed.toList ++ suffix)) ++ [')']) := by
          simp [printedType, shape]
        rw [whole]
        exact trimmed_of_ends dense (by decide)
  have unmarked : interfaceMarker.isPrefixOf (printedType kind printed suffix) = false := by
    rw [Bool.eq_false_iff, ne_eq, List.isPrefixOf_iff_prefix]
    exact interfaceMarker_not_prefix isKind
  have ends : ∀ nonempty : printedType kind printed suffix ≠ [],
      ¬ isNullabilitySign ((printedType kind printed suffix).getLast nonempty) = true := by
    intro nonempty
    have last : (printedType kind printed suffix).getLast? = some ')' := getLast?_printedType
    rw [List.getLast?_eq_some_getLast nonempty] at last
    rw [Option.some.inj last]
    decide
  rw [strippedTypeName, dense, unwrapInterface, unmarked, Bool.false_and, if_neg Bool.false_ne_true,
    stripNullability]
  exact List.rdropWhile_eq_self_iff.mpr ends

theorem firstCoreName_printedType (isKind : IsOtherKind kind)
    (signs : ∀ char ∈ suffix, isForeign char = true) :
    firstCoreName (printedType kind printed suffix) = firstCoreName printed.toList := by
  have before : firstCoreName kind.toList = none := firstCoreName_of_noColon (isKind.not_mem (by decide))
  rw [printedType, firstCoreName_append (by decide), before, Option.none_or]
  have after : ∀ rest : List Char, (∀ char ∈ rest, isForeign char = true) → firstCoreName rest = none := by
    intro rest foreign
    exact firstCoreName_of_noColon fun member => absurd (foreign ':' member) (by decide)
  cases suffix with
  | nil => rw [List.nil_append, firstCoreName_append (by decide), after [] (by simp), Option.or_none]
  | cons sign rest =>
      rw [List.cons_append, firstCoreName_append (signs sign List.mem_cons_self), after (rest ++ [')']),
        Option.or_none]
      intro char member
      rcases List.mem_append.mp member with inRest | closing
      · exact signs char (List.mem_cons_of_mem _ inRest)
      · rw [List.mem_singleton.mp closing]
        decide

theorem allowedName_of_parenthesis {text : List Char} (member : '(' ∈ text) : allowedName text = none := by
  have plain : ∀ name ∈ simpleTypeNames, '(' ∉ name := by decide
  exact if_neg fun allowed => plain text allowed member

/-- Only a core class in its text gives such a type a name; what it declares does not show. -/
theorem normalizeSimpleTypeName_printedType (isKind : IsOtherKind kind)
    (signs : ∀ char ∈ suffix, isForeign char = true) :
    normalizeSimpleTypeName (printedType kind printed suffix) =
      (firstCoreName printed.toList).bind allowedName := by
  have stripped : strippedTypeName (printedType kind printed suffix) = printedType kind printed suffix :=
    strippedTypeName_printedType isKind
  have whole : splitTypeArguments (strippedTypeName (printedType kind printed suffix)) = none := by
    rw [stripped, splitTypeArguments, getLast?_printedType]
    exact if_neg fun angled => absurd angled.2 (by decide)
  rw [normalizeSimpleTypeName_simple whole, stripped]
  have core : firstCoreName (printedType kind printed suffix) = firstCoreName printed.toList :=
    firstCoreName_printedType isKind signs
  cases found : firstCoreName printed.toList with
  | some name => exact simpleTypeName_of_firstCoreName (core.trans found)
  | none =>
      have unmarked : ∀ marker, marker = coreMarker ∨ marker = dartCoreMarker →
          ¬ marker <+: printedType kind printed suffix := by
        intro marker isMarker marked
        exact marker_not_prefix isMarker (isKind.not_mem (by decide))
          (marker_prefix_append isMarker (by decide) marked)
      rw [simpleTypeName, core.trans found, Option.getD_none, withoutCore_of_noMarker unmarked]
      exact allowedName_of_parenthesis (by simp [printedType])

end OtherKinds

/-!
## Types that are looked up
-/

section Classes

variable {klass : KernelClass}

theorem KernelClass.not_mem (klass : KernelClass) {char : Char} (sign : isNameChar char = false) :
    char ∉ klass.name.toList := by
  intro member
  rw [klass.plain char member] at sign
  cases sign

/-- The name of a class is left as it is. -/
theorem strippedTypeName_name (klass : KernelClass) :
    strippedTypeName klass.name.toList = klass.name.toList := by
  have dense : ∀ char ∈ klass.name.toList, isDartWhiteSpace char = false := by
    intro char member
    have plain := klass.plain char member
    simp only [isNameChar, Bool.and_eq_true, Bool.not_eq_true'] at plain
    exact plain.1
  have trims : trimmed klass.name.toList = klass.name.toList := by
    have front : klass.name.toList.dropWhile isDartWhiteSpace = klass.name.toList := by
      rw [List.dropWhile_eq_self_iff]
      intro nonempty
      simp [dense _ (List.getElem_mem nonempty)]
    rw [trimmed, front]
    refine List.rdropWhile_eq_self_iff.mpr ?_
    intro nonempty
    simp [dense _ (List.getLast_mem nonempty)]
  have unmarked : interfaceMarker.isPrefixOf klass.name.toList = false := by
    rw [Bool.eq_false_iff, ne_eq, List.isPrefixOf_iff_prefix]
    exact fun marked => klass.not_mem (by decide) (marked.subset (by decide : '(' ∈ interfaceMarker))
  rw [strippedTypeName, trims, unwrapInterface, unmarked, Bool.false_and, if_neg Bool.false_ne_true,
    stripNullability]
  refine List.rdropWhile_eq_self_iff.mpr ?_
  intro nonempty sign
  have member := List.getLast_mem nonempty
  simp only [isNullabilitySign, Bool.or_eq_true, beq_iff_eq] at sign
  rcases sign with question | star
  · exact klass.not_mem (by decide) (question ▸ member)
  · exact klass.not_mem (by decide) (star ▸ member)

theorem normalizeSimpleTypeName_name (klass : KernelClass) :
    normalizeSimpleTypeName klass.name.toList = allowedName klass.name.toList := by
  have noColon : ':' ∉ klass.name.toList := klass.not_mem (by decide)
  have whole : splitTypeArguments (strippedTypeName klass.name.toList) = none := by
    rw [strippedTypeName_name]
    exact if_neg fun angled => klass.not_mem (by decide) angled.1
  rw [normalizeSimpleTypeName_simple whole, strippedTypeName_name, simpleTypeName,
    firstCoreName_of_noColon noColon, Option.getD_none,
    withoutCore_of_noMarker fun _ isMarker => marker_not_prefix isMarker noColon]

theorem allowedName_eq_some {text name : List Char} :
    allowedName text = some name ↔ text = name ∧ name ∈ simpleTypeNames := by
  unfold allowedName
  split
  case isTrue allowed =>
    rw [Option.some_inj]
    exact ⟨fun same => ⟨same, same ▸ allowed⟩, fun same => same.1⟩
  case isFalse refused =>
    constructor
    · intro found
      cases found
    · intro found
      exact absurd (found.1 ▸ found.2) refused

theorem map_ofList_eq_int {name : Option (List Char)} :
    name.map String.ofList = some "int" ↔ name = some "int".toList := by
  rw [Option.map_eq_some_iff]
  constructor
  · rintro ⟨chars, rfl, same⟩
    rw [← same, String.toList_ofList]
  · rintro rfl
    exact ⟨_, rfl, String.ofList_toList⟩

theorem classTypeName_eq_int : classTypeName klass = some "int" ↔ klass.IsInt := by
  unfold classTypeName KernelClass.IsInt
  split
  case isTrue core =>
    rw [map_ofList_eq_int, normalizeSimpleTypeName_name, allowedName_eq_some, String.toList_inj]
    exact ⟨fun found => ⟨core, found.1⟩, fun isInt => ⟨isInt.2, by decide⟩⟩
  case isFalse elsewhere =>
    refine ⟨?_, fun isInt => absurd isInt.1 elsewhere⟩
    intro same
    have colon : ':' ∈ (klass.library ++ "::" ++ klass.name).toList := by simp
    rw [Option.some.inj same] at colon
    exact absurd colon (by decide)

end Classes

/-!
## Names forget nullability
-/

theorem isEmpty_erasedAll (types : List DartType) :
    (DartType.erasedAll types).isEmpty = types.isEmpty := by
  cases types <;> rfl

theorem foreign_nullabilitySuffix (nullability : Option Nullability) :
    ∀ char ∈ nullabilitySuffix nullability, isForeign char = true := by
  apply Core.forall_mem_of_all
  rcases nullability with _ | _ | _ | _ <;> decide

theorem typeName_unbound (printed : String) (nullability nullability' : Nullability) :
    typeName (.unbound printed nullability) = typeName (.unbound printed nullability') := by
  rw [typeName, typeName, normalizeSimpleTypeName_congr
    ((strippedTypeName_interface printed nullability).trans (strippedTypeName_interface printed nullability').symm)]

theorem typeName_written (kind : TypeKind) (printed : String) (nullability : Option Nullability) :
    typeName (.written kind printed nullability) =
      ((firstCoreName printed.toList).bind allowedName).map String.ofList := by
  rw [typeName, normalizeSimpleTypeName_printedType kind.isOtherKind (foreign_nullabilitySuffix nullability)]

theorem typeName_fixed (type : FixedType) : typeName (.fixed type) = none := by
  have noColon : ':' ∉ type.text.2.toList := by cases type <;> decide
  rw [typeName, normalizeSimpleTypeName_printedType type.isOtherKind (by simp),
    firstCoreName_of_noColon noColon]
  rfl

mutual

/-- The name of a type is that of the type in which nothing is nullable. -/
theorem typeName_erased : ∀ type : DartType, typeName type.erased = typeName type
  | .interface klass args nullability => by
      rw [DartType.erased, typeName, typeName, isEmpty_erasedAll, typeNames_erasedAll args]
  | .unbound printed nullability => typeName_unbound printed _ _
  | .written kind printed nullability =>
      (typeName_written kind printed _).trans (typeName_written kind printed nullability).symm
  | .fixed _ => rfl

theorem typeNames_erasedAll : ∀ types : List DartType, typeNames (DartType.erasedAll types) = typeNames types
  | [] => rfl
  | type :: types => by
      rw [DartType.erasedAll, typeNames, typeNames, typeName_erased type, typeNames_erasedAll types]

end

theorem typeName_of_erased_eq {type other : DartType} (same : other.erased = type.erased) :
    typeName other = typeName type := by
  rw [← typeName_erased, same, typeName_erased]

theorem exists_nullability_ne (nullability : Nullability) : ∃ other : Nullability, other ≠ nullability := by
  cases nullability with
  | nonNullable => exact ⟨.nullable, by decide⟩
  | nullable => exact ⟨.nonNullable, by decide⟩
  | legacy => exact ⟨.nonNullable, by decide⟩

/-- A type with a name has a variant that differs in what it declares at the outside. -/
theorem exists_variant {type : DartType} (lowered : (typeName type).isSome = true) :
    ∃ other : DartType, other.erased = type.erased ∧ other ≠ type := by
  cases type with
  | interface klass args nullability =>
      obtain ⟨other, ne⟩ := exists_nullability_ne nullability
      exact ⟨.interface klass args other, rfl, by simpa using ne⟩
  | unbound printed nullability =>
      obtain ⟨other, ne⟩ := exists_nullability_ne nullability
      exact ⟨.unbound printed other, rfl, by simpa using ne⟩
  | written kind printed nullability =>
      cases nullability with
      | none => exact ⟨.written kind printed (some .nullable), rfl, by simp⟩
      | some nullability =>
          obtain ⟨other, ne⟩ := exists_nullability_ne nullability
          exact ⟨.written kind printed (some other), rfl, by simpa using ne⟩
  | fixed type =>
      rw [typeName_fixed] at lowered
      cases lowered

theorem isExpr_eq_some {value : Expr} {type : DartType} {name : String} (named : typeName type = some name) :
    isExpr (some value) type = some (.isType value name) := by
  simp [isExpr, named]

theorem not_testsApart {type : DartType} (lowered : (typeName type).isSome = true) : ¬ TestsApart type := by
  intro apart
  obtain ⟨other, same, ne⟩ := exists_variant lowered
  refine (apart other same ne .null).1 ?_
  rw [isExpr, isExpr, typeName_of_erased_eq same]

/-- A type whose non-nullable form rejects `null` is an interface type or `Never`. Both have a nullable
form. -/
theorem exists_nullable {type : DartType} (rejects : type.erased.acceptsNull = some false) :
    ∃ other : DartType, other.erased = type.erased ∧ other.acceptsNull = some true := by
  cases type with
  | interface klass args nullability => exact ⟨.interface klass args .nullable, rfl, rfl⟩
  | unbound printed nullability => exact ⟨.unbound printed .nullable, rfl, rfl⟩
  | written kind printed nullability =>
      exact ⟨.written kind printed (some .nullable), rfl, by cases kind <;> rfl⟩
  | fixed type =>
      cases type <;> simp [DartType.erased, DartType.acceptsNull] at rejects

mutual

theorem DartType.erased_erased : ∀ type : DartType, type.erased.erased = type.erased
  | .interface klass args _ => by
      rw [DartType.erased, DartType.erased, DartType.erasedAll_erasedAll args]
  | .unbound _ _ => rfl
  | .written _ _ _ => rfl
  | .fixed _ => rfl

theorem DartType.erasedAll_erasedAll :
    ∀ types : List DartType, DartType.erasedAll (DartType.erasedAll types) = DartType.erasedAll types
  | [] => rfl
  | type :: types => by
      rw [DartType.erasedAll, DartType.erasedAll, DartType.erased_erased type,
        DartType.erasedAll_erasedAll types]

end

theorem not_nullTestsExact {type : DartType} (lowered : (typeName type).isSome = true)
    (rejects : type.erased.acceptsNull = some false) : ¬ NullTestsExact type := by
  rintro ⟨acceptsNull, exact⟩
  obtain ⟨name, named⟩ := Option.isSome_iff_exists.mp lowered
  obtain ⟨other, same, accepts⟩ := exists_nullable rejects
  have nullable := exact other true .null _ same accepts
    (.inl (isExpr_eq_some ((typeName_of_erased_eq same).trans named)))
  have nonNullable := exact type.erased false .null _ type.erased_erased rejects
    (.inl (isExpr_eq_some ((typeName_erased type).trans named)))
  rw [nullable] at nonNullable
  cases nonNullable

/-!
## The return convention
-/

theorem returnConvention_eq_unboxed {lib : DartLib} {name : String} {returnType : DartType}
    {params : List String} {body : List (String × Object)} :
    returnConventionForSource lib (functionSource name returnType params body) = "unboxed_int64" ↔
      typeName returnType = some "int" := by
  have implicit : Object.get (functionSource name returnType params body) "return_convention" = .null := rfl
  have declared : Object.get (functionSource name returnType params body) "return_type" =
      match typeName returnType with | some type => .string type | none => .null := rfl
  rw [returnConventionForSource, implicit, declared]
  cases typeName returnType with
  | none => simp [DartLib.text?]
  | some type => simp [DartLib.text?, DartLib.text]

/-- A name with type arguments is not `int`. -/
theorem normalizeSimpleTypeName_angled {raw : List Char} {parts : List Char × List Char}
    (split : splitTypeArguments (strippedTypeName raw) = some parts) :
    normalizeSimpleTypeName raw ≠ some "int".toList := by
  intro found
  rw [normalizeSimpleTypeName] at found
  split at found
  case h_2 whole => rw [split] at whole; cases whole
  case h_1 =>
    dsimp only at found
    split at found
    case h_2 => cases found
    case h_1 base args _ _ =>
      have angle : '<' ∈ base ++ '<' :: [','].intercalate args ++ ['>'] := by simp
      rw [Option.some.inj found] at angle
      exact absurd angle (by decide)

theorem unbound_eq_int {printed : String} {nullability : Nullability} :
    typeName (.unbound printed nullability) = some "int" ↔ NamesInt printed := by
  have stripped := strippedTypeName_interface printed nullability
  rw [typeName, map_ofList_eq_int, NamesInt]
  cases split : splitTypeArguments (stripNullability printed.toList) with
  | none =>
      rw [normalizeSimpleTypeName_simple (by rw [stripped, split]), stripped]
      exact (and_iff_right rfl).symm
  | some parts =>
      refine iff_of_false ?_ fun names => nomatch names.1
      exact normalizeSimpleTypeName_angled (by rw [stripped, split])

theorem interface_eq_int {klass : KernelClass} {args : List DartType} {nullability : Nullability} :
    typeName (.interface klass args nullability) = some "int" ↔ klass.IsInt ∧ args = [] := by
  rw [typeName]
  cases args with
  | nil =>
      rw [← classTypeName_eq_int]
      cases classTypeName klass <;> simp
  | cons arg rest =>
      refine iff_of_false ?_ fun isInt => nomatch isInt.2
      intro found
      simp only [List.isEmpty_cons, Bool.false_eq_true, if_false, Option.bind_eq_bind,
        Option.bind_eq_some_iff] at found
      obtain ⟨base, _, names, _, same⟩ := found
      have angle : '<' ∈ (base ++ "<" ++ ",".intercalate names ++ ">").toList := by simp
      rw [Option.some.inj same] at angle
      exact absurd angle (by decide)

theorem written_eq_int {kind : TypeKind} {printed : String} {nullability : Option Nullability} :
    typeName (.written kind printed nullability) = some "int" ↔
      firstCoreName printed.toList = some "int".toList := by
  rw [typeName_written, map_ofList_eq_int, Option.bind_eq_some_iff]
  constructor
  · intro ⟨name, found, allowed⟩
    rw [found, (allowedName_eq_some.mp allowed).1]
  · intro found
    exact ⟨_, found, by decide⟩

/-- The types that are called `int`. -/
theorem typeName_eq_int {type : DartType} :
    typeName type = some "int" ↔ type.IsInt ∨ type.ReadsAsInt := by
  cases type with
  | interface klass args nullability =>
      rw [interface_eq_int, DartType.IsInt, DartType.ReadsAsInt, ← and_or_left, ← and_or_left]
      simp [em]
  | unbound printed nullability =>
      rw [unbound_eq_int, DartType.IsInt, DartType.ReadsAsInt, ← and_or_left]
      simp [em]
  | written kind printed nullability =>
      rw [written_eq_int, DartType.IsInt, DartType.ReadsAsInt, false_or]
  | fixed type =>
      rw [typeName_fixed, DartType.IsInt, DartType.ReadsAsInt, false_or, iff_false]
      exact fun found => nomatch found

theorem not_isInt_of_readsAsInt {type : DartType} (reads : type.ReadsAsInt) : ¬ type.IsInt := by
  cases type with
  | interface klass args nullability => exact fun isInt => reads.2.2 isInt.2.2
  | unbound printed nullability => exact fun isInt => reads.2 isInt.2
  | written kind printed nullability => exact id
  | fixed type => exact id

theorem conventionExact_iff {lib : DartLib} {type : DartType} :
    ConventionExact lib type ↔ ¬ type.ReadsAsInt := by
  constructor
  · intro exact reads
    have called := typeName_eq_int.mpr (.inr reads)
    exact not_isInt_of_readsAsInt reads (exact "" [] [] (returnConvention_eq_unboxed.mpr called))
  · intro other name params body unboxed
    exact (typeName_eq_int.mp (returnConvention_eq_unboxed.mp unboxed)).resolve_right other

/-- No lowered test or cast tells a type from its nullable form. A function returns an unboxed integer by
mistake exactly when its type only reads as `int`. -/
theorem nullability_never_kept (lib : DartLib) (type : DartType) (lowered : (typeName type).isSome = true) :
    ¬ TestsApart type ∧ (type.erased.acceptsNull = some false → ¬ NullTestsExact type) ∧
      (ConventionExact lib type ↔ ¬ type.ReadsAsInt) :=
  ⟨not_testsApart lowered, not_nullTestsExact lowered, conventionExact_iff⟩

def intClass : KernelClass where
  library := "dart:core"
  name := "int"
  plain := Core.forall_mem_of_all (by decide)

/-- `int?`. -/
def nullableInt : DartType := .interface intClass [] .nullable

theorem nullableInt_name : typeName nullableInt = some "int" :=
  interface_eq_int.mpr ⟨⟨rfl, rfl⟩, rfl⟩

theorem nullableInt_never_kept :
    (typeName nullableInt).isSome = true ∧ ¬ TestsApart nullableInt ∧ ¬ NullTestsExact nullableInt ∧
      ¬ ConventionExact textLib nullableInt := by
  have lowered : (typeName nullableInt).isSome = true := by rw [nullableInt_name]; rfl
  have ⟨testsApart, nullTests, convention⟩ := nullability_never_kept textLib nullableInt lowered
  refine ⟨lowered, testsApart, nullTests (by decide), ?_⟩
  intro exact
  exact convention.mp exact ⟨⟨rfl, rfl⟩, rfl, by decide⟩

/-- `x is int?` is lowered to the test `x is int`, and a function that returns `int?` returns an unboxed
integer. -/
theorem nullable_int_is_int :
    nullableInt.acceptsNull = some true ∧
      (DartType.interface intClass [] .nonNullable).acceptsNull = some false ∧
      isExpr (some (.arg "x")) nullableInt = some (.isType (.arg "x") "int") ∧
      isExpr (some (.arg "x")) (.interface intClass [] .nonNullable) = some (.isType (.arg "x") "int") ∧
      returnConventionForSource textLib (functionSource "f" nullableInt [] []) = "unboxed_int64" ∧
      ¬ nullableInt.IsInt := by
  refine ⟨rfl, by decide, isExpr_eq_some nullableInt_name, isExpr_eq_some ?_, ?_, ?_⟩
  · exact interface_eq_int.mpr ⟨⟨rfl, rfl⟩, rfl⟩
  · exact returnConvention_eq_unboxed.mpr nullableInt_name
  · intro isInt
    cases isInt.2.2

end CodePush.Reader
