import CodePush.Linker.Plan

/-!
# The inventory of a program

The entries that `tool/fcb_kernel_reader.dart` makes of the libraries of a project. The
Kernel package is not part of the repository: types are the texts of their `toString`, and
of the nodes of its trees nothing is known but what its `Printer` writes for each.
-/

set_option autoImplicit false

namespace CodePush.Linker

open CodePush.Core CodePush.Compiler

/-!
## Programs
-/

/-- What `Printer` writes for a node, with a `NameSystem` that is new for each. Different nodes
may be written alike. -/
class Printer (ν : Type) where
  write : ν → String

inductive AsyncMarker where
  | sync | syncStar | async | asyncStar
  deriving Repr, DecidableEq

structure TypeParameter where
  name : String
  bound : String
  defaultType : String
  deriving Repr, DecidableEq

/-- `VariableDeclaration`; the initializer of a parameter is its default value. -/
structure Variable (ν : Type) where
  name : String
  type : String
  isRequired : Bool
  initializer : Option ν
  deriving Repr, DecidableEq

structure FunctionNode (ν : Type) where
  returnType : String
  requiredParameterCount : Nat
  typeParameters : List TypeParameter
  positionalParameters : List (Variable ν)
  namedParameters : List (Variable ν)
  body : Option ν
  asyncMarker : AsyncMarker
  deriving Repr, DecidableEq

structure Field (ν : Type) where
  name : String
  type : String
  isStatic : Bool
  isFinal : Bool
  isConst : Bool
  isLate : Bool
  initializer : Option ν
  deriving Repr, DecidableEq

structure Constructor (ν : Type) where
  name : String
  isConst : Bool
  isExternal : Bool
  function : FunctionNode ν
  initializers : List ν
  location : String
  deriving Repr, DecidableEq

structure Procedure (ν : Type) where
  name : String
  kind : String
  isStatic : Bool
  isExtensionMember : Bool
  isExtensionTypeMember : Bool
  function : FunctionNode ν
  location : String
  deriving Repr, DecidableEq

structure Class (ν : Type) where
  name : String
  typeParameters : List TypeParameter
  supertype : Option String
  mixedInType : Option String
  implementedTypes : List String
  fields : List (Field ν)
  constructors : List (Constructor ν)
  procedures : List (Procedure ν)
  deriving Repr, DecidableEq

/-- A library of the project under its canonical URI. -/
structure Library (ν : Type) where
  uri : String
  classes : List (Class ν)
  procedures : List (Procedure ν)
  fields : List (Field ν)
  deriving Repr, DecidableEq

section Reader

variable {ν : Type}

/-!
## Texts
-/

/-- `_hash`: FNV-1a with 64 bits, in hexadecimal. -/
def hash (text : String) : String :=
  let step := fun (value : UInt64) (byte : UInt8) => (value ^^^ byte.toUInt64) * 0x100000001b3
  let digits := Nat.toDigits 16 ((stringBytes text).foldl step 0xcbf29ce484222325).toNat
  String.ofList (List.replicate (16 - digits.length) '0' ++ digits)

/-- `\s` of a `RegExp`. -/
def isRegExpSpace (char : Char) : Bool :=
  (isWhiteSpace char && char.toNat != 0x85) || char.toNat == 0xfeff

/-- `replaceAll(RegExp(r'\s+'), ' ')`; the flag says that the last character was a space. -/
def collapseSpaces : Bool → List Char → List Char
  | _, [] => []
  | inSpace, char :: rest =>
      if isRegExpSpace char then
        if inSpace then collapseSpaces true rest else ' ' :: collapseSpaces true rest
      else char :: collapseSpaces false rest

def nodeText [Printer ν] : Option ν → String
  | none => ""
  | some node => dartTrim (String.ofList (collapseSpaces false (Printer.write node).toList))

def typeParameterText (parameter : TypeParameter) : String :=
  s!"{parameter.name}:{parameter.bound}:{parameter.defaultType}"

def variableSignature (declaration : Variable ν) : String :=
  s!"{declaration.name}:{declaration.type}:{declaration.isRequired}"

def signature (function : FunctionNode ν) : String :=
  ":".intercalate
    [function.returnType, toString function.requiredParameterCount,
      ",".intercalate (function.typeParameters.map typeParameterText),
      ",".intercalate (function.positionalParameters.map variableSignature),
      ",".intercalate (function.namedParameters.map variableSignature)]

/-- `_extensionEnclosing`. -/
def extensionEnclosing (procedure : Procedure ν) : String :=
  if !procedure.isExtensionMember && !procedure.isExtensionTypeMember then ""
  else
    match procedure.name.toList.idxOf? '|' with
    | some (separator + 1) =>
        "extension:" ++ String.ofList (procedure.name.toList.take (separator + 1))
    | _ => "extension"

/-!
## Entries
-/

/-- What else the reader finds out about a procedure: its bytecode source and the reasons
against it. -/
structure Lowering (ν : Type) where
  bytecodeSource : String → String → Procedure ν → Option Object
  unsupportedReasons : String → String → Procedure ν → List RejectReason

inductive Member (ν : Type) where
  | constructor (constructor : Constructor ν)
  | procedure (procedure : Procedure ν)
  deriving Repr, DecidableEq

/-- A constructor or procedure where it is declared. -/
structure Declared (ν : Type) where
  libraryUri : String
  enclosing : String
  member : Member ν
  deriving Repr, DecidableEq

namespace Declared

def name (declared : Declared ν) : String :=
  match declared.member with
  | .constructor constructor => constructor.name
  | .procedure procedure => procedure.name

def function (declared : Declared ν) : FunctionNode ν :=
  match declared.member with
  | .constructor constructor => constructor.function
  | .procedure procedure => procedure.function

/-- The initializers of a constructor. -/
def initializers (declared : Declared ν) : List ν :=
  match declared.member with
  | .constructor constructor => constructor.initializers
  | .procedure _ => []

/-- The text that `function_id` is the hash of. -/
def idText (declared : Declared ν) : String :=
  "\n".intercalate
    [declared.libraryUri, declared.enclosing, declared.name, hash (signature declared.function),
      toString declared.function.typeParameters.length]

/-- The text that `body_hash` is the hash of. -/
def bodyText [Printer ν] (declared : Declared ν) : String :=
  match declared.member with
  | .constructor constructor =>
      "\n".intercalate [nodeText constructor.function.body,
        "\n".intercalate (constructor.initializers.map fun node => nodeText (some node))]
  | .procedure procedure => nodeText procedure.function.body

def location (declared : Declared ν) : String :=
  match declared.member with
  | .constructor constructor => constructor.location
  | .procedure procedure => procedure.location

/-- `_constructorEntry` and `_procedureEntry`. -/
def entry [Printer ν] (lowering : Lowering ν) (declared : Declared ν) : FunctionInventoryEntry where
  functionId := hash declared.idText
  libraryUri := declared.libraryUri
  enclosing := declared.enclosing
  memberName := declared.name
  signatureHash := hash (signature declared.function)
  bodyHash := hash declared.bodyText
  sourceLocation := some declared.location
  bytecodeSource :=
    match declared.member with
    | .constructor _ => none
    | .procedure procedure =>
        if (lowering.unsupportedReasons declared.libraryUri declared.enclosing procedure).isEmpty then
          lowering.bytecodeSource declared.libraryUri declared.enclosing procedure
        else none
  unsupportedReasons :=
    match declared.member with
    | .constructor _ => [.unsupportedKernelNode]
    | .procedure procedure =>
        lowering.unsupportedReasons declared.libraryUri declared.enclosing procedure

end Declared

/-- A class where it is declared. -/
structure DeclaredClass (ν : Type) where
  libraryUri : String
  body : Class ν

namespace DeclaredClass

def idText (declared : DeclaredClass ν) : String :=
  "\n".intercalate [declared.libraryUri, s!"class:{declared.body.name}"]

def fieldShape (field : Field ν) : String :=
  s!"field:{field.name}:{field.type}:{field.isStatic}:{field.isFinal}:{field.isConst}"

def constructorShape [Printer ν] (constructor : Constructor ν) : String :=
  let initializers := ",".intercalate (constructor.initializers.map fun node => nodeText (some node))
  s!"constructor:{constructor.name}:{constructor.isConst}:{constructor.isExternal}:{signature constructor.function}:{initializers}"

def procedureShape (procedure : Procedure ν) : String :=
  s!"procedure:{procedure.name}:{procedure.kind}:{procedure.isStatic}:{signature procedure.function}"

def shape [Printer ν] (declared : DeclaredClass ν) : String :=
  let klass := declared.body
  "\n".intercalate
    ([klass.name, ",".intercalate (klass.typeParameters.map typeParameterText),
      klass.supertype.getD "", klass.mixedInType.getD "", ",".intercalate klass.implementedTypes] ++
      klass.fields.map fieldShape ++ klass.constructors.map constructorShape ++
      klass.procedures.map procedureShape)

/-- `_classEntry`. -/
def entry [Printer ν] (declared : DeclaredClass ν) : ClassInventoryEntry where
  classId := hash declared.idText
  shapeHash := hash declared.shape

end DeclaredClass

/-- A field of a library. -/
structure DeclaredField (ν : Type) where
  libraryUri : String
  field : Field ν

namespace DeclaredField

def idText (declared : DeclaredField ν) : String :=
  "\n".intercalate [declared.libraryUri, declared.field.name]

def signature (declared : DeclaredField ν) : String :=
  let field := declared.field
  ":".intercalate
    [field.name, field.type, toString field.isStatic, toString field.isFinal, toString field.isConst,
      toString field.isLate]

/-- `_fieldEntry`. -/
def entry (declared : DeclaredField ν) : FieldInventoryEntry where
  fieldId := hash declared.idText
  signatureHash := hash declared.signature

end DeclaredField

/-!
## Inventories
-/

namespace Library

def declared (library : Library ν) : List (Declared ν) :=
  (library.classes.flatMap fun klass =>
    klass.constructors.map (fun constructor =>
      ⟨library.uri, s!"class:{klass.name}", .constructor constructor⟩) ++
    klass.procedures.map fun procedure =>
      ⟨library.uri, s!"class:{klass.name}", .procedure procedure⟩) ++
  library.procedures.map fun procedure =>
    ⟨library.uri, extensionEnclosing procedure, .procedure procedure⟩

end Library

/-- The libraries of a project at one version. -/
abbrev Version (ν : Type) := List (Library ν)

namespace Version

def declared (version : Version ν) : List (Declared ν) := version.flatMap Library.declared

def classes (version : Version ν) : List (DeclaredClass ν) :=
  version.flatMap fun library => library.classes.map (⟨library.uri, ·⟩)

def fields (version : Version ν) : List (DeclaredField ν) :=
  version.flatMap fun library => library.fields.map (⟨library.uri, ·⟩)

def inventory [Printer ν] (lowering : Lowering ν) (version : Version ν) : KernelInventory where
  schemaVersion := 1
  functions := version.declared.map (Declared.entry lowering)
  classes := version.classes.map DeclaredClass.entry
  topLevelFields := version.fields.map DeclaredField.entry

/-- Every text that the reader hashes. -/
def texts [Printer ν] (version : Version ν) : List String :=
  (version.declared.flatMap fun declared =>
    [declared.idText, signature declared.function, declared.bodyText]) ++
  ((version.classes.flatMap fun declared => [declared.idText, declared.shape]) ++
    version.fields.flatMap fun declared => [declared.idText, declared.signature])

end Version

end Reader

end CodePush.Linker
