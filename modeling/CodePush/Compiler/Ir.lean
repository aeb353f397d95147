import CodePush.Core.Basic

/-!
# Function sources

The expression language between the Kernel reader and the bytecode compiler, and
its decoding from the JSON objects that `tool/fcb_kernel_manifest_compiler.dart`
reads. The compiler makes the checks below while it emits code; every failure exits,
so decoding first changes at most which of several errors is reported.
-/

set_option autoImplicit false

namespace CodePush.Compiler

open CodePush.Core

/-!
## Decoded JSON
-/

/-- The values of `jsonDecode`. A number with a fraction or an exponent is a `double`, kept
as its bits. -/
inductive Object where
  | null
  | bool (value : Bool)
  | int (value : Int64)
  | double (bits : UInt64)
  | string (value : String)
  | list (items : List Object)
  | map (members : List (String × Object))
  deriving Repr

mutual

def Object.decEq : (left right : Object) → Decidable (left = right)
  | .null, .null => isTrue rfl
  | .bool left, .bool right => decidable_of_iff (left = right) (by simp)
  | .int left, .int right => decidable_of_iff (left = right) (by simp)
  | .double left, .double right => decidable_of_iff (left = right) (by simp)
  | .string left, .string right => decidable_of_iff (left = right) (by simp)
  | .list left, .list right =>
      have := Object.decEqItems left right
      decidable_of_iff (left = right) (by simp)
  | .map left, .map right =>
      have := Object.decEqMembers left right
      decidable_of_iff (left = right) (by simp)
  | .null, .bool _ | .null, .int _ | .null, .double _ | .null, .string _ | .null, .list _
  | .null, .map _ => isFalse (by simp)
  | .bool _, .null | .bool _, .int _ | .bool _, .double _ | .bool _, .string _
  | .bool _, .list _ | .bool _, .map _ => isFalse (by simp)
  | .int _, .null | .int _, .bool _ | .int _, .double _ | .int _, .string _ | .int _, .list _
  | .int _, .map _ => isFalse (by simp)
  | .double _, .null | .double _, .bool _ | .double _, .int _ | .double _, .string _
  | .double _, .list _ | .double _, .map _ => isFalse (by simp)
  | .string _, .null | .string _, .bool _ | .string _, .int _ | .string _, .double _
  | .string _, .list _ | .string _, .map _ => isFalse (by simp)
  | .list _, .null | .list _, .bool _ | .list _, .int _ | .list _, .double _
  | .list _, .string _ | .list _, .map _ => isFalse (by simp)
  | .map _, .null | .map _, .bool _ | .map _, .int _ | .map _, .double _ | .map _, .string _
  | .map _, .list _ => isFalse (by simp)

def Object.decEqItems : (left right : List Object) → Decidable (left = right)
  | [], [] => isTrue rfl
  | [], _ :: _ | _ :: _, [] => isFalse (by simp)
  | head :: tail, head' :: tail' =>
      have := Object.decEq head head'
      have := Object.decEqItems tail tail'
      decidable_of_iff (head = head' ∧ tail = tail') (by simp)

def Object.decEqMembers : (left right : List (String × Object)) → Decidable (left = right)
  | [], [] => isTrue rfl
  | [], _ :: _ | _ :: _, [] => isFalse (by simp)
  | (key, head) :: tail, (key', head') :: tail' =>
      have := Object.decEq head head'
      have := Object.decEqMembers tail tail'
      decidable_of_iff ((key = key' ∧ head = head') ∧ tail = tail') (by simp)

end

instance : DecidableEq Object := Object.decEq

/-- What the compiler uses of the Dart libraries on decoded values: `toString` of what is not a
text, `jsonEncode` and the conversions of `num`. An infinite number has no `toInt`. -/
structure DartLib where
  objectText : Object → String
  jsonEncode : Object → String
  doubleToInt : UInt64 → Option Int64
  intToDouble : Int64 → UInt64

/-- A library for sources in which texts are the only values that are printed. -/
def textLib : DartLib where
  objectText := fun _ => ""
  jsonEncode := fun _ => ""
  doubleToInt := fun _ => none
  intToDouble := fun _ => 0

/-- `value.toString()`. -/
def DartLib.text (lib : DartLib) : Object → String
  | .string value => value
  | value => lib.objectText value

/-- `value?.toString()`. -/
def DartLib.text? (lib : DartLib) : Object → Option String
  | .null => none
  | value => some (lib.text value)

/-- `members[key]`. -/
def Object.get (members : List (String × Object)) (key : String) : Object :=
  ((members.find? (·.1 = key)).map (·.2)).getD .null

/-- `String.trim` also removes the byte order mark. -/
def isDartWhiteSpace (char : Char) : Bool := isWhiteSpace char || char.toNat == 0xfeff

/-- `text.trim().isEmpty`. -/
def isDartBlank (text : String) : Bool := text.toList.all isDartWhiteSpace

/-- `String.trim`. -/
def dartTrim (text : String) : String :=
  let front := text.toList.dropWhile isDartWhiteSpace
  String.ofList (front.reverse.dropWhile isDartWhiteSpace).reverse

/-!
## Expressions
-/

inductive ConstantType where
  | int | double | bool | string | null
  deriving Repr, DecidableEq

/-- An entry of the constant pool before it is encoded. -/
structure ConstantSpec where
  type : ConstantType
  value : Object
  deriving Repr, DecidableEq

def ConstantSpec.text (value : String) : ConstantSpec := ⟨.string, .string value⟩

def ConstantSpec.nothing : ConstantSpec := ⟨.null, .null⟩

inductive BinaryOp where
  | add | sub | mul | div | greater | equal
  deriving Repr, DecidableEq

/-- `call_static` and `call_original`. -/
inductive CallKind where
  | static | original
  deriving Repr, DecidableEq

/-- `list_add_all` and `map_add_all`. -/
inductive CollectionKind where
  | list | map
  deriving Repr, DecidableEq

structure LocalSpec where
  id : Int64
  name : Option String
  deriving Repr, DecidableEq

structure ClosureSpec where
  target : String
  optionalPositionalCount : Nat
  namedParameters : List String
  typeParameterCount : Nat
  deriving Repr, DecidableEq

/-- Named arguments are the last ones of `args`; `names` are theirs. A `continueBody` that is
`{'null': true}` is `none`: no code is emitted for it. -/
inductive Expr where
  | const (constant : ConstantSpec)
  | arg (name : String)
  | letLocal (id : Int64)
  | letIn (locals : List (LocalSpec × Expr)) (body : Expr)
  | setLocal (id : Int64) (value : Expr)
  | whileLoop (condition : Expr)
      (beforeContinue continueCondition continueBody beforeBreak breakCondition breakBody :
        Option Expr) (body : Expr)
  | less (left right : Expr)
  | binary (op : BinaryOp) (left right : Expr)
  | conditional (condition thenExpr elseExpr : Expr)
  | throw (value : Expr)
  | seq (items : List Expr)
  | yield (value : Expr)
  | yieldAll (source : Expr)
  | yieldForIn (source : Expr) (item : LocalSpec) (beforeBreak breakCondition : Option Expr)
      (body : Expr)
  | await (value : Expr)
  | tryFinally (body finalizer : Expr) (preserveValue : Bool)
  | tryCatch (body : Expr) (catchLocal : Int64) (catchBody : Expr)
  | call (kind : CallKind) (target : String) (args : List Expr)
  | callDynamic (receiver : Expr) (method : String) (names : List String) (args : List Expr)
  | callClosure (closure : Expr) (names : List String) (args : List Expr)
  | makeClosure (closure : ClosureSpec) (captures : List Expr)
  | newObject (constructor : String) (typeNames names : List String) (args : List Expr)
  | concat (parts : List Expr)
  | list (items : List Expr)
  | map (entries : List (Expr × Expr))
  | addAll (kind : CollectionKind) (receiver spread : Expr)
  | listForIn (receiver source : Expr)
  | listForInMapped (receiver source : Expr) (item : Int64) (value : Expr)
  | mapForIn (receiver source : Expr)
  | mapForInMapped (receiver source : Expr) (entry : Int64) (key value : Expr)
  | getField (receiver : Expr) (field : String)
  | setField (receiver : Expr) (field : String) (value : Expr)
  | isType (value : Expr) (type : String)
  | asType (value : Expr) (type : String)
  deriving Repr

namespace Expr

def int (value : Int64) : Expr := .const ⟨.int, .int value⟩
def bool (value : Bool) : Expr := .const ⟨.bool, .bool value⟩
def string (value : String) : Expr := .const ⟨.string, .string value⟩
def null : Expr := .const .nothing

end Expr

/-!
## Decoding
-/

/-- A decoded value in which every map is annotated with the expression that it is. -/
inductive View where
  | null
  | bool (value : Bool)
  | int (value : Int64)
  | double (bits : UInt64)
  | string (value : String)
  | list (items : List View)
  | map (members : List (String × View)) (expr : Except String Expr)

namespace View

/-- `members[key]`. -/
def get (members : List (String × View)) (key : String) : View :=
  ((members.find? (·.1 = key)).map (·.2)).getD .null

def isMap : View → Bool
  | .map _ _ => true
  | _ => false

def isNull : View → Bool
  | .null => true
  | _ => false

def isTrue : View → Bool
  | .bool true => true
  | _ => false

def asExpr (message : String) : View → Except String Expr
  | .map _ expr => expr
  | _ => .error message

/-- An expression that may be missing. -/
def optionalExpr (message : String) : View → Except String (Option Expr)
  | .null => .ok none
  | .map _ expr => expr.map some
  | _ => .error message

def asExprs (message : String) : View → String → Except String (List Expr)
  | .list items, itemMessage => items.mapM (asExpr itemMessage)
  | _, _ => .error message

def ensure (condition : Bool) (message : String) : Except String Unit :=
  if condition then .ok () else .error message

/-- A text that is not blank. -/
def asName (message : String) : View → Except String String
  | .string text => if isDartBlank text then .error message else .ok text
  | _ => .error message

def localSpec (message : String) (members : List (String × View)) : Except String LocalSpec :=
  match get members "id" with
  | .int id =>
      let name := match get members "name" with
        | .string name => some name
        | _ => none
      .ok { id, name }
  | _ => .error message

def letLocals : List View → Except String (List (LocalSpec × Expr))
  | [] => .ok []
  | .map members _ :: items => do
      let localSpec ← localSpec "let local requires id and value" members
      let value ← (get members "value").asExpr "let local requires id and value"
      let locals ← letLocals items
      .ok ((localSpec, value) :: locals)
  | _ :: _ => .error "let local must be an object"

def decodeLet (spec : List (String × View)) : Except String Expr := do
  let message := "let expression requires locals and body"
  match get spec "locals" with
  | .list items =>
      ensure (get spec "body").isMap message
      let locals ← letLocals items
      let body ← (get spec "body").asExpr message
      .ok (.letIn locals body)
  | _ => .error message

def decodeSetLocal (spec : List (String × View)) : Except String Expr := do
  let message := "set_local expression requires id and value"
  match get spec "id" with
  | .int id =>
      let value ← (get spec "value").asExpr message
      .ok (.setLocal id value)
  | _ => .error message

/-- The body of a continue is compiled only behind its condition. -/
def decodeContinueBody (guarded : Bool) : View → Except String (Option Expr)
  | .null => do
      ensure (!guarded) "while_loop continue_condition requires continue_body"
      .ok none
  | .map members expr =>
      if !guarded || (get members "null").isTrue then .ok none else expr.map some
  | _ => .error "while_loop continue_body must be an expression"

def decodeWhileLoop (spec : List (String × View)) : Except String Expr := do
  let message := "while_loop expression requires condition and body"
  let optional := fun key : String =>
    (get spec key).optionalExpr s!"while_loop {key} must be an expression"
  let condition ← (get spec "condition").asExpr message
  let body ← (get spec "body").asExpr message
  let beforeBreak ← optional "before_break"
  let breakCondition ← optional "break_condition"
  let breakBody ← optional "break_body"
  ensure (beforeBreak.isNone || breakCondition.isSome) "while_loop before_break requires break_condition"
  ensure (breakBody.isNone || breakCondition.isSome) "while_loop break_body requires break_condition"
  let beforeContinue ← optional "before_continue"
  let continueCondition ← optional "continue_condition"
  ensure (beforeContinue.isNone || continueCondition.isSome)
    "while_loop before_continue requires continue_condition"
  let continueBody ← decodeContinueBody continueCondition.isSome (get spec "continue_body")
  .ok (.whileLoop condition beforeContinue continueCondition continueBody beforeBreak
    breakCondition breakBody body)

def decodeOp (op : String) (members : List (String × View)) : Except String Expr := do
  let message := "binary expression requires left and right operands"
  let left ← (get members "left").asExpr message
  let right ← (get members "right").asExpr message
  match op with
  | "<" => .ok (.less left right)
  | "+" => .ok (.binary .add left right)
  | "-" => .ok (.binary .sub left right)
  | "*" => .ok (.binary .mul left right)
  | "/" => .ok (.binary .div left right)
  | ">" => .ok (.binary .greater left right)
  | "==" => .ok (.binary .equal left right)
  | _ => .error s!"unsupported bytecode binary operator {op}"

def decodeConditional (spec : List (String × View)) : Except String Expr := do
  let message := "conditional expression requires condition/then/else"
  let condition ← (get spec "condition").asExpr message
  let thenExpr ← (get spec "then").asExpr message
  let elseExpr ← (get spec "else").asExpr message
  .ok (.conditional condition thenExpr elseExpr)

/-- `whereType<Map>`: items that are not objects are skipped. -/
def seqItems : List View → Except String (List Expr)
  | [] => .ok []
  | .map _ expr :: items => do
      let item ← expr
      let rest ← seqItems items
      .ok (item :: rest)
  | _ :: items => seqItems items

/-- Without a local neither the guard nor what goes before it is compiled. -/
def decodeYieldForIn (spec : List (String × View)) : Except String Expr := do
  let beforeBreak := get spec "before_break"
  let breakCondition := get spec "break_condition"
  let source ← (get spec "source").asExpr "yield_for_in expression requires source"
  ensure (beforeBreak.isNull || beforeBreak.isMap) "yield_for_in before_break must be an expression"
  ensure (breakCondition.isNull || breakCondition.isMap)
    "yield_for_in break_condition must be an expression"
  ensure (beforeBreak.isNull || breakCondition.isMap) "yield_for_in before_break requires break_condition"
  match get spec "local" with
  | .null =>
      ensure (get spec "body").isNull "yield_for_in body requires local"
      .ok (.yieldAll source)
  | .map members _ =>
      let message := "yield_for_in local mode requires local id and body"
      let item ← localSpec message members
      let before ← beforeBreak.optionalExpr "yield_for_in before_break must be an expression"
      let condition ← breakCondition.optionalExpr "yield_for_in break_condition must be an expression"
      let body ← (get spec "body").asExpr message
      .ok (.yieldForIn source item before condition body)
  | _ => .error "yield_for_in local must be an object"

def decodeTryFinally (spec : List (String × View)) : Except String Expr := do
  let message := "try_finally expression requires body/finally"
  let body ← (get spec "body").asExpr message
  let finalizer ← (get spec "finally").asExpr message
  .ok (.tryFinally body finalizer (get spec "value").isTrue)

def decodeTryCatch (spec : List (String × View)) : Except String Expr := do
  let message := "try_catch expression requires body/catch/catch_local"
  let body ← (get spec "body").asExpr message
  let catchBody ← (get spec "catch").asExpr message
  match get spec "catch_local" with
  | .int catchLocal => .ok (.tryCatch body catchLocal catchBody)
  | _ => .error message

def decodeCall (kind : CallKind) (label target : String) (members : List (String × View)) :
    Except String Expr := do
  let args ← (get members "args").asExprs s!"{label} expression requires args list"
    s!"{label} argument must be an expression"
  .ok (.call kind target args)

def namedArgument (label : String) : View → Except String (String × Expr)
  | .map members _ =>
      match get members "name", get members "value" with
      | .string name, .map _ expr => expr.map (name, ·)
      | _, _ => .error s!"{label} named argument requires name/value"
  | _ => .error s!"{label} named argument must be an object"

def namedArguments (label : String) : View → Except String (List (String × Expr))
  | .null => .ok []
  | .list items => items.mapM (namedArgument label)
  | _ => .error s!"{label} named_args must be a list"

/-- The names of the named arguments, and all arguments in order. -/
def decodeArguments (label : String) (spec : List (String × View)) :
    Except String (List String × List Expr) := do
  let args ← (get spec "args").asExprs s!"{label} expression requires args list"
    s!"{label} argument must be an expression"
  let named ← namedArguments label (get spec "named_args")
  .ok (named.map (·.1), args ++ named.map (·.2))

def decodeCallDynamic (spec : List (String × View)) : Except String Expr := do
  let message := "call_dynamic expression requires receiver and method"
  ensure (get spec "receiver").isMap message
  let method ← (get spec "method").asName message
  let (names, args) ← decodeArguments "call_dynamic" spec
  let receiver ← (get spec "receiver").asExpr message
  .ok (.callDynamic receiver method names args)

def decodeCallClosure (spec : List (String × View)) : Except String Expr := do
  let message := "call_closure expression requires closure"
  ensure (get spec "closure").isMap message
  let (names, args) ← decodeArguments "call_closure" spec
  let closure ← (get spec "closure").asExpr message
  .ok (.callClosure closure names args)

/-- A count that may be missing. -/
def smallCount (label : String) : View → Except String Nat
  | .null => .ok 0
  | .int value =>
      if 0 ≤ value.toInt ∧ value.toInt ≤ 255 then .ok value.toInt.toNat
      else .error s!"make_closure {label} must be 0..255"
  | _ => .error s!"make_closure {label} must be 0..255"

def decodeMakeClosure : View → Option (Except String Expr)
  | .string target =>
      some (if isDartBlank target then .error "make_closure expression requires target"
        else .ok (.makeClosure
          { target, optionalPositionalCount := 0, namedParameters := [], typeParameterCount := 0 } []))
  | .map spec _ => some do
      match get spec "target" with
      | .string target =>
          let optionalPositionalCount ←
            smallCount "optional_positional_count" (get spec "optional_positional_count")
          let namedParameters ←
            match get spec "named_parameters" with
            | .null => .ok []
            | .list items => items.mapM (asName "make_closure named parameter must be a non-empty string")
            | _ => .error "make_closure named_parameters must be a list"
          let typeParameterCount ← smallCount "type_parameter_count" (get spec "type_parameter_count")
          let captures ←
            match get spec "captures" with
            | .null => .ok []
            | .list items => items.mapM (asExpr "make_closure capture must be an expression")
            | _ => .error "make_closure captures must be a list"
          ensure (!isDartBlank target) "make_closure expression requires target"
          ensure (optionalPositionalCount = 0 || namedParameters.isEmpty)
            "make_closure cannot mix optional positional and named parameters"
          .ok (.makeClosure
            { target, optionalPositionalCount, namedParameters, typeParameterCount } captures)
      | _ => .error "make_closure expression requires target"
  | _ => none

def decodeNewObject (spec : List (String × View)) : Except String Expr := do
  let constructor ← (get spec "constructor").asName "new_object expression requires constructor"
  let args ← (get spec "args").asExprs "new_object expression requires args list"
    "new_object argument must be an expression"
  let typeNames ←
    match get spec "type_args" with
    | .null => .ok []
    | .list items => items.mapM (asName "new_object type arg must be a non-empty string")
    | _ => .error "new_object type_args must be a list"
  match get spec "named_args" with
  | .null => .ok (.newObject constructor typeNames [] args)
  | .list items =>
      let named ← items.mapM fun item =>
        match item with
        | .map members _ => do
            let message := "new_object named arg requires name and value"
            let name ← (get members "name").asName message
            let value ← (get members "value").asExpr message
            .ok (name, value)
        | _ => .error "new_object named arg must be an object"
      .ok (.newObject constructor typeNames (named.map (·.1)) (args ++ named.map (·.2)))
  | _ => .error "new_object named_args must be a list"

def mapEntry : View → Except String (Expr × Expr)
  | .map members _ => do
      let message := "map entry requires key and value expressions"
      let key ← (get members "key").asExpr message
      let value ← (get members "value").asExpr message
      .ok (key, value)
  | _ => .error "map entry must be an object"

def decodeAddAll (kind : CollectionKind) (label : String) (spec : List (String × View)) :
    Except String Expr := do
  let message := s!"{label} expression requires receiver and spread"
  let receiver ← (get spec "receiver").asExpr message
  let spread ← (get spec "spread").asExpr message
  .ok (.addAll kind receiver spread)

def decodeListForIn (spec : List (String × View)) : Except String Expr := do
  let message := "list_for_in expression requires receiver and source"
  let receiver ← (get spec "receiver").asExpr message
  let source ← (get spec "source").asExpr message
  match get spec "local", get spec "item" with
  | .null, .null => .ok (.listForIn receiver source)
  | .map members _, .map _ item =>
      let localSpec ← localSpec "mapped list_for_in local requires id" members
      let item ← item
      .ok (.listForInMapped receiver source localSpec.id item)
  | _, _ => .error "mapped list_for_in requires local and item"

def decodeMapForIn (spec : List (String × View)) : Except String Expr := do
  let message := "map_for_in expression requires receiver and source"
  let receiver ← (get spec "receiver").asExpr message
  let source ← (get spec "source").asExpr message
  match get spec "local", get spec "key", get spec "value" with
  | .null, .null, .null => .ok (.mapForIn receiver source)
  | .map members _, .map _ key, .map _ value =>
      let localSpec ← localSpec "mapped map_for_in local requires id" members
      let key ← key
      let value ← value
      .ok (.mapForInMapped receiver source localSpec.id key value)
  | _, _, _ => .error "mapped map_for_in requires local, key, and value"

/-- `get_field`, `is_type` and `as_type`: an operand and a name. -/
def decodeNamed (build : Expr → String → Expr) (message operand name : String)
    (spec : List (String × View)) : Except String Expr := do
  ensure (get spec operand).isMap message
  let text ← (get spec name).asName message
  let value ← (get spec operand).asExpr message
  .ok (build value text)

def decodeSetField (spec : List (String × View)) : Except String Expr := do
  let message := "set_field expression requires receiver, field, value"
  ensure ((get spec "receiver").isMap && (get spec "value").isMap) message
  let field ← (get spec "field").asName message
  let receiver ← (get spec "receiver").asExpr message
  let value ← (get spec "value").asExpr message
  .ok (.setField receiver field value)

def onMap (decode : List (String × View) → Except String Expr) : View → Option (Except String Expr)
  | .map spec _ => some (decode spec)
  | _ => none

def onExpr (build : Expr → Expr) : View → Option (Except String Expr)
  | .map _ expr => some (expr.map build)
  | _ => none

def onList (decode : List View → Except String Expr) : View → Option (Except String Expr)
  | .list items => some (decode items)
  | _ => none

def onString (decode : String → Except String Expr) : View → Option (Except String Expr)
  | .string text => some (decode text)
  | _ => none

/-- The forms of `compileExpr` after the constants, in the order it tries them. -/
def forms (members : List (String × View)) : List (String × (View → Option (Except String Expr))) :=
  [("arg", onString fun name => .ok (.arg name)),
    ("let_local", fun
      | .int id => some (.ok (.letLocal id))
      | _ => none),
    ("let", onMap decodeLet),
    ("set_local", onMap decodeSetLocal),
    ("while_loop", onMap decodeWhileLoop),
    ("op", onString fun op => decodeOp op members),
    ("conditional", onMap decodeConditional),
    ("throw", onExpr .throw),
    ("seq", onList fun items => (seqItems items).map .seq),
    ("yield", onExpr .yield),
    ("yield_for_in", onMap decodeYieldForIn),
    ("await", onExpr .await),
    ("try_finally", onMap decodeTryFinally),
    ("try_catch", onMap decodeTryCatch),
    ("call_static", onString fun target => decodeCall .static "call_static" target members),
    ("call_original", onString fun target => decodeCall .original "call_original" target members),
    ("call_dynamic", onMap decodeCallDynamic),
    ("call_closure", onMap decodeCallClosure),
    ("make_closure", decodeMakeClosure),
    ("new_object", onMap decodeNewObject),
    ("concat", onList fun parts =>
      (parts.mapM (asExpr "string concat part must be an expression")).map .concat),
    ("list", onList fun items =>
      (items.mapM (asExpr "list item must be an expression")).map .list),
    ("list_add_all", onMap (decodeAddAll .list "list_add_all")),
    ("list_for_in", onMap decodeListForIn),
    ("map", onList fun entries => (entries.mapM mapEntry).map .map),
    ("map_add_all", onMap (decodeAddAll .map "map_add_all")),
    ("map_for_in", onMap decodeMapForIn),
    ("get_field", onMap (decodeNamed .getField "get_field expression requires receiver and field"
      "receiver" "field")),
    ("set_field", onMap decodeSetField),
    ("is_type", onMap (decodeNamed .isType "is_type expression requires value and type"
      "value" "type")),
    ("as_type", onMap (decodeNamed .asType "as_type expression requires value and type"
      "value" "type"))]

end View

/-- The keys of constants; a key is looked for even when its value is null. -/
def constantKeys : List (String × ConstantType) :=
  [("int", .int), ("double", .double), ("bool", .bool), ("string", .string)]

/-- The expression that a JSON object is; `views` are the annotated members. -/
def exprOf (lib : DartLib) (members : List (String × Object)) (views : List (String × View)) :
    Except String Expr :=
  match constantKeys.find? fun (key, _) => members.any (·.1 = key) with
  | some (key, type) =>
      .ok (.const ⟨type, ((members.find? (·.1 = key)).map (·.2)).getD .null⟩)
  | none =>
      if (View.get views "null").isTrue then .ok .null
      else
        match (View.forms views).findSome? fun (key, decode) => decode (View.get views key) with
        | some decoded => decoded
        | none =>
            .error s!"unsupported restricted bytecode expression: {lib.jsonEncode (.map members)}"

mutual

def Object.view (lib : DartLib) : Object → View
  | .null => .null
  | .bool value => .bool value
  | .int value => .int value
  | .double bits => .double bits
  | .string value => .string value
  | .list items => .list (Object.viewItems lib items)
  | .map members =>
      let views := Object.viewMembers lib members
      .map views (exprOf lib members views)

def Object.viewItems (lib : DartLib) : List Object → List View
  | [] => []
  | item :: items => item.view lib :: Object.viewItems lib items

def Object.viewMembers (lib : DartLib) : List (String × Object) → List (String × View)
  | [] => []
  | (key, value) :: members => (key, value.view lib) :: Object.viewMembers lib members

end

end CodePush.Compiler
