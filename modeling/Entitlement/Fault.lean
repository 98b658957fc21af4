import Entitlement.Lookup.Failure
import Entitlement.Settings.Issue
import Entitlement.Store.Fault

/-!
# `Entitlement.Fault` — everything that can go wrong, by cause

Every operation of the library that can fail fails with a `Fault`.  A constructor is a cause and
carries what the wording needs; `message` is the wording.  Lookup failures are kept apart from the
rest (`lookup`) because callers treat them as answers; store, template and settings causes have
types of their own and are embedded here.

A source of rows or a hook belongs to whoever supplies it, and may fail for reasons this library
does not know; such a failure is `reported`, with the label its reporter gave it.
-/
namespace Entitlement

/-- The labels under which a supplied store or hook reports a failure of its own. -/
inductive ReportLabel where
  | store
  | hook
  | runtime
  | rowMapping
  | configuration
deriving DecidableEq, Repr

/-- A cause of failure. -/
inductive Fault where
  | lookup (failure : LookupFailure)
  | reported (label : ReportLabel) (text : String)
  /-- Neither direct nor group authorities are to be looked up. -/
  | noSource
  /-- A query of the configuration declares another number of binds than one. -/
  | bindCount (field : String) (found : Nat)
  /-- A query of the configuration is no text. -/
  | queryNotText (v : Value)
  /-- A text is to be put behind something that is no text. -/
  | notConcatenable (left : Value)
  /-- A query text has another number of binds than there are arguments. -/
  | argumentCount (declared given : Nat)
  /-- Something is made from more parts than it takes, itself counted among them. -/
  | surplusArguments (operation : String) (accepted given : Nat)
  /-- A list or an object where a member of a set is wanted. -/
  | unhashable (v : Value)
  | incompleteUser
  | unnamedAuthority (column : Nat)
  | rowTooShort
  | popFromEmpty
  | popOutOfRange
  /-- A position in a list that no machine word holds. -/
  | positionTooLarge
  /-- A field of a value that is fixed once it is made. -/
  | fixedField (deleting : Bool) (field : String)
  | foreignField
  | unknownField (owner field : String)
  /-- There is no configuration yet from which one could be derived. -/
  | nothingToDerive
  /-- A value does not have the attribute that is asked of it. -/
  | noAttribute (v : Value) (name : String)
  /-- An attribute that even the null value has, and that is fixed. -/
  | fixedAttribute (name : String)
  /-- Something else than a class is assigned where a class is kept. -/
  | notAClass (v : Value)
  /-- A number where something with a length is wanted. -/
  | noLength (v : Value)
  /-- A variable of the environment is given something else than a text. -/
  | variableNotText (v : Value)
  /-- The null character in the name or the value of a variable. -/
  | nullInVariable
  /-- An equals sign in the name of a variable. -/
  | equalsInVariable
  /-- A variable without a name. -/
  | unnamedVariable
  | unknownTable (name : String)
  | unknownLogger (name : String)
  | unknownLevel (text : String)
  /-- The display of what a level was given as, which is neither a number nor a text. -/
  | levelNotNumber (shown : String)
  | reservedField (operation field : String)
  /-- A keyword that is given twice. -/
  | repeatedKeyword (operation keyword : String)
  | template (error : Text.TemplateError)
  | invalidSettings (issues : List Settings.Issue)
  | statement (fault : Store.Fault)

/-- The wording of each cause. -/
def Fault.message : Fault → String
  | .lookup failure => failure.text
  | .reported _ text => text
  | .noSource => "Use of either authorities or groups must be enabled"
  | .bindCount field found =>
    field ++ " must declare exactly one bind parameter for the username, found " ++ toString found
  | .queryNotText v =>
    match v with
    | .bytes _ => "cannot use a string pattern on a bytes-like object"
    | v => "expected string or bytes-like object, got '" ++ v.formName ++ "'"
  | .notConcatenable left =>
    match left with
    | .bytes _ => "can't concat str to bytes"
    | .list _ => "can only concatenate list (not \"str\") to list"
    | v => "unsupported operand type(s) for +: '" ++ v.formName ++ "' and 'str'"
  | .argumentCount declared given =>
    "Query declares " ++ toString declared ++ " bind parameter(s) but " ++
      toString given ++ " given"
  | .surplusArguments operation accepted given =>
    operation ++ "() takes " ++ toString accepted ++ " positional arguments but " ++
      toString given ++ " were given"
  | .unhashable v => "unhashable type: '" ++ v.formName ++ "'"
  | .incompleteUser => "User rows require a non-empty username and a non-null password"
  | .unnamedAuthority column =>
    "Authority rows require a non-empty name in column " ++ toString column
  | .rowTooShort => "tuple index out of range"
  | .popFromEmpty => "pop from empty list"
  | .popOutOfRange => "pop index out of range"
  | .positionTooLarge => "Python int too large to convert to C ssize_t"
  | .fixedField deleting field =>
    "cannot " ++ (if deleting then "delete" else "assign to") ++ " field '" ++ field ++ "'"
  | .foreignField => "super(type, obj): obj must be an instance or subtype of type"
  | .unknownField owner field =>
    owner ++ ".__init__() got an unexpected keyword argument '" ++ field ++ "'"
  | .nothingToDerive => "replace() should be called on dataclass instances"
  | .noAttribute v name => "'" ++ v.formName ++ "' object has no attribute '" ++ name ++ "'"
  | .fixedAttribute name => "'NoneType' object attribute '" ++ name ++ "' is read-only"
  | .notAClass v => "__class__ must be set to a class, not '" ++ v.formName ++ "' object"
  | .noLength v => "object of type '" ++ v.formName ++ "' has no len()"
  | .variableNotText v => "str expected, not " ++ v.formName
  | .nullInVariable => "embedded null byte"
  | .equalsInVariable => "illegal environment variable name"
  | .unnamedVariable => "[Errno 22] Invalid argument"
  | .unknownTable name => Text.quoted name
  | .unknownLogger name => Text.quoted name
  | .unknownLevel text => "Unknown level: " ++ Text.quoted text
  | .levelNotNumber shown => "Level not an integer or a valid string: " ++ shown
  | .reservedField operation field =>
    operation ++ "() got multiple values for argument '" ++ field ++ "'"
  | .repeatedKeyword operation keyword =>
    operation ++ "() got multiple values for keyword argument '" ++ keyword ++ "'"
  | .template error => error.message
  | .invalidSettings issues => Value.commaSeparated (issues.map (·.message))
  | .statement fault => fault.message

/-- A lookup failure of a kind about a username. -/
abbrev Fault.failure (kind : FailureKind) (username : String) : Fault := .lookup ⟨kind, username⟩

end Entitlement
