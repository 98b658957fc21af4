import Entitlement.Value

/-!
# `Entitlement.Store.Fault` — why the store refuses a statement

The causes are of three sorts.  A statement may be unreadable or speak of what the store does not
have; its arguments may not fit it; and a row may break a declared constraint.  The wording is the
store's own.
-/
namespace Entitlement.Store

/-- The causes for which a statement is refused. -/
inductive Fault where
  /-- A value is missing from a column that has to have one. -/
  | notNull (table column : String)
  /-- A row agrees with another one in columns that are to tell rows apart. -/
  | notUnique (table : String) (columns : List String)
  /-- A key column that takes integers alone was given something else. -/
  | typeMismatch
  | noSuchTable (name : String)
  | noSuchColumn (name : String)
  | ambiguousColumn (name : String)
  | noSuchFunction (name : String)
  | argumentsTo (function : String)
  | noTables
  /-- Reading the statement takes more places on the stack than there are. -/
  | stackOverflow
  /-- An expression is nested too deep. -/
  | tooHigh
  | tooManyArguments (function : String)
  /-- A number given to a place is out of range. -/
  | placeNumber (greatest : Nat)
  /-- There are too many sources to be read. -/
  | tooManyTerms (most : Nat)
  /-- There are too many sources to be combined. -/
  | tooManySources (most : Nat)
  | tooManyColumns
  | tooManyOrders
  /-- A hexadecimal number has more bits than an integer. -/
  | hexTooBig (written : String)
  /-- A position to sort by that is none of the columns of the result. -/
  | sortPosition (term columns : Nat)
  /-- The statement makes no sense from this piece of its text on. -/
  | unexpected (token : String)
  | incomplete
  | unrecognized (token : String)
  | manyStatements
  | nullCharacter
  | noRows
  /-- The statement has another number of places for arguments than arguments. -/
  | placeCount (places given : Nat)
  | unsupportedArgument (position : Nat) (kind : String)
  | integerTooLarge
  | flagNotBoolean (value : Value)
  | flagNotOne (value : Value)
  /-- A list or an object where a flag is wanted. -/
  | flagComposite (value : Value)
  /-- A row was given a value for a column its table does not have. -/
  | unknownField (field entity : String)
  /-- A row was given a value for itself. -/
  | entityGivenTwice
  /-- A row was given something else than a class for its class. -/
  | notAClass (value : Value)
  /-- A row was given something else than an object for all that it holds. -/
  | notADictionary (value : Value)
  /-- A row was given an object for all that it holds, and so lost what makes it a row. -/
  | bareEntity (entity : String)
  /-- An attribute that cannot be given to a row. -/
  | fixedAttribute (entity name : String)
  /-- A list or an object where a part of a key is wanted. -/
  | unhashableKey (value : Value)
  /-- A row given by position has no value for a place. -/
  | missingBind (place : String)
  /-- A text of the result, in a column of that name, whose bytes encode none. -/
  | undecodable (column : String) (bytes : List UInt8)

/-- A position in a list, in words of a digit and an ending. -/
def ordinal (n : Nat) : String :=
  let ending :=
    if n % 100 / 10 = 1 then "th"
    else match n % 10 with
      | 1 => "st"
      | 2 => "nd"
      | 3 => "rd"
      | _ => "th"
  toString n ++ ending

/-- The hint at the page that explains a cause. -/
def background (page : String) : String :=
  " (Background on this error at: https:" ++ "//sqlalche.me/e/" ++ page ++ ")"

/-- Bytes up to a null, those beyond ASCII by the sign for what cannot be shown, and not more than
198 of them. -/
def shownBytes (bytes : List UInt8) : String :=
  String.ofList (((bytes.takeWhile (· != 0)).take 198).map fun b =>
    if b < 128 then Char.ofNat b.toNat else '\ufffd')

/-- The wording of each cause. -/
def Fault.message : Fault → String
  | .notNull table column => "NOT NULL constraint failed: " ++ table ++ "." ++ column
  | .notUnique table columns =>
    "UNIQUE constraint failed: " ++ Value.commaSeparated (columns.map (table ++ "." ++ ·))
  | .typeMismatch => "datatype mismatch"
  | .noSuchTable name => "no such table: " ++ name
  | .noSuchColumn name => "no such column: " ++ name
  | .ambiguousColumn name => "ambiguous column name: " ++ name
  | .noSuchFunction name => "no such function: " ++ name
  | .argumentsTo function => "wrong number of arguments to function " ++ function ++ "()"
  | .noTables => "no tables specified"
  | .stackOverflow => "parser stack overflow"
  | .tooHigh => "Expression tree is too large (maximum depth 1000)"
  | .tooManyArguments function => "too many arguments on function " ++ function
  | .placeNumber greatest => "variable number must be between ?1 and ?" ++ toString greatest
  | .tooManyTerms most => "too many FROM clause terms, max: " ++ toString most
  | .tooManySources most => "at most " ++ toString most ++ " tables in a join"
  | .tooManyColumns => "too many columns in result set"
  | .tooManyOrders => "too many terms in ORDER BY clause"
  | .hexTooBig written => "hex literal too big: " ++ written
  | .sortPosition term columns =>
    ordinal term ++ " ORDER BY term out of range - should be between 1 and " ++ toString columns
  | .unexpected token => "near \"" ++ token ++ "\": syntax error"
  | .incomplete => "incomplete input"
  | .unrecognized token => "unrecognized token: \"" ++ token ++ "\""
  | .manyStatements => "You can only execute one statement at a time."
  | .nullCharacter => "the query contains a null character"
  | .noRows => "This result object does not return rows. It has been closed automatically."
  | .placeCount places given =>
    "Incorrect number of bindings supplied. The current statement uses " ++ toString places ++
      ", and there are " ++ toString given ++ " supplied."
  | .unsupportedArgument position kind =>
    "Error binding parameter " ++ toString position ++ ": type '" ++ kind ++ "' is not supported"
  | .integerTooLarge => "Python int too large to convert to SQLite INTEGER"
  | .flagNotBoolean value => "Not a boolean value: " ++ value.display
  | .flagNotOne value => "Value " ++ value.display ++ " is not None, True, or False"
  | .flagComposite value | .unhashableKey value => "unhashable type: '" ++ value.formName ++ "'"
  | .unknownField field entity =>
    Text.quoted field ++ " is an invalid keyword argument for " ++ entity
  | .entityGivenTwice => "__init__() got multiple values for argument 'self'"
  | .notAClass value => "__class__ must be set to a class, not '" ++ value.formName ++ "' object"
  | .notADictionary value =>
    "__dict__ must be set to a dictionary, not a '" ++ value.formName ++ "'"
  | .bareEntity entity => "'" ++ entity ++ "' object has no attribute '_sa_instance_state'"
  | .fixedAttribute entity name =>
    "attribute '" ++ name ++ "' of '" ++ entity ++ "' objects is not writable"
  | .undecodable column bytes =>
    shownBytes (("Could not decode to UTF-8 column '" ++ column ++ "' with text '").toUTF8.toList ++
      bytes.takeWhile (· != 0) ++ [0x27])
  | .missingBind place =>
    "A value is required for bind parameter '" ++ place ++ "'" ++ background "21/cd3x"

end Entitlement.Store
