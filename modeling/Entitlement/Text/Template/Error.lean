import Entitlement.Text.Quoted

/-!
# `Entitlement.Text.Template.Error` — why a template cannot be expanded

One constructor per cause, in the order in which the expansion can meet them: the shape of the
field, its name, its path, its conversion, its layout, and the depth of nesting.

What a path has reached enters a message by the name of its class, and a class that is reached
itself by its own name; `Holder` keeps the two apart.
-/
namespace Entitlement.Text

/-- What a member was asked of: an item of a class, or a class. -/
inductive Holder where
  | item (className : String)
  | kind (name : String)
deriving DecidableEq, Repr

/-- A holder as messages about its members name it. -/
def Holder.message : Holder → String
  | .item className => "'" ++ className ++ "' object"
  | .kind name => "type object '" ++ name ++ "'"

/-- A holder as messages about its positions name it. -/
def Holder.subscriptMessage : Holder → String
  | .item className => "'" ++ className ++ "' object"
  | .kind name => "type '" ++ name ++ "'"

/-- What has positions: the characters of a text, or the items of a series. -/
inductive Positioned where
  | characters
  | items
deriving DecidableEq, Repr

/-- The ways in which expanding a template fails. -/
inductive TemplateError where
  | loneClosingBrace
  | loneOpeningBrace
  | braceInName
  | unclosedField
  | missingConversion
  | colonExpected
  | unclosedLayout
  | positionOutOfRange (n : Nat)
  | tooManyDigits
  | unknownName (name : String)
  | unclosedIndex
  | emptyStep
  | strayAfterIndex
  | noMember (holder : Holder) (name : String)
  | noValue (name : String)
  | notSubscriptable (holder : Holder)
  | indexOutOfRange (among : Positioned)
  | indexNotWhole (among : Positioned)
  | noEntry (key : String)
  | notOpen (display : String)
  | unknownConversion (c : Char)
  | missingPrecision
  | unreadLayout (layout className : String)
  | mixedSeparators
  | separatorNotAllowed (separator kind : Char)
  | unknownKind (kind : Char) (className : String)
  | spaceNotAllowed
  | signNotAllowed
  | zeroCoercionNotAllowed
  | alternateNotAllowed
  | signAlignNotAllowed
  | precisionNotAllowed
  | zeroCoercionOfWhole
  | signOfCharacter
  | alternateCharacter
  | characterOutOfRange
  | precisionTooBig
  | noLayout (className : String)
  | tooLong
  | tooDeep
deriving DecidableEq, Repr

/-- A character as itself when it is visible ASCII below the bound, else by its code. -/
def visibleOrCode (bound : Nat) (c : Char) : String :=
  if 32 < c.toNat && c.toNat < bound then String.ofList [c]
  else "\\x" ++ String.ofList (Nat.toDigits 16 c.toNat)

/-- The wording of each cause. -/
def TemplateError.message : TemplateError → String
  | .loneClosingBrace => "Single '\x7d' encountered in format string"
  | .loneOpeningBrace => "Single '\x7b' encountered in format string"
  | .braceInName => "unexpected '\x7b' in field name"
  | .unclosedField => "expected '\x7d' before end of string"
  | .missingConversion => "end of string while looking for conversion specifier"
  | .colonExpected => "expected ':' after conversion specifier"
  | .unclosedLayout => "unmatched '\x7b' in format spec"
  | .positionOutOfRange n =>
    "Replacement index " ++ toString n ++ " out of range for positional args tuple"
  | .tooManyDigits => "Too many decimal digits in format string"
  | .unknownName name => quoted name
  | .unclosedIndex => "Missing ']' in format string"
  | .emptyStep => "Empty attribute in format string"
  | .strayAfterIndex => "Only '.' or '[' may follow ']' in format field specifier"
  | .noMember holder name => holder.message ++ " has no attribute '" ++ name ++ "'"
  | .noValue name => name
  | .notSubscriptable holder => holder.subscriptMessage ++ " is not subscriptable"
  | .indexOutOfRange .characters => "string index out of range"
  | .indexOutOfRange .items => "tuple index out of range"
  | .indexNotWhole .characters => "string indices must be integers, not 'str'"
  | .indexNotWhole .items => "tuple indices must be integers or slices, not str"
  | .noEntry key => key
  | .notOpen display => display ++ " is not a generic class"
  | .unknownConversion c => "Unknown conversion specifier " ++ visibleOrCode 127 c
  | .missingPrecision => "Format specifier missing precision"
  | .unreadLayout layout className =>
    "Invalid format specifier '" ++ layout ++ "' for object of type '" ++ className ++ "'"
  | .mixedSeparators => "Cannot specify both ',' and '_'."
  | .separatorNotAllowed separator kind =>
    "Cannot specify '" ++ String.ofList [separator] ++ "' with '" ++ visibleOrCode 128 kind ++ "'."
  | .unknownKind kind className =>
    "Unknown format code '" ++ visibleOrCode 128 kind ++ "' for object of type '" ++ className ++
      "'"
  | .spaceNotAllowed => "Space not allowed in string format specifier"
  | .signNotAllowed => "Sign not allowed in string format specifier"
  | .zeroCoercionNotAllowed => "Negative zero coercion (z) not allowed in string format specifier"
  | .alternateNotAllowed => "Alternate form (#) not allowed in string format specifier"
  | .signAlignNotAllowed => "'=' alignment not allowed in string format specifier"
  | .precisionNotAllowed => "Precision not allowed in integer format specifier"
  | .zeroCoercionOfWhole => "Negative zero coercion (z) not allowed in integer format specifier"
  | .signOfCharacter => "Sign not allowed with integer format specifier 'c'"
  | .alternateCharacter => "Alternate form (#) not allowed with integer format specifier 'c'"
  | .characterOutOfRange => "%c arg not in range(0x110000)"
  | .precisionTooBig => "precision too big"
  | .noLayout className => "unsupported format string passed to " ++ className ++ ".__format__"
  | .tooLong => ""
  | .tooDeep => "Max string recursion exceeded"

end Entitlement.Text
