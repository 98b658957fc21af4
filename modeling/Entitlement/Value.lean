import Entitlement.Decimal.Layout
import Entitlement.Text.Case
import Entitlement.Text.Quoted

/-!
# `Entitlement.Value` — the values a store column, a setting or a log field can hold

What a query returns is not known to have one type: a flag column may come back as a boolean, a
number, a word or a byte, and a field of a log line may be a nested structure.  `Value` is the sum
of these forms.  Four readings of a value are defined on it:

* `text` — the text it stands for where a text is wanted: a text is itself, every other value is
  written as a literal (`display`), and inside a list or an object a text is written as a literal
  too;
* `truthy` — whether it counts as true where a condition is wanted: null, zero and everything empty
  does not;
* `eqv` — equality of what is meant: numbers are compared as numbers across their forms, a boolean
  being 0 or 1, and the fields of two objects in any order;
* `flag` — what a flag column means.  Stores spell a flag in many ways: a boolean is itself; a
  number is set when it is not zero, so a NaN is set; a byte sequence is set when some byte is not
  zero; a text is set when, freed of blanks at both ends and put in small letters, it is one of six
  words.  Everything else is not set: null, and every list and object whatever it holds, because a
  literal that begins with a bracket is none of the six words.

The datum equality of `DecidableEq` is none of these and is finer than `eqv`.
-/
namespace Entitlement

/-- A value of a store column, a setting or a log field. -/
inductive Value where
  | null
  | bool (b : Bool)
  | int (n : Int)
  | float (x : Binary64)
  | bytes (bs : List UInt8)
  | text (s : String)
  | list (items : List Value)
  | object (fields : List (String × Value))
deriving Inhabited

namespace Value

def formName : Value → String
  | .null => "NoneType"
  | .bool _ => "bool"
  | .int _ => "int"
  | .float _ => "float"
  | .bytes _ => "bytes"
  | .text _ => "str"
  | .list _ => "list"
  | .object _ => "dict"

/-- Whether a value can be a member of a set or a key: lists and objects cannot. -/
def isHashable : Value → Bool
  | .list _ => false
  | .object _ => false
  | _ => true

/-! ## The literal of a value -/

/-- Texts with a comma and a blank between neighbours. -/
def commaSeparated (items : List String) : String := ", ".intercalate items

mutual

/-- The value as a literal.  A whole number is written at any length; where the digits of a number
are limited, by default to 4300, a longer one has no text and writing it fails. -/
def display : Value → String
  | .null => "None"
  | .bool b => if b then "True" else "False"
  | .int n => toString n
  | .float x => String.ofList (Decimal.shortestText x)
  | .bytes bs => Text.quotedBytes bs
  | .text s => Text.quoted s
  | .list items => "[" ++ commaSeparated (displayItems items) ++ "]"
  | .object fields => "\x7b" ++ commaSeparated (displayFields fields) ++ "\x7d"

def displayItems : List Value → List String
  | [] => []
  | v :: rest => display v :: displayItems rest

/-- The fields of an object, each as the literal of its name, a colon and its value. -/
def displayFields : List (String × Value) → List String
  | [] => []
  | (name, v) :: rest => (Text.quoted name ++ ": " ++ display v) :: displayFields rest

end

/-- The text a value stands for. -/
def toText : Value → String
  | .text s => s
  | v => v.display

/-! ## Truth -/

/-- Whether the value counts as true where a condition is wanted. -/
def truthy : Value → Bool
  | .null => false
  | .bool b => b
  | .int n => n != 0
  | .float x => !x.isZero
  | .bytes bs => !bs.isEmpty
  | .text s => !s.isEmpty
  | .list items => !items.isEmpty
  | .object fields => !fields.isEmpty

/-! ## Equality of what is meant -/

mutual

/-- Equality across the forms of numbers and across the orders of fields. -/
def eqv : Value → Value → Bool
  | .null, .null => true
  | .bool a, .bool b => a == b
  | .bool a, .int b => (if a then 1 else 0) == b
  | .int a, .bool b => a == (if b then 1 else 0)
  | .int a, .int b => a == b
  | .float x, .float y => x.numEq y
  | .float x, .int n => x.intEq n
  | .float x, .bool b => x.intEq (if b then 1 else 0)
  | .int n, .float x => x.intEq n
  | .bool b, .float x => x.intEq (if b then 1 else 0)
  | .bytes a, .bytes b => a == b
  | .text a, .text b => a == b
  | .list xs, .list ys => eqvItems xs ys
  | .object fs, .object gs => fs.length == gs.length && eqvFields fs gs
  | _, _ => false

def eqvItems : List Value → List Value → Bool
  | [], [] => true
  | x :: xs, y :: ys => eqv x y && eqvItems xs ys
  | _, _ => false

/-- Every field of the first object has an equal one in the second. -/
def eqvFields : List (String × Value) → List (String × Value) → Bool
  | [], _ => true
  | (name, v) :: rest, gs =>
    (match gs.lookup name with
      | some w => eqv v w
      | none => false) && eqvFields rest gs

end

end Value

/-! ## Flags -/

/-- The words that set a flag. -/
def flagWords : List String := ["1", "true", "t", "yes", "y", "on"]

/-- A text freed of blanks at both ends, in small letters. -/
def flagWord (s : String) : String :=
  String.ofList (Text.lower (Text.trim Text.isBlank s.toList))

/-- Whether a flag column is set. -/
def Value.flag : Value → Bool
  | .bool b => b
  | .null => false
  | .int n => n != 0
  | .float x => !x.isZero
  | .bytes bs => bs.any (· != 0)
  | v => flagWord v.toText ∈ flagWords

end Entitlement
