/-!
# `Entitlement.Text.Template.Class` — the classes of what a path reaches

The path of a replacement field begins at a text and names members of what it has reached so far.
So it walks from the text to the class of texts, to the members of that class, to the classes of
these members, and on.  Nothing on that walk is ever called, which keeps it among eighteen classes;
`Class` lists them.

A class has members, in the order in which it was given them, and inherits those of its ancestors.
What a member is decides what it gives: a slot or a method is bound to the item it is reached from,
a class method to the class of that item, a property is worked out, and a note is the text that
describes the class.  The tables of the members are in the modules below this one.
-/
namespace Entitlement.Text

/-- The classes of what a path reaches. -/
inductive Class where
  /-- The ancestor of all classes. -/
  | object
  /-- Classes themselves. -/
  | kind
  | text
  | whole
  | flag
  | series
  | dictionary
  | nothing
  /-- A method, bound to an item. -/
  | routine
  /-- A slot, bound to an item. -/
  | boundSlot
  | slot
  | method
  | classMethod
  | property
  | field
  | static
  /-- The members of a class, looked at as a dictionary. -/
  | memberView
  /-- A class with an argument in brackets. -/
  | generic
deriving DecidableEq, Repr

/-- What a class holds under a name.  The lines of a note are given one by one. -/
inductive Member where
  | slot
  | method (signature : Option String) (note : Option (List String))
  | classMethod (signature : Option String) (note : Option (List String))
  | static (signature : Option String) (note : Option (List String))
  /-- The method that makes new items of the class. -/
  | builder
  | property (note : Option String)
  | field
  /-- The note of the class itself. -/
  | note
  /-- The name is taken, and nothing stands there. -/
  | absent
deriving DecidableEq, Repr

/-- What is known of a class besides its name and its ancestors. -/
structure ClassFacts where
  size : Nat
  itemSize : Nat
  dictionaryOffset : Nat
  referenceOffset : Nat
  flags : Nat
  signature : Option String
  note : Option (List String)
  members : List (String × Member)

/-- Several slots one after the other. -/
def slots (names : List String) : List (String × Member) := names.map (·, .slot)

def Class.name : Class → String
  | .object => "object"
  | .kind => "type"
  | .text => "str"
  | .whole => "int"
  | .flag => "bool"
  | .series => "tuple"
  | .dictionary => "dict"
  | .nothing => "NoneType"
  | .routine => "builtin_function_or_method"
  | .boundSlot => "method-wrapper"
  | .slot => "wrapper_descriptor"
  | .method => "method_descriptor"
  | .classMethod => "classmethod_descriptor"
  | .property => "getset_descriptor"
  | .field => "member_descriptor"
  | .static => "staticmethod"
  | .memberView => "mappingproxy"
  | .generic => "GenericAlias"

/-- The module of a class. -/
def Class.home : Class → String
  | .generic => "types"
  | _ => "builtins"

/-- The name of a class as messages give it. -/
def Class.fullName : Class → String
  | .generic => "types.GenericAlias"
  | c => c.name

/-- The class that a class is derived from. -/
def Class.parent? : Class → Option Class
  | .object => none
  | .flag => some .whole
  | _ => some .object

/-- A class and its ancestors, in the order in which members are looked for. -/
def Class.line : Class → List Class
  | .object => [.object]
  | .flag => [.flag, .whole, .object]
  | c => [c, .object]

end Entitlement.Text
