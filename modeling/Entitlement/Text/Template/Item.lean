import Entitlement.Text.Quoted
import Entitlement.Text.Template.Class.Facts

/-!
# `Entitlement.Text.Template.Item` — what a path reaches, and how it is written

An item is a text or something that the members of items lead to.  A bound method keeps the item it
is bound to, so items nest, but what is inside an item is never larger than the path that built it.

An item is written in one of two ways.  Its literal shows texts between quotes and names the view of
the members of a class; its display is the literal, except that a text stands as it is and such a
view as the dictionary it shows.  Bound methods are written with the place they
have in memory, which has no meaning here: `somewhere` stands for every such place.
-/
namespace Entitlement.Text

/-- The forms of an unbound member. -/
inductive Descriptor where
  | slot
  | method
  | classMethod
  | property
  | field
  | static
deriving DecidableEq, Repr

/-- What a path reaches. -/
inductive Item where
  | text (cs : List Char)
  | whole (n : Nat)
  | flag (b : Bool)
  | nothing
  | series (items : List Item)
  /-- A dictionary without entries. -/
  | dictionary
  | kind (c : Class)
  /-- A method that the owner has under a name, bound to an item. -/
  | routine (self : Item) (owner : Class) (name : String)
  /-- A slot that the owner has under a name, bound to an item. -/
  | boundSlot (self : Item) (owner : Class) (name : String)
  | descriptor (form : Descriptor) (owner : Class) (name : String)
  /-- The members of a class. -/
  | members (c : Class)
  | generic (origin : Class) (argument : Item)

def Descriptor.class : Descriptor → Class
  | .slot => .slot
  | .method => .method
  | .classMethod => .classMethod
  | .property => .property
  | .field => .field
  | .static => .static

def Item.class : Item → Class
  | .text _ => .text
  | .whole _ => .whole
  | .flag _ => .flag
  | .nothing => .nothing
  | .series _ => .series
  | .dictionary => .dictionary
  | .kind _ => .kind
  | .routine .. => .routine
  | .boundSlot .. => .boundSlot
  | .descriptor form _ _ => form.class
  | .members _ => .memberView
  | .generic .. => .generic

/-- A text as an item. -/
def Item.ofString (s : String) : Item := .text s.toList

/-- A text, or nothing, as an item. -/
def Item.ofOption : Option String → Item
  | some s => .ofString s
  | none => .nothing

/-- The note of a class as an item. -/
def Class.noteItem (c : Class) : Item := .ofOption (c.facts.note.map noteText)

/-- A member of a class as it stands there, bound to nothing. -/
def Class.unbound (owner : Class) (name : String) : Member → Item
  | .slot => .descriptor .slot owner name
  | .method .. => .descriptor .method owner name
  | .classMethod .. => .descriptor .classMethod owner name
  | .property _ => .descriptor .property owner name
  | .field => .descriptor .field owner name
  | .static .. => .descriptor .static owner name
  | .builder => .routine (.kind owner) owner name
  | .note => owner.noteItem
  | .absent => .nothing

/-! ## How an item is written -/

/-- The place of an item in memory. -/
def somewhere : String := "0x7f0000000000"

/-- A bound method, by its name and the class of what it is bound to. -/
def routineText (name : String) (c : Class) : String :=
  "<built-in method " ++ name ++ " of " ++ c.fullName ++ " object at " ++ somewhere ++ ">"

/-- An unbound member. -/
def Descriptor.text (form : Descriptor) (owner : Class) (name : String) : String :=
  let named (noun : String) :=
    "<" ++ noun ++ " '" ++ name ++ "' of '" ++ owner.fullName ++ "' objects>"
  match form with
  | .slot => named "slot wrapper"
  | .method | .classMethod => named "method"
  | .property => named "attribute"
  | .field => named "member"
  | .static => "<staticmethod(" ++ routineText name .kind ++ ")>"

/-- A member of a class as it stands there, written; `shown` characters stand as themselves. -/
def Class.memberText (shown : Char → Bool) (owner : Class) (name : String) (m : Member) :
    List Char :=
  match owner.unbound name m with
  | .text cs => quotedWith shown cs
  | .descriptor form owner name => (form.text owner name).toList
  | .routine .. => (routineText name .kind).toList
  | _ => "None".toList

/-- Texts with a comma and a space between them. -/
def listed : List (List Char) → List Char := List.intercalate [',', ' ']

/-- The members of a class, written as a dictionary. -/
def Class.membersText (shown : Char → Bool) (c : Class) : List Char :=
  '\x7b' :: listed (c.facts.members.map fun (name, m) =>
    quotedWith shown name.toList ++ [':', ' '] ++ c.memberText shown name m) ++ ['\x7d']

mutual

/-- The literal of an item; in texts the `shown` characters stand as themselves. -/
def Item.literal (shown : Char → Bool) : Item → List Char
  | .text cs => quotedWith shown cs
  | .whole n => Nat.toDigits 10 n
  | .flag b => if b then "True".toList else "False".toList
  | .nothing => "None".toList
  | .series items =>
    match Item.literals shown items with
    | [only] => '(' :: only ++ [',', ')']
    | parts => '(' :: listed parts ++ [')']
  | .dictionary => ['\x7b', '\x7d']
  | .kind c => ("<class '" ++ c.fullName ++ "'>").toList
  | .routine self _ name => (routineText name self.class).toList
  | .boundSlot self _ name =>
    ("<method-wrapper '" ++ name ++ "' of " ++ self.class.fullName ++ " object at " ++ somewhere
      ++ ">").toList
  | .descriptor form owner name => (form.text owner name).toList
  | .members c => "mappingproxy(".toList ++ c.membersText shown ++ [')']
  | .generic origin argument => origin.fullName.toList ++ '[' :: argument.literal shown ++ [']']

def Item.literals (shown : Char → Bool) : List Item → List (List Char)
  | [] => []
  | item :: items => item.literal shown :: Item.literals shown items

end

/-- An item as it is displayed. -/
def Item.display : Item → List Char
  | .text cs => cs
  | .members c => c.membersText isPrintable
  | item => item.literal isPrintable

end Entitlement.Text
