import Entitlement.Text.Template.Error
import Entitlement.Text.Template.Item

/-!
# `Entitlement.Text.Template.Reach` — one step of a path

A step asks an item for a member by its name, or for what stands at a position or under a key.

A member is looked for at the class of the item and its ancestors.  For a class there are two
places to look: the class itself with its ancestors, and the class of classes.  The properties that
the class of classes has come first, then the members of the class itself, unbound, and then the
rest of what classes have in common.  A class with an argument answers for itself on a few names
only, and passes all others on to the class.

Texts and series have positions, the members of a class have keys.  A few classes take an argument
in brackets, which need not be a position.
-/
namespace Entitlement.Text

/-- What stands in the brackets of a step. -/
inductive Index where
  | position (n : Nat)
  | key (name : String)
deriving DecidableEq, Repr

/-- The holder that messages name for an item. -/
def Item.holder : Item → Holder
  | .kind c => .kind c.fullName
  | item => .item item.class.fullName

/-! ## Properties -/

/-- What a class says of itself under a name. -/
def Class.property? (c : Class) (name : String) : Option Item :=
  let kindOrNothing : Option Class → Item
    | some c => .kind c
    | none => .nothing
  match name with
  | "__name__" | "__qualname__" => some (.ofString c.name)
  | "__module__" => some (.ofString c.home)
  | "__base__" => some (kindOrNothing c.parent?)
  | "__bases__" => some (.series (c.parent?.toList.map .kind))
  | "__mro__" => some (.series (c.line.map .kind))
  | "__dict__" => some (.members c)
  | "__basicsize__" => some (.whole c.facts.size)
  | "__itemsize__" => some (.whole c.facts.itemSize)
  | "__dictoffset__" => some (.whole c.facts.dictionaryOffset)
  | "__weakrefoffset__" => some (.whole c.facts.referenceOffset)
  | "__flags__" => some (.whole c.facts.flags)
  | "__text_signature__" => some (.ofOption c.facts.signature)
  | "__doc__" =>
    match c.facts.note, c.own? name with
    | none, some m => some (c.unbound name m)
    | _, _ => some c.noteItem
  | _ => none

/-- What a member says of itself under a name, by its owner and its own name. -/
def Class.memberProperty? (owner : Class) (member name : String) : Option Item :=
  match name with
  | "__name__" => some (.ofString member)
  | "__qualname__" => some (.ofString (owner.name ++ "." ++ member))
  | "__objclass__" => some (.kind owner)
  | "__text_signature__" => some (.ofOption (owner.explain member).1)
  | "__doc__" => some (.ofOption (owner.explain member).2)
  | _ => none

/-- Whether a member is bound to its owner without being given it. -/
def Class.isStatic (owner : Class) (member : String) : Bool :=
  match owner.own? member with
  | some (.static ..) => true
  | _ => false

/-- The name before the point in the qualified name of a bound method. -/
def Item.qualifier : Item → String
  | .kind c => c.name
  | item => item.class.name

/-- The value of a property of an item. -/
def Item.property? (item : Item) (name : String) : Option Item :=
  if name = "__class__" then some (.kind item.class)
  else
    match item with
    | .kind c => c.property? name
    | .whole n =>
      match name with
      | "real" | "numerator" => some (.whole n)
      | "imag" => some (.whole 0)
      | _ => some (.whole 1)
    | .flag b =>
      match name with
      | "real" | "numerator" => some (.whole b.toNat)
      | "imag" => some (.whole 0)
      | _ => some (.whole 1)
    | .routine self owner member =>
      match name with
      | "__self__" => some (if owner.isStatic member then .nothing else self)
      | "__module__" => some .nothing
      | "__qualname__" => some (.ofString (self.qualifier ++ "." ++ member))
      | _ => owner.memberProperty? member name
    | .boundSlot self owner member =>
      if name = "__self__" then some self else owner.memberProperty? member name
    | .descriptor .static owner member =>
      match name with
      | "__isabstractmethod__" => some (.flag false)
      | "__dict__" => some .dictionary
      | _ => some (.routine (.kind owner) owner member)
    | .descriptor _ owner member => owner.memberProperty? member name
    | .generic origin argument =>
      match name with
      | "__origin__" => some (.kind origin)
      | "__args__" => some (.series [argument])
      | "__unpacked__" => some (.flag false)
      | "__parameters__" => some (.series [])
      | _ => some .nothing
    | _ => none

/-! ## Members -/

/-- Whether a member is a property, which comes before what an item has by itself. -/
def Member.isProperty : Member → Bool
  | .property _ | .field => true
  | _ => false

/-- A member of the owner, given by an item of a class that has it. -/
def Item.bind (item : Item) (owner : Class) (name : String) (m : Member) :
    Except TemplateError Item :=
  match m with
  | .slot => .ok (.boundSlot item owner name)
  | .method .. => .ok (.routine item owner name)
  | .classMethod .. => .ok (.routine (.kind item.class) owner name)
  | .static .. => .ok (.routine (.kind owner) owner name)
  | .builder | .note | .absent => .ok (owner.unbound name m)
  | .property _ | .field =>
    match item.property? name with
    | some found => .ok found
    | none =>
      if name = "__abstractmethods__" then .error (.noValue name)
      else .error (.noMember item.holder name)

/-- A member of the owner, given by a class of its line. -/
def Class.bind (c owner : Class) (name : String) : Member → Item
  | .classMethod .. => .routine (.kind c) owner name
  | .static .. => .routine (.kind owner) owner name
  | m => owner.unbound name m

/-- The member of a class under a name: of itself, or as an item of the class of classes. -/
def Class.member (c : Class) (name : String) : Except TemplateError Item :=
  let common := Class.kind.find? name
  let ofKind : Except TemplateError Item :=
    match common with
    | some (owner, m) => (Item.kind c).bind owner name m
    | none => .error (.noMember (.kind c.fullName) name)
  if common.any (·.2.isProperty) then ofKind
  else
    match c.find? name with
    | some (owner, m) => .ok (c.bind owner name m)
    | none => ofKind

/-- The names on which a class with an argument answers for itself. -/
def genericNames : List String :=
  ["__class__", "__origin__", "__args__", "__unpacked__", "__parameters__",
    "__typing_unpacked_tuple_args__", "__mro_entries__", "__reduce_ex__", "__reduce__",
    "__copy__", "__deepcopy__"]

/-- The member of an item under a name, looked for at its class. -/
def Item.classMember (item : Item) (name : String) : Except TemplateError Item :=
  match item.class.find? name with
  | some (owner, m) => item.bind owner name m
  | none => .error (.noMember item.holder name)

/-- The member of an item under a name. -/
def Item.member (item : Item) (name : String) : Except TemplateError Item :=
  match item with
  | .kind c => c.member name
  | .generic origin _ => if name ∈ genericNames then item.classMember name else origin.member name
  | _ => item.classMember name

/-! ## Positions and keys -/

/-- What stands at a position. -/
def pick (among : Positioned) (xs : List α) : Index → Except TemplateError α
  | .key _ => .error (.indexNotWhole among)
  | .position i =>
    match xs[i]? with
    | some x => .ok x
    | none => .error (.indexOutOfRange among)

/-- What stands in brackets, as an item. -/
def Index.item : Index → Item
  | .position n => .whole n
  | .key name => .ofString name

/-- The error of a key that a dictionary does not have. -/
def Index.missing (i : Index) : TemplateError :=
  .noEntry (String.ofList (i.item.literal isPrintable))

/-- A class with brackets behind it. -/
def Class.subscript (c : Class) (i : Index) : Except TemplateError Item :=
  if c = .kind ∨ (c.find? "__class_getitem__").isSome then .ok (.generic c i.item)
  else .error (.notSubscriptable (.kind c.fullName))

/-- What an item has at a position or under a key. -/
def Item.at (item : Item) (i : Index) : Except TemplateError Item :=
  match item with
  | .text cs => (pick .characters cs i).map fun c => .text [c]
  | .series items => pick .items items i
  | .dictionary => .error i.missing
  | .members c =>
    match i with
    | .key name =>
      match c.own? name with
      | some m => .ok (c.unbound name m)
      | none => .error i.missing
    | .position _ => .error i.missing
  | .kind c => c.subscript i
  | .generic .. => .error (.notOpen (String.ofList (item.literal isPrintable)))
  | _ => .error (.notSubscriptable item.holder)

end Entitlement.Text
