import Entitlement.Text.Template.Class

/-!
# `Entitlement.Text.Template.Class.Descriptor` — what the members of a class are

Members are items as well, with classes of their own: those that are still unbound, those that are
bound to an item, and a class with an argument in brackets.
-/
namespace Entitlement.Text

def routineMembers : List (String × Member) :=
  slots ["__repr__", "__hash__", "__call__", "__getattribute__", "__lt__", "__le__", "__eq__",
    "__ne__", "__gt__", "__ge__"] ++
  [("__reduce__", .method none none), ("__module__", .field), ("__doc__", .property none),
    ("__name__", .property none), ("__qualname__", .property none), ("__self__", .property none),
    ("__text_signature__", .property none)]

def routineFacts : ClassFacts where
  size := 56
  itemSize := 0
  dictionaryOffset := 0
  referenceOffset := 40
  flags := 547200
  signature := none
  note := none
  members := routineMembers

def boundSlotMembers : List (String × Member) :=
  slots ["__repr__", "__hash__", "__call__", "__getattribute__", "__lt__", "__le__", "__eq__",
    "__ne__", "__gt__", "__ge__"] ++
  [("__reduce__", .method none none), ("__self__", .field), ("__objclass__", .property none),
    ("__name__", .property none), ("__qualname__", .property none), ("__doc__", .property none),
    ("__text_signature__", .property none)]

def boundSlotFacts : ClassFacts where
  size := 32
  itemSize := 0
  dictionaryOffset := 0
  referenceOffset := 0
  flags := 545152
  signature := none
  note := none
  members := boundSlotMembers

def slotMembers : List (String × Member) :=
  slots ["__repr__", "__call__", "__getattribute__", "__get__"] ++
  [("__reduce__", .method none none), ("__objclass__", .field), ("__name__", .field),
    ("__doc__", .property none), ("__qualname__", .property none),
    ("__text_signature__", .property none)]

def slotFacts : ClassFacts where
  size := 56
  itemSize := 0
  dictionaryOffset := 0
  referenceOffset := 0
  flags := 676224
  signature := none
  note := none
  members := slotMembers

def methodMembers : List (String × Member) :=
  slots ["__repr__", "__call__", "__getattribute__", "__get__"] ++
  [("__reduce__", .method none none), ("__objclass__", .field), ("__name__", .field),
    ("__doc__", .property none), ("__qualname__", .property none),
    ("__text_signature__", .property none)]

def methodFacts : ClassFacts where
  size := 56
  itemSize := 0
  dictionaryOffset := 0
  referenceOffset := 0
  flags := 678272
  signature := none
  note := none
  members := methodMembers

def classMethodMembers : List (String × Member) :=
  slots ["__repr__", "__call__", "__getattribute__", "__get__"] ++
  [("__objclass__", .field), ("__name__", .field), ("__doc__", .property none),
    ("__qualname__", .property none), ("__text_signature__", .property none)]

def classMethodFacts : ClassFacts where
  size := 56
  itemSize := 0
  dictionaryOffset := 0
  referenceOffset := 0
  flags := 545152
  signature := none
  note := none
  members := classMethodMembers

def propertyMembers : List (String × Member) :=
  slots ["__repr__", "__getattribute__", "__get__", "__set__", "__delete__"] ++
  [("__objclass__", .field), ("__name__", .field), ("__doc__", .property none),
    ("__qualname__", .property none)]

def propertyFacts : ClassFacts where
  size := 48
  itemSize := 0
  dictionaryOffset := 0
  referenceOffset := 0
  flags := 545152
  signature := none
  note := none
  members := propertyMembers

def fieldMembers : List (String × Member) :=
  slots ["__repr__", "__getattribute__", "__get__", "__set__", "__delete__"] ++
  [("__reduce__", .method none none), ("__objclass__", .field), ("__name__", .field),
    ("__doc__", .property none), ("__qualname__", .property none)]

def fieldFacts : ClassFacts where
  size := 48
  itemSize := 0
  dictionaryOffset := 0
  referenceOffset := 0
  flags := 545152
  signature := none
  note := none
  members := fieldMembers

def staticMembers : List (String × Member) :=
  [("__new__", .builder)] ++
  slots ["__repr__", "__call__", "__get__", "__init__"] ++
  [("__func__", .field), ("__wrapped__", .field), ("__isabstractmethod__", .property none),
    ("__dict__", .property none), ("__doc__", .note)]

def staticFacts : ClassFacts where
  size := 32
  itemSize := 0
  dictionaryOffset := 24
  referenceOffset := 0
  flags := 546048
  signature := none
  note := some [
    "staticmethod(function) -> method",
    "",
    "Convert a function to be a static method.",
    "",
    "A static method does not receive an implicit first argument.",
    "To declare a static method, use this idiom:",
    "",
    "     class C:",
    "         @staticmethod",
    "         def f(arg1, arg2, argN):",
    "             ...",
    "",
    "It can be called either on the class (e.g. C.f()) or on an instance",
    "(e.g. C().f()). Both the class and the instance are ignored, and",
    "neither is passed implicitly as the first argument to the method.",
    "",
    "Static methods in Python are similar to those found in Java or C++.",
    "For a more advanced concept, see the classmethod builtin."]
  members := staticMembers

def genericMembers : List (String × Member) :=
  [("__new__", .builder)] ++
  slots ["__repr__", "__hash__", "__call__", "__getattribute__", "__lt__", "__le__", "__eq__",
    "__ne__", "__gt__", "__ge__", "__iter__", "__or__", "__ror__", "__getitem__"] ++
  [("__mro_entries__", .method none none), ("__instancecheck__", .method none none),
    ("__subclasscheck__", .method none none), ("__reduce__", .method none none),
    ("__dir__", .method none none), ("__origin__", .field), ("__args__", .field),
    ("__unpacked__", .field),
    ("__parameters__", .property (some "Type variables in the GenericAlias.")),
    ("__typing_unpacked_tuple_args__", .property none), ("__doc__", .note)]

def genericFacts : ClassFacts where
  size := 64
  itemSize := 0
  dictionaryOffset := 0
  referenceOffset := 40
  flags := 548096
  signature := none
  note := some [
    "Represent a PEP 585 generic type",
    "",
    "E.g. for t = list[int], t.__origin__ is list and t.__args__ is (int,)."]
  members := genericMembers

end Entitlement.Text
