import Entitlement.Text.Template.Class

/-!
# `Entitlement.Text.Template.Class.Root` — the ancestor of all classes, and classes

The members that every item has, and those that every class has.
-/
namespace Entitlement.Text

def objectMembers : List (String × Member) :=
  [("__new__", .builder)] ++
  slots ["__repr__", "__hash__", "__str__", "__getattribute__", "__setattr__", "__delattr__",
    "__lt__", "__le__", "__eq__", "__ne__", "__gt__", "__ge__", "__init__"] ++
  [("__reduce_ex__", .method (some "($self, protocol, /)") (some ["Helper for pickle."])),
    ("__reduce__", .method (some "($self, /)") (some ["Helper for pickle."])),
    ("__getstate__", .method (some "($self, /)") (some ["Helper for pickle."])),
    ("__subclasshook__", .classMethod none (some [
      "Abstract classes can override this to customize issubclass().",
      "",
      "This is invoked early on by abc.ABCMeta.__subclasscheck__().",
      "It should return True, False or NotImplemented.  If it returns",
      "NotImplemented, the normal algorithm is used.  Otherwise, it",
      "overrides the normal algorithm (and the outcome is cached).",
      ""])),
    ("__init_subclass__", .classMethod none (some [
      "This method is called when a class is subclassed.",
      "",
      "The default implementation does nothing. It may be",
      "overridden to extend subclasses.",
      ""])),

    ("__format__", .method (some "($self, format_spec, /)") (some ["Default object formatter."])),
    ("__sizeof__", .method (some "($self, /)") (some ["Size of object in memory, in bytes."])),
    ("__dir__", .method (some "($self, /)") (some ["Default dir() implementation."])),
    ("__class__", .property (some "the object's class")), ("__doc__", .note)]

def objectFacts : ClassFacts where
  size := 16
  itemSize := 0
  dictionaryOffset := 0
  referenceOffset := 0
  flags := 529664
  signature := some "()"
  note := some [
    "The base class of the class hierarchy.",
    "",
    "When called, it accepts no arguments and returns a new featureless",
    "instance that has no instance attributes and cannot be given any.",
    ""]
  members := objectMembers

def kindMembers : List (String × Member) :=
  [("__new__", .builder)] ++
  slots ["__repr__", "__call__", "__getattribute__", "__setattr__", "__delattr__", "__init__",
    "__or__", "__ror__"] ++
  [("mro", .method (some "($self, /)") (some ["Return a type's method resolution order."])),
    ("__subclasses__", .method (some "($self, /)")
      (some ["Return a list of immediate subclasses."])),
    ("__prepare__", .classMethod none (some [
      "__prepare__() -> dict",
      "used to create the namespace for the class statement"])),
    ("__instancecheck__", .method (some "($self, instance, /)")
      (some ["Check if an object is an instance."])),
    ("__subclasscheck__", .method (some "($self, subclass, /)")
      (some ["Check if a class is a subclass."])),
    ("__dir__", .method (some "($self, /)")
      (some ["Specialized __dir__ implementation for types."])),
    ("__sizeof__", .method (some "($self, /)")
      (some ["Return memory consumption of the type object."])),
    ("__basicsize__", .field), ("__itemsize__", .field), ("__flags__", .field),
    ("__weakrefoffset__", .field), ("__base__", .field), ("__dictoffset__", .field),
    ("__mro__", .field), ("__name__", .property none), ("__qualname__", .property none),
    ("__bases__", .property none), ("__module__", .property none),
    ("__abstractmethods__", .property none), ("__dict__", .property none),
    ("__doc__", .property none), ("__text_signature__", .property none),
    ("__annotations__", .property none)]

def kindFacts : ClassFacts where
  size := 904
  itemSize := 40
  dictionaryOffset := 264
  referenceOffset := 368
  flags := 2148031744
  signature := none
  note := some [
    "type(object) -> the object's type",
    "type(name, bases, dict, **kwds) -> a new type"]
  members := kindMembers

end Entitlement.Text
