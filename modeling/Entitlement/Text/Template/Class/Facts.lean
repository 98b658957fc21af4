import Entitlement.Text.Template.Class.Root
import Entitlement.Text.Template.Class.Words
import Entitlement.Text.Template.Class.Number
import Entitlement.Text.Template.Class.Collection
import Entitlement.Text.Template.Class.Descriptor

/-!
# `Entitlement.Text.Template.Class.Facts` — every class with its members

The tables of the families, brought together, and what is asked of them: the member that a class has
under a name, itself or through its nearest ancestor, and the signature and the note of a member.
Slots of one name have one signature and one note, whatever the class.
-/
namespace Entitlement.Text

def Class.facts : Class → ClassFacts
  | .object => objectFacts
  | .kind => kindFacts
  | .text => textFacts
  | .whole => wholeFacts
  | .flag => flagFacts
  | .series => seriesFacts
  | .dictionary => dictionaryFacts
  | .nothing => nothingFacts
  | .routine => routineFacts
  | .boundSlot => boundSlotFacts
  | .slot => slotFacts
  | .method => methodFacts
  | .classMethod => classMethodFacts
  | .property => propertyFacts
  | .field => fieldFacts
  | .static => staticFacts
  | .memberView => memberViewFacts
  | .generic => genericFacts

/-- The member a class has by itself under a name. -/
def Class.own? (c : Class) (name : String) : Option Member := c.facts.members.lookup name

/-- The member found under a name at a class or its nearest ancestor, with the class that has it. -/
def Class.find? (c : Class) (name : String) : Option (Class × Member) :=
  c.line.findSome? fun d => (d.own? name).map (d, ·)

/-- The signature and the note of every slot. -/
def slotNotes : List (String × String × String) :=
  [("__repr__", "($self, /)", "Return repr(self)."),
    ("__hash__", "($self, /)", "Return hash(self)."),
    ("__str__", "($self, /)", "Return str(self)."),
    ("__getattribute__", "($self, name, /)", "Return getattr(self, name)."),
    ("__lt__", "($self, value, /)", "Return self<value."),
    ("__le__", "($self, value, /)", "Return self<=value."),
    ("__eq__", "($self, value, /)", "Return self==value."),
    ("__ne__", "($self, value, /)", "Return self!=value."),
    ("__gt__", "($self, value, /)", "Return self>value."),
    ("__ge__", "($self, value, /)", "Return self>=value."),
    ("__iter__", "($self, /)", "Implement iter(self)."),
    ("__mod__", "($self, value, /)", "Return self%value."),
    ("__rmod__", "($self, value, /)", "Return value%self."),
    ("__len__", "($self, /)", "Return len(self)."),
    ("__getitem__", "($self, key, /)", "Return self[key]."),
    ("__add__", "($self, value, /)", "Return self+value."),
    ("__mul__", "($self, value, /)", "Return self*value."),
    ("__rmul__", "($self, value, /)", "Return value*self."),
    ("__contains__", "($self, key, /)", "Return key in self."),
    ("__setattr__", "($self, name, value, /)", "Implement setattr(self, name, value)."),
    ("__delattr__", "($self, name, /)", "Implement delattr(self, name)."),
    ("__init__", "($self, /, *args, **kwargs)",
      "Initialize self.  See help(type(self)) for accurate signature."),
    ("__call__", "($self, /, *args, **kwargs)", "Call self as a function."),
    ("__or__", "($self, value, /)", "Return self|value."),
    ("__ror__", "($self, value, /)", "Return value|self."),
    ("__radd__", "($self, value, /)", "Return value+self."),
    ("__sub__", "($self, value, /)", "Return self-value."),
    ("__rsub__", "($self, value, /)", "Return value-self."),
    ("__divmod__", "($self, value, /)", "Return divmod(self, value)."),
    ("__rdivmod__", "($self, value, /)", "Return divmod(value, self)."),
    ("__pow__", "($self, value, mod=None, /)", "Return pow(self, value, mod)."),
    ("__rpow__", "($self, value, mod=None, /)", "Return pow(value, self, mod)."),
    ("__neg__", "($self, /)", "-self"),
    ("__pos__", "($self, /)", "+self"),
    ("__abs__", "($self, /)", "abs(self)"),
    ("__bool__", "($self, /)", "True if self else False"),
    ("__invert__", "($self, /)", "~self"),
    ("__lshift__", "($self, value, /)", "Return self<<value."),
    ("__rlshift__", "($self, value, /)", "Return value<<self."),
    ("__rshift__", "($self, value, /)", "Return self>>value."),
    ("__rrshift__", "($self, value, /)", "Return value>>self."),
    ("__and__", "($self, value, /)", "Return self&value."),
    ("__rand__", "($self, value, /)", "Return value&self."),
    ("__xor__", "($self, value, /)", "Return self^value."),
    ("__rxor__", "($self, value, /)", "Return value^self."),
    ("__int__", "($self, /)", "int(self)"),
    ("__float__", "($self, /)", "float(self)"),
    ("__floordiv__", "($self, value, /)", "Return self//value."),
    ("__rfloordiv__", "($self, value, /)", "Return value//self."),
    ("__truediv__", "($self, value, /)", "Return self/value."),
    ("__rtruediv__", "($self, value, /)", "Return value/self."),
    ("__index__", "($self, /)",
      "Return self converted to an integer, if self is suitable for use as an index into a list."),
    ("__ior__", "($self, value, /)", "Return self|=value."),
    ("__setitem__", "($self, key, value, /)", "Set self[key] to value."),
    ("__delitem__", "($self, key, /)", "Delete self[key]."),
    ("__get__", "($self, instance, owner=None, /)",
      "Return an attribute of instance, which is of type owner."),
    ("__set__", "($self, instance, value, /)", "Set an attribute of instance to value."),
    ("__delete__", "($self, instance, /)", "Delete an attribute of instance.")]

/-- The lines of a note as one text. -/
def noteText (lines : List String) : String := "\n".intercalate lines

/-- The signature and the note of a member. -/
def Class.explain (owner : Class) (name : String) : Option String × Option String :=
  match owner.own? name with
  | some .slot =>
    match slotNotes.lookup name with
    | some (signature, note) => (some signature, some note)
    | none => (none, none)
  | some (.method signature note) | some (.classMethod signature note)
  | some (.static signature note) => (signature, note.map noteText)
  | some .builder =>
    (some "($type, *args, **kwargs)",
      some "Create and return a new object.  See help(type) for accurate signature.")
  | some (.property note) => (none, note)
  | _ => (none, none)

end Entitlement.Text
