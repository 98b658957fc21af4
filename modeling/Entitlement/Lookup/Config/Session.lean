import Entitlement.Lookup.Config

/-!
# `Entitlement.Lookup.Config.Session` — a current configuration and what is done with it

A session holds at most one configuration.  Making and deriving one replaces it when they succeed;
nothing else does.  Assigning always fails: a field of a configuration is fixed once it is made, a
configuration has nothing besides its fields, and where there is no configuration yet there is
nothing to assign to.
-/
namespace Entitlement.Lookup

/-- What is done with the current configuration. -/
inductive ConfigStep where
  | make (changes : Config.Changes)
  | derive (changes : Config.Changes)
  | assign (field : String) (v : Value)
  | compare (changes : Config.Changes)

inductive ConfigAnswer where
  | config (c : Config)
  | equal (b : Bool)

/-- The attributes of the null value, all of them fixed. -/
def nullAttributes : List String :=
  ["__bool__", "__delattr__", "__dir__", "__doc__", "__eq__", "__format__", "__ge__",
    "__getattribute__", "__getstate__", "__gt__", "__hash__", "__init__", "__init_subclass__",
    "__le__", "__lt__", "__ne__", "__new__", "__reduce__", "__reduce_ex__", "__repr__",
    "__setattr__", "__sizeof__", "__str__", "__subclasshook__"]

/-- The fault of assigning a value to an attribute of the current configuration, if there is one. -/
def assignFault (current : Option Config) (name : String) (v : Value) : Fault :=
  match current with
  | some _ => if (Config.Field.named? name).isSome then .fixedField false name else .foreignField
  | none =>
    if name = "__class__" then .notAClass v
    else if name ∈ nullAttributes then .fixedAttribute name
    else .noAttribute .null name

/-- A step that ends in a configuration makes it the current one. -/
def ConfigStep.adopt (current : Option Config) :
    Except Fault Config → Option Config × Except Fault ConfigAnswer
  | .ok c => (some c, .ok (.config c))
  | .error e => (current, .error e)

def ConfigStep.run (current : Option Config) :
    ConfigStep → Option Config × Except Fault ConfigAnswer
  | .make changes => adopt current (Config.make changes)
  | .derive changes =>
    match current with
    | some c => adopt current (c.derive changes)
    | none => (none, .error .nothingToDerive)
  | .assign field v => (current, .error (assignFault current field v))
  | .compare changes =>
    (current, (Config.make changes).map fun d =>
      .equal (match current with
        | some c => c.eqv d
        | none => false))

/-- Steps one after the other: the configuration at the end, and the answers. -/
def runConfigSteps (current : Option Config) :
    List ConfigStep → Option Config × List (Except Fault ConfigAnswer)
  | [] => (current, [])
  | step :: rest =>
    let (next, answer) := step.run current
    let (last, answers) := runConfigSteps next rest
    (last, answer :: answers)

end Entitlement.Lookup
