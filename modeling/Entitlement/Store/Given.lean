import Entitlement.Store.Tables

/-!
# `Entitlement.Store.Given` — what is given for a row

A row is given by the names of its columns or by position.  By name, it is first made as an entity
of its own and then handed to the store.  Making it looks at the names in the order in which they
are given: a name is a column, or an attribute that every entity has anyway and that keeps what is
given to itself, or it is refused.  Three attributes refuse what is given for them, because they
belong to the entity as such.

Handing it over looks at the values: what makes up the key has to be fit for a key, and a flag has
to be one.  Everything else is left to the store.

By position, the values are handed over as they are, and none may be missing.
-/
namespace Entitlement.Store

/-- A row whose columns are given by name. -/
abbrev Named := List (String × Value)

/-! ## Names -/

/-- What every entity has besides its columns. -/
def entityAttributes : List String :=
  ["__annotations__", "__base__", "__bases__", "__basicsize__", "__call__", "__class_getitem__",
    "__delattr__", "__dictoffset__", "__dir__", "__doc__", "__eq__", "__flags__", "__format__",
    "__ge__", "__getattribute__", "__getstate__", "__gt__", "__hash__", "__init__",
    "__init_subclass__", "__instancecheck__", "__itemsize__", "__le__", "__lt__", "__mapper__",
    "__module__", "__mro__", "__name__", "__ne__", "__new__", "__or__", "__orig_bases__",
    "__parameters__", "__prepare__", "__qualname__", "__reduce__", "__reduce_ex__", "__repr__",
    "__ror__", "__setattr__", "__sizeof__", "__slots__", "__str__", "__subclasscheck__",
    "__subclasses__", "__subclasshook__", "__table__", "__tablename__", "__text_signature__",
    "__weakrefoffset__", "_is_protocol", "_sa_class_manager", "_sa_registry", "metadata", "mro",
    "registry"]

/-- Whether entities of a table have an attribute that keeps what is given to itself. -/
def hasAttribute (t : Table) (name : String) : Bool :=
  entityAttributes.contains name || (t == .groupMembers && name == "__table_args__")

def hasColumn (t : Table) (name : String) : Bool := (t.columns.map (·.name)).contains name

/-- The fault of giving a value under a name. -/
def nameFault? (t : Table) (name : String) (v : Value) : Option Fault :=
  if hasColumn t name || hasAttribute t name then none
  else
    match name, v with
    | "__class__", v => some (.notAClass v)
    | "__dict__", .object _ => some (.bareEntity t.entity)
    | "__dict__", v => some (.notADictionary v)
    | "__weakref__", _ => some (.fixedAttribute t.entity name)
    | name, _ => some (.unknownField name t.entity)

/-- The fault of making an entity of what is given: the name of the entity itself is refused before
all others, and then the first name that is refused counts. -/
def namesFault? (t : Table) (fields : Named) : Option Fault :=
  if fields.any (·.1 == "self") then some .entityGivenTwice
  else fields.findSome? fun field => nameFault? t field.1 field.2

/-! ## Values -/

/-- The value given for a column; nothing is null. -/
def valueOf (fields : Named) (column : Column) : Value := (fields.lookup column.name).getD .null

/-- The fault of a key that cannot be one. -/
def keyFault? (t : Table) (fields : Named) : Option Fault :=
  (t.columns.find? fun column => column.primaryKey && !(valueOf fields column).isHashable).map
    fun column => .unhashableKey (valueOf fields column)

/-- The cell of a value that is given for a flag; a flag that is not given is set. -/
def flagCell : Value → Except Fault Cell
  | .null => .ok (.int 1)
  | .bool b => .ok (.int (if b then 1 else 0))
  | .int n => if n = 0 ∨ n = 1 then .ok (.int n) else .error (.flagNotOne (.int n))
  | .float x =>
    if x.intEq 0 then .ok (.int 0)
    else if x.intEq 1 then .ok (.int 1)
    else .error (.flagNotBoolean (.float x))
  | .list items => .error (.flagComposite (.list items))
  | .object fields => .error (.flagComposite (.object fields))
  | v => .error (.flagNotBoolean v)

/-- The value given for a column, flags being turned into integers. -/
def givenValue (fields : Named) (column : Column) : Except Fault Value :=
  let v := valueOf fields column
  if column.type = .boolean then (flagCell v).map Cell.toValue else .ok v

/-- The values given for some columns, in their order. -/
def givenValues (fields : Named) : List Column → Except Fault (List (Column × Value))
  | [] => .ok []
  | column :: rest =>
    match givenValue fields column with
    | .error fault => .error fault
    | .ok v =>
      match givenValues fields rest with
      | .error fault => .error fault
      | .ok vs => .ok ((column, v) :: vs)

/-- What is handed to the store of a row given by name. -/
def handedOver (t : Table) (fields : Named) : Except Fault (List (Column × Value)) :=
  match (namesFault? t fields).or (keyFault? t fields) with
  | some fault => .error fault
  | none => givenValues fields t.columns

/-! ## Cells -/

/-- The cells of values at successive positions. -/
def cellsFrom (position : Nat) : List Value → Except Fault Record
  | [] => .ok []
  | v :: rest =>
    match Cell.ofValue position v with
    | .error fault => .error fault
    | .ok cell =>
      match cellsFrom (position + 1) rest with
      | .error fault => .error fault
      | .ok cells => .ok (cell :: cells)

/-- Whether a value of a row is handed over: a part of the key that is not given is left out. -/
def isHandedOver (given : Column × Value) : Bool :=
  match given with
  | (column, .null) => !column.primaryKey
  | _ => true

/-- The cells of a row, those that are left out being null; positions count what is handed over. -/
def cellsOfGiven (position : Nat) : List (Column × Value) → Except Fault Record
  | [] => .ok []
  | given :: rest =>
    if isHandedOver given then
      match Cell.ofValue position given.2 with
      | .error fault => .error fault
      | .ok cell =>
        match cellsOfGiven (position + 1) rest with
        | .error fault => .error fault
        | .ok cells => .ok (cell :: cells)
    else
      match cellsOfGiven position rest with
      | .error fault => .error fault
      | .ok cells => .ok (.null :: cells)

/-- The places of a row that is given by position. -/
def rowPlaces : List String := ["u", "p", "e"]

/-- The values of a row given by position, one for each place; what is given beyond them is not
looked at. -/
def placedValues (row : List Value) : Except Fault (List Value) :=
  match rowPlaces[row.length]? with
  | some place => .error (.missingBind place)
  | none => .ok (row.take rowPlaces.length)

end Entitlement.Store
