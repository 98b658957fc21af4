import Entitlement.Fault
import Entitlement.Store.Cell

/-!
# `Entitlement.Schema` — the five tables a lookup reads

Users, direct authorities, groups, group members and group authorities.  Each table is declared by
its columns: type, whether null is allowed, membership in the primary key, uniqueness, and the
column of another table it refers to.  What the store enforces is read off the declaration: the
nullability of `Table.columns` and the keys of `Table.keys`.  References and lengths are declared
and not enforced, so a member may precede its group and a grant may outlive a user.

An integer column that is the whole primary key numbers its rows: a row that comes without a number
gets one.
-/
namespace Entitlement

inductive ColumnType where
  | varchar (length : Nat)
  | boolean
  | integer
deriving DecidableEq, Repr

def ColumnType.name : ColumnType → String
  | .varchar length => "VARCHAR(" ++ toString length ++ ")"
  | .boolean => "BOOLEAN"
  | .integer => "INTEGER"

/-- What a column of a type does to the values put into it. -/
def ColumnType.affinity : ColumnType → Store.Affinity
  | .varchar _ => .text
  | .boolean => .numeric
  | .integer => .numeric

/-- The declaration of a column. -/
structure Column where
  name : String
  type : ColumnType
  nullable : Bool := false
  primaryKey : Bool := false
  unique : Bool := false
  references : List String := []
deriving DecidableEq, Repr

/-- The declaration of an index: its name, its columns, and whether it is unique. -/
structure Index where
  name : String
  columns : List String
  unique : Bool
deriving DecidableEq, Repr

inductive Table where
  | users
  | authorities
  | groups
  | groupMembers
  | groupAuthorities
deriving DecidableEq, Repr

namespace Table

def all : List Table := [.users, .authorities, .groups, .groupMembers, .groupAuthorities]

def name : Table → String
  | .users => "users"
  | .authorities => "authorities"
  | .groups => "groups"
  | .groupMembers => "group_members"
  | .groupAuthorities => "group_authorities"

/-- The name of what a row of a table stands for. -/
def entity : Table → String
  | .users => "User"
  | .authorities => "UserAuthority"
  | .groups => "Group"
  | .groupMembers => "GroupMember"
  | .groupAuthorities => "GroupAuthority"

def columns : Table → List Column
  | .users =>
    [{ name := "username", type := .varchar 50, primaryKey := true },
      { name := "password", type := .varchar 500 },
      { name := "enabled", type := .boolean }]
  | .authorities =>
    [{ name := "username", type := .varchar 50, primaryKey := true,
       references := ["users.username"] },
      { name := "authority", type := .varchar 50, primaryKey := true }]
  | .groups =>
    [{ name := "id", type := .integer, primaryKey := true },
      { name := "group_name", type := .varchar 50, unique := true }]
  | .groupMembers =>
    [{ name := "id", type := .integer, primaryKey := true },
      { name := "username", type := .varchar 50 },
      { name := "group_id", type := .integer, references := ["groups.id"] }]
  | .groupAuthorities =>
    [{ name := "group_id", type := .integer, primaryKey := true, references := ["groups.id"] },
      { name := "authority", type := .varchar 50, primaryKey := true }]

def indexes : Table → List Index
  | .groupMembers =>
    [⟨"ix_group_members_group_username", ["group_id", "username"], false⟩,
      ⟨"ix_group_members_username", ["username"], false⟩]
  | _ => []

def named? (name : String) : Option Table := all.find? (·.name == name)

/-- The table of a name, or the fault of asking for one that is not declared. -/
def lookUp (name : String) : Except Fault Table :=
  match named? name with
  | some t => .ok t
  | none => .error (.unknownTable name)

/-! ## What the store enforces -/

def primaryKey (t : Table) : List Nat :=
  (List.range t.columns.length).filter fun i => (t.columns[i]?.map (·.primaryKey)).getD false

/-- The positions that tell rows apart: the primary key, and each unique column. -/
def keys (t : Table) : List (List Nat) :=
  t.primaryKey ::
    ((List.range t.columns.length).filter fun i =>
      (t.columns[i]?.map (·.unique)).getD false).map ([·])

/-- Whether the rows of a table are numbered by their key. -/
def isNumbered (t : Table) : Bool :=
  match t.primaryKey with
  | [i] => (t.columns[i]?.map (·.type)) == some .integer
  | _ => false

end Table
end Entitlement
