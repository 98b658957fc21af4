import Entitlement.Schema

/-!
# `Entitlement.Store.Tables` — the rows of the five tables

A record is a list of cells in the order of the columns of its table, and a table's records are kept
in the order in which they were inserted.  A store has its tables or it has none: tables are only
ever created all together.

`rows` reads the records of a table and `put` replaces them; they are related as reading and writing
are, and everything else is said through them.
-/
namespace Entitlement.Store

/-- The cells of a row, in the order of the columns. -/
abbrev Record := List Cell

/-- The records of every table. -/
structure Tables where
  users : List Record := []
  authorities : List Record := []
  groups : List Record := []
  groupMembers : List Record := []
  groupAuthorities : List Record := []
deriving DecidableEq, Inhabited

namespace Tables

/-- The records of a table, in the order in which they were inserted. -/
def rows (tables : Tables) : Table → List Record
  | .users => tables.users
  | .authorities => tables.authorities
  | .groups => tables.groups
  | .groupMembers => tables.groupMembers
  | .groupAuthorities => tables.groupAuthorities

/-- The tables with the records of one replaced. -/
def put (tables : Tables) (t : Table) (records : List Record) : Tables :=
  match t with
  | .users => { tables with users := records }
  | .authorities => { tables with authorities := records }
  | .groups => { tables with groups := records }
  | .groupMembers => { tables with groupMembers := records }
  | .groupAuthorities => { tables with groupAuthorities := records }

@[simp] theorem rows_put (tables : Tables) (t t' : Table) (records : List Record) :
    (tables.put t records).rows t' = if t' = t then records else tables.rows t' := by
  cases t <;> cases t' <;> rfl

end Tables

/-- A store: its tables, when they were created. -/
abbrev Database := Option Tables

/-- The store with its tables; those that are there keep their records. -/
def Database.create : Database → Database
  | some tables => some tables
  | none => some {}

end Entitlement.Store
