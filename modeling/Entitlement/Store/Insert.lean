import Entitlement.Store.Given

/-!
# `Entitlement.Store.Insert` — putting a row into a table

A row is put into a table in three stages.  What is given for a column becomes a cell.  The cell
takes the affinity of its column, and a numbered table numbers the row.  Last, the declared
constraints are tried: a cell that is missing, in the order of the columns, then a key that another
row already has, in the order of the keys.

An insertion either puts exactly one record at the end of one table or fails and leaves everything
as it was; `insert` returns the tables and not a change to them, so there is no state in between.
-/
namespace Entitlement.Store

/-! ## Constraints -/

/-- The number of a record that begins with one. -/
def recordStart? (record : Record) : Option Int :=
  match record with
  | .int n :: _ => some n
  | _ => none

/-- The number a row of a numbered table gets: one more than the greatest so far, or one. -/
def nextNumber (records : List Record) : Int :=
  match (records.filterMap recordStart?).max? with
  | some greatest => greatest + 1
  | none => 1

/-- The record with its number filled in; a number that is given has to be an integer. -/
def number (t : Table) (records : List Record) (record : Record) : Except Fault Record :=
  if t.isNumbered then
    match record with
    | .null :: rest => .ok (.int (nextNumber records) :: rest)
    | .int n :: rest => .ok (.int n :: rest)
    | _ => .error .typeMismatch
  else .ok record

/-- The first column that has to hold something and holds null. -/
def missing? (t : Table) (record : Record) : Option String :=
  ((t.columns.zip record).find? fun (column, cell) =>
    !column.nullable && cell == .null).map fun (column, _) => column.name

def cellsAt (positions : List Nat) (record : Record) : List (Option Cell) :=
  positions.map (record[·]?)

/-- Whether two records agree at some positions: no cell of the one stands in front of that of the
other.  So an integer agrees with the real of its value. -/
def agreeAt (positions : List Nat) (a b : Record) : Bool :=
  ((cellsAt positions a).zip (cellsAt positions b)).all fun
    | (some c, some d) => Cell.compare c d == .eq
    | (c, d) => c == d

/-- The first key in which a record agrees with one that is there. -/
def taken? (t : Table) (records : List Record) (record : Record) : Option (List Nat) :=
  t.keys.find? fun key => records.any fun other => agreeAt key other record

def columnNames (t : Table) (positions : List Nat) : List String :=
  positions.filterMap fun i => (t.columns[i]?).map (·.name)

/-- The tables with a record put into one of them, and the record as it is kept. -/
def insert (tables : Tables) (t : Table) (given : Record) : Except Fault (Tables × Record) :=
  let shaped :=
    List.zipWith (fun column cell => cell.withAffinity column.type.affinity) t.columns given
  match number t (tables.rows t) shaped with
  | .error fault => .error fault
  | .ok record =>
    match missing? t record with
    | some column => .error (.notNull t.name column)
    | none =>
      match taken? t (tables.rows t) record with
      | some key => .error (.notUnique t.name (columnNames t key))
      | none => .ok (tables.put t (tables.rows t ++ [record]), record)

/-- An insertion into a store: the store afterwards is the store before when it fails. -/
def insertInto (database : Database) (t : Table) (given : Except Fault Record) :
    Except Fault (Tables × Record) :=
  match database with
  | none => .error (.noSuchTable t.name)
  | some tables => given.bind (insert tables t)

/-! ## Rows by name and rows by position -/

/-- A row given by the names of its columns, put into its table: what is wrong with what is given
comes before the store is asked. -/
def insertNamed (database : Database) (t : Table) (fields : Named) :
    Except Fault (Tables × Record) :=
  match handedOver t fields with
  | .error fault => .error fault
  | .ok given => insertInto database t (cellsOfGiven 1 given)

/-- A row given by its values in order, put into its table as they are. -/
def insertValues (database : Database) (t : Table) (row : List Value) :
    Except Fault (Tables × Record) :=
  match placedValues row with
  | .error fault => .error fault
  | .ok values => insertInto database t (cellsFrom 1 values)

/-- The number of a row put in by name, if its table is numbered: as it was given, or else as the
table assigned it. -/
def shownNumber (t : Table) (fields : Named) (record : Record) : Option Value :=
  if t.isNumbered then
    match fields.lookup "id" with
    | none | some .null => (recordStart? record).map .int
    | some v => some v
  else none

end Entitlement.Store
