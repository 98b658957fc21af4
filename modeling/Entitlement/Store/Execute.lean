import Entitlement.Lookup.Plan
import Entitlement.Query.Statement
import Entitlement.Store.Insert
import Entitlement.Store.Select.Reader
import Entitlement.Store.Select.Rows

/-!
# `Entitlement.Store.Execute` — answering a query from a store

A query text and its arguments are answered in stages, and an earlier stage fails first.  The number
of arguments has to be the number of distinct binds.  The statement has to be readable, its names
have to be known, and nothing may follow it.  The statement has to have as many places as there are
arguments for them; it may have fewer, because a bind inside a text literal is none to the store.
Marks that close nothing may stand in front of the statement.
Every argument has to have a cell.  Then the rows are computed, which never fails, and the texts
among the results have to be texts.

Answering reads the store and leaves it alone.
-/
namespace Entitlement.Store

open Select

/-- A statement that was understood: nothing at all, or a selection. -/
inductive Understood where
  | nothing
  | selection (s : Selection)
deriving DecidableEq

def placeCount (ls : List Lexeme) : Nat := ls.foldl (fun n l => max n l.number) 0

/-- The statement of a text, `exist` telling whether there are any tables; nothing may follow the
mark that closes it. -/
def understand (exist : Bool) (text : Cutting) : Except Fault Understood :=
  if text.first.isEmpty then .ok .nothing
  else
    match readQuery (if text.leading then 1 else 0) text.first with
    | .error fault => .error fault
    | .ok (query, after) =>
      if after.isEmpty || startsMark ";" after then
        match query.select exist with
        | .error fault => .error fault
        | .ok s => if isIdleTail text.tail then .ok (.selection s) else .error .manyStatements
      else .error (refuse after)

/-- The rows of a statement for the arguments at its places. -/
def runStatement (database : Database) (text : String) (args : List Value) :
    Except Fault (List Record) :=
  if text.toList.contains '\x00' then .error .nullCharacter
  else
    let cutting := cutFirst text
    match understand database.isSome cutting with
    | .error fault => .error fault
    | .ok understood =>
      let places := placeCount cutting.first
      if places ≠ args.length then .error (.placeCount places args.length)
      else
        match cellsFrom 1 args with
        | .error fault => .error fault
        | .ok cells =>
          match understood with
          | .nothing => .error .noRows
          | .selection s =>
            let records := s.rows (database.getD {}) cells
            match s.fault? records with
            | some fault => .error fault
            | none => .ok records

/-- The rows of a query text, its arguments given for its distinct binds in order. -/
def execute (database : Database) (sql : String) (args : List Value) :
    Except Entitlement.Fault (List (List Value)) :=
  let declared := (Query.bindNames sql).length
  if declared ≠ args.length then .error (.argumentCount declared args.length)
  else
    let placed := (Query.atPlaces sql args).map (·.getD .null)
    match runStatement database (Query.statement sql) placed with
    | .error fault => .error (.statement fault)
    | .ok records => .ok (records.map fun record => record.map Cell.toValue)

/-- The store as something that answers queries. -/
def Database.executor (database : Database) : Lookup.Executor := fun question =>
  execute database question.sql question.args

end Entitlement.Store
