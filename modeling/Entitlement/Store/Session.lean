import Entitlement.Lookup.Interleave
import Entitlement.Lookup.Resolve
import Entitlement.Store.Execute

/-!
# `Entitlement.Store.Session` — a store in use

A session is a store with the configuration and the hook of the lookups made on it.  Rows are put
into it, by name or by position; lookups are made on it, one at a time or several at once; its
configuration is replaced and its tables are created; queries are put to it.

A step that fails leaves the session as it was: the session afterwards is either the one before or
the one the step leads to, and there is nothing in between.
-/
namespace Entitlement.Store

/-- A store, and how lookups are made on it. -/
structure Session where
  database : Database
  config : Lookup.Config
  hook : Option Lookup.Hook

inductive Step where
  | add (t : Table) (fields : Named)
  | addRow (t : Table) (row : List Value)
  | resolve (username : String)
  | gather (usernames : List String)
  | configure (changes : Lookup.Config.Changes)
  | create
  | execute (sql : String) (args : List Value)

inductive Answer where
  | added (number : Option Value)
  | principal (p : Principal)
  | outcomes (results : List (Except Entitlement.Fault Principal))
  | configured
  | created
  | rows (rows : List (List Value))

namespace Session

/-- The lookup of a username in a session. -/
def plan (session : Session) (username : String) : Lookup.Plan Principal :=
  Lookup.resolve session.config session.hook username

def resolve (session : Session) (username : String) : Except Entitlement.Fault Principal :=
  ((session.plan username).run session.database.executor).1

/-- The session after an insertion, and its answer, `number` being what is answered of the row. -/
def afterInsert (session : Session) (number : Record → Option Value) :
    Except Fault (Tables × Record) → Session × Except Entitlement.Fault Answer
  | .ok (tables, record) =>
    ({ session with database := some tables }, .ok (.added (number record)))
  | .error fault => (session, .error (.statement fault))

def step (session : Session) : Step → Session × Except Entitlement.Fault Answer
  | .add t fields =>
    session.afterInsert (shownNumber t fields) (insertNamed session.database t fields)
  | .addRow t row => session.afterInsert (fun _ => none) (insertValues session.database t row)
  | .resolve username => (session, (session.resolve username).map .principal)
  | .gather usernames =>
    (session, .ok (.outcomes
      (Lookup.gather Database.executor session.database (usernames.map session.plan))))
  | .configure changes =>
    match Lookup.Config.make changes with
    | .ok config => ({ session with config }, .ok .configured)
    | .error fault => (session, .error fault)
  | .create => ({ session with database := session.database.create }, .ok .created)
  | .execute sql args => (session, (Store.execute session.database sql args).map .rows)

/-- Steps one after the other: the session at the end, and the answers. -/
def run (session : Session) : List Step → Session × List (Except Entitlement.Fault Answer)
  | [] => (session, [])
  | step :: rest =>
    let (next, answer) := session.step step
    let (last, answers) := next.run rest
    (last, answer :: answers)

end Session
end Entitlement.Store
