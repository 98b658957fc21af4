import Entitlement.Log.Severity
import Entitlement.Lookup.Row

/-!
# `Entitlement.Lookup.Plan` — a lookup as the questions it asks

A lookup does not touch a store.  It is a tree: it has ended with an outcome, or it asks a query and
goes on in a way that depends on the answer, or it leaves a note and goes on.  What answers the
queries is given when the tree is run, and may be a store, a table of prepared answers, or a store
that changes between two questions.

`run` walks the tree under one answering function and returns the outcome together with the acts in
the order in which they happened.  Because a plan is data, two runs under different answers can be
compared branch by branch, which a computation that calls the store itself would not allow.

A store can be stood in for by a list of answers.  An entry answers the queries with its text and,
if it names an argument, with that one argument; the first entry that fits answers.  A query that no
entry fits has no rows.
-/
namespace Entitlement.Lookup

/-- A query text with its arguments. -/
structure Question where
  sql : String
  args : List Value
deriving Inhabited

/-- What answers a query: rows, or a failure. -/
abbrev Answer := Except Fault (List Row)

/-- Something that answers queries. -/
abbrev Executor := Question → Answer

/-- An entry for the log: what happened, how severe it is, and the fields bound to it. -/
structure LogEntry where
  event : String
  severity : Log.Severity
  fields : List (String × Value)

/-- What a lookup leaves behind besides its outcome. -/
inductive Note where
  | hookCalled (username : String) (found : List Authority)
  | logged (entry : LogEntry)

/-- One act of a run. -/
inductive Act where
  | asked (question : Question)
  | noted (note : Note)

/-- A computation that asks queries. -/
inductive Plan (α : Type) where
  | done (outcome : Except Fault α)
  | ask (question : Question) (next : Answer → Plan α)
  | tell (note : Note) (next : Plan α)

namespace Plan

/-- A plan that goes on, whatever the outcome of the first one. -/
def andThen {α β : Type} : Plan α → (Except Fault α → Plan β) → Plan β
  | .done outcome, f => f outcome
  | .ask question next, f => .ask question fun answer => andThen (next answer) f
  | .tell note next, f => .tell note (andThen next f)

/-- The outcome under an answering function, and the acts in order. -/
def run {α : Type} (executor : Executor) : Plan α → Except Fault α × List Act
  | .done outcome => (outcome, [])
  | .ask question next =>
    let (outcome, acts) := run executor (next (executor question))
    (outcome, .asked question :: acts)
  | .tell note next =>
    let (outcome, acts) := run executor next
    (outcome, .noted note :: acts)

end Plan

/-! ## Views of a run -/

def Act.question? : Act → Option Question
  | .asked question => some question
  | .noted _ => none

def Act.hookCall? : Act → Option (String × List Authority)
  | .noted (.hookCalled username found) => some (username, found)
  | _ => none

def Act.logEntry? : Act → Option LogEntry
  | .noted (.logged entry) => some entry
  | _ => none

def questions (acts : List Act) : List Question := acts.filterMap Act.question?

def hookCalls (acts : List Act) : List (String × List Authority) := acts.filterMap Act.hookCall?

def logEntries (acts : List Act) : List LogEntry := acts.filterMap Act.logEntry?

/-! ## Prepared answers -/

structure Prepared where
  sql : String
  arg : Option Value
  answer : Answer

/-- Whether an entry answers a query. -/
def Prepared.fits (entry : Prepared) (question : Question) : Bool :=
  entry.sql == question.sql &&
    match entry.arg, question.args with
    | none, _ => true
    | some v, [arg] => v.eqv arg
    | some _, _ => false

/-- The store a table of prepared answers stands in for. -/
def preparedStore (entries : List Prepared) : Executor := fun question =>
  match entries.find? (·.fits question) with
  | some entry => entry.answer
  | none => .ok []

end Entitlement.Lookup
