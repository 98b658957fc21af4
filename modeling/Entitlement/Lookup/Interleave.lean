import Entitlement.Lookup.Plan

/-!
# `Entitlement.Lookup.Interleave` — several lookups on one store that may change

A pool is a store together with plans that are under way.  A move either lets one plan do its next
act, on the store as it is at that moment, or changes the store.  Each query of a plan is one act,
so a plan may see a different store at every query and never half of a change.

A schedule is a list of moves.  Every interleaving of lookups with each other and with changes is a
schedule, and playing it is a fold.  When no change is among the moves, a plan that is finished
after the schedule ends as it would have ended alone; `gather` relies on that.
-/
namespace Entitlement.Lookup

/-- A plan after its next act. -/
def Plan.advance {α : Type} (executor : Executor) : Plan α → Plan α
  | .done outcome => .done outcome
  | .ask question next => next (executor question)
  | .tell _ next => next

/-- A store, and plans that are under way on it. -/
structure Pool (σ α : Type) where
  store : σ
  plans : List (Plan α)

/-- What happens next: one plan goes on, or the store changes. -/
inductive Move (σ : Type) where
  | advance (i : Nat)
  | change (f : σ → σ)

namespace Pool

variable {σ α : Type}

def move (answer : σ → Executor) (pool : Pool σ α) : Move σ → Pool σ α
  | .advance i => { pool with plans := pool.plans.modify i (·.advance (answer pool.store)) }
  | .change f => { pool with store := f pool.store }

def play (answer : σ → Executor) (pool : Pool σ α) (schedule : List (Move σ)) : Pool σ α :=
  schedule.foldl (move answer) pool

/-- The outcomes of the plans when nothing changes any more. -/
def outcomes (answer : σ → Executor) (pool : Pool σ α) : List (Except Fault α) :=
  pool.plans.map fun plan => (plan.run (answer pool.store)).1

end Pool

/-- The schedule in which each of `n` plans does one act in turn, `rounds` times over. -/
def inTurn {σ : Type} (n rounds : Nat) : List (Move σ) :=
  (List.replicate rounds ((List.range n).map Move.advance)).flatten

/-- The outcomes of plans that are started together and take turns. -/
def gather {σ α : Type} (answer : σ → Executor) (store : σ) (plans : List (Plan α)) :
    List (Except Fault α) :=
  ((Pool.mk store plans).play answer (inTurn plans.length 4)).outcomes answer

end Entitlement.Lookup
