import Entitlement.Distinct
import Entitlement.Lookup.Hook
import Entitlement.Lookup.Plan

/-!
# `Entitlement.Lookup.Aggregate` — the authorities of a user, from every source

The direct authorities are asked first and the group authorities second, each only if its source is
switched on.  What each of them answers is merged into what was found before, so an authority
stands where it was first found (`merge_merge`).  The hook then edits the list, and only after it
is an empty list a failure: a hook may grant something to a user to whom the store grants nothing.
-/
namespace Entitlement.Lookup

def load {α : Type} (read : Row → Except Fault α) (sql username : String) : Plan (List α) :=
  .ask ⟨sql, [.text username]⟩ fun answer => .done (answer.bind (readRows read))

/-- How users are read, when something further is given beside the store and the query: a reader of
users takes nothing further. -/
def userReader : List Value → Except Fault (Row → Except Fault UserRecord)
  | [] => .ok readUser
  | further => .error (.surplusArguments "UserRecordLoader.__init__" 3 (3 + further.length))

/-- Where authorities come from and what is done with them. -/
structure Grants where
  authoritiesQuery : String
  groupAuthoritiesQuery : String
  rolePrefix : Value
  enableAuthorities : Value
  enableGroups : Value
  hook : Option Hook

def Grants.query (grants : Grants) : Source → String
  | .direct => grants.authoritiesQuery
  | .group => grants.groupAuthoritiesQuery

def Grants.enabled (grants : Grants) : Source → Bool
  | .direct => grants.enableAuthorities.truthy
  | .group => grants.enableGroups.truthy

/-- The authorities of one source; none when it is switched off. -/
def Grants.loadSource (grants : Grants) (source : Source) (username : String) :
    Plan (List Authority) :=
  if grants.enabled source then
    load (readAuthority source grants.rolePrefix) (grants.query source) username
  else .done (.ok [])

/-- The list a hook leaves of the authorities found.  The hook is called once, and what its call
gives back is waited for if it can be. -/
def extend (hook : Option Hook) (username : String) (found : List Authority) :
    Plan (List Authority) :=
  match hook with
  | some h => .tell (.hookCalled username found) (.done (h.outcome username found))
  | none => .done (.ok found)

/-- The authorities of a username, without repetitions but for those of the hook. -/
def aggregate (grants : Grants) (username : String) : Plan (List Authority) :=
  (grants.loadSource .direct username).andThen fun
    | .error e => .done (.error e)
    | .ok direct =>
      (grants.loadSource .group username).andThen fun
        | .error e => .done (.error e)
        | .ok group =>
          (extend grants.hook username (merge (merge [] direct) group)).andThen fun
            | .error e => .done (.error e)
            | .ok [] => .done (.error (.failure .noAuthority username))
            | .ok (authority :: rest) => .done (.ok (authority :: rest))

end Entitlement.Lookup
