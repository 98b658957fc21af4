import Entitlement.Text.Template

/-!
# `Entitlement.Lookup.Failure` — the failures a caller may tell apart

A lookup can fail in ways that are answers in themselves: there is no such user, or the user is
granted nothing.  A third kind stands for a failed lookup in general.  Each carries the username it
is about, a code for programs and a template for people.

`text` is the wording for people as it is written out; `render` expands a template, the kind's own
when none is given.  That the two agree, and that a failure can always be worded, rests on the
expansion never looking into the username.
-/
namespace Entitlement

inductive FailureKind where
  | lookupFailed
  | userNotFound
  | noAuthority
deriving DecidableEq, Repr

namespace FailureKind

/-- The code for programs. -/
def code : FailureKind → String
  | .lookupFailed => "lookup_failed"
  | .userNotFound => "user_not_found"
  | .noAuthority => "no_authority"

/-- What stands before and after the username in the wording for people. -/
def phrase : FailureKind → String × String
  | .lookupFailed => ("Lookup failed for user ", "")
  | .userNotFound => ("Username ", " not found")
  | .noAuthority => ("User ", " has no granted authority")

/-- The template that is used when none is given. -/
def defaultTemplate (kind : FailureKind) : String :=
  kind.phrase.1 ++ "\x7busername\x7d" ++ kind.phrase.2

end FailureKind

/-- A failed lookup of a username. -/
structure LookupFailure where
  kind : FailureKind
  username : String
deriving DecidableEq, Repr

namespace LookupFailure

def text (failure : LookupFailure) : String :=
  failure.kind.phrase.1 ++ failure.username ++ failure.kind.phrase.2

/-- A template with the username put in its fields; no template, or an empty one, is the default. -/
def render (failure : LookupFailure) (template : Option String) :
    Except Text.TemplateError String :=
  let chosen := template.getD ""
  Text.expand "username" failure.username
    (if chosen.isEmpty then failure.kind.defaultTemplate else chosen)

/-- A failure and its wording.  It is worded when it is made, by the template of its kind, so one that
could not be worded would not come about. -/
def make (kind : FailureKind) (username : String) :
    Except Text.TemplateError (LookupFailure × String) :=
  let failure : LookupFailure := ⟨kind, username⟩
  (failure.render none).map fun wording => (failure, wording)

end LookupFailure
end Entitlement
