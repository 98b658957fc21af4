import Entitlement.Http.Route
import Entitlement.Principal

/-!
# `Entitlement.Http.Response` — how outcomes are answered

A principal is answered with six fields: its name, its flags and its authorities, in its order and
with its repetitions.  The password is not among them.  That there is no such user and that a user
is granted nothing are answers of their own, each with the text of its failure.  Every other failure
is nobody's answer: the caller is told that the server failed, and the failure is raised again for
whoever runs the server.
-/
namespace Entitlement.Http

/-- What a response says. -/
inductive Body where
  | json (v : Value)
  | text (s : String)

/-- A response, and the failure that is raised again after it. -/
structure Response where
  status : Nat
  body : Body
  location : Option String := none
  allow : Option String := none
  raised : Option Fault := none

def principalFields (p : Principal) : List (String × Value) :=
  [("username", .text p.username),
    ("enabled", .bool p.enabled),
    ("account_non_expired", .bool p.accountNonExpired),
    ("account_non_locked", .bool p.accountNonLocked),
    ("credentials_non_expired", .bool p.credentialsNonExpired),
    ("authorities", .list (p.names.map .text))]

/-- A body that says one thing. -/
def saying (name text : String) : Body := .json (.object [(name, .text text)])

namespace Response

def probe (status : String) : Response := { status := 200, body := saying "status" status }

def notFound : Response := { status := 404, body := saying "detail" "Not Found" }

def methodNotAllowed : Response :=
  { status := 405, body := saying "detail" "Method Not Allowed", allow := some "GET" }

/-- The answer of a page of documentation; what it says is not described here. -/
def documentation : Response := { status := 200, body := .text "" }

/-- The answer that the path without slashes at its end is meant. -/
def redirect (base path : String) : Response :=
  { status := 307, body := .text "", location := some (Http.location base path) }

def ofLookup : Except Fault Principal → Response
  | .ok p => { status := 200, body := .json (.object (principalFields p)) }
  | .error (.lookup failure) =>
    match failure.kind with
    | .userNotFound => { status := 404, body := saying "detail" failure.text }
    | .noAuthority => { status := 403, body := saying "detail" failure.text }
    | .lookupFailed =>
      { status := 500, body := .text "Internal Server Error", raised := some (.lookup failure) }
  | .error fault =>
    { status := 500, body := .text "Internal Server Error", raised := some fault }

end Response
end Entitlement.Http
