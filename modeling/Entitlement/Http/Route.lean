import Entitlement.Text.Quoted

/-!
# `Entitlement.Http.Route` — which request goes where

There are three routes, and all of them are read with `GET`: two fixed paths and a path that ends in
a username.  A username is anything but empty and holds no slash.  A fixed path is also matched with
one line feed behind it.  Besides there are the fixed paths of the documentation, whose pages are
made elsewhere and are not described here.

A path that matches a route under another method is answered that the method is not allowed; methods
are told apart by case.  A path that matches none, but matches one when the slashes at its end are
taken away, is redirected there, whatever the method; its address is written with everything escaped
that may not stand in one or would end the path in it.  Every other path is not found.
-/
namespace Entitlement.Http

/-- What is found under a path. -/
inductive Route where
  | health
  | readiness
  | principal (username : String)
  | documentation
deriving DecidableEq, Repr

/-- What a request leads to. -/
inductive Destination where
  | route (r : Route)
  | methodNotAllowed
  | redirect (path : String)
  | notFound
deriving DecidableEq, Repr

/-- Whether a path is a fixed path, possibly with a line feed behind it. -/
def isFixed (fixed path : List Char) : Bool := path == fixed || path == fixed ++ ['\n']

/-- What stands in front of the username. -/
def principalPath : List Char := "/v1/principals/".toList

def documentationPaths : List String :=
  ["/openapi.json", "/docs", "/docs/oauth2-redirect", "/redoc"]

def Route.ofPath? (path : List Char) : Option Route :=
  if isFixed "/healthz".toList path then some .health
  else if isFixed "/readyz".toList path then some .readiness
  else if principalPath.isPrefixOf path then
    let username := path.drop principalPath.length
    if username.isEmpty || username.contains '/' then none
    else some (.principal (String.ofList username))
  else if documentationPaths.any fun fixed => isFixed fixed.toList path then some .documentation
  else none

def withoutSlashes (path : List Char) : List Char :=
  (path.reverse.dropWhile (· == '/')).reverse

def destination (method path : String) : Destination :=
  let cs := path.toList
  match Route.ofPath? cs with
  | some r => if method = "GET" then .route r else .methodNotAllowed
  | none =>
    if path ≠ "/" ∧ cs.getLast? = some '/' ∧ (Route.ofPath? (withoutSlashes cs)).isSome then
      .redirect (String.ofList (withoutSlashes cs))
    else .notFound

/-! ## Addresses -/

/-- The characters that stand in an address as themselves. -/
def isAddressChar (c : Char) : Bool :=
  (c.toNat < 128 && c.isAlphanum) || "_.-~:/%#?=@[]!$&'()*+,;".toList.contains c

/-- A byte behind a percent sign, in capital digits. -/
def percentByte (b : UInt8) : List Char :=
  '%' :: (Text.hex 2 b.toNat).map Char.toUpper

/-- A text with the bytes of every character escaped that cannot stand in an address. -/
def percentEncode (s : String) : String :=
  String.ofList (s.toList.flatMap fun c =>
    if isAddressChar c then [c] else (String.singleton c).toUTF8.toList.flatMap percentByte)

/-- A path with the characters escaped that would end it in an address. -/
def closedPath (path : String) : String :=
  String.ofList (path.toList.flatMap fun c =>
    if c == '?' then "%3F".toList else if c == '#' then "%23".toList else [c])

/-- The address of a path behind the address under which the server is asked, such as
`http://localhost:8000`. -/
def location (base path : String) : String := percentEncode (base ++ closedPath path)

end Entitlement.Http
