import Entitlement.Distinct
import Entitlement.Fault

/-!
# `Entitlement.Principal` — authorities, user records and principals

An authority is a granted name.  A user record is what the store holds of one user.  A principal is
the answer of a lookup: an identifier, the stored password, the enabled flag, and the granted
authorities in the order in which they were found; repetitions that a hook adds are kept.  Expiry
and locking are not tracked, so those flags of a principal always stand on the good side.

The displayed form of a record or a principal names every field but the password.  The password is
the store's value and takes part in equality like every other field; records are equal when their
passwords mean the same, which is coarser than being the same datum (`1` and `True`).  A record
whose password is a list or an object is a member of no set.
-/
namespace Entitlement

/-- A granted name. -/
structure Authority where
  name : String
deriving DecidableEq, Repr

/-- What the store holds of one user. -/
structure UserRecord where
  username : String
  password : Value
  enabled : Bool
deriving Inhabited

/-- The answer of a lookup. -/
structure Principal where
  username : String
  password : Value
  enabled : Bool
  authorities : List Authority
deriving Inhabited

/-! ## Principals -/

namespace Principal

/-- No account is expired. -/
def accountNonExpired (_ : Principal) : Bool := true

/-- No account is locked. -/
def accountNonLocked (_ : Principal) : Bool := true

/-- No credentials are expired. -/
def credentialsNonExpired (_ : Principal) : Bool := true

/-- The granted names in the order of the principal, repetitions included. -/
def names (p : Principal) : List String := p.authorities.map (·.name)

/-- The granted names without repetitions, in code point order. -/
def authorityNames (p : Principal) : List String :=
  (distinct p.names).mergeSort (fun a b => decide (a ≤ b))

def hasAuthority (p : Principal) (name : String) : Bool := p.names.contains name

end Principal

/-! ## Displayed forms -/

def displayFlag (b : Bool) : String := (Value.bool b).display

def Authority.display (a : Authority) : String :=
  "Authority(name=" ++ Text.quoted a.name ++ ")"

/-- The password is left out. -/
def UserRecord.display (r : UserRecord) : String :=
  "UserRecord(username=" ++ Text.quoted r.username ++ ", enabled=" ++ displayFlag r.enabled ++ ")"

/-- A sequence between parentheses; one member alone is followed by a comma. -/
def displaySequence : List String → String
  | [single] => "(" ++ single ++ ",)"
  | items => "(" ++ Value.commaSeparated items ++ ")"

/-- The password is left out. -/
def Principal.display (p : Principal) : String :=
  "Principal(username=" ++ Text.quoted p.username ++ ", enabled=" ++ displayFlag p.enabled ++
    ", authorities=" ++ displaySequence (p.authorities.map Authority.display) ++ ")"

/-! ## The three kinds of record as one type -/

/-- An authority, a user record or a principal. -/
inductive Entity where
  | authority (a : Authority)
  | user (r : UserRecord)
  | principal (p : Principal)

namespace Entity

/-- Equality field by field; different kinds are never equal. -/
def eqv : Entity → Entity → Bool
  | .authority a, .authority b => a == b
  | .user r, .user s =>
    r.username == s.username && r.password.eqv s.password && r.enabled == s.enabled
  | .principal p, .principal q =>
    p.username == q.username && p.password.eqv q.password && p.enabled == q.enabled &&
      p.authorities == q.authorities
  | _, _ => false

/-- The value for which an entity cannot be a member of a set. -/
def unhashable? : Entity → Option Value
  | .authority _ => none
  | .user r => if r.password.isHashable then none else some r.password
  | .principal p => if p.password.isHashable then none else some p.password

/-- The number of members of the set of two entities. -/
def setSize (e f : Entity) : Except Fault Nat :=
  match e.unhashable?.or f.unhashable? with
  | some v => .error (.unhashable v)
  | none => .ok (if e.eqv f then 1 else 2)

/-- The form that shows the kind and the fields. -/
def display : Entity → String
  | .authority a => a.display
  | .user r => r.display
  | .principal p => p.display

/-- The text an entity stands for: an authority is its name. -/
def toText : Entity → String
  | .authority a => a.name
  | e => e.display

def fieldNames : Entity → List String
  | .authority _ => ["name"]
  | .user _ => ["username", "password", "enabled"]
  | .principal _ => ["username", "password", "enabled", "authorities"]

/-- The fault of assigning to a field, or of deleting one: no field can be changed. -/
def changeFault (e : Entity) (deleting : Bool) (field : String) : Fault :=
  if field ∈ e.fieldNames then .fixedField deleting field else .foreignField

end Entity
end Entitlement
