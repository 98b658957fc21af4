import Entitlement.Fault
import Entitlement.Query.Bind

/-!
# `Entitlement.Lookup.Config` — what a lookup asks and how it shapes the answers

A configuration holds three queries, the prefix put in front of every stored authority, the
identifier policy, and two switches for the sources of authorities.  The prefix, the policy and the
switches are kept as given, whatever their form: the last three are judged by truth, so `1` and
`True` configure the same lookup and are equal, and a prefix that is no text is noticed only when it
is to be put in front of something.

What is given for a configuration is a `Draft`, a value for every field.  A configuration is `Valid`
when some source is switched on and each query declares exactly one bind.  `Draft.check` decides
this and reports the first thing that is wrong: the switches before the queries, and the queries in
the order of the fields, a query that is no text among them.  Also a query of a source that is
switched off is checked, because a configuration derived later may switch it on.

The only ways to a configuration are `Config.make` and `Config.derive`, and both check.

The queries of a configuration that is given none are those of the default schema.  Columns are
read by position.  A users query answers username, password and enabled flag; an authorities query
has the authority in its second column, and a group query in its third.  Each declares one bind,
the username that is looked up.
-/
namespace Entitlement

/-! ## The queries of the default schema -/

namespace Query

/-- The user with a username. -/
def defaultUsers : String :=
  "SELECT username, password, enabled FROM users WHERE username = :username"

/-- The authorities granted to a username directly. -/
def defaultAuthorities : String :=
  "SELECT username, authority FROM authorities WHERE username = :username"

/-- The authorities granted to the groups a username is a member of. -/
def defaultGroupAuthorities : String :=
  "SELECT g.id, g.group_name, ga.authority " ++
  "FROM groups g, group_members gm, group_authorities ga " ++
  "WHERE gm.username = :username " ++
  "AND g.id = ga.group_id " ++
  "AND g.id = gm.group_id"

end Query

namespace Lookup

/-- What a lookup asks and how it shapes the answers. -/
structure Config where
  usersQuery : String := Query.defaultUsers
  authoritiesQuery : String := Query.defaultAuthorities
  groupAuthoritiesQuery : String := Query.defaultGroupAuthorities
  rolePrefix : Value := .text ""
  /-- Set: the principal is named as the store spells it.  Not set: as the caller does. -/
  usernameBasedPrimaryKey : Value := .bool true
  enableAuthorities : Value := .bool true
  enableGroups : Value := .bool false
deriving Inhabited

namespace Config

/-! ## Fields -/

/-- The fields in their order. -/
inductive Field where
  | usersQuery
  | authoritiesQuery
  | groupAuthoritiesQuery
  | rolePrefix
  | usernameBasedPrimaryKey
  | enableAuthorities
  | enableGroups
deriving DecidableEq, Repr

/-- The name under which a field is given. -/
def Field.key : Field → String
  | .usersQuery => "users_by_username_query"
  | .authoritiesQuery => "authorities_by_username_query"
  | .groupAuthoritiesQuery => "group_authorities_by_username_query"
  | .rolePrefix => "role_prefix"
  | .usernameBasedPrimaryKey => "username_based_primary_key"
  | .enableAuthorities => "enable_authorities"
  | .enableGroups => "enable_groups"

def Field.all : List Field :=
  [.usersQuery, .authoritiesQuery, .groupAuthoritiesQuery, .rolePrefix, .usernameBasedPrimaryKey,
    .enableAuthorities, .enableGroups]

def Field.named? (name : String) : Option Field := Field.all.find? (·.key == name)

def value (c : Config) : Field → Value
  | .usersQuery => .text c.usersQuery
  | .authoritiesQuery => .text c.authoritiesQuery
  | .groupAuthoritiesQuery => .text c.groupAuthoritiesQuery
  | .rolePrefix => c.rolePrefix
  | .usernameBasedPrimaryKey => c.usernameBasedPrimaryKey
  | .enableAuthorities => c.enableAuthorities
  | .enableGroups => c.enableGroups

def fields (c : Config) : List (String × Value) := Field.all.map fun f => (f.key, c.value f)

/-- Equality field by field. -/
def eqv (c d : Config) : Bool := Field.all.all fun f => (c.value f).eqv (d.value f)

/-! ## Validity -/

/-- Some source of authorities is switched on. -/
def hasSource (c : Config) : Bool := c.enableAuthorities.truthy || c.enableGroups.truthy

def queries (c : Config) : List (String × String) :=
  [("users_by_username_query", c.usersQuery),
    ("authorities_by_username_query", c.authoritiesQuery),
    ("group_authorities_by_username_query", c.groupAuthoritiesQuery)]

/-- Some source is switched on, and every query declares exactly one bind. -/
def Valid (c : Config) : Prop :=
  c.hasSource = true ∧ ∀ q ∈ c.queries, (Query.bindNames q.2).length = 1

instance (c : Config) : Decidable c.Valid := inferInstanceAs (Decidable (_ ∧ _))

/-! ## Drafts -/

/-- What is given for a configuration: a value of any form for every field. -/
abbrev Draft := Field → Value

/-- New values for fields, by their names. -/
abbrev Changes := List (String × Value)

/-- A query that declares exactly one bind. -/
def checkQuery (field : Field) : Value → Except Fault String
  | .text sql =>
    let found := (Query.bindNames sql).length
    if found = 1 then .ok sql else .error (.bindCount field.key found)
  | v => .error (if v.isHashable then .queryNotText v else .unhashable v)

/-- The configuration a draft describes, if it is a valid one. -/
def Draft.check (draft : Draft) : Except Fault Config :=
  if (draft .enableAuthorities).truthy || (draft .enableGroups).truthy then
    match checkQuery .usersQuery (draft .usersQuery) with
    | .error fault => .error fault
    | .ok users =>
      match checkQuery .authoritiesQuery (draft .authoritiesQuery) with
      | .error fault => .error fault
      | .ok authorities =>
        match checkQuery .groupAuthoritiesQuery (draft .groupAuthoritiesQuery) with
        | .error fault => .error fault
        | .ok groupAuthorities =>
          .ok ⟨users, authorities, groupAuthorities, draft .rolePrefix,
            draft .usernameBasedPrimaryKey, draft .enableAuthorities, draft .enableGroups⟩
  else .error .noSource

/-- The draft with one field changed.  A name that is no field is refused, and so is the one name
that stands for the configuration itself. -/
def Draft.change (draft : Draft) (name : String) (v : Value) : Except Fault Draft :=
  match Field.named? name with
  | some field => .ok fun f => if f = field then v else draft f
  | none =>
    if name = "self" then .error (.reservedField "LookupConfig.__init__" name)
    else .error (.unknownField "LookupConfig" name)

def Draft.changeAll (draft : Draft) : Changes → Except Fault Draft
  | [] => .ok draft
  | (name, v) :: rest =>
    match draft.change name v with
    | .error fault => .error fault
    | .ok changed => changeAll changed rest

/-! ## Construction and derivation -/

/-- A valid configuration that differs from the given one in the changed fields. -/
def derive (c : Config) (changes : Changes) : Except Fault Config :=
  (Draft.changeAll c.value changes).bind Draft.check

/-- A valid configuration that differs from the default one in the given fields. -/
def make (changes : Changes) : Except Fault Config := derive {} changes

end Config
end Lookup
end Entitlement
