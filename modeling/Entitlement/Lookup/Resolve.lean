import Entitlement.Lookup.Aggregate
import Entitlement.Lookup.Config

/-!
# `Entitlement.Lookup.Resolve` — from a username to a principal

The users query is asked with the username the caller gave.  No row is a failure of its own; of
several rows only the first counts, but all of them have to be readable.  The authorities are asked
with the username as the first row spells it.

A failure for want of authorities, wherever in the second half it comes from, is reported about the
username the caller gave and never about the store's spelling.  Every other failure passes through
as it is.  The principal is named by the store's spelling or by the caller's, as the configuration
says, and that choice touches nothing else.
-/
namespace Entitlement.Lookup

/-- Entry for the log: no row matched. -/
def entryUserNotFound (username : String) : LogEntry :=
  ⟨"user_not_found", .info, [("username", .text username)]⟩

/-- Entry for the log: nothing is granted. -/
def entryNoAuthority (username : String) : LogEntry :=
  ⟨"no_authority_found", .info, [("username", .text username)]⟩

/-- Entry for the log: the lookup succeeded. -/
def entryResolved (p : Principal) : LogEntry :=
  ⟨"principal_resolved", .debug,
    [("username", .text p.username), ("enabled", .bool p.enabled),
      ("authority_count", .int p.authorities.length)]⟩

/-- The part of a configuration that concerns authorities, with a hook. -/
def Config.grants (config : Config) (hook : Option Hook) : Grants :=
  ⟨config.authoritiesQuery, config.groupAuthoritiesQuery, config.rolePrefix,
    config.enableAuthorities, config.enableGroups, hook⟩

/-- The principal of a user record with its authorities, for a caller's username. -/
def Config.principal (config : Config) (username : String) (record : UserRecord)
    (authorities : List Authority) : Principal :=
  ⟨if config.usernameBasedPrimaryKey.truthy then record.username else username,
    record.password, record.enabled, authorities⟩

/-- The second half of a lookup: what the authorities of a record make of it. -/
def conclude (config : Config) (username : String) (record : UserRecord) :
    Except Fault (List Authority) → Plan Principal
  | .ok authorities =>
    let p := config.principal username record authorities
    .tell (.logged (entryResolved p)) (.done (.ok p))
  | .error (.lookup ⟨.noAuthority, _⟩) =>
    .tell (.logged (entryNoAuthority username)) (.done (.error (.failure .noAuthority username)))
  | .error e => .done (.error e)

def resolve (config : Config) (hook : Option Hook) (username : String) : Plan Principal :=
  (load readUser config.usersQuery username).andThen fun
    | .error e => .done (.error e)
    | .ok [] =>
      .tell (.logged (entryUserNotFound username))
        (.done (.error (.failure .userNotFound username)))
    | .ok (record :: _) =>
      (aggregate (config.grants hook) record.username).andThen (conclude config username record)

/-- Lookups one after the other under one answering function. -/
def resolveAll (config : Config) (hook : Option Hook) (executor : Executor)
    (usernames : List String) : List (Except Fault Principal × List Act) :=
  usernames.map fun username => (resolve config hook username).run executor

end Entitlement.Lookup
