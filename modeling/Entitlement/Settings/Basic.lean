import Entitlement.Lookup.Config
import Entitlement.Principal
import Entitlement.Settings.Reader

/-!
# `Entitlement.Settings.Basic` — the settings of the service and their text form

The settings are a record with a default for every field.  `Name` lists the fields in their order;
reports about rejected values and the text form both follow it.  The text form shows every field but
the address of the database, which may hold credentials.

Only the types of the fields are checked here.  Whether the lookup fields make a lookup is a
question about all of them together, and `Settings.config` answers it.
-/
namespace Entitlement

/-- The settings of the service. -/
structure Settings where
  stage : Settings.Stage := .dev
  serviceName : String := "principal-resolver"
  logLevel : String := "INFO"
  apiHost : String := "0.0.0.0"
  apiPort : Int := 8080
  databaseUrl : String := "sqlite+aiosqlite:///./principals.db"
  usersQuery : String := Query.defaultUsers
  authoritiesQuery : String := Query.defaultAuthorities
  groupAuthoritiesQuery : String := Query.defaultGroupAuthorities
  rolePrefix : String := ""
  usernameBasedPrimaryKey : Bool := true
  enableAuthorities : Bool := true
  enableGroups : Bool := false
deriving DecidableEq

namespace Settings

/-- The fields in their order. -/
inductive Name where
  | stage
  | serviceName
  | logLevel
  | apiHost
  | apiPort
  | databaseUrl
  | usersQuery
  | authoritiesQuery
  | groupAuthoritiesQuery
  | rolePrefix
  | usernameBasedPrimaryKey
  | enableAuthorities
  | enableGroups
deriving DecidableEq, Repr

/-- The name under which a field is given. -/
def Name.key : Name → String
  | .stage => "env"
  | .serviceName => "service_name"
  | .logLevel => "log_level"
  | .apiHost => "api_host"
  | .apiPort => "api_port"
  | .databaseUrl => "database_url"
  | .usersQuery => "users_by_username_query"
  | .authoritiesQuery => "authorities_by_username_query"
  | .groupAuthoritiesQuery => "group_authorities_by_username_query"
  | .rolePrefix => "role_prefix"
  | .usernameBasedPrimaryKey => "username_based_primary_key"
  | .enableAuthorities => "enable_authorities"
  | .enableGroups => "enable_groups"

def Name.all : List Name :=
  [.stage, .serviceName, .logLevel, .apiHost, .apiPort, .databaseUrl, .usersQuery,
    .authoritiesQuery, .groupAuthoritiesQuery, .rolePrefix, .usernameBasedPrimaryKey,
    .enableAuthorities, .enableGroups]

/-! ## Building from taken values -/

/-- A field and what is wrong with it: the value that was taken, converted, or else the default. -/
def field {α : Type} (read : Value → Except IssueKind α) (default : α) (name : Name)
    (taken : Name → Option Value) : α × List Issue :=
  match taken name with
  | none => (default, [])
  | some v =>
    match read v with
    | .ok a => (a, [])
    | .error kind => (default, [⟨name.key, kind⟩])

/-- The settings made of the values taken for their fields; each field that rejects its value is
reported, in the order of the fields, and then what else is wrong. -/
def ofTaken (taken : Name → Option Value) (further : List Issue) : Except (List Issue) Settings :=
  let d : Settings := {}
  let stage := field readStage d.stage .stage taken
  let serviceName := field readText d.serviceName .serviceName taken
  let logLevel := field readText d.logLevel .logLevel taken
  let apiHost := field readText d.apiHost .apiHost taken
  let apiPort := field readInt d.apiPort .apiPort taken
  let databaseUrl := field readText d.databaseUrl .databaseUrl taken
  let usersQuery := field readText d.usersQuery .usersQuery taken
  let authoritiesQuery := field readText d.authoritiesQuery .authoritiesQuery taken
  let groupQuery := field readText d.groupAuthoritiesQuery .groupAuthoritiesQuery taken
  let rolePrefix := field readText d.rolePrefix .rolePrefix taken
  let primaryKey := field readFlag d.usernameBasedPrimaryKey .usernameBasedPrimaryKey taken
  let authorities := field readFlag d.enableAuthorities .enableAuthorities taken
  let groups := field readFlag d.enableGroups .enableGroups taken
  let issues :=
    stage.2 ++ serviceName.2 ++ logLevel.2 ++ apiHost.2 ++ apiPort.2 ++ databaseUrl.2 ++
      usersQuery.2 ++ authoritiesQuery.2 ++ groupQuery.2 ++ rolePrefix.2 ++ primaryKey.2 ++
      authorities.2 ++ groups.2 ++ further
  match issues with
  | [] =>
    .ok ⟨stage.1, serviceName.1, logLevel.1, apiHost.1, apiPort.1, databaseUrl.1, usersQuery.1,
      authoritiesQuery.1, groupQuery.1, rolePrefix.1, primaryKey.1, authorities.1, groups.1⟩
  | issue :: rest => .error (issue :: rest)

/-! ## Views -/

def value (s : Settings) : Name → Value
  | .stage => .text s.stage.word
  | .serviceName => .text s.serviceName
  | .logLevel => .text s.logLevel
  | .apiHost => .text s.apiHost
  | .apiPort => .int s.apiPort
  | .databaseUrl => .text s.databaseUrl
  | .usersQuery => .text s.usersQuery
  | .authoritiesQuery => .text s.authoritiesQuery
  | .groupAuthoritiesQuery => .text s.groupAuthoritiesQuery
  | .rolePrefix => .text s.rolePrefix
  | .usernameBasedPrimaryKey => .bool s.usernameBasedPrimaryKey
  | .enableAuthorities => .bool s.enableAuthorities
  | .enableGroups => .bool s.enableGroups

def fields (s : Settings) : List (String × Value) :=
  Name.all.map fun name => (name.key, s.value name)

/-- The fields the text form shows: all but the address of the database. -/
def shownNames : List Name := Name.all.filter (· ≠ .databaseUrl)

def display (s : Settings) : String :=
  let shown := shownNames.map fun name => name.key ++ "=" ++ (s.value name).display
  "Settings(" ++ Value.commaSeparated shown ++ ")"

/-- The lookup configuration the settings ask for, if it is valid. -/
def config (s : Settings) : Except Fault Lookup.Config :=
  Lookup.Config.Draft.check fun
    | .usersQuery => .text s.usersQuery
    | .authoritiesQuery => .text s.authoritiesQuery
    | .groupAuthoritiesQuery => .text s.groupAuthoritiesQuery
    | .rolePrefix => .text s.rolePrefix
    | .usernameBasedPrimaryKey => .bool s.usernameBasedPrimaryKey
    | .enableAuthorities => .bool s.enableAuthorities
    | .enableGroups => .bool s.enableGroups

end Settings
end Entitlement
