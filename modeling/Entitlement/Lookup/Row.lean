import Entitlement.Principal

/-!
# `Entitlement.Lookup.Row` — from store rows to records

A row is a list of values read by position.  Reading a user row looks at the first two columns, then
at what they hold, and only then at the third; so a row that lacks its name is refused for that even
when it is too short as well.  Only null and the empty text count as a missing name: zero, false and
the empty byte sequence are names.  The password is passed on as it is stored.

A role prefix is a text.  One that is not is noticed only here, behind a name that was found good.

The rows of one answer are read in order, and the first row that is refused decides the failure.
-/
namespace Entitlement.Lookup

/-- The columns of one row of an answer. -/
abbrev Row := List Value

/-- Null and the empty text name nothing. -/
def namesNothing : Value → Bool
  | .null => true
  | .text s => s.isEmpty
  | _ => false

/-- Whether a value is missing. -/
def isNull : Value → Bool
  | .null => true
  | _ => false

/-- A user row: username, password, enabled flag. -/
def readUser (row : Row) : Except Fault UserRecord :=
  match row[0]?, row[1]? with
  | some username, some password =>
    if namesNothing username || isNull password then .error .incompleteUser
    else
      match row[2]? with
      | some flag => .ok ⟨username.toText, password, flag.flag⟩
      | none => .error .rowTooShort
  | _, _ => .error .rowTooShort

/-- The two sources of authorities. -/
inductive Source where
  | direct
  | group
deriving DecidableEq, Repr

/-- The position of the authority in a row of a source. -/
def Source.column : Source → Nat
  | .direct => 1
  | .group => 2

/-- A text put behind a role prefix. -/
def behind (rolePrefix : Value) (name : String) : Except Fault String :=
  match rolePrefix with
  | .text s => .ok (s ++ name)
  | v => .error (.notConcatenable v)

/-- An authority row: the name in the column of its source, put behind the role prefix. -/
def readAuthority (source : Source) (rolePrefix : Value) (row : Row) : Except Fault Authority :=
  match row[source.column]? with
  | some name =>
    if namesNothing name then .error (.unnamedAuthority (source.column + 1))
    else (behind rolePrefix name.toText).map Authority.mk
  | none => .error .rowTooShort

/-- All rows of an answer, or the failure of the first row that is refused. -/
def readRows {α : Type} (read : Row → Except Fault α) : List Row → Except Fault (List α)
  | [] => .ok []
  | row :: rest =>
    match read row with
    | .error e => .error e
    | .ok record =>
      match readRows read rest with
      | .error e => .error e
      | .ok records => .ok (record :: records)

end Entitlement.Lookup
