import Mathlib
import Entitlement.Proofs.Lookup.Rules
import Entitlement.Proofs.Query.OneBind
import Entitlement.Proofs.Store.Insertion
import Entitlement.Proofs.Store.Selection

/-!
# `Entitlement.Proofs.Store.DefaultQueries` — what the default queries answer

The three default queries are read into selections once and for all, and on plain tables their
answers are the rows of three relations.

| | |
| :-- | :-- |
| `Tables.HasUser u p f` | a users row: the username, the password, the cell of the flag |
| `Tables.Grants .direct u a` | an authorities row |
| `Tables.Grants .group u a` | a group, a membership in it and a grant to it, joined by the group's number |

Nothing is said of dangling rows, because nothing about them is special: a membership in a group
that is not there, or a grant to one, joins with nothing.
-/
namespace Entitlement.Store

open Select Lookup

/-! ## The relations -/

def Tables.HasUser (tables : Tables) (u p : String) (flag : Cell) : Prop :=
  [.text u, .text p, flag] ∈ tables.rows .users

/-- What a source grants to a username. -/
def Tables.Grants (tables : Tables) : Source → String → String → Prop
  | .direct, u, a => [.text u, .text a] ∈ tables.rows .authorities
  | .group, u, a => ∃ g name id, [.int g, .text name] ∈ tables.rows .groups ∧
      [.int id, .text u, .int g] ∈ tables.rows .groupMembers ∧
      [.int g, .text a] ∈ tables.rows .groupAuthorities

theorem Tables.Grows.grants {tables tables' : Tables} (h : tables.Grows tables') {source : Source}
    {u a : String} (hgrant : tables.Grants source u a) : tables'.Grants source u a := by
  cases source with
  | direct => exact h.mem hgrant
  | group =>
      obtain ⟨g, name, id, hgroup, hmember, hauthority⟩ := hgrant
      exact ⟨g, name, id, h.mem hgroup, h.mem hmember, h.mem hauthority⟩

theorem Tables.Plain.hasUser_unique {tables : Tables} (h : tables.Plain) {u p p' : String}
    {flag flag' : Cell} (huser : tables.HasUser u p flag) (huser' : tables.HasUser u p' flag') :
    p = p' ∧ flag = flag' := by
  have hkey : [0] ∈ Table.users.keys := by decide
  have hsame := List.inj_on_of_nodup_map (h.distinct .users [0] hkey) huser huser' rfl
  cases hsame
  exact ⟨rfl, rfl⟩

/-! ## The shapes of records -/

theorem shaped_users {record : Record} (h : Shaped .users record) :
    ∃ u p flag, record = [.text u, .text p, flag] := by
  cases h with
  | cons hu h =>
      cases h with
      | cons hp h =>
          cases h with
          | @cons _ flag _ _ _ h =>
              cases h
              obtain ⟨u, rfl⟩ := hu
              obtain ⟨p, rfl⟩ := hp
              exact ⟨u, p, flag, rfl⟩

theorem shaped_authorities {record : Record} (h : Shaped .authorities record) :
    ∃ u a, record = [.text u, .text a] := by
  cases h with
  | cons hu h =>
      cases h with
      | cons ha h =>
          cases h
          obtain ⟨u, rfl⟩ := hu
          obtain ⟨a, rfl⟩ := ha
          exact ⟨u, a, rfl⟩

theorem shaped_groups {record : Record} (h : Shaped .groups record) :
    ∃ g name, record = [.int g, .text name] := by
  cases h with
  | cons hg h =>
      cases h with
      | cons hname h =>
          cases h
          obtain ⟨g, rfl⟩ := hg
          obtain ⟨name, rfl⟩ := hname
          exact ⟨g, name, rfl⟩

theorem shaped_groupMembers {record : Record} (h : Shaped .groupMembers record) :
    ∃ id u g, record = [.int id, .text u, .int g] := by
  cases h with
  | cons hid h =>
      cases h with
      | cons hu h =>
          cases h with
          | cons hg h =>
              cases h
              obtain ⟨id, rfl⟩ := hid
              obtain ⟨u, rfl⟩ := hu
              obtain ⟨g, rfl⟩ := hg
              exact ⟨id, u, g, rfl⟩

theorem shaped_groupAuthorities {record : Record} (h : Shaped .groupAuthorities record) :
    ∃ g a, record = [.int g, .text a] := by
  cases h with
  | cons hg h =>
      cases h with
      | cons ha h =>
          cases h
          obtain ⟨g, rfl⟩ := hg
          obtain ⟨a, rfl⟩ := ha
          exact ⟨g, a, rfl⟩

/-! ## The statements -/

theorem asking_defaultUsers :
    Query.Asking Query.defaultUsers
      "SELECT username, password, enabled FROM users WHERE username = ".toList
      "username".toList [] where
  text := rfl
  inert_before := rfl
  free := rfl
  named := List.cons_ne_nil _ _
  word := rfl
  inert_name := rfl
  open_name := rfl
  inert_behind := rfl
  ends := by
    intro c hc
    cases hc

theorem asking_defaultAuthorities :
    Query.Asking Query.defaultAuthorities
      "SELECT username, authority FROM authorities WHERE username = ".toList
      "username".toList [] where
  text := rfl
  inert_before := rfl
  free := rfl
  named := List.cons_ne_nil _ _
  word := rfl
  inert_name := rfl
  open_name := rfl
  inert_behind := rfl
  ends := by
    intro c hc
    cases hc

theorem asking_defaultGroupAuthorities :
    Query.Asking Query.defaultGroupAuthorities
      ("SELECT g.id, g.group_name, ga.authority " ++
        "FROM groups g, group_members gm, group_authorities ga WHERE gm.username = ").toList
      "username".toList " AND g.id = ga.group_id AND g.id = gm.group_id".toList where
  text := by decide +kernel
  inert_before := rfl
  free := rfl
  named := List.cons_ne_nil _ _
  word := rfl
  inert_name := rfl
  open_name := rfl
  inert_behind := rfl
  ends := by
    intro c hc
    cases hc
    decide

theorem statement_defaultUsers :
    Query.statement Query.defaultUsers =
      "SELECT username, password, enabled FROM users WHERE username = ?" :=
  asking_defaultUsers.statement

theorem statement_defaultAuthorities :
    Query.statement Query.defaultAuthorities =
      "SELECT username, authority FROM authorities WHERE username = ?" :=
  asking_defaultAuthorities.statement

theorem statement_defaultGroupAuthorities :
    Query.statement Query.defaultGroupAuthorities =
      "SELECT g.id, g.group_name, ga.authority " ++
        "FROM groups g, group_members gm, group_authorities ga " ++
        "WHERE gm.username = ? AND g.id = ga.group_id AND g.id = gm.group_id" :=
  asking_defaultGroupAuthorities.statement.trans (by decide +kernel)

/-! ## The selections -/

def usersWritten : Select.Query where
  outputs :=
    [.expr (.name none "username" false) none "username",
      .expr (.name none "password" false) none "password",
      .expr (.name none "enabled" false) none "enabled"]
  sources := [("users", none)]
  filter := some (.binary .eq (.name none "username" false) (.place 1))
  order := []

def usersSelection : Selection where
  columns :=
    [⟨"username", .column 0 0 .text⟩, ⟨"password", .column 0 1 .text⟩,
      ⟨"enabled", .column 0 2 .numeric⟩]
  sources := [.users]
  filter := some (.binary .eq (.column 0 0 .text) (.place 1))
  order := []

theorem understanding_users :
    Understanding "SELECT username, password, enabled FROM users WHERE username = ?"
      usersWritten usersSelection where
  noNull := by cbv
  noLeading := by cbv
  noTail := by cbv
  read := by cbv
  select := rfl
  places := by cbv
  noText := by decide

def authoritiesWritten : Select.Query where
  outputs :=
    [.expr (.name none "username" false) none "username",
      .expr (.name none "authority" false) none "authority"]
  sources := [("authorities", none)]
  filter := some (.binary .eq (.name none "username" false) (.place 1))
  order := []

def authoritiesSelection : Selection where
  columns := [⟨"username", .column 0 0 .text⟩, ⟨"authority", .column 0 1 .text⟩]
  sources := [.authorities]
  filter := some (.binary .eq (.column 0 0 .text) (.place 1))
  order := []

theorem understanding_authorities :
    Understanding "SELECT username, authority FROM authorities WHERE username = ?"
      authoritiesWritten authoritiesSelection where
  noNull := by cbv
  noLeading := by cbv
  noTail := by cbv
  read := by cbv
  select := rfl
  places := by cbv
  noText := by decide

def groupAuthoritiesWritten : Select.Query where
  outputs :=
    [.expr (.name (some "g") "id" false) none "g.id",
      .expr (.name (some "g") "group_name" false) none "g.group_name",
      .expr (.name (some "ga") "authority" false) none "ga.authority"]
  sources :=
    [("groups", some "g"), ("group_members", some "gm"), ("group_authorities", some "ga")]
  filter := some (.binary .and
    (.binary .and (.binary .eq (.name (some "gm") "username" false) (.place 1))
      (.binary .eq (.name (some "g") "id" false) (.name (some "ga") "group_id" false)))
    (.binary .eq (.name (some "g") "id" false) (.name (some "gm") "group_id" false)))
  order := []

def groupAuthoritiesSelection : Selection where
  columns :=
    [⟨"g.id", .column 0 0 .numeric⟩, ⟨"g.group_name", .column 0 1 .text⟩,
      ⟨"ga.authority", .column 2 1 .text⟩]
  sources := [.groups, .groupMembers, .groupAuthorities]
  filter := some (.binary .and
    (.binary .and (.binary .eq (.column 1 1 .text) (.place 1))
      (.binary .eq (.column 0 0 .numeric) (.column 2 0 .numeric)))
    (.binary .eq (.column 0 0 .numeric) (.column 1 2 .numeric)))
  order := []

theorem understanding_groupAuthorities :
    Understanding
      ("SELECT g.id, g.group_name, ga.authority " ++
        "FROM groups g, group_members gm, group_authorities ga " ++
        "WHERE gm.username = ? AND g.id = ga.group_id AND g.id = gm.group_id")
      groupAuthoritiesWritten groupAuthoritiesSelection where
  noNull := by cbv
  noLeading := by cbv
  noTail := by cbv
  read := by cbv
  select := rfl
  places := by cbv
  noText := by decide

/-! ## The answers -/

/-- A query text with one bind is answered with the rows of the selection its statement is. -/
theorem executor_of_understanding {sql text : String} {before name behind : List Char}
    {query : Select.Query} {selection : Selection} (hasking : Query.Asking sql before name behind)
    (htext : Query.statement sql = text) (h : Understanding text query selection)
    (tables : Tables) (u : String) :
    Database.executor (some tables) (lookingUp sql u) =
      .ok ((selection.rows tables [.text u]).map fun record => record.map Cell.toValue) := by
  have hrun := h.runStatement tables u
  show execute (some tables) sql [.text u] = _
  simp only [execute, hasking.bindNames, List.length_singleton, ne_eq, not_true_eq_false, if_false,
    hasking.atPlaces, List.map_cons, List.map_nil, Option.getD_some, htext, hrun]

theorem answer_users {tables : Tables} (h : tables.Plain) (u : String) :
    ∃ rows, Database.executor (some tables) (lookingUp Query.defaultUsers u) = .ok rows ∧
      ∀ row, row ∈ rows ↔
        ∃ p flag, tables.HasUser u p flag ∧ row = [.text u, .text p, flag.toValue] := by
  have hmeets : ∀ w p flag, meets [.text u] usersSelection.filter [[.text w, .text p, flag]] =
      decide (w = u) := by
    intro w p flag
    show (compareAs (· == .eq) .text (.text w) (.text u)).isTrue = _
    rw [compareAs_text, isTrue_truth]
  refine ⟨_, executor_of_understanding asking_defaultUsers statement_defaultUsers
    understanding_users tables u, ?_⟩
  intro row
  simp only [List.mem_map, mem_rows]
  constructor
  · rintro ⟨_, ⟨combination, hcombination, hcondition, rfl⟩, rfl⟩
    cases hcombination with
    | cons hrecord hrest =>
        cases hrest
        obtain ⟨w, p, flag, rfl⟩ := shaped_users (h.shaped _ _ hrecord)
        rw [hmeets] at hcondition
        obtain rfl := of_decide_eq_true hcondition
        exact ⟨p, flag, hrecord, rfl⟩
  · rintro ⟨p, flag, huser, rfl⟩
    refine ⟨[.text u, .text p, flag], ⟨[[.text u, .text p, flag]], ?_, ?_, rfl⟩, rfl⟩
    · exact .cons huser .nil
    · rw [hmeets]
      exact decide_eq_true rfl

def defaultQuery : Source → String
  | .direct => Query.defaultAuthorities
  | .group => Query.defaultGroupAuthorities

/-- What the column of a source holds in an answer, and nothing else. -/
def Names (source : Source) (rows : List Row) (granted : String → Prop) : Prop :=
  (∀ row ∈ rows, ∃ a, granted a ∧ row[source.column]? = some (.text a)) ∧
    ∀ a, granted a → ∃ row ∈ rows, row[source.column]? = some (.text a)

theorem answer_authorities {tables : Tables} (h : tables.Plain) (u : String) :
    ∃ rows, Database.executor (some tables) (lookingUp Query.defaultAuthorities u) = .ok rows ∧
      Names .direct rows (tables.Grants .direct u) := by
  have hmeets : ∀ w a, meets [.text u] authoritiesSelection.filter [[.text w, .text a]] =
      decide (w = u) := by
    intro w a
    show (compareAs (· == .eq) .text (.text w) (.text u)).isTrue = _
    rw [compareAs_text, isTrue_truth]
  refine ⟨_, executor_of_understanding asking_defaultAuthorities statement_defaultAuthorities
    understanding_authorities tables u, ?_, ?_⟩
  · intro row hrow
    simp only [List.mem_map, mem_rows] at hrow
    obtain ⟨_, ⟨combination, hcombination, hcondition, rfl⟩, rfl⟩ := hrow
    cases hcombination with
    | cons hrecord hrest =>
        cases hrest
        obtain ⟨w, a, rfl⟩ := shaped_authorities (h.shaped _ _ hrecord)
        rw [hmeets] at hcondition
        obtain rfl := of_decide_eq_true hcondition
        exact ⟨a, hrecord, rfl⟩
  · intro a hgrant
    simp only [List.mem_map, mem_rows]
    refine ⟨_, ⟨_, ⟨[[.text u, .text a]], .cons hgrant .nil, ?_, rfl⟩, rfl⟩, rfl⟩
    rw [hmeets]
    exact decide_eq_true rfl

/-- The three-way join of the group query. -/
theorem answer_groupAuthorities {tables : Tables} (h : tables.Plain) (u : String) :
    ∃ rows, Database.executor (some tables) (lookingUp Query.defaultGroupAuthorities u) = .ok rows ∧
      Names .group rows (tables.Grants .group u) := by
  have hmeets : ∀ g name id w g' g'' a, meets [.text u] groupAuthoritiesSelection.filter
      [[.int g, .text name], [.int id, .text w, .int g'], [.int g'', .text a]] =
      decide ((w = u ∧ g = g'') ∧ g = g') := by
    intro g name id w g' g'' a
    show (both
      (both (compareAs (· == .eq) .text (.text w) (.text u))
        (compareAs (· == .eq) .numeric (.int g) (.int g'')))
      (compareAs (· == .eq) .numeric (.int g) (.int g'))).isTrue = _
    rw [compareAs_text, compareAs_int, compareAs_int, both_truth, both_truth, isTrue_truth]
  refine ⟨_, executor_of_understanding asking_defaultGroupAuthorities
    statement_defaultGroupAuthorities understanding_groupAuthorities tables u, ?_, ?_⟩
  · intro row hrow
    simp only [List.mem_map, mem_rows] at hrow
    obtain ⟨_, ⟨combination, hcombination, hcondition, rfl⟩, rfl⟩ := hrow
    cases hcombination with
    | cons hgroup hrest =>
        cases hrest with
        | cons hmember hrest =>
            cases hrest with
            | cons hauthority hrest =>
                cases hrest
                obtain ⟨g, name, rfl⟩ := shaped_groups (h.shaped _ _ hgroup)
                obtain ⟨id, w, g', rfl⟩ := shaped_groupMembers (h.shaped _ _ hmember)
                obtain ⟨g'', a, rfl⟩ := shaped_groupAuthorities (h.shaped _ _ hauthority)
                rw [hmeets] at hcondition
                obtain ⟨⟨rfl, rfl⟩, rfl⟩ := of_decide_eq_true hcondition
                exact ⟨a, ⟨g, name, id, hgroup, hmember, hauthority⟩, rfl⟩
  · rintro a ⟨g, name, id, hgroup, hmember, hauthority⟩
    simp only [List.mem_map, mem_rows]
    refine ⟨_, ⟨_, ⟨[[.int g, .text name], [.int id, .text u, .int g], [.int g, .text a]],
      .cons hgroup (.cons hmember (.cons hauthority .nil)), ?_, rfl⟩, rfl⟩, rfl⟩
    rw [hmeets]
    exact decide_eq_true ⟨⟨rfl, rfl⟩, rfl⟩

theorem answer_source {tables : Tables} (h : tables.Plain) (source : Source) (u : String) :
    ∃ rows, Database.executor (some tables) (lookingUp (defaultQuery source) u) = .ok rows ∧
      Names source rows (tables.Grants source u) := by
  cases source with
  | direct => exact answer_authorities h u
  | group => exact answer_groupAuthorities h u

end Entitlement.Store
