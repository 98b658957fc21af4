import Entitlement.Proofs.Lookup.Grants
import Entitlement.Proofs.Store.Integrity

/-!
# `Entitlement.Proofs.Lookup.Isolation` — what cannot change the lookup of a username

A row that is put into the tables concerns few usernames.  For all others every lookup with the
default queries comes to the same as before, whether that was a principal or a failure, and it does
so by the same acts.

| | |
| :-- | :-- |
| the rows that concern a username | `Tables.Linked`, one case for each table |
| a step that puts in no such row | `Step.Spares`; `Spare` for steps one after the other |
| one record, one step, a run | `run_resolve_put`, `run_resolve_spares`, `run_resolve_spare` |
| the statement | `resolve_isolated`, for every store that any steps lead to |

The argument has two halves.  A record that is not linked meets the condition of no default query in
any combination, so the answers are the same, row by row.  And a lookup asks nothing but the default
queries about the username it was given, since a row of the users that answers has that username.

Nothing is assumed of what is given to the tables.  A group id may be a text or a blob; it links to
nobody then, because the number of a group is an integer.  A membership may precede its group: the
group, when it comes, is linked to the member.
-/
namespace Entitlement

namespace Store

open Select Lookup

/-! ## Rows that concern a username -/

/-- A cell that stands for an integer, as the store compares them. -/
def Cell.StandsFor (c : Cell) (n : Int) : Prop := Cell.compare (.int n) c = .eq

@[simp] theorem Cell.standsFor_int {m n : Int} : (Cell.int m).StandsFor n ↔ n = m :=
  Int.compare_eq_eq

def Bears (t : Table) (u : String) (record : Record) : Prop :=
  field t "username" record = some (.text u)

def Refers (t : Table) (name : String) (n : Int) (record : Record) : Prop :=
  ∃ cell, field t name record = some cell ∧ cell.StandsFor n

/-- A number that occurs in a membership of a username; there need not be such a group. -/
def Tables.MemberOf (tables : Tables) (u : String) (n : Int) : Prop :=
  ∃ member ∈ tables.rows .groupMembers,
    Bears .groupMembers u member ∧ Refers .groupMembers "group_id" n member

/-- A record of a table that concerns a username: it names the username, or it is about a group the
username is a member of. -/
def Tables.Linked (tables : Tables) (u : String) : Table → Record → Prop
  | .users, record => Bears .users u record
  | .authorities, record => Bears .authorities u record
  | .groupMembers, record => Bears .groupMembers u record
  | .groups, record => ∃ n, Refers .groups "id" n record ∧ tables.MemberOf u n
  | .groupAuthorities, record =>
    ∃ n, Refers .groupAuthorities "group_id" n record ∧ tables.MemberOf u n

/-! ## What meets the conditions -/

theorem Tables.Sound.cell {tables : Tables} (h : tables.Sound) {t : Table} {record : Record}
    (hrecord : record ∈ tables.rows t) {i : Nat} {column : Column}
    (hcolumn : t.columns[i]? = some column) :
    ∃ cell, record[i]? = some cell ∧ cell.withAffinity column.type.affinity = cell := by
  obtain ⟨hi, rfl⟩ := List.getElem?_eq_some_iff.mp hcolumn
  have hi' : i < record.length := (h.whole t record hrecord).length ▸ hi
  refine ⟨record[i], List.getElem?_eq_getElem hi', ?_⟩
  refine h.kept t record hrecord (t.columns[i], record[i]) (List.mem_iff_getElem.mpr ⟨i, ?_, ?_⟩)
  · rw [List.length_zip]
    exact Nat.lt_min.mpr ⟨hi, hi'⟩
  · rw [List.getElem_zip]

theorem Tables.Sound.text_of_equal {tables : Tables} (h : tables.Sound) {t : Table}
    {record : Record} (hrecord : record ∈ tables.rows t) {i : Nat} {column : Column}
    (hcolumn : t.columns[i]? = some column) (htext : column.type.affinity = .text) {u : String}
    (hequal : (compareAs (· == .eq) .text ((record[i]?).getD .null) (.text u)).isTrue = true) :
    record[i]? = some (.text u) := by
  obtain ⟨cell, hcell, hkept⟩ := h.cell hrecord hcolumn
  rw [htext] at hkept
  rw [hcell] at hequal ⊢
  have hcompare := compare_of_compareAs hequal
  rw [Option.getD_some, hkept] at hcompare
  exact congrArg some (eq_text_of_compare hcompare)

theorem Tables.Sound.standsFor_of_equal {tables : Tables} (h : tables.Sound) {t : Table}
    {record : Record} (hrecord : record ∈ tables.rows t) {i : Nat} {column : Column}
    (hcolumn : t.columns[i]? = some column) (hnumeric : column.type.affinity = .numeric) {n : Int}
    (hequal : (compareAs (· == .eq) .numeric (.int n) ((record[i]?).getD .null)).isTrue = true) :
    ∃ cell, record[i]? = some cell ∧ cell.StandsFor n := by
  obtain ⟨cell, hcell, hkept⟩ := h.cell hrecord hcolumn
  rw [hnumeric] at hkept
  refine ⟨cell, hcell, ?_⟩
  have hcompare := compare_of_compareAs hequal
  rw [hcell, Option.getD_some, hkept] at hcompare
  exact hcompare

section Conditions

variable {tables : Tables} {u : String}

theorem Tables.Sound.bears_of_users (h : tables.Sound) {record : Record}
    (hrecord : record ∈ tables.rows .users)
    (hmeets : meets [.text u] usersSelection.filter [record] = true) : Bears .users u record :=
  h.text_of_equal (t := .users) (i := 0) hrecord rfl rfl hmeets

theorem Tables.Sound.bears_of_authorities (h : tables.Sound) {record : Record}
    (hrecord : record ∈ tables.rows .authorities)
    (hmeets : meets [.text u] authoritiesSelection.filter [record] = true) :
    Bears .authorities u record :=
  h.text_of_equal (t := .authorities) (i := 0) hrecord rfl rfl hmeets

theorem Tables.Sound.refers_of_groups (h : tables.Sound) {group member authority : Record}
    (hgroup : group ∈ tables.rows .groups) (hmember : member ∈ tables.rows .groupMembers)
    (hauthority : authority ∈ tables.rows .groupAuthorities)
    (hmeets : meets [.text u] groupAuthoritiesSelection.filter [group, member, authority] = true) :
    Bears .groupMembers u member ∧ ∃ n, Refers .groups "id" n group ∧
      Refers .groupMembers "group_id" n member ∧
      Refers .groupAuthorities "group_id" n authority := by
  obtain ⟨n, rest, rfl⟩ := h.numbered .groups rfl group hgroup
  have hparts : (both
      (both (compareAs (· == .eq) .text ((member[1]?).getD .null) (.text u))
        (compareAs (· == .eq) .numeric (.int n) ((authority[0]?).getD .null)))
      (compareAs (· == .eq) .numeric (.int n) ((member[2]?).getD .null))).isTrue = true := hmeets
  obtain ⟨hfirst, hsecond⟩ := isTrue_of_both hparts
  obtain ⟨hname, hgrant⟩ := isTrue_of_both hfirst
  refine ⟨h.text_of_equal (t := .groupMembers) hmember rfl rfl hname, n, ?_, ?_, ?_⟩
  · exact ⟨.int n, rfl, Cell.standsFor_int.mpr rfl⟩
  · exact h.standsFor_of_equal (t := .groupMembers) hmember rfl rfl hsecond
  · exact h.standsFor_of_equal (t := .groupAuthorities) hauthority rfl rfl hgrant

end Conditions

/-! ## One record more -/

section Answers

variable {tables : Tables} {t : Table} {record : Record} {u : String}

/-- A selection from one table, whose answers concern the username, does not see a record that does
not. -/
theorem rows_put_of_single {selection : Selection} {args : List Cell} {s : Table}
    (hsources : selection.sources = [s])
    (hlinked : ∀ row ∈ (tables.put t (tables.rows t ++ [record])).rows s,
      meets args selection.filter [row] = true → tables.Linked u s row)
    (hnot : ¬tables.Linked u t record) :
    selection.rows (tables.put t (tables.rows t ++ [record])) args =
      selection.rows tables args := by
  refine rows_put_of_unmet ?_
  rw [hsources]
  intro combination hcombination hmem
  cases hcombination with
  | cons hrow hrest =>
      cases hrest
      obtain ⟨rfl, rfl⟩ := Prod.mk.inj (List.mem_singleton.mp hmem)
      refine Bool.eq_false_iff.mpr ?_
      intro hmeets
      exact hnot (hlinked _ hrow hmeets)

theorem rows_users_put (hsound : (tables.put t (tables.rows t ++ [record])).Sound)
    (hnot : ¬tables.Linked u t record) :
    usersSelection.rows (tables.put t (tables.rows t ++ [record])) [.text u] =
      usersSelection.rows tables [.text u] :=
  rows_put_of_single rfl (fun _ hrow hmeets => hsound.bears_of_users hrow hmeets) hnot

theorem rows_authorities_put (hsound : (tables.put t (tables.rows t ++ [record])).Sound)
    (hnot : ¬tables.Linked u t record) :
    authoritiesSelection.rows (tables.put t (tables.rows t ++ [record])) [.text u] =
      authoritiesSelection.rows tables [.text u] :=
  rows_put_of_single rfl (fun _ hrow hmeets => hsound.bears_of_authorities hrow hmeets) hnot

/-- The group query has three sources.  As a group and as a grant the record would have to meet a
membership that was there before, and as a membership it would have to be one of the username. -/
theorem rows_groupAuthorities_put (hsound : (tables.put t (tables.rows t ++ [record])).Sound)
    (hnot : ¬tables.Linked u t record) :
    groupAuthoritiesSelection.rows (tables.put t (tables.rows t ++ [record])) [.text u] =
      groupAuthoritiesSelection.rows tables [.text u] := by
  refine rows_put_of_unmet ?_
  intro combination hcombination hmem
  cases hcombination with
  | @cons _ group _ _ hgroup hcombination =>
      cases hcombination with
      | @cons _ member _ _ hmember hcombination =>
          cases hcombination with
          | @cons _ authority _ _ hauthority hcombination =>
              cases hcombination
              refine Bool.eq_false_iff.mpr ?_
              intro hmeets
              refine hnot ?_
              obtain ⟨hbears, n, hid, hin, hto⟩ :=
                hsound.refers_of_groups hgroup hmember hauthority hmeets
              have hmem' : (t, record) ∈ [(Table.groups, group), (.groupMembers, member),
                (.groupAuthorities, authority)] := hmem
              simp only [List.mem_cons, Prod.mk.injEq, List.not_mem_nil, or_false] at hmem'
              rw [Tables.rows_put] at hmember
              rcases hmem' with ⟨rfl, rfl⟩ | ⟨rfl, rfl⟩ | ⟨rfl, rfl⟩
              · exact ⟨n, hid, member, hmember, hbears, hin⟩
              · exact hbears
              · exact ⟨n, hto, member, hmember, hbears, hin⟩

theorem executor_eq_of_rows {sql text : String} {before name behind : List Char}
    {query : Select.Query} {selection : Selection} {tables' : Tables}
    (hasking : Query.Asking sql before name behind) (htext : Query.statement sql = text)
    (h : Understanding text query selection)
    (hrows : selection.rows tables' [.text u] = selection.rows tables [.text u]) :
    Database.executor (some tables') (lookingUp sql u) =
      Database.executor (some tables) (lookingUp sql u) := by
  rw [executor_of_understanding hasking htext h, executor_of_understanding hasking htext h, hrows]

theorem answer_users_put (hsound : (tables.put t (tables.rows t ++ [record])).Sound)
    (hnot : ¬tables.Linked u t record) :
    Database.executor (some (tables.put t (tables.rows t ++ [record])))
        (lookingUp Query.defaultUsers u) =
      Database.executor (some tables) (lookingUp Query.defaultUsers u) :=
  executor_eq_of_rows asking_defaultUsers statement_defaultUsers understanding_users
    (rows_users_put hsound hnot)

theorem answer_source_put (hsound : (tables.put t (tables.rows t ++ [record])).Sound)
    (hnot : ¬tables.Linked u t record) (source : Source) :
    Database.executor (some (tables.put t (tables.rows t ++ [record])))
        (lookingUp (defaultQuery source) u) =
      Database.executor (some tables) (lookingUp (defaultQuery source) u) := by
  cases source with
  | direct =>
      exact executor_eq_of_rows asking_defaultAuthorities statement_defaultAuthorities
        understanding_authorities (rows_authorities_put hsound hnot)
  | group =>
      exact executor_eq_of_rows asking_defaultGroupAuthorities statement_defaultGroupAuthorities
        understanding_groupAuthorities (rows_groupAuthorities_put hsound hnot)

end Answers

end Store

/-! ## Lookups of one username -/

namespace Lookup

open Store (Tables Database Session Step defaultQuery)

/-- The default queries; the prefix and the switches are anything. -/
structure Config.AsksDefaults (config : Config) : Prop where
  users : config.usersQuery = Query.defaultUsers
  authorities : config.authoritiesQuery = Query.defaultAuthorities
  groupAuthorities : config.groupAuthoritiesQuery = Query.defaultGroupAuthorities

theorem Config.AsksDefaults.query {config : Config} (h : config.AsksDefaults) (hook : Option Hook)
    (source : Source) : (config.grants hook).query source = defaultQuery source := by
  cases source with
  | direct => exact h.authorities
  | group => exact h.groupAuthorities

theorem username_of_usersFound {config : Config} (hconfig : config.AsksDefaults) {tables : Tables}
    (hsound : tables.Sound) {u : String} {records : List UserRecord}
    (h : config.usersFound (Database.executor (some tables)) u = .ok records) :
    ∀ record ∈ records, record.username = u := by
  intro record hrecord
  unfold Config.usersFound recordsFrom at h
  rw [hconfig.users, Store.executor_of_understanding Store.asking_defaultUsers
    Store.statement_defaultUsers Store.understanding_users] at h
  obtain ⟨row, hrow, hread⟩ := (records_of_readRows h).2 record hrecord
  obtain ⟨cells, hcells, rfl⟩ := List.mem_map.mp hrow
  obtain ⟨combination, hcombination, hmeets, rfl⟩ := Store.Select.mem_rows.mp hcells
  cases hcombination with
  | @cons _ user _ _ huser hrest =>
      cases hrest
      have hname : user[0]? = some (.text u) := hsound.bears_of_users huser hmeets
      obtain ⟨name, hfirst, hread⟩ := username_of_readUser hread
      have hfirst : some (((user[0]?).getD Store.Cell.null).toValue) = some name := hfirst
      rw [hname] at hfirst
      cases hfirst
      exact hread

/-- A record that does not concern a username leaves its lookup as it was, acts and all. -/
theorem run_resolve_put {config : Config} (hconfig : config.AsksDefaults) (hook : Option Hook)
    {tables : Tables} {t : Table} {record : Store.Record} {u : String} (hsound : tables.Sound)
    (hsound' : (tables.put t (tables.rows t ++ [record])).Sound)
    (hnot : ¬tables.Linked u t record) :
    (resolve config hook u).run
        (Database.executor (some (tables.put t (tables.rows t ++ [record])))) =
      (resolve config hook u).run (Database.executor (some tables)) := by
  obtain ⟨outcome, acts, h⟩ := resolution_run config hook (Database.executor (some tables)) u
  rw [h.run_eq]
  refine (h.of_found ?_ ?_).run_eq
  · unfold Config.usersFound recordsFrom
    rw [hconfig.users, Store.answer_users_put hsound' hnot]
  · intro user others husers source
    rw [username_of_usersFound hconfig hsound husers user List.mem_cons_self]
    unfold Grants.found recordsFrom
    rw [hconfig.query, Store.answer_source_put hsound' hnot]

end Lookup

/-! ## Steps and runs -/

namespace Store

/-- A step that, on the store it finds, puts in no row that concerns a username. -/
def Step.Spares (u : String) (database : Database) (step : Step) : Prop :=
  ∀ tables t record, database = some tables →
    step.onDatabase database = some (tables.put t (tables.rows t ++ [record])) →
    ¬tables.Linked u t record

def Spare (u : String) : Database → List Step → Prop
  | _, [] => True
  | database, step :: rest => step.Spares u database ∧ Spare u (step.onDatabase database) rest

theorem Tables.put_append_inj {tables : Tables} {t t' : Table} {record record' : Record}
    (h : tables.put t (tables.rows t ++ [record]) = tables.put t' (tables.rows t' ++ [record'])) :
    t = t' ∧ record = record' := by
  have hrows := congrArg (Tables.rows · t) h
  simp only [Tables.rows_put, if_true] at hrows
  split at hrows
  · rename_i heq
    subst heq
    exact ⟨rfl, List.singleton_inj.mp (List.append_cancel_left hrows)⟩
  · exact absurd (List.append_right_eq_self.mp hrows) (List.cons_ne_nil _ _)

theorem Step.spares_of_put {u : String} {step : Step} {tables : Tables} {t : Table}
    {record : Record}
    (hput : step.onDatabase (some tables) = some (tables.put t (tables.rows t ++ [record])))
    (hnot : ¬tables.Linked u t record) : step.Spares u (some tables) := by
  rintro tables' t' record' ⟨⟩ hput'
  obtain ⟨rfl, rfl⟩ := Tables.put_append_inj (Option.some.inj (hput.symm.trans hput'))
  exact hnot

end Store

namespace Lookup

open Store (Tables Database Session Step Spare)

/-- The step lemma: a step that spares a username leaves its lookup as it was. -/
theorem run_resolve_spares {config : Config} (hconfig : config.AsksDefaults) (hook : Option Hook)
    {session : Session} {tables : Tables} (hdatabase : session.database = some tables)
    (hsound : tables.Sound) {u : String} {step : Step}
    (hspares : step.Spares u session.database) :
    (resolve config hook u).run (session.step step).1.database.executor =
      (resolve config hook u).run session.database.executor := by
  rw [session.database_step, hdatabase]
  rw [hdatabase] at hspares
  rcases step.onDatabase_cases hsound with hsame | ⟨t, record, hput, hsound'⟩
  · rw [hsame]
  · rw [hput]
    exact run_resolve_put hconfig hook hsound hsound' (hspares tables t record rfl hput)

/-- The run lemma. -/
theorem run_resolve_spare {config : Config} (hconfig : config.AsksDefaults) (hook : Option Hook)
    {session : Session} {tables : Tables} (hdatabase : session.database = some tables)
    (hsound : tables.Sound) {u : String} {steps : List Step}
    (hspare : Spare u session.database steps) :
    (resolve config hook u).run (session.run steps).1.database.executor =
      (resolve config hook u).run session.database.executor := by
  induction steps generalizing session tables with
  | nil => rfl
  | cons step rest ih =>
      obtain ⟨hstep, hrest⟩ := hspare
      rw [← session.database_step] at hrest
      obtain ⟨middle, hmiddle, hsound'⟩ := Session.step_tables hdatabase hsound step
      exact (ih hmiddle hsound' hrest).trans
        (run_resolve_spares hconfig hook hdatabase hsound hstep)

/-! ### The statement -/

/-- On every store that any steps lead to from the empty tables, further steps that put in no row
that concerns a username leave its lookup as it was: the principal with its authorities, or the
failure, and the acts that led to it. -/
theorem resolve_isolated (config : Config) (hconfig : config.AsksDefaults) (hook : Option Hook)
    (u : String) (before steps : List Step)
    (hspare : Spare u ((Session.mk (some {}) config hook).run before).1.database steps) :
    (resolve config hook u).run
        ((Session.mk (some {}) config hook).run (before ++ steps)).1.database.executor =
      (resolve config hook u).run
        ((Session.mk (some {}) config hook).run before).1.database.executor := by
  obtain ⟨tables, htables, hsound⟩ :=
    @Session.run_tables ⟨some {}, config, hook⟩ {} rfl Tables.sound_empty before
  rw [Session.run_append]
  exact run_resolve_spare hconfig hook htables hsound hspare

/-- Insertions next to the staff: a user without a name, an authority without a name, a group of its
own with such an authority, and another member of the group the staff is in. -/
def guestSteps : List Step :=
  [.add .users [("username", .text ""), ("password", .text "pw")],
    .add .authorities [("username", .text "alice"), ("authority", .text "")],
    .add .groups [("id", .int 9), ("group_name", .text "guests")],
    .add .groupMembers [("username", .text "alice"), ("group_id", .int 7)],
    .add .groupAuthorities [("group_id", .int 9), ("authority", .text "")]]

def guestTables : Tables where
  users := staffTables.users ++ [[.text "", .text "pw", .int 1]]
  authorities := staffTables.authorities ++ [[.text "alice", .text ""]]
  groups := staffTables.groups ++ [[.int 9, .text "guests"]]
  groupMembers := staffTables.groupMembers ++ [[.int 3, .text "alice", .int 7]]
  groupAuthorities := staffTables.groupAuthorities ++ [[.int 9, .text ""]]

theorem not_memberOf_guests {tables : Tables}
    (h : tables.groupMembers = staffTables.groupMembers ∨
      tables.groupMembers = guestTables.groupMembers) : ¬tables.MemberOf "bob" 9 := by
  rintro ⟨member, hmember, -, cell, hcell, hstands⟩
  have hmember : member ∈ guestTables.groupMembers := by
    rcases h with h | h
    · exact List.mem_append_left _ (h ▸ hmember)
    · exact h ▸ hmember
  simp only [guestTables, staffTables, List.mem_append, List.mem_cons, List.not_mem_nil,
    or_false] at hmember
  rcases hmember with (rfl | rfl) | rfl
  all_goals
    cases hcell
    exact absurd (Store.Cell.standsFor_int.mp hstands) (by decide)

theorem guestSteps_spare : Spare "bob" (some staffTables) guestSteps := by
  refine ⟨?_, ?_, ?_, ?_, ?_, trivial⟩
  · refine @Step.spares_of_put _ _ _ .users [.text "", .text "pw", .int 1] rfl ?_
    show ¬Store.field .users "username" _ = _
    decide
  · refine @Step.spares_of_put _ _ _ .authorities [.text "alice", .text ""] rfl ?_
    show ¬Store.field .authorities "username" _ = _
    decide
  · refine @Step.spares_of_put _ _ _ .groups [.int 9, .text "guests"] rfl ?_
    rintro ⟨n, ⟨cell, hcell, hstands⟩, hmember⟩
    cases hcell
    obtain rfl := Store.Cell.standsFor_int.mp hstands
    exact not_memberOf_guests (.inl rfl) hmember
  · refine @Step.spares_of_put _ _ _ .groupMembers [.int 3, .text "alice", .int 7] rfl ?_
    show ¬Store.field .groupMembers "username" _ = _
    decide
  · refine @Step.spares_of_put _ _ _ .groupAuthorities [.int 9, .text ""] rfl ?_
    rintro ⟨n, ⟨cell, hcell, hstands⟩, hmember⟩
    cases hcell
    obtain rfl := Store.Cell.standsFor_int.mp hstands
    exact not_memberOf_guests (.inr rfl) hmember

/-- The guests are there, nameless users and authorities among them, and the lookup of the staff is
what it was. -/
theorem resolve_isolated_guests :
    staffConfig.AsksDefaults ∧ Spare "bob" (some staffTables) guestSteps ∧
      ((Session.mk (some {}) staffConfig none).run (staffSteps ++ guestSteps)).1.database =
        some guestTables ∧
      (resolve staffConfig none "bob").run (Database.executor (some guestTables)) =
        (resolve staffConfig none "bob").run (Database.executor (some staffTables)) := by
  have hconfig : staffConfig.AsksDefaults := ⟨rfl, rfl, rfl⟩
  refine ⟨hconfig, guestSteps_spare, rfl, ?_⟩
  exact resolve_isolated staffConfig hconfig none "bob" staffSteps guestSteps guestSteps_spare

end Lookup
end Entitlement
