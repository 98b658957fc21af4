import Entitlement.Proofs.Store.DefaultQueries

/-!
# `Entitlement.Proofs.Lookup.Grants` — a lookup computes the grant relation

With the default queries and no hook, what a lookup comes to is a matter of two relations on the
tables: the users rows, and what the enabled sources grant.

| | |
| :-- | :-- |
| what is granted | `Config.Granted`, over the sources that are switched on |
| what that makes of a lookup | `Verdict`, one rule for each of the five ways it can end |
| what the lookup reads | `Sees`, which lets every query read tables of its own |
| the statement | `resolve_byGrants`, for every store that plain insertions lead to |

`Verdict` is reached by `verdict_of_sees` for tables that may differ from query to query.  For one
store that stands still they are the same; for a store that grows while it is read they are not, and
the same lemma serves both.
-/
namespace Entitlement.Lookup

open Store (Tables Database Session Step Names defaultQuery)

/-- The default queries, and a text for a prefix. -/
structure Config.Default (config : Config) (pre : String) : Prop where
  users : config.usersQuery = Query.defaultUsers
  authorities : config.authoritiesQuery = Query.defaultAuthorities
  groupAuthorities : config.groupAuthoritiesQuery = Query.defaultGroupAuthorities
  rolePrefix : config.rolePrefix = .text pre

/-- What one source grants to a username, if it is switched on. -/
def Config.GrantedBy (config : Config) (tables : Source → Tables) (source : Source)
    (u a : String) : Prop :=
  (config.grants none).enabled source = true ∧ (tables source).Grants source u a

/-- What is granted to a username by the sources that are switched on. -/
def Config.Granted (config : Config) (tables : Source → Tables) (u a : String) : Prop :=
  ∃ source, config.GrantedBy tables source u a

/-- How a lookup ends, by the users rows and by what is granted. -/
inductive Verdict (users : Tables) (granted : String → Prop) (pre u : String) :
    Except Fault Principal → Prop
  | unknown :
      (∀ p flag, ¬users.HasUser u p flag) →
      Verdict users granted pre u (.error (.failure .userNotFound u))
  | nameless {p : String} {flag : Store.Cell} :
      users.HasUser u p flag → u = "" →
      Verdict users granted pre u (.error .incompleteUser)
  | unnamed {p : String} {flag : Store.Cell} (column : Nat) :
      users.HasUser u p flag → u ≠ "" → granted "" →
      Verdict users granted pre u (.error (.unnamedAuthority column))
  | unauthorised {p : String} {flag : Store.Cell} :
      users.HasUser u p flag → u ≠ "" → (∀ a, ¬granted a) →
      Verdict users granted pre u (.error (.failure .noAuthority u))
  | resolved {p : String} {flag : Store.Cell} {authorities : List Authority} :
      users.HasUser u p flag → u ≠ "" → ¬granted "" → (∃ a, granted a) → authorities.Nodup →
      (∀ authority, authority ∈ authorities ↔ ∃ a, granted a ∧ authority = ⟨pre ++ a⟩) →
      Verdict users granted pre u (.ok ⟨u, .text p, flag.toValue.flag, authorities⟩)

/-- An executor that reads the users and each source from plain tables. -/
structure Sees (executor : Executor) (users : Tables) (tables : Source → Tables) (u : String) :
    Prop where
  plainUsers : users.Plain
  plain : ∀ source, (tables source).Plain
  users : executor (lookingUp Query.defaultUsers u) =
    Database.executor (some users) (lookingUp Query.defaultUsers u)
  source : ∀ source, executor (lookingUp (defaultQuery source) u) =
    Database.executor (some (tables source)) (lookingUp (defaultQuery source) u)

section Readings

variable {config : Config} {pre u : String} {executor : Executor} {users : Tables}
  {tables : Source → Tables}

/-! ## Reading the users -/

theorem readUser_of_name {p : String} {flag : Store.Cell} (hu : u ≠ "") :
    readUser [.text u, .text p, flag.toValue] = .ok ⟨u, .text p, flag.toValue.flag⟩ := by
  have hname : namesNothing (.text u) = false := by
    show u.isEmpty = false
    exact Bool.eq_false_iff.mpr fun h => hu (String.isEmpty_iff.mp h)
  simp only [readUser, List.getElem?_cons_zero, List.getElem?_cons_succ, hname, isNull,
    Bool.or_self, Bool.false_eq_true, if_false, Value.toText]

theorem usersFound_of_sees (hconfig : config.Default pre) (h : Sees executor users tables u) :
    ((∀ p flag, ¬users.HasUser u p flag) ∧ config.usersFound executor u = .ok []) ∨
      ∃ p flag, users.HasUser u p flag ∧
        ((u = "" ∧ config.usersFound executor u = .error .incompleteUser) ∨
          u ≠ "" ∧ ∃ others,
            config.usersFound executor u = .ok (⟨u, .text p, flag.toValue.flag⟩ :: others)) := by
  obtain ⟨rows, hrows, hmem⟩ := Store.answer_users h.plainUsers u
  have hfound : config.usersFound executor u = readRows readUser rows := by
    simp only [Config.usersFound, recordsFrom, hconfig.users, h.users, hrows, Except.bind]
  cases rows with
  | nil =>
      refine .inl ⟨?_, hfound⟩
      intro p flag huser
      exact absurd ((hmem _).mpr ⟨p, flag, huser, rfl⟩) List.not_mem_nil
  | cons row rest =>
      obtain ⟨p, flag, huser, rfl⟩ := (hmem row).mp List.mem_cons_self
      refine .inr ⟨p, flag, huser, ?_⟩
      by_cases hu : u = ""
      · subst hu
        exact .inl ⟨rfl, hfound⟩
      · refine .inr ⟨hu, ?_⟩
        cases hread : readRows readUser rest with
        | ok others =>
            refine ⟨others, ?_⟩
            rw [hfound, readRows, readUser_of_name hu, hread]
        | error fault =>
            obtain ⟨before, bad, after, hrest, -, hbad⟩ := readRows_eq_error_iff.mp hread
            have hmember : bad ∈ [.text u, .text p, flag.toValue] :: rest := by
              rw [hrest]
              exact List.mem_cons_of_mem _ (List.mem_append_right _ List.mem_cons_self)
            obtain ⟨p', flag', -, rfl⟩ := (hmem bad).mp hmember
            rw [readUser_of_name hu] at hbad
            cases hbad

/-! ## Reading the authorities -/

theorem readAuthority_of_name {source : Source} {row : Row} {a : String}
    (hrow : row[source.column]? = some (.text a)) (ha : a ≠ "") :
    readAuthority source (.text pre) row = .ok ⟨pre ++ a⟩ := by
  have hname : namesNothing (.text a) = false := by
    show a.isEmpty = false
    exact Bool.eq_false_iff.mpr fun h => ha (String.isEmpty_iff.mp h)
  simp only [readAuthority, hrow, hname, Bool.false_eq_true, if_false, behind, Value.toText,
    Except.map]

theorem readAuthority_of_empty {source : Source} {row : Row}
    (hrow : row[source.column]? = some (.text "")) :
    readAuthority source (.text pre) row = .error (.unnamedAuthority (source.column + 1)) := by
  simp only [readAuthority, hrow]
  rfl

theorem readRows_of_names {source : Source} {rows : List Row} {granted : String → Prop}
    (h : Names source rows granted) :
    (granted "" ∧ readRows (readAuthority source (.text pre)) rows =
        .error (.unnamedAuthority (source.column + 1))) ∨
      ¬granted "" ∧ ∃ found, readRows (readAuthority source (.text pre)) rows = .ok found ∧
        ∀ authority, authority ∈ found ↔ ∃ a, granted a ∧ authority = ⟨pre ++ a⟩ := by
  obtain ⟨honly, hall⟩ := h
  cases hread : readRows (readAuthority source (.text pre)) rows with
  | error fault =>
      obtain ⟨before, bad, after, rfl, -, hbad⟩ := readRows_eq_error_iff.mp hread
      obtain ⟨a, ha, hcolumn⟩ := honly bad (List.mem_append_right _ List.mem_cons_self)
      by_cases hempty : a = ""
      · subst hempty
        rw [readAuthority_of_empty hcolumn] at hbad
        cases hbad
        exact .inl ⟨ha, rfl⟩
      · rw [readAuthority_of_name hcolumn hempty] at hbad
        cases hbad
  | ok found =>
      obtain ⟨hrows, hfound⟩ := records_of_readRows hread
      have hnot : ¬granted "" := by
        intro hgranted
        obtain ⟨row, hrow, hcolumn⟩ := hall "" hgranted
        obtain ⟨authority, -, hauthority⟩ := hrows row hrow
        rw [readAuthority_of_empty hcolumn] at hauthority
        cases hauthority
      have hne : ∀ a, granted a → a ≠ "" := by
        rintro a ha rfl
        exact hnot ha
      refine .inr ⟨hnot, found, rfl, ?_⟩
      intro authority
      constructor
      · intro hmem
        obtain ⟨row, hrow, hauthority⟩ := hfound authority hmem
        obtain ⟨a, ha, hcolumn⟩ := honly row hrow
        rw [readAuthority_of_name hcolumn (hne a ha)] at hauthority
        exact ⟨a, ha, (Except.ok.inj hauthority).symm⟩
      · rintro ⟨a, ha, rfl⟩
        obtain ⟨row, hrow, hcolumn⟩ := hall a ha
        obtain ⟨authority, hmem, hauthority⟩ := hrows row hrow
        rw [readAuthority_of_name hcolumn (hne a ha)] at hauthority
        cases hauthority
        exact hmem

theorem found_of_sees (hconfig : config.Default pre) (h : Sees executor users tables u)
    (source : Source) :
    (config.GrantedBy tables source u "" ∧ (config.grants none).found executor source u =
        .error (.unnamedAuthority (source.column + 1))) ∨
      ¬config.GrantedBy tables source u "" ∧ ∃ found,
        (config.grants none).found executor source u = .ok found ∧
          ∀ authority, authority ∈ found ↔
            ∃ a, config.GrantedBy tables source u a ∧ authority = ⟨pre ++ a⟩ := by
  have hquery : (config.grants none).query source = defaultQuery source := by
    cases source with
    | direct => exact hconfig.authorities
    | group => exact hconfig.groupAuthorities
  have hprefix : (config.grants none).rolePrefix = .text pre := hconfig.rolePrefix
  unfold Config.GrantedBy Grants.found
  cases henabled : (config.grants none).enabled source with
  | false =>
      refine .inr ⟨fun hgrant => Bool.false_ne_true hgrant.1, [], rfl, ?_⟩
      intro authority
      constructor
      · intro hmem
        exact absurd hmem List.not_mem_nil
      · rintro ⟨a, hgrant, -⟩
        exact absurd hgrant.1 Bool.false_ne_true
  | true =>
      obtain ⟨rows, hrows, hnames⟩ := Store.answer_source (h.plain source) source u
      have hanswer : recordsFrom executor (readAuthority source (config.grants none).rolePrefix)
          ((config.grants none).query source) u =
          readRows (readAuthority source (.text pre)) rows := by
        simp only [recordsFrom, hquery, hprefix, h.source, hrows, Except.bind]
      simp only [if_true, hanswer, true_and]
      exact readRows_of_names hnames

/-- What both sources find together, each authority once, is what is granted. -/
theorem mem_collected {direct group : List Authority}
    (hdirect : ∀ authority, authority ∈ direct ↔
      ∃ a, config.GrantedBy tables .direct u a ∧ authority = ⟨pre ++ a⟩)
    (hgroup : ∀ authority, authority ∈ group ↔
      ∃ a, config.GrantedBy tables .group u a ∧ authority = ⟨pre ++ a⟩) (authority : Authority) :
    authority ∈ distinct (direct ++ group) ↔
      ∃ a, config.Granted tables u a ∧ authority = ⟨pre ++ a⟩ := by
  rw [mem_distinct, List.mem_append, hdirect, hgroup]
  constructor
  · rintro (⟨a, ha, rfl⟩ | ⟨a, ha, rfl⟩)
    · exact ⟨a, ⟨.direct, ha⟩, rfl⟩
    · exact ⟨a, ⟨.group, ha⟩, rfl⟩
  · rintro ⟨a, ⟨source, ha⟩, rfl⟩
    cases source with
    | direct => exact .inl ⟨a, ha, rfl⟩
    | group => exact .inr ⟨a, ha, rfl⟩

theorem aggregation_of_sees (hconfig : config.Default pre) (h : Sees executor users tables u) :
    (config.Granted tables u "" ∧ ∃ column acts,
      Aggregation (config.grants none) executor u (.error (.unnamedAuthority column)) acts) ∨
    ((∀ a, ¬config.Granted tables u a) ∧ ∃ acts,
      Aggregation (config.grants none) executor u (.error (.failure .noAuthority u)) acts) ∨
    (¬config.Granted tables u "" ∧ (∃ a, config.Granted tables u a) ∧ ∃ authorities acts,
      Aggregation (config.grants none) executor u (.ok authorities) acts ∧ authorities.Nodup ∧
        ∀ authority, authority ∈ authorities ↔
          ∃ a, config.Granted tables u a ∧ authority = ⟨pre ++ a⟩) := by
  rcases found_of_sees hconfig h .direct with ⟨hgrant, hd⟩ | ⟨hnotd, direct, hd, hdirect⟩
  · exact .inl ⟨⟨.direct, hgrant⟩, _, _, .directFails hd⟩
  rcases found_of_sees hconfig h .group with ⟨hgrant, hg⟩ | ⟨hnotg, group, hg, hgroup⟩
  · exact .inl ⟨⟨.group, hgrant⟩, _, _, .groupFails hd hg⟩
  have hmem := mem_collected hdirect hgroup
  have hedited : edited (config.grants none).hook u (distinct (direct ++ group)) =
      .ok (distinct (direct ++ group)) := rfl
  by_cases hlist : distinct (direct ++ group) = []
  · rw [hlist] at hmem
    refine .inr (.inl ⟨?_, _, .nothingLeft hd hg (hedited.trans (congrArg Except.ok hlist))⟩)
    intro a ha
    exact absurd ((hmem _).mpr ⟨a, ha, rfl⟩) List.not_mem_nil
  · obtain ⟨first, hfirst⟩ := List.exists_mem_of_ne_nil _ hlist
    obtain ⟨a, ha, -⟩ := (hmem first).mp hfirst
    refine .inr (.inr ⟨?_, ⟨a, ha⟩, _, _, .granted hd hg hedited hlist, nodup_distinct _, hmem⟩)
    rintro ⟨source, hgrant⟩
    cases source with
    | direct => exact hnotd hgrant
    | group => exact hnotg hgrant

/-! ## The verdict -/

/-- Every lookup of the default queries ends as the tables it reads say. -/
theorem verdict_of_sees (hconfig : config.Default pre) (h : Sees executor users tables u) :
    Verdict users (config.Granted tables u) pre u ((resolve config none u).run executor).1 := by
  rcases usersFound_of_sees hconfig h with ⟨hnone, hfound⟩ | ⟨p, flag, huser, hcases⟩
  · have hr : Resolution config none executor u _ _ := .unknown hfound
    rw [hr.run_eq]
    exact .unknown hnone
  rcases hcases with ⟨hempty, hfound⟩ | ⟨hu, others, hfound⟩
  · have hr : Resolution config none executor u _ _ := .usersFail hfound
    rw [hr.run_eq]
    exact .nameless huser hempty
  rcases aggregation_of_sees hconfig h with ⟨hgrant, column, acts, ha⟩ | ⟨hnothing, acts, ha⟩ |
    ⟨hnot, hsome, authorities, acts, ha, hnodup, hmem⟩
  · have hother : ∀ name, Fault.unnamedAuthority column ≠ .failure .noAuthority name := by
      intro name heq
      cases heq
    have hr : Resolution config none executor u _ _ := .fails hfound ha hother
    rw [hr.run_eq]
    exact .unnamed column huser hu hgrant
  · have hr : Resolution config none executor u _ _ := .unauthorised hfound ha
    rw [hr.run_eq]
    exact .unauthorised huser hu hnothing
  · have hr : Resolution config none executor u _ _ := .resolved hfound ha
    have hprincipal : config.principal u ⟨u, .text p, flag.toValue.flag⟩ authorities =
        ⟨u, .text p, flag.toValue.flag, authorities⟩ := by
      simp only [Config.principal, ite_self]
    rw [hr.run_eq, hprincipal]
    exact .resolved huser hu hnot hsome hnodup hmem

end Readings

/-! ## The statement -/

def IsRowMapping : Fault → Prop
  | .incompleteUser => True
  | .unnamedAuthority _ => True
  | .reported .rowMapping _ => True
  | _ => False

namespace Verdict

variable {users : Tables} {granted : String → Prop} {pre u : String}
  {outcome : Except Fault Principal}

theorem unknown_iff (h : Verdict users granted pre u outcome) :
    outcome = .error (.failure .userNotFound u) ↔ ∀ p flag, ¬users.HasUser u p flag := by
  constructor
  · rintro rfl
    cases h with
    | unknown hnone => exact hnone
  · intro hnone
    cases h with
    | unknown _ => rfl
    | nameless huser => exact (hnone _ _ huser).elim
    | unnamed _ huser => exact (hnone _ _ huser).elim
    | unauthorised huser => exact (hnone _ _ huser).elim
    | resolved huser => exact (hnone _ _ huser).elim

theorem eq_incompleteUser (h : Verdict users granted pre u outcome) {p : String}
    {flag : Store.Cell} (huser : users.HasUser u p flag) (hempty : u = "") :
    outcome = .error .incompleteUser := by
  cases h with
  | unknown hnone => exact (hnone _ _ huser).elim
  | nameless => rfl
  | unnamed _ _ hu => exact (hu hempty).elim
  | unauthorised _ hu => exact (hu hempty).elim
  | resolved _ hu => exact (hu hempty).elim

theorem unnamed_iff (h : Verdict users granted pre u outcome) {p : String} {flag : Store.Cell}
    (huser : users.HasUser u p flag) (hu : u ≠ "") :
    (∃ fault, outcome = .error fault ∧ IsRowMapping fault) ↔ granted "" := by
  constructor
  · rintro ⟨fault, rfl, hrow⟩
    cases h with
    | unknown => exact hrow.elim
    | nameless _ hempty => exact (hu hempty).elim
    | unnamed _ _ _ hgrant => exact hgrant
    | unauthorised => exact hrow.elim
  · intro hgrant
    cases h with
    | unknown hnone => exact (hnone _ _ huser).elim
    | nameless _ hempty => exact (hu hempty).elim
    | unnamed => exact ⟨_, rfl, trivial⟩
    | unauthorised _ _ hnothing => exact (hnothing "" hgrant).elim
    | resolved _ _ hnot => exact (hnot hgrant).elim

theorem unauthorised_iff (h : Verdict users granted pre u outcome) {p : String}
    {flag : Store.Cell} (huser : users.HasUser u p flag) (hu : u ≠ "") :
    outcome = .error (.failure .noAuthority u) ↔ ∀ a, ¬granted a := by
  constructor
  · rintro rfl
    cases h with
    | unauthorised _ _ hnothing => exact hnothing
  · intro hnothing
    cases h with
    | unknown hnone => exact (hnone _ _ huser).elim
    | nameless _ hempty => exact (hu hempty).elim
    | unnamed _ _ _ hgrant => exact (hnothing "" hgrant).elim
    | unauthorised => rfl
    | resolved _ _ _ hsome =>
        obtain ⟨a, hgrant⟩ := hsome
        exact (hnothing a hgrant).elim

theorem eq_principal (h : Verdict users granted pre u outcome) (hplain : users.Plain) {p : String}
    {flag : Store.Cell} (huser : users.HasUser u p flag) (hu : u ≠ "") (hnot : ¬granted "")
    (hsome : ∃ a, granted a) :
    ∃ authorities, outcome = .ok ⟨u, .text p, flag.toValue.flag, authorities⟩ ∧
      authorities.Nodup ∧
      ∀ authority, authority ∈ authorities ↔ ∃ a, granted a ∧ authority = ⟨pre ++ a⟩ := by
  cases h with
  | unknown hnone => exact (hnone _ _ huser).elim
  | nameless _ hempty => exact (hu hempty).elim
  | unnamed _ _ _ hgrant => exact (hnot hgrant).elim
  | unauthorised _ _ hnothing =>
      obtain ⟨a, hgrant⟩ := hsome
      exact (hnothing a hgrant).elim
  | resolved huser' _ _ _ hnodup hmem =>
      obtain ⟨rfl, rfl⟩ := hplain.hasUser_unique huser huser'
      exact ⟨_, rfl, hnodup, hmem⟩

end Verdict

/-- What the lookup of a username comes to on some tables, in clauses. -/
structure ByGrants (config : Config) (pre : String) (tables : Tables) (u : String)
    (outcome : Except Fault Principal) : Prop where
  /-- There is no such user, exactly when no row of the users has the username. -/
  unknown : outcome = .error (.failure .userNotFound u) ↔ ∀ p flag, ¬tables.HasUser u p flag
  /-- A row of the users with the empty username is refused. -/
  nameless : ∀ p flag, tables.HasUser u p flag → u = "" → outcome = .error .incompleteUser
  /-- A row is refused exactly when the empty name is granted. -/
  unnamed : ∀ p flag, tables.HasUser u p flag → u ≠ "" →
    ((∃ fault, outcome = .error fault ∧ IsRowMapping fault) ↔
      config.Granted (fun _ => tables) u "")
  /-- There is no authority exactly when nothing is granted. -/
  unauthorised : ∀ p flag, tables.HasUser u p flag → u ≠ "" →
    (outcome = .error (.failure .noAuthority u) ↔ ∀ a, ¬config.Granted (fun _ => tables) u a)
  /-- Otherwise there is a principal, with the password and the flag of the row, and with each
  granted name once behind the prefix. -/
  resolved : ∀ p flag, tables.HasUser u p flag → u ≠ "" →
    ¬config.Granted (fun _ => tables) u "" → (∃ a, config.Granted (fun _ => tables) u a) →
    ∃ authorities, outcome = .ok ⟨u, .text p, flag.toValue.flag, authorities⟩ ∧
      authorities.Nodup ∧ ∀ authority, authority ∈ authorities ↔
        ∃ a, config.Granted (fun _ => tables) u a ∧ authority = ⟨pre ++ a⟩

theorem sees_executor {tables : Tables} (hplain : tables.Plain) (u : String) :
    Sees (Database.executor (some tables)) tables (fun _ => tables) u where
  plainUsers := hplain
  plain _ := hplain
  users := rfl
  source _ := rfl

/-- On every store that plain insertions lead to from the empty tables, a lookup with the default
queries and without a hook computes the grant relation. -/
theorem resolve_byGrants (config : Config) (pre : String) (hconfig : config.Default pre)
    (steps : List Step) (hsteps : ∀ step ∈ steps, step.Plain) (u : String) :
    ∃ tables, ((Session.mk (some {}) config none).run steps).1.database = some tables ∧
      tables.Plain ∧
      ByGrants config pre tables u
        (((Session.mk (some {}) config none).run steps).1.resolve u) := by
  obtain ⟨tables, hrun, hplain, -⟩ :=
    @Session.run_plain steps hsteps ⟨some {}, config, none⟩ {} rfl Tables.plain_empty
  refine ⟨tables, ?_, hplain, ?_⟩
  · rw [hrun]
  · rw [hrun]
    have hverdict := verdict_of_sees hconfig (sees_executor hplain u)
    exact ⟨hverdict.unknown_iff, fun _ _ huser hempty => hverdict.eq_incompleteUser huser hempty,
      fun _ _ huser hu => hverdict.unnamed_iff huser hu,
      fun _ _ huser hu => hverdict.unauthorised_iff huser hu,
      fun _ _ huser hu hnot hsome => hverdict.eq_principal hplain huser hu hnot hsome⟩

def staffConfig : Config where
  rolePrefix := .text "ROLE_"
  enableGroups := .bool true

/-- Insertions, among them a second user of the same name and a membership without a group. -/
def staffSteps : List Step :=
  [.add .users [("username", .text "bob"), ("password", .text "pw"), ("enabled", .bool false)],
    .addRow .users [.text "bob", .text "other", .int 1],
    .add .authorities [("username", .text "bob"), ("authority", .text "READER")],
    .add .groupMembers [("username", .text "bob"), ("group_id", .int 7)],
    .add .groupMembers [("username", .text "bob"), ("group_id", .int 8)],
    .add .groups [("id", .int 7), ("group_name", .text "staff")],
    .add .groupAuthorities [("group_id", .int 7), ("authority", .text "READER")],
    .add .groupAuthorities [("group_id", .int 7), ("authority", .text "WRITER")]]

def staffTables : Tables where
  users := [[.text "bob", .text "pw", .int 0]]
  authorities := [[.text "bob", .text "READER"]]
  groups := [[.int 7, .text "staff"]]
  groupMembers := [[.int 1, .text "bob", .int 7], [.int 2, .text "bob", .int 8]]
  groupAuthorities := [[.int 7, .text "READER"], [.int 7, .text "WRITER"]]

theorem staffSteps_plain : ∀ step ∈ staffSteps, step.Plain := by
  intro step hstep
  simp only [staffSteps, List.mem_cons, List.not_mem_nil, or_false] at hstep
  rcases hstep with rfl | rfl | rfl | rfl | rfl | rfl | rfl | rfl
  all_goals
    simp [Step.Plain, Table.columns, Column.Plain, Store.valueOf, List.lookup]

/-- The second of the two users is refused, the first is granted both names, the direct and the
group grant of one of them counting once. -/
theorem resolve_byGrants_staff :
    staffConfig.Default "ROLE_" ∧ (∀ step ∈ staffSteps, step.Plain) ∧
      ∃ authorities,
        ((Session.mk (some {}) staffConfig none).run staffSteps).1.resolve "bob" =
          .ok ⟨"bob", .text "pw", false, authorities⟩ ∧
        authorities.Nodup ∧ ⟨"ROLE_READER"⟩ ∈ authorities ∧ ⟨"ROLE_WRITER"⟩ ∈ authorities := by
  have hconfig : staffConfig.Default "ROLE_" := ⟨rfl, rfl, rfl, rfl⟩
  refine ⟨hconfig, staffSteps_plain, ?_⟩
  obtain ⟨tables, htables, -, hby⟩ :=
    resolve_byGrants staffConfig "ROLE_" hconfig staffSteps staffSteps_plain "bob"
  have hsame : some staffTables = some tables := htables
  cases hsame
  have hreader : staffConfig.Granted (fun _ => staffTables) "bob" "READER" :=
    ⟨.direct, rfl, List.mem_cons_self⟩
  have hwriter : staffConfig.Granted (fun _ => staffTables) "bob" "WRITER" :=
    ⟨.group, rfl, 7, "staff", 1, by decide, by decide, by decide⟩
  have hempty : ¬staffConfig.Granted (fun _ => staffTables) "bob" "" := by
    rintro ⟨source, -, hgrant⟩
    cases source with
    | direct =>
        have hmem : [Store.Cell.text "bob", .text ""] ∈ staffTables.authorities := hgrant
        exact absurd hmem (by decide)
    | group =>
        obtain ⟨g, name, id, -, -, hmem⟩ := hgrant
        simp [Tables.rows, staffTables] at hmem
  obtain ⟨authorities, heq, hnodup, hmem⟩ :=
    hby.resolved "pw" (.int 0) List.mem_cons_self (by decide) hempty ⟨_, hreader⟩
  exact ⟨authorities, heq, hnodup, (hmem _).mpr ⟨_, hreader, rfl⟩, (hmem _).mpr ⟨_, hwriter, rfl⟩⟩

end Entitlement.Lookup
