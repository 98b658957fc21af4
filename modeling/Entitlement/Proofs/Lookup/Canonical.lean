import Entitlement.Proofs.Lookup.Attribution
import Entitlement.Proofs.Store.Folding

/-!
# `Entitlement.Proofs.Lookup.Canonical` — the name by which a user is known

With a users query that pays no regard to case, one user answers to many usernames.  When the
configuration names principals as the store does, the name of the principal is one and the same for
all of them, and looking that name up leads back to the same principal.

| | |
| :-- | :-- |
| one user | usernames that are the same in small letters: `folded u = folded v` |
| one end | `SameEnd`: one principal, or one failure, a lookup's own being about the one or the other |
| the canonical user | `FirstAlike`: the first one put in, of those whose names differ in case alone |
| the statement | `resolve_canonical`, in the clauses of `CaseBlind` |

The store may hold several users whose names differ in case alone.  All of them answer, so all of them
have to be readable, and the first one is taken.  The others are not to be reached under any spelling,
their own among them: looking one of them up leads to the first one (`resolve_canonical_bob`).

The sources are asked by the canonical name exactly, with whatever query.  Nothing but the users query
and the identifier policy is said of the configuration.
-/
namespace Entitlement.Lookup

open Store (Tables Database Session Step foldingUsers folded FirstAlike userRow)

/-- Users are looked up without regard to case, and principals are named as the store does. -/
structure Config.FoldsCase (config : Config) : Prop where
  users : config.usersQuery = foldingUsers
  canonical : config.usernameBasedPrimaryKey.truthy = true

/-! ## Failures of a store -/

/-- A store fails in its own words and not in those of a lookup. -/
theorem executor_ne_lookup {database : Database} {question : Question} {fault : Fault}
    (h : database.executor question = .error fault) (failure : LookupFailure) :
    fault ≠ .lookup failure := by
  have hexecute : Store.execute database question.sql question.args = .error fault := h
  simp only [Store.execute] at hexecute
  split at hexecute
  · cases hexecute
    rintro ⟨⟩
  · split at hexecute
    · cases hexecute
      rintro ⟨⟩
    · cases hexecute

section Lookup

variable {config : Config} {database : Database} {u v r name : String} {fault : Fault}

theorem not_raisedOutside (kind : FailureKind) :
    ¬RaisedOutside (config.grants none) database.executor r (.failure kind name) := by
  rintro (⟨source, -, hquery⟩ | ⟨hook, found, hhook, -⟩)
  · exact executor_ne_lookup hquery _ rfl
  · cases hhook

theorem Raised.ne_lookup (h : Raised (config.grants none) database.executor r fault)
    (hwant : ∀ name, fault ≠ .failure .noAuthority name) (failure : LookupFailure) :
    fault ≠ .lookup failure := by
  cases h with
  | byQuery _ _ hquery => exact executor_ne_lookup hquery failure
  | byRow _ _ _ hread =>
      obtain ⟨row, -, hrow⟩ := refusal_of_readRows hread
      rintro rfl
      rcases readAuthority_refusal hrow with hfault | hfault | hfault <;> cases hfault
  | byHook hhook _ _ => cases hhook
  | byWant _ _ => exact absurd rfl (hwant _)

theorem usersFound_ne_lookup (h : config.usersFound database.executor u = .error fault)
    (failure : LookupFailure) : fault ≠ .lookup failure := by
  cases hanswer : database.executor (lookingUp config.usersQuery u) with
  | error fault' =>
      rw [usersFound_of_fault hanswer] at h
      cases h
      exact executor_ne_lookup hanswer failure
  | ok rows =>
      rw [usersFound_of_rows hanswer] at h
      obtain ⟨row, -, hrow⟩ := refusal_of_readRows h
      rintro rfl
      rcases readUser_refusal hrow with hfault | hfault <;> cases hfault

/-! ## One user, one end -/

/-- How the lookups of two usernames end that are one user: with one principal; with one kind of
failure of a lookup, each about its own username; or with one failure of another sort. -/
inductive SameEnd (u v : String) : Except Fault Principal → Except Fault Principal → Prop
  | principal {p : Principal} : SameEnd u v (.ok p) (.ok p)
  | lookup {kind : FailureKind} :
      SameEnd u v (.error (.failure kind u)) (.error (.failure kind v))
  | other {fault : Fault} :
      (∀ failure, fault ≠ .lookup failure) → SameEnd u v (.error fault) (.error fault)

theorem SameEnd.eq_ok {outcome : Except Fault Principal} {p : Principal}
    (h : SameEnd u v outcome (.ok p)) : outcome = .ok p := by
  cases h with
  | principal => rfl

/-- Lookups that find the same users come to the same end, if the principal is named by the
store. -/
theorem sameEnd_of_usersFound (hcanonical : config.usernameBasedPrimaryKey.truthy = true)
    (husers : config.usersFound database.executor u = config.usersFound database.executor v) :
    SameEnd u v ((resolve config none u).run database.executor).1
      ((resolve config none v).run database.executor).1 := by
  obtain ⟨outcome, acts, hr⟩ := resolution_run config none database.executor u
  rw [hr.run_eq]
  cases hr with
  | usersFail hu =>
      rw [(Resolution.usersFail (husers ▸ hu)).run_eq]
      exact .other (usersFound_ne_lookup hu)
  | unknown hu =>
      rw [(Resolution.unknown (husers ▸ hu)).run_eq]
      exact .lookup
  | unauthorised hu ha =>
      rw [(Resolution.unauthorised (husers ▸ hu) ha).run_eq]
      exact .lookup
  | fails hu ha hne =>
      rw [(Resolution.fails (husers ▸ hu) ha hne).run_eq]
      exact .other ((raised_iff_aggregation.mpr ⟨_, ha⟩).ne_lookup hne)
  | @resolved record others authorities acts hu ha =>
      rw [(Resolution.resolved (husers ▸ hu) ha).run_eq]
      have hsame : config.principal u record authorities =
          config.principal v record authorities := by
        simp only [Config.principal, hcanonical, if_true]
      rw [hsame]
      exact .principal

end Lookup

/-! ## The canonical user -/

theorem record_of_readUser {s : String} {password flag : Value} {record : UserRecord}
    (h : readUser [.text s, password, flag] = .ok record) :
    record = ⟨s, password, flag.flag⟩ := by
  simp only [readUser, List.getElem?_cons_zero, List.getElem?_cons_succ] at h
  split at h
  · cases h
  · cases h
    rfl

section Tables

variable {config : Config} {tables : Tables} {u : String}

theorem usersFound_folding (hconfig : config.FoldsCase) (tables : Tables) (u : String) :
    config.usersFound (Database.executor (some tables)) u =
      readRows readUser ((tables.alike u).map userRow) := by
  rw [Config.usersFound, recordsFrom, hconfig.users, Store.answer_folding]
  rfl

/-- What a principal is made of: the first user that is meant, and what the sources have for the name
of that user. -/
structure Canonical (config : Config) (tables : Tables) (u : String) (p : Principal)
    (password flag : Store.Cell) : Prop where
  first : FirstAlike tables u p.username password flag
  password : p.password = password.toValue
  enabled : p.enabled = flag.toValue.flag
  authorities : ((aggregate (config.grants none) p.username).run
    (Database.executor (some tables))).1 = .ok p.authorities

theorem canonical_of_resolve (hconfig : config.FoldsCase) (hsound : tables.Sound)
    (hnamed : tables.NamedInText) {p : Principal}
    (h : ((resolve config none u).run (Database.executor (some tables))).1 = .ok p) :
    ∃ password flag, Canonical config tables u p password flag := by
  obtain ⟨outcome, acts, hr⟩ := resolution_run config none (Database.executor (some tables)) u
  rw [hr.run_eq] at h
  cases hr with
  | usersFail => cases h
  | unknown => cases h
  | unauthorised => cases h
  | fails => cases h
  | @resolved record others authorities acts hu ha =>
      cases h
      rw [usersFound_folding hconfig] at hu
      have hread := readRows_eq_ok_iff.mp hu
      obtain ⟨hnone, -⟩ | ⟨s, password, flag, more, hsome, hfirst⟩ :=
        Store.alike_cases hsound hnamed u
      · rw [hnone] at hread
        cases hread
      · rw [hsome] at hread
        cases hread with
        | cons hrecord _ =>
            have hread' : readUser [.text s, password.toValue, flag.toValue] = .ok record := hrecord
            obtain rfl := record_of_readUser hread'
            have hname : (config.principal u ⟨s, password.toValue, flag.toValue.flag⟩
                authorities).username = s := by
              simp only [Config.principal, hconfig.canonical, if_true]
            refine ⟨password, flag, ?_, rfl, rfl, ?_⟩
            · rw [hname]
              exact hfirst
            · rw [hname, ha.run_eq]
              rfl

/-! ## The statement -/

/-- What the usernames that are one user have in common, in clauses: of lookups on the tables of a
store under a configuration. -/
structure CaseBlind (config : Config) (tables : Tables) : Prop where
  /-- Usernames that are the same in small letters come to the same end. -/
  oneUser : ∀ u v, folded u = folded v →
    SameEnd u v ((resolve config none u).run (Database.executor (some tables))).1
      ((resolve config none v).run (Database.executor (some tables))).1
  /-- The name of a principal leads back to the principal. -/
  fixed : ∀ u p, ((resolve config none u).run (Database.executor (some tables))).1 = .ok p →
    ((resolve config none p.username).run (Database.executor (some tables))).1 = .ok p
  /-- The principal is the first user put in whose name differs from the username in case alone, with
  what is granted to that name exactly. -/
  canonical : ∀ u p, ((resolve config none u).run (Database.executor (some tables))).1 = .ok p →
    ∃ password flag, Canonical config tables u p password flag
  /-- There is no such user exactly if no name differs from the username in case alone. -/
  unknown : ∀ u, ((resolve config none u).run (Database.executor (some tables))).1 =
      .error (.failure .userNotFound u) ↔
    ∀ record ∈ tables.rows .users, ∀ s, record[0]? = some (.text s) → folded s ≠ folded u

theorem caseBlind_of_named (hconfig : config.FoldsCase) (hsound : tables.Sound)
    (hnamed : tables.NamedInText) : CaseBlind config tables := by
  have hone : ∀ u v, folded u = folded v →
      SameEnd u v ((resolve config none u).run (Database.executor (some tables))).1
        ((resolve config none v).run (Database.executor (some tables))).1 := by
    intro u v huv
    refine sameEnd_of_usersFound hconfig.canonical ?_
    unfold Config.usersFound recordsFrom
    rw [hconfig.users, Store.answer_folding_congr huv]
  refine ⟨hone, ?_, fun u p => canonical_of_resolve hconfig hsound hnamed, ?_⟩
  · intro u p hp
    obtain ⟨password, flag, hcanonical⟩ := canonical_of_resolve hconfig hsound hnamed hp
    have hend := hone p.username u hcanonical.first.alike
    rw [hp] at hend
    exact hend.eq_ok
  · intro u
    have hanswer : Database.executor (some tables) (lookingUp config.usersQuery u) =
        .ok ((tables.alike u).map userRow) := by
      rw [hconfig.users, Store.answer_folding]
    obtain ⟨hnone, hno⟩ | ⟨s, password, flag, more, hsome, hfirst⟩ :=
      Store.alike_cases hsound hnamed u
    · rw [hnone] at hanswer
      refine iff_of_true ?_ hno
      rw [(Resolution.unknown (usersFound_of_rows hanswer)).run_eq]
    · rw [hsome, List.map_cons] at hanswer
      refine iff_of_false ?_ ?_
      · intro hunknown
        obtain ⟨first, -, houtside⟩ := outside_of_userNotFound hanswer hunknown
        exact not_raisedOutside _ houtside
      · intro hno
        obtain ⟨before, after, hrows, -⟩ := hfirst.first
        refine hno [.text s, password, flag] ?_ s rfl hfirst.alike
        rw [hrows]
        exact List.mem_append_right _ List.mem_cons_self

end Tables

/-- On every store that any steps lead to from the empty tables, as long as no user is given a name
in bytes, usernames that differ in case alone are one user, and the name of a principal leads back to
it. -/
theorem resolve_canonical (config : Config) (hconfig : config.FoldsCase) (steps : List Step)
    (hsteps : ∀ step ∈ steps, step.NamesInText) :
    ∃ tables, ((Session.mk (some {}) config none).run steps).1.database = some tables ∧
      CaseBlind config tables := by
  have hnamed : Tables.NamedInText {} := by
    intro record hrecord
    cases hrecord
  obtain ⟨tables, htables, hsound, hnamed'⟩ :=
    @Session.run_namedInText ⟨some {}, config, none⟩ {} rfl Tables.sound_empty hnamed steps hsteps
  exact ⟨tables, htables, caseBlind_of_named hconfig hsound hnamed'⟩

/-- The default configuration, but for the users query. -/
def foldingConfig : Config := { usersQuery := foldingUsers }

/-- Two users whose names differ in case alone, each with an authority. -/
def twinSteps : List Step :=
  [.add .users [("username", .text "Bob"), ("password", .text "first")],
    .addRow .users [.text "BOB", .text "second", .int 0],
    .add .authorities [("username", .text "BOB"), ("authority", .text "WRITER")],
    .add .authorities [("username", .text "Bob"), ("authority", .text "READER")]]

def twinTables : Tables where
  users := [[.text "Bob", .text "first", .int 1], [.text "BOB", .text "second", .int 0]]
  authorities := [[.text "BOB", .text "WRITER"], [.text "Bob", .text "READER"]]

theorem twinSteps_namesInText : ∀ step ∈ twinSteps, step.NamesInText := by
  intro step hstep
  simp only [twinSteps, List.mem_cons, List.not_mem_nil, or_false] at hstep
  rcases hstep with rfl | rfl | rfl | rfl
  · rintro bs ⟨⟩
  · rintro bs ⟨⟩
  · trivial
  · trivial

theorem resolve_twins :
    ((resolve foldingConfig none "bOb").run (Database.executor (some twinTables))).1 =
      .ok ⟨"Bob", .text "first", true, [⟨"READER"⟩]⟩ := by
  have husers : foldingConfig.usersFound (Database.executor (some twinTables)) "bOb" =
      .ok [⟨"Bob", .text "first", true⟩, ⟨"BOB", .text "second", false⟩] := by
    rw [usersFound_folding ⟨rfl, rfl⟩]
    rfl
  have hdirect : (foldingConfig.grants none).found (Database.executor (some twinTables)) .direct
      "Bob" = .ok [⟨"READER"⟩] := by
    show (Database.executor (some twinTables) (lookingUp Query.defaultAuthorities "Bob")).bind _ = _
    rw [Store.executor_of_understanding Store.asking_defaultAuthorities
      Store.statement_defaultAuthorities Store.understanding_authorities]
    rfl
  have ha : Aggregation (foldingConfig.grants none) (Database.executor (some twinTables)) "Bob"
      (.ok [⟨"READER"⟩]) _ := .granted hdirect rfl rfl (List.cons_ne_nil _ _)
  rw [(Resolution.resolved husers ha).run_eq]
  rfl

/-- The second of the two is not to be reached by its own name. -/
theorem resolve_canonical_bob :
    foldingConfig.FoldsCase ∧ (∀ step ∈ twinSteps, step.NamesInText) ∧
      ((Session.mk (some {}) foldingConfig none).run twinSteps).1.database = some twinTables ∧
      CaseBlind foldingConfig twinTables ∧
      ((resolve foldingConfig none "BOB").run (Database.executor (some twinTables))).1 =
        .ok ⟨"Bob", .text "first", true, [⟨"READER"⟩]⟩ := by
  have hconfig : foldingConfig.FoldsCase := ⟨rfl, rfl⟩
  have hrun : ((Session.mk (some {}) foldingConfig none).run twinSteps).1.database =
      some twinTables := rfl
  obtain ⟨tables, htables, hblind⟩ :=
    resolve_canonical foldingConfig hconfig twinSteps twinSteps_namesInText
  obtain rfl : twinTables = tables := Option.some.inj (hrun.symm.trans htables)
  refine ⟨hconfig, twinSteps_namesInText, hrun, hblind, ?_⟩
  have hend := hblind.oneUser "BOB" "bOb" (by decide)
  rw [resolve_twins] at hend
  exact hend.eq_ok

end Entitlement.Lookup
