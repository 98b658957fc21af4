import Entitlement.Http.Response
import Entitlement.Proofs.Lookup.Rules

/-!
# `Entitlement.Proofs.Lookup.Password` — nothing but the password depends on the password

Take two stores that answer every query alike, but for the second column of the rows of the users
query, and let that column be null in the one exactly where it is null in the other.  A lookup on
the one store and the same lookup on the other cannot be told apart by anything but the password
they return.

| | |
| :-- | :-- |
| what may differ | `SameButPassword`, row by row, and `Indistinguishable`, of two stores |
| what is observed | the acts in their order, the outcome, and the response to a request |
| the statement | `resolve_noninterference` |

The acts are the queries with their arguments, the calls of the hook with what it is given, and the
entries for the log, so equal acts leave nothing else to be seen.  An outcome that is a failure is
the same failure in both runs, with all it carries.

That a password is null is no secret: a user row without a password is refused, and the refusal
shows.

The proof is a simulation on the rules of `Resolution`.  Whichever rule ends the lookup on the one
store, the same rule ends it on the other with the same acts.
-/
namespace Entitlement.Lookup

variable {α β : Type}

/-! ## Related results -/

/-- Two results that fail alike, or succeed with what a relation relates. -/
inductive Matching (related : α → β → Prop) : Except Fault α → Except Fault β → Prop
  | error (fault : Fault) : Matching related (.error fault) (.error fault)
  | ok {a : α} {b : β} : related a b → Matching related (.ok a) (.ok b)

theorem Matching.of_error {related : α → β → Prop} {fault : Fault} {result : Except Fault β}
    (h : Matching related (.error fault) result) : result = .error fault := by
  cases h with
  | error fault => rfl

theorem Matching.of_ok {related : α → β → Prop} {a : α} {result : Except Fault β}
    (h : Matching related (.ok a) result) : ∃ b, result = .ok b ∧ related a b := by
  cases h with
  | ok hab => exact ⟨_, rfl, hab⟩

theorem Matching.bind {γ δ : Type} {R : α → β → Prop} {S : γ → δ → Prop}
    {a : Except Fault α} {b : Except Fault β} {f : α → Except Fault γ} {g : β → Except Fault δ}
    (h : Matching R a b) (hfg : ∀ x y, R x y → Matching S (f x) (g y)) :
    Matching S (a.bind f) (b.bind g) := by
  cases h with
  | error fault => exact .error fault
  | ok hxy => exact hfg _ _ hxy

/-- Rows that are read alike one by one are read alike in a list: the first refusal is in the same
place. -/
theorem Matching.readRows {R : Row → Row → Prop} {S : α → β → Prop}
    {read : Row → Except Fault α} {read' : Row → Except Fault β}
    (h : ∀ row row', R row row' → Matching S (read row) (read' row')) {rows rows' : List Row}
    (hrows : List.Forall₂ R rows rows') :
    Matching (List.Forall₂ S) (readRows read rows) (readRows read' rows') := by
  induction hrows with
  | nil => exact .ok .nil
  | @cons row row' rest rest' hrow _ ih =>
      have hfirst := h row row' hrow
      simp only [Lookup.readRows]
      cases hread : read row with
      | error fault =>
          rw [hread] at hfirst
          rw [hfirst.of_error]
          exact .error fault
      | ok record =>
          rw [hread] at hfirst
          obtain ⟨record', hrecord', hsame⟩ := hfirst.of_ok
          rw [hrecord']
          cases hrest : Lookup.readRows read rest with
          | error fault =>
              rw [hrest] at ih
              rw [ih.of_error]
              exact .error fault
          | ok others =>
              rw [hrest] at ih
              obtain ⟨others', hothers', hall⟩ := ih.of_ok
              rw [hothers']
              exact .ok (.cons hsame hall)

/-! ## What may differ -/

/-- Two user rows that differ in the second column at most, where both or neither hold null. -/
structure SameButPassword (row row' : Row) : Prop where
  length : row.length = row'.length
  others : ∀ i, i ≠ 1 → row[i]? = row'[i]?
  null : row[1]?.map isNull = row'[1]?.map isNull

def UserRecord.SameButPassword (record record' : UserRecord) : Prop :=
  record.username = record'.username ∧ record.enabled = record'.enabled

def Principal.SameButPassword (p p' : Principal) : Prop :=
  p.username = p'.username ∧ p.enabled = p'.enabled ∧ p.authorities = p'.authorities

/-- Two stores that answer alike, but for the passwords in the answers to the users query. -/
structure Indistinguishable (config : Config) (executor executor' : Executor) : Prop where
  users : ∀ question, question.sql = config.usersQuery →
    Matching (List.Forall₂ SameButPassword) (executor question) (executor' question)
  others : ∀ question, question.sql ≠ config.usersQuery → executor question = executor' question

/-! ## Reading users -/

theorem SameButPassword.readUser {row row' : Row} (h : SameButPassword row row') :
    Matching UserRecord.SameButPassword (readUser row) (readUser row') := by
  have hname : row[0]? = row'[0]? := h.others 0 (by decide)
  have hflag : row[2]? = row'[2]? := h.others 2 (by decide)
  have hnull := h.null
  unfold Lookup.readUser
  rw [← hname, ← hflag]
  cases row[0]? with
  | none => exact .error _
  | some username =>
      cases hpassword : row[1]? with
      | none =>
          rw [hpassword] at hnull
          rw [Option.map_eq_none_iff.mp hnull.symm]
          exact .error _
      | some password =>
          rw [hpassword] at hnull
          obtain ⟨password', hpassword', hsame⟩ := Option.map_eq_some_iff.mp hnull.symm
          rw [hpassword']
          simp only [hsame]
          split
          · exact .error _
          · cases row[2]? with
            | none => exact .error _
            | some flag => exact .ok ⟨rfl, rfl⟩

theorem password_of_readUser {row : Row} {record : UserRecord} (h : readUser row = .ok record) :
    row[1]? = some record.password := by
  unfold readUser at h
  split at h
  · rename_i hpassword
    split at h
    · cases h
    · split at h
      · cases h
        exact hpassword
      · cases h
  · cases h

section Stores

variable {config : Config} {executor executor' : Executor}

theorem Indistinguishable.usersFound (h : Indistinguishable config executor executor')
    (u : String) :
    Matching (List.Forall₂ UserRecord.SameButPassword)
      (config.usersFound executor u) (config.usersFound executor' u) := by
  exact (h.users (lookingUp config.usersQuery u) rfl).bind fun _ _ hrows =>
    Matching.readRows (fun _ _ hrow => hrow.readUser) hrows

theorem password_of_resolve {hook : Option Hook} {u : String} {p : Principal}
    (h : ((resolve config hook u).run executor).1 = .ok p) :
    ∃ row rows, executor (lookingUp config.usersQuery u) = .ok (row :: rows) ∧
      row[1]? = some p.password := by
  obtain ⟨outcome, acts, hr⟩ := resolution_run config hook executor u
  rw [hr.run_eq] at h
  cases hr with
  | usersFail => cases h
  | unknown => cases h
  | unauthorised => cases h
  | fails => cases h
  | resolved hfound _ =>
      cases h
      unfold Config.usersFound recordsFrom at hfound
      cases hanswer : executor (lookingUp config.usersQuery u) with
      | error fault =>
          rw [hanswer] at hfound
          cases hfound
      | ok rows =>
          rw [hanswer] at hfound
          cases readRows_eq_ok_iff.mp hfound with
          | cons hrecord _ => exact ⟨_, _, rfl, password_of_readUser hrecord⟩

/-! ## The simulation -/

/-- The rule that ends a lookup on the one store ends it on the other, with the same acts. -/
theorem Indistinguishable.resolution (h : Indistinguishable config executor executor')
    (hdirect : config.authoritiesQuery ≠ config.usersQuery)
    (hgroup : config.groupAuthoritiesQuery ≠ config.usersQuery) {hook : Option Hook} {u : String}
    {outcome : Except Fault Principal} {acts : List Act}
    (hr : Resolution config hook executor u outcome acts) :
    ∃ outcome', Resolution config hook executor' u outcome' acts ∧
      Matching Principal.SameButPassword outcome outcome' := by
  have husers := h.usersFound u
  have transport : ∀ {r outcome acts}, Aggregation (config.grants hook) executor r outcome acts →
      Aggregation (config.grants hook) executor' r outcome acts :=
    fun ha => ha.of_found fun source => found_of_others h.others hdirect hgroup hook source _
  cases hr with
  | usersFail hfound =>
      rw [hfound] at husers
      exact ⟨_, .usersFail husers.of_error, .error _⟩
  | unknown hfound =>
      rw [hfound] at husers
      obtain ⟨records', hfound', hrecords⟩ := husers.of_ok
      cases hrecords with
      | nil => exact ⟨_, .unknown hfound', .error _⟩
  | unauthorised hfound ha =>
      rw [hfound] at husers
      obtain ⟨records', hfound', hrecords⟩ := husers.of_ok
      cases hrecords with
      | cons hrecord _ =>
          rw [hrecord.1] at ha
          exact ⟨_, .unauthorised hfound' (transport ha), .error _⟩
  | fails hfound ha hne =>
      rw [hfound] at husers
      obtain ⟨records', hfound', hrecords⟩ := husers.of_ok
      cases hrecords with
      | cons hrecord _ =>
          rw [hrecord.1] at ha
          exact ⟨_, .fails hfound' (transport ha) hne, .error _⟩
  | @resolved record others authorities acts hfound ha =>
      rw [hfound] at husers
      obtain ⟨records', hfound', hrecords⟩ := husers.of_ok
      cases hrecords with
      | @cons _ record' _ others' hrecord _ =>
          rw [hrecord.1] at ha
          have hsame : Principal.SameButPassword (config.principal u record authorities)
              (config.principal u record' authorities) := by
            refine ⟨?_, hrecord.2, rfl⟩
            simp only [Config.principal, hrecord.1]
          have hentry : entryResolved (config.principal u record authorities) =
              entryResolved (config.principal u record' authorities) := by
            simp only [entryResolved, hsame.1, hsame.2.1, hsame.2.2]
          refine ⟨_, ?_, .ok hsame⟩
          rw [hentry]
          exact .resolved hfound' (transport ha)

end Stores

/-! ## The statement -/

theorem ofLookup_of_matching {outcome outcome' : Except Fault Principal}
    (h : Matching Principal.SameButPassword outcome outcome') :
    Http.Response.ofLookup outcome = Http.Response.ofLookup outcome' := by
  cases h with
  | error fault => rfl
  | ok hsame =>
      obtain ⟨hname, hflag, hauthorities⟩ := hsame
      simp only [Http.Response.ofLookup, Http.principalFields, Principal.names, hname, hflag,
        hauthorities, Principal.accountNonExpired, Principal.accountNonLocked,
        Principal.credentialsNonExpired]

/-- Two runs of a lookup that only the password tells apart, in clauses. -/
structure Noninterference (config : Config) (executor executor' : Executor) (u : String)
    (run run' : Except Fault Principal × List Act) : Prop where
  /-- The same queries with the same arguments, the same calls of the hook, and the same entries for
  the log, in the same order. -/
  acts : run.2 = run'.2
  /-- The same failure, or principals that differ in the password at most. -/
  outcomes : Matching Principal.SameButPassword run.1 run'.1
  /-- The password of each is what its own store holds in the first user row. -/
  password : ∀ p, run.1 = .ok p → ∃ row rows,
    executor (lookingUp config.usersQuery u) = .ok (row :: rows) ∧ row[1]? = some p.password
  password' : ∀ p, run'.1 = .ok p → ∃ row rows,
    executor' (lookingUp config.usersQuery u) = .ok (row :: rows) ∧ row[1]? = some p.password
  /-- The same response, status, body and failure raised again. -/
  response : Http.Response.ofLookup run.1 = Http.Response.ofLookup run'.1

theorem resolve_noninterference (config : Config) (hook : Option Hook)
    (executor executor' : Executor) (u : String)
    (hdirect : config.authoritiesQuery ≠ config.usersQuery)
    (hgroup : config.groupAuthoritiesQuery ≠ config.usersQuery)
    (h : Indistinguishable config executor executor') :
    Noninterference config executor executor' u
      ((resolve config hook u).run executor) ((resolve config hook u).run executor') := by
  obtain ⟨outcome, acts, hr⟩ := resolution_run config hook executor u
  obtain ⟨outcome', hr', hmatching⟩ := h.resolution hdirect hgroup hr
  have hrun := hr.run_eq
  have hrun' := hr'.run_eq
  refine ⟨?_, ?_, fun p hp => password_of_resolve hp, fun p hp => password_of_resolve hp, ?_⟩
  · rw [hrun, hrun']
  · rw [hrun, hrun']
    exact hmatching
  · rw [hrun, hrun']
    exact ofLookup_of_matching hmatching

/-- A store with one user and one authority, for any password. -/
def storeWithPassword (password : Value) : Executor :=
  preparedStore
    [⟨Query.defaultUsers, none, .ok [[.text "bob", password, .int 1]]⟩,
      ⟨Query.defaultAuthorities, none, .ok [[.text "bob", .text "READER"]]⟩]

theorem indistinguishable_storeWithPassword (password password' : Value)
    (h : isNull password = isNull password') :
    Indistinguishable {} (storeWithPassword password) (storeWithPassword password') where
  users question hsql := by
    have hfits : ∀ answer,
        (Prepared.mk Query.defaultUsers none answer).fits question = true := by
      intro answer
      simp only [Prepared.fits, Bool.and_true, beq_iff_eq]
      exact hsql.symm
    simp only [storeWithPassword, preparedStore, List.find?_cons_of_pos, hfits]
    refine .ok (.cons ⟨rfl, ?_, ?_⟩ .nil)
    · intro i hi
      rcases i with _ | _ | i
      · rfl
      · exact absurd rfl hi
      · rfl
    · exact congrArg some h
  others question hsql := by
    have hfits : ∀ answer,
        (Prepared.mk Query.defaultUsers none answer).fits question = false := by
      intro answer
      simp only [Prepared.fits, Bool.and_true, beq_eq_false_iff_ne]
      exact Ne.symm hsql
    simp only [storeWithPassword, preparedStore, List.find?_cons, hfits]

/-- Under a hook that grants one more authority, and for passwords of different forms: both runs
succeed, each with its own password as it is stored. -/
theorem resolve_noninterference_bob :
    Noninterference {} (storeWithPassword (.text " secret ")) (storeWithPassword (.int 7)) "bob"
        ((resolve {} (some (Script.hook { edits := [.append "GUEST"] })) "bob").run
          (storeWithPassword (.text " secret ")))
        ((resolve {} (some (Script.hook { edits := [.append "GUEST"] })) "bob").run
          (storeWithPassword (.int 7))) ∧
      ((resolve {} (some (Script.hook { edits := [.append "GUEST"] })) "bob").run
          (storeWithPassword (.text " secret "))).1 =
        .ok ⟨"bob", .text " secret ", true, [⟨"READER"⟩, ⟨"GUEST"⟩]⟩ ∧
      ((resolve {} (some (Script.hook { edits := [.append "GUEST"] })) "bob").run
          (storeWithPassword (.int 7))).1 =
        .ok ⟨"bob", .int 7, true, [⟨"READER"⟩, ⟨"GUEST"⟩]⟩ := by
  refine ⟨?_, rfl, rfl⟩
  exact resolve_noninterference {} _ _ _ "bob" (by decide) (by decide)
    (indistinguishable_storeWithPassword _ _ rfl)

end Entitlement.Lookup
