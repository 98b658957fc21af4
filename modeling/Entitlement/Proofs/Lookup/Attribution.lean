import Entitlement.Proofs.Lookup.Rules
import Entitlement.Proofs.Lookup.Wording

/-!
# `Entitlement.Proofs.Lookup.Attribution` — which failure leaves a lookup

A lookup can fail in the users query, in reading a user row, in a query of a source, in reading an
authority row, in the hook, and for want of anything left to grant.  `Raised` lists the last four as
the ways in which the second half fails, each with the stage that has to be reached for it.

Only one kind of failure is touched on its way out.  Whatever in the second half says that there is
no authority, and about whomever, leaves the lookup as that failure about the username the caller
gave.  Everything else passes as it is, and the same kind of failure passes as it is when it comes
from the users query, because the rewriting surrounds the second half only.  `resolve_attribution`
says this for every configuration, executor, hook and username.
-/
namespace Entitlement.Lookup

/-! ## What reading a row can refuse -/

theorem readUser_refusal {row : Row} {fault : Fault} (h : readUser row = .error fault) :
    fault = .incompleteUser ∨ fault = .rowTooShort := by
  unfold readUser at h
  split at h
  · split at h
    · cases h
      exact .inl rfl
    · split at h
      · cases h
      · cases h
        exact .inr rfl
  · cases h
    exact .inr rfl

theorem readAuthority_refusal {source : Source} {rolePrefix : Value} {row : Row} {fault : Fault}
    (h : readAuthority source rolePrefix row = .error fault) :
    fault = .unnamedAuthority (source.column + 1) ∨ fault = .rowTooShort ∨
      fault = .notConcatenable rolePrefix := by
  unfold readAuthority at h
  split at h
  · split at h
    · cases h
      exact .inl rfl
    · unfold behind at h
      split at h
      · cases h
      · cases h
        exact .inr (.inr rfl)
  · cases h
    exact .inr (.inl rfl)

theorem refusal_of_readRows {α : Type} {read : Row → Except Fault α} {rows : List Row}
    {fault : Fault} (h : readRows read rows = .error fault) :
    ∃ row ∈ rows, read row = .error fault := by
  obtain ⟨before, row, after, rfl, -, hrow⟩ := readRows_eq_error_iff.mp h
  exact ⟨row, List.mem_append_right _ List.mem_cons_self, hrow⟩

/-! ## Failures of the second half -/

/-- A source is asked once every source in front of it has been read. -/
def Grants.Reaches (grants : Grants) (executor : Executor) (r : String) : Source → Prop
  | .direct => True
  | .group => ∃ direct, grants.found executor .direct r = .ok direct

/-- The authorities of all sources, each once. -/
def Grants.Collects (grants : Grants) (executor : Executor) (r : String)
    (collected : List Authority) : Prop :=
  ∃ direct group, grants.found executor .direct r = .ok direct ∧
    grants.found executor .group r = .ok group ∧ collected = distinct (direct ++ group)

/-- The failures of the second half, by where they come from. -/
inductive Raised (grants : Grants) (executor : Executor) (r : String) : Fault → Prop
  | byQuery {source : Source} {fault : Fault} :
      grants.Reaches executor r source → grants.enabled source = true →
      executor (lookingUp (grants.query source) r) = .error fault →
      Raised grants executor r fault
  | byRow {source : Source} {rows : List Row} {fault : Fault} :
      grants.Reaches executor r source → grants.enabled source = true →
      executor (lookingUp (grants.query source) r) = .ok rows →
      readRows (readAuthority source grants.rolePrefix) rows = .error fault →
      Raised grants executor r fault
  | byHook {h : Hook} {collected : List Authority} {fault : Fault} :
      grants.hook = some h → grants.Collects executor r collected →
      h.outcome r collected = .error fault →
      Raised grants executor r fault
  | byWant {collected : List Authority} :
      grants.Collects executor r collected → edited grants.hook r collected = .ok [] →
      Raised grants executor r (.failure .noAuthority r)

theorem found_eq_error {grants : Grants} {executor : Executor} {source : Source} {r : String}
    {fault : Fault} (h : grants.found executor source r = .error fault) :
    grants.enabled source = true ∧
      (executor (lookingUp (grants.query source) r) = .error fault ∨
        ∃ rows, executor (lookingUp (grants.query source) r) = .ok rows ∧
          readRows (readAuthority source grants.rolePrefix) rows = .error fault) := by
  unfold Grants.found at h
  split at h
  · rename_i henabled
    refine ⟨henabled, ?_⟩
    unfold recordsFrom at h
    cases hanswer : executor (lookingUp (grants.query source) r) with
    | error e =>
        rw [hanswer] at h
        cases h
        exact .inl rfl
    | ok rows =>
        rw [hanswer] at h
        exact .inr ⟨rows, rfl, h⟩
  · cases h

theorem found_eq_error_of_query {grants : Grants} {executor : Executor} {source : Source}
    {r : String} {fault : Fault} (henabled : grants.enabled source = true)
    (h : executor (lookingUp (grants.query source) r) = .error fault) :
    grants.found executor source r = .error fault := by
  simp only [Grants.found, henabled, if_true, recordsFrom, h, Except.bind]

theorem found_eq_error_of_row {grants : Grants} {executor : Executor} {source : Source}
    {r : String} {rows : List Row} {fault : Fault} (henabled : grants.enabled source = true)
    (h : executor (lookingUp (grants.query source) r) = .ok rows)
    (hrows : readRows (readAuthority source grants.rolePrefix) rows = .error fault) :
    grants.found executor source r = .error fault := by
  simp only [Grants.found, henabled, if_true, recordsFrom, h, Except.bind, hrows]

theorem Raised.of_found {grants : Grants} {executor : Executor} {source : Source} {r : String}
    {fault : Fault} (hreach : grants.Reaches executor r source)
    (h : grants.found executor source r = .error fault) : Raised grants executor r fault := by
  obtain ⟨henabled, hquery | ⟨rows, hrows, hread⟩⟩ := found_eq_error h
  · exact .byQuery hreach henabled hquery
  · exact .byRow hreach henabled hrows hread

theorem Grants.Reaches.aggregation {grants : Grants} {executor : Executor} {source : Source}
    {r : String} {fault : Fault} (hreach : grants.Reaches executor r source)
    (h : grants.found executor source r = .error fault) :
    ∃ acts, Aggregation grants executor r (.error fault) acts := by
  cases source with
  | direct => exact ⟨_, .directFails h⟩
  | group =>
      obtain ⟨direct, hdirect⟩ := hreach
      exact ⟨_, .groupFails hdirect h⟩

/-- The list of failures is the right one: exactly these end an aggregation. -/
theorem raised_iff_aggregation {grants : Grants} {executor : Executor} {r : String}
    {fault : Fault} :
    Raised grants executor r fault ↔
      ∃ acts, Aggregation grants executor r (.error fault) acts := by
  constructor
  · intro h
    cases h with
    | byQuery hreach henabled hquery =>
        exact hreach.aggregation (found_eq_error_of_query henabled hquery)
    | byRow hreach henabled hrows hread =>
        exact hreach.aggregation (found_eq_error_of_row henabled hrows hread)
    | @byHook hook collected fault hhook hcollects hfault =>
        obtain ⟨direct, group, hdirect, hgroup, rfl⟩ := hcollects
        refine ⟨_, .hookFails hdirect hgroup ?_⟩
        rw [hhook]
        exact hfault
    | byWant hcollects hnone =>
        obtain ⟨direct, group, hdirect, hgroup, rfl⟩ := hcollects
        exact ⟨_, .nothingLeft hdirect hgroup hnone⟩
  · rintro ⟨acts, h⟩
    cases h with
    | directFails hdirect => exact @Raised.of_found _ _ .direct _ _ trivial hdirect
    | groupFails hdirect hgroup => exact @Raised.of_found _ _ .group _ _ ⟨_, hdirect⟩ hgroup
    | @hookFails direct group fault hdirect hgroup hhook =>
        cases hh : grants.hook with
        | none =>
            rw [hh] at hhook
            cases hhook
        | some h =>
            rw [hh] at hhook
            exact .byHook hh ⟨direct, group, hdirect, hgroup, rfl⟩ hhook
    | nothingLeft hdirect hgroup hnone =>
        exact .byWant ⟨_, _, hdirect, hgroup, rfl⟩ hnone

/-- A failure that is neither of a row nor of want was raised, as it is, by a query or by the
hook. -/
def RaisedOutside (grants : Grants) (executor : Executor) (r : String) (fault : Fault) : Prop :=
  (∃ source, grants.enabled source = true ∧
    executor (lookingUp (grants.query source) r) = .error fault) ∨
  ∃ h collected, grants.hook = some h ∧ h.outcome r collected = .error fault

theorem Raised.outside {grants : Grants} {executor : Executor} {r name : String}
    (h : Raised grants executor r (.failure .userNotFound name)) :
    RaisedOutside grants executor r (.failure .userNotFound name) := by
  generalize hfault : Fault.failure .userNotFound name = fault at h
  cases h with
  | byQuery _ henabled hquery => exact .inl ⟨_, henabled, hquery⟩
  | byRow _ _ _ hread =>
      obtain ⟨row, -, hrow⟩ := refusal_of_readRows hread
      subst hfault
      rcases readAuthority_refusal hrow with h | h | h <;> cases h
  | byHook hhook _ hraised => exact .inr ⟨_, _, hhook, hraised⟩
  | byWant _ _ => cases hfault

/-! ## Failures of the whole lookup -/

section Lookup

variable {config : Config} {hook : Option Hook} {executor : Executor} {u : String}

/-- What is raised in the second half leaves the lookup, about the caller's username if it is a want
of authorities and as it is if not. -/
theorem resolve_of_raised {record : UserRecord} {others : List UserRecord} {fault : Fault}
    (husers : config.usersFound executor u = .ok (record :: others))
    (h : Raised (config.grants hook) executor record.username fault) :
    ((∃ name, fault = .failure .noAuthority name) →
      ((resolve config hook u).run executor).1 = .error (.failure .noAuthority u)) ∧
    ((∀ name, fault ≠ .failure .noAuthority name) →
      ((resolve config hook u).run executor).1 = .error fault) := by
  obtain ⟨acts, ha⟩ := raised_iff_aggregation.mp h
  constructor
  · rintro ⟨name, rfl⟩
    rw [(Resolution.unauthorised husers ha).run_eq]
  · intro hne
    rw [(Resolution.fails husers ha hne).run_eq]

/-- Nothing else leaves a lookup once a user is loaded. -/
theorem raised_of_resolve {record : UserRecord} {others : List UserRecord} {fault : Fault}
    (husers : config.usersFound executor u = .ok (record :: others))
    (h : ((resolve config hook u).run executor).1 = .error fault) :
    (fault = .failure .noAuthority u ∧
        ∃ name, Raised (config.grants hook) executor record.username
          (.failure .noAuthority name)) ∨
      (∀ name, fault ≠ .failure .noAuthority name) ∧
        Raised (config.grants hook) executor record.username fault := by
  obtain ⟨outcome, acts, hr⟩ := resolution_run config hook executor u
  rw [hr.run_eq] at h
  cases hr with
  | usersFail hfail =>
      rw [husers] at hfail
      cases hfail
  | unknown hnone =>
      rw [husers] at hnone
      cases hnone
  | unauthorised hfound ha =>
      rw [husers] at hfound
      cases hfound
      cases h
      exact .inl ⟨rfl, _, raised_iff_aggregation.mpr ⟨_, ha⟩⟩
  | fails hfound ha hne =>
      rw [husers] at hfound
      cases hfound
      cases h
      exact .inr ⟨hne, raised_iff_aggregation.mpr ⟨_, ha⟩⟩
  | resolved => cases h

theorem usersFound_of_rows {rows : List Row}
    (h : executor (lookingUp config.usersQuery u) = .ok rows) :
    config.usersFound executor u = readRows readUser rows := by
  simp only [Config.usersFound, recordsFrom, h, Except.bind]

theorem usersFound_of_fault {fault : Fault}
    (h : executor (lookingUp config.usersQuery u) = .error fault) :
    config.usersFound executor u = .error fault := by
  simp only [Config.usersFound, recordsFrom, h, Except.bind]

theorem resolve_of_usersFound_error {fault : Fault}
    (h : config.usersFound executor u = .error fault) :
    ((resolve config hook u).run executor).1 = .error fault := by
  have hr : Resolution config hook executor u (.error fault) [config.askingUsers u] :=
    .usersFail h
  rw [hr.run_eq]

/-- That there is no such user is never said once there is a row, unless somebody else says it. -/
theorem outside_of_userNotFound {row : Row} {rows : List Row} {name : String}
    (hrows : executor (lookingUp config.usersQuery u) = .ok (row :: rows))
    (h : ((resolve config hook u).run executor).1 = .error (.failure .userNotFound name)) :
    ∃ first, row[0]? = some first ∧
      RaisedOutside (config.grants hook) executor first.toText (.failure .userNotFound name) := by
  have husers : config.usersFound executor u = readRows readUser (row :: rows) :=
    usersFound_of_rows hrows
  cases hread : readRows readUser (row :: rows) with
  | error fault =>
      rw [hread] at husers
      rw [resolve_of_usersFound_error husers] at h
      cases h
      obtain ⟨bad, -, hbad⟩ := refusal_of_readRows hread
      rcases readUser_refusal hbad with h | h <;> cases h
  | ok records =>
      rw [hread] at husers
      cases readRows_eq_ok_iff.mp hread with
      | @cons _ record _ others hrecord _ =>
          obtain ⟨first, hfirst, hname⟩ := username_of_readUser hrecord
          refine ⟨first, hfirst, ?_⟩
          rw [← hname]
          rcases raised_of_resolve husers h with ⟨hwant, -⟩ | ⟨-, hraised⟩
          · cases hwant
          · exact hraised.outside

end Lookup

/-! ## The statement -/

/-- Which failure leaves the lookup of a username, in clauses. -/
structure Attribution (config : Config) (hook : Option Hook) (executor : Executor) (u : String)
    (outcome : Except Fault Principal) : Prop where
  /-- No row: there is no such user, and the user is the one that was asked for. -/
  unknown : executor (lookingUp config.usersQuery u) = .ok [] →
    outcome = .error (.failure .userNotFound u)
  /-- A row: that there is no such user was said by a query of a source or by the hook, and in just
  these words. -/
  unknownOutside : ∀ row rows name,
    executor (lookingUp config.usersQuery u) = .ok (row :: rows) →
    outcome = .error (.failure .userNotFound name) →
    ∃ first, row[0]? = some first ∧
      RaisedOutside (config.grants hook) executor first.toText (.failure .userNotFound name)
  /-- A user loaded: a want of authorities, whoever raised it and about whomever, is about the
  username that was asked for, and everything else that is raised is left as it is. -/
  loaded : ∀ row rows record others,
    executor (lookingUp config.usersQuery u) = .ok (row :: rows) →
    readRows readUser (row :: rows) = .ok (record :: others) →
    (∃ first, row[0]? = some first ∧ record.username = first.toText) ∧
    ∀ fault, Raised (config.grants hook) executor record.username fault →
      ((∃ name, fault = .failure .noAuthority name) →
        outcome = .error (.failure .noAuthority u)) ∧
      ((∀ name, fault ≠ .failure .noAuthority name) → outcome = .error fault)
  /-- A user loaded: nothing leaves that was not raised, and no want of authorities is about anybody
  else. -/
  onlyRaised : ∀ row rows record others fault,
    executor (lookingUp config.usersQuery u) = .ok (row :: rows) →
    readRows readUser (row :: rows) = .ok (record :: others) →
    outcome = .error fault →
    (fault = .failure .noAuthority u ∧
        ∃ name, Raised (config.grants hook) executor record.username
          (.failure .noAuthority name)) ∨
      (∀ name, fault ≠ .failure .noAuthority name) ∧
        Raised (config.grants hook) executor record.username fault
  /-- The users query fails: its failure is left as it is, a want of authorities included. -/
  usersQuery : ∀ fault, executor (lookingUp config.usersQuery u) = .error fault →
    outcome = .error fault
  /-- A user row is refused: the refusal is left as it is. -/
  userRow : ∀ rows fault, executor (lookingUp config.usersQuery u) = .ok rows →
    readRows readUser rows = .error fault → outcome = .error fault
  /-- The wording of a failure is its default template with the username put in. -/
  wording : ∀ kind, (LookupFailure.mk kind u).render none = .ok (Fault.failure kind u).message ∧
    (Fault.failure .userNotFound u).message = "Username " ++ u ++ " not found" ∧
    (Fault.failure .noAuthority u).message = "User " ++ u ++ " has no granted authority"

theorem resolve_attribution (config : Config) (hook : Option Hook) (executor : Executor)
    (u : String) :
    Attribution config hook executor u ((resolve config hook u).run executor).1 where
  unknown h := by
    have husers : config.usersFound executor u = .ok [] := usersFound_of_rows h
    rw [(Resolution.unknown husers).run_eq]
  unknownOutside _ _ _ hrows h := outside_of_userNotFound hrows h
  loaded row rows record others hrows hread := by
    have husers := (usersFound_of_rows hrows).trans hread
    refine ⟨?_, fun fault hraised => resolve_of_raised husers hraised⟩
    cases readRows_eq_ok_iff.mp hread with
    | cons hrecord _ => exact username_of_readUser hrecord
  onlyRaised _ _ _ _ _ hrows hread h :=
    raised_of_resolve ((usersFound_of_rows hrows).trans hread) h
  usersQuery _ h := resolve_of_usersFound_error (usersFound_of_fault h)
  userRow _ _ hrows hread :=
    resolve_of_usersFound_error ((usersFound_of_rows hrows).trans hread)
  wording kind := ⟨LookupFailure.render_none ⟨kind, u⟩, rfl, rfl⟩

def shortConfig : Config where
  usersQuery := "users :u"
  authoritiesQuery := "direct :u"
  groupAuthoritiesQuery := "group :u"

/-- A store that spells the user `Bob` and has no authority for somebody else. -/
def spellingStore : Executor :=
  preparedStore
    [⟨"users :u", none, .ok [[.text "Bob", .text "secret", .int 1]]⟩,
      ⟨"direct :u", none, .error (.failure .noAuthority "Carol")⟩]

/-- Asked for `bob`, the want of authorities is about `bob`: neither the store's spelling nor the
name it came with is left. -/
theorem resolve_attribution_bob :
    shortConfig.Valid ∧
      ((resolve shortConfig none "bob").run spellingStore).1 =
        .error (.failure .noAuthority "bob") := by
  refine ⟨by decide +kernel, ?_⟩
  have hraised : Raised (shortConfig.grants none) spellingStore "Bob"
      (.failure .noAuthority "Carol") :=
    @Raised.byQuery _ _ _ .direct _ trivial rfl rfl
  have hloaded := (resolve_attribution shortConfig none spellingStore "bob").loaded
    [.text "Bob", .text "secret", .int 1] [] ⟨"Bob", .text "secret", true⟩ [] rfl rfl
  exact (hloaded.2 _ hraised).1 ⟨"Carol", rfl⟩

end Entitlement.Lookup
