import Entitlement.Proofs.Lookup.Attribution

/-!
# `Entitlement.Proofs.Lookup.LogTrail` — what a lookup leaves in the log

A lookup writes at most one entry, and which one it is tells how the lookup ended.

| entry | written exactly when |
| :-- | :-- |
| `principal_resolved` | a principal is returned |
| `user_not_found` | the users query came back without a row: `Config.Unknown` |
| `no_authority_found` | the second half ended for want of authorities: `Config.Unauthorised` |
| none | the lookup failed in any other way |

It is the stage that decides and not the failure.  A want of authorities that the users query itself
reports is passed on in silence, and so is a user that the hook says is not there.

A successful lookup is logged about the username of the principal, which the configuration may take
from the store, and the other two about the username that was asked for.

`Entered` lists the four ways as rules.  From the rules `resolve_logTrail` says the table above, as
equivalences, of every lookup and of every one of a list of lookups.
-/
namespace Entitlement.Lookup

/-! ## The entries of a run -/

@[simp] theorem logEntries_append (acts others : List Act) :
    logEntries (acts ++ others) = logEntries acts ++ logEntries others :=
  List.filterMap_append

@[simp] theorem logEntries_asking (grants : Grants) (source : Source) (r : String) :
    logEntries (grants.asking source r) = [] := by
  unfold Grants.asking
  split
  · rfl
  · rfl

@[simp] theorem logEntries_consulting (hook : Option Hook) (r : String) (found : List Authority) :
    logEntries (consulting hook r found) = [] := by
  cases hook with
  | none => rfl
  | some h => rfl

/-- Only the two ends of a lookup write into the log: the aggregation between them does not. -/
theorem Aggregation.logEntries_eq_nil {grants : Grants} {executor : Executor} {r : String}
    {outcome : Except Fault (List Authority)} {acts : List Act}
    (h : Aggregation grants executor r outcome acts) : logEntries acts = [] := by
  cases h with
  | directFails _ => exact logEntries_asking _ _ _
  | groupFails _ _ => simp only [logEntries_append, logEntries_asking, List.append_nil]
  | hookFails _ _ _ =>
      simp only [logEntries_append, logEntries_asking, logEntries_consulting, List.append_nil]
  | nothingLeft _ _ _ =>
      simp only [logEntries_append, logEntries_asking, logEntries_consulting, List.append_nil]
  | granted _ _ _ _ =>
      simp only [logEntries_append, logEntries_asking, logEntries_consulting, List.append_nil]

/-! ## How a lookup ends, as far as the log tells -/

section Lookup

variable {config : Config} {hook : Option Hook} {executor : Executor} {u : String}

def Config.Unknown (config : Config) (executor : Executor) (u : String) : Prop :=
  executor (lookingUp config.usersQuery u) = .ok []

/-- A user was loaded, and then somebody said that there is no authority: the lookup itself, a query
of a source or the hook, and about whomever. -/
def Config.Unauthorised (config : Config) (hook : Option Hook) (executor : Executor) (u : String) :
    Prop :=
  ∃ record others name, config.usersFound executor u = .ok (record :: others) ∧
    Raised (config.grants hook) executor record.username (.failure .noAuthority name)

theorem usersFound_eq_ok_nil_iff :
    config.usersFound executor u = .ok [] ↔ config.Unknown executor u := by
  constructor
  · intro h
    unfold Config.usersFound recordsFrom at h
    cases hanswer : executor (lookingUp config.usersQuery u) with
    | error fault =>
        rw [hanswer] at h
        cases h
    | ok rows =>
        rw [hanswer] at h
        cases readRows_eq_ok_iff.mp h with
        | nil => exact hanswer
  · intro h
    exact usersFound_of_rows h

/-- Where a user was loaded, the end of the aggregation decides whether there was a want of
authorities: a run has one end. -/
theorem unauthorised_iff_of_aggregation {record : UserRecord} {others : List UserRecord}
    {outcome : Except Fault (List Authority)} {acts : List Act}
    (husers : config.usersFound executor u = .ok (record :: others))
    (ha : Aggregation (config.grants hook) executor record.username outcome acts) :
    config.Unauthorised hook executor u ↔
      ∃ name, outcome = .error (.failure .noAuthority name) := by
  constructor
  · rintro ⟨record', others', name, husers', hraised⟩
    cases husers.symm.trans husers'
    obtain ⟨acts', ha'⟩ := raised_iff_aggregation.mp hraised
    cases ha.run_eq.symm.trans ha'.run_eq
    exact ⟨name, rfl⟩
  · rintro ⟨name, rfl⟩
    exact ⟨record, others, name, husers, raised_iff_aggregation.mpr ⟨acts, ha⟩⟩

theorem not_unknown_of_loaded {record : UserRecord} {others : List UserRecord}
    (husers : config.usersFound executor u = .ok (record :: others)) :
    ¬config.Unknown executor u := by
  intro hunknown
  cases husers.symm.trans (usersFound_eq_ok_nil_iff.mpr hunknown)

theorem not_unauthorised_of_usersFound {found : Except Fault (List UserRecord)}
    (husers : config.usersFound executor u = found)
    (hnone : ∀ record others, found ≠ .ok (record :: others)) :
    ¬config.Unauthorised hook executor u := by
  rintro ⟨record, others, name, hloaded, -⟩
  exact hnone record others (husers.symm.trans hloaded)

/-- How a lookup ends and what it writes, one rule for each line of the table. -/
inductive Entered (config : Config) (hook : Option Hook) (executor : Executor) (u : String) :
    Except Fault Principal → List LogEntry → Prop
  | resolved {p : Principal} :
      ¬config.Unknown executor u → ¬config.Unauthorised hook executor u →
      Entered config hook executor u (.ok p) [entryResolved p]
  | unknown :
      config.Unknown executor u → ¬config.Unauthorised hook executor u →
      Entered config hook executor u (.error (.failure .userNotFound u)) [entryUserNotFound u]
  | unauthorised :
      ¬config.Unknown executor u → config.Unauthorised hook executor u →
      Entered config hook executor u (.error (.failure .noAuthority u)) [entryNoAuthority u]
  | silent {fault : Fault} :
      ¬config.Unknown executor u → ¬config.Unauthorised hook executor u →
      Entered config hook executor u (.error fault) []

theorem Resolution.entered {outcome : Except Fault Principal} {acts : List Act}
    (h : Resolution config hook executor u outcome acts) :
    Entered config hook executor u outcome (logEntries acts) := by
  cases h with
  | usersFail hfail =>
      refine .silent (fun hunknown => ?_) (not_unauthorised_of_usersFound hfail nofun)
      cases hfail.symm.trans (usersFound_eq_ok_nil_iff.mpr hunknown)
  | unknown hnone =>
      exact .unknown (usersFound_eq_ok_nil_iff.mp hnone)
        (not_unauthorised_of_usersFound hnone nofun)
  | @unauthorised record others name acts husers ha =>
      have hentries : logEntries (config.askingUsers u ::
          (acts ++ [.noted (.logged (entryNoAuthority u))])) = [entryNoAuthority u] := by
        show logEntries (acts ++ _) = _
        rw [logEntries_append, ha.logEntries_eq_nil]
        rfl
      rw [hentries]
      exact .unauthorised (not_unknown_of_loaded husers)
        ((unauthorised_iff_of_aggregation husers ha).mpr ⟨name, rfl⟩)
  | @fails record others fault acts husers ha hne =>
      have hentries : logEntries (config.askingUsers u :: acts) = [] := ha.logEntries_eq_nil
      rw [hentries]
      refine .silent (not_unknown_of_loaded husers) fun hwant => ?_
      obtain ⟨name, heq⟩ := (unauthorised_iff_of_aggregation husers ha).mp hwant
      cases heq
      exact hne name rfl
  | @resolved record others authorities acts husers ha =>
      have hentries : logEntries (config.askingUsers u :: (acts ++
          [.noted (.logged (entryResolved (config.principal u record authorities)))])) =
            [entryResolved (config.principal u record authorities)] := by
        show logEntries (acts ++ _) = _
        rw [logEntries_append, ha.logEntries_eq_nil]
        rfl
      rw [hentries]
      refine .resolved (not_unknown_of_loaded husers) fun hwant => ?_
      obtain ⟨name, heq⟩ := (unauthorised_iff_of_aggregation husers ha).mp hwant
      cases heq

theorem entered_resolve (config : Config) (hook : Option Hook) (executor : Executor) (u : String) :
    Entered config hook executor u ((resolve config hook u).run executor).1
      (logEntries ((resolve config hook u).run executor).2) := by
  obtain ⟨outcome, acts, hr⟩ := resolution_run config hook executor u
  rw [hr.run_eq]
  exact hr.entered

/-! ## Reading the table backwards -/

def Tells (entries : List LogEntry) (event : String) : Prop :=
  ∃ entry ∈ entries, entry.event = event

@[simp] theorem not_tells_nil {event : String} : ¬Tells [] event := by
  rintro ⟨entry, hentry, -⟩
  cases hentry

@[simp] theorem tells_singleton {entry : LogEntry} {event : String} :
    Tells [entry] event ↔ entry.event = event := by
  simp only [Tells, List.mem_singleton, exists_eq_left]

namespace Entered

variable {outcome : Except Fault Principal} {entries : List LogEntry}

theorem tells_resolved_iff (h : Entered config hook executor u outcome entries) :
    Tells entries "principal_resolved" ↔ ∃ p, outcome = .ok p := by
  cases h with
  | resolved _ _ => simp [entryResolved]
  | unknown _ _ => simp [entryUserNotFound]
  | unauthorised _ _ => simp [entryNoAuthority]
  | silent _ _ => simp

theorem tells_unknown_iff (h : Entered config hook executor u outcome entries) :
    Tells entries "user_not_found" ↔ config.Unknown executor u := by
  cases h with
  | resolved hno _ => simp [entryResolved, hno]
  | unknown hyes _ => simp [entryUserNotFound, hyes]
  | unauthorised hno _ => simp [entryNoAuthority, hno]
  | silent hno _ => simp [hno]

theorem tells_unauthorised_iff (h : Entered config hook executor u outcome entries) :
    Tells entries "no_authority_found" ↔ config.Unauthorised hook executor u := by
  cases h with
  | resolved _ hno => simp [entryResolved, hno]
  | unknown _ hno => simp [entryUserNotFound, hno]
  | unauthorised _ hyes => simp [entryNoAuthority, hyes]
  | silent _ hno => simp [hno]

theorem eq_nil_iff (h : Entered config hook executor u outcome entries) :
    entries = [] ↔ (∃ fault, outcome = .error fault) ∧ ¬config.Unknown executor u ∧
      ¬config.Unauthorised hook executor u := by
  cases h with
  | resolved _ _ => simp
  | unknown hyes _ => simp [hyes]
  | unauthorised _ hyes => simp [hyes]
  | silent hunknown hunauthorised => simp [hunknown, hunauthorised]

theorem length_le_one (h : Entered config hook executor u outcome entries) :
    entries.length ≤ 1 := by
  cases h with
  | resolved _ _ => exact Nat.le_refl 1
  | unknown _ _ => exact Nat.le_refl 1
  | unauthorised _ _ => exact Nat.le_refl 1
  | silent _ _ => exact Nat.zero_le 1

end Entered

/-! ## The statement -/

/-- What a lookup writes into the log, in clauses: `outcome` is how it ended and `entries` is all it
wrote. -/
structure LogTrail (config : Config) (hook : Option Hook) (executor : Executor) (u : String)
    (outcome : Except Fault Principal) (entries : List LogEntry) : Prop where
  /-- A principal is returned: there is one entry, about the principal, and it counts an authority
  as often as the principal has it. -/
  resolved : ∀ p, outcome = .ok p → entries =
    [⟨"principal_resolved", .debug,
      [("username", .text p.username), ("enabled", .bool p.enabled),
        ("authority_count", .int p.authorities.length)]⟩]
  /-- There is such an entry only then. -/
  tellsResolved : Tells entries "principal_resolved" ↔ ∃ p, outcome = .ok p
  /-- No row: there is one entry, about the username that was asked for. -/
  unknown : config.Unknown executor u → entries =
    [⟨"user_not_found", .info, [("username", .text u)]⟩]
  /-- There is such an entry only then. -/
  tellsUnknown : Tells entries "user_not_found" ↔ config.Unknown executor u
  /-- A want of authorities in the second half: there is one entry, about the username that was
  asked for. -/
  unauthorised : config.Unauthorised hook executor u → entries =
    [⟨"no_authority_found", .info, [("username", .text u)]⟩]
  /-- There is such an entry only then. -/
  tellsUnauthorised :
    Tells entries "no_authority_found" ↔ config.Unauthorised hook executor u
  /-- Every other failure is silent, and nothing but a failure is. -/
  silent : entries = [] ↔ (∃ fault, outcome = .error fault) ∧ ¬config.Unknown executor u ∧
    ¬config.Unauthorised hook executor u
  /-- A failure of the users query is silent, whatever it says. -/
  usersQuery : ∀ fault, executor (lookingUp config.usersQuery u) = .error fault →
    outcome = .error fault ∧ entries = []
  /-- A failure of the second half that is no want of authorities is silent, and one that says that
  there is no such user is no exception. -/
  raised : ∀ record others fault, config.usersFound executor u = .ok (record :: others) →
    Raised (config.grants hook) executor record.username fault →
    (∀ name, fault ≠ .failure .noAuthority name) → outcome = .error fault ∧ entries = []
  /-- The cases exclude each other. -/
  single : entries.length ≤ 1

theorem logTrail_resolve (config : Config) (hook : Option Hook) (executor : Executor)
    (u : String) :
    LogTrail config hook executor u ((resolve config hook u).run executor).1
      (logEntries ((resolve config hook u).run executor).2) := by
  have hentered := entered_resolve config hook executor u
  have husers : ∀ fault, executor (lookingUp config.usersQuery u) = .error fault →
      ((resolve config hook u).run executor).1 = .error fault :=
    fun fault hfault => resolve_of_usersFound_error (usersFound_of_fault hfault)
  have hraised : ∀ record others fault, config.usersFound executor u = .ok (record :: others) →
      Raised (config.grants hook) executor record.username fault →
      (∀ name, fault ≠ .failure .noAuthority name) →
      ((resolve config hook u).run executor).1 = .error fault :=
    fun record others fault hloaded hfault => (resolve_of_raised hloaded hfault).2
  -- From here on all that counts of the run is by which rule it was entered.
  generalize ((resolve config hook u).run executor).1 = outcome at hentered husers hraised ⊢
  generalize logEntries ((resolve config hook u).run executor).2 = entries at hentered ⊢
  refine ⟨?_, hentered.tells_resolved_iff, ?_, hentered.tells_unknown_iff, ?_,
    hentered.tells_unauthorised_iff, hentered.eq_nil_iff, ?_, ?_, hentered.length_le_one⟩
  · rintro p rfl
    cases hentered with
    | resolved _ _ => rfl
  · intro hunknown
    cases hentered with
    | unknown _ _ => rfl
    | resolved hno _ => exact absurd hunknown hno
    | unauthorised hno _ => exact absurd hunknown hno
    | silent hno _ => exact absurd hunknown hno
  · intro hwant
    cases hentered with
    | unauthorised _ _ => rfl
    | resolved _ hno => exact absurd hwant hno
    | unknown _ hno => exact absurd hwant hno
    | silent _ hno => exact absurd hwant hno
  · intro fault hfault
    refine ⟨husers fault hfault, hentered.eq_nil_iff.mpr ⟨⟨fault, husers fault hfault⟩, ?_, ?_⟩⟩
    · intro hunknown
      cases hfault.symm.trans hunknown
    · exact not_unauthorised_of_usersFound (usersFound_of_fault hfault) nofun
  · intro record others fault hloaded hfault hne
    have houtcome := hraised record others fault hloaded hfault hne
    refine ⟨houtcome, hentered.eq_nil_iff.mpr
      ⟨⟨fault, houtcome⟩, not_unknown_of_loaded hloaded, fun hwant => ?_⟩⟩
    obtain ⟨acts, ha⟩ := raised_iff_aggregation.mp hfault
    obtain ⟨name, heq⟩ := (unauthorised_iff_of_aggregation hloaded ha).mp hwant
    cases heq
    exact hne name rfl

end Lookup

/-- The log tells how a lookup ended, whatever the configuration, the hook, what answers the queries
and the username are.  Of lookups one after the other each leaves the entries it leaves alone. -/
theorem resolve_logTrail (config : Config) (hook : Option Hook) (executor : Executor) :
    (∀ u, LogTrail config hook executor u ((resolve config hook u).run executor).1
      (logEntries ((resolve config hook u).run executor).2)) ∧
    ∀ usernames, List.Forall₂ (fun u step =>
        LogTrail config hook executor u step.1 (logEntries step.2) ∧
        logEntries step.2 = logEntries ((resolve config hook u).run executor).2)
      usernames (resolveAll config hook executor usernames) := by
  refine ⟨logTrail_resolve config hook executor, ?_⟩
  intro usernames
  unfold resolveAll
  rw [List.forall₂_map_right_iff]
  refine List.forall₂_same.mpr ?_
  intro u _
  exact ⟨logTrail_resolve config hook executor u, rfl⟩

-- The store spells the user `Bob` and the hook is in want of somebody else: the entry is about
-- `bob`.
example :
    logEntries ((resolve {}
      (some (Script.hook { edits := [.fail (.failure .noAuthority "Carol")] })) "bob").run
      (preparedStore
        [⟨Query.defaultUsers, none, .ok [[.text "Bob", .text "secret", .int 1]]⟩,
          ⟨Query.defaultAuthorities, none, .ok [[.text "Bob", .text "READER"]]⟩])).2 =
      [entryNoAuthority "bob"] := by
  rfl

end Entitlement.Lookup
