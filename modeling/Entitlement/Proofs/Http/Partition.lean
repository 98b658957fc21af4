import Entitlement.Http.Server
import Entitlement.Proofs.Lookup.Absence

/-!
# `Entitlement.Proofs.Http.Partition` — what a status says about a lookup

Three statuses are answers, and each stands for one way in which a lookup can end:

| status | the lookup |
| :-- | :-- |
| 200 | came to a principal |
| 404 | failed because there is no such user |
| 403 | failed because nothing is granted |

Both failures may also be raised by a query or by a hook, about anybody, and they are answered with
the name they carry.  The lookup itself raises them about the username that was asked for and never
about the store's spelling.  Every other failure, the general one among the failures of lookups, is
none of the three answers and is raised again (`Answered`, one rule for each row and one for the
rest).

With the default queries and no hook nobody else raises them, and the two statuses are a matter of the
rows: `ByRows`, for all tables that any steps lead to from the empty ones.  A server at work is its
store at work (`Server.session_run`), so this is what a server answers after any steps
(`Server.run_byRows`).
-/
namespace Entitlement.Http

open Lookup (Config Hook Executor resolve)
open Store (Tables Database Session)

/-! ## Responses -/

/-- A failure that has an answer of its own. -/
def IsAbsence (fault : Fault) : Prop :=
  ∃ kind name, kind ≠ .lookupFailed ∧ fault = .failure kind name

inductive Answered : Except Fault Principal → Response → Prop
  | found (p : Principal) :
      Answered (.ok p) { status := 200, body := .json (.object (principalFields p)) }
  | notFound (name : String) : Answered (.error (.failure .userNotFound name))
      { status := 404, body := saying "detail" (LookupFailure.mk .userNotFound name).text }
  | forbidden (name : String) : Answered (.error (.failure .noAuthority name))
      { status := 403, body := saying "detail" (LookupFailure.mk .noAuthority name).text }
  | failed {fault : Fault} : ¬IsAbsence fault → Answered (.error fault)
      { status := 500, body := .text "Internal Server Error", raised := some fault }

theorem answered_ofLookup (outcome : Except Fault Principal) :
    Answered outcome (.ofLookup outcome) := by
  -- Only a failure of a lookup can be an absence, and among these the general one is none.
  have hother : ∀ {fault : Fault}, (∀ failure, fault ≠ .lookup failure) → ¬IsAbsence fault := by
    rintro fault hne ⟨kind, name, -, rfl⟩
    exact hne _ rfl
  cases outcome with
  | ok p => exact .found p
  | error fault =>
      cases fault with
      | lookup failure =>
          obtain ⟨kind, name⟩ := failure
          cases kind with
          | lookupFailed =>
              refine .failed ?_
              rintro ⟨kind, other, hkind, heq⟩
              cases heq
              exact hkind rfl
          | userNotFound => exact .notFound name
          | noAuthority => exact .forbidden name
      | _ => exact .failed (hother nofun)

section Answered

variable {outcome : Except Fault Principal} {response : Response}

theorem Answered.notFound_iff (h : Answered outcome response) :
    response.status = 404 ↔ ∃ name, outcome = .error (.failure .userNotFound name) := by
  cases h with
  | found => exact ⟨nofun, nofun⟩
  | notFound name => exact ⟨fun _ => ⟨name, rfl⟩, fun _ => rfl⟩
  | forbidden => exact ⟨nofun, nofun⟩
  | failed hother =>
      refine ⟨nofun, ?_⟩
      rintro ⟨name, heq⟩
      exact absurd ⟨.userNotFound, name, by decide, Except.error.inj heq⟩ hother

theorem Answered.forbidden_iff (h : Answered outcome response) :
    response.status = 403 ↔ ∃ name, outcome = .error (.failure .noAuthority name) := by
  cases h with
  | found => exact ⟨nofun, nofun⟩
  | notFound => exact ⟨nofun, nofun⟩
  | forbidden name => exact ⟨fun _ => ⟨name, rfl⟩, fun _ => rfl⟩
  | failed hother =>
      refine ⟨nofun, ?_⟩
      rintro ⟨name, heq⟩
      exact absurd ⟨.noAuthority, name, by decide, Except.error.inj heq⟩ hother

theorem Answered.found_iff (h : Answered outcome response) :
    response.status = 200 ↔ ∃ p, outcome = .ok p := by
  cases h with
  | found p => exact ⟨fun _ => ⟨p, rfl⟩, fun _ => rfl⟩
  | notFound => exact ⟨nofun, nofun⟩
  | forbidden => exact ⟨nofun, nofun⟩
  | failed => exact ⟨nofun, nofun⟩

theorem Answered.detail (h : Answered outcome response) {kind : FailureKind} {name : String}
    (hkind : kind ≠ .lookupFailed) (hfailure : outcome = .error (.failure kind name)) :
    ∃ text, (LookupFailure.mk kind name).render none = .ok text ∧
      response.body = .json (.object [("detail", .text text)]) ∧ response.raised = none := by
  refine ⟨_, LookupFailure.render_none ⟨kind, name⟩, ?_⟩
  cases h with
  | found => cases hfailure
  | notFound =>
      cases hfailure
      exact ⟨rfl, rfl⟩
  | forbidden =>
      cases hfailure
      exact ⟨rfl, rfl⟩
  | failed hother => exact absurd ⟨kind, name, hkind, Except.error.inj hfailure⟩ hother

end Answered

/-! ## Whose name is shown -/

/-- A failure was raised, as it is, by a query or by the hook. -/
def RaisedBy (hook : Option Hook) (executor : Executor) (fault : Fault) : Prop :=
  (∃ question, executor question = .error fault) ∨
    ∃ h spelling found, hook = some h ∧ h.outcome spelling found = .error fault

section Shown

variable {config : Config} {hook : Option Hook} {executor : Executor} {u : String}

theorem raisedBy_of_usersFound {kind : FailureKind} {name : String}
    (h : config.usersFound executor u = .error (.failure kind name)) :
    RaisedBy hook executor (.failure kind name) := by
  cases hanswer : executor (Lookup.lookingUp config.usersQuery u) with
  | error fault =>
      rw [Lookup.usersFound_of_fault hanswer] at h
      cases h
      exact .inl ⟨_, hanswer⟩
  | ok rows =>
      rw [Lookup.usersFound_of_rows hanswer] at h
      obtain ⟨row, -, hrow⟩ := Lookup.refusal_of_readRows h
      rcases Lookup.readUser_refusal hrow with heq | heq <;> cases heq

theorem raisedBy_of_raised {spelling : String} {kind : FailureKind} {name : String}
    (h : Lookup.Raised (config.grants hook) executor spelling (.failure kind name))
    (hne : kind ≠ .noAuthority) : RaisedBy hook executor (.failure kind name) := by
  generalize hfault : Fault.failure kind name = fault at h
  cases h with
  | byQuery _ _ hquery => exact .inl ⟨_, hquery⟩
  | byRow _ _ _ hread => exact absurd hfault.symm (Lookup.not_failure_of_readAuthority hread _ _)
  | byHook hhook _ hraised => exact .inr ⟨_, _, _, hhook, hraised⟩
  | byWant =>
      cases hfault
      exact absurd rfl hne

/-- A failure of a lookup is about the username that was asked for, unless somebody else raised it
as it is. -/
theorem shown_of_resolve {kind : FailureKind} {name : String}
    (h : ((resolve config hook u).run executor).1 = .error (.failure kind name)) :
    name = u ∨ RaisedBy hook executor (.failure kind name) := by
  cases hfound : config.usersFound executor u with
  | error fault =>
      rw [Lookup.resolve_of_usersFound_error hfound] at h
      cases h
      exact .inr (raisedBy_of_usersFound hfound)
  | ok records =>
      cases records with
      | nil =>
          rw [(Lookup.Resolution.unknown hfound).run_eq] at h
          cases h
          exact .inl rfl
      | cons record others =>
          rcases Lookup.raised_of_resolve hfound h with ⟨hwant, -⟩ | ⟨hne, hraised⟩
          · cases hwant
            exact .inl rfl
          · refine .inr (raisedBy_of_raised hraised ?_)
            rintro rfl
            exact hne name rfl

end Shown

/-! ## Stores that are reached -/

/-- Tables that some steps lead to from the empty ones. -/
def Reached (tables : Tables) : Prop :=
  ∃ config hook steps, ((Session.mk (some {}) config hook).run steps).1.database = some tables

theorem Reached.sound {tables : Tables} (h : Reached tables) : tables.Sound := by
  obtain ⟨config, hook, steps, hrun⟩ := h
  obtain ⟨tables', htables, hsound⟩ :=
    @Session.run_tables ⟨some {}, config, hook⟩ {} rfl Tables.sound_empty steps
  cases htables.symm.trans hrun
  exact hsound

/-- How a response is a matter of the rows about a username. -/
structure ByRows (config : Config) (tables : Tables) (u : String) (response : Response) : Prop where
  /-- 404: no row of the users has the username. -/
  notFound : response.status = 404 ↔ ¬tables.Knows u
  /-- 403: such a row, with a name, and in no source that is switched on a row about it. -/
  forbidden : response.status = 403 ↔ tables.Knows u ∧ u ≠ "" ∧
    ∀ source, (config.grants none).enabled source = true → ¬tables.GrantsTo u source
  /-- The name in both answers is the one that was asked for. -/
  named : (response.status = 404 →
      response.body = saying "detail" ("Username " ++ u ++ " not found")) ∧
    (response.status = 403 →
      response.body = saying "detail" ("User " ++ u ++ " has no granted authority"))

theorem byRows_of_ending {config : Config} {tables : Tables} {u : String}
    {outcome : Except Fault Principal} (h : Lookup.Ending config tables u outcome) :
    ByRows config tables u (.ofLookup outcome) where
  notFound := (answered_ofLookup outcome).notFound_iff.trans h.unknown_iff
  forbidden := (answered_ofLookup outcome).forbidden_iff.trans h.unauthorised_iff
  named := by
    constructor
    · intro hstatus
      obtain ⟨name, heq⟩ := (answered_ofLookup outcome).notFound_iff.mp hstatus
      cases h with
      | unknown => rfl
      | unauthorised => cases heq
      | refused _ _ hother => exact absurd (Except.error.inj heq) (hother _ _)
      | resolved => cases heq
    · intro hstatus
      obtain ⟨name, heq⟩ := (answered_ofLookup outcome).forbidden_iff.mp hstatus
      cases h with
      | unknown => cases heq
      | unauthorised => rfl
      | refused _ _ hother => exact absurd (Except.error.inj heq) (hother _ _)
      | resolved => cases heq

/-! ## Servers at work -/

def Step.onStore : Step → List Store.Step
  | .add t fields => [.add t fields]
  | .addRow t row => [.addRow t row]
  | .create => [.create]
  | .request _ => []

namespace Server

theorem session_logEntries (server : Server) (entries : List Lookup.LogEntry) :
    (server.logEntries entries).1.session = server.session := by
  induction entries generalizing server with
  | nil => rfl
  | cons entry rest ih =>
      rw [logEntries]
      exact ih _

theorem session_request (server : Server) (asked : Request) :
    (server.request asked).1.session = server.session := by
  unfold request
  split
  · rename_i route _
    cases route with
    | principal username => exact session_logEntries _ _
    | health => rfl
    | readiness => rfl
    | documentation => rfl
  · rfl
  · rfl
  · rfl

theorem session_step (server : Server) (step : Step) :
    (server.step step).1.session = (server.session.run step.onStore).1 := by
  cases step with
  | add => rfl
  | addRow => rfl
  | create => rfl
  | request asked => exact server.session_request asked

/-- The run lemma: a server at work is its store at work. -/
theorem session_run (server : Server) (steps : List Step) :
    (server.run steps).1.session = (server.session.run (steps.flatMap Step.onStore)).1 := by
  induction steps generalizing server with
  | nil => rfl
  | cons step rest ih =>
      rw [List.flatMap_cons, Session.run_append, ← server.session_step]
      exact ih _

theorem lookups_step (server : Server) (step : Step) :
    (server.step step).1.session.config = server.session.config ∧
      (server.step step).1.session.hook = server.session.hook := by
  have hinsert : ∀ (number : Store.Record → Option Value)
      (result : Except Store.Fault (Tables × Store.Record)),
      (server.session.afterInsert number result).1.config = server.session.config ∧
        (server.session.afterInsert number result).1.hook = server.session.hook := by
    intro number result
    cases result with
    | ok inserted => exact ⟨rfl, rfl⟩
    | error fault => exact ⟨rfl, rfl⟩
  cases step with
  | add => exact hinsert _ _
  | addRow => exact hinsert _ _
  | create => exact ⟨rfl, rfl⟩
  | request asked =>
      have hsame : (server.step (.request asked)).1.session = server.session :=
        server.session_request asked
      rw [hsame]
      exact ⟨rfl, rfl⟩

theorem lookups_run (server : Server) (steps : List Step) :
    (server.run steps).1.session.config = server.session.config ∧
      (server.run steps).1.session.hook = server.session.hook := by
  induction steps generalizing server with
  | nil => exact ⟨rfl, rfl⟩
  | cons step rest ih =>
      obtain ⟨hconfig, hhook⟩ := server.lookups_step step
      exact ⟨(ih _).1.trans hconfig, (ih _).2.trans hhook⟩

/-- A server that began with empty tables answers by the rows it has, whatever was done with it. -/
theorem run_byRows {server : Server} (hdatabase : server.session.database = some {})
    (hhook : server.session.hook = none) (hconfig : server.session.config.AsksDefaults)
    (steps : List Step) (u : String) :
    ∃ tables, (server.run steps).1.session.database = some tables ∧
      ByRows server.session.config tables u
        ((server.run steps).1.answer (.principal u)).2.1 := by
  obtain ⟨tables, htables, hsound⟩ :=
    Session.run_tables hdatabase Tables.sound_empty (steps.flatMap Step.onStore)
  rw [← server.session_run] at htables
  obtain ⟨hsameConfig, hsameHook⟩ := server.lookups_run steps
  refine ⟨tables, htables, ?_⟩
  rw [← hsameConfig] at hconfig ⊢
  have hending := Lookup.ending_of_sound hconfig hsound u
  rw [← htables, ← hhook, ← hsameHook] at hending
  exact byRows_of_ending hending

end Server

/-! ## The statement -/

/-- What a response says about the lookup it answers. -/
structure Partition (config : Config) (hook : Option Hook) (executor : Executor) (u : String)
    (outcome : Except Fault Principal) (response : Response) : Prop where
  /-- It is what a server with this configuration, hook and store answers. -/
  handler : ∀ server : Server, server.session.config = config → server.session.hook = hook →
    server.session.database.executor = executor →
    (server.answer (.principal u)).2.1 = response
  /-- 404: there is no such user. -/
  notFound : response.status = 404 ↔ ∃ name, outcome = .error (.failure .userNotFound name)
  /-- 403: nothing is granted. -/
  forbidden : response.status = 403 ↔ ∃ name, outcome = .error (.failure .noAuthority name)
  /-- 200: there is a principal. -/
  found : response.status = 200 ↔ ∃ p, outcome = .ok p
  /-- Both failures are answered with their default text for the name they carry. -/
  detail : ∀ kind name, kind ≠ .lookupFailed → outcome = .error (.failure kind name) →
    ∃ text, (LookupFailure.mk kind name).render none = .ok text ∧
      response.body = .json (.object [("detail", .text text)]) ∧ response.raised = none
  /-- A principal is answered with six fields; the authorities stand in its order, repetitions
  included. -/
  principal : ∀ p, outcome = .ok p →
    response.body = .json (.object
      [("username", .text p.username), ("enabled", .bool p.enabled),
        ("account_non_expired", .bool true), ("account_non_locked", .bool true),
        ("credentials_non_expired", .bool true),
        ("authorities", .list (p.authorities.map fun authority => .text authority.name))]) ∧
      response.raised = none
  /-- The answer would be the same with any other password. -/
  secret : ∀ p password, outcome = .ok p → Response.ofLookup (.ok { p with password }) = response
  /-- Every other failure is none of the three answers and is raised again. -/
  other : ∀ fault, outcome = .error fault → ¬IsAbsence fault →
    response.raised = some fault ∧ response.status ∉ [200, 403, 404]
  /-- That nobody is found is said of the username that was asked for. -/
  nobody : config.usersFound executor u = .ok [] → outcome = .error (.failure .userNotFound u)
  /-- So is a want of authorities, once a user is found, whoever raised it. -/
  nothing : ∀ record others name, config.usersFound executor u = .ok (record :: others) →
    outcome = .error (.failure .noAuthority name) → name = u
  /-- Somebody else is named only where a query or the hook did so. -/
  shown : ∀ kind name, outcome = .error (.failure kind name) →
    name = u ∨ RaisedBy hook executor (.failure kind name)
  /-- With the default queries and no hook, 404 and 403 are a matter of the rows. -/
  byRows : hook = none → config.AsksDefaults → ∀ tables, Reached tables →
    executor = Database.executor (some tables) → ByRows config tables u response

/-- Every lookup is answered that way. -/
theorem resolve_partition (config : Config) (hook : Option Hook) (executor : Executor)
    (u : String) :
    Partition config hook executor u ((resolve config hook u).run executor).1
      (.ofLookup ((resolve config hook u).run executor).1) where
  handler := by
    rintro server rfl rfl rfl
    rfl
  notFound := (answered_ofLookup _).notFound_iff
  forbidden := (answered_ofLookup _).forbidden_iff
  found := (answered_ofLookup _).found_iff
  detail := fun kind name hkind h => (answered_ofLookup _).detail hkind h
  principal := by
    intro p h
    rw [h]
    refine ⟨?_, rfl⟩
    show Body.json (.object (principalFields p)) = _
    rw [principalFields, Principal.names, List.map_map]
    rfl
  secret := by
    intro p password h
    rw [h]
    rfl
  other := by
    intro fault h hother
    have hanswered := answered_ofLookup ((resolve config hook u).run executor).1
    generalize Response.ofLookup ((resolve config hook u).run executor).1 = response at hanswered ⊢
    rw [h] at hanswered
    cases hanswered with
    | notFound name => exact absurd ⟨.userNotFound, name, by decide, rfl⟩ hother
    | forbidden name => exact absurd ⟨.noAuthority, name, by decide, rfl⟩ hother
    | failed =>
        refine ⟨rfl, ?_⟩
        show (500 : Nat) ∉ [200, 403, 404]
        decide
  nobody := fun h => by rw [(Lookup.Resolution.unknown h).run_eq]
  nothing := by
    intro record others name hfound h
    rcases Lookup.raised_of_resolve hfound h with ⟨hwant, -⟩ | ⟨hne, -⟩
    · cases hwant
      rfl
    · exact absurd rfl (hne name)
  shown := fun kind name h => shown_of_resolve h
  byRows := by
    rintro rfl hconfig tables hreached rfl
    exact byRows_of_ending (Lookup.ending_of_sound hconfig hreached.sound u)

/-- Tables with a user to whom nothing is granted. -/
def idleTables : Tables where
  users := [[.text "dave", .text "pw", .int 1]]

/-- Asked for in the store's spelling, the user is there and has nothing; in another one, nobody
is. -/
theorem resolve_partition_idle :
    Reached idleTables ∧
      (Response.ofLookup ((resolve {} none "dave").run
        (Database.executor (some idleTables))).1).status = 403 ∧
      (Response.ofLookup ((resolve {} none "Dave").run
        (Database.executor (some idleTables))).1).status = 404 := by
  have hreached : Reached idleTables :=
    ⟨{}, none, [.addRow .users [.text "dave", .text "pw", .bool true]], rfl⟩
  have hrows := fun u => (resolve_partition {} none (Database.executor (some idleTables)) u).byRows
    rfl ⟨rfl, rfl, rfl⟩ idleTables hreached rfl
  refine ⟨hreached, (hrows "dave").forbidden.mpr ⟨?_, by decide, ?_⟩,
    (hrows "Dave").notFound.mpr ?_⟩
  · exact ⟨_, List.mem_cons_self, rfl⟩
  · intro source _ hgrant
    cases source with
    | direct =>
        obtain ⟨record, hrecord, -⟩ := hgrant
        cases hrecord
    | group =>
        obtain ⟨group, hgroup, -⟩ := hgrant
        cases hgroup
  · rintro ⟨record, hrecord, hbears⟩
    cases List.mem_singleton.mp hrecord
    exact absurd hbears (by unfold Store.Bears; decide)

end Entitlement.Http
