import Entitlement.Proofs.Lookup.LogTrail
import Entitlement.Proofs.Lookup.Script
import Entitlement.Proofs.Lookup.Trace
import Entitlement.Proofs.Lookup.Union

/-!
# `Entitlement.Proofs.Lookup.HookFrame` — what a hook can change

A hook is given a list and may do to it what it likes.  What it cannot do is told here by a frame:
which lookups get as far as the hook, what such a lookup has in hand, and what is left to be decided.

| | |
| :-- | :-- |
| as far as the hook | `Config.Loads`: a user row, all user rows read, all sources read |
| what is in hand | the first user record, and the names of the sources, each once |
| what is left to be decided | `Config.Ends`, by what becomes of the list, and by nothing else |
| the statement | `resolve_framed`, in the clauses of `Framed` |

In front of the hook a lookup is the one without a hook, and where the hook is not reached it is that
lookup to its end.  Behind the hook only the list counts.  So the queries, the record, and with it the
username, the password and the flag of a principal are none of the hook's business.

A list is made anew in every lookup.  Of lookups one after the other each is offered what it would be
offered alone (`resolve_framed`, second half), whatever was done to the lists before.
-/
namespace Entitlement.Lookup

/-! ## As far as the hook -/

/-- The authorities of a source whose rows can all be read; none of a source that is switched off. -/
def Config.SourceLoads (config : Config) (executor : Executor) (r : String) (source : Source)
    (authorities : List Authority) : Prop :=
  if config.enabled source then
    ∃ rows, executor (lookingUp ((config.grants none).query source) r) = .ok rows ∧
      List.Forall₂ (fun row authority =>
        readAuthority source config.rolePrefix row = .ok authority) rows authorities
  else authorities = []

/-- What a lookup has in hand when it gets as far as the hook: the first user record, and what the
sources have for it, each name once. -/
structure Config.Loads (config : Config) (executor : Executor) (u : String) (record : UserRecord)
    (found : List Authority) : Prop where
  /-- There is a user row, and all user rows can be read. -/
  users : ∃ row rows others, executor (lookingUp config.usersQuery u) = .ok (row :: rows) ∧
    List.Forall₂ (fun row record => readUser row = .ok record) (row :: rows) (record :: others)
  /-- The sources are asked by the name of the record, and all their rows can be read. -/
  sources : ∃ direct group, config.SourceLoads executor record.username .direct direct ∧
    config.SourceLoads executor record.username .group group ∧
    FirstAppearances (direct ++ group) found

/-- How a lookup ends that has got as far as the hook, by what becomes of the list. -/
inductive Config.Ends (config : Config) (u : String) (record : UserRecord) :
    Except Fault (List Authority) → Except Fault Principal → Prop
  | granted {authorities : List Authority} :
      authorities ≠ [] →
      Ends config u record (.ok authorities)
        (.ok ⟨if config.usernameBasedPrimaryKey.truthy then record.username else u,
          record.password, record.enabled, authorities⟩)
  | nothingLeft : Ends config u record (.ok []) (.error (.failure .noAuthority u))
  | wanting {name : String} :
      Ends config u record (.error (.failure .noAuthority name))
        (.error (.failure .noAuthority u))
  | failed {fault : Fault} :
      (∀ name, fault ≠ .failure .noAuthority name) →
      Ends config u record (.error fault) (.error fault)

section Lookup

variable {config : Config} {hook : Option Hook} {executor : Executor} {u r : String}
  {record : UserRecord} {found : List Authority}

theorem sourceLoads_iff {source : Source} {authorities : List Authority} :
    config.SourceLoads executor r source authorities ↔
      (config.grants none).found executor source r = .ok authorities := by
  unfold Config.SourceLoads Config.enabled Grants.found recordsFrom
  split
  · rw [bind_readRows_eq_ok_iff]
    simp only [readRows_eq_ok_iff]
    rfl
  · constructor
    · rintro rfl
      rfl
    · intro h
      cases h
      rfl

/-- The hook is no part of what a lookup has in hand. -/
theorem loads_iff (hook : Option Hook) :
    config.Loads executor u record found ↔
      (∃ others, config.usersFound executor u = .ok (record :: others)) ∧
        (config.grants hook).Collects executor record.username found := by
  have husers : (∃ row rows others, executor (lookingUp config.usersQuery u) = .ok (row :: rows) ∧
      List.Forall₂ (fun row record => readUser row = .ok record) (row :: rows)
        (record :: others)) ↔
      ∃ others, config.usersFound executor u = .ok (record :: others) := by
    constructor
    · rintro ⟨row, rows, others, hrows, hread⟩
      exact ⟨others, bind_readRows_eq_ok_iff.mpr ⟨_, hrows, readRows_eq_ok_iff.mpr hread⟩⟩
    · rintro ⟨others, h⟩
      obtain ⟨rows, hrows, hread⟩ := bind_readRows_eq_ok_iff.mp h
      have hread' := readRows_eq_ok_iff.mp hread
      cases hread' with
      | @cons row _ rows _ hrecord hothers =>
          exact ⟨row, rows, others, hrows, .cons hrecord hothers⟩
  have hsources : (∃ direct group, config.SourceLoads executor record.username .direct direct ∧
      config.SourceLoads executor record.username .group group ∧
      FirstAppearances (direct ++ group) found) ↔
      (config.grants hook).Collects executor record.username found := by
    simp only [sourceLoads_iff]
    constructor
    · rintro ⟨direct, group, hdirect, hgroup, hfirst⟩
      exact ⟨direct, group, hdirect, hgroup, hfirst.unique (firstAppearances_distinct _)⟩
    · rintro ⟨direct, group, hdirect, hgroup, rfl⟩
      exact ⟨direct, group, hdirect, hgroup, firstAppearances_distinct _⟩
  constructor
  · intro h
    exact ⟨husers.mp h.users, hsources.mp h.sources⟩
  · rintro ⟨hu, hs⟩
    exact ⟨husers.mpr hu, hsources.mpr hs⟩

theorem Config.Loads.unique {record' : UserRecord} {found' : List Authority}
    (h : config.Loads executor u record found) (h' : config.Loads executor u record' found') :
    record = record' ∧ found = found' := by
  obtain ⟨⟨others, husers⟩, direct, group, hdirect, hgroup, rfl⟩ := (loads_iff none).mp h
  obtain ⟨⟨others', husers'⟩, direct', group', hdirect', hgroup', rfl⟩ := (loads_iff none).mp h'
  cases husers.symm.trans husers'
  cases hdirect.symm.trans hdirect'
  cases hgroup.symm.trans hgroup'
  exact ⟨rfl, rfl⟩

theorem Config.Loads.nodup (h : config.Loads executor u record found) : found.Nodup := by
  obtain ⟨direct, group, -, -, hfirst⟩ := h.sources
  exact hfirst.once

theorem Config.Loads.spelled (h : config.Loads executor u record found) :
    config.Spelled executor u record.username := by
  obtain ⟨⟨others, husers⟩, -⟩ := (loads_iff none).mp h
  exact spelled_of_usersFound husers

/-! ## Behind the hook -/

theorem Config.Ends.of_ok {left : Except Fault (List Authority)} {p : Principal}
    (h : config.Ends u record left (.ok p)) :
    left = .ok p.authorities ∧
      p.username = (if config.usernameBasedPrimaryKey.truthy then record.username else u) ∧
      p.password = record.password ∧ p.enabled = record.enabled := by
  cases h with
  | granted _ => exact ⟨rfl, rfl, rfl, rfl⟩

theorem hookCalls_logged (config : Config) (u : String) (acts : List Act) (entry : LogEntry) :
    hookCalls (config.askingUsers u :: (acts ++ [.noted (.logged entry)])) = hookCalls acts := by
  show hookCalls (acts ++ _) = _
  rw [hookCalls_append]
  exact List.append_nil _

/-- A lookup with everything in hand is left to the hook, which is called once. -/
theorem Config.Loads.ends (h : config.Loads executor u record found) (hook : Option Hook) :
    config.Ends u record (edited hook record.username found)
        ((resolve config hook u).run executor).1 ∧
      hookCalls ((resolve config hook u).run executor).2 =
        hookCalls (consulting hook record.username found) := by
  obtain ⟨⟨others, husers⟩, direct, group, hdirect, hgroup, rfl⟩ := (loads_iff hook).mp h
  have hrun := run_aggregate_of_found hdirect hgroup
  have ha := aggregate_run_iff.mp hrun
  have hcalls : hookCalls ((config.grants hook).asking .direct record.username ++
      (config.grants hook).asking .group record.username ++
        consulting hook record.username (distinct (direct ++ group))) =
      hookCalls (consulting hook record.username (distinct (direct ++ group))) := by
    simp only [hookCalls_append, hookCalls_asking, List.nil_append]
  have hhook : (config.grants hook).hook = hook := rfl
  rw [hhook] at ha
  cases hedited : edited hook record.username (distinct (direct ++ group)) with
  | ok left =>
      rw [hedited] at ha
      cases left with
      | nil =>
          rw [(Resolution.unauthorised husers ha).run_eq]
          exact ⟨.nothingLeft, (hookCalls_logged config u _ _).trans hcalls⟩
      | cons first rest =>
          rw [(Resolution.resolved husers ha).run_eq]
          exact ⟨.granted (List.cons_ne_nil _ _), (hookCalls_logged config u _ _).trans hcalls⟩
  | error fault =>
      rw [hedited] at ha
      by_cases hwant : ∃ name, fault = .failure .noAuthority name
      · obtain ⟨name, rfl⟩ := hwant
        rw [(Resolution.unauthorised husers ha).run_eq]
        exact ⟨.wanting, (hookCalls_logged config u _ _).trans hcalls⟩
      · have hother := not_exists.mp hwant
        rw [(Resolution.fails husers ha hother).run_eq]
        exact ⟨.failed hother, hcalls⟩

/-- Hooks that leave the same of every list make the same lookup, whether they do it when they are
called or while they are waited for. -/
theorem resolve_congr {hook hook' : Hook}
    (h : ∀ r found, hook.outcome r found = hook'.outcome r found) (config : Config) (u : String) :
    resolve config (some hook) u = resolve config (some hook') u := by
  have hextend : extend (some hook) = extend (some hook') := by
    funext r found
    simp only [extend, h]
  have haggregate : aggregate (config.grants (some hook)) =
      aggregate (config.grants (some hook')) := by
    funext r
    simp only [aggregate, Grants.loadSource, Grants.enabled, Grants.query, Config.grants, hextend]
    rfl
  rw [resolve, haggregate, resolve]

/-! ## In front of the hook -/

theorem Aggregation.before_hook {outcome : Except Fault (List Authority)} {acts : List Act}
    (h : Aggregation (config.grants hook) executor r outcome acts)
    (hnot : ¬∃ found, (config.grants hook).Collects executor r found) :
    Aggregation (config.grants none) executor r outcome acts ∧ hookCalls acts = [] := by
  cases h with
  | directFails hd => exact ⟨.directFails hd, hookCalls_asking _ _ _⟩
  | groupFails hd hg =>
      refine ⟨.groupFails hd hg, ?_⟩
      simp only [hookCalls_append, hookCalls_asking, List.append_nil]
  | hookFails hd hg _ => exact absurd ⟨_, _, _, hd, hg, rfl⟩ hnot
  | nothingLeft hd hg _ => exact absurd ⟨_, _, _, hd, hg, rfl⟩ hnot
  | granted hd hg _ _ => exact absurd ⟨_, _, _, hd, hg, rfl⟩ hnot

/-- A lookup that does not get as far as the hook is the lookup without one. -/
theorem run_of_not_loads (hnot : ¬∃ record found, config.Loads executor u record found)
    (hook : Option Hook) :
    (resolve config hook u).run executor = (resolve config none u).run executor ∧
      hookCalls ((resolve config hook u).run executor).2 = [] := by
  have hcollects : ∀ {record others}, config.usersFound executor u = .ok (record :: others) →
      ¬∃ found, (config.grants hook).Collects executor record.username found := by
    rintro record others husers ⟨found, hfound⟩
    exact hnot ⟨record, found, (loads_iff hook).mpr ⟨⟨others, husers⟩, hfound⟩⟩
  obtain ⟨outcome, acts, hr⟩ := resolution_run config hook executor u
  rw [hr.run_eq]
  cases hr with
  | usersFail hu => exact ⟨(Resolution.usersFail hu).run_eq.symm, rfl⟩
  | unknown hu => exact ⟨(Resolution.unknown hu).run_eq.symm, rfl⟩
  | unauthorised hu ha =>
      obtain ⟨ha', hcalls⟩ := ha.before_hook (hcollects hu)
      exact ⟨(Resolution.unauthorised hu ha').run_eq.symm,
        (hookCalls_logged config u _ _).trans hcalls⟩
  | fails hu ha hne =>
      obtain ⟨ha', hcalls⟩ := ha.before_hook (hcollects hu)
      exact ⟨(Resolution.fails hu ha' hne).run_eq.symm, hcalls⟩
  | resolved hu ha =>
      obtain ⟨ha', hcalls⟩ := ha.before_hook (hcollects hu)
      exact ⟨(Resolution.resolved hu ha').run_eq.symm,
        (hookCalls_logged config u _ _).trans hcalls⟩

theorem loads_of_returned {p : Principal}
    (h : ((resolve config hook u).run executor).1 = .ok p) :
    ∃ record found, config.Loads executor u record found ∧
      config.Ends u record (edited hook record.username found) (.ok p) := by
  obtain ⟨outcome, acts, hr⟩ := resolution_run config hook executor u
  have hrun := hr.run_eq
  rw [hrun] at h
  cases hr with
  | usersFail => cases h
  | unknown => cases h
  | unauthorised => cases h
  | fails => cases h
  | @resolved record others authorities acts hu ha =>
      cases ha with
      | granted hd hg _ _ =>
          have hloads := (loads_iff hook).mpr ⟨⟨others, hu⟩, _, _, hd, hg, rfl⟩
          have hends := (hloads.ends hook).1
          rw [hrun, h] at hends
          exact ⟨record, _, hloads, hends⟩

/-! ## The statement -/

/-- What a script makes of the lookup of a username, in clauses: `run` is the lookup with the
script. -/
structure Framed (config : Config) (executor : Executor) (script : Script) (u : String)
    (run : Except Fault Principal × List Act) : Prop where
  /-- The queries are those of the lookup without a hook. -/
  asked : questions run.2 = questions ((resolve config none u).run executor).2
  /-- With everything in hand the script is called once, with the name of the record, which is how
  the store spells it, and with the list, which has no repetitions. -/
  called : ∀ record found, config.Loads executor u record found →
    hookCalls run.2 = [(record.username, found)] ∧
      config.Spelled executor u record.username ∧ found.Nodup
  /-- Otherwise it is never called, and the lookup is the one without a hook. -/
  uncalled : (¬∃ record found, config.Loads executor u record found) →
    hookCalls run.2 = [] ∧ run = (resolve config none u).run executor
  /-- So it is called exactly once or never, and the former only with everything in hand. -/
  once : (hookCalls run.2).length = 1 ↔ ∃ record found, config.Loads executor u record found
  /-- What the edits leave, in order, decides the end. -/
  ends : ∀ record found left, config.Loads executor u record found →
    Carried record.username script.edits found left → config.Ends u record left run.1
  /-- Without a hook the list decides it as it is. -/
  unhooked : ∀ record found, config.Loads executor u record found →
    config.Ends u record (.ok found) ((resolve config none u).run executor).1
  /-- An edit that is refused ends the lookup, whatever the edits in front of it left. -/
  refused : ∀ record found before edit after left fault,
    config.Loads executor u record found → script.edits = before ++ edit :: after →
    Carried record.username before found (.ok left) → edit.Refuses left fault →
    config.Ends u record (.error fault) run.1 ∧ ∀ p, run.1 ≠ .ok p
  /-- A principal is the record with what the edits left. -/
  returned : ∀ p, run.1 = .ok p → ∃ record found, config.Loads executor u record found ∧
    Carried record.username script.edits found (.ok p.authorities) ∧
    p.username = (if config.usernameBasedPrimaryKey.truthy then record.username else u) ∧
    p.password = record.password ∧ p.enabled = record.enabled
  /-- A principal that is returned without a hook, or with another one, differs in the authorities
  alone. -/
  frame : ∀ other p p', run.1 = .ok p →
    ((resolve config other u).run executor).1 = .ok p' →
    p.username = p'.username ∧ p.password = p'.password ∧ p.enabled = p'.enabled
  /-- Whether the script answers at once or later, and what it returns, changes nothing. -/
  form : ∀ awaited returned,
    (resolve config (some (Script.mk awaited script.edits returned).hook) u).run executor = run
  /-- Nor does it matter which edits are carried out at once and which later. -/
  split : ∀ hook : Hook, (∀ r found, hook.outcome r found = script.run r found) →
    (resolve config (some hook) u).run executor = run

theorem framed_resolve (config : Config) (executor : Executor) (script : Script) (u : String) :
    Framed config executor script u ((resolve config (some script.hook) u).run executor) := by
  have hends : ∀ record found left, config.Loads executor u record found →
      Carried record.username script.edits found left →
      config.Ends u record left ((resolve config (some script.hook) u).run executor).1 := by
    intro record found left hloads hcarried
    have hhook : edited (some script.hook) record.username found = left :=
      hook_eq_iff.mpr hcarried
    rw [← hhook]
    exact (hloads.ends (some script.hook)).1
  have hcalled : ∀ record found, config.Loads executor u record found →
      hookCalls ((resolve config (some script.hook) u).run executor).2 =
        [(record.username, found)] :=
    fun record found hloads => (hloads.ends (some script.hook)).2
  have hsplit : ∀ hook : Hook, (∀ r found, hook.outcome r found = script.run r found) →
      (resolve config (some hook) u).run executor =
        (resolve config (some script.hook) u).run executor := by
    intro hook houtcome
    rw [resolve_congr fun r found => (houtcome r found).trans (script.outcome_hook r found).symm]
  refine ⟨questions_resolve config _ executor u, ?_, ?_, ?_, hends, ?_, ?_, ?_, ?_, ?_, hsplit⟩
  · intro record found hloads
    exact ⟨hcalled record found hloads, hloads.spelled, hloads.nodup⟩
  · intro hnot
    obtain ⟨hrun, hcalls⟩ := run_of_not_loads hnot (some script.hook)
    exact ⟨hcalls, hrun⟩
  · constructor
    · intro hone
      by_contra hnot
      rw [(run_of_not_loads hnot (some script.hook)).2] at hone
      exact absurd hone (by decide)
    · rintro ⟨record, found, hloads⟩
      rw [hcalled record found hloads]
      rfl
  · intro record found hloads
    exact (hloads.ends none).1
  · intro record found before edit after left fault hloads hedits hbefore hrefuses
    have hcarried : Carried record.username script.edits found (.error fault) :=
      carried_error_iff.mpr ⟨before, edit, after, left, hedits, hbefore, hrefuses⟩
    have hend := hends record found _ hloads hcarried
    refine ⟨hend, ?_⟩
    intro p hp
    rw [hp] at hend
    cases hend
  · intro p hp
    obtain ⟨record, found, hloads, hend⟩ := loads_of_returned hp
    obtain ⟨hleft, hfields⟩ := hend.of_ok
    exact ⟨record, found, hloads, hook_eq_iff.mp hleft, hfields⟩
  · intro other p p' hp hp'
    obtain ⟨record, found, hloads, hend⟩ := loads_of_returned hp
    obtain ⟨record', found', hloads', hend'⟩ := loads_of_returned hp'
    obtain ⟨rfl, rfl⟩ := hloads.unique hloads'
    obtain ⟨-, hname, hpassword, hflag⟩ := hend.of_ok
    obtain ⟨-, hname', hpassword', hflag'⟩ := hend'.of_ok
    exact ⟨hname.trans hname'.symm, hpassword.trans hpassword'.symm, hflag.trans hflag'.symm⟩
  · intro awaited returned
    exact hsplit _ (Script.mk awaited script.edits returned).outcome_hook

end Lookup

/-- What a script can change is the list of authorities, and that there is none: this holds of every
configuration, executor, script and username, and of each of several lookups one after the other,
which comes to what it comes to alone. -/
theorem resolve_framed (config : Config) (executor : Executor) (script : Script) :
    (∀ u, Framed config executor script u
      ((resolve config (some script.hook) u).run executor)) ∧
    ∀ before u after, ∃ run,
      (resolveAll config (some script.hook) executor (before ++ u :: after))[before.length]? =
        some run ∧
      run = (resolve config (some script.hook) u).run executor ∧
      Framed config executor script u run := by
  refine ⟨framed_resolve config executor script, ?_⟩
  intro before u after
  refine ⟨_, ?_, rfl, framed_resolve config executor script u⟩
  rw [resolveAll, List.map_append, List.map_cons]
  rw [List.getElem?_append_right (Nat.le_of_eq (List.length_map _)), List.length_map, Nat.sub_self]
  rfl

-- The first edit grants something, and the second one ends the lookup all the same.
example :
    (resolve shortConfig (some (Script.hook { awaited := true, edits := [.append "GUEST", .pop 7] }))
        "amy").run
      (preparedStore
        [⟨"users :u", none, .ok [[.text "Amy", .text "pw", .int 1]]⟩,
          ⟨"direct :u", none, .ok [[.text "Amy", .text "READER"]]⟩]) =
      (.error .popOutOfRange,
        [.asked (lookingUp "users :u" "amy"), .asked (lookingUp "direct :u" "Amy"),
          .noted (.hookCalled "Amy" [⟨"READER"⟩])]) := by
  rfl

end Entitlement.Lookup
