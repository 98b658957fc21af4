import Mathlib.Data.List.Nodup
import Mathlib.Data.List.Forall2
import Entitlement.Lookup.Resolve

/-!
# `Entitlement.Proofs.Lookup.Rules` — the rules by which a lookup ends

A lookup is a plan, and what it comes to under an answering function is a computation through three
nested matches.  The two relations below say the same as a list of rules, one for each way in which
a lookup can end, and each rule names the outcome together with the acts in their order.

    Aggregation grants executor r outcome acts
    Resolution config hook executor u outcome acts

`r` is the username as the store spells it and `u` the one that was asked for.

| | |
| :-- | :-- |
| the computation | `aggregate` and `resolve`, run under an executor |
| the rules | `Aggregation`, five of them, and `Resolution`, six of them |
| what ties them | `aggregate_run_iff` and `resolve_run_iff` |

The ties are equivalences, so the rules are exhaustive and exclude each other: what holds of the
conclusion of every rule holds of every lookup, and the premises of a rule decide the outcome.
Whatever is proved of lookups further on is proved by going through the rules, and never by opening
a plan.
-/
namespace Entitlement.Lookup

variable {α β : Type}

/-! ## Reading rows

Rows are read from the front, and the first row that is refused decides.  The two statements cover
both ways in which reading can end. -/

theorem readRows_eq_ok_iff {read : Row → Except Fault α} {rows : List Row} {records : List α} :
    readRows read rows = .ok records ↔
      List.Forall₂ (fun row record => read row = .ok record) rows records := by
  induction rows generalizing records with
  | nil =>
      constructor
      · intro h
        cases h
        exact .nil
      · intro h
        cases h
        rfl
  | cons row rest ih =>
      constructor
      · intro h
        simp only [readRows] at h
        split at h
        · cases h
        · rename_i record hrecord
          split at h
          · cases h
          · rename_i others hothers
            cases h
            exact .cons hrecord (ih.mp hothers)
      · intro h
        cases h with
        | cons hrecord hothers =>
            simp only [readRows, hrecord, ih.mpr hothers]

theorem readRows_eq_error_iff {read : Row → Except Fault α} {rows : List Row} {fault : Fault} :
    readRows read rows = .error fault ↔
      ∃ before row after, rows = before ++ row :: after ∧
        (∀ other ∈ before, ∃ record, read other = .ok record) ∧ read row = .error fault := by
  induction rows with
  | nil =>
      constructor
      · intro h
        cases h
      · rintro ⟨before, row, after, h, -⟩
        exact absurd h (by simp)
  | cons row rest ih =>
      constructor
      · intro h
        simp only [readRows] at h
        split at h
        · rename_i e hrow
          cases h
          exact ⟨[], row, rest, rfl, by simp, hrow⟩
        · rename_i record hrecord
          split at h
          · rename_i e hrest
            cases h
            obtain ⟨before, bad, after, rfl, hbefore, hbad⟩ := ih.mp hrest
            refine ⟨row :: before, bad, after, rfl, ?_, hbad⟩
            intro other hother
            rcases List.mem_cons.mp hother with rfl | hother
            · exact ⟨record, hrecord⟩
            · exact hbefore other hother
          · cases h
      · rintro ⟨before, bad, after, h, hbefore, hbad⟩
        cases before with
        | nil =>
            cases h
            simp only [readRows, hbad]
        | cons first before =>
            rw [List.cons_append, List.cons.injEq] at h
            obtain ⟨rfl, rfl⟩ := h
            obtain ⟨record, hrecord⟩ := hbefore row List.mem_cons_self
            have hrest : readRows read (before ++ bad :: after) = .error fault :=
              ih.mpr ⟨before, bad, after, rfl,
                fun other hother => hbefore other (List.mem_cons_of_mem _ hother), hbad⟩
            simp only [readRows, hrecord, hrest]

theorem records_of_readRows {read : Row → Except Fault α} {rows : List Row} {records : List α}
    (h : readRows read rows = .ok records) :
    (∀ row ∈ rows, ∃ record ∈ records, read row = .ok record) ∧
      ∀ record ∈ records, ∃ row ∈ rows, read row = .ok record := by
  have hforall := readRows_eq_ok_iff.mp h
  constructor
  · intro row hrow
    obtain ⟨i, hi, rfl⟩ := List.mem_iff_getElem.mp hrow
    have hi' : i < records.length := hforall.length_eq ▸ hi
    exact ⟨records[i], List.getElem_mem hi', hforall.get hi hi'⟩
  · intro record hrecord
    obtain ⟨i, hi, rfl⟩ := List.mem_iff_getElem.mp hrecord
    have hi' : i < rows.length := hforall.length_eq ▸ hi
    exact ⟨rows[i], List.getElem_mem hi', hforall.get hi' hi⟩

theorem username_of_readUser {row : Row} {record : UserRecord} (h : readUser row = .ok record) :
    ∃ name, row[0]? = some name ∧ record.username = name.toText := by
  unfold readUser at h
  split at h
  · rename_i username password hname hpassword
    split at h
    · cases h
    · split at h
      · cases h
        exact ⟨username, hname, rfl⟩
      · cases h
  · cases h

/-! ## Runs of plans -/

namespace Plan

theorem run_andThen (executor : Executor) (f : Except Fault α → Plan β) :
    ∀ plan : Plan α, (plan.andThen f).run executor =
      (((f (plan.run executor).1).run executor).1,
        (plan.run executor).2 ++ ((f (plan.run executor).1).run executor).2)
  | .done _ => rfl
  | .ask question next => by
      simp only [andThen, run, run_andThen executor f (next (executor question)),
        List.cons_append]
  | .tell note next => by
      simp only [andThen, run, run_andThen executor f next, List.cons_append]

end Plan

def lookingUp (sql username : String) : Question := ⟨sql, [.text username]⟩

def recordsFrom (executor : Executor) (read : Row → Except Fault α) (sql username : String) :
    Except Fault (List α) :=
  (executor (lookingUp sql username)).bind (readRows read)

@[simp] theorem run_load (executor : Executor) (read : Row → Except Fault α)
    (sql username : String) :
    (load read sql username).run executor =
      (recordsFrom executor read sql username, [.asked (lookingUp sql username)]) :=
  rfl

/-! ## The sources -/

/-- The authorities an executor has for a username in a source; none when it is switched off. -/
def Grants.found (grants : Grants) (executor : Executor) (source : Source) (username : String) :
    Except Fault (List Authority) :=
  if grants.enabled source then
    recordsFrom executor (readAuthority source grants.rolePrefix) (grants.query source) username
  else .ok []

/-- The acts of asking a source: one question, or none when it is switched off. -/
def Grants.asking (grants : Grants) (source : Source) (username : String) : List Act :=
  if grants.enabled source then [.asked (lookingUp (grants.query source) username)] else []

@[simp] theorem run_loadSource (grants : Grants) (executor : Executor) (source : Source)
    (username : String) :
    (grants.loadSource source username).run executor =
      (grants.found executor source username, grants.asking source username) := by
  unfold Grants.loadSource Grants.found Grants.asking
  split
  · exact run_load executor _ _ _
  · rfl

/-! ## The hook -/

/-- What a hook leaves of the authorities found. -/
def edited (hook : Option Hook) (username : String) (found : List Authority) :
    Except Fault (List Authority) :=
  match hook with
  | some h => h.outcome username found
  | none => .ok found

/-- The acts of consulting a hook: one call, or none when there is no hook. -/
def consulting (hook : Option Hook) (username : String) (found : List Authority) : List Act :=
  match hook with
  | some _ => [.noted (.hookCalled username found)]
  | none => []

@[simp] theorem run_extend (executor : Executor) (hook : Option Hook) (username : String)
    (found : List Authority) :
    (extend hook username found).run executor =
      (edited hook username found, consulting hook username found) := by
  cases hook with
  | none => rfl
  | some h => rfl

/-! ## The rules of aggregation -/

/-- How the authorities of a username as the store spells it come out, and by which acts. -/
inductive Aggregation (grants : Grants) (executor : Executor) (r : String) :
    Except Fault (List Authority) → List Act → Prop
  | directFails {fault : Fault} :
      grants.found executor .direct r = .error fault →
      Aggregation grants executor r (.error fault) (grants.asking .direct r)
  | groupFails {direct : List Authority} {fault : Fault} :
      grants.found executor .direct r = .ok direct →
      grants.found executor .group r = .error fault →
      Aggregation grants executor r (.error fault)
        (grants.asking .direct r ++ grants.asking .group r)
  | hookFails {direct group : List Authority} {fault : Fault} :
      grants.found executor .direct r = .ok direct →
      grants.found executor .group r = .ok group →
      edited grants.hook r (distinct (direct ++ group)) = .error fault →
      Aggregation grants executor r (.error fault)
        (grants.asking .direct r ++ grants.asking .group r ++
          consulting grants.hook r (distinct (direct ++ group)))
  | nothingLeft {direct group : List Authority} :
      grants.found executor .direct r = .ok direct →
      grants.found executor .group r = .ok group →
      edited grants.hook r (distinct (direct ++ group)) = .ok [] →
      Aggregation grants executor r (.error (.failure .noAuthority r))
        (grants.asking .direct r ++ grants.asking .group r ++
          consulting grants.hook r (distinct (direct ++ group)))
  | granted {direct group authorities : List Authority} :
      grants.found executor .direct r = .ok direct →
      grants.found executor .group r = .ok group →
      edited grants.hook r (distinct (direct ++ group)) = .ok authorities →
      authorities ≠ [] →
      Aggregation grants executor r (.ok authorities)
        (grants.asking .direct r ++ grants.asking .group r ++
          consulting grants.hook r (distinct (direct ++ group)))

/-- The rules compute: what a rule concludes is what the run comes to. -/
theorem Aggregation.run_eq {grants : Grants} {executor : Executor} {r : String}
    {outcome : Except Fault (List Authority)} {acts : List Act}
    (h : Aggregation grants executor r outcome acts) :
    (aggregate grants r).run executor = (outcome, acts) := by
  unfold aggregate
  simp only [merge_merge]
  rw [Plan.run_andThen, run_loadSource]
  cases h with
  | directFails hd =>
      simp only [hd, Plan.run, List.append_nil]
  | groupFails hd hg =>
      simp only [hd, Plan.run_andThen, run_loadSource, hg, Plan.run, List.append_nil]
  | hookFails hd hg hh =>
      simp only [hd, Plan.run_andThen, run_loadSource, hg, run_extend, hh, Plan.run,
        List.append_nil, List.append_assoc]
  | nothingLeft hd hg hh =>
      simp only [hd, Plan.run_andThen, run_loadSource, hg, run_extend, hh, Plan.run,
        List.append_nil, List.append_assoc]
  | @granted direct group authorities hd hg hh hne =>
      cases authorities with
      | nil => exact absurd rfl hne
      | cons first rest =>
          simp only [hd, Plan.run_andThen, run_loadSource, hg, run_extend, hh, Plan.run,
            List.append_nil, List.append_assoc]

/-- The rules are exhaustive: some rule applies to every run. -/
theorem aggregation_run (grants : Grants) (executor : Executor) (r : String) :
    ∃ outcome acts, Aggregation grants executor r outcome acts := by
  cases hd : grants.found executor .direct r with
  | error fault => exact ⟨_, _, .directFails hd⟩
  | ok direct =>
      cases hg : grants.found executor .group r with
      | error fault => exact ⟨_, _, .groupFails hd hg⟩
      | ok group =>
          cases hh : edited grants.hook r (distinct (direct ++ group)) with
          | error fault => exact ⟨_, _, .hookFails hd hg hh⟩
          | ok authorities =>
              cases authorities with
              | nil => exact ⟨_, _, .nothingLeft hd hg hh⟩
              | cons first rest => exact ⟨_, _, .granted hd hg hh (List.cons_ne_nil _ _)⟩

theorem aggregate_run_iff {grants : Grants} {executor : Executor} {r : String}
    {outcome : Except Fault (List Authority)} {acts : List Act} :
    (aggregate grants r).run executor = (outcome, acts) ↔
      Aggregation grants executor r outcome acts := by
  constructor
  · intro h
    obtain ⟨outcome', acts', h'⟩ := aggregation_run grants executor r
    rw [h'.run_eq] at h
    cases h
    exact h'
  · exact Aggregation.run_eq

/-! ## The rules of resolution -/

def Config.usersFound (config : Config) (executor : Executor) (u : String) :
    Except Fault (List UserRecord) :=
  recordsFrom executor readUser config.usersQuery u

/-- How the store spells a username: by the text of the first column of the first row. -/
def Config.Spelled (config : Config) (executor : Executor) (u r : String) : Prop :=
  ∃ row rows first, executor (lookingUp config.usersQuery u) = .ok (row :: rows) ∧
    row[0]? = some first ∧ r = first.toText

theorem spelled_of_usersFound {config : Config} {executor : Executor} {u : String}
    {record : UserRecord} {others : List UserRecord}
    (h : config.usersFound executor u = .ok (record :: others)) :
    config.Spelled executor u record.username := by
  unfold Config.usersFound recordsFrom at h
  cases hanswer : executor (lookingUp config.usersQuery u) with
  | error fault =>
      rw [hanswer] at h
      cases h
  | ok rows =>
      rw [hanswer] at h
      cases readRows_eq_ok_iff.mp h with
      | cons hrecord _ =>
          obtain ⟨first, hfirst, hname⟩ := username_of_readUser hrecord
          exact ⟨_, _, first, hanswer, hfirst, hname⟩

def Config.askingUsers (config : Config) (u : String) : Act :=
  .asked (lookingUp config.usersQuery u)

/-- How the lookup of a username comes out, and by which acts. -/
inductive Resolution (config : Config) (hook : Option Hook) (executor : Executor) (u : String) :
    Except Fault Principal → List Act → Prop
  | usersFail {fault : Fault} :
      config.usersFound executor u = .error fault →
      Resolution config hook executor u (.error fault) [config.askingUsers u]
  | unknown :
      config.usersFound executor u = .ok [] →
      Resolution config hook executor u (.error (.failure .userNotFound u))
        [config.askingUsers u, .noted (.logged (entryUserNotFound u))]
  | unauthorised {record : UserRecord} {others : List UserRecord} {name : String}
      {acts : List Act} :
      config.usersFound executor u = .ok (record :: others) →
      Aggregation (config.grants hook) executor record.username
        (.error (.failure .noAuthority name)) acts →
      Resolution config hook executor u (.error (.failure .noAuthority u))
        (config.askingUsers u :: (acts ++ [.noted (.logged (entryNoAuthority u))]))
  | fails {record : UserRecord} {others : List UserRecord} {fault : Fault} {acts : List Act} :
      config.usersFound executor u = .ok (record :: others) →
      Aggregation (config.grants hook) executor record.username (.error fault) acts →
      (∀ name, fault ≠ .failure .noAuthority name) →
      Resolution config hook executor u (.error fault) (config.askingUsers u :: acts)
  | resolved {record : UserRecord} {others : List UserRecord} {authorities : List Authority}
      {acts : List Act} :
      config.usersFound executor u = .ok (record :: others) →
      Aggregation (config.grants hook) executor record.username (.ok authorities) acts →
      Resolution config hook executor u (.ok (config.principal u record authorities))
        (config.askingUsers u :: (acts ++
          [.noted (.logged (entryResolved (config.principal u record authorities)))]))

theorem conclude_error {config : Config} {u : String} {record : UserRecord} {fault : Fault}
    (h : ∀ name, fault ≠ .failure .noAuthority name) :
    conclude config u record (.error fault) = .done (.error fault) := by
  unfold conclude
  split
  · rename_i heq
    cases heq
  · rename_i name heq
    cases heq
    exact absurd rfl (h name)
  · rename_i heq
    cases heq
    rfl

theorem Resolution.run_eq {config : Config} {hook : Option Hook} {executor : Executor} {u : String}
    {outcome : Except Fault Principal} {acts : List Act}
    (h : Resolution config hook executor u outcome acts) :
    (resolve config hook u).run executor = (outcome, acts) := by
  have users : ∀ {records}, config.usersFound executor u = records →
      recordsFrom executor readUser config.usersQuery u = records := fun h => h
  unfold resolve
  rw [Plan.run_andThen, run_load]
  cases h with
  | usersFail hu =>
      simp only [users hu, Plan.run, List.append_nil, Config.askingUsers]
  | unknown hu =>
      simp only [users hu, Plan.run, Config.askingUsers, List.cons_append, List.nil_append]
  | unauthorised hu ha =>
      simp only [users hu, Plan.run_andThen, ha.run_eq, conclude, Plan.run, Config.askingUsers,
        List.cons_append, List.nil_append]
  | fails hu ha hne =>
      simp only [users hu, Plan.run_andThen, ha.run_eq, conclude_error hne, Plan.run,
        Config.askingUsers, List.cons_append, List.nil_append, List.append_nil]
  | resolved hu ha =>
      simp only [users hu, Plan.run_andThen, ha.run_eq, conclude, Plan.run, Config.askingUsers,
        List.cons_append, List.nil_append]

theorem resolution_run (config : Config) (hook : Option Hook) (executor : Executor) (u : String) :
    ∃ outcome acts, Resolution config hook executor u outcome acts := by
  cases hu : config.usersFound executor u with
  | error fault => exact ⟨_, _, .usersFail hu⟩
  | ok records =>
      cases records with
      | nil => exact ⟨_, _, .unknown hu⟩
      | cons record others =>
          obtain ⟨outcome, acts, ha⟩ :=
            aggregation_run (config.grants hook) executor record.username
          cases outcome with
          | ok authorities => exact ⟨_, _, .resolved hu ha⟩
          | error fault =>
              by_cases hfault : ∃ name, fault = .failure .noAuthority name
              · obtain ⟨name, rfl⟩ := hfault
                exact ⟨_, _, .unauthorised hu ha⟩
              · exact ⟨_, _, .fails hu ha (not_exists.mp hfault)⟩

theorem resolve_run_iff {config : Config} {hook : Option Hook} {executor : Executor} {u : String}
    {outcome : Except Fault Principal} {acts : List Act} :
    (resolve config hook u).run executor = (outcome, acts) ↔
      Resolution config hook executor u outcome acts := by
  constructor
  · intro h
    obtain ⟨outcome', acts', h'⟩ := resolution_run config hook executor u
    rw [h'.run_eq] at h
    cases h
    exact h'
  · exact Resolution.run_eq

/-! ## Executors that agree

Neither half of a lookup reads more than its rules say: an aggregation depends on what the sources
find, and a lookup on the first user that is found and on what the sources find for that user. -/

theorem Aggregation.of_found {grants : Grants} {executor executor' : Executor} {r : String}
    {outcome : Except Fault (List Authority)} {acts : List Act}
    (hfound : ∀ source, grants.found executor' source r = grants.found executor source r)
    (h : Aggregation grants executor r outcome acts) :
    Aggregation grants executor' r outcome acts := by
  cases h with
  | directFails hd => exact .directFails ((hfound _).trans hd)
  | groupFails hd hg => exact .groupFails ((hfound _).trans hd) ((hfound _).trans hg)
  | hookFails hd hg hh => exact .hookFails ((hfound _).trans hd) ((hfound _).trans hg) hh
  | nothingLeft hd hg hh => exact .nothingLeft ((hfound _).trans hd) ((hfound _).trans hg) hh
  | granted hd hg hh hne => exact .granted ((hfound _).trans hd) ((hfound _).trans hg) hh hne

theorem found_of_others {config : Config} {executor executor' : Executor}
    (hothers : ∀ question, question.sql ≠ config.usersQuery →
      executor question = executor' question)
    (hdirect : config.authoritiesQuery ≠ config.usersQuery)
    (hgroup : config.groupAuthoritiesQuery ≠ config.usersQuery) (hook : Option Hook)
    (source : Source) (r : String) :
    (config.grants hook).found executor' source r =
      (config.grants hook).found executor source r := by
  have hquery : (config.grants hook).query source ≠ config.usersQuery := by
    cases source with
    | direct => exact hdirect
    | group => exact hgroup
  unfold Grants.found recordsFrom
  rw [hothers (lookingUp ((config.grants hook).query source) r) hquery]

theorem alike_of_head {found found' : Except Fault (List α)}
    (h : found'.map List.head? = found.map List.head?) :
    (∃ fault, found = .error fault ∧ found' = .error fault) ∨ (found = .ok [] ∧ found' = .ok []) ∨
      ∃ a as as', found = .ok (a :: as) ∧ found' = .ok (a :: as') := by
  cases found with
  | error fault =>
      cases found' with
      | error fault' =>
          cases h
          exact .inl ⟨fault, rfl, rfl⟩
      | ok as' => cases h
  | ok as =>
      cases found' with
      | error fault' => cases h
      | ok as' =>
          have hhead : as'.head? = as.head? := Except.ok.inj h
          cases as with
          | nil => exact .inr (.inl ⟨rfl, congrArg _ (List.head?_eq_none_iff.mp hhead)⟩)
          | cons a as =>
              obtain ⟨tail, rfl⟩ := List.head?_eq_some_iff.mp hhead
              exact .inr (.inr ⟨a, as, tail, rfl, rfl⟩)

theorem Resolution.of_found {config : Config} {hook : Option Hook} {executor executor' : Executor}
    {u : String} {outcome : Except Fault Principal} {acts : List Act}
    (husers : (config.usersFound executor' u).map List.head? =
      (config.usersFound executor u).map List.head?)
    (hfound : ∀ record others, config.usersFound executor u = .ok (record :: others) →
      ∀ source, (config.grants hook).found executor' source record.username =
        (config.grants hook).found executor source record.username)
    (h : Resolution config hook executor u outcome acts) :
    Resolution config hook executor' u outcome acts := by
  obtain ⟨fault, hu, hu'⟩ | ⟨hu, hu'⟩ | ⟨record, others, others', hu, hu'⟩ := alike_of_head husers
  · obtain ⟨rfl, rfl⟩ : outcome = .error fault ∧ acts = [config.askingUsers u] :=
      Prod.mk.inj (h.run_eq.symm.trans (Resolution.usersFail hu).run_eq)
    exact .usersFail hu'
  · obtain ⟨rfl, rfl⟩ := Prod.mk.inj (h.run_eq.symm.trans (Resolution.unknown hu).run_eq)
    exact .unknown hu'
  · have transport : ∀ {outcome acts},
        Aggregation (config.grants hook) executor record.username outcome acts →
        Aggregation (config.grants hook) executor' record.username outcome acts :=
      fun ha => ha.of_found (hfound record others hu)
    have first : ∀ {record'' others''}, config.usersFound executor u = .ok (record'' :: others'') →
        record'' = record := by
      intro record'' others'' hu''
      cases hu.symm.trans hu''
      rfl
    cases h with
    | usersFail hfail => cases hu.symm.trans hfail
    | unknown hnone => cases hu.symm.trans hnone
    | unauthorised hloaded ha =>
        obtain rfl := first hloaded
        exact .unauthorised hu' (transport ha)
    | fails hloaded ha hne =>
        obtain rfl := first hloaded
        exact .fails hu' (transport ha) hne
    | resolved hloaded ha =>
        obtain rfl := first hloaded
        exact .resolved hu' (transport ha)

end Entitlement.Lookup
