import Entitlement.Lookup.Config.Session
import Entitlement.Proofs.Lookup.Trace
import Entitlement.Store.Execute

/-!
# `Entitlement.Proofs.Lookup.Configuration` — a configuration is valid as long as it exists

There is no way to a configuration but through the check, and no way to change one.  So whatever is
done with a current configuration, it is valid, and what was said of it when it was made stays true.

| | |
| :-- | :-- |
| what is given | a draft, and changes of some of its fields by name: `Draft.after` |
| how the check ends | `Checked`, one rule each for the switches, for the first query that is wrong, and for the configuration itself |
| the steps | `ConfigStep.run`, kept in `runConfigSteps` |
| the statement | `runConfigSteps_guarded`, in the clauses of `Guarded` |

The check counts the binds of every query, those of a source that is switched off among them, and
the store counts them again when the query is put to it.  Both counts are of distinct names, and a
lookup hands over one username.  So what the check has let through the store never refuses for the
number of its arguments, not even when the source is switched on later.
-/
namespace Entitlement.Lookup

open Store (Database)

namespace Config

/-! ## Fields and changes -/

def Field.queries : List Field := [.usersQuery, .authoritiesQuery, .groupAuthoritiesQuery]

theorem Field.named?_eq_some_iff {name : String} {field : Field} :
    Field.named? name = some field ↔ name = field.key := by
  constructor
  · intro h
    unfold Field.named? at h
    have hkey := List.find?_some h
    exact (eq_of_beq hkey).symm
  · rintro rfl
    cases field <;> rfl

def Changes.Known (changes : Changes) : Prop :=
  ∀ change ∈ changes, ∃ field, Field.named? change.1 = some field

def Changes.Texts (changes : Changes) : Prop :=
  ∀ change ∈ changes, ∀ field ∈ Field.queries, change.1 = field.key → ∃ sql, change.2 = .text sql

/-- A draft after changes: the last value that is given for a field counts. -/
def Draft.after (draft : Draft) (changes : Changes) : Draft := fun field =>
  (changes.reverse.lookup field.key).getD (draft field)

theorem Draft.changeAll_eq_ok {draft : Draft} {changes : Changes} (h : changes.Known) :
    draft.changeAll changes = .ok (draft.after changes) := by
  induction changes generalizing draft with
  | nil => rfl
  | cons change rest ih =>
      obtain ⟨name, v⟩ := change
      obtain ⟨field, hfield⟩ := h _ List.mem_cons_self
      have hname : name = field.key := Field.named?_eq_some_iff.mp hfield
      have hchange : draft.change name v = .ok fun f => if f = field then v else draft f := by
        simp only [Draft.change, hfield]
      rw [Draft.changeAll, hchange]
      refine (ih fun other hother => h other (List.mem_cons_of_mem _ hother)).trans ?_
      refine congrArg Except.ok (funext fun f => ?_)
      unfold Draft.after
      rw [List.reverse_cons, List.lookup_append, hname]
      cases hlookup : rest.reverse.lookup f.key with
      | some w => rfl
      | none =>
          by_cases hf : f = field
          · subst hf
            simp
          · have hkey : (f.key == field.key) = false := by
              refine beq_eq_false_iff_ne.mpr fun heq => hf ?_
              have hsame := Field.named?_eq_some_iff.mpr heq
              rw [Field.named?_eq_some_iff.mpr rfl] at hsame
              exact Option.some.inj hsame
            simp [hf, List.lookup_cons, hkey]

theorem Draft.texts_after {draft : Draft} {changes : Changes} (h : changes.Texts)
    (htexts : ∀ field ∈ Field.queries, ∃ sql, draft field = .text sql) :
    ∀ field ∈ Field.queries, ∃ sql, draft.after changes field = .text sql := by
  intro field hfield
  unfold Draft.after
  cases hlookup : changes.reverse.lookup field.key with
  | none => exact htexts field hfield
  | some v =>
      obtain ⟨before, after, hsplit, -⟩ := List.lookup_eq_some_iff.mp hlookup
      have hmem : (field.key, v) ∈ changes := by
        rw [← List.mem_reverse, hsplit]
        exact List.mem_append_right _ List.mem_cons_self
      obtain ⟨sql, hsql⟩ := h _ hmem field hfield rfl
      exact ⟨sql, hsql⟩

theorem texts_value (c : Config) : ∀ field ∈ Field.queries, ∃ sql, c.value field = .text sql := by
  intro field hfield
  simp only [Field.queries, List.mem_cons, List.not_mem_nil, or_false] at hfield
  rcases hfield with rfl | rfl | rfl
  · exact ⟨_, rfl⟩
  · exact ⟨_, rfl⟩
  · exact ⟨_, rfl⟩

/-! ## The check -/

def Draft.HasSource (draft : Draft) : Prop :=
  (draft .enableAuthorities).truthy = true ∨ (draft .enableGroups).truthy = true

/-- The number of distinct binds a field declares; what is no text declares none. -/
def Draft.binds (draft : Draft) (field : Field) : Nat :=
  match draft field with
  | .text sql => (Query.bindNames sql).length
  | _ => 0

/-- The first query that does not declare exactly one bind. -/
def Draft.offending? (draft : Draft) : Option Field :=
  Field.queries.find? fun field => draft.binds field != 1

inductive Checked (draft : Draft) : Except Fault Config → Prop
  | noSource : ¬draft.HasSource → Checked draft (.error .noSource)
  | bindCount {field : Field} : draft.HasSource → draft.offending? = some field →
      Checked draft (.error (.bindCount field.key (draft.binds field)))
  | made {c : Config} : draft.HasSource → draft.offending? = none → c.value = draft →
      Checked draft (.ok c)

theorem checkQuery_text (draft : Draft) {field : Field} (h : ∃ sql, draft field = .text sql) :
    (draft.binds field = 1 ∧ ∃ sql, draft field = .text sql ∧
        checkQuery field (draft field) = .ok sql) ∨
      draft.binds field ≠ 1 ∧ checkQuery field (draft field) =
        .error (.bindCount field.key (draft.binds field)) := by
  obtain ⟨sql, hsql⟩ := h
  have hbinds : draft.binds field = (Query.bindNames sql).length := by
    simp only [Draft.binds, hsql]
  rw [hbinds, hsql]
  by_cases hone : (Query.bindNames sql).length = 1
  · exact .inl ⟨hone, sql, rfl, if_pos hone⟩
  · exact .inr ⟨hone, if_neg hone⟩

/-- The check of a draft whose queries are texts ends by one of the rules. -/
theorem checked_check {draft : Draft}
    (htexts : ∀ field ∈ Field.queries, ∃ sql, draft field = .text sql) :
    Checked draft draft.check := by
  unfold Draft.check
  split
  · rename_i hsource
    have hsource : draft.HasSource := Bool.or_eq_true_iff.mp hsource
    rcases checkQuery_text draft (htexts .usersQuery (by decide)) with
      ⟨husers, users, hu, hcheck⟩ | ⟨husers, hcheck⟩
    · rw [hcheck]
      rcases checkQuery_text draft (htexts .authoritiesQuery (by decide)) with
        ⟨hauthorities, authorities, ha, hcheck⟩ | ⟨hauthorities, hcheck⟩
      · simp only [hcheck]
        rcases checkQuery_text draft (htexts .groupAuthoritiesQuery (by decide)) with
          ⟨hgroups, groups, hg, hcheck⟩ | ⟨hgroups, hcheck⟩
        · simp only [hcheck]
          refine .made hsource ?_ (funext fun field => ?_)
          · simp [Draft.offending?, Field.queries, husers, hauthorities, hgroups]
          · cases field with
            | usersQuery => exact hu.symm
            | authoritiesQuery => exact ha.symm
            | groupAuthoritiesQuery => exact hg.symm
            | rolePrefix => rfl
            | usernameBasedPrimaryKey => rfl
            | enableAuthorities => rfl
            | enableGroups => rfl
        · simp only [hcheck]
          refine .bindCount hsource ?_
          simp [Draft.offending?, Field.queries, husers, hauthorities, hgroups]
      · simp only [hcheck]
        refine .bindCount hsource ?_
        simp [Draft.offending?, Field.queries, husers, hauthorities]
    · rw [hcheck]
      refine .bindCount hsource ?_
      simp [Draft.offending?, Field.queries, husers]
  · rename_i hsource
    exact .noSource fun h => hsource (Bool.or_eq_true_iff.mpr h)

theorem one_of_checkQuery {field : Field} {v : Value} {sql : String}
    (h : checkQuery field v = .ok sql) : (Query.bindNames sql).length = 1 := by
  unfold checkQuery at h
  split at h
  · dsimp only at h
    split at h
    · rename_i hone
      cases h
      exact hone
    · cases h
  · cases h

theorem valid_of_check {draft : Draft} {c : Config} (h : draft.check = .ok c) : c.Valid := by
  unfold Draft.check at h
  split at h
  · rename_i hsource
    split at h
    · cases h
    · rename_i users husers
      split at h
      · cases h
      · rename_i authorities hauthorities
        split at h
        · cases h
        · rename_i groups hgroups
          cases h
          refine ⟨hsource, ?_⟩
          intro query hquery
          simp only [queries, List.mem_cons, List.not_mem_nil, or_false] at hquery
          rcases hquery with rfl | rfl | rfl
          · exact one_of_checkQuery husers
          · exact one_of_checkQuery hauthorities
          · exact one_of_checkQuery hgroups
  · cases h

theorem valid_of_derive {base c : Config} {changes : Changes} (h : base.derive changes = .ok c) :
    c.Valid := by
  unfold derive at h
  cases hchanged : Draft.changeAll base.value changes with
  | error fault =>
      rw [hchanged] at h
      cases h
  | ok draft =>
      rw [hchanged] at h
      exact valid_of_check h

/-! ## What is decided of a configuration -/

def IsConfiguration : Fault → Prop
  | .noSource => True
  | .bindCount _ _ => True
  | .reported .configuration _ => True
  | _ => False

def Draft.Sound (draft : Draft) : Prop :=
  draft.HasSource ∧ ∀ field ∈ Field.queries, draft.binds field = 1

theorem Draft.offending?_eq_none_iff {draft : Draft} :
    draft.offending? = none ↔ ∀ field ∈ Field.queries, draft.binds field = 1 := by
  simp only [offending?, List.find?_eq_none, bne_iff_ne, ne_eq, not_not]

/-- What comes of field values, in clauses. -/
structure Decided (draft : Draft) (outcome : Except Fault Config) : Prop where
  /-- A configuration is refused exactly when its values are unsound. -/
  refused : (∃ fault, outcome = .error fault ∧ IsConfiguration fault) ↔ ¬draft.Sound
  /-- The switches come before the queries. -/
  noSource : outcome = .error .noSource ↔ ¬draft.HasSource
  /-- Of the queries the first one that is wrong is reported, with the number of its binds. -/
  bindCount : ∀ key found, outcome = .error (.bindCount key found) ↔
    draft.HasSource ∧ ∃ field, draft.offending? = some field ∧ key = field.key ∧
      found = draft.binds field
  /-- Sound values are the values of a configuration. -/
  made : draft.Sound → ∃ c, outcome = .ok c ∧ c.value = draft

namespace Checked

variable {draft : Draft} {outcome : Except Fault Config}

theorem noSource_iff (h : Checked draft outcome) :
    outcome = .error .noSource ↔ ¬draft.HasSource := by
  cases h with
  | noSource hnot => exact iff_of_true rfl hnot
  | bindCount hsource _ => exact iff_of_false (fun heq => by cases heq) (fun hnot => hnot hsource)
  | made hsource _ _ => exact iff_of_false (fun heq => by cases heq) (fun hnot => hnot hsource)

theorem bindCount_iff (h : Checked draft outcome) (key : String) (found : Nat) :
    outcome = .error (.bindCount key found) ↔
      draft.HasSource ∧ ∃ field, draft.offending? = some field ∧ key = field.key ∧
        found = draft.binds field := by
  cases h with
  | noSource hnot => exact iff_of_false (fun heq => by cases heq) (fun hand => hnot hand.1)
  | @bindCount field hsource hoffending =>
      constructor
      · intro heq
        cases heq
        exact ⟨hsource, field, hoffending, rfl, rfl⟩
      · rintro ⟨-, other, hother, rfl, rfl⟩
        rw [hoffending] at hother
        cases hother
        rfl
  | made _ hnone _ =>
      refine iff_of_false (fun heq => by cases heq) ?_
      rintro ⟨-, field, hfield, -⟩
      rw [hnone] at hfield
      cases hfield

theorem exists_config (h : Checked draft outcome) (hsound : draft.Sound) :
    ∃ c, outcome = .ok c ∧ c.value = draft := by
  cases h with
  | noSource hnot => exact absurd hsound.1 hnot
  | bindCount _ hoffending =>
      rw [Draft.offending?_eq_none_iff.mpr hsound.2] at hoffending
      cases hoffending
  | made _ _ hvalue => exact ⟨_, rfl, hvalue⟩

theorem refused_iff (h : Checked draft outcome) :
    (∃ fault, outcome = .error fault ∧ IsConfiguration fault) ↔ ¬draft.Sound := by
  constructor
  · rintro ⟨fault, rfl, -⟩ hsound
    obtain ⟨c, heq, -⟩ := h.exists_config hsound
    cases heq
  · intro hunsound
    cases h with
    | noSource _ => exact ⟨_, rfl, trivial⟩
    | bindCount _ _ => exact ⟨_, rfl, trivial⟩
    | made hsource hnone _ =>
        exact absurd ⟨hsource, Draft.offending?_eq_none_iff.mp hnone⟩ hunsound

theorem decided (h : Checked draft outcome) : Decided draft outcome :=
  ⟨h.refused_iff, h.noSource_iff, h.bindCount_iff, h.exists_config⟩

end Checked

theorem decided_derive (base : Config) {changes : Changes} (hknown : changes.Known)
    (htexts : changes.Texts) :
    Decided (Draft.after base.value changes) (base.derive changes) := by
  unfold derive
  rw [Draft.changeAll_eq_ok hknown]
  exact (checked_check (Draft.texts_after htexts base.texts_value)).decided

-- The source of the group query is switched off, and the query is checked all the same.
example :
    make [("group_authorities_by_username_query", .text "SELECT :a, :b, :a")] =
      .error (.bindCount "group_authorities_by_username_query" 2) := by
  cbv

end Config

/-! ## The number of arguments -/

/-- The store refuses a query for the number of its arguments only where the numbers differ. -/
theorem execute_ne_argumentCount {sql : String} {args : List Value}
    (h : (Query.bindNames sql).length = args.length) (database : Database) (declared given : Nat) :
    Store.execute database sql args ≠ .error (.argumentCount declared given) := by
  unfold Store.execute
  simp only [h, ne_eq, not_true_eq_false, if_false]
  split
  · intro heq
    cases heq
  · intro heq
    cases heq

theorem queries_of_resolve {c : Config} {hook : Option Hook} {executor : Executor}
    {username : String} {question : Question}
    (h : question ∈ questions ((resolve c hook username).run executor).2) :
    ∃ query ∈ c.queries, ∃ name, question = lookingUp query.2 name := by
  obtain ⟨r, through, hlines, -⟩ := walks_resolve (follows_run executor (resolve c hook username))
  have hmem : (question, executor question) ∈
      transcript executor ((resolve c hook username).run executor).2 :=
    List.mem_map_of_mem h
  rw [hlines] at hmem
  obtain ⟨⟨stage, answer⟩, -, hline⟩ := List.mem_map.mp hmem
  obtain rfl : c.question username r stage = question := congrArg Prod.fst hline
  cases stage with
  | users => exact ⟨_, List.mem_cons_self, username, rfl⟩
  | source source =>
      cases source with
      | direct => exact ⟨_, List.mem_cons_of_mem _ List.mem_cons_self, r, rfl⟩
      | group =>
          exact ⟨_, List.mem_cons_of_mem _ (List.mem_cons_of_mem _ List.mem_cons_self), r, rfl⟩

/-! ## Steps -/

def AllValid (current : Option Config) : Prop := ∀ c, current = some c → c.Valid

theorem allValid_adopt {current : Option Config} (h : AllValid current)
    {outcome : Except Fault Config} (houtcome : ∀ c, outcome = .ok c → c.Valid) :
    AllValid (ConfigStep.adopt current outcome).1 := by
  cases outcome with
  | error fault => exact h
  | ok made =>
      intro c heq
      cases heq
      exact houtcome made rfl

theorem allValid_step {current : Option Config} (h : AllValid current) (step : ConfigStep) :
    AllValid (step.run current).1 := by
  cases step with
  | make changes =>
      exact allValid_adopt h fun c hc => Config.valid_of_derive hc
  | derive changes =>
      cases current with
      | none => exact h
      | some base => exact allValid_adopt h fun c hc => Config.valid_of_derive hc
  | assign field v => exact h
  | compare changes => exact h

theorem allValid_run {current : Option Config} (h : AllValid current) (steps : List ConfigStep) :
    AllValid (runConfigSteps current steps).1 := by
  induction steps generalizing current with
  | nil => exact h
  | cons step rest ih => exact ih (allValid_step h step)

theorem adopt_of_ok {current : Option Config} {outcome : Except Fault Config} {c : Config}
    (h : outcome = .ok c) : ConfigStep.adopt current outcome = (some c, .ok (.config c)) := by
  rw [h]
  rfl

theorem adopt_of_error {current : Option Config} {outcome : Except Fault Config} {fault : Fault}
    (h : (ConfigStep.adopt current outcome).2 = .error fault) :
    (ConfigStep.adopt current outcome).1 = current := by
  cases outcome with
  | error _ => rfl
  | ok c => cases h

theorem run_of_adopted {current : Option Config} (changes : Config.Changes) (c : Config) :
    (Config.make changes = .ok c →
      (ConfigStep.make changes).run current = (some c, .ok (.config c))) ∧
    ∀ base, current = some base → base.derive changes = .ok c →
      (ConfigStep.derive changes).run current = (some c, .ok (.config c)) := by
  refine ⟨fun h => adopt_of_ok h, ?_⟩
  rintro base rfl h
  exact adopt_of_ok h

/-- A step that makes another configuration the current one has made or derived it. -/
theorem run_of_replaced {current : Option Config} {step : ConfigStep}
    (h : (step.run current).1 ≠ current) : ∃ c,
    step.run current = (some c, .ok (.config c)) ∧
      ((∃ changes, step = .make changes ∧ Config.make changes = .ok c) ∨
        ∃ base changes, current = some base ∧ step = .derive changes ∧
          base.derive changes = .ok c) := by
  cases step with
  | make changes =>
      cases hmake : Config.make changes with
      | error fault =>
          rw [ConfigStep.run, hmake] at h
          exact absurd rfl h
      | ok c => exact ⟨c, adopt_of_ok hmake, .inl ⟨changes, rfl, hmake⟩⟩
  | derive changes =>
      cases current with
      | none => exact absurd rfl h
      | some base =>
          cases hderive : base.derive changes with
          | error fault =>
              simp only [ConfigStep.run, hderive] at h
              exact absurd rfl h
          | ok c => exact ⟨c, adopt_of_ok hderive, .inr ⟨base, changes, rfl, rfl, hderive⟩⟩
  | assign field v => exact absurd rfl h
  | compare changes => exact absurd rfl h

theorem run_of_error {current : Option Config} {step : ConfigStep} {fault : Fault}
    (h : (step.run current).2 = .error fault) : (step.run current).1 = current := by
  cases step with
  | make changes => exact adopt_of_error h
  | derive changes =>
      cases current with
      | none => rfl
      | some base => exact adopt_of_error h
  | assign field v => rfl
  | compare changes => rfl

/-! ## The statement -/

/-- What holds of the configuration that steps lead to, in clauses. -/
structure Guarded (current : Option Config) : Prop where
  /-- It is valid, if there is one. -/
  valid : ∀ c, current = some c → c.Valid
  /-- No field of it can be assigned. -/
  assigned : ∀ name v, ∃ fault,
    (ConfigStep.assign name v).run current = (current, .error fault)
  /-- A step that fails leaves it as it is. -/
  kept : ∀ (step : ConfigStep) fault, (step.run current).2 = .error fault →
    (step.run current).1 = current
  /-- A configuration that is made, or derived from it, is the answer and takes its place. -/
  adopted : ∀ changes c,
    (Config.make changes = .ok c →
      (ConfigStep.make changes).run current = (some c, .ok (.config c))) ∧
    ∀ base, current = some base → base.derive changes = .ok c →
      (ConfigStep.derive changes).run current = (some c, .ok (.config c))
  /-- Nothing else takes its place. -/
  replaced : ∀ step : ConfigStep, (step.run current).1 ≠ current → ∃ c,
    step.run current = (some c, .ok (.config c)) ∧
      ((∃ changes, step = .make changes ∧ Config.make changes = .ok c) ∨
        ∃ base changes, current = some base ∧ step = .derive changes ∧
          base.derive changes = .ok c)
  /-- A new configuration is decided by its field values. -/
  made : ∀ changes : Config.Changes, changes.Known → changes.Texts →
    Config.Decided (Config.Draft.after (Config.value {}) changes) (Config.make changes)
  /-- So is one that is derived from it. -/
  derived : ∀ c, current = some c → ∀ changes : Config.Changes, changes.Known → changes.Texts →
    Config.Decided (Config.Draft.after c.value changes) (c.derive changes)
  /-- No query of a lookup is refused by a store for the number of its arguments. -/
  asked : ∀ c, current = some c → ∀ (database : Database) (hook : Option Hook) (username : String),
    ∀ question ∈ questions ((resolve c hook username).run database.executor).2,
    ∀ declared given, database.executor question ≠ .error (.argumentCount declared given)
  /-- No query of the configuration is, the one of a source that is switched off among them. -/
  ready : ∀ c, current = some c → ∀ query ∈ c.queries,
    ∀ (database : Database) (username : String) (declared given : Nat),
    database.executor (lookingUp query.2 username) ≠ .error (.argumentCount declared given)

/-- Whatever is done with configurations, the current one is valid and is never changed but for
another valid one, and a lookup by it puts no query with the wrong number of arguments. -/
theorem runConfigSteps_guarded (steps : List ConfigStep) :
    Guarded (runConfigSteps none steps).1 := by
  have hvalid : AllValid (runConfigSteps none steps).1 :=
    allValid_run (fun _ heq => by cases heq) steps
  have hready : ∀ c, (runConfigSteps none steps).1 = some c → ∀ query ∈ c.queries,
      ∀ (database : Database) (username : String) (declared given : Nat),
      database.executor (lookingUp query.2 username) ≠ .error (.argumentCount declared given) :=
    fun c hc query hquery database username declared given =>
      execute_ne_argumentCount ((hvalid c hc).2 query hquery) database declared given
  refine ⟨hvalid, fun name v => ⟨_, rfl⟩, fun step fault h => run_of_error h, run_of_adopted,
    fun step h => run_of_replaced h,
    fun changes hknown htexts => Config.decided_derive {} hknown htexts,
    fun c _ changes hknown htexts => Config.decided_derive c hknown htexts, ?_, hready⟩
  intro c hc database hook username question hquestion declared given
  obtain ⟨query, hquery, name, rfl⟩ := queries_of_resolve hquestion
  exact hready c hc query hquery database name declared given

end Entitlement.Lookup
