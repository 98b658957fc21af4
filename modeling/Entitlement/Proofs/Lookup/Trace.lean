import Entitlement.Proofs.Lookup.Attribution
import Entitlement.Proofs.Lookup.Schedule

/-!
# `Entitlement.Proofs.Lookup.Trace` — which queries a lookup puts

A lookup is a walk through stages: the users first, then each source that is switched on.  At a stage
it puts one query, and it goes on behind the stage only if the answer lets it pass.

    users      passes with rows, at least one, that can all be read
    a source   passes with rows, maybe none, that can all be read

| | |
| :-- | :-- |
| what is walked through | `Config.stages`, by the switches alone |
| what is put at a stage | `Config.question`: the users by the caller's username, a source by the store's spelling |
| the walk | `Walks`, one rule for passing a stage and one for stopping at it |
| the statement | `resolve_traced`, in the clauses of `Passage` |

What answers the queries is not restricted.  A transcript lists the queries with whatever came back,
so it covers a store that changes between two queries, and one that answers the same query
differently the second time.  An executor that answers by the query alone gives one transcript of
these (`follows_run`), and it is for that case that the statement goes on to lists of usernames.

The hook has no stage.  It is called behind the last one, and what it leaves decides the outcome and
nothing of the walk.
-/
namespace Entitlement.Lookup

variable {α β : Type}

/-! ## Transcripts -/

/-- The queries that were put, each with what came back, in order. -/
abbrev Transcript := List (Question × Answer)

/-- An answer, taken for something that answers with it whatever it is asked. -/
def verbatim (answer : Answer) : Executor := fun _ => answer

/-- The transcript of a run: every query with the answer of the executor. -/
def transcript (executor : Executor) (acts : List Act) : Transcript :=
  (questions acts).map fun question => (question, executor question)

theorem follows_run (executor : Executor) (plan : Plan α) :
    Follows verbatim plan (transcript executor (plan.run executor).2) (plan.run executor).1 := by
  induction plan with
  | done outcome => exact .done
  | ask question next ih => exact .ask (ih (executor question))
  | tell note next ih => exact .tell ih

/-- A plan in two halves sees what its first half sees and then what its second half sees. -/
theorem Follows.of_andThen {σ : Type} {answer : σ → Executor} {plan : Plan α}
    {f : Except Fault α → Plan β} {seen : List (Question × σ)} {outcome : Except Fault β}
    (h : Follows answer (plan.andThen f) seen outcome) :
    ∃ first rest middle, seen = first ++ rest ∧ Follows answer plan first middle ∧
      Follows answer (f middle) rest outcome := by
  induction plan generalizing seen with
  | done middle => exact ⟨[], seen, middle, rfl, .done, h⟩
  | ask question next ih =>
      cases h with
      | @ask _ _ store _ _ hnext =>
          obtain ⟨first, rest, middle, rfl, hfirst, hrest⟩ := ih _ hnext
          exact ⟨(question, store) :: first, rest, middle, rfl, .ask hfirst, hrest⟩
  | tell note next ih =>
      cases h with
      | tell hnext =>
          obtain ⟨first, rest, middle, rfl, hfirst, hrest⟩ := ih hnext
          exact ⟨first, rest, middle, rfl, .tell hfirst, hrest⟩

theorem Follows.eq_nil {σ : Type} {answer : σ → Executor} {plan : Plan α}
    {seen : List (Question × σ)} {outcome : Except Fault α} (h : Follows answer plan seen outcome)
    (hasks : plan.Asks []) : seen = [] :=
  List.map_eq_nil_iff.mp (List.sublist_nil.mp (h.sublist hasks))

theorem follows_load {read : Row → Except Fault α} {sql username : String} {talk : Transcript}
    {outcome : Except Fault (List α)} (h : Follows verbatim (load read sql username) talk outcome) :
    ∃ answer, talk = [(lookingUp sql username, answer)] ∧ outcome = answer.bind (readRows read) := by
  cases h with
  | ask hnext =>
      cases hnext with
      | done => exact ⟨_, rfl, rfl⟩

theorem bind_readRows_eq_ok_iff {read : Row → Except Fault α} {answer : Answer}
    {records : List α} :
    answer.bind (readRows read) = .ok records ↔
      ∃ rows, answer = .ok rows ∧ readRows read rows = .ok records := by
  cases answer with
  | error fault =>
      constructor
      · intro h
        cases h
      · rintro ⟨rows, h, -⟩
        cases h
  | ok rows =>
      constructor
      · intro h
        exact ⟨rows, rfl, h⟩
      · rintro ⟨_, h, hread⟩
        cases h
        exact hread

/-! ## Stages -/

/-- Where a lookup puts a query. -/
inductive Stage where
  | users
  | source (source : Source)
deriving DecidableEq, Repr

def Config.enabled (config : Config) (source : Source) : Bool :=
  (config.grants none).enabled source

def Config.stagesOf (config : Config) (source : Source) : List Stage :=
  if config.enabled source then [.source source] else []

def Config.stages (config : Config) : List Stage :=
  .users :: (config.stagesOf .direct ++ config.stagesOf .group)

/-- The query of a stage, `u` being the username that is looked up and `r` how the store spells
it. -/
def Config.question (config : Config) (u r : String) : Stage → Question
  | .users => lookingUp config.usersQuery u
  | .source source => lookingUp ((config.grants none).query source) r

/-- Whether a lookup goes on behind a stage, given what came back there. -/
def Config.Passes (config : Config) : Stage → Answer → Prop
  | .users, answer => ∃ row rows records, answer = .ok (row :: rows) ∧
      readRows readUser (row :: rows) = .ok records
  | .source source, answer => ∃ rows records, answer = .ok rows ∧
      readRows (readAuthority source config.rolePrefix) rows = .ok records

def Config.line (config : Config) (u r : String) (turn : Stage × Answer) : Question × Answer :=
  (config.question u r turn.1, turn.2)

theorem Config.mem_stagesOf {config : Config} {source : Source} {stage : Stage} :
    stage ∈ config.stagesOf source ↔ config.enabled source = true ∧ stage = .source source := by
  unfold stagesOf
  cases config.enabled source with
  | false => simp only [Bool.false_eq_true, if_false, List.not_mem_nil, false_and]
  | true => simp only [if_true, List.mem_singleton, true_and]

theorem Config.nodup_stages (config : Config) : config.stages.Nodup := by
  unfold stages stagesOf
  cases config.enabled .direct <;> cases config.enabled .group <;> decide

/-! ## Walks -/

/-- A walk through stages: it goes on behind a stage it passes and stops at one it does not. -/
inductive Walks (config : Config) : List Stage → List (Stage × Answer) → Prop
  | ends : Walks config [] []
  | stops {stage : Stage} {rest : List Stage} {answer : Answer} :
      ¬config.Passes stage answer → Walks config (stage :: rest) [(stage, answer)]
  | passes {stage : Stage} {rest : List Stage} {answer : Answer}
      {through : List (Stage × Answer)} :
      config.Passes stage answer → Walks config rest through →
      Walks config (stage :: rest) ((stage, answer) :: through)

/-- A stage was reached, and what came back there let the lookup pass. -/
def Config.Passed (config : Config) (through : List (Stage × Answer)) (stage : Stage) : Prop :=
  ∃ answer, (stage, answer) ∈ through ∧ config.Passes stage answer

namespace Walks

variable {config : Config} {stages : List Stage} {through : List (Stage × Answer)}

theorem isPrefix (h : Walks config stages through) : through.map Prod.fst <+: stages := by
  induction h with
  | ends => exact List.prefix_rfl
  | stops _ => exact List.cons_prefix_cons.mpr ⟨rfl, List.nil_prefix⟩
  | passes _ _ ih => exact List.cons_prefix_cons.mpr ⟨rfl, ih⟩

theorem mem_iff (h : Walks config stages through) (hnodup : stages.Nodup) {before after : List Stage}
    {stage : Stage} (hstages : stages = before ++ stage :: after) :
    stage ∈ through.map Prod.fst ↔ ∀ earlier ∈ before, config.Passed through earlier := by
  induction h generalizing before with
  | ends => exact absurd hstages (by simp)
  | @stops first rest answer hnot =>
      cases before with
      | nil =>
          cases hstages
          simp
      | cons first' before =>
          cases hstages
          have hne : stage ≠ first := by
            rintro rfl
            exact (List.nodup_cons.mp hnodup).1 (List.mem_append_right _ List.mem_cons_self)
          constructor
          · intro hmem
            exact absurd (List.mem_singleton.mp hmem) hne
          · intro hall
            obtain ⟨answer', hmem, hpasses⟩ := hall first List.mem_cons_self
            cases List.mem_singleton.mp hmem
            exact absurd hpasses hnot
  | @passes first rest answer through hpasses _ ih =>
      cases before with
      | nil =>
          cases hstages
          simp
      | cons first' before =>
          cases hstages
          obtain ⟨hfirst, hrest⟩ := List.nodup_cons.mp hnodup
          have hne : stage ≠ first := by
            rintro rfl
            exact hfirst (List.mem_append_right _ List.mem_cons_self)
          have hmem : stage ∈ ((first, answer) :: through).map Prod.fst ↔
              stage ∈ through.map Prod.fst := by
            rw [List.map_cons, List.mem_cons]
            exact or_iff_right hne
          rw [hmem, ih hrest rfl]
          constructor
          · intro hall earlier hearlier
            rcases List.mem_cons.mp hearlier with rfl | hearlier
            · exact ⟨answer, List.mem_cons_self, hpasses⟩
            · obtain ⟨answer', hmem', hpasses'⟩ := hall earlier hearlier
              exact ⟨answer', List.mem_cons_of_mem _ hmem', hpasses'⟩
          · intro hall earlier hearlier
            obtain ⟨answer', hmem', hpasses'⟩ := hall earlier (List.mem_cons_of_mem _ hearlier)
            rcases List.mem_cons.mp hmem' with heq | hmem'
            · cases heq
              exact absurd (List.mem_append_left _ hearlier) hfirst
            · exact ⟨answer', hmem', hpasses'⟩

end Walks

/-! ## The walk of a lookup -/

section Walk

variable {config : Config} {hook : Option Hook} {u r : String} {talk : Transcript}

/-- A lookup is at the stage of a source while it loads it, and at none if it is switched off. -/
theorem walks_loadSource {source : Source} {f : Except Fault (List Authority) → Plan α}
    {outcome : Except Fault α} {rest : List Stage}
    (h : Follows verbatim (((config.grants hook).loadSource source r).andThen f) talk outcome)
    (hstop : ∀ fault, (f (.error fault)).Asks [])
    (hgo : ∀ found more, Follows verbatim (f (.ok found)) more outcome →
      ∃ through, more = through.map (config.line u r) ∧ Walks config rest through) :
    ∃ through, talk = through.map (config.line u r) ∧
      Walks config (config.stagesOf source ++ rest) through := by
  have henabled : (config.grants hook).enabled source = config.enabled source := by
    cases source <;> rfl
  have hquery : (config.grants hook).query source = (config.grants none).query source := by
    cases source <;> rfl
  have hprefix : (config.grants hook).rolePrefix = config.rolePrefix := rfl
  obtain ⟨first, more, middle, rfl, hfirst, hmore⟩ := h.of_andThen
  unfold Grants.loadSource at hfirst
  rw [henabled, hprefix] at hfirst
  unfold Config.stagesOf
  cases hon : config.enabled source with
  | false =>
      simp only [hon, Bool.false_eq_true, if_false] at hfirst
      cases hfirst with
      | done => exact hgo _ _ hmore
  | true =>
      simp only [hon, if_true] at hfirst
      obtain ⟨answer, rfl, rfl⟩ := follows_load hfirst
      rw [hquery]
      cases hread : answer.bind (readRows (readAuthority source config.rolePrefix)) with
      | error fault =>
          rw [hread] at hmore
          obtain rfl := hmore.eq_nil (hstop fault)
          refine ⟨[(.source source, answer)], rfl, .stops ?_⟩
          rintro ⟨rows, records, hanswer, hrecords⟩
          rw [bind_readRows_eq_ok_iff.mpr ⟨rows, hanswer, hrecords⟩] at hread
          cases hread
      | ok found =>
          rw [hread] at hmore
          obtain ⟨through, rfl, hwalks⟩ := hgo _ _ hmore
          obtain ⟨rows, hanswer, hrecords⟩ := bind_readRows_eq_ok_iff.mp hread
          exact ⟨(.source source, answer) :: through, rfl,
            .passes ⟨rows, found, hanswer, hrecords⟩ hwalks⟩

theorem walks_aggregate {outcome : Except Fault (List Authority)}
    (h : Follows verbatim (aggregate (config.grants hook) r) talk outcome) :
    ∃ through, talk = through.map (config.line u r) ∧
      Walks config (config.stagesOf .direct ++ (config.stagesOf .group ++ [])) through := by
  unfold aggregate at h
  refine walks_loadSource h (fun _ => .done) fun direct more hmore => ?_
  refine walks_loadSource hmore (fun _ => .done) fun group more' hmore' => ?_
  obtain rfl := hmore'.eq_nil (asks_extend _ _ _)
  exact ⟨[], rfl, .ends⟩

/-- How the first row of an answer spells the username, if it spells it at all. -/
def Spells (answer : Answer) (r : String) : Prop :=
  ∀ row rows first, answer = .ok (row :: rows) → row[0]? = some first → r = first.toText

theorem exists_spells (answer : Answer) : ∃ r, Spells answer r := by
  cases answer with
  | error fault => exact ⟨"", fun _ _ _ h _ => by cases h⟩
  | ok rows =>
      cases rows with
      | nil => exact ⟨"", fun _ _ _ h _ => by cases h⟩
      | cons row rows =>
          refine ⟨((row[0]?).map Value.toText).getD "", ?_⟩
          intro row' rows' first h hfirst
          cases h
          rw [hfirst]
          rfl

theorem spells_of_readRows {row : Row} {rows : List Row} {record : UserRecord}
    {others : List UserRecord} (h : readRows readUser (row :: rows) = .ok (record :: others)) :
    Spells (.ok (row :: rows)) record.username := by
  intro row' rows' first hrows hfirst
  cases hrows
  cases readRows_eq_ok_iff.mp h with
  | cons hrecord _ =>
      obtain ⟨name, hname, heq⟩ := username_of_readUser hrecord
      rw [heq]
      rw [hfirst] at hname
      cases hname
      rfl

theorem walks_users {answer : Answer} (h : ¬config.Passes .users answer) :
    ∃ r through, [(lookingUp config.usersQuery u, answer)] = through.map (config.line u r) ∧
      Walks config config.stages through ∧ ∀ answer, (.users, answer) ∈ through →
        Spells answer r := by
  obtain ⟨r, hr⟩ := exists_spells answer
  refine ⟨r, [(.users, answer)], rfl, .stops h, ?_⟩
  intro answer' hmem
  cases List.mem_singleton.mp hmem
  exact hr

/-- Every lookup walks through its stages, and asks the sources with the name in the first column of
the first row. -/
theorem walks_resolve {outcome : Except Fault Principal}
    (h : Follows verbatim (resolve config hook u) talk outcome) :
    ∃ r through, talk = through.map (config.line u r) ∧ Walks config config.stages through ∧
      ∀ answer, (.users, answer) ∈ through → Spells answer r := by
  unfold resolve at h
  obtain ⟨first, more, middle, rfl, hfirst, hmore⟩ := h.of_andThen
  obtain ⟨answer, rfl, rfl⟩ := follows_load hfirst
  cases hread : answer.bind (readRows readUser) with
  | error fault =>
      rw [hread] at hmore
      obtain rfl := hmore.eq_nil .done
      refine walks_users ?_
      rintro ⟨row, rows, records, rfl, hrecords⟩
      rw [bind_readRows_eq_ok_iff.mpr ⟨_, rfl, hrecords⟩] at hread
      cases hread
  | ok records =>
      obtain ⟨rows, rfl, hrecords⟩ := bind_readRows_eq_ok_iff.mp hread
      rw [hread] at hmore
      cases records with
      | nil =>
          obtain rfl := hmore.eq_nil (.tell .done)
          refine walks_users ?_
          rintro ⟨row, rows, records, h, -⟩
          cases h
          cases readRows_eq_ok_iff.mp hrecords
      | cons record others =>
          cases rows with
          | nil => cases readRows_eq_ok_iff.mp hrecords
          | cons row rows =>
              obtain ⟨asked, rest, _, rfl, hasked, hrest⟩ := hmore.of_andThen
              obtain rfl := hrest.eq_nil (asks_conclude config u record _)
              obtain ⟨through, rfl, hwalks⟩ := @walks_aggregate config hook u _ _ _ hasked
              rw [List.append_nil] at hwalks
              refine ⟨record.username, (.users, .ok (row :: rows)) :: through, ?_,
                .passes ⟨row, rows, _, rfl, hrecords⟩ hwalks, ?_⟩
              · rw [List.append_nil]
                rfl
              · intro answer hmem
                rcases List.mem_cons.mp hmem with heq | hmem
                · cases heq
                  exact spells_of_readRows hrecords
                · have hstage := hwalks.isPrefix.subset (List.mem_map_of_mem hmem)
                  rcases List.mem_append.mp hstage with hstage | hstage
                  · cases (Config.mem_stagesOf.mp hstage).2
                  · cases (Config.mem_stagesOf.mp hstage).2

end Walk

/-! ## The hook -/

theorem questions_append (acts others : List Act) :
    questions (acts ++ others) = questions acts ++ questions others :=
  List.filterMap_append

theorem questions_of_asks_nil {plan : Plan α} (h : plan.Asks []) (executor : Executor) :
    questions (plan.run executor).2 = [] :=
  List.map_eq_nil_iff.mp ((follows_run executor plan).eq_nil h)

/-- An aggregation puts the same queries whatever the hook is, and behind its last query the hook is
all that is left of it. -/
theorem questions_aggregate (config : Config) (hook : Option Hook) (executor : Executor)
    (r : String) :
    questions ((aggregate (config.grants hook) r).run executor).2 =
      questions ((aggregate (config.grants none) r).run executor).2 := by
  have hfound : ∀ source, (config.grants hook).found executor source r =
      (config.grants none).found executor source r := by
    intro source
    cases source <;> rfl
  have hasking : ∀ source, (config.grants hook).asking source r =
      (config.grants none).asking source r := by
    intro source
    cases source <;> rfl
  unfold aggregate
  simp only [Plan.run_andThen, run_loadSource, hfound, hasking, questions_append]
  cases (config.grants none).found executor .direct r with
  | error fault => rfl
  | ok direct =>
      simp only [Plan.run_andThen, run_loadSource, hfound, hasking, questions_append]
      cases (config.grants none).found executor .group r with
      | error fault => rfl
      | ok group =>
          have hnone := fun hook => questions_of_asks_nil
            (asks_extend hook r (merge (merge [] direct) group)) executor
          simp only [Plan.run_andThen, questions_append] at hnone ⊢
          exact congrArg _ (congrArg _ ((hnone hook).trans (hnone none).symm))

theorem questions_resolve (config : Config) (hook : Option Hook) (executor : Executor)
    (u : String) :
    questions ((resolve config hook u).run executor).2 =
      questions ((resolve config none u).run executor).2 := by
  unfold resolve
  simp only [Plan.run_andThen, run_load, questions_append]
  cases recordsFrom executor readUser config.usersQuery u with
  | error fault => rfl
  | ok records =>
      cases records with
      | nil => rfl
      | cons record others =>
          simp only [Plan.run_andThen, questions_append, questions_aggregate config hook,
            questions_of_asks_nil (asks_conclude _ _ _ _)]

/-! ## The statement -/

/-- Which queries the lookup of a username puts, in clauses: `through` lists the stages it reached
with what came back, and `r` is how the store spells the username. -/
structure Passage (config : Config) (u r : String) (talk : Transcript)
    (through : List (Stage × Answer)) : Prop where
  /-- One query is put at every stage that is reached, and none besides. -/
  lines : talk = through.map (config.line u r)
  /-- The queries are the first ones of those of all stages. -/
  inOrder : talk.map Prod.fst <+: config.stages.map (config.question u r)
  /-- The stages that are reached are the first ones. -/
  reached : through.map Prod.fst <+: config.stages
  /-- No stage is reached twice. -/
  once : (through.map Prod.fst).Nodup
  /-- The users are always asked for. -/
  users : Stage.users ∈ through.map Prod.fst
  /-- The direct authorities are asked for exactly when their source is switched on and the users
  came back with a row and could all be read. -/
  direct : Stage.source .direct ∈ through.map Prod.fst ↔
    config.enabled .direct = true ∧ config.Passed through .users
  /-- Those of the groups exactly when their source is switched on and, in addition, the direct ones
  were read, if they were to be asked for. -/
  group : Stage.source .group ∈ through.map Prod.fst ↔
    config.enabled .group = true ∧ config.Passed through .users ∧
      (config.enabled .direct = true → config.Passed through (.source .direct))
  /-- The sources are asked with the text in the first column of the first row of the users. -/
  spelled : ∀ row rows first, (.users, .ok (row :: rows)) ∈ through → row[0]? = some first →
    r = first.toText

theorem Walks.direct_iff {config : Config} {through : List (Stage × Answer)}
    (h : Walks config config.stages through) :
    Stage.source .direct ∈ through.map Prod.fst ↔
      config.enabled .direct = true ∧ config.Passed through .users := by
  cases hon : config.enabled .direct with
  | false =>
      refine iff_of_false (fun hmem => ?_) (fun hand => Bool.false_ne_true hand.1)
      have hstage := h.isPrefix.subset hmem
      simp only [Config.stages, List.mem_cons, List.mem_append, Config.mem_stagesOf, hon,
        Bool.false_eq_true, false_and, false_or] at hstage
      rcases hstage with hstage | ⟨-, hstage⟩ <;> cases hstage
  | true =>
      have hstages : config.stages = [.users] ++ .source .direct :: config.stagesOf .group := by
        simp only [Config.stages, Config.stagesOf, hon, if_true, List.cons_append, List.nil_append]
      rw [h.mem_iff config.nodup_stages hstages]
      simp only [List.mem_singleton, forall_eq, true_and]

theorem Walks.group_iff {config : Config} {through : List (Stage × Answer)}
    (h : Walks config config.stages through) :
    Stage.source .group ∈ through.map Prod.fst ↔
      config.enabled .group = true ∧ config.Passed through .users ∧
        (config.enabled .direct = true → config.Passed through (.source .direct)) := by
  cases hon : config.enabled .group with
  | false =>
      refine iff_of_false (fun hmem => ?_) (fun hand => Bool.false_ne_true hand.1)
      have hstage := h.isPrefix.subset hmem
      simp only [Config.stages, List.mem_cons, List.mem_append, Config.mem_stagesOf, hon,
        Bool.false_eq_true, false_and, or_false] at hstage
      rcases hstage with hstage | ⟨-, hstage⟩ <;> cases hstage
  | true =>
      have hstages : config.stages =
          (.users :: config.stagesOf .direct) ++ .source .group :: [] := by
        have hgroup : config.stagesOf .group = [.source .group] := by
          simp only [Config.stagesOf, hon, if_true]
        rw [Config.stages, hgroup, List.cons_append]
      rw [h.mem_iff config.nodup_stages hstages]
      simp only [List.mem_cons, Config.mem_stagesOf, forall_eq_or_imp, true_and, and_imp]
      constructor
      · rintro ⟨husers, hdirect⟩
        exact ⟨husers, fun henabled => hdirect _ henabled rfl⟩
      · rintro ⟨husers, hdirect⟩
        refine ⟨husers, ?_⟩
        rintro _ henabled rfl
        exact hdirect henabled

theorem Walks.passage {config : Config} {u r : String} {through : List (Stage × Answer)}
    (h : Walks config config.stages through)
    (hspells : ∀ answer, (.users, answer) ∈ through → Spells answer r) :
    Passage config u r (through.map (config.line u r)) through where
  lines := rfl
  inOrder := by
    have hmap := h.isPrefix.map (config.question u r)
    rw [List.map_map] at hmap ⊢
    exact hmap
  reached := h.isPrefix
  once := config.nodup_stages.sublist h.isPrefix.sublist
  users := by
    have hstages : config.stages = [] ++ .users :: (config.stagesOf .direct ++
      config.stagesOf .group) := rfl
    refine (h.mem_iff config.nodup_stages hstages).mpr fun _ hmem => ?_
    exact absurd hmem List.not_mem_nil
  direct := h.direct_iff
  group := h.group_iff
  spelled row rows first hmem hfirst := hspells _ hmem row rows first rfl hfirst

/-- A lookup puts the queries of the first of its stages, up to one whose answer does not let it
pass, whatever answers them.  Under an executor this holds of each of several lookups, and the hook
puts none of the queries. -/
theorem resolve_traced (config : Config) (hook : Option Hook) :
    (∀ u talk outcome, Follows verbatim (resolve config hook u) talk outcome →
      ∃ r through, Passage config u r talk through) ∧
    ∀ executor usernames, List.Forall₂ (fun u step =>
        (∃ r through, Passage config u r (transcript executor step.2) through) ∧
        questions step.2 = questions ((resolve config none u).run executor).2)
      usernames (resolveAll config hook executor usernames) := by
  have hfollows : ∀ u talk outcome, Follows verbatim (resolve config hook u) talk outcome →
      ∃ r through, Passage config u r talk through := by
    intro u talk outcome h
    obtain ⟨r, through, rfl, hwalks, hspells⟩ := walks_resolve h
    exact ⟨r, through, hwalks.passage hspells⟩
  refine ⟨hfollows, ?_⟩
  intro executor usernames
  unfold resolveAll
  rw [List.forall₂_map_right_iff]
  refine List.forall₂_same.mpr ?_
  intro u _
  exact ⟨hfollows u _ _ (follows_run executor _), questions_resolve config hook executor u⟩

-- The row of the direct authorities is too short, so the groups are not asked for.
example :
    questions ((resolve { enableGroups := .bool true } none "bob").run
      (preparedStore
        [⟨Query.defaultUsers, none, .ok [[.text "Bob", .text "pw", .int 1]]⟩,
          ⟨Query.defaultAuthorities, none, .ok [[.text "Bob"]]⟩])).2 =
      [lookingUp Query.defaultUsers "bob", lookingUp Query.defaultAuthorities "Bob"] := by
  rfl

end Entitlement.Lookup
