import Entitlement.Lookup.Interleave
import Entitlement.Proofs.Lookup.Rules

/-!
# `Entitlement.Proofs.Lookup.Schedule` — one plan among others on a changing store

A schedule lets many plans go on in turns while the store changes between them.  Of all this, one
plan sees only the stores at which it put its queries.  `Pool.seen` lists them with the queries, and
the plan ends as if it were given the answers of these stores one after the other.

    pool.seen answer i schedule      what plan i asked, and the store it asked at
    Follows answer plan seen outcome plan, given those answers, ends with the outcome

`follows_of_play` is the projection from the schedule to the plan.  From it everything else is said
of a single plan: a plan that has seen one store only ends as it would have ended alone on it
(`Follows.run`), and a plan that asks for different query texts ends as under one answering function
put together from the stores it has seen (`Follows.run_nodup`).

How often a plan has to go on until it ends is `Plan.EndsIn`, and which query texts it can ask for,
in which order, is `Plan.Asks`.
-/
namespace Entitlement.Lookup

variable {α β σ : Type}

/-! ## Plans as they go on -/

/-- A plan ends after going on so many times, whatever it is answered. -/
inductive Plan.EndsIn : Nat → Plan α → Prop
  | done {n : Nat} {outcome : Except Fault α} : EndsIn n (.done outcome)
  | ask {n : Nat} {question : Question} {next : Answer → Plan α} :
      (∀ answer, EndsIn n (next answer)) → EndsIn (n + 1) (.ask question next)
  | tell {n : Nat} {note : Note} {next : Plan α} :
      EndsIn n next → EndsIn (n + 1) (.tell note next)

/-- A plan asks for some of these query texts, in this order and each at most once. -/
inductive Plan.Asks : List String → Plan α → Prop
  | done {sqls : List String} {outcome : Except Fault α} : Asks sqls (.done outcome)
  | tell {sqls : List String} {note : Note} {next : Plan α} :
      Asks sqls next → Asks sqls (.tell note next)
  | ask {sqls : List String} {question : Question} {next : Answer → Plan α} :
      (∀ answer, Asks sqls (next answer)) → Asks (question.sql :: sqls) (.ask question next)
  | skip {sqls : List String} {sql : String} {plan : Plan α} :
      Asks sqls plan → Asks (sql :: sqls) plan

namespace Plan

theorem EndsIn.mono {n m : Nat} {plan : Plan α} (h : plan.EndsIn n) (hle : n ≤ m) :
    plan.EndsIn m := by
  induction h generalizing m with
  | done => exact .done
  | ask _ ih =>
      obtain ⟨k, rfl⟩ : ∃ k, m = k + 1 := ⟨m - 1, by omega⟩
      exact .ask fun answer => ih answer (by omega)
  | tell _ ih =>
      obtain ⟨k, rfl⟩ : ∃ k, m = k + 1 := ⟨m - 1, by omega⟩
      exact .tell (ih (by omega))

theorem EndsIn.andThen {n m : Nat} {plan : Plan α} {f : Except Fault α → Plan β}
    (h : plan.EndsIn n) (hf : ∀ outcome, (f outcome).EndsIn m) :
    (plan.andThen f).EndsIn (n + m) := by
  induction h with
  | done => exact (hf _).mono (Nat.le_add_left _ _)
  | @ask n question next _ ih =>
      rw [Nat.add_right_comm]
      exact .ask ih
  | @tell n note next _ ih =>
      rw [Nat.add_right_comm]
      exact .tell ih

theorem EndsIn.advance {n : Nat} {plan : Plan α} (h : plan.EndsIn n) (executor : Executor) :
    (plan.advance executor).EndsIn (n - 1) := by
  cases h with
  | done => exact .done
  | ask hnext => exact hnext _
  | tell hnext => exact hnext

theorem Asks.skip_append {sqls : List String} {plan : Plan α} (h : plan.Asks sqls) :
    ∀ before : List String, plan.Asks (before ++ sqls)
  | [] => h
  | _ :: before => .skip (h.skip_append before)

theorem Asks.andThen {sqls sqls' : List String} {plan : Plan α} {f : Except Fault α → Plan β}
    (h : plan.Asks sqls) (hf : ∀ outcome, (f outcome).Asks sqls') :
    (plan.andThen f).Asks (sqls ++ sqls') := by
  induction h with
  | done => exact (hf _).skip_append _
  | tell _ ih => exact .tell ih
  | ask _ ih => exact .ask ih
  | skip _ ih => exact .skip ih

/-- Going on does not change how a plan ends under the same answering function. -/
theorem run_advance (executor : Executor) (plan : Plan α) :
    ((plan.advance executor).run executor).1 = (plan.run executor).1 := by
  cases plan with
  | done outcome => rfl
  | ask question next => rfl
  | tell note next => rfl

end Plan

/-! ## What one plan sees -/

/-- A plan ends with an outcome when each of its queries is answered by the store listed with it. -/
inductive Follows (answer : σ → Executor) : Plan α → List (Question × σ) → Except Fault α → Prop
  | done {outcome : Except Fault α} : Follows answer (.done outcome) [] outcome
  | ask {question : Question} {next : Answer → Plan α} {store : σ} {seen : List (Question × σ)}
      {outcome : Except Fault α} :
      Follows answer (next (answer store question)) seen outcome →
      Follows answer (.ask question next) ((question, store) :: seen) outcome
  | tell {note : Note} {next : Plan α} {seen : List (Question × σ)} {outcome : Except Fault α} :
      Follows answer next seen outcome → Follows answer (.tell note next) seen outcome

namespace Pool

/-- The query a plan puts in a move, with the store it is put to; none if it puts none. -/
def glimpse (i : Nat) (pool : Pool σ α) : Move σ → List (Question × σ)
  | .advance j =>
    match (if j = i then pool.plans[i]? else none) with
    | some (.ask question _) => [(question, pool.store)]
    | _ => []
  | .change _ => []

/-- The queries a plan puts in a schedule, each with the store it is put to. -/
def seen (answer : σ → Executor) (i : Nat) (pool : Pool σ α) :
    List (Move σ) → List (Question × σ)
  | [] => []
  | move :: rest => pool.glimpse i move ++ seen answer i (pool.move answer move) rest

theorem play_cons (answer : σ → Executor) (pool : Pool σ α) (move : Move σ)
    (rest : List (Move σ)) :
    pool.play answer (move :: rest) = (pool.move answer move).play answer rest :=
  rfl

theorem seen_append (answer : σ → Executor) (i : Nat) (pool : Pool σ α)
    (before after : List (Move σ)) :
    pool.seen answer i (before ++ after) =
      pool.seen answer i before ++ (pool.play answer before).seen answer i after := by
  induction before generalizing pool with
  | nil => rfl
  | cons move before ih =>
      rw [List.cons_append, seen, seen, ih, play_cons, List.append_assoc]

theorem plans_advance_self (answer : σ → Executor) {pool : Pool σ α} {i : Nat} {plan : Plan α}
    (h : pool.plans[i]? = some plan) :
    (pool.move answer (.advance i)).plans[i]? = some (plan.advance (answer pool.store)) := by
  show (pool.plans.modify i _)[i]? = _
  rw [List.getElem?_modify_eq, h]
  rfl

theorem plans_move_other (answer : σ → Executor) {pool : Pool σ α} {i : Nat} {move : Move σ}
    (h : move ≠ .advance i) : (pool.move answer move).plans[i]? = pool.plans[i]? := by
  cases move with
  | advance j =>
      have hj : j ≠ i := fun heq => h (congrArg Move.advance heq)
      show (pool.plans.modify j _)[i]? = _
      rw [List.getElem?_modify_ne _ _ hj]
  | change f => rfl

theorem glimpse_other {pool : Pool σ α} {i : Nat} {move : Move σ} (h : move ≠ .advance i) :
    pool.glimpse i move = [] := by
  cases move with
  | advance j =>
      have hj : j ≠ i := fun heq => h (congrArg Move.advance heq)
      simp only [glimpse, if_neg hj]
  | change f => rfl

/-- The projection: a plan that has ended after a schedule has followed what it saw in it. -/
theorem follows_of_play {answer : σ → Executor} {i : Nat} {schedule : List (Move σ)}
    {pool : Pool σ α} {plan : Plan α} {outcome : Except Fault α}
    (hplan : pool.plans[i]? = some plan)
    (hdone : (pool.play answer schedule).plans[i]? = some (.done outcome)) :
    Follows answer plan (pool.seen answer i schedule) outcome := by
  induction schedule generalizing pool plan with
  | nil =>
      have hsame : some plan = some (.done outcome) := hplan.symm.trans hdone
      cases hsame
      exact .done
  | cons move rest ih =>
      rw [play_cons] at hdone
      by_cases hmove : move = .advance i
      · subst hmove
        have hfollows := ih (plans_advance_self answer hplan) hdone
        cases plan with
        | done outcome =>
            simp only [seen, glimpse, if_true, hplan]
            exact hfollows
        | ask question next =>
            simp only [seen, glimpse, if_true, hplan]
            exact .ask hfollows
        | tell note next =>
            simp only [seen, glimpse, if_true, hplan]
            exact .tell hfollows
      · have hfollows := ih ((plans_move_other answer hmove).trans hplan) hdone
        rw [seen, glimpse_other hmove]
        exact hfollows

def isTurn (i : Nat) : Move σ → Bool
  | .advance j => j == i
  | .change _ => false

theorem done_of_turns {answer : σ → Executor} {i : Nat} {schedule : List (Move σ)}
    {pool : Pool σ α} {plan : Plan α} {n : Nat} (hplan : pool.plans[i]? = some plan)
    (hends : plan.EndsIn n) (hturns : n ≤ schedule.countP (isTurn i)) :
    ∃ outcome, (pool.play answer schedule).plans[i]? = some (.done outcome) := by
  induction schedule generalizing pool plan n with
  | nil =>
      obtain rfl := Nat.le_zero.mp hturns
      cases hends with
      | done => exact ⟨_, hplan⟩
  | cons move rest ih =>
      rw [play_cons]
      by_cases hmove : move = .advance i
      · subst hmove
        have hturn : isTurn i (.advance i : Move σ) = true := beq_self_eq_true i
        rw [List.countP_cons_of_pos hturn] at hturns
        exact ih (plans_advance_self answer hplan) (hends.advance _) (by omega)
      · have hturn : ¬isTurn i move = true := by
          intro hturn
          cases move with
          | advance j => exact hmove (congrArg Move.advance (eq_of_beq hturn))
          | change f => cases hturn
        rw [List.countP_cons_of_neg hturn] at hturns
        exact ih ((plans_move_other answer hmove).trans hplan) hends hturns

/-! ## Schedules in which nothing changes -/

/-- Only plans go on, and the store stays as it is. -/
def Still (schedule : List (Move σ)) : Prop := ∀ move ∈ schedule, ∃ i, move = .advance i

theorem seen_of_still {answer : σ → Executor} {i : Nat} {schedule : List (Move σ)}
    (h : Still schedule) (pool : Pool σ α) :
    ∀ entry ∈ pool.seen answer i schedule, entry.2 = pool.store := by
  induction schedule generalizing pool with
  | nil =>
      intro entry hentry
      exact absurd hentry List.not_mem_nil
  | cons move rest ih =>
      intro entry hentry
      obtain ⟨j, rfl⟩ := h move List.mem_cons_self
      rw [seen, List.mem_append] at hentry
      rcases hentry with hentry | hentry
      · simp only [glimpse] at hentry
        split at hentry
        · rw [List.mem_singleton.mp hentry]
        · exact absurd hentry List.not_mem_nil
      · exact ih (fun other hother => h other (List.mem_cons_of_mem _ hother))
          (pool.move answer (.advance j)) entry hentry

theorem outcomes_play_of_still {answer : σ → Executor} {schedule : List (Move σ)}
    (h : Still schedule) (pool : Pool σ α) :
    (pool.play answer schedule).outcomes answer = pool.outcomes answer := by
  induction schedule generalizing pool with
  | nil => rfl
  | cons move rest ih =>
      obtain ⟨i, rfl⟩ := h move List.mem_cons_self
      rw [play_cons, ih fun other hother => h other (List.mem_cons_of_mem _ hother)]
      refine List.ext_getElem? fun j => ?_
      simp only [outcomes, List.getElem?_map]
      by_cases hij : i = j
      · subst hij
        cases hplan : pool.plans[i]? with
        | none =>
            have hnone : (pool.move answer (.advance i)).plans[i]? = none := by
              show (pool.plans.modify i _)[i]? = _
              rw [List.getElem?_modify_eq, hplan]
              rfl
            rw [hnone]
            rfl
        | some plan =>
            rw [plans_advance_self answer hplan]
            exact congrArg some (Plan.run_advance _ plan)
      · rw [plans_move_other answer fun heq => hij (Move.advance.inj heq)]
        rfl

end Pool

theorem still_inTurn (n rounds : Nat) : Pool.Still (inTurn n rounds : List (Move σ)) := by
  intro move hmove
  obtain ⟨turn, hturn, hmem⟩ := List.mem_flatten.mp hmove
  rw [List.eq_of_mem_replicate hturn] at hmem
  obtain ⟨i, -, rfl⟩ := List.mem_map.mp hmem
  exact ⟨i, rfl⟩

/-- Plans that are started together end as one by one. -/
theorem gather_eq_map (answer : σ → Executor) (store : σ) (plans : List (Plan α)) :
    gather answer store plans = plans.map fun plan => (plan.run (answer store)).1 :=
  Pool.outcomes_play_of_still (still_inTurn _ _) _

/-! ## From what was seen to one answering function -/

theorem Follows.run {answer : σ → Executor} {plan : Plan α} {seen : List (Question × σ)}
    {outcome : Except Fault α} (h : Follows answer plan seen outcome) {executor : Executor}
    (hseen : ∀ entry ∈ seen, executor entry.1 = answer entry.2 entry.1) :
    (plan.run executor).1 = outcome := by
  induction h with
  | done => rfl
  | @ask question next store seen outcome _ ih =>
      have hquestion : executor question = answer store question :=
        hseen (question, store) List.mem_cons_self
      show ((next (executor question)).run executor).1 = _
      rw [hquestion]
      exact ih fun entry hentry => hseen entry (List.mem_cons_of_mem _ hentry)
  | tell _ ih => exact ih hseen

theorem Follows.comap {τ : Type} {answer : σ → Executor} {f : τ → σ} {plan : Plan α}
    {seen : List (Question × τ)} {outcome : Except Fault α}
    (h : Follows answer plan (seen.map fun entry => (entry.1, f entry.2)) outcome) :
    Follows (fun store => answer (f store)) plan seen outcome := by
  generalize hmap : (seen.map fun entry => (entry.1, f entry.2)) = mapped at h
  induction h generalizing seen with
  | done =>
      rw [List.map_eq_nil_iff.mp hmap]
      exact .done
  | ask _ ih =>
      cases seen with
      | nil => cases hmap
      | cons entry rest =>
          rw [List.map_cons, List.cons.injEq] at hmap
          obtain ⟨hentry, hrest⟩ := hmap
          cases hentry
          exact .ask (ih hrest)
  | tell _ ih => exact .tell (ih hmap)

theorem Follows.sublist {answer : σ → Executor} {plan : Plan α} {seen : List (Question × σ)}
    {outcome : Except Fault α} (h : Follows answer plan seen outcome) {sqls : List String}
    (hasks : plan.Asks sqls) : (seen.map (·.1.sql)).Sublist sqls := by
  induction hasks generalizing seen with
  | done =>
      cases h with
      | done => exact List.nil_sublist _
  | tell _ ih =>
      cases h with
      | tell hnext => exact ih hnext
  | ask _ ih =>
      cases h with
      | ask hnext => exact (ih _ hnext).cons_cons _
  | skip _ ih => exact (ih h).cons _

/-- The store that was seen under a query text; another one if none was. -/
def storeSeen (seen : List (Question × σ)) (other : σ) (sql : String) : σ :=
  ((seen.find? (·.1.sql == sql)).map (·.2)).getD other

theorem storeSeen_of_mem {seen : List (Question × σ)} (hnodup : (seen.map (·.1.sql)).Nodup)
    (other : σ) {entry : Question × σ} (hentry : entry ∈ seen) :
    storeSeen seen other entry.1.sql = entry.2 := by
  induction seen with
  | nil => exact absurd hentry List.not_mem_nil
  | cons first rest ih =>
      rw [List.map_cons, List.nodup_cons] at hnodup
      rcases List.mem_cons.mp hentry with rfl | hrest
      · simp only [storeSeen, List.find?_cons, beq_self_eq_true, Option.map_some,
          Option.getD_some]
      · have hne : (first.1.sql == entry.1.sql) = false := by
          refine beq_eq_false_iff_ne.mpr ?_
          intro heq
          exact hnodup.1 (heq ▸ List.mem_map_of_mem hrest)
        have hstore := ih hnodup.2 hrest
        unfold storeSeen at hstore ⊢
        rw [List.find?_cons, hne]
        exact hstore

theorem storeSeen_mem {seen : List (Question × σ)} {other : Question × σ} (hother : other ∈ seen)
    (sql : String) : ∃ entry ∈ seen, storeSeen seen other.2 sql = entry.2 := by
  unfold storeSeen
  cases hfind : seen.find? (·.1.sql == sql) with
  | none => exact ⟨other, hother, rfl⟩
  | some entry => exact ⟨entry, List.mem_of_find?_eq_some hfind, rfl⟩

/-- A plan that asks for different query texts ends as under the stores it has seen put together to
one answering function. -/
theorem Follows.run_nodup {answer : σ → Executor} {plan : Plan α} {seen : List (Question × σ)}
    {outcome : Except Fault α} (h : Follows answer plan seen outcome) {sqls : List String}
    (hasks : plan.Asks sqls) (hnodup : sqls.Nodup) (other : σ) :
    (plan.run fun question => answer (storeSeen seen other question.sql) question).1 =
      outcome := by
  refine h.run fun entry hentry => ?_
  rw [storeSeen_of_mem ((h.sublist hasks).nodup hnodup) other hentry]

/-! ## The plan of a lookup -/

theorem asks_load (read : Row → Except Fault α) (sql username : String) :
    (load read sql username).Asks [sql] :=
  @Plan.Asks.ask _ [] (lookingUp sql username) _ fun _ => .done

theorem asks_loadSource (grants : Grants) (source : Source) (username : String) :
    (grants.loadSource source username).Asks [grants.query source] := by
  unfold Grants.loadSource
  split
  · exact asks_load _ _ _
  · exact .done

theorem asks_extend (hook : Option Hook) (username : String) (found : List Authority) :
    ((extend hook username found).andThen fun
      | .error e => Plan.done (.error e)
      | .ok [] => .done (.error (.failure .noAuthority username))
      | .ok (authority :: rest) => .done (.ok (authority :: rest))).Asks [] := by
  have hextend : (extend hook username found).Asks [] := by
    cases hook with
    | none => exact .done
    | some h => exact .tell .done
  refine hextend.andThen fun authorities => ?_
  cases authorities with
  | error fault => exact .done
  | ok authorities =>
      cases authorities with
      | nil => exact .done
      | cons first rest => exact .done

theorem asks_aggregate (grants : Grants) (username : String) :
    (aggregate grants username).Asks [grants.query .direct, grants.query .group] := by
  refine (asks_loadSource grants .direct username).andThen fun direct => ?_
  cases direct with
  | error fault => exact .done
  | ok direct =>
      refine (asks_loadSource grants .group username).andThen fun group => ?_
      cases group with
      | error fault => exact .done
      | ok group => exact asks_extend _ _ _

theorem asks_conclude (config : Config) (username : String) (record : UserRecord)
    (authorities : Except Fault (List Authority)) :
    (conclude config username record authorities).Asks [] := by
  unfold conclude
  split
  · exact .tell .done
  · exact .tell .done
  · exact .done

theorem asks_resolve (config : Config) (hook : Option Hook) (username : String) :
    (resolve config hook username).Asks
      [config.usersQuery, config.authoritiesQuery, config.groupAuthoritiesQuery] := by
  refine (asks_load readUser config.usersQuery username).andThen fun records => ?_
  cases records with
  | error fault => exact .done
  | ok records =>
      cases records with
      | nil => exact .tell .done
      | cons record others =>
          exact (asks_aggregate (config.grants hook) record.username).andThen fun authorities =>
            asks_conclude config username record authorities

theorem endsIn_loadSource (grants : Grants) (source : Source) (username : String) :
    (grants.loadSource source username).EndsIn 1 := by
  unfold Grants.loadSource
  split
  · exact .ask fun _ => .done
  · exact .done

theorem endsIn_aggregate (config : Config) (username : String) :
    (aggregate (config.grants none) username).EndsIn 2 := by
  show Plan.EndsIn (1 + 1) _
  refine (endsIn_loadSource (config.grants none) .direct username).andThen fun direct => ?_
  cases direct with
  | error fault => exact .done
  | ok direct =>
      show Plan.EndsIn (1 + 0) _
      refine (endsIn_loadSource (config.grants none) .group username).andThen fun group => ?_
      cases group with
      | error fault => exact .done
      | ok group =>
          have hextend : ∀ found, (extend (config.grants none).hook username found).EndsIn 0 :=
            fun _ => .done
          show Plan.EndsIn (0 + 0) _
          refine (hextend _).andThen fun authorities => ?_
          cases authorities with
          | error fault => exact .done
          | ok authorities =>
              cases authorities with
              | nil => exact .done
              | cons first rest => exact .done

theorem endsIn_conclude (config : Config) (username : String) (record : UserRecord)
    (authorities : Except Fault (List Authority)) :
    (conclude config username record authorities).EndsIn 1 := by
  unfold conclude
  split
  · exact .tell .done
  · exact .tell .done
  · exact .done

/-- Three queries and an entry for the log: without a hook a lookup ends in four turns. -/
theorem endsIn_resolve (config : Config) (username : String) :
    (resolve config none username).EndsIn 4 := by
  have hload : (load readUser config.usersQuery username).EndsIn 1 := .ask fun _ => .done
  show Plan.EndsIn (1 + 3) _
  refine hload.andThen fun records => ?_
  cases records with
  | error fault => exact .done
  | ok records =>
      cases records with
      | nil => exact .tell .done
      | cons record others =>
          exact (endsIn_aggregate config record.username).andThen fun authorities =>
            endsIn_conclude config username record authorities

end Entitlement.Lookup
