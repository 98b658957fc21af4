import Mathlib.Data.List.Induction
import Entitlement.Log.Session
import Entitlement.Proofs.Log.Fields

/-!
# `Entitlement.Proofs.Log.History` — what earlier steps fix for a call

Logging keeps two pieces of state of its own and one for every logger, and they are fixed at
different times.  Here each is told from the steps that were taken, in the order in which they were
taken, and without the state:

| | by the history | in the state |
| :-- | :-- | :-- |
| the threshold | `rootThreshold`: the first attempt to configure | `System.threshold` |
| the service | `lastService`: the last attempt that succeeded | `System.service` |
| the context | `contextOf`: all fields put into it | `System.context` |
| a logger | `Life`: the steps since it was asked for | `Session.loggers` |
| the fields bound to it | `boundIn` its life | `Logger.bound` |
| its service | `FirstTouch`: the last service before its first use | `Logger.sink` |

That the two columns agree is an induction on the history from its end, where the last step is what
a step lemma is about.  The lemmas about a logger begin where its life begins, because what happened
before is of no account to it.
-/
namespace Entitlement

theorem concat_eq_append_cons_iff {α : Type} {xs front rest : List α} {x y : α} :
    xs ++ [x] = front ++ y :: rest ↔
      (xs = front ∧ x = y ∧ rest = []) ∨
        ∃ others, rest = others ++ [x] ∧ xs = front ++ y :: others := by
  constructor
  · intro h
    rcases List.eq_nil_or_concat rest with rfl | ⟨others, last, rfl⟩
    · obtain ⟨hfront, hlast⟩ := List.append_inj' h rfl
      exact .inl ⟨hfront, List.singleton_inj.mp hlast, rfl⟩
    · rw [List.concat_eq_append, ← List.cons_append, ← List.append_assoc] at h
      obtain ⟨hfront, hlast⟩ := List.append_inj' h rfl
      rw [← List.singleton_inj.mp hlast, List.concat_eq_append]
      exact .inr ⟨others, rfl, hfront⟩
  · rintro (⟨rfl, rfl, rfl⟩ | ⟨others, rfl, rfl⟩)
    · rfl
    · rw [List.append_assoc, List.cons_append]

namespace Log

/-! ## Runs -/

theorem Session.run_append (session : Session) (history rest : List Step) :
    session.run (history ++ rest) =
      (((session.run history).1.run rest).1,
        (session.run history).2 ++ ((session.run history).1.run rest).2) := by
  induction history generalizing session with
  | nil => rfl
  | cons step history ih => simp only [List.cons_append, Session.run, ih]

theorem Session.length_run (session : Session) (history : List Step) :
    (session.run history).2.length = history.length := by
  induction history generalizing session with
  | nil => rfl
  | cons step history ih => simp only [Session.run, List.length_cons, ih]

def reached (history : List Step) : Session := (Session.run {} history).1

theorem reached_concat (history : List Step) (step : Step) :
    reached (history ++ [step]) = ((reached history).step step).1 := by
  unfold reached
  rw [Session.run_append]
  rfl

theorem answer_run (history : List Step) (step : Step) (rest : List Step) :
    (Session.run {} (history ++ step :: rest)).2[history.length]? =
      some ((reached history).step step).2 := by
  rw [Session.run_append, List.getElem?_append_right (Nat.le_of_eq (Session.length_run _ _)),
    Session.length_run, Nat.sub_self]
  rfl

/-! ## Levels -/

def levels : List (String × Nat) :=
  [("NOTSET", 0), ("DEBUG", 10), ("INFO", 20), ("WARN", 30), ("WARNING", 30), ("ERROR", 40),
    ("CRITICAL", 50), ("FATAL", 50)]

/-- A name that stands for something that cannot be a level. -/
def Refused (level : String) : Prop := Text.upperName level ∈ ["BASIC_FORMAT", "_STYLES"]

instance (level : String) : Decidable (Refused level) :=
  inferInstanceAs (Decidable (Text.upperName level ∈ ["BASIC_FORMAT", "_STYLES"]))

/-- The number of a level, given by its name in any case; that of information for every other
name. -/
def levelNumber (level : String) : Nat :=
  (levels.lookup (Text.upperName level)).getD Severity.info.number

theorem threshold_of_refused {level : String} (h : Refused level) :
    (∃ s, threshold level = .text s) ∨ threshold level = .table := by
  simp only [Refused, List.mem_cons, List.not_mem_nil, or_false] at h
  unfold threshold
  rcases h with h | h
  · rw [h]
    exact .inl ⟨_, rfl⟩
  · rw [h]
    exact .inr rfl

theorem threshold_of_not_refused {level : String} (h : ¬Refused level) :
    threshold level = .number (levelNumber level) := by
  simp only [Refused, List.mem_cons, List.not_mem_nil, or_false, not_or] at h
  unfold threshold levelNumber
  split
  case h_9 heq => exact absurd heq h.2
  case h_10 heq => exact absurd heq h.1
  case h_11 =>
    rename_i hnotset hdebug hinfo hwarn hwarning herror hcritical hfatal _ _
    have hnone : levels.lookup (Text.upperName level) = none := by
      simp only [levels, lookup_cons_if, if_neg hnotset, if_neg hdebug, if_neg hinfo, if_neg hwarn,
        if_neg hwarning, if_neg herror, if_neg hcritical, if_neg hfatal]
      rfl
    rw [hnone]
    rfl
  all_goals rename_i heq; rw [heq]; rfl

/-! ## The system -/

def Step.attempt? : Step → Option (String × String)
  | .configure service level => some (service, level)
  | _ => none

def attempts (history : List Step) : List (String × String) := history.filterMap Step.attempt?

/-- The threshold an attempt fixes when it is the first one: that of warnings when it fails. -/
def startingThreshold (level : String) : Nat :=
  if Refused level then Severity.warning.number else levelNumber level

/-- The threshold after a history: the first attempt to configure fixes it. -/
def rootThreshold (history : List Step) : Nat :=
  ((attempts history).head?.map fun attempt => startingThreshold attempt.2).getD
    Severity.warning.number

/-- The attempts that succeeded: all but a first one with a level that is refused. -/
def succeeded : List (String × String) → List (String × String)
  | [] => []
  | first :: rest => if Refused first.2 then rest else first :: rest

def lastService (history : List Step) : Option String :=
  (succeeded (attempts history)).getLast?.map Prod.fst

def Step.contextFields : Step → Fields
  | .context fields => fields
  | _ => []

def contextOf (history : List Step) : Fields := history.flatMap Step.contextFields

theorem attempts_append (history rest : List Step) :
    attempts (history ++ rest) = attempts history ++ attempts rest :=
  List.filterMap_append

theorem contextOf_concat (history : List Step) (step : Step) :
    contextOf (history ++ [step]) = contextOf history ++ step.contextFields := by
  rw [contextOf, List.flatMap_append, List.flatMap_singleton, contextOf]

theorem attempts_concat_of_eq_none {history : List Step} {step : Step} (h : step.attempt? = none) :
    attempts (history ++ [step]) = attempts history := by
  rw [attempts_append]
  simp only [attempts, List.filterMap_cons, h, List.filterMap_nil, List.append_nil]

/-- An attempt fails exactly when no threshold is fixed yet and its level is refused. -/
theorem System.configure_fails_iff (system : System) (service level : String) :
    (∃ fault, (system.configure service level).2 = .error fault) ↔
      system.threshold = none ∧ Refused level := by
  unfold System.configure
  cases system.threshold with
  | some n => exact iff_of_false (fun ⟨_, h⟩ => by cases h) (fun h => by cases h.1)
  | none =>
      by_cases hlevel : Refused level
      · rcases threshold_of_refused hlevel with ⟨s, h⟩ | h
        · simp [h, hlevel]
        · simp [h, hlevel]
      · simp [threshold_of_not_refused hlevel, hlevel]

theorem System.threshold_configure_ne_none (system : System) (service level : String) :
    (system.configure service level).1.threshold ≠ none := by
  unfold System.configure
  cases system.threshold with
  | some n => simp
  | none =>
      cases Log.threshold level with
      | number n => simp
      | text s => simp
      | table => simp

theorem configure_eq {system : System} {attempted : List (String × String)}
    (hthreshold : system.threshold = attempted.head?.map fun attempt => startingThreshold attempt.2)
    (hservice : system.service = (succeeded attempted).getLast?.map Prod.fst)
    (service level : String) :
    (system.configure service level).1 =
      { system with
        threshold := (attempted ++ [(service, level)]).head?.map fun attempt =>
          startingThreshold attempt.2
        service := (succeeded (attempted ++ [(service, level)])).getLast?.map Prod.fst } := by
  obtain ⟨threshold, last, context⟩ := system
  dsimp only at hthreshold hservice
  subst hthreshold hservice
  unfold System.configure
  cases attempted with
  | cons first rest =>
      have hlast : (succeeded (first :: rest ++ [(service, level)])).getLast? =
          some (service, level) := by
        rw [List.cons_append, succeeded]
        split
        · exact List.getLast?_concat
        · rw [← List.cons_append]
          exact List.getLast?_concat
      rw [hlast]
      rfl
  | nil =>
      by_cases hlevel : Refused level
      · rcases threshold_of_refused hlevel with ⟨s, h⟩ | h
        · simp [h, hlevel, succeeded, startingThreshold, defaultThreshold, Severity.number]
        · simp [h, hlevel, succeeded, startingThreshold, defaultThreshold, Severity.number]
      · simp [threshold_of_not_refused hlevel, hlevel, succeeded, startingThreshold]

theorem Session.system_step (session : Session) (step : Step) :
    (session.step step).1.system = match step with
      | .configure service level => (session.system.configure service level).1
      | .context fields => session.system.addContext fields
      | _ => session.system := by
  cases step with
  | configure service level => rfl
  | context fields => rfl
  | get name => rfl
  | bind name fields =>
      simp only [Session.step]
      split
      · split
        · rfl
        · rfl
      · rfl
  | log name method event call =>
      simp only [Session.step]
      split
      · rfl
      · rfl

/-- The system a history leads to, told from the history. -/
theorem system_reached (history : List Step) :
    (reached history).system =
      { threshold := (attempts history).head?.map fun attempt => startingThreshold attempt.2
        service := lastService history
        context := Fields.putAll [] (contextOf history) } := by
  induction history using List.reverseRecOn with
  | nil => rfl
  | append_singleton history step ih =>
      rw [reached_concat, Session.system_step, lastService, contextOf_concat, Fields.putAll_append]
      cases step with
      | configure service level =>
          have hthreshold := congrArg System.threshold ih
          have hservice := congrArg System.service ih
          dsimp only
          rw [configure_eq hthreshold hservice, attempts_append, ih]
          rfl
      | context fields =>
          rw [attempts_concat_of_eq_none rfl]
          dsimp only
          rw [ih]
          rfl
      | _ =>
          rw [attempts_concat_of_eq_none rfl]
          exact ih

theorem threshold_reached_eq_none_iff {history : List Step} :
    (reached history).system.threshold = none ↔ attempts history = [] := by
  rw [system_reached]
  dsimp only
  rw [Option.map_eq_none_iff, List.head?_eq_none_iff]

theorem passes_reached (history : List Step) (severity : Severity) :
    (reached history).system.passes severity = true ↔
      rootThreshold history ≤ severity.number := by
  rw [system_reached]
  exact decide_eq_true_iff

/-! ## Loggers -/

/-- A step that uses a logger: a call, or binding fields to it.  A call that fails for the names of
its fields is a use all the same; binding that fails for them is none. -/
def Step.Touches (name : String) : Step → Prop
  | .bind other fields => other = name ∧ fields.has "self" = false
  | .log other _ _ _ => other = name
  | _ => False

instance (name : String) (step : Step) : Decidable (step.Touches name) :=
  match step with
  | .configure _ _ => inferInstanceAs (Decidable False)
  | .context _ => inferInstanceAs (Decidable False)
  | .get _ => inferInstanceAs (Decidable False)
  | .bind other fields => inferInstanceAs (Decidable (other = name ∧ fields.has "self" = false))
  | .log other _ _ _ => inferInstanceAs (Decidable (other = name))

def Step.boundFields (name : String) : Step → Fields
  | .bind other fields => if other = name ∧ fields.has "self" = false then fields else []
  | _ => []

def boundIn (name : String) (life : List Step) : Fields := life.flatMap (Step.boundFields name)

/-- The life of the logger of a name: the steps since it was asked for last. -/
structure Life (name : String) (history begun life : List Step) : Prop where
  split : history = begun ++ life
  asked : ∃ before, begun = before ++ [.get name]
  last : ∀ step ∈ life, step ≠ .get name

/-- Some step of a life uses the logger, and at the first one that does the last attempt to
configure that had succeeded was that of a service. -/
def FirstTouch (name : String) (begun life : List Step) (service : String) : Prop :=
  ∃ idle touch rest, life = idle ++ touch :: rest ∧ (∀ step ∈ idle, ¬step.Touches name) ∧
    touch.Touches name ∧ lastService (begun ++ idle) = some service

theorem Life.concat {name : String} {history begun life : List Step}
    (h : Life name history begun life) {step : Step} (hstep : step ≠ .get name) :
    Life name (history ++ [step]) begun (life ++ [step]) where
  split := by rw [h.split, List.append_assoc]
  asked := h.asked
  last := by
    intro other hother
    rcases List.mem_append.mp hother with hother | hother
    · exact h.last other hother
    · rw [List.mem_singleton.mp hother]
      exact hstep

/-- The first use of a logger stays the first one. -/
theorem FirstTouch.append {name : String} {begun life : List Step} {service : String}
    (h : FirstTouch name begun life service) (more : List Step) :
    FirstTouch name begun (life ++ more) service := by
  obtain ⟨idle, touch, rest, rfl, hquiet, htouch, hservice⟩ := h
  refine ⟨idle, touch, rest ++ more, ?_, hquiet, htouch, hservice⟩
  rw [List.append_assoc, List.cons_append]

theorem boundIn_concat (name : String) (life : List Step) (step : Step) :
    boundIn name (life ++ [step]) = boundIn name life ++ step.boundFields name := by
  rw [boundIn, List.flatMap_append, List.flatMap_singleton, boundIn]

theorem Session.lookup_keep (session : Session) (name : String) (logger : Logger) (k : String) :
    (session.keep name logger).loggers.lookup k =
      if k = name then some logger else session.loggers.lookup k := by
  unfold Session.keep
  rw [lookup_cons_if, lookup_filter_ne]
  by_cases hk : k = name
  · rw [if_pos hk, if_pos hk]
  · rw [if_neg hk, if_neg hk, if_neg hk]

/-- What a step makes of the logger of a name, unless the logger is asked for anew. -/
structure Logger.Follows (k : String) (system : System) (step : Step) (logger next : Logger) :
    Prop where
  name : next.name = logger.name
  bound : next.bound = logger.bound.putAll (step.boundFields k)
  idle : ¬step.Touches k → next.sink = logger.sink
  attached : ∀ service, logger.sink = .service service → next.sink = .service service
  attaches : ∀ service, logger.sink = .pending → step.Touches k →
    system.service = some service → next.sink = .service service

theorem Step.boundFields_of_not_touches {name : String} {step : Step} (h : ¬step.Touches name) :
    step.boundFields name = [] := by
  cases step with
  | bind other fields => exact if_neg h
  | _ => rfl

theorem Logger.Follows.of_not_touches {k : String} {system : System} {step : Step}
    {logger : Logger} (h : ¬step.Touches k) : logger.Follows k system step logger where
  name := rfl
  bound := by
    rw [Step.boundFields_of_not_touches h]
    rfl
  idle _ := rfl
  attached _ hsink := hsink
  attaches _ _ htouches := absurd htouches h

theorem Logger.sink_attach {logger : Logger} {system : System} {service : String}
    (h : logger.sink = .service service ∨
      logger.sink = .pending ∧ system.service = some service) :
    (logger.attach system).sink = .service service := by
  unfold Logger.attach
  rcases h with h | ⟨h, hservice⟩
  · rw [h]
    exact h
  · rw [h]
    simp only [System.sink, hservice]

theorem Logger.name_attach (logger : Logger) (system : System) :
    (logger.attach system).name = logger.name := by
  unfold Logger.attach
  split
  · rfl
  · rfl

theorem Logger.bound_attach (logger : Logger) (system : System) :
    (logger.attach system).bound = logger.bound := by
  unfold Logger.attach
  split
  · rfl
  · rfl

/-- The step lemma: the logger of a name follows every step but the one that asks for it. -/
theorem Session.follows_step {session : Session} {k : String} {logger : Logger}
    (hlogger : session.loggers.lookup k = some logger) {step : Step} (hstep : step ≠ .get k) :
    ∃ next, (session.step step).1.loggers.lookup k = some next ∧
      logger.Follows k session.system step next := by
  cases step with
  | configure service level => exact ⟨logger, hlogger, .of_not_touches id⟩
  | context fields => exact ⟨logger, hlogger, .of_not_touches id⟩
  | get other =>
      have hother : k ≠ other := fun heq => hstep (heq ▸ rfl)
      exact ⟨logger, ((session.lookup_keep _ _ _).trans (if_neg hother)).trans hlogger,
        .of_not_touches id⟩
  | bind other fields =>
      by_cases hother : other = k
      · subst hother
        simp only [Session.step, hlogger, Logger.bind]
        cases hself : fields.has "self" with
        | true =>
            rw [if_pos rfl]
            refine ⟨logger, hlogger, .of_not_touches fun h => ?_⟩
            rw [h.2] at hself
            cases hself
        | false =>
            rw [if_neg Bool.false_ne_true]
            refine ⟨_, (session.lookup_keep _ _ _).trans (if_pos rfl), ?_, ?_, ?_, ?_, ?_⟩
            · exact logger.name_attach _
            · dsimp only [Step.boundFields]
              rw [if_pos ⟨rfl, hself⟩, logger.bound_attach]
            · intro hidle
              exact absurd ⟨rfl, hself⟩ hidle
            · intro service hsink
              have hattach : (logger.attach session.system).sink = .service service :=
                Logger.sink_attach (.inl hsink)
              simp only [hattach, reduceCtorEq, if_false]
            · intro service hsink _ hservice
              have hattach := Logger.sink_attach (.inr ⟨hsink, hservice⟩)
              simp only [hattach, reduceCtorEq, if_false]
      · have htouches : ¬(Step.bind other fields).Touches k := fun h => hother h.1
        simp only [Session.step]
        split
        · split
          · exact ⟨logger, ((session.lookup_keep _ _ _).trans (if_neg (Ne.symm hother))).trans
              hlogger, .of_not_touches htouches⟩
          · exact ⟨logger, hlogger, .of_not_touches htouches⟩
        · exact ⟨logger, hlogger, .of_not_touches htouches⟩
  | log other method event call =>
      by_cases hother : other = k
      · subst hother
        simp only [Session.step, hlogger, Logger.log]
        refine ⟨_, (session.lookup_keep _ _ _).trans (if_pos rfl), logger.name_attach _,
          logger.bound_attach _, fun hidle => absurd rfl hidle,
          fun service hsink => Logger.sink_attach (.inl hsink),
          fun service hsink _ hservice => Logger.sink_attach (.inr ⟨hsink, hservice⟩)⟩
      · have htouches : ¬(Step.log other method event call).Touches k := hother
        simp only [Session.step]
        split
        · exact ⟨logger, ((session.lookup_keep _ _ _).trans (if_neg (Ne.symm hother))).trans
            hlogger, .of_not_touches htouches⟩
        · exact ⟨logger, hlogger, .of_not_touches htouches⟩

/-- The run lemma: the logger of a name after a life of it. -/
theorem logger_reached {name : String} {history begun life : List Step}
    (h : Life name history begun life) :
    ∃ logger, (reached history).loggers.lookup name = some logger ∧ logger.name = name ∧
      logger.bound = Fields.putAll [] (boundIn name life) ∧
      ((∀ step ∈ life, ¬step.Touches name) → logger.sink = .pending) ∧
      ∀ service, FirstTouch name begun life service → logger.sink = .service service := by
  obtain ⟨rfl, ⟨before, rfl⟩, hlast⟩ := h
  induction life using List.reverseRecOn with
  | nil =>
      rw [List.append_nil, reached_concat]
      refine ⟨{ name }, (Session.lookup_keep _ _ _ _).trans (if_pos rfl), rfl, rfl, fun _ => rfl,
        ?_⟩
      rintro service ⟨idle, touch, rest, hsplit, -⟩
      exact absurd hsplit (by simp)
  | append_singleton life step ih =>
      have hlife : ∀ other ∈ life, other ≠ .get name :=
        fun other hother => hlast other (List.mem_append_left _ hother)
      have hstep : step ≠ .get name :=
        hlast step (List.mem_append_right _ (List.mem_singleton_self _))
      obtain ⟨logger, hlogger, hname, hbound, hidle, hattached⟩ := ih hlife
      obtain ⟨next, hnext, hfollows⟩ := Session.follows_step hlogger hstep
      rw [← List.append_assoc, reached_concat]
      refine ⟨next, hnext, hfollows.name.trans hname, ?_, ?_, ?_⟩
      · rw [hfollows.bound, hbound, boundIn_concat, Fields.putAll_append]
      · intro hnone
        rw [hfollows.idle (hnone step (List.mem_append_right _ (List.mem_singleton_self _)))]
        exact hidle fun other hother => hnone other (List.mem_append_left _ hother)
      · rintro service ⟨idle, touch, rest, hsplit, hquiet, htouch, hservice⟩
        -- The first use is either this last step or it lies in the life before it.
        rcases concat_eq_append_cons_iff.mp hsplit with ⟨rfl, rfl, rfl⟩ | ⟨rest, rfl, rfl⟩
        · refine hfollows.attaches service (hidle hquiet) htouch ?_
          rw [system_reached]
          exact hservice
        · exact hfollows.attached service
            (hattached service ⟨idle, touch, rest, rfl, hquiet, htouch, hservice⟩)

theorem logger_at_call {name : String} {history begun life : List Step} {call : Step}
    {service : String} (h : Life name history begun life)
    (htouch : FirstTouch name begun (life ++ [call]) service) :
    ∃ logger, (reached history).loggers.lookup name = some logger ∧ logger.name = name ∧
      logger.bound = Fields.putAll [] (boundIn name life) ∧
      (logger.attach (reached history).system).sink = .service service := by
  obtain ⟨logger, hlogger, hname, hbound, hidle, hattached⟩ := logger_reached h
  refine ⟨logger, hlogger, hname, hbound, Logger.sink_attach ?_⟩
  obtain ⟨idle, touch, rest, hsplit, hquiet, htouches, hservice⟩ := htouch
  rcases concat_eq_append_cons_iff.mp hsplit with ⟨rfl, -, -⟩ | ⟨rest, -, rfl⟩
  · refine .inr ⟨hidle hquiet, ?_⟩
    rw [system_reached, h.split]
    exact hservice
  · exact .inl (hattached service ⟨idle, touch, rest, rfl, hquiet, htouches, hservice⟩)

end Log
end Entitlement
