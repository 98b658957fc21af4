import Mathlib.Data.List.Induction
import Entitlement.Entry
import Entitlement.Proofs.Log.History

/-!
# `Entitlement.Proofs.Entry.Keeping` — which settings a process keeps

A process is told from the steps that were taken in it, in their order and without its state:

| | by the history | in the state |
| :-- | :-- | :-- |
| the environment | `variablesOf`: all variables that were given | `Session.environment` |
| the kept settings | `FirstBuilt`: the first ones that were built since the last clearing | `Session.kept` |
| that none are kept | `NoneBuilt`: every attempt since then failed | `Session.kept` |
| the settings a step gets | `Uses`: the kept ones, or those of the environment | `Session.used` |
| logging is configured | `Configured`: some start got its settings | `Session.logging` |

The right column follows the left one from step to step (`Holds.step`), and so along every history
(`holds`).  A history that leads nowhere is one in which some variable cannot be set: that ends the
run, and nothing else does (`environment_run`).
-/
namespace Entitlement.Entry

/-! ## Told from the history -/

def Step.variables : Step → Settings.Variables
  | .setVariables given => given
  | _ => []

def variablesOf (history : List Step) : Settings.Variables := history.flatMap Step.variables

def builtAfter (history : List Step) : Except Fault Settings :=
  (Settings.Environment.setAll [] (variablesOf history)).bind fun environment =>
    Settings.build environment []

def Step.Asks : Step → Prop
  | .get | .start => True
  | _ => False

/-- A history in two parts: up to the last time settings were cleared, and since then. -/
structure Since (history before since : List Step) : Prop where
  split : history = before ++ since
  cleared : before = [] ∨ ∃ earlier, before = earlier ++ [.clear]
  uncleared : Step.clear ∉ since

/-- No step that asked for settings could build them from the environment of its time. -/
def NoneBuilt (before since : List Step) : Prop :=
  ∀ idle step rest, since = idle ++ step :: rest → step.Asks →
    ∃ fault, builtAfter (before ++ idle) = .error fault

/-- The settings are those of the environment at the first step that could build them. -/
def FirstBuilt (before since : List Step) (s : Settings) : Prop :=
  ∃ idle step rest, since = idle ++ step :: rest ∧ step.Asks ∧
    builtAfter (before ++ idle) = .ok s ∧ NoneBuilt before idle

/-- The settings that a step gets which asks for them after a history. -/
inductive Uses (history : List Step) : Except Fault Settings → Prop
  | kept {before since : List Step} {s : Settings} :
      Since history before since → FirstBuilt before since s → Uses history (.ok s)
  | built {before since : List Step} :
      Since history before since → NoneBuilt before since → Uses history (builtAfter history)

/-- Some start got settings and so came to the configuration of logging. -/
def Configured (history : List Step) : Prop :=
  ∃ earlier later s, history = earlier ++ .start :: later ∧ Uses earlier (.ok s)

/-! ## One step more -/

theorem variablesOf_append (history rest : List Step) :
    variablesOf (history ++ rest) = variablesOf history ++ variablesOf rest :=
  List.flatMap_append

theorem Since.concat_cases {history before since : List Step} {step : Step}
    (h : Since (history ++ [step]) before since) :
    (step = .clear ∧ since = []) ∨
      step ≠ .clear ∧ ∃ rest, since = rest ++ [step] ∧ Since history before rest := by
  obtain ⟨hsplit, hcleared, huncleared⟩ := h
  rcases List.eq_nil_or_concat since with rfl | ⟨rest, last, rfl⟩
  -- Nothing has happened since, so the last step is the one that cleared.
  · refine .inl ⟨?_, rfl⟩
    rw [List.append_nil] at hsplit
    rcases hcleared with rfl | ⟨earlier, rfl⟩
    · exact absurd hsplit (by simp)
    · obtain ⟨-, hstep⟩ := List.append_inj' hsplit rfl
      exact List.singleton_inj.mp hstep
  · rw [List.concat_eq_append, ← List.append_assoc] at hsplit
    obtain ⟨hhistory, hstep⟩ := List.append_inj' hsplit rfl
    obtain rfl := List.singleton_inj.mp hstep
    rw [List.concat_eq_append] at huncleared ⊢
    refine .inr ⟨?_, rest, rfl, hhistory, hcleared, ?_⟩
    · rintro rfl
      exact huncleared (List.mem_append_right _ (List.mem_singleton_self _))
    · exact fun hmem => huncleared (List.mem_append_left _ hmem)

theorem exists_since (history : List Step) : ∃ before since, Since history before since := by
  induction history using List.reverseRecOn with
  | nil => exact ⟨[], [], rfl, .inl rfl, List.not_mem_nil⟩
  | append_singleton history step ih =>
      by_cases hstep : step = .clear
      · subst hstep
        exact ⟨_, [], (List.append_nil _).symm, .inr ⟨history, rfl⟩, List.not_mem_nil⟩
      · obtain ⟨before, since, hsplit, hcleared, huncleared⟩ := ih
        refine ⟨before, since ++ [step], by rw [hsplit, List.append_assoc], hcleared, ?_⟩
        intro hmem
        rcases List.mem_append.mp hmem with hmem | hmem
        · exact huncleared hmem
        · exact hstep (List.mem_singleton.mp hmem).symm

theorem noneBuilt_nil (before : List Step) : NoneBuilt before [] := by
  intro idle step rest hsplit
  exact absurd hsplit (by simp)

theorem not_firstBuilt_nil (before : List Step) (s : Settings) : ¬FirstBuilt before [] s := by
  rintro ⟨idle, step, rest, hsplit, -⟩
  exact absurd hsplit (by simp)

theorem noneBuilt_concat_iff {before since : List Step} {step : Step} :
    NoneBuilt before (since ++ [step]) ↔ NoneBuilt before since ∧
      (step.Asks → ∃ fault, builtAfter (before ++ since) = .error fault) := by
  constructor
  · intro h
    refine ⟨fun idle touch rest hsplit hasks => ?_, h since step [] rfl⟩
    exact h idle touch _ (concat_eq_append_cons_iff.mpr (.inr ⟨rest, rfl, hsplit⟩)) hasks
  · rintro ⟨hearlier, hstep⟩ idle touch rest hsplit hasks
    rcases concat_eq_append_cons_iff.mp hsplit with ⟨rfl, rfl, -⟩ | ⟨others, -, hsplit⟩
    · exact hstep hasks
    · exact hearlier idle touch others hsplit hasks

theorem firstBuilt_concat_iff {before since : List Step} {step : Step} {s : Settings} :
    FirstBuilt before (since ++ [step]) s ↔ FirstBuilt before since s ∨
      step.Asks ∧ builtAfter (before ++ since) = .ok s ∧ NoneBuilt before since := by
  constructor
  · rintro ⟨idle, touch, rest, hsplit, hasks, hbuilt, hnone⟩
    rcases concat_eq_append_cons_iff.mp hsplit with ⟨rfl, rfl, -⟩ | ⟨others, -, hsplit⟩
    · exact .inr ⟨hasks, hbuilt, hnone⟩
    · exact .inl ⟨idle, touch, others, hsplit, hasks, hbuilt, hnone⟩
  · rintro (⟨idle, touch, rest, hsplit, hfirst⟩ | hlast)
    · exact ⟨idle, touch, _, concat_eq_append_cons_iff.mpr (.inr ⟨rest, rfl, hsplit⟩), hfirst⟩
    · exact ⟨since, step, [], rfl, hlast⟩

theorem configured_concat_iff {history : List Step} {step : Step} :
    Configured (history ++ [step]) ↔
      Configured history ∨ step = .start ∧ ∃ s, Uses history (.ok s) := by
  constructor
  · rintro ⟨earlier, later, s, hsplit, huses⟩
    rcases concat_eq_append_cons_iff.mp hsplit with ⟨rfl, hstep, -⟩ | ⟨others, -, hsplit⟩
    · exact .inr ⟨hstep, s, huses⟩
    · exact .inl ⟨earlier, others, s, hsplit, huses⟩
  · rintro (⟨earlier, later, s, hsplit, huses⟩ | ⟨hstep, s, huses⟩)
    · exact ⟨earlier, _, s, concat_eq_append_cons_iff.mpr (.inr ⟨later, rfl, hsplit⟩), huses⟩
    · exact ⟨history, [], s, by rw [hstep], huses⟩

/-! ## The settings of a session -/

/-- The kept settings, or else those of the environment. -/
def Session.used (session : Session) : Except Fault Settings :=
  match session.kept with
  | some s => .ok s
  | none => Settings.build session.environment []

theorem Session.settings_eq (session : Session) :
    session.settings = ({ session with kept := session.used.toOption }, session.used) := by
  obtain ⟨environment, kept, logging⟩ := session
  unfold Session.settings Session.used
  cases kept with
  | some s => rfl
  | none =>
      dsimp only
      cases Settings.build environment [] with
      | ok s => rfl
      | error fault => rfl

theorem Session.start_eq (session : Session) :
    session.start = match session.used with
      | .error fault => ({ session with kept := none }, .error fault)
      | .ok s =>
        ({ session with kept := some s, logging := (construct session.logging s).1 },
          (construct session.logging s).2.map fun _ => serverFor s) := by
  unfold Session.start
  rw [Session.settings_eq]
  cases session.used with
  | ok s => rfl
  | error fault => rfl

theorem construct_fst (logging : Log.System) (s : Settings) :
    (construct logging s).1 = (logging.configure s.serviceName s.logLevel).1 := by
  unfold construct
  split
  · rename_i hlogging
    rw [hlogging]
  · rename_i hlogging
    rw [hlogging]

/-! ## Runs -/

theorem setAll_append (environment : Settings.Environment) (first second : Settings.Variables) :
    environment.setAll (first ++ second) =
      (environment.setAll first).bind fun middle => middle.setAll second := by
  induction first generalizing environment with
  | nil => rfl
  | cons given rest ih =>
      obtain ⟨name, v⟩ := given
      simp only [List.cons_append, Settings.Environment.setAll]
      cases environment.set name v with
      | error fault => rfl
      | ok changed => exact ih changed

theorem environment_step (session : Session) (step : Step) :
    (session.step step).map (fun result => result.1.environment) =
      session.environment.setAll step.variables := by
  have hsettings : session.settings.1.environment = session.environment := by
    rw [Session.settings_eq]
  have hstart : session.start.1.environment = session.environment := by
    rw [Session.start_eq]
    split
    · rfl
    · rfl
  cases step with
  | setVariables given =>
      simp only [Session.step, Step.variables]
      cases session.environment.setAll given with
      | error fault => rfl
      | ok environment => rfl
  | get => exact congrArg Except.ok hsettings
  | clear => rfl
  | start => exact congrArg Except.ok hstart

/-- A run changes the environment by all variables that are given, and fails exactly where they
cannot be set. -/
theorem environment_run (session : Session) (steps : List Step) :
    (session.run steps).map (fun result => result.1.environment) =
      session.environment.setAll (variablesOf steps) := by
  induction steps generalizing session with
  | nil => rfl
  | cons step rest ih =>
      rw [variablesOf, List.flatMap_cons, setAll_append, ← environment_step]
      simp only [Session.run]
      cases session.step step with
      | error fault => rfl
      | ok result =>
          obtain ⟨next, answer⟩ := result
          refine Eq.trans ?_ (ih next)
          dsimp only
          cases next.run rest with
          | error fault => rfl
          | ok result => rfl

theorem Session.run_append_eq_ok {session last : Session} {history rest : List Step}
    {answers : List (Except Fault Answer)} :
    session.run (history ++ rest) = .ok (last, answers) ↔
      ∃ middle first second, session.run history = .ok (middle, first) ∧
        middle.run rest = .ok (last, second) ∧ answers = first ++ second := by
  induction history generalizing session answers with
  | nil => simp [Session.run]
  | cons step history ih =>
      simp only [List.cons_append, Session.run]
      cases session.step step with
      | error fault => simp
      | ok result =>
          obtain ⟨next, answer⟩ := result
          dsimp only
          constructor
          · intro h
            split at h
            · cases h
            · rename_i middle _ hrun
              cases h
              obtain ⟨middle, first, second, hfirst, hsecond, rfl⟩ := ih.mp hrun
              rw [hfirst]
              exact ⟨middle, answer :: first, second, rfl, hsecond, rfl⟩
          · rintro ⟨middle, first, second, hfirst, hsecond, rfl⟩
            split at hfirst
            · cases hfirst
            · rename_i hrun
              cases hfirst
              rw [ih.mpr ⟨_, _, _, hrun, hsecond, rfl⟩]
              rfl

def Reaches (history : List Step) (session : Session) : Prop :=
  ∃ answers, Session.run {} history = .ok (session, answers)

theorem Reaches.environment {history : List Step} {session : Session}
    (h : Reaches history session) :
    Settings.Environment.setAll [] (variablesOf history) = .ok session.environment := by
  obtain ⟨answers, hrun⟩ := h
  rw [← environment_run {} history, hrun]
  rfl

theorem Reaches.concat {history : List Step} {session next : Session} {step : Step}
    {answer : Except Fault Answer} (h : Reaches history session)
    (hstep : session.step step = .ok (next, answer)) : Reaches (history ++ [step]) next := by
  obtain ⟨answers, hrun⟩ := h
  refine ⟨answers ++ [answer], Session.run_append_eq_ok.mpr
    ⟨session, answers, [answer], hrun, ?_, rfl⟩⟩
  simp only [Session.run, hstep]

theorem reaches_concat_iff {history : List Step} {next : Session} {step : Step} :
    Reaches (history ++ [step]) next ↔
      ∃ session answer, Reaches history session ∧ session.step step = .ok (next, answer) := by
  constructor
  · rintro ⟨answers, hrun⟩
    obtain ⟨session, first, second, hfirst, hsecond, -⟩ := Session.run_append_eq_ok.mp hrun
    simp only [Session.run] at hsecond
    cases hstep : session.step step with
    | error fault =>
        rw [hstep] at hsecond
        cases hsecond
    | ok result =>
        rw [hstep] at hsecond
        cases hsecond
        exact ⟨session, result.2, ⟨first, hfirst⟩, hstep⟩
  · rintro ⟨session, answer, hreaches, hstep⟩
    exact hreaches.concat hstep

/-! ## What a step does -/

/-- What a step does that does not end the run, one rule each; a start without settings does not come
to the configuration of logging. -/
inductive Session.Moves (session : Session) : Step → Session → Except Fault Answer → Prop
  | set {given : Settings.Variables} {environment : Settings.Environment} :
      session.environment.setAll given = .ok environment →
      session.Moves (.setVariables given) { session with environment } (.ok .nothing)
  | get :
      session.Moves .get { session with kept := session.used.toOption }
        (session.used.map .settings)
  | clear : session.Moves .clear { session with kept := none } (.ok .nothing)
  | unavailable {fault : Fault} : session.used = .error fault →
      session.Moves .start { session with kept := none } (session.start.2.map .started)
  | start {s : Settings} : session.used = .ok s →
      session.Moves .start
        { session with
          kept := some s
          logging := (session.logging.configure s.serviceName s.logLevel).1 }
        (session.start.2.map .started)

theorem Session.moves_step {session next : Session} {step : Step} {answer : Except Fault Answer}
    (h : session.step step = .ok (next, answer)) : session.Moves step next answer := by
  cases step with
  | setVariables given =>
      simp only [Session.step] at h
      cases hset : session.environment.setAll given with
      | error fault =>
          rw [hset] at h
          cases h
      | ok environment =>
          rw [hset] at h
          cases h
          exact .set hset
  | get =>
      simp only [Session.step, Session.settings_eq] at h
      cases h
      exact .get
  | clear =>
      cases h
      exact .clear
  | start =>
      simp only [Session.step] at h
      cases h
      rw [congrArg Prod.fst session.start_eq]
      cases hused : session.used with
      | ok s =>
          dsimp only
          rw [construct_fst]
          exact .start hused
      | error fault => exact .unavailable hused

/-- Whatever comes of a step that asks, the settings it used are kept afterwards, and if it got none
then none are kept. -/
theorem Session.Moves.kept {session next : Session} {step : Step} {answer : Except Fault Answer}
    (h : session.Moves step next answer) :
    next.kept = match step with
      | .setVariables _ => session.kept
      | .clear => none
      | .get | .start => session.used.toOption := by
  cases h with
  | set _ => rfl
  | get => rfl
  | clear => rfl
  | unavailable hused =>
      rw [hused]
      rfl
  | start hused =>
      rw [hused]
      rfl

theorem Session.Moves.logging {session next : Session} {step : Step} {answer : Except Fault Answer}
    (h : session.Moves step next answer) :
    next.logging.threshold ≠ none ↔
      session.logging.threshold ≠ none ∨ step = .start ∧ ∃ s, session.used = .ok s := by
  cases h with
  | set _ => simp
  | get => simp
  | clear => simp
  | unavailable hused => simp [hused]
  | start hused =>
      exact iff_of_true (Log.System.threshold_configure_ne_none _ _ _) (.inr ⟨rfl, _, hused⟩)

/-! ## What holds after every history -/

/-- A session is as its history tells. -/
structure Holds (history : List Step) (session : Session) : Prop where
  environment : Settings.Environment.setAll [] (variablesOf history) = .ok session.environment
  kept : ∀ before since, Since history before since → ∀ s,
    session.kept = some s ↔ FirstBuilt before since s
  nothing : ∀ before since, Since history before since →
    (session.kept = none ↔ NoneBuilt before since)
  logging : session.logging.threshold ≠ none ↔ Configured history

section Holds

variable {history : List Step} {session : Session}

theorem Holds.builtAfter (h : Holds history session) :
    builtAfter history = Settings.build session.environment [] := by
  simp only [Entry.builtAfter, h.environment, Except.bind]

theorem Holds.uses_iff (h : Holds history session) {used : Except Fault Settings} :
    Uses history used ↔ used = session.used := by
  unfold Session.used
  constructor
  · rintro (⟨hsince, hfirst⟩ | ⟨hsince, hnone⟩)
    · rw [(h.kept _ _ hsince _).mpr hfirst]
    · rw [(h.nothing _ _ hsince).mpr hnone]
      exact h.builtAfter
  · rintro rfl
    obtain ⟨before, since, hsince⟩ := exists_since history
    cases hkept : session.kept with
    | some s => exact .kept hsince ((h.kept _ _ hsince s).mp hkept)
    | none =>
        dsimp only
        rw [← h.builtAfter]
        exact .built hsince ((h.nothing _ _ hsince).mp hkept)

theorem Holds.asked_eq_some_iff (h : Holds history session) {before since : List Step}
    (hsince : Since history before since) (s : Settings) :
    session.used.toOption = some s ↔ FirstBuilt before since s ∨
      Entry.builtAfter (before ++ since) = .ok s ∧ NoneBuilt before since := by
  rw [← hsince.split, h.builtAfter, ← h.kept _ _ hsince, ← h.nothing _ _ hsince]
  unfold Session.used
  cases session.kept with
  | some kept => simp [Except.toOption]
  | none =>
      cases Settings.build session.environment [] with
      | ok built => simp [Except.toOption]
      | error fault => simp [Except.toOption]

theorem Holds.asked_eq_none_iff (h : Holds history session) {before since : List Step}
    (hsince : Since history before since) :
    session.used.toOption = none ↔ NoneBuilt before since ∧
      ∃ fault, Entry.builtAfter (before ++ since) = .error fault := by
  rw [← hsince.split, h.builtAfter, ← h.nothing _ _ hsince]
  unfold Session.used
  cases session.kept with
  | some kept => simp [Except.toOption]
  | none =>
      cases Settings.build session.environment [] with
      | ok built => simp [Except.toOption]
      | error fault => simp [Except.toOption]

/-- The step lemma. -/
theorem Holds.step (h : Holds history session) {step : Step} {next : Session}
    {answer : Except Fault Answer} (hstep : session.step step = .ok (next, answer)) :
    Holds (history ++ [step]) next where
  environment := by
    have hnext := environment_step session step
    rw [hstep] at hnext
    rw [variablesOf_append, setAll_append, h.environment, variablesOf, List.flatMap_singleton]
    exact hnext.symm
  kept := by
    intro before since hsince s
    rw [(Session.moves_step hstep).kept]
    -- Clearing starts anew; any other step adds one attempt, or none, to those made since then.
    rcases hsince.concat_cases with ⟨rfl, rfl⟩ | ⟨hclear, rest, rfl, hrest⟩
    · exact iff_of_false (fun h => by cases h) (not_firstBuilt_nil before s)
    · rw [firstBuilt_concat_iff]
      cases step with
      | clear => exact absurd rfl hclear
      | setVariables given => simp [Step.Asks, h.kept _ _ hrest]
      | get => simp [Step.Asks, h.asked_eq_some_iff hrest]
      | start => simp [Step.Asks, h.asked_eq_some_iff hrest]
  nothing := by
    intro before since hsince
    rw [(Session.moves_step hstep).kept]
    rcases hsince.concat_cases with ⟨rfl, rfl⟩ | ⟨hclear, rest, rfl, hrest⟩
    · exact iff_of_true rfl (noneBuilt_nil before)
    · rw [noneBuilt_concat_iff]
      cases step with
      | clear => exact absurd rfl hclear
      | setVariables given => simp [Step.Asks, h.nothing _ _ hrest]
      | get => simp [Step.Asks, h.asked_eq_none_iff hrest]
      | start => simp [Step.Asks, h.asked_eq_none_iff hrest]
  logging := by
    rw [(Session.moves_step hstep).logging, configured_concat_iff, ← h.logging]
    exact or_congr_right (and_congr_right fun _ => exists_congr fun s =>
      eq_comm.trans h.uses_iff.symm)

end Holds

/-- The run lemma. -/
theorem holds {history : List Step} {session : Session} (h : Reaches history session) :
    Holds history session := by
  induction history using List.reverseRecOn generalizing session with
  | nil =>
      obtain ⟨answers, hrun⟩ := h
      cases hrun
      have hempty : ∀ {before since : List Step}, Since [] before since → since = [] :=
        fun hsince => (List.append_eq_nil_iff.mp hsince.split.symm).2
      refine ⟨rfl, ?_, ?_, ?_⟩
      · intro before since hsince s
        obtain rfl := hempty hsince
        exact iff_of_false (fun h => by cases h) (not_firstBuilt_nil before s)
      · intro before since hsince
        obtain rfl := hempty hsince
        exact iff_of_true rfl (noneBuilt_nil before)
      · refine iff_of_false (fun h => h rfl) ?_
        rintro ⟨earlier, later, s, hsplit, -⟩
        exact absurd hsplit (by simp)
  | append_singleton history step ih =>
      obtain ⟨before, answer, hreaches, hstep⟩ := reaches_concat_iff.mp h
      exact (ih hreaches).step hstep

end Entitlement.Entry
