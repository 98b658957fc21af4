import Entitlement.Proofs.Entry.Keeping
import Entitlement.Proofs.Lookup.Configuration

/-!
# `Entitlement.Proofs.Entry.Start` — when the server starts, and what every step finds kept

A start goes through three stages, and each of them can end it: it gets settings, configures
logging, and makes the lookup configuration.  `Starts` has one rule for each of these ends and one
for the server, and says what each stage asks for:

| stage | asks for | the fault when it ends there |
| :-- | :-- | :-- |
| settings | kept ones, or an environment that settings can be built from | that of building them |
| logging | an earlier start that came this far, or a level not refused | that of the level |
| lookups | a source that is switched on, and one bind in every query | one of the configuration |

The first stage decides what is kept afterwards, and the other two have no part in it.  The main
result, `run_faithful`, puts this together with what is kept over whole runs.
-/
namespace Entitlement

/-! ## Sound settings -/

namespace Settings

structure Sound (s : Settings) : Prop where
  source : s.enableAuthorities = true ∨ s.enableGroups = true
  binds : ∀ query ∈ [s.usersQuery, s.authoritiesQuery, s.groupAuthoritiesQuery],
    (Query.bindNames query).length = 1

def draft (s : Settings) : Lookup.Config.Draft
  | .usersQuery => .text s.usersQuery
  | .authoritiesQuery => .text s.authoritiesQuery
  | .groupAuthoritiesQuery => .text s.groupAuthoritiesQuery
  | .rolePrefix => .text s.rolePrefix
  | .usernameBasedPrimaryKey => .bool s.usernameBasedPrimaryKey
  | .enableAuthorities => .bool s.enableAuthorities
  | .enableGroups => .bool s.enableGroups

theorem config_eq (s : Settings) : s.config = s.draft.check := rfl

theorem sound_draft_iff (s : Settings) : s.draft.Sound ↔ s.Sound := by
  constructor
  · rintro ⟨hsource, hbinds⟩
    refine ⟨hsource, ?_⟩
    simp only [List.mem_cons, List.not_mem_nil, or_false, forall_eq_or_imp, forall_eq]
    exact ⟨hbinds .usersQuery (by decide), hbinds .authoritiesQuery (by decide),
      hbinds .groupAuthoritiesQuery (by decide)⟩
  · rintro ⟨hsource, hbinds⟩
    simp only [List.mem_cons, List.not_mem_nil, or_false, forall_eq_or_imp, forall_eq] at hbinds
    obtain ⟨husers, hauthorities, hgroups⟩ := hbinds
    refine ⟨hsource, ?_⟩
    simp only [Lookup.Config.Field.queries, List.mem_cons, List.not_mem_nil, or_false,
      forall_eq_or_imp, forall_eq]
    exact ⟨husers, hauthorities, hgroups⟩

theorem decided_config (s : Settings) : Lookup.Config.Decided s.draft s.config := by
  rw [config_eq]
  refine (Lookup.Config.checked_check ?_).decided
  simp only [Lookup.Config.Field.queries, List.mem_cons, List.not_mem_nil, or_false,
    forall_eq_or_imp, forall_eq]
  exact ⟨⟨_, rfl⟩, ⟨_, rfl⟩, ⟨_, rfl⟩⟩

theorem config_of_sound {s : Settings} (h : s.Sound) : ∃ config, s.config = .ok config := by
  obtain ⟨config, hconfig, -⟩ := s.decided_config.made (s.sound_draft_iff.mpr h)
  exact ⟨config, hconfig⟩

theorem config_of_not_sound {s : Settings} (h : ¬s.Sound) :
    ∃ fault, s.config = .error fault ∧ Lookup.Config.IsConfiguration fault :=
  s.decided_config.refused.mpr fun hsound => h (s.sound_draft_iff.mp hsound)

end Settings

namespace Entry

/-! ## Starting -/

/-- Logging can be configured: it was before, or the level is none that is refused. -/
def Loggable (history : List Step) (s : Settings) : Prop :=
  Configured history ∨ ¬Log.Refused s.logLevel

/-- The ways in which a start ends, for the settings it gets. -/
inductive Starts (history : List Step) : Except Fault Settings → Except Fault ServerStart → Prop
  | unavailable (fault : Fault) : Starts history (.error fault) (.error fault)
  | unloggable {s : Settings} {fault : Fault} : ¬Loggable history s →
      (Log.System.fresh.configure s.serviceName s.logLevel).2 = .error fault →
      Starts history (.ok s) (.error fault)
  | unsound {s : Settings} {fault : Fault} : Loggable history s → ¬s.Sound →
      Lookup.Config.IsConfiguration fault → Starts history (.ok s) (.error fault)
  | started {s : Settings} : Loggable history s → s.Sound →
      Starts history (.ok s) (.ok ⟨s.apiHost, s.apiPort, serviceTitle, serviceVersion⟩)

theorem configure_outcome_of_none {logging : Log.System} (h : logging.threshold = none)
    (service level : String) :
    (logging.configure service level).2 = (Log.System.fresh.configure service level).2 := by
  unfold Log.System.configure
  rw [h]
  dsimp only [Log.System.fresh]
  cases Log.threshold level with
  | number n => rfl
  | text s => rfl
  | table => rfl

theorem Holds.loggable_iff {history : List Step} {session : Session} (h : Holds history session)
    (s : Settings) :
    (∃ fault, (session.logging.configure s.serviceName s.logLevel).2 = .error fault) ↔
      ¬Loggable history s := by
  rw [Log.System.configure_fails_iff, Loggable, ← h.logging, not_or, not_not, not_not]

/-- Starting ends by one of the rules. -/
theorem Holds.starts {history : List Step} {session : Session} (h : Holds history session) :
    Starts history session.used session.start.2 := by
  rw [Session.start_eq]
  cases session.used with
  | error fault => exact .unavailable fault
  | ok s =>
      have hloggable := h.loggable_iff s
      dsimp only
      unfold construct
      cases hconfigured : session.logging.configure s.serviceName s.logLevel with
      | mk logging outcome =>
          rw [hconfigured] at hloggable
          cases outcome with
          | error fault =>
              have hnot : ¬Loggable history s := hloggable.mp ⟨fault, rfl⟩
              -- Only a first attempt can fail, so the fault is that of a fresh process.
              have hnone : session.logging.threshold = none := by
                by_contra hsome
                exact hnot (.inl (h.logging.mp hsome))
              refine .unloggable hnot ?_
              rw [← configure_outcome_of_none hnone, hconfigured]
          | ok _ =>
              have hable : Loggable history s := by
                by_contra hnot
                obtain ⟨fault, hfault⟩ := hloggable.mpr hnot
                cases hfault
              by_cases hsound : s.Sound
              · obtain ⟨config, hconfig⟩ := Settings.config_of_sound hsound
                dsimp only
                rw [hconfig]
                exact .started hable hsound
              · obtain ⟨fault, hconfig, hfault⟩ := Settings.config_of_not_sound hsound
                dsimp only
                rw [hconfig]
                exact .unsound hable hsound hfault

/-- All three stages succeed. -/
def Ready (history : List Step) (used : Except Fault Settings) : Prop :=
  ∃ s, used = .ok s ∧ Loggable history s ∧ s.Sound

structure Started (history : List Step) (used : Except Fault Settings)
    (outcome : Except Fault ServerStart) : Prop where
  starts : ∀ server, outcome = .ok server ↔ ∃ s, used = .ok s ∧ Loggable history s ∧ s.Sound ∧
    server = ⟨s.apiHost, s.apiPort, serviceTitle, serviceVersion⟩
  fails : (∃ fault, outcome = .error fault) ↔ ¬Ready history used
  unavailable : ∀ fault, used = .error fault → outcome = .error fault
  unloggable : ∀ s, used = .ok s → ¬Loggable history s → ∃ fault, outcome = .error fault ∧
    (Log.System.fresh.configure s.serviceName s.logLevel).2 = .error fault
  unsound : ∀ s, used = .ok s → Loggable history s → ¬s.Sound → ∃ fault, outcome = .error fault ∧
    Lookup.Config.IsConfiguration fault

theorem Starts.toStarted {history : List Step} {used : Except Fault Settings}
    {outcome : Except Fault ServerStart} (h : Starts history used outcome) :
    Started history used outcome := by
  cases h with
  | unavailable fault =>
      exact
        { starts := fun server => iff_of_false (fun h => by cases h) fun ⟨s, h, _⟩ => by cases h
          fails := iff_of_true ⟨fault, rfl⟩ fun ⟨s, h, _⟩ => by cases h
          unavailable := fun _ h => by cases h; rfl
          unloggable := fun _ h => by cases h
          unsound := fun _ h => by cases h }
  | @unloggable s fault hnot hfault =>
      have hready : ¬Ready history (.ok s) := by
        rintro ⟨t, h, hable, -⟩
        cases h
        exact hnot hable
      exact
        { starts := fun server =>
            iff_of_false (fun h => by cases h) fun ⟨t, h, hable, hsound, _⟩ =>
              hready ⟨t, h, hable, hsound⟩
          fails := iff_of_true ⟨fault, rfl⟩ hready
          unavailable := fun _ h => by cases h
          unloggable := fun t h _ => by cases h; exact ⟨fault, rfl, hfault⟩
          unsound := fun t h hable => by cases h; exact absurd hable hnot }
  | @unsound s fault hable hunsound hfault =>
      have hready : ¬Ready history (.ok s) := by
        rintro ⟨t, h, -, hsound⟩
        cases h
        exact hunsound hsound
      exact
        { starts := fun server =>
            iff_of_false (fun h => by cases h) fun ⟨t, h, hable, hsound, _⟩ =>
              hready ⟨t, h, hable, hsound⟩
          fails := iff_of_true ⟨fault, rfl⟩ hready
          unavailable := fun _ h => by cases h
          unloggable := fun t h hnot => by cases h; exact absurd hable hnot
          unsound := fun t h _ _ => by cases h; exact ⟨fault, rfl, hfault⟩ }
  | @started s hable hsound =>
      exact
        { starts := by
            intro server
            constructor
            · intro h
              cases h
              exact ⟨s, rfl, hable, hsound, rfl⟩
            · rintro ⟨t, h, -, -, rfl⟩
              cases h
              rfl
          fails := iff_of_false (fun ⟨_, h⟩ => by cases h) fun h => h ⟨s, rfl, hable, hsound⟩
          unavailable := fun _ h => by cases h
          unloggable := fun t h hnot => by cases h; exact absurd hable hnot
          unsound := fun t h _ hunsound => by cases h; exact absurd hsound hunsound }

/-! ## Whole runs -/

theorem Session.length_run {session last : Session} {history : List Step}
    {answers : List (Except Fault Answer)} (h : session.run history = .ok (last, answers)) :
    answers.length = history.length := by
  induction history generalizing session answers with
  | nil =>
      cases h
      rfl
  | cons step history ih =>
      simp only [Session.run] at h
      split at h
      · cases h
      · split at h
        · cases h
        · rename_i hrun
          cases h
          rw [List.length_cons, List.length_cons, ih hrun]

/-- In a run that does not end early, every step is taken in the session the steps before it lead
to. -/
theorem step_of_run {history later : List Step} {step : Step} {last : Session}
    {answers : List (Except Fault Answer)}
    (h : Session.run {} (history ++ step :: later) = .ok (last, answers)) :
    ∃ session next answer, Reaches history session ∧ session.step step = .ok (next, answer) ∧
      answers[history.length]? = some answer := by
  obtain ⟨session, first, second, hfirst, hsecond, rfl⟩ := Session.run_append_eq_ok.mp h
  simp only [Session.run] at hsecond
  split at hsecond
  · cases hsecond
  · rename_i next answer hstep
    split at hsecond
    · cases hsecond
    · cases hsecond
      refine ⟨session, next, answer, ⟨first, hfirst⟩, hstep, ?_⟩
      have hlength := Session.length_run hfirst
      rw [List.getElem?_append_right (Nat.le_of_eq hlength), hlength, Nat.sub_self]
      rfl

theorem Holds.kept_of_append {history more : List Step} {session last : Session}
    (h : Holds history session) (hlast : Holds (history ++ more) last)
    (hclear : Step.clear ∉ more) {s : Settings} (hkept : session.kept = some s) :
    last.kept = some s := by
  obtain ⟨before, since, hsince⟩ := exists_since history
  obtain ⟨idle, step, rest, hsplit, hfirst⟩ := (h.kept _ _ hsince s).mp hkept
  have hlater : Since (history ++ more) before (since ++ more) := by
    refine ⟨by rw [hsince.split, List.append_assoc], hsince.cleared, fun hmem => ?_⟩
    rcases List.mem_append.mp hmem with hmem | hmem
    · exact hsince.uncleared hmem
    · exact hclear hmem
  refine (hlast.kept _ _ hlater s).mpr ⟨idle, step, rest ++ more, ?_, hfirst⟩
  rw [hsplit, List.append_assoc, List.cons_append]

/-- What a step answers that follows a history, and what is kept after it. -/
structure Answered (history : List Step) (used : Except Fault Settings) (session next : Session)
    (answer : Except Fault Answer) (step : Step) : Prop where
  setting : ∀ given, step = .setVariables given →
    answer = .ok .nothing ∧ next.kept = session.kept
  get : step = .get → answer = used.map .settings ∧ next.kept = used.toOption
  clear : step = .clear → answer = .ok .nothing ∧ next.kept = none
  start : step = .start → ∃ outcome, answer = outcome.map .started ∧
    Started history used outcome ∧ next.kept = used.toOption
  retries : ∀ fault, step.Asks → used = .error fault → ∀ other,
    Uses (history ++ [step]) other ↔ other = builtAfter (history ++ [step])

theorem Holds.answered {history : List Step} {session next : Session} {step : Step}
    {answer : Except Fault Answer} (h : Holds history session)
    (hstep : session.step step = .ok (next, answer)) :
    Answered history session.used session next answer step := by
  have hmoves := Session.moves_step hstep
  have hkept := hmoves.kept
  have hnext := h.step hstep
  refine ⟨?_, ?_, ?_, ?_, ?_⟩
  · rintro given rfl
    cases hmoves with
    | set _ => exact ⟨rfl, hkept⟩
  · rintro rfl
    cases hmoves with
    | get => exact ⟨rfl, hkept⟩
  · rintro rfl
    cases hmoves with
    | clear => exact ⟨rfl, hkept⟩
  · rintro rfl
    refine ⟨session.start.2, ?_, h.starts.toStarted, hkept⟩
    cases hmoves with
    | unavailable _ => rfl
    | start _ => rfl
  · intro fault hasks hused other
    have hnone : next.kept = none := by
      rw [hkept, hused]
      cases step with
      | setVariables given => exact hasks.elim
      | clear => rfl
      | get => rfl
      | start => rfl
    rw [hnext.uses_iff, hnext.builtAfter, Session.used, hnone]

/-- What is so of a run from the start of a process. -/
structure Faithful (steps : List Step) : Prop where
  ends : ∀ fault, Session.run {} steps = .error fault ↔
    Settings.Environment.setAll [] (variablesOf steps) = .error fault
  kept : ∀ last answers, Session.run {} steps = .ok (last, answers) →
    ∀ before since, Since steps before since →
      (∀ s, last.kept = some s ↔ FirstBuilt before since s) ∧
      (last.kept = none ↔ NoneBuilt before since)
  stays : ∀ last answers, Session.run {} steps = .ok (last, answers) →
    ∀ history more session s, steps = history ++ more → Reaches history session →
      Step.clear ∉ more → session.kept = some s → last.kept = some s
  answers : ∀ last answers, Session.run {} steps = .ok (last, answers) →
    ∀ history step later, steps = history ++ step :: later →
      ∃ session next used answer, Reaches history session ∧ Reaches (history ++ [step]) next ∧
        answers[history.length]? = some answer ∧
        (∀ other, Uses history other ↔ other = used) ∧
        Answered history used session next answer step

/-- Over every run, the settings kept are those first built since they were last cleared; every step
that asks gets them, and the server starts where they say exactly when all three stages succeed. -/
theorem run_faithful (steps : List Step) : Faithful steps where
  ends := by
    intro fault
    rw [← environment_run {} steps]
    cases Session.run {} steps with
    | error other => simp [Except.map]
    | ok result => simp [Except.map]
  kept := by
    intro last answers hrun before since hsince
    have hlast := holds ⟨answers, hrun⟩
    exact ⟨hlast.kept _ _ hsince, hlast.nothing _ _ hsince⟩
  stays := by
    rintro last answers hrun history more session s rfl hreaches hclear hkept
    exact (holds hreaches).kept_of_append (holds ⟨answers, hrun⟩) hclear hkept
  answers := by
    rintro last answers hrun history step later rfl
    obtain ⟨session, next, answer, hreaches, hstep, hanswer⟩ := step_of_run hrun
    have h := holds hreaches
    exact ⟨session, next, session.used, answer, hreaches, hreaches.concat hstep, hanswer,
      fun _ => h.uses_iff, h.answered hstep⟩

-- The second start goes where the first one went, whatever the environment says by then.
example :
    ((Session.run {} [.start, .setVariables [("PRINCIPALS_API_PORT", .text "81")], .start]).map
      fun result => result.2.map fun answer => match answer with
        | .ok (.started server) => some server.port
        | _ => none).toOption = some [some 8080, none, some 8080] := by
  decide +kernel

end Entry
end Entitlement
