import Entitlement.Proofs.Log.Call

/-!
# `Entitlement.Proofs.Log.Content` — what stands in every line of a run

Only a call writes a line, and only through a logger that was asked for before; so every line of a
run leads back to a call and to the life of its logger.  What stands in the line is then told from
the history of that call, name by name (`Content`):

| name | stands for |
| :-- | :-- |
| `password` | nothing, whichever place supplies one |
| `level`, `logger` | the severity of the call and the name of its logger, whatever is supplied |
| `event` | the event of the call, if it has one |
| `service` | what is supplied, or else the service of the logger |
| `timestamp`, `exc_info`, `exception` | nothing is said about these |
| any other | what is supplied: by the call, or else the logger, or else the context |

The context is all that was put into it before the call, and the logger supplies all that was bound
to it in its life; of several values for a name the last one counts.
-/
namespace Entitlement.Log

/-! ## From a line back to the call -/

theorem step_of_answer {steps : List Step} {i : Nat} {answer : Except Fault (List Fields)}
    (h : (Session.run {} steps).2[i]? = some answer) :
    ∃ history step later, steps = history ++ step :: later ∧ history.length = i ∧
      ((reached history).step step).2 = answer := by
  obtain ⟨hi, -⟩ := List.getElem?_eq_some_iff.mp h
  rw [Session.length_run] at hi
  have hsplit : steps = steps.take i ++ steps[i] :: steps.drop (i + 1) := by
    rw [← List.drop_eq_getElem_cons hi, List.take_append_drop]
  have hlength : (steps.take i).length = i := List.length_take_of_le (Nat.le_of_lt hi)
  have hanswer := answer_run (steps.take i) steps[i] (steps.drop (i + 1))
  rw [← hsplit, hlength, h] at hanswer
  exact ⟨_, _, _, hsplit, hlength, (Option.some.inj hanswer).symm⟩

/-- A line is written by a call through a logger that there is. -/
theorem Session.call_of_line {session : Session} {step : Step} {lines : List Fields}
    {written : Fields} (h : (session.step step).2 = .ok lines) (hwritten : written ∈ lines) :
    ∃ name method event call, step = .log name method event call ∧
      session.loggers.lookup name ≠ none := by
  cases step with
  | configure service level =>
      dsimp only [Session.step] at h
      cases houtcome : (session.system.configure service level).2 with
      | ok _ =>
          rw [houtcome] at h
          cases h
          cases hwritten
      | error _ =>
          rw [houtcome] at h
          cases h
  | context fields =>
      cases h
      cases hwritten
  | get name =>
      cases h
      cases hwritten
  | bind name fields =>
      simp only [Session.step] at h
      split at h
      · split at h
        · cases h
          cases hwritten
        · cases h
      · cases h
  | log name method event call =>
      refine ⟨name, method, event, call, rfl, fun hnone => ?_⟩
      simp only [Session.step, hnone] at h
      cases h

theorem Session.lookup_step_of_none {session : Session} {k : String} {step : Step}
    (hnone : session.loggers.lookup k = none) (hstep : step ≠ .get k) :
    (session.step step).1.loggers.lookup k = none := by
  have hkeep : ∀ name logger, k ≠ name → (session.keep name logger).loggers.lookup k = none :=
    fun name logger hname => ((session.lookup_keep name logger k).trans (if_neg hname)).trans hnone
  have hother : ∀ {name logger}, session.loggers.lookup name = some logger → k ≠ name := by
    rintro name logger hname rfl
    rw [hnone] at hname
    cases hname
  cases step with
  | configure service level => exact hnone
  | context fields => exact hnone
  | get name => exact hkeep name _ fun heq => hstep (heq ▸ rfl)
  | bind name fields =>
      simp only [Session.step]
      split
      case h_1 logger hlogger =>
        split
        · exact hkeep name _ (hother hlogger)
        · exact hnone
      case h_2 => exact hnone
  | log name method event call =>
      simp only [Session.step]
      split
      case h_1 logger hlogger => exact hkeep name _ (hother hlogger)
      case h_2 => exact hnone

/-- Every logger there is has a life. -/
theorem life_of_logger {name : String} {history : List Step}
    (h : (reached history).loggers.lookup name ≠ none) :
    ∃ begun life, Life name history begun life := by
  induction history using List.reverseRecOn with
  | nil => exact absurd rfl h
  | append_singleton history step ih =>
      by_cases hstep : step = .get name
      · subst hstep
        exact ⟨_, [], (List.append_nil _).symm, ⟨history, rfl⟩, by simp⟩
      · rw [reached_concat] at h
        obtain ⟨begun, life, hlife⟩ := ih fun hnone => h (Session.lookup_step_of_none hnone hstep)
        exact ⟨begun, life ++ [step], hlife.concat hstep⟩

/-! ## The content of a line -/

/-- What a line holds that was written by a call through a logger of a service. -/
structure Content (service logger : String) (severity : Severity) (event : Value)
    (context bound call written : Fields) : Prop where
  distinct : written.Distinct
  password : written.lookup "password" = none
  level : written.lookup "level" = some (.text severity.name)
  logger : written.lookup "logger" = some (.text logger)
  event : event ≠ .null → written.lookup "event" = some (rendered event)
  service : written.lookup "service" =
    some (((supplied context bound call "service").map rendered).getD (.text service))
  others : ∀ k, k ∉ ownNames → written.lookup k = (supplied context bound call k).map rendered

theorem content_line (service logger : String) (severity : Severity) (event : Value)
    (context bound call : Fields) :
    Content service logger severity event context bound call
      (line service logger severity (Fields.putAll [] context) (Fields.putAll [] bound) call
        event) where
  distinct := distinct_line (Fields.distinct_nil.putAll context)
  password := lookup_line_password
  level := lookup_line_level
  logger := lookup_line_logger
  event := lookup_line_event
  service := by rw [lookup_line_service (Fields.distinct_nil.putAll context), supplied_putAll]
  others := by
    intro k hk
    rw [lookup_line_of_notMem (Fields.distinct_nil.putAll context) hk, supplied_putAll]

theorem Ends.content {threshold : Nat} {service shown : String} {context bound : Fields}
    {method : Method} {event : Value} {call : Fields} {outcome : Except Fault (List Fields)}
    (h : Ends threshold service shown context bound method event call outcome) {lines : List Fields}
    (hlines : outcome = .ok lines) {written : Fields} (hwritten : written ∈ lines) :
    Content service shown method.severity event context bound call written := by
  cases h with
  | reserved fault _ _ => cases hlines
  | silent _ _ =>
      cases hlines
      cases hwritten
  | recorded v _ _ _ _ => cases hlines
  | written _ _ _ =>
      cases hlines
      rw [List.mem_singleton.mp hwritten]
      exact content_line service shown method.severity event context bound call

/-- A line and the call that wrote it: the logger was asked for, and if it has a name and belongs to
a service since its first use, the content of the line is known. -/
structure Accounted (history : List Step) (name : String) (method : Method) (event : Value)
    (call written : Fields) : Prop where
  asked : ∃ begun life, Life name history begun life
  content : name ≠ "" → ∀ begun life service, Life name history begun life →
    FirstTouch name begun (life ++ [.log name method event call]) service →
    Content service name method.severity event (contextOf history) (boundIn name life) call written

/-- Over every run, every line is that of a call and holds what is supplied for it, except under the
names that have a meaning of their own. -/
theorem run_accounted {steps : List Step} {i : Nat} {lines : List Fields} {written : Fields}
    (hlines : (Session.run {} steps).2[i]? = some (.ok lines)) (hwritten : written ∈ lines) :
    ∃ history name method event call later,
      steps = history ++ .log name method event call :: later ∧ history.length = i ∧
      Accounted history name method event call written := by
  obtain ⟨history, step, later, hsplit, hlength, hanswer⟩ := step_of_answer hlines
  obtain ⟨name, method, event, call, rfl, hlogger⟩ := Session.call_of_line hanswer hwritten
  refine ⟨history, name, method, event, call, later, hsplit, hlength, life_of_logger hlogger, ?_⟩
  intro hname begun life service hlife htouch
  have hshown : (if name.isEmpty then "root" else name) = name :=
    if_neg fun h => hname (String.isEmpty_iff.mp h)
  have hends := ends_call hlife htouch
  rw [hshown] at hends
  exact hends.content hanswer hwritten

/-- A call that supplies most of the names with a meaning of their own, from all three places. -/
def visit : List Step :=
  [.configure "svc" "INFO", .context [("password", .text "p"), ("user", .text "c"), ("n", .int 1)],
    .get "auth", .bind "auth" [("user", .text "b"), ("level", .text "none")],
    .log "auth" .warn (.text "seen") [("logger", .text "other"), ("password", .null),
      ("n", .bytes [104, 105])]]

theorem run_accounted_visit :
    let written : Fields := [("user", .text "b"), ("n", .text "b'hi'"), ("level", .text "warning"),
      ("logger", .text "auth"), ("event", .text "seen"), ("service", .text "svc")]
    (Session.run {} visit).2[4]? = some (.ok [written]) ∧ written ∈ [written] ∧
      ∃ history name method event call later,
        visit = history ++ .log name method event call :: later ∧ history.length = 4 ∧
        Accounted history name method event call written :=
  ⟨rfl, List.mem_singleton_self _, run_accounted rfl (List.mem_singleton_self _)⟩

end Entitlement.Log
