import Entitlement.Proofs.Log.Call

/-!
# `Entitlement.Proofs.Log.Threshold` — which calls write a line, and for which service

Threshold and service of a process have different fates.  The threshold is that of the first attempt
to configure, for good, and of warnings when that attempt failed.  The service is that of the last
attempt that succeeded, and a logger takes it over at its first use; what is configured later
reaches only loggers that are used for the first time later.

1. The threshold (`start`, `first`, `settled`, `passes`).
2. The service (`refused`, `unmoved`, `configured`, `elsewhere`).
3. A call writes one line or none as its severity reaches the threshold or not, and in the line
   stands the service of the logger unless another one is supplied (`call`).
4. A logger to which fields are bound stays with its service (`derived`).

Not every call comes as far as the threshold decides.  One with a field that has the name of a
parameter fails, and one that would be written fails when a record is given for it (`Gated.fails`).
A call of each kind stands at the end.
-/
namespace Entitlement.Log

/-! ## Attempts to configure -/

theorem System.service_configure (system : System) (service level : String) :
    (system.configure service level).1.service =
      match (system.configure service level).2 with
      | .ok _ => some service
      | .error _ => system.service := by
  unfold System.configure
  cases system.threshold with
  | some n => rfl
  | none =>
      cases Log.threshold level with
      | number n => rfl
      | text s => rfl
      | table => rfl

theorem system_reached_concat_of_eq_none {history : List Step} {step : Step}
    (h : step.attempt? = none) :
    (reached (history ++ [step])).system.threshold = (reached history).system.threshold ∧
      (reached (history ++ [step])).system.service = (reached history).system.service := by
  rw [system_reached, system_reached, lastService, lastService, attempts_concat_of_eq_none h]
  exact ⟨rfl, rfl⟩

/-- The first attempt to configure of a history, and what it fixes. -/
theorem rootThreshold_of_first {quiet : List Step} (hquiet : attempts quiet = [])
    (service level : String) (later : List Step) :
    rootThreshold (quiet ++ .configure service level :: later) = startingThreshold level := by
  unfold rootThreshold
  rw [attempts_append, hquiet]
  rfl

/-! ## Calls -/

/-- What a call writes through a logger of a service. -/
structure Gated (threshold : Nat) (service : String) (context bound : Fields) (severity : Severity)
    (call : Fields) (outcome : Except Fault (List Fields)) : Prop where
  one : ¬Reserved call → ¬Recorded context bound call →
    ((∃ written, outcome = .ok [written]) ↔ threshold ≤ severity.number)
  none : ¬Reserved call → ¬Recorded context bound call →
    (outcome = .ok [] ↔ severity.number < threshold)
  fails : (∃ fault, outcome = .error fault) ↔
    Reserved call ∨ threshold ≤ severity.number ∧ Recorded context bound call
  service : ∀ written, outcome = .ok [written] →
    supplied context bound call "service" = Option.none →
    written.lookup "service" = some (.text service)

theorem Ends.gated {threshold : Nat} {service shown : String} {context bound : Fields}
    {method : Method} {event : Value} {call : Fields} {outcome : Except Fault (List Fields)}
    (h : Ends threshold service shown context bound method event call outcome) :
    Gated threshold service context bound method.severity call outcome := by
  cases h with
  | reserved fault hreserved _ =>
      exact
        { one := fun hfree => absurd hreserved hfree
          none := fun hfree => absurd hreserved hfree
          fails := iff_of_true ⟨fault, rfl⟩ (.inl hreserved)
          service := fun _ h => by cases h }
  | silent hfree hbelow =>
      exact
        { one := fun _ _ => iff_of_false (fun ⟨_, h⟩ => by cases h) hbelow
          none := fun _ _ => iff_of_true rfl (Nat.lt_of_not_le hbelow)
          fails := by
            refine iff_of_false (fun ⟨_, h⟩ => by cases h) ?_
            rintro (h | h)
            · exact hfree h
            · exact hbelow h.1
          service := fun _ h => by cases h }
  | recorded v hfree hreached hrecord hnull =>
      have hrecorded : Recorded context bound call := ⟨v, hrecord, hnull⟩
      exact
        { one := fun _ hclear => absurd hrecorded hclear
          none := fun _ hclear => absurd hrecorded hclear
          fails := iff_of_true ⟨_, rfl⟩ (.inr ⟨hreached, hrecorded⟩)
          service := fun _ h => by cases h }
  | written hfree hreached hclear =>
      exact
        { one := fun _ _ => iff_of_true ⟨_, rfl⟩ hreached
          none := fun _ _ => iff_of_false (fun h => by cases h) (Nat.not_lt_of_le hreached)
          fails := by
            refine iff_of_false (fun ⟨_, h⟩ => by cases h) ?_
            rintro (h | h)
            · exact hfree h
            · exact hclear h.2
          service := by
            rintro written hwritten hsupplied
            cases hwritten
            rw [lookup_line_service (Fields.distinct_nil.putAll context), supplied_putAll,
              hsupplied]
            rfl }

/-! ## The theorem -/

/-- How threshold and service govern what is written after a history, and what comes of them by the
steps after it. -/
structure Governed (history : List Step) : Prop where
  start : attempts history = [] → rootThreshold history = Severity.warning.number
  first : ∀ quiet service level later, history = quiet ++ .configure service level :: later →
    attempts quiet = [] → rootThreshold history =
      if Refused level then Severity.warning.number else levelNumber level
  settled : attempts history ≠ [] → ∀ more,
    (reached (history ++ more)).system.threshold = (reached history).system.threshold
  passes : ∀ severity,
    (reached history).system.passes severity = true ↔ rootThreshold history ≤ severity.number
  refused : ∀ service level,
    (∃ fault, ((reached history).step (.configure service level)).2 = .error fault) ↔
      attempts history = [] ∧ Refused level
  unmoved : ∀ service level fault,
    ((reached history).step (.configure service level)).2 = .error fault →
    (reached (history ++ [.configure service level])).system.service =
      (reached history).system.service
  configured : ∀ service level lines,
    ((reached history).step (.configure service level)).2 = .ok lines →
    (reached (history ++ [.configure service level])).system.service = some service
  elsewhere : ∀ step : Step, step.attempt? = none →
    (reached (history ++ [step])).system.threshold = (reached history).system.threshold ∧
      (reached (history ++ [step])).system.service = (reached history).system.service
  call : ∀ name begun life service method event call later, Life name history begun life →
    FirstTouch name begun (life ++ [.log name method event call]) service →
    ∃ outcome,
      (Session.run {} (history ++ .log name method event call :: later)).2[history.length]? =
        some outcome ∧
      Gated (rootThreshold history) service (contextOf history) (boundIn name life) method.severity
        call outcome
  derived : ∀ name begun life service fields, Life name history begun life →
    FirstTouch name begun life service → fields.has "self" = false →
    ∃ child, (reached (history ++ [.bind name fields])).loggers.lookup name = some child ∧
      child.sink = .service service ∧
      child.bound = Fields.putAll [] (boundIn name life ++ fields)

/-- Over every run, the first attempt to configure decides which calls write a line, and the last
one that succeeded before a logger was used for the first time decides for which service. -/
theorem run_governed (history : List Step) : Governed history where
  start := by
    intro h
    rw [rootThreshold, h]
    rfl
  first := by
    rintro quiet service level later rfl hquiet
    exact rootThreshold_of_first hquiet service level later
  settled := by
    intro h more
    rw [system_reached, system_reached, attempts_append, List.head?_append_of_ne_nil _ h]
  passes := passes_reached history
  refused := by
    intro service level
    rw [← threshold_reached_eq_none_iff, ← System.configure_fails_iff _ service level]
    dsimp only [Session.step]
    cases ((reached history).system.configure service level).2 with
    | ok _ => exact iff_of_false (fun ⟨_, h⟩ => by cases h) (fun ⟨_, h⟩ => by cases h)
    | error fault => exact iff_of_true ⟨fault, rfl⟩ ⟨fault, rfl⟩
  unmoved := by
    intro service level fault h
    rw [reached_concat, Session.system_step]
    dsimp only [Session.step] at h ⊢
    rw [System.service_configure]
    cases houtcome : ((reached history).system.configure service level).2 with
    | ok _ =>
        rw [houtcome] at h
        cases h
    | error _ => rfl
  configured := by
    intro service level lines h
    rw [reached_concat, Session.system_step]
    dsimp only [Session.step] at h ⊢
    rw [System.service_configure]
    cases houtcome : ((reached history).system.configure service level).2 with
    | ok _ => rfl
    | error _ =>
        rw [houtcome] at h
        cases h
  elsewhere := fun _ => system_reached_concat_of_eq_none
  call := by
    intro name begun life service method event call later hlife htouch
    exact ⟨_, answer_run history _ later, (ends_call hlife htouch).gated⟩
  derived := by
    intro name begun life service fields hlife htouch hself
    have hnext : Life name (history ++ [.bind name fields]) begun (life ++ [.bind name fields]) :=
      hlife.concat (by simp)
    obtain ⟨child, hchild, -, hbound, -, hattached⟩ := logger_reached hnext
    refine ⟨child, hchild, hattached service (htouch.append _), ?_⟩
    rw [hbound, boundIn_concat]
    dsimp only [Step.boundFields]
    rw [if_pos ⟨rfl, hself⟩]

/-- A logger stays with the service of its first use, and the threshold is that of the first
attempt. -/
example :
    (Session.run {} [.configure "first" "Info", .get "x", .log "x" .info (.text "ev") [],
      .configure "second" "debug", .log "x" .info (.text "ev") [], .get "y",
      .log "y" .info (.text "ev") [], .log "y" .debug (.text "ev") []]).2 =
    let written (service logger : String) : Fields :=
      [("event", .text "ev"), ("level", .text "info"), ("logger", .text logger),
        ("service", .text service)]
    [.ok [], .ok [], .ok [written "first" "x"], .ok [], .ok [written "first" "x"], .ok [],
      .ok [written "second" "y"], .ok []] := by
  rfl

/-! ## Calls that fail -/

/-- Information about a service, and a logger. -/
def informed : List Step := [.configure "svc" "INFO", .get "x"]

/-- Two calls whose severity reaches the threshold and that write no line: one is given a record,
the other a field with the name of a parameter. -/
theorem passing_calls_fail :
    (Life "x" informed informed [] ∧
      rootThreshold informed ≤ Method.info.severity.number) ∧
    (FirstTouch "x" informed [.log "x" .info (.text "ev") [("_record", .int 1)]] "svc" ∧
      ¬∃ written, ((reached informed).step
        (.log "x" .info (.text "ev") [("_record", .int 1)])).2 = .ok [written]) ∧
    (FirstTouch "x" informed [.log "x" .info (.text "ev") [("event", .text "again")]] "svc" ∧
      ¬∃ written, ((reached informed).step
        (.log "x" .info (.text "ev") [("event", .text "again")])).2 = .ok [written]) := by
  have hlife : Life "x" informed informed [] := ⟨rfl, ⟨[.configure "svc" "INFO"], rfl⟩, by simp⟩
  have htouch : ∀ call, FirstTouch "x" informed [.log "x" .info (.text "ev") call] "svc" :=
    fun call => ⟨[], .log "x" .info (.text "ev") call, [], rfl, by simp, rfl, by decide⟩
  refine ⟨⟨hlife, by decide⟩, ⟨htouch _, ?_⟩, ⟨htouch _, ?_⟩⟩
  · rintro ⟨written, h⟩
    cases h
  · rintro ⟨written, h⟩
    cases h

end Entitlement.Log
