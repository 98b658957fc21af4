import Entitlement.Proofs.Log.History

/-!
# `Entitlement.Proofs.Log.Call` — the ways in which a call ends

A call through a logger that belongs to a service ends in one of four ways, in the order in which
they are looked for:

| | when | the call |
| :-- | :-- | :-- |
| `reserved` | a field has the name of a parameter of the call | fails |
| `silent` | the severity is below the threshold | writes nothing |
| `recorded` | some place gives a record other than null | fails |
| `written` | otherwise | writes one line |

What is looked at is told from the history: the threshold, the context, and the fields that were
bound to the logger.  The line is given as well, so that what is to be said about a call and its
line is said by cases on the way in which the call ends.
-/
namespace Entitlement.Log

def Reserved (call : Fields) : Prop :=
  ∃ name ∈ ["event", "self", "method_name"], call.has name = true

instance (call : Fields) : Decidable (Reserved call) :=
  inferInstanceAs (Decidable (∃ name ∈ ["event", "self", "method_name"], call.has name = true))

/-- The call, the logger or the context gives a record other than null. -/
def Recorded (context bound call : Fields) : Prop :=
  ∃ v, supplied context bound call "_record" = some v ∧ v ≠ .null

inductive Ends (threshold : Nat) (service shown : String) (context bound : Fields) (method : Method)
    (event : Value) (call : Fields) : Except Fault (List Fields) → Prop where
  | reserved (fault : Fault) :
      Reserved call → (Sink.service service).reservedField? method call = some fault →
      Ends threshold service shown context bound method event call (.error fault)
  | silent :
      ¬Reserved call → ¬threshold ≤ method.severity.number →
      Ends threshold service shown context bound method event call (.ok [])
  | recorded (v : Value) :
      ¬Reserved call → threshold ≤ method.severity.number →
      supplied context bound call "_record" = some v → v ≠ .null →
      Ends threshold service shown context bound method event call (.error (.noAttribute v "name"))
  | written :
      ¬Reserved call → threshold ≤ method.severity.number → ¬Recorded context bound call →
      Ends threshold service shown context bound method event call
        (.ok [line service shown method.severity (Fields.putAll [] context)
          (Fields.putAll [] bound) call event])

theorem reservedField?_isSome (sink : Sink) (method : Method) (call : Fields) :
    (sink.reservedField? method call).isSome = true ↔ Reserved call := by
  unfold Sink.reservedField? Reserved
  simp only [List.mem_cons, List.not_mem_nil, or_false, exists_eq_or_imp, exists_eq_left]
  cases call.has "event" with
  | true => simp
  | false =>
      cases call.has "self" with
      | true => simp
      | false =>
          cases call.has "method_name" with
          | true => simp
          | false => simp

theorem supplied_putAll (context bound call : Fields) (k : String) :
    supplied (Fields.putAll [] context) (Fields.putAll [] bound) call k =
      supplied context bound call k := by
  have hnil : ∀ fields : Fields, (Fields.putAll [] fields).given? k = fields.given? k := by
    intro fields
    rw [(Fields.distinct_nil.putAll fields).given?_eq_lookup, Fields.lookup_putAll]
    exact Option.or_none
  rw [supplied, hnil, hnil, supplied]

section Write

variable {logger : Logger} {system : System} {service : String} {severity : Severity}
  {context bound call : Fields} {event : Value}

theorem lookup_record (hcontext : system.context = Fields.putAll [] context)
    (hbound : logger.bound = Fields.putAll [] bound) :
    ((system.context.putAll logger.bound).putAll call).lookup "_record" =
      supplied context bound call "_record" := by
  rw [hcontext, hbound, lookup_given (Fields.distinct_nil.putAll context), supplied_putAll]

theorem Logger.lines_of_recorded (hcontext : system.context = Fields.putAll [] context)
    (hbound : logger.bound = Fields.putAll [] bound) {v : Value}
    (hv : supplied context bound call "_record" = some v) (hnull : v ≠ .null) :
    logger.lines system service severity event call = .error (.noAttribute v "name") := by
  unfold Logger.lines
  rw [lookup_record hcontext hbound, hv]
  cases v with
  | null => exact absurd rfl hnull
  | _ => rfl

theorem Logger.lines_of_not_recorded (hcontext : system.context = Fields.putAll [] context)
    (hbound : logger.bound = Fields.putAll [] bound) (hclear : ¬Recorded context bound call) :
    logger.lines system service severity event call =
      .ok [line service logger.shownName severity (Fields.putAll [] context)
        (Fields.putAll [] bound) call event] := by
  unfold Logger.lines
  rw [lookup_record hcontext hbound, hcontext, hbound]
  cases hv : supplied context bound call "_record" with
  | none => rfl
  | some v =>
      by_cases hnull : v = .null
      · subst hnull
        rfl
      · exact absurd ⟨v, hv, hnull⟩ hclear

theorem Logger.ends_write {threshold : Nat} {method : Method}
    (hsink : logger.sink = .service service)
    (hcontext : system.context = Fields.putAll [] context)
    (hbound : logger.bound = Fields.putAll [] bound)
    (hpasses : system.passes method.severity = true ↔ threshold ≤ method.severity.number) :
    Ends threshold service logger.shownName context bound method event call
      (logger.write system method event call) := by
  have hreserved := reservedField?_isSome (.service service) method call
  unfold Logger.write
  rw [hsink]
  cases hfault : (Sink.service service).reservedField? method call with
  | some fault =>
      rw [hfault] at hreserved
      exact .reserved fault (hreserved.mp rfl) hfault
  | none =>
      rw [hfault] at hreserved
      have hfree : ¬Reserved call := fun h => Bool.false_ne_true (hreserved.mpr h)
      dsimp only
      by_cases hthreshold : threshold ≤ method.severity.number
      · rw [if_pos (hpasses.mpr hthreshold)]
        by_cases hrecorded : Recorded context bound call
        · obtain ⟨v, hv, hnull⟩ := hrecorded
          rw [Logger.lines_of_recorded hcontext hbound hv hnull]
          exact .recorded v hfree hthreshold hv hnull
        · rw [Logger.lines_of_not_recorded hcontext hbound hrecorded]
          exact .written hfree hthreshold hrecorded
      · rw [if_neg fun h => hthreshold (hpasses.mp h)]
        exact .silent hfree hthreshold

end Write

/-- How a call ends that is the first use of its logger or comes after it, told from the history. -/
theorem ends_call {name : String} {history begun life : List Step} {service : String}
    {method : Method} {event : Value} {call : Fields} (h : Life name history begun life)
    (htouch : FirstTouch name begun (life ++ [.log name method event call]) service) :
    Ends (rootThreshold history) service (if name.isEmpty then "root" else name)
      (contextOf history) (boundIn name life) method event call
      ((reached history).step (.log name method event call)).2 := by
  obtain ⟨logger, hlogger, rfl, hbound, hsink⟩ := logger_at_call h htouch
  have hcontext : (reached history).system.context = Fields.putAll [] (contextOf history) := by
    rw [system_reached]
  have hends : Ends _ _ _ _ _ method event call _ := Logger.ends_write hsink hcontext
    ((logger.bound_attach _).trans hbound) (passes_reached history method.severity)
  unfold Logger.shownName at hends
  rw [logger.name_attach] at hends
  simp only [Session.step, hlogger]
  exact hends

end Entitlement.Log
