import Mathlib.Data.List.Nodup
import Entitlement.Log.Line

/-!
# `Entitlement.Proofs.Log.Fields` — what a line holds under a name

Fields are put over fields, some are dropped, some are filled in, and in the end their values are
written for the line.  What counts of all this is what stands under a name, and so every operation
gets one law about looking a name up:

| operation | what stands under `k` afterwards |
| :-- | :-- |
| `put name v` | `v` if `k` is the name |
| `putAll others` | what `others` gives to `k`, the last of it, if anything |
| `drop name` | nothing if `k` is the name |
| `renderedFields` | the same, written for the line |

Anything else is as it was.  The laws hold of any list of fields, also of one that repeats a name;
that a line does not repeat a name is a law of its own (`distinct_line`).

From the laws of the operations follow those of a line.  They are about the three places from which
its fields come, as far as these give something to a name: `supplied`.
-/
namespace Entitlement.Log

/-! ## Looking names up -/

theorem lookup_cons_if {α : Type} (key : String) (v : α) (rest : List (String × α)) (k : String) :
    ((key, v) :: rest).lookup k = if k = key then some v else rest.lookup k := by
  rw [List.lookup_cons]
  by_cases hk : k = key
  · rw [if_pos hk, hk, beq_self_eq_true]
  · rw [if_neg hk, beq_false_of_ne hk]

theorem lookup_filter_ne {α : Type} (entries : List (String × α)) (name k : String) :
    (entries.filter (·.1 != name)).lookup k = if k = name then none else entries.lookup k := by
  induction entries with
  | nil =>
      split
      · rfl
      · rfl
  | cons entry rest ih =>
      obtain ⟨key, v⟩ := entry
      by_cases hkey : key = name
      · subst hkey
        rw [List.filter_cons_of_neg (by simp), ih, lookup_cons_if]
        by_cases hk : k = key
        · rw [if_pos hk, if_pos hk]
        · rw [if_neg hk, if_neg hk, if_neg hk]
      · rw [List.filter_cons_of_pos (by simpa using hkey), lookup_cons_if, lookup_cons_if, ih]
        by_cases hk : k = key
        · rw [if_pos hk, if_pos hk, if_neg (hk ▸ hkey)]
        · rw [if_neg hk, if_neg hk]

namespace Fields

theorem has_eq_isSome_lookup (fields : Fields) (name : String) :
    fields.has name = (fields.lookup name).isSome := by
  rw [Bool.eq_iff_iff, List.lookup_isSome_iff, has, List.any_eq_true]
  refine exists_congr fun field => and_congr_right fun _ => ?_
  rw [beq_iff_eq, beq_iff_eq, eq_comm]

theorem lookup_overwrite (fields : Fields) (name : String) (v : Value) (k : String) :
    (fields.map fun field => if field.1 == name then (name, v) else field).lookup k =
      if k = name then (fields.lookup name).map fun _ => v else fields.lookup k := by
  induction fields with
  | nil =>
      split
      · rfl
      · rfl
  | cons field rest ih =>
      obtain ⟨key, w⟩ := field
      rw [List.map_cons, lookup_cons_if, lookup_cons_if]
      by_cases hkey : key = name
      · subst hkey
        simp only [beq_self_eq_true, if_true, lookup_cons_if, Option.map_some]
        by_cases hk : k = key
        · rw [if_pos hk, if_pos hk]
        · rw [if_neg hk, if_neg hk, if_neg hk, ih, if_neg hk]
      · simp only [beq_false_of_ne hkey, Bool.false_eq_true, if_false, lookup_cons_if,
          if_neg (Ne.symm hkey), ih]
        by_cases hk : k = key
        · rw [if_pos hk, if_pos hk, if_neg (hk ▸ hkey)]
        · rw [if_neg hk, if_neg hk]

@[simp] theorem lookup_put (fields : Fields) (name : String) (v : Value) (k : String) :
    (fields.put name v).lookup k = if k = name then some v else fields.lookup k := by
  have hhas : fields.any (·.1 == name) = (fields.lookup name).isSome :=
    has_eq_isSome_lookup fields name
  unfold put
  rw [hhas]
  cases hname : fields.lookup name with
  | some w =>
      rw [Option.isSome_some, if_pos rfl, lookup_overwrite, hname]
      rfl
  | none =>
      rw [Option.isSome_none, if_neg Bool.false_ne_true, List.lookup_append, lookup_cons_if]
      by_cases hk : k = name
      · rw [if_pos hk, if_pos hk, hk, hname]
        rfl
      · rw [if_neg hk, if_neg hk]
        exact Option.or_none

@[simp] theorem lookup_drop (fields : Fields) (name k : String) :
    (fields.drop name).lookup k = if k = name then none else fields.lookup k :=
  lookup_filter_ne fields name k

/-- What a list of fields gives to a name: of several values the last one. -/
def given? (fields : Fields) (name : String) : Option Value := fields.reverse.lookup name

@[simp] theorem lookup_putAll (fields others : Fields) (k : String) :
    (fields.putAll others).lookup k = (others.given? k).or (fields.lookup k) := by
  unfold putAll given?
  induction others generalizing fields with
  | nil => rfl
  | cons other rest ih =>
      obtain ⟨name, v⟩ := other
      rw [List.foldl_cons, ih, lookup_put, List.reverse_cons, List.lookup_append, lookup_cons_if,
        Option.or_assoc]
      congr 1
      by_cases hk : k = name
      · rw [if_pos hk, if_pos hk]
        rfl
      · rw [if_neg hk, if_neg hk]
        rfl

theorem putAll_append (fields first second : Fields) :
    fields.putAll (first ++ second) = (fields.putAll first).putAll second :=
  List.foldl_append

/-! ## Names that are not repeated -/

def Distinct (fields : Fields) : Prop := (fields.map Prod.fst).Nodup

theorem distinct_nil : Distinct [] := List.nodup_nil

theorem lookup_eq_none_iff {fields : Fields} {name : String} :
    fields.lookup name = none ↔ name ∉ fields.map Prod.fst := by
  rw [List.lookup_eq_none_iff]
  simp only [bne_iff_ne, List.mem_map, not_exists, not_and]
  exact ⟨fun h field hfield heq => h field hfield heq.symm,
    fun h field hfield heq => h field hfield heq.symm⟩

theorem Distinct.put {fields : Fields} (h : fields.Distinct) (name : String) (v : Value) :
    (fields.put name v).Distinct := by
  have hhas : fields.any (·.1 == name) = (fields.lookup name).isSome :=
    has_eq_isSome_lookup fields name
  unfold Distinct Fields.put
  rw [hhas]
  cases hname : fields.lookup name with
  | some w =>
      have hnames : (fields.map fun field => if field.1 == name then (name, v) else field).map
          Prod.fst = fields.map Prod.fst := by
        rw [List.map_map]
        refine List.map_congr_left fun field _ => ?_
        by_cases hfield : field.1 = name
        · simp [hfield]
        · simp [hfield]
      rw [Option.isSome_some, if_pos rfl, hnames]
      exact h
  | none =>
      rw [Option.isSome_none, if_neg Bool.false_ne_true, List.map_append]
      refine h.append (List.nodup_singleton name) ?_
      exact List.disjoint_singleton.mpr (lookup_eq_none_iff.mp hname)

theorem Distinct.putAll {fields : Fields} (h : fields.Distinct) (others : Fields) :
    (fields.putAll others).Distinct := by
  unfold Fields.putAll
  induction others generalizing fields with
  | nil => exact h
  | cons other rest ih => exact ih (h.put other.1 other.2)

theorem Distinct.drop {fields : Fields} (h : fields.Distinct) (name : String) :
    (fields.drop name).Distinct :=
  h.sublist (List.filter_sublist.map Prod.fst)

theorem Distinct.given?_eq_lookup {fields : Fields} (h : fields.Distinct) (k : String) :
    fields.given? k = fields.lookup k := by
  unfold Distinct at h
  unfold given?
  induction fields with
  | nil => rfl
  | cons field rest ih =>
      obtain ⟨name, v⟩ := field
      rw [List.map_cons, List.nodup_cons] at h
      rw [List.reverse_cons, List.lookup_append, ih h.2, lookup_cons_if, lookup_cons_if]
      by_cases hk : k = name
      · rw [if_pos hk, if_pos hk, hk, lookup_eq_none_iff.mpr h.1]
        rfl
      · rw [if_neg hk, if_neg hk]
        exact Option.or_none

end Fields

/-! ## The fields of a line -/

theorem lookup_renderedFields (fields : Fields) (k : String) :
    (renderedFields fields).lookup k = (fields.lookup k).map rendered := by
  induction fields with
  | nil => rfl
  | cons field rest ih =>
      obtain ⟨name, v⟩ := field
      rw [renderedFields, lookup_cons_if, lookup_cons_if, ih]
      by_cases hk : k = name
      · rw [if_pos hk, if_pos hk]
        rfl
      · rw [if_neg hk, if_neg hk]

theorem names_renderedFields (fields : Fields) :
    (renderedFields fields).map Prod.fst = fields.map Prod.fst := by
  induction fields with
  | nil => rfl
  | cons field rest ih =>
      rw [renderedFields, List.map_cons, List.map_cons, ih]

theorem withEvent_of_ne_null {event : Value} (h : event ≠ .null) (fields : Fields) :
    withEvent fields event = fields.put "event" event := by
  cases event with
  | null => exact absurd rfl h
  | _ => rfl

theorem lookup_withEvent_of_ne {k : String} (h : k ≠ "event") (fields : Fields) (event : Value) :
    (withEvent fields event).lookup k = fields.lookup k := by
  cases event with
  | null => rfl
  | _ => exact (Fields.lookup_put fields "event" _ k).trans (if_neg h)

theorem distinct_withEvent {fields : Fields} (h : fields.Distinct) (event : Value) :
    (withEvent fields event).Distinct := by
  cases event with
  | null => exact h
  | _ => exact h.put "event" _

/-- What the three places give to a name: the call before the logger, and the logger before the
context. -/
def supplied (context bound call : Fields) (name : String) : Option Value :=
  ((call.given? name).or (bound.given? name)).or (context.given? name)

section Line

variable {context bound call : Fields} {event : Value} {service logger : String}
  {severity : Severity}

theorem lookup_given (hcontext : context.Distinct) (k : String) :
    ((context.putAll bound).putAll call).lookup k = supplied context bound call k := by
  rw [Fields.lookup_putAll, Fields.lookup_putAll, supplied, Option.or_assoc,
    hcontext.given?_eq_lookup]

/-- A line, up to the names that are dropped from it. -/
def completed (service logger : String) (severity : Severity) (given : Fields) : Fields :=
  let named := (given.put "level" (.text severity.name)).put "logger" (.text logger)
  if named.has "service" then named else named.put "service" (.text service)

theorem line_eq :
    line service logger severity context bound call event =
      renderedFields ((((completed service logger severity
        (withEvent ((context.putAll bound).putAll call) event)).drop "password").drop
          "exc_info").drop "timestamp") :=
  rfl

theorem lookup_completed (given : Fields) (k : String) :
    (completed service logger severity given).lookup k =
      if k = "logger" then some (.text logger)
      else if k = "level" then some (.text severity.name)
      else if k = "service" then (given.lookup "service").or (some (.text service))
      else given.lookup k := by
  have hnamed : ∀ k, ((given.put "level" (.text severity.name)).put "logger"
      (.text logger)).lookup k = if k = "logger" then some (.text logger)
        else if k = "level" then some (.text severity.name) else given.lookup k := by
    intro k
    rw [Fields.lookup_put, Fields.lookup_put]
  have hservice := hnamed "service"
  simp only [String.reduceEq, if_false] at hservice
  unfold completed
  simp only [Fields.has_eq_isSome_lookup, hservice]
  cases hgiven : given.lookup "service" with
  | some v =>
      rw [Option.isSome_some, if_pos rfl, hnamed]
      by_cases hk : k = "service"
      · rw [hk]
        simp [hgiven]
      · rw [if_neg hk]
  | none =>
      rw [Option.isSome_none, if_neg Bool.false_ne_true, Fields.lookup_put, hnamed]
      by_cases hk : k = "service"
      · rw [hk]
        simp
      · rw [if_neg hk, if_neg hk]

/-- What stands in a line under a name that is not dropped. -/
theorem lookup_line {k : String} (hpassword : k ≠ "password") (hcause : k ≠ "exc_info")
    (htime : k ≠ "timestamp") :
    (line service logger severity context bound call event).lookup k =
      ((completed service logger severity
        (withEvent ((context.putAll bound).putAll call) event)).lookup k).map rendered := by
  rw [line_eq, lookup_renderedFields, Fields.lookup_drop, if_neg htime, Fields.lookup_drop,
    if_neg hcause, Fields.lookup_drop, if_neg hpassword]

/-- No place puts a password into a line. -/
theorem lookup_line_password :
    (line service logger severity context bound call event).lookup "password" = none := by
  rw [line_eq, lookup_renderedFields, Fields.lookup_drop, Fields.lookup_drop, Fields.lookup_drop]
  rfl

theorem lookup_line_level :
    (line service logger severity context bound call event).lookup "level" =
      some (.text severity.name) := by
  rw [lookup_line (by decide) (by decide) (by decide), lookup_completed]
  rfl

theorem lookup_line_logger :
    (line service logger severity context bound call event).lookup "logger" =
      some (.text logger) := by
  rw [lookup_line (by decide) (by decide) (by decide), lookup_completed]
  rfl

theorem lookup_line_event (hevent : event ≠ .null) :
    (line service logger severity context bound call event).lookup "event" =
      some (rendered event) := by
  rw [lookup_line (by decide) (by decide) (by decide), lookup_completed, if_neg (by decide),
    if_neg (by decide), if_neg (by decide), withEvent_of_ne_null hevent, Fields.lookup_put,
    if_pos rfl]
  rfl

theorem lookup_line_service (hcontext : context.Distinct) :
    (line service logger severity context bound call event).lookup "service" =
      some (((supplied context bound call "service").map rendered).getD (.text service)) := by
  rw [lookup_line (by decide) (by decide) (by decide), lookup_completed,
    lookup_withEvent_of_ne (by decide), lookup_given hcontext]
  cases supplied context bound call "service" with
  | none => rfl
  | some v => rfl

/-- The names of a line that have a meaning of their own. -/
def ownNames : List String :=
  ["password", "level", "logger", "event", "service", "timestamp", "exc_info", "exception"]

theorem lookup_line_of_notMem (hcontext : context.Distinct) {k : String} (hk : k ∉ ownNames) :
    (line service logger severity context bound call event).lookup k =
      (supplied context bound call k).map rendered := by
  simp only [ownNames, List.mem_cons, List.not_mem_nil, or_false, not_or] at hk
  obtain ⟨hpassword, hlevel, hlogger, hevent, hservice, htime, hcause, -⟩ := hk
  rw [lookup_line hpassword hcause htime, lookup_completed, if_neg hlogger, if_neg hlevel,
    if_neg hservice, lookup_withEvent_of_ne hevent, lookup_given hcontext]

theorem distinct_completed {given : Fields} (h : given.Distinct) :
    (completed service logger severity given).Distinct := by
  unfold completed
  dsimp only
  split
  · exact (h.put _ _).put _ _
  · exact ((h.put _ _).put _ _).put _ _

theorem distinct_line (hcontext : context.Distinct) :
    (line service logger severity context bound call event).Distinct := by
  have hgiven := distinct_withEvent ((hcontext.putAll bound).putAll call) event
  unfold Fields.Distinct
  rw [line_eq, names_renderedFields]
  exact (((distinct_completed hgiven).drop _).drop _).drop _

end Line
end Entitlement.Log
