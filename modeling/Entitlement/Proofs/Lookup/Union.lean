import Entitlement.Proofs.Lookup.Rules

/-!
# `Entitlement.Proofs.Lookup.Union` — aggregation is a union that keeps the order

When every source that is switched on comes back with rows that can be read, what is found is told
without reading them one by one.  `all` is what the rows name, direct ones first, each name behind
the prefix, in the order of the store:

    FirstAppearances all found

and `found` is what the hook is given.  From there on the hook alone decides.

| | |
| :-- | :-- |
| the rows of a source | `Returned`; none, when it is switched off |
| a row that can be read | `Source.Mappable` |
| what rows name | `Source.authorities` |
| what comes of them | `United`, in clauses |

Two values that differ and have the same text, like the number 1 and the text `1`, name the same
authority.  They are told apart by nothing that happens behind the reading of rows, so they count as
one (`aggregate_united`, second clause).

Nothing is said here of rows that cannot be read, nor of a query that fails: in either case there is
no list, and the rules of `Aggregation` say what happens.
-/
namespace Entitlement.Lookup

/-! ## What rows name -/

def named (pre : String) (v : Value) : Authority := ⟨pre ++ v.toText⟩

/-- A row that has a name in the column of a source. -/
def Source.Mappable (source : Source) (row : Row) : Prop :=
  ∃ v, row[source.column]? = some v ∧ namesNothing v = false

/-- The authorities that rows of a source name, row by row. -/
def Source.authorities (source : Source) (pre : String) (rows : List Row) : List Authority :=
  rows.filterMap fun row => row[source.column]?.map (named pre)

/-- The rows an executor has for a username in a source; none when it is switched off. -/
def Returned (grants : Grants) (executor : Executor) (r : String) (source : Source)
    (rows : List Row) : Prop :=
  if grants.enabled source then executor (lookingUp (grants.query source) r) = .ok rows
  else rows = []

theorem readAuthority_of_column {source : Source} {pre : String} {row : Row} {v : Value}
    (hrow : row[source.column]? = some v) (hv : namesNothing v = false) :
    readAuthority source (.text pre) row = .ok (named pre v) := by
  simp only [readAuthority, hrow, hv, Bool.false_eq_true, if_false]
  rfl

theorem readRows_of_mappable {source : Source} {pre : String} {rows : List Row}
    (h : ∀ row ∈ rows, source.Mappable row) :
    readRows (readAuthority source (.text pre)) rows = .ok (source.authorities pre rows) := by
  rw [readRows_eq_ok_iff]
  induction rows with
  | nil => exact .nil
  | cons row rest ih =>
      obtain ⟨v, hrow, hv⟩ := h row List.mem_cons_self
      have hfirst : source.authorities pre (row :: rest) =
          named pre v :: source.authorities pre rest := by
        simp only [Source.authorities, List.filterMap_cons, hrow, Option.map_some]
      rw [hfirst]
      refine .cons (readAuthority_of_column hrow hv) ?_
      exact ih fun other hother => h other (List.mem_cons_of_mem _ hother)

theorem found_of_returned {grants : Grants} {executor : Executor} {r pre : String}
    {source : Source} {rows : List Row} (hrole : grants.rolePrefix = .text pre)
    (hrows : Returned grants executor r source rows)
    (hmappable : ∀ row ∈ rows, source.Mappable row) :
    grants.found executor source r = .ok (source.authorities pre rows) := by
  unfold Returned at hrows
  unfold Grants.found
  split at hrows
  · rename_i hon
    rw [if_pos hon, recordsFrom, hrows, hrole]
    exact readRows_of_mappable hmappable
  · rename_i hoff
    rw [if_neg hoff, hrows]
    rfl

/-! ## What comes of the names -/

/-- The end of an aggregation, by the list that is left: an empty one is a want of authorities. -/
def settled (r : String) : Except Fault (List Authority) → Except Fault (List Authority)
  | .ok [] => .error (.failure .noAuthority r)
  | outcome => outcome

theorem settled_of_ne_nil (r : String) {final : List Authority} (h : final ≠ []) :
    settled r (.ok final) = .ok final := by
  cases final with
  | nil => exact absurd rfl h
  | cons first rest => rfl

theorem settled_ok_eq_error_iff (r : String) (final : List Authority) :
    settled r (.ok final) = .error (.failure .noAuthority r) ↔ final = [] := by
  cases final with
  | nil => exact iff_of_true rfl rfl
  | cons first rest =>
      exact iff_of_false (fun h => by cases h) (List.cons_ne_nil _ _)

/-- Once the sources are loaded, the hook edits the list, and what it leaves is the outcome. -/
theorem run_aggregate_of_found {grants : Grants} {executor : Executor} {r : String}
    {direct group : List Authority} (hdirect : grants.found executor .direct r = .ok direct)
    (hgroup : grants.found executor .group r = .ok group) :
    (aggregate grants r).run executor =
      (settled r (edited grants.hook r (distinct (direct ++ group))),
        grants.asking .direct r ++ grants.asking .group r ++
          consulting grants.hook r (distinct (direct ++ group))) := by
  cases hedited : edited grants.hook r (distinct (direct ++ group)) with
  | error fault => exact (Aggregation.hookFails hdirect hgroup hedited).run_eq
  | ok final =>
      cases final with
      | nil => exact (Aggregation.nothingLeft hdirect hgroup hedited).run_eq
      | cons first rest =>
          exact (Aggregation.granted hdirect hgroup hedited (List.cons_ne_nil _ _)).run_eq

/-! ## Calls of the hook -/

theorem hookCalls_append (acts others : List Act) :
    hookCalls (acts ++ others) = hookCalls acts ++ hookCalls others :=
  List.filterMap_append

theorem hookCalls_asking (grants : Grants) (source : Source) (r : String) :
    hookCalls (grants.asking source r) = [] := by
  unfold Grants.asking
  split
  · rfl
  · rfl

theorem hookCalls_aggregate_of_found {grants : Grants} {executor : Executor} {r : String}
    {direct group : List Authority} (hdirect : grants.found executor .direct r = .ok direct)
    (hgroup : grants.found executor .group r = .ok group) :
    hookCalls ((aggregate grants r).run executor).2 =
      hookCalls (consulting grants.hook r (distinct (direct ++ group))) := by
  rw [run_aggregate_of_found hdirect hgroup]
  simp only [hookCalls_append, hookCalls_asking, List.nil_append]

/-! ## The statement -/

/-- What an aggregation makes of the names in `all`: the list `found` that the hook is given, and
the outcome. -/
structure United (grants : Grants) (executor : Executor) (r : String)
    (all found : List Authority) : Prop where
  /-- The list has no repetitions, the members of `all`, and the order of their first positions. -/
  list : FirstAppearances all found
  /-- The hook is called with this list, once. -/
  offered : ∀ hook, grants.hook = some hook →
    hookCalls ((aggregate grants r).run executor).2 = [(r, found)]
  /-- Without a hook this list is the outcome, and there is a want of authorities exactly when
  nothing is named. -/
  unhooked : grants.hook = none →
    (all ≠ [] → ((aggregate grants r).run executor).1 = .ok found) ∧
      (((aggregate grants r).run executor).1 = .error (.failure .noAuthority r) ↔ all = [])
  /-- With a hook the list it leaves is the outcome as it is, and there is a want of authorities
  exactly when it leaves none, whatever was named. -/
  hooked : ∀ hook final, grants.hook = some hook → hook.outcome r found = .ok final →
    (final ≠ [] → ((aggregate grants r).run executor).1 = .ok final) ∧
      (((aggregate grants r).run executor).1 = .error (.failure .noAuthority r) ↔ final = [])
  /-- A failure of the hook is the outcome. -/
  failed : ∀ hook fault, grants.hook = some hook → hook.outcome r found = .error fault →
    ((aggregate grants r).run executor).1 = .error fault

theorem united_of_found {grants : Grants} {executor : Executor} {r : String}
    {direct group : List Authority} (hdirect : grants.found executor .direct r = .ok direct)
    (hgroup : grants.found executor .group r = .ok group) :
    United grants executor r (direct ++ group) (distinct (direct ++ group)) := by
  have houtcome : ((aggregate grants r).run executor).1 =
      settled r (edited grants.hook r (distinct (direct ++ group))) := by
    rw [run_aggregate_of_found hdirect hgroup]
  have hlist := firstAppearances_distinct (direct ++ group)
  have hempty : distinct (direct ++ group) = [] ↔ direct ++ group = [] := by
    simp only [List.eq_nil_iff_forall_not_mem, hlist.mem_iff]
  refine ⟨hlist, ?_, ?_, ?_, ?_⟩
  · intro hook hhook
    rw [hookCalls_aggregate_of_found hdirect hgroup, hhook]
    rfl
  · intro hnone
    have hsettled : ((aggregate grants r).run executor).1 =
        settled r (.ok (distinct (direct ++ group))) := by
      rw [houtcome, hnone]
      rfl
    rw [hsettled, ← hempty]
    exact ⟨fun hne => settled_of_ne_nil r fun h => hne (hempty.mp h),
      settled_ok_eq_error_iff r _⟩
  · intro hook final hhook hfinal
    have hedited : edited grants.hook r (distinct (direct ++ group)) = .ok final := by
      rw [hhook]
      exact hfinal
    rw [houtcome, hedited]
    exact ⟨settled_of_ne_nil r, settled_ok_eq_error_iff r final⟩
  · intro hook fault hhook hfault
    have hedited : edited grants.hook r (distinct (direct ++ group)) = .error fault := by
      rw [hhook]
      exact hfault
    rw [houtcome, hedited]
    rfl

/-- Aggregation over sources that can be read is the union of what they name, each name at its first
place; values with the same text are one name, and switching the groups on only adds behind what is
found without them. -/
theorem aggregate_united (grants : Grants) (executor : Executor) (r pre : String)
    (rows : Source → List Row) (hrole : grants.rolePrefix = .text pre)
    (hrows : ∀ source, Returned grants executor r source (rows source))
    (hmappable : ∀ source, ∀ row ∈ rows source, source.Mappable row) :
    ∃ found,
      United grants executor r
        (Source.direct.authorities pre (rows .direct) ++
          Source.group.authorities pre (rows .group)) found ∧
      (∀ source, ∀ row ∈ rows source, ∀ v, row[source.column]? = some v →
        found.count (named pre v) = 1) ∧
      ∃ alone,
        United { grants with enableGroups := .bool false } executor r
          (Source.direct.authorities pre (rows .direct)) alone ∧
        alone <+: found := by
  have hfound : ∀ source, grants.found executor source r =
      .ok (source.authorities pre (rows source)) :=
    fun source => found_of_returned hrole (hrows source) (hmappable source)
  have hunited := united_of_found (hfound .direct) (hfound .group)
  refine ⟨_, hunited, ?_, _, ?_, distinct_prefix _ _⟩
  · intro source row hrow v hv
    refine List.count_eq_one_of_mem hunited.list.once ?_
    have hmem : named pre v ∈ source.authorities pre (rows source) := by
      refine List.mem_filterMap.mpr ⟨row, hrow, ?_⟩
      rw [hv]
      rfl
    rw [mem_distinct, List.mem_append]
    cases source with
    | direct => exact .inl hmem
    | group => exact .inr hmem
  · have halone := @united_of_found { grants with enableGroups := .bool false } executor r
      (Source.direct.authorities pre (rows .direct)) [] (hfound .direct) rfl
    rw [List.append_nil] at halone
    exact halone

/-- Rows that overlap within a source and between the two, with one name in the form of a number and
of a text. -/
def overlapping : Source → List Row
  | .direct => [[.text "amy", .int 1], [.text "amy", .text "b"], [.text "amy", .text "1"]]
  | .group => [[.int 7, .text "g", .text "c"], [.int 7, .text "g", .text "b"]]

def overlappingStore : Executor :=
  preparedStore [⟨"A", none, .ok (overlapping .direct)⟩, ⟨"G", none, .ok (overlapping .group)⟩]

/-- Both sources with a prefix, and a hook that grants once more what is granted already. -/
def overlappingGrants : Grants :=
  ⟨"A", "G", .text "R_", .bool true, .int 1, some (Script.hook { edits := [.append "R_b"] })⟩

/-- The number and the text are one name, and the repetition of the hook stays. -/
theorem aggregate_united_overlapping :
    (∃ found,
      United overlappingGrants overlappingStore "amy"
        (Source.direct.authorities "R_" (overlapping .direct) ++
          Source.group.authorities "R_" (overlapping .group)) found ∧
      (∀ source, ∀ row ∈ overlapping source, ∀ v, row[source.column]? = some v →
        found.count (named "R_" v) = 1) ∧
      ∃ alone,
        United { overlappingGrants with enableGroups := .bool false } overlappingStore "amy"
          (Source.direct.authorities "R_" (overlapping .direct)) alone ∧
        alone <+: found) ∧
      hookCalls ((aggregate overlappingGrants "amy").run overlappingStore).2 =
        [("amy", [⟨"R_1"⟩, ⟨"R_b"⟩, ⟨"R_c"⟩])] ∧
      ((aggregate overlappingGrants "amy").run overlappingStore).1 =
        .ok [⟨"R_1"⟩, ⟨"R_b"⟩, ⟨"R_c"⟩, ⟨"R_b"⟩] := by
  refine ⟨?_, rfl, rfl⟩
  refine aggregate_united overlappingGrants overlappingStore "amy" "R_" overlapping rfl ?_ ?_
  · intro source
    cases source with
    | direct => rfl
    | group => rfl
  · intro source row hrow
    cases source with
    | direct =>
        simp only [overlapping, List.mem_cons, List.not_mem_nil, or_false] at hrow
        rcases hrow with rfl | rfl | rfl
        · exact ⟨.int 1, rfl, rfl⟩
        · exact ⟨.text "b", rfl, rfl⟩
        · exact ⟨.text "1", rfl, rfl⟩
    | group =>
        simp only [overlapping, List.mem_cons, List.not_mem_nil, or_false] at hrow
        rcases hrow with rfl | rfl
        · exact ⟨.text "c", rfl, rfl⟩
        · exact ⟨.text "b", rfl, rfl⟩

end Entitlement.Lookup
