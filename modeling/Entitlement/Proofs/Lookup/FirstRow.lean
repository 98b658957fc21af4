import Entitlement.Proofs.Lookup.Attribution

/-!
# `Entitlement.Proofs.Lookup.FirstRow` — what the rows behind the first one can do

A users query may match several rows, and the principal is made of the first one.  That the others
are ignored altogether is more than holds: every row is read before the first one is taken, and a
row that cannot be read ends the lookup wherever it stands.

Two stores are compared here that differ in the users query alone, where one has further rows behind
the first one and the other has not (`FirstRowOnly`).

    run = run'   ↔   the first row can be read  →  every further row can be read

The runs are compared with all their acts: outcome, queries, calls of the hook and entries for the
log.  So further rows that can be read are ignored in every respect, whatever they hold
(`FirstRowCounts.agrees`, from right to left), and one that cannot be read never is: the lookup fails
by it before any authority is asked for, where on the other store it goes on (`FirstRowCounts.spoiled`).
-/
namespace Entitlement.Lookup

def Readable (row : Row) : Prop := ∃ record, readUser row = .ok record

/-- Two stores that answer alike, but for the users query: there one has `row` and `extras` behind
it, and the other has `row` alone. -/
structure FirstRowOnly (config : Config) (u : String) (row : Row) (extras : List Row)
    (executor executor' : Executor) : Prop where
  users : executor (lookingUp config.usersQuery u) = .ok (row :: extras)
  users' : executor' (lookingUp config.usersQuery u) = .ok [row]
  others : ∀ question, question.sql ≠ config.usersQuery → executor question = executor' question

/-! ## Reading the users -/

theorem exists_readRows {rows : List Row} (h : ∀ row ∈ rows, Readable row) :
    ∃ records, readRows readUser rows = .ok records := by
  cases hread : readRows readUser rows with
  | ok records => exact ⟨records, rfl⟩
  | error fault =>
      obtain ⟨before, bad, after, rfl, -, hbad⟩ := readRows_eq_error_iff.mp hread
      obtain ⟨record, hrecord⟩ := h bad (List.mem_append_right _ List.mem_cons_self)
      cases hbad.symm.trans hrecord

section Stores

variable {config : Config} {hook : Option Hook} {u : String} {row : Row} {extras : List Row}
  {executor executor' : Executor}

namespace FirstRowOnly

theorem usersFound (h : FirstRowOnly config u row extras executor executor') :
    config.usersFound executor u = readRows readUser (row :: extras) := by
  rw [Config.usersFound, recordsFrom, h.users]
  rfl

theorem usersFound' (h : FirstRowOnly config u row extras executor executor') :
    config.usersFound executor' u = readRows readUser [row] := by
  rw [Config.usersFound, recordsFrom, h.users']
  rfl

end FirstRowOnly

/-- Reading begins alike with the further rows and without them, unless one of them spoils it. -/
theorem head_readRows (h : Readable row → ∀ extra ∈ extras, Readable extra) :
    (readRows readUser [row]).map List.head? =
      (readRows readUser (row :: extras)).map List.head? := by
  cases hrow : readUser row with
  | error fault => simp only [readRows, hrow]
  | ok record =>
      obtain ⟨others, hothers⟩ := exists_readRows (h ⟨record, hrow⟩)
      simp only [readRows, hrow, hothers]
      rfl

theorem readRows_of_spoiled {record : UserRecord} {before after : List Row} {bad : Row}
    {fault : Fault} (hrow : readUser row = .ok record) (hbefore : ∀ extra ∈ before, Readable extra)
    (hbad : readUser bad = .error fault) :
    readRows readUser (row :: (before ++ bad :: after)) = .error fault := by
  refine readRows_eq_error_iff.mpr ⟨row :: before, bad, after, rfl, ?_, hbad⟩
  intro other hother
  rcases List.mem_cons.mp hother with rfl | hother
  · exact ⟨record, hrow⟩
  · exact hbefore other hother

/-! ## Going on behind the users -/

theorem asking_ne_nil {grants : Grants} {source : Source} (h : grants.enabled source = true)
    (r : String) : grants.asking source r ≠ [] := by
  rw [Grants.asking, if_pos h]
  exact List.cons_ne_nil _ _

theorem Aggregation.acts_ne_nil {grants : Grants} {r : String}
    {outcome : Except Fault (List Authority)} {acts : List Act} {source : Source}
    (hon : grants.enabled source = true) (h : Aggregation grants executor r outcome acts) :
    acts ≠ [] := by
  have hboth : ∀ more, grants.asking .direct r ++ grants.asking .group r ++ more ≠ [] := by
    intro more hnil
    obtain ⟨hasked, -⟩ := List.append_eq_nil_iff.mp hnil
    obtain ⟨hd, hg⟩ := List.append_eq_nil_iff.mp hasked
    cases source with
    | direct => exact asking_ne_nil hon r hd
    | group => exact asking_ne_nil hon r hg
  cases h with
  | directFails hd => exact asking_ne_nil (found_eq_error hd).1 r
  | groupFails _ hg =>
      intro hnil
      exact asking_ne_nil (found_eq_error hg).1 r (List.append_eq_nil_iff.mp hnil).2
  | hookFails => exact hboth _
  | nothingLeft => exact hboth _
  | granted => exact hboth _

theorem goes_on (hvalid : config.Valid) {record : UserRecord} {others : List UserRecord}
    (husers : config.usersFound executor u = .ok (record :: others)) :
    ((resolve config hook u).run executor).2 ≠ [config.askingUsers u] := by
  obtain ⟨source, hon⟩ : ∃ source, (config.grants hook).enabled source = true := by
    rcases Bool.or_eq_true_iff.mp hvalid.1 with hon | hon
    · exact ⟨.direct, hon⟩
    · exact ⟨.group, hon⟩
  obtain ⟨outcome, acts, h⟩ := resolution_run config hook executor u
  rw [h.run_eq]
  intro hacts
  cases h with
  | usersFail hfail => cases husers.symm.trans hfail
  | unknown hnone => cases husers.symm.trans hnone
  | unauthorised => simp at hacts
  | fails _ ha => exact ha.acts_ne_nil hon (List.cons.inj hacts).2
  | resolved => simp at hacts

/-! ## The statement -/

/-- What the rows behind the first one do to a lookup, `run` being the lookup with them and `run'`
the lookup without them. -/
structure FirstRowCounts (config : Config) (u : String) (row : Row) (extras : List Row)
    (run run' : Except Fault Principal × List Act) : Prop where
  /-- They are ignored exactly when all of them can be read, or the first row cannot. -/
  agrees : run = run' ↔ (Readable row → ∀ extra ∈ extras, Readable extra)
  /-- Behind a first row that can be read, the first one that cannot be decides the failure, and
  nothing is asked for but the users. -/
  spoiled : ∀ before bad after fault, Readable row → extras = before ++ bad :: after →
    (∀ extra ∈ before, Readable extra) → readUser bad = .error fault →
    run = (.error fault, [config.askingUsers u]) ∧ run'.2 ≠ [config.askingUsers u]

theorem FirstRowOnly.spoiled (h : FirstRowOnly config u row extras executor executor')
    (hook : Option Hook) (hvalid : config.Valid) {before after : List Row} {bad : Row} {fault : Fault}
    (hrow : Readable row) (hextras : extras = before ++ bad :: after)
    (hbefore : ∀ extra ∈ before, Readable extra) (hbad : readUser bad = .error fault) :
    (resolve config hook u).run executor = (.error fault, [config.askingUsers u]) ∧
      ((resolve config hook u).run executor').2 ≠ [config.askingUsers u] := by
  obtain ⟨record, hrecord⟩ := hrow
  constructor
  · refine (Resolution.usersFail ?_).run_eq
    rw [h.usersFound, hextras]
    exact readRows_of_spoiled hrecord hbefore hbad
  · have husers : config.usersFound executor' u = .ok [record] := by
      rw [h.usersFound', readRows, hrecord]
      rfl
    exact goes_on hvalid husers

/-- Of the rows behind the first one all that counts is whether they can be read. -/
theorem resolve_firstRow (config : Config) (hook : Option Hook) (u : String) (row : Row)
    (extras : List Row) (executor executor' : Executor) (hvalid : config.Valid)
    (hdirect : config.authoritiesQuery ≠ config.usersQuery)
    (hgroup : config.groupAuthoritiesQuery ≠ config.usersQuery)
    (h : FirstRowOnly config u row extras executor executor') :
    FirstRowCounts config u row extras
      ((resolve config hook u).run executor) ((resolve config hook u).run executor') := by
  refine ⟨⟨?_, ?_⟩, fun _ _ _ _ hrow => h.spoiled hook hvalid hrow⟩
  · intro hsame hrow
    by_contra hnot
    cases hread : readRows readUser extras with
    | ok others => exact hnot fun extra hextra =>
        let ⟨record, _, hrecord⟩ := (records_of_readRows hread).1 extra hextra
        ⟨record, hrecord⟩
    | error fault =>
        obtain ⟨before, bad, after, hextras, hbefore, hbad⟩ := readRows_eq_error_iff.mp hread
        obtain ⟨hrun, hrun'⟩ := h.spoiled hook hvalid hrow hextras hbefore hbad
        rw [← hsame, hrun] at hrun'
        exact hrun' rfl
  · intro hreadable
    obtain ⟨outcome, acts, hr⟩ := resolution_run config hook executor u
    refine hr.run_eq.trans (hr.of_found ?_ ?_).run_eq.symm
    · rw [h.usersFound, h.usersFound']
      exact head_readRows hreadable
    · intro record others _ source
      exact found_of_others h.others hdirect hgroup hook source record.username

end Stores

/-! ## A further row that cannot be read -/

def storeWithUsers (rows : List Row) : Executor :=
  preparedStore
    [⟨Query.defaultUsers, none, .ok rows⟩,
      ⟨Query.defaultAuthorities, none, .ok [[.text "amy", .text "user"]]⟩]

theorem firstRowOnly_storeWithUsers (u : String) (row : Row) (extras : List Row) :
    FirstRowOnly {} u row extras (storeWithUsers (row :: extras)) (storeWithUsers [row]) where
  users := rfl
  users' := rfl
  others question hsql := by
    have hfits : ∀ answer,
        (Prepared.mk Query.defaultUsers none answer).fits question = false := by
      intro answer
      simp only [Prepared.fits, Bool.and_true, beq_eq_false_iff_ne]
      exact Ne.symm hsql
    simp only [storeWithUsers, preparedStore, List.find?_cons, hfits]

def firstRow : Row := [.text "amy", .text "first-pw", .bool true]

/-- A further row that can be read, of a user with another name and another password. -/
def otherRow : Row := [.text "AMY", .text "second-pw", .null]

def withoutPassword : Row := [.text "amy", .null, .bool false]

/-- A further row that can be read changes nothing, and one behind it that cannot be read decides. -/
theorem resolve_firstRow_amy :
    FirstRowCounts {} "amy" firstRow [otherRow, withoutPassword]
        ((resolve {} none "amy").run (storeWithUsers [firstRow, otherRow, withoutPassword]))
        ((resolve {} none "amy").run (storeWithUsers [firstRow])) ∧
      (resolve {} none "amy").run (storeWithUsers [firstRow, otherRow]) =
        (resolve {} none "amy").run (storeWithUsers [firstRow]) := by
  have hcounts : ∀ extras, FirstRowCounts {} "amy" firstRow extras
      ((resolve {} none "amy").run (storeWithUsers (firstRow :: extras)))
      ((resolve {} none "amy").run (storeWithUsers [firstRow])) := by
    intro extras
    exact resolve_firstRow {} none "amy" firstRow extras _ _ (by decide +kernel) (by decide)
      (by decide) (firstRowOnly_storeWithUsers _ _ _)
  refine ⟨hcounts _, (hcounts _).agrees.mpr ?_⟩
  intro _ extra hextra
  obtain rfl := List.mem_singleton.mp hextra
  exact ⟨_, rfl⟩

/-- One further row without a password, and the lookup fails, though it succeeds by the first row. -/
theorem further_row_not_ignored :
    FirstRowOnly {} "amy" firstRow [withoutPassword]
        (storeWithUsers [firstRow, withoutPassword]) (storeWithUsers [firstRow]) ∧
      ((resolve {} none "amy").run (storeWithUsers [firstRow, withoutPassword])).1 =
        .error .incompleteUser ∧
      ((resolve {} none "amy").run (storeWithUsers [firstRow])).1 =
        .ok ⟨"amy", .text "first-pw", true, [⟨"user"⟩]⟩ :=
  ⟨firstRowOnly_storeWithUsers _ _ _, rfl, rfl⟩

end Entitlement.Lookup
