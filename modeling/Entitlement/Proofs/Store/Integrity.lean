import Entitlement.Proofs.Store.Soundness

/-!
# `Entitlement.Proofs.Store.Integrity` — what a store promises, and what a step does to it

A store that was started with empty tables, or with none, keeps its constraints in every state, and
every step in every state changes what it is for and nothing else.

| | |
| :-- | :-- |
| the constraints | `Tables.Keyed`, table by table and by the names of the columns |
| the steps | `Effect`: failures, lookups and queries, configurations, the tables themselves, insertions |
| the statement | `run_integrity` |

Both come from elsewhere: the constraints from the invariant of all tables, the effect of a step from
the rules of what can happen in it.
-/
namespace Entitlement.Store

/-! ## The constraints by name -/

def position (t : Table) (name : String) : Nat := t.columns.findIdx (·.name == name)

def field (t : Table) (name : String) (record : Record) : Option Cell := record[position t name]?

/-- No two rows of a table are alike in some columns. -/
def Tables.Unique (tables : Tables) (t : Table) (names : List String) : Prop :=
  (tables.rows t).Pairwise (Apart (names.map (position t)))

/-- No row of a table has nothing in a column. -/
def Tables.Filled (tables : Tables) (t : Table) (name : String) : Prop :=
  ∀ record ∈ tables.rows t, ∃ cell, field t name record = some cell ∧ cell ≠ .null

theorem Tables.Sound.unique {tables : Tables} (h : tables.Sound) {t : Table} {names : List String}
    (hkey : names.map (position t) ∈ t.keys) : tables.Unique t names :=
  h.keyed t _ hkey

theorem Tables.Sound.filled {tables : Tables} (h : tables.Sound) {t : Table} {name : String}
    (hcolumn : position t name < t.columns.length) : tables.Filled t name := by
  intro record hrecord
  obtain ⟨hlength, hcells⟩ := h.whole t record hrecord
  have hlt : position t name < record.length := hlength ▸ hcolumn
  exact ⟨record[position t name], List.getElem?_eq_getElem hlt,
    hcells _ (List.getElem_mem hlt)⟩

/-- What the tables promise, table by table. -/
structure Tables.Keyed (tables : Tables) : Prop where
  /-- A username has one row. -/
  usernames : tables.Unique .users ["username"]
  /-- A row of the users is complete. -/
  users : tables.Filled .users "username" ∧ tables.Filled .users "password" ∧
    tables.Filled .users "enabled"
  /-- An authority is given to a username once. -/
  authorities : tables.Unique .authorities ["username", "authority"]
  /-- A group has a number of its own. -/
  groups : tables.Unique .groups ["id"]
  /-- A group has a name of its own. -/
  groupNames : tables.Unique .groups ["group_name"]
  /-- A membership has a number of its own. -/
  memberships : tables.Unique .groupMembers ["id"]
  /-- A membership is of somebody, in something. -/
  members : tables.Filled .groupMembers "username" ∧ tables.Filled .groupMembers "group_id"
  /-- An authority is given to a group once. -/
  groupAuthorities : tables.Unique .groupAuthorities ["group_id", "authority"]

theorem Tables.Sound.toKeyed {tables : Tables} (h : tables.Sound) : tables.Keyed where
  usernames := h.unique (by decide)
  users := ⟨h.filled (by decide), h.filled (by decide), h.filled (by decide)⟩
  authorities := h.unique (by decide)
  groups := h.unique (by decide)
  groupNames := h.unique (by decide)
  memberships := h.unique (by decide)
  members := ⟨h.filled (by decide), h.filled (by decide)⟩
  groupAuthorities := h.unique (by decide)

/-! ## What a step leaves and what it changes -/

def Step.PutsInto (t : Table) : Step → Prop
  | .add t' _ => t' = t
  | .addRow t' _ => t' = t
  | _ => False

/-- A step that leaves the number of its row to the table: what it gives for it is no cell, be it
missing, null or a NaN. -/
def Step.Unnumbered : Step → Prop
  | .add _ fields => Cell.ofValue 1 ((fields.lookup "id").getD .null) = .ok .null
  | .addRow _ row => ∃ v, row.head? = some v ∧ Cell.ofValue 1 v = .ok .null
  | _ => False

def greatestNumber : Int := Int64.maxValue.toInt

/-- A table all of whose rows have numbers below the greatest one. -/
def Tables.Room (tables : Tables) (t : Table) : Prop :=
  ∀ record ∈ tables.rows t, ∀ m, recordStart? record = some m → m < greatestNumber

/-- A record whose number is greater than that of every row of a table. -/
def Tables.Above (tables : Tables) (t : Table) (record : Record) : Prop :=
  ∃ n, recordStart? record = some n ∧ n ≤ greatestNumber ∧
    ∀ other ∈ tables.rows t, ∃ m, recordStart? other = some m ∧ m < n

/-- What a step does to a session, and what it does not do, the session afterwards and the answer
being given. -/
structure Effect (session : Session) (step : Step) (next : Session)
    (answer : Except Entitlement.Fault Answer) : Prop where
  /-- A step that fails leaves everything as it was. -/
  failed : ∀ fault, answer = .error fault → next = session
  /-- Lookups and queries leave everything as it was. -/
  reads : step.Reads → next = session
  /-- A new configuration leaves the store as it was. -/
  configures : ∀ changes, step = .configure changes → next.database = session.database
  /-- Creating the tables keeps those that are there, or makes empty ones. -/
  creates : step = .create →
    next = { session with database := some (session.database.getD {}) }
  /-- Creating the tables where there are some changes nothing. -/
  createsAgain : session.database.isSome = true → step = .create → next = session
  /-- Tables that were created once stay, and each begins with what it held before. -/
  grows : ∀ tables, session.database = some tables →
    ∃ tables', next.database = some tables' ∧ tables.Grows tables'
  /-- An insertion that succeeds puts one record at the end of its table and does nothing else; a
  number that is left to the table is greater than all that are there. -/
  inserts : ∀ t a, step.PutsInto t → answer = .ok a →
    ∃ tables record, session.database = some tables ∧ a = .added (step.shows record) ∧
      next = { session with database := some (tables.put t (tables.rows t ++ [record])) } ∧
      (t.isNumbered = true → step.Unnumbered → tables.Room t → tables.Above t record)

/-! ### The numbers a table assigns -/

theorem Step.Gives.head_null {step : Step} {t : Table} {given : Record} (h : step.Gives t given)
    (ht : t.isNumbered = true) (hnumber : step.Unnumbered) : ∃ rest, given = .null :: rest := by
  cases h with
  | named hgiven hcells =>
      obtain ⟨column, columns, hcolumns, hname, htype, -⟩ := Table.isNumbered_columns ht
      rw [hcolumns] at hgiven
      obtain ⟨v, others, rfl, hv, -⟩ := givenValues_cons hgiven
      obtain ⟨cell, rest, -, rfl, hcell, -⟩ := cellsOfGiven_cons hcells
      simp only [givenValue, htype, reduceCtorEq, if_false, valueOf, hname] at hv
      cases hv
      refine ⟨rest, ?_⟩
      rcases hcell with rfl | hcell
      · rfl
      · cases hnumber.symm.trans hcell
        rfl
  | @placed _ row _ hlength hcells =>
      obtain ⟨v, hv, hnull⟩ := hnumber
      cases row with
      | nil => cases hv
      | cons first rest =>
          cases hv
          simp only [rowPlaces, List.length_cons, List.take_succ_cons, cellsFrom, hnull] at hcells
          split at hcells
          · cases hcells
          · cases hcells
            exact ⟨_, rfl⟩

/-- A number that is assigned is greater than all that are there. -/
theorem Inserted.above {tables tables' : Tables} {t : Table} {given record : Record}
    (h : Inserted tables t given tables' record) (hsound : tables.Sound)
    (ht : t.isNumbered = true) (hgiven : ∃ rest, given = .null :: rest)
    (hroom : tables.Room t) : tables.Above t record := by
  obtain ⟨rest, rfl⟩ := hgiven
  obtain ⟨column, columns, hcolumns, -, htype, -⟩ := Table.isNumbered_columns ht
  have hshaped : shaped t.columns (.null :: rest) = .null :: shaped columns rest := by
    rw [hcolumns]
    show Cell.withAffinity column.type.affinity .null :: _ = _
    rw [htype]
    rfl
  have hnumber := h.numbered
  rw [hshaped, number, if_pos ht] at hnumber
  cases hnumber
  refine ⟨nextNumber (tables.rows t), rfl, ?_, ?_⟩
  · refine nextNumber_le (by decide) ?_
    intro m others hmem
    exact hroom _ hmem m rfl
  · intro other hother
    obtain ⟨m, others, rfl⟩ := hsound.numbered t ht other hother
    exact ⟨m, rfl, lt_nextNumber hother⟩

/-! ### The statement -/

theorem Step.Reads.not_putsInto {step : Step} {t : Table} (h : step.Reads) : ¬step.PutsInto t := by
  cases step with
  | add => exact h.elim
  | addRow => exact h.elim
  | resolve => exact id
  | gather => exact id
  | configure => exact h.elim
  | create => exact h.elim
  | execute => exact id

theorem Step.Gives.putsInto {step : Step} {t : Table} {given : Record} (h : step.Gives t given) :
    step.PutsInto t := by
  cases h with
  | named => rfl
  | placed => rfl

theorem Step.Gives.eq_of_putsInto {step : Step} {t t' : Table} {given : Record}
    (h : step.Gives t given) (hputs : step.PutsInto t') : t = t' := by
  cases h with
  | named => exact hputs
  | placed => exact hputs

theorem Session.create_of_some {session : Session} (h : session.database.isSome = true) :
    { session with database := session.database.create } = session := by
  obtain ⟨database, config, hook⟩ := session
  cases database with
  | none => cases h
  | some tables => rfl

theorem Session.create_eq (session : Session) :
    { session with database := session.database.create } =
      { session with database := some (session.database.getD {}) } := by
  obtain ⟨database, config, hook⟩ := session
  cases database with
  | none => rfl
  | some tables => rfl

/-- The effect of a step follows from what can happen in it. -/
theorem Moves.effect {session next : Session} {step : Step}
    {answer : Except Entitlement.Fault Answer} (h : Moves session step (next, answer))
    (hsound : session.database.Sound) : Effect session step next answer := by
  have hstays : ∀ tables, session.database = some tables →
      ∃ tables', session.database = some tables' ∧ tables.Grows tables' :=
    fun tables htables => ⟨tables, htables, Tables.Grows.refl tables⟩
  cases h with
  | fails fault hcreate =>
      exact {
        failed := fun _ _ => rfl
        reads := fun _ => rfl
        configures := fun _ _ => rfl
        creates := fun h => absurd h hcreate
        createsAgain := fun _ h => absurd h hcreate
        grows := hstays
        inserts := fun _ _ _ ha => nomatch ha }
  | reads a hreads =>
      exact {
        failed := fun _ _ => rfl
        reads := fun _ => rfl
        configures := fun _ _ => rfl
        creates := by
          rintro rfl
          exact hreads.elim
        createsAgain := fun _ _ => rfl
        grows := hstays
        inserts := fun _ _ hputs _ => (hreads.not_putsInto hputs).elim }
  | configures config =>
      exact {
        failed := fun _ ha => nomatch ha
        reads := fun h => h.elim
        configures := fun _ _ => rfl
        creates := by rintro ⟨⟩
        createsAgain := by rintro - ⟨⟩
        grows := hstays
        inserts := fun _ _ hputs _ => hputs.elim }
  | creates =>
      exact {
        failed := fun _ ha => nomatch ha
        reads := fun h => h.elim
        configures := by rintro changes ⟨⟩
        creates := fun _ => session.create_eq
        createsAgain := fun h _ => Session.create_of_some h
        grows := by
          intro tables htables
          rw [Session.create_of_some (Option.isSome_of_eq_some htables)]
          exact hstays tables htables
        inserts := fun _ _ hputs _ => hputs.elim }
  | @inserts _ t given record tables tables' hdatabase hgives hinserted =>
      exact {
        failed := fun _ ha => nomatch ha
        reads := fun hreads => (hreads.not_putsInto hgives.putsInto).elim
        configures := by
          rintro changes rfl
          cases hgives
        creates := by
          rintro rfl
          cases hgives
        createsAgain := by
          rintro - rfl
          cases hgives
        grows := by
          intro before hbefore
          cases hdatabase.symm.trans hbefore
          exact ⟨tables', rfl, hinserted.grows⟩
        inserts := by
          intro t' a hputs ha
          obtain rfl := hgives.eq_of_putsInto hputs
          cases ha
          refine ⟨tables, record, hdatabase, rfl, ?_, ?_⟩
          · rw [hinserted.put]
          · intro ht hnumber hroom
            exact hinserted.above (hsound _ hdatabase) ht (hgives.head_null ht hnumber) hroom }

/-- Started with empty tables or with none, a store keeps its constraints in every state that steps
of any kind lead to, and from every such state every step has its effect and no other. -/
theorem run_integrity (created : Bool) (config : Lookup.Config) (hook : Option Lookup.Hook)
    (steps : List Step) :
    let session := ((Session.mk (if created then some {} else none) config hook).run steps).1
    (∀ tables, session.database = some tables → tables.Keyed) ∧
      ∀ step, Effect session step (session.step step).1 (session.step step).2 := by
  intro session
  have hstart : Database.Sound (if created then some {} else none) := by
    cases created with
    | false =>
        rintro tables ⟨⟩
    | true =>
        rintro tables ⟨⟩
        exact Tables.sound_empty
  have hsound : session.database.Sound := Session.run_sound hstart steps
  refine ⟨fun tables htables => (hsound tables htables).toKeyed, ?_⟩
  intro step
  exact (session.moves_step step).effect hsound

/-- A group without a number of its own is numbered behind those that are there. -/
example :
    (Session.step ⟨some { groups := [[.int 7, .text "staff"], [.int 3, .text "guests"]] }, {}, none⟩
      (.add .groups [("group_name", .text "admins")])).2 = .ok (.added (some (.int 8))) := by
  rfl

end Entitlement.Store
