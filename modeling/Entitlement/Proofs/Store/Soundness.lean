import Mathlib.Data.List.Pairwise
import Entitlement.Proofs.Store.Insertion

/-!
# `Entitlement.Proofs.Store.Soundness` — tables stay sound whatever is done with them

Here nothing is assumed of what is given.  Names may be numbers or blobs, flags may be texts, columns
may be missing or unknown, rows may come twice, and there may be no tables yet.

| | |
| :-- | :-- |
| the invariant | `Tables.Sound`: every cell is there and as its column keeps it, no two records agree in a key, rows that are numbered have numbers |
| one insertion | `Inserted.sound`, from what an insertion that succeeds has checked |
| what a step does | `Moves`, one rule for each of the five things that can happen |
| one step, a run | `Session.step_sound` and `Session.run_sound`, from tables that are sound or missing |

The invariant speaks of all tables and all keys at once, because the constraints are those of the
declarations.  Two records are told apart as the store tells them apart: by the order of cells, in
which an integer and the real of its value stand at the same place.

`Tables.Plain` says more of tables into which only plain values were put; this says less of all.
-/
namespace Entitlement.Store

/-! ## Whole records -/

/-- A record has a cell for every column, and none of them is null. -/
structure Whole (t : Table) (record : Record) : Prop where
  length : record.length = t.columns.length
  cells : ∀ cell ∈ record, cell ≠ .null

/-- Two records are told apart by what they hold at some positions. -/
def Apart (positions : List Nat) (a b : Record) : Prop := agreeAt positions a b = false

theorem length_givenValues {fields : Named} {columns : List Column}
    {given : List (Column × Value)} (h : givenValues fields columns = .ok given) :
    given.length = columns.length := by
  induction columns generalizing given with
  | nil =>
      cases h
      rfl
  | cons column rest ih =>
      obtain ⟨v, others, rfl, -, hothers⟩ := givenValues_cons h
      rw [List.length_cons, List.length_cons, ih hothers]

theorem length_cellsOfGiven {given : List (Column × Value)} {position : Nat} {cells : Record}
    (h : cellsOfGiven position given = .ok cells) : cells.length = given.length := by
  induction given generalizing position cells with
  | nil =>
      cases h
      rfl
  | cons first rest ih =>
      obtain ⟨cell, others, next, rfl, -, hothers⟩ := cellsOfGiven_cons h
      rw [List.length_cons, List.length_cons, ih hothers]

theorem length_cellsFrom {values : List Value} {position : Nat} {cells : Record}
    (h : cellsFrom position values = .ok cells) : cells.length = values.length := by
  induction values generalizing position cells with
  | nil =>
      cases h
      rfl
  | cons v rest ih =>
      simp only [cellsFrom] at h
      split at h
      · cases h
      · split at h
        · cases h
        · rename_i others hothers
          cases h
          rw [List.length_cons, List.length_cons, ih hothers]

theorem length_number {t : Table} {records : List Record} {row record : Record}
    (h : number t records row = .ok record) : record.length = row.length := by
  unfold number at h
  split at h
  · split at h
    · cases h
      rfl
    · cases h
      rfl
    · cases h
  · cases h
    rfl

theorem whole_of_complete {t : Table} {record : Record} (hlength : record.length = t.columns.length)
    (h : missing? t record = none) : Whole t record := by
  refine ⟨hlength, ?_⟩
  rintro cell hcell rfl
  obtain ⟨i, hi, hcell⟩ := List.mem_iff_getElem.mp hcell
  have hi' : i < t.columns.length := hlength ▸ hi
  have hpair : (t.columns[i], Cell.null) ∈ t.columns.zip record := by
    refine List.mem_iff_getElem.mpr ⟨i, ?_, ?_⟩
    · rw [List.length_zip]
      exact Nat.lt_min.mpr ⟨hi', hi⟩
    · rw [List.getElem_zip, hcell]
  refine List.find?_eq_none.mp (Option.map_eq_none_iff.mp h) _ hpair ?_
  show (!t.columns[i].nullable && Cell.null == Cell.null) = true
  rw [t.not_nullable _ (List.getElem_mem hi')]
  rfl

/-! ## Cells as their columns keep them -/

/-- A cell that the affinity of its column leaves as it is. -/
def Kept (column : Column) (cell : Cell) : Prop :=
  cell.withAffinity column.type.affinity = cell

theorem ofReal_withAffinity (x : Binary64) :
    (Cell.ofReal x).withAffinity .numeric = Cell.ofReal x := by
  unfold Cell.ofReal
  split
  · rfl
  · rename_i hreal
    exact if_neg hreal

theorem numberOfText_withAffinity {s : String} {c : Cell} (h : Cell.numberOfText s = some c) :
    c.withAffinity .numeric = c := by
  unfold Cell.numberOfText at h
  split at h
  · split at h
    · split at h
      · cases h
        rfl
      · cases h
        exact ofReal_withAffinity _
    · cases h
  · cases h

/-- What an affinity has converted once, it leaves as it is. -/
theorem withAffinity_idem (affinity : Affinity) (c : Cell) :
    (c.withAffinity affinity).withAffinity affinity = c.withAffinity affinity := by
  cases affinity with
  | none => rfl
  | text => cases c <;> rfl
  | numeric =>
      cases c with
      | null => rfl
      | int n => rfl
      | blob bs => rfl
      | real x => exact ofReal_withAffinity x
      | text s =>
          show ((Cell.numberOfText s).getD (.text s)).withAffinity .numeric = _
          cases hnumber : Cell.numberOfText s with
          | some c =>
              rw [Option.getD_some, numberOfText_withAffinity hnumber]
              exact (congrArg (Option.getD · (Cell.text s)) hnumber).symm
          | none => rfl

theorem kept_shaped {columns : List Column} {given : Record} :
    ∀ pair ∈ columns.zip (shaped columns given), Kept pair.1 pair.2 := by
  induction columns generalizing given with
  | nil => exact fun pair hpair => absurd hpair List.not_mem_nil
  | cons column rest ih =>
      cases given with
      | nil => exact fun pair hpair => absurd hpair List.not_mem_nil
      | cons cell others =>
          intro pair hpair
          rcases List.mem_cons.mp hpair with rfl | hpair
          · exact withAffinity_idem _ _
          · exact ih pair hpair

theorem kept_number {t : Table} {records : List Record} {row record : Record}
    (h : number t records row = .ok record)
    (hrow : ∀ pair ∈ t.columns.zip row, Kept pair.1 pair.2) :
    ∀ pair ∈ t.columns.zip record, Kept pair.1 pair.2 := by
  unfold number at h
  split at h
  · rename_i hnumbered
    obtain ⟨column, rest, hcolumns, -, htype, -⟩ := Table.isNumbered_columns hnumbered
    have hint : ∀ n, Kept column (.int n) := by
      intro n
      unfold Kept
      rw [htype]
      rfl
    split at h
    · cases h
      rw [hcolumns] at hrow ⊢
      intro pair hpair
      rcases List.mem_cons.mp hpair with rfl | hpair
      · exact hint _
      · exact hrow pair (List.mem_cons_of_mem _ hpair)
    · cases h
      exact hrow
    · cases h
  · cases h
    exact hrow

/-! ## Numbers -/

/-- A record that begins with its number. -/
def Numbered (record : Record) : Prop := ∃ n rest, record = .int n :: rest

theorem numbered_of_number {t : Table} {records : List Record} {row record : Record}
    (h : number t records row = .ok record) (ht : t.isNumbered = true) : Numbered record := by
  unfold number at h
  rw [if_pos ht] at h
  split at h
  · cases h
    exact ⟨_, _, rfl⟩
  · cases h
    exact ⟨_, _, rfl⟩
  · cases h

theorem lt_nextNumber {records : List Record} {m : Int} {rest : Record}
    (h : (.int m :: rest) ∈ records) : m < nextNumber records := by
  have hmem : m ∈ records.filterMap recordStart? := List.mem_filterMap.mpr ⟨_, h, rfl⟩
  unfold nextNumber
  cases hmax : (records.filterMap recordStart?).max? with
  | none =>
      rw [List.max?_eq_none_iff.mp hmax] at hmem
      exact absurd hmem List.not_mem_nil
  | some greatest =>
      have hle := (List.max?_eq_some_iff.mp hmax).2 m hmem
      show m < greatest + 1
      omega

theorem nextNumber_le {records : List Record} {most : Int} (hone : 1 ≤ most)
    (h : ∀ m rest, (.int m :: rest) ∈ records → m < most) : nextNumber records ≤ most := by
  unfold nextNumber
  cases hmax : (records.filterMap recordStart?).max? with
  | none => exact hone
  | some greatest =>
      obtain ⟨record, hrecord, hstart⟩ := List.mem_filterMap.mp (List.max?_mem hmax)
      have hlt : greatest < most := by
        unfold recordStart? at hstart
        split at hstart
        · cases hstart
          exact h _ _ hrecord
        · cases hstart
      show greatest + 1 ≤ most
      omega

/-! ## The invariant -/

/-- Tables whose declared constraints hold. -/
structure Tables.Sound (tables : Tables) : Prop where
  whole : ∀ t, ∀ record ∈ tables.rows t, Whole t record
  kept : ∀ t, ∀ record ∈ tables.rows t, ∀ pair ∈ t.columns.zip record, Kept pair.1 pair.2
  keyed : ∀ t, ∀ key ∈ t.keys, (tables.rows t).Pairwise (Apart key)
  numbered : ∀ t, t.isNumbered = true → ∀ record ∈ tables.rows t, Numbered record

theorem Tables.sound_empty : Tables.Sound {} where
  whole t record hmem := by
    cases t <;> cases hmem
  kept t record hmem := by
    cases t <;> cases hmem
  keyed t key _ := by
    cases t <;> exact .nil
  numbered t _ record hmem := by
    cases t <;> cases hmem

theorem Inserted.forall_rows {tables tables' : Tables} {t : Table} {given record : Record}
    (h : Inserted tables t given tables' record) {p : Table → Record → Prop}
    (hold : ∀ t, ∀ other ∈ tables.rows t, p t other) (hnew : p t record) :
    ∀ t, ∀ other ∈ tables'.rows t, p t other := by
  intro t' other hother
  rw [h.put, Tables.rows_put] at hother
  split at hother
  · rename_i heq
    subst heq
    rcases List.mem_append.mp hother with hother | hother
    · exact hold t' other hother
    · rw [List.mem_singleton.mp hother]
      exact hnew
  · exact hold t' other hother

/-- The invariant is kept by every insertion that succeeds. -/
theorem Inserted.sound {tables tables' : Tables} {t : Table} {given record : Record}
    (h : Inserted tables t given tables' record) (hlength : t.columns.length ≤ given.length)
    (hsound : tables.Sound) : tables'.Sound := by
  have hshaped : (shaped t.columns given).length = t.columns.length := by
    unfold shaped
    rw [List.length_zipWith, Nat.min_eq_left hlength]
  constructor
  · exact h.forall_rows hsound.whole
      (whole_of_complete ((length_number h.numbered).trans hshaped) h.complete)
  · exact h.forall_rows hsound.kept (kept_number h.numbered kept_shaped)
  · intro t' key hkey
    rw [h.put, Tables.rows_put]
    split
    · rename_i heq
      subst heq
      refine List.pairwise_append.mpr ⟨hsound.keyed t' key hkey, List.pairwise_singleton _ _, ?_⟩
      intro other hother new hnew
      rw [List.mem_singleton.mp hnew]
      have hfree := List.find?_eq_none.mp h.fresh key hkey
      rw [List.any_eq_true] at hfree
      exact Bool.eq_false_iff.mpr fun hagree => hfree ⟨other, hother, hagree⟩
    · exact hsound.keyed t' key hkey
  · intro t' ht' other hother
    exact h.forall_rows (fun t other hother ht => hsound.numbered t ht other hother)
      (numbered_of_number h.numbered) t' other hother ht'

/-! ## What a step does -/

def Step.Reads : Step → Prop
  | .resolve _ => True
  | .gather _ => True
  | .execute _ _ => True
  | _ => False

/-- The cells a step hands over for a row of a table. -/
inductive Step.Gives : Step → Table → Record → Prop
  | named {t : Table} {fields : Named} {given : List (Column × Value)} {cells : Record} :
      givenValues fields t.columns = .ok given → cellsOfGiven 1 given = .ok cells →
      Step.Gives (.add t fields) t cells
  | placed {t : Table} {row : List Value} {cells : Record} :
      rowPlaces.length ≤ row.length → cellsFrom 1 (row.take rowPlaces.length) = .ok cells →
      Step.Gives (.addRow t row) t cells

def Step.shows : Step → Record → Option Value
  | .add t fields, record => shownNumber t fields record
  | _, _ => none

/-- What can happen to a session in a step, and what is answered then. -/
inductive Moves (session : Session) : Step → Session × Except Entitlement.Fault Answer → Prop
  | fails {step : Step} (fault : Entitlement.Fault) :
      step ≠ .create → Moves session step (session, .error fault)
  | reads {step : Step} (answer : Answer) : step.Reads → Moves session step (session, .ok answer)
  | configures {changes : Lookup.Config.Changes} (config : Lookup.Config) :
      Moves session (.configure changes) ({ session with config }, .ok .configured)
  | creates :
      Moves session .create ({ session with database := session.database.create }, .ok .created)
  | inserts {step : Step} {t : Table} {given record : Record} {tables tables' : Tables} :
      session.database = some tables → step.Gives t given →
      Inserted tables t given tables' record →
      Moves session step
        ({ session with database := some tables' }, .ok (.added (step.shows record)))

theorem insertInto_none {t : Table} {given : Except Fault Record} {result : Tables × Record} :
    insertInto none t given ≠ .ok result := by
  intro h
  cases h

theorem insertNamed_none {t : Table} {fields : Named} {result : Tables × Record} :
    insertNamed none t fields ≠ .ok result := by
  intro h
  unfold insertNamed at h
  split at h
  · cases h
  · exact insertInto_none h

theorem insertValues_none {t : Table} {row : List Value} {result : Tables × Record} :
    insertValues none t row ≠ .ok result := by
  intro h
  unfold insertValues at h
  split at h
  · cases h
  · exact insertInto_none h

/-- Every step does one of these things. -/
theorem Session.moves_step (session : Session) (step : Step) :
    Moves session step (session.step step) := by
  obtain ⟨database, config, hook⟩ := session
  cases step with
  | add t fields =>
      simp only [Session.step]
      cases hinsert : insertNamed database t fields with
      | error fault => exact .fails _ (by rintro ⟨⟩)
      | ok result =>
          cases database with
          | none => exact absurd hinsert insertNamed_none
          | some tables =>
              obtain ⟨given, cells, hgiven, hcells, hinserted⟩ := insertNamed_eq_ok hinsert
              exact .inserts rfl (.named hgiven hcells) (inserted_of_insert hinserted)
  | addRow t row =>
      simp only [Session.step]
      cases hinsert : insertValues database t row with
      | error fault => exact .fails _ (by rintro ⟨⟩)
      | ok result =>
          cases database with
          | none => exact absurd hinsert insertValues_none
          | some tables =>
              obtain ⟨cells, hlength, hcells, hinserted⟩ := insertValues_eq_ok hinsert
              exact .inserts rfl (.placed hlength hcells) (inserted_of_insert hinserted)
  | resolve username =>
      simp only [Session.step]
      cases Session.resolve ⟨database, config, hook⟩ username with
      | error fault => exact .fails _ (by rintro ⟨⟩)
      | ok p => exact .reads _ trivial
  | gather usernames => exact .reads _ trivial
  | configure changes =>
      simp only [Session.step]
      cases Lookup.Config.make changes with
      | error fault => exact .fails _ (by rintro ⟨⟩)
      | ok made => exact .configures made
  | create => exact .creates
  | execute sql args =>
      simp only [Session.step]
      cases Store.execute database sql args with
      | error fault => exact .fails _ (by rintro ⟨⟩)
      | ok rows => exact .reads _ trivial

/-! ## Steps and runs -/

theorem Step.Gives.length_le {step : Step} {t : Table} {given : Record}
    (h : step.Gives t given) : t.columns.length ≤ given.length := by
  cases h with
  | named hgiven hcells =>
      exact Nat.le_of_eq ((length_cellsOfGiven hcells).trans (length_givenValues hgiven)).symm
  | placed hlength hcells =>
      rw [length_cellsFrom hcells, List.length_take, Nat.min_eq_left hlength]
      cases t <;> decide

def Database.Sound (database : Database) : Prop :=
  ∀ tables, database = some tables → tables.Sound

theorem Database.sound_create {database : Database} (h : database.Sound) :
    database.create.Sound := by
  cases database with
  | none =>
      rintro tables ⟨⟩
      exact Tables.sound_empty
  | some tables => exact h

theorem Session.step_sound {session : Session} (h : session.database.Sound) (step : Step) :
    (session.step step).1.database.Sound := by
  have hmoves := session.moves_step step
  generalize session.step step = after at hmoves
  cases hmoves with
  | fails => exact h
  | reads => exact h
  | configures => exact h
  | creates => exact Database.sound_create h
  | inserts hdatabase hgives hinserted =>
      rintro tables' ⟨⟩
      exact hinserted.sound hgives.length_le (h _ hdatabase)

/-- The run lemma. -/
theorem Session.run_sound {session : Session} (h : session.database.Sound) (steps : List Step) :
    (session.run steps).1.database.Sound := by
  induction steps generalizing session with
  | nil => exact h
  | cons step rest ih => exact ih (Session.step_sound h step)

theorem Session.database_step (session : Session) (step : Step) :
    (session.step step).1.database = step.onDatabase session.database := by
  cases step with
  | add t fields =>
      simp only [Step.onDatabase, Session.step]
      cases insertNamed session.database t fields with
      | error fault => rfl
      | ok result => rfl
  | addRow t row =>
      simp only [Step.onDatabase, Session.step]
      cases insertValues session.database t row with
      | error fault => rfl
      | ok result => rfl
  | resolve username => rfl
  | gather usernames => rfl
  | configure changes =>
      simp only [Step.onDatabase, Session.step]
      cases Lookup.Config.make changes with
      | error fault => rfl
      | ok config => rfl
  | create => rfl
  | execute sql args => rfl

theorem Session.run_append (session : Session) (steps others : List Step) :
    (session.run (steps ++ others)).1 = ((session.run steps).1.run others).1 := by
  induction steps generalizing session with
  | nil => rfl
  | cons step rest ih => exact ih (session.step step).1

theorem Step.onDatabase_cases (step : Step) {tables : Tables} (hsound : tables.Sound) :
    step.onDatabase (some tables) = some tables ∨
      ∃ t record, step.onDatabase (some tables) =
          some (tables.put t (tables.rows t ++ [record])) ∧
        (tables.put t (tables.rows t ++ [record])).Sound := by
  have hmoves := Session.moves_step ⟨some tables, {}, none⟩ step
  unfold Step.onDatabase
  generalize Session.step ⟨some tables, {}, none⟩ step = after at hmoves
  cases hmoves with
  | fails => exact .inl rfl
  | reads => exact .inl rfl
  | configures => exact .inl rfl
  | creates => exact .inl rfl
  | inserts hdatabase hgives hinserted =>
      cases hdatabase
      have hsound' := hinserted.sound hgives.length_le hsound
      rw [hinserted.put] at hsound'
      exact .inr ⟨_, _, congrArg some hinserted.put, hsound'⟩

theorem Session.step_tables {session : Session} {tables : Tables}
    (hdatabase : session.database = some tables) (hsound : tables.Sound) (step : Step) :
    ∃ tables', (session.step step).1.database = some tables' ∧ tables'.Sound := by
  rw [session.database_step, hdatabase]
  rcases step.onDatabase_cases hsound with hsame | ⟨t, record, hput, hsound'⟩
  · exact ⟨tables, hsame, hsound⟩
  · exact ⟨_, hput, hsound'⟩

theorem Session.run_tables {session : Session} {tables : Tables}
    (hdatabase : session.database = some tables) (hsound : tables.Sound) (steps : List Step) :
    ∃ tables', (session.run steps).1.database = some tables' ∧ tables'.Sound := by
  induction steps generalizing session tables with
  | nil => exact ⟨tables, hdatabase, hsound⟩
  | cons step rest ih =>
      obtain ⟨middle, hmiddle, hsound'⟩ := Session.step_tables hdatabase hsound step
      exact ih hmiddle hsound'

end Entitlement.Store
