import Mathlib.Data.List.Forall2
import Mathlib.Data.List.Nodup
import Entitlement.Store.Session

/-!
# `Entitlement.Proofs.Store.Insertion` — what insertions make of the tables

An insertion either fails and changes nothing, or puts one record at the end of one table.  What the
record is like depends on what was given and on the constraints of the table, and this module says
so once.

| | |
| :-- | :-- |
| what is given | `Step.Plain`: names and passwords are texts, group ids are integers |
| the invariant | `Tables.Plain`: every record has cells of the sorts its columns are for, and no two records of a table agree in a key |
| the order of growth | `Tables.Grows`: every table begins with what it held before |

`Step.onDatabase_plain` is the step lemma, for an insertion that succeeds or fails, and
`Session.run_plain` the run lemma.  What is given beside names, passwords and group ids is not
restricted: flags, the numbers of groups and memberships, attributes without a column, missing
values and repeated keys all occur, and each makes the step fail or is taken in.
-/
namespace Entitlement

/-! ## Sorts of values and cells -/

def ColumnType.Holds : ColumnType → Store.Cell → Prop
  | .varchar _, cell => ∃ s, cell = .text s
  | .integer, cell => ∃ n, cell = .int n
  | .boolean, cell => cell ≠ .null

/-- A value that is given plainly for a column: a text for a name or a password, an integer for a
group id, or nothing.  For a flag and for the number of a row it is anything. -/
def Column.Plain (column : Column) (v : Value) : Prop :=
  match column.type with
  | .varchar _ => v = .null ∨ ∃ s, v = .text s
  | .integer => column.name = "id" ∨ v = .null ∨ ∃ n, v = .int n
  | .boolean => True

/-- A cell that stands for a value that is given plainly. -/
def Column.Accepts (column : Column) (cell : Store.Cell) : Prop :=
  match column.type with
  | .varchar _ => cell = .null ∨ ∃ s, cell = .text s
  | .integer => column.name = "id" ∨ cell = .null ∨ ∃ n, cell = .int n
  | .boolean => True

open Store

theorem Column.accepts_null (column : Column) : column.Accepts .null := by
  unfold Column.Accepts
  split
  · exact .inl rfl
  · exact .inr (.inl rfl)
  · trivial

theorem Column.Plain.accepts {column : Column} {v : Value} {position : Nat} {cell : Cell}
    (h : column.Plain v) (hcell : Cell.ofValue position v = .ok cell) : column.Accepts cell := by
  unfold Column.Plain at h
  unfold Column.Accepts
  split at h
  · rcases h with rfl | ⟨s, rfl⟩
    · cases hcell
      exact .inl rfl
    · cases hcell
      exact .inr ⟨s, rfl⟩
  · rcases h with hname | rfl | ⟨n, rfl⟩
    · exact .inl hname
    · cases hcell
      exact .inr (.inl rfl)
    · simp only [Cell.ofValue] at hcell
      split at hcell
      · cases hcell
        exact .inr (.inr ⟨n, rfl⟩)
      · cases hcell
  · trivial

theorem Column.Accepts.withAffinity {column : Column} {cell : Cell} (h : column.Accepts cell) :
    column.Accepts (cell.withAffinity column.type.affinity) := by
  unfold Column.Accepts at h ⊢
  split at h
  · rename_i htype
    rw [htype]
    rcases h with rfl | ⟨s, rfl⟩
    · exact .inl rfl
    · exact .inr ⟨s, rfl⟩
  · rename_i htype
    rw [htype]
    rcases h with hname | rfl | ⟨n, rfl⟩
    · exact .inl hname
    · exact .inr (.inl rfl)
    · exact .inr (.inr ⟨n, rfl⟩)
  · trivial

/-- A cell of the sort a column is for, or null. -/
def Column.Fits (column : Column) (cell : Cell) : Prop := cell = .null ∨ column.type.Holds cell

theorem Column.Accepts.fits {column : Column} {cell : Cell} (h : column.Accepts cell)
    (hname : column.name ≠ "id") : column.Fits cell := by
  unfold Column.Fits
  unfold Column.Accepts at h
  split at h
  · rename_i htype
    rw [htype]
    exact h
  · rename_i htype
    rw [htype]
    rcases h with hid | h
    · exact absurd hid hname
    · exact h
  · rename_i htype
    rw [htype]
    exact Classical.em _

theorem Table.isNumbered_columns {t : Table} (h : t.isNumbered = true) :
    ∃ column rest, t.columns = column :: rest ∧ column.name = "id" ∧ column.type = .integer ∧
      ∀ other ∈ rest, other.name ≠ "id" := by
  cases t with
  | groups => exact ⟨_, _, rfl, rfl, rfl, by decide⟩
  | groupMembers => exact ⟨_, _, rfl, rfl, rfl, by decide⟩
  | users => exact absurd h (by decide)
  | authorities => exact absurd h (by decide)
  | groupAuthorities => exact absurd h (by decide)

theorem Table.name_ne_id {t : Table} (h : t.isNumbered = false) :
    ∀ column ∈ t.columns, column.name ≠ "id" := by
  cases t with
  | groups => exact absurd h (by decide)
  | groupMembers => exact absurd h (by decide)
  | users => decide
  | authorities => decide
  | groupAuthorities => decide

theorem Table.not_nullable (t : Table) : ∀ column ∈ t.columns, column.nullable = false := by
  cases t <;> decide

namespace Store

/-! ## The cells of what is given -/

theorem givenValues_cons {fields : Named} {column : Column} {rest : List Column}
    {given : List (Column × Value)} (h : givenValues fields (column :: rest) = .ok given) :
    ∃ v others, given = (column, v) :: others ∧ givenValue fields column = .ok v ∧
      givenValues fields rest = .ok others := by
  simp only [givenValues] at h
  split at h
  · cases h
  · rename_i v hv
    split at h
    · cases h
    · rename_i others hothers
      cases h
      exact ⟨v, others, rfl, hv, hothers⟩

theorem cellsOfGiven_cons {position : Nat} {given : Column × Value}
    {rest : List (Column × Value)} {cells : Record}
    (h : cellsOfGiven position (given :: rest) = .ok cells) :
    ∃ cell others next, cells = cell :: others ∧
      (cell = .null ∨ Cell.ofValue position given.2 = .ok cell) ∧
      cellsOfGiven next rest = .ok others := by
  simp only [cellsOfGiven] at h
  split at h
  · split at h
    · cases h
    · rename_i cell hcell
      split at h
      · cases h
      · rename_i others hothers
        cases h
        exact ⟨cell, others, _, rfl, .inr hcell, hothers⟩
  · split at h
    · cases h
    · rename_i others hothers
      cases h
      exact ⟨.null, others, _, rfl, .inl rfl, hothers⟩

/-- A flag becomes a number on its way; every other value is handed over as it is given. -/
theorem accepts_of_givenValue {fields : Named} {column : Column} {v : Value} {position : Nat}
    {cell : Cell} (hplain : column.Plain (valueOf fields column))
    (hv : givenValue fields column = .ok v) (hcell : Cell.ofValue position v = .ok cell) :
    column.Accepts cell := by
  by_cases htype : column.type = .boolean
  · simp only [Column.Accepts, htype]
  · simp only [givenValue, htype, if_false] at hv
    cases hv
    exact hplain.accepts hcell

theorem accepts_of_named {fields : Named} {columns : List Column} {position : Nat}
    {given : List (Column × Value)} {cells : Record}
    (hplain : ∀ column ∈ columns, column.Plain (valueOf fields column))
    (hgiven : givenValues fields columns = .ok given)
    (hcells : cellsOfGiven position given = .ok cells) :
    List.Forall₂ Column.Accepts columns cells := by
  induction columns generalizing position given cells with
  | nil =>
      cases hgiven
      cases hcells
      exact .nil
  | cons column rest ih =>
      obtain ⟨v, others, rfl, hv, hothers⟩ := givenValues_cons hgiven
      obtain ⟨cell, more, next, rfl, hcell, hmore⟩ := cellsOfGiven_cons hcells
      refine .cons ?_ (ih (fun other hother => hplain other (List.mem_cons_of_mem _ hother))
        hothers hmore)
      rcases hcell with rfl | hcell
      · exact Column.accepts_null column
      · exact accepts_of_givenValue (hplain column List.mem_cons_self) hv hcell

theorem accepts_of_values {columns : List Column} {values : List Value} {position : Nat}
    {cells : Record} (hplain : List.Forall₂ Column.Plain columns values)
    (hcells : cellsFrom position values = .ok cells) :
    List.Forall₂ Column.Accepts columns cells := by
  induction hplain generalizing position cells with
  | nil =>
      cases hcells
      exact .nil
  | @cons column v columns values hv _ ih =>
      simp only [cellsFrom] at hcells
      split at hcells
      · cases hcells
      · rename_i cell hcell
        split at hcells
        · cases hcells
        · rename_i others hothers
          cases hcells
          exact .cons (hv.accepts hcell) (ih hothers)

/-! ## One insertion -/

/-- The cells of a row under the affinities of its columns. -/
def shaped (columns : List Column) (given : Record) : Record :=
  List.zipWith (fun column cell => cell.withAffinity column.type.affinity) columns given

/-- What an insertion that succeeds does: the record it puts at the end is the row with its number,
nothing is missing from it, and no key of it is taken. -/
structure Inserted (tables : Tables) (t : Table) (given : Record) (tables' : Tables)
    (record : Record) : Prop where
  put : tables' = tables.put t (tables.rows t ++ [record])
  numbered : number t (tables.rows t) (shaped t.columns given) = .ok record
  complete : missing? t record = none
  fresh : taken? t (tables.rows t) record = none

theorem inserted_of_insert {tables tables' : Tables} {t : Table} {given record : Record}
    (h : insert tables t given = .ok (tables', record)) :
    Inserted tables t given tables' record := by
  simp only [insert] at h
  split at h
  · cases h
  · rename_i numbered hnumbered
    split at h
    · cases h
    · rename_i hcomplete
      split at h
      · cases h
      · rename_i hfresh
        cases h
        exact ⟨rfl, hnumbered, hcomplete, hfresh⟩

/-- A record whose cells are of the sorts its columns are for. -/
def Shaped (t : Table) (record : Record) : Prop :=
  List.Forall₂ (fun column cell => column.type.Holds cell) t.columns record

theorem accepts_shaped {columns : List Column} {given : Record}
    (h : List.Forall₂ Column.Accepts columns given) :
    List.Forall₂ Column.Accepts columns (shaped columns given) := by
  induction h with
  | nil => exact .nil
  | cons hcell _ ih => exact .cons hcell.withAffinity ih

theorem fits_of_accepts {columns : List Column} {cells : Record}
    (h : List.Forall₂ Column.Accepts columns cells)
    (hnames : ∀ column ∈ columns, column.name ≠ "id") :
    List.Forall₂ Column.Fits columns cells := by
  induction h with
  | nil => exact .nil
  | cons hcell _ ih =>
      exact .cons (hcell.fits (hnames _ List.mem_cons_self))
        (ih fun other hother => hnames other (List.mem_cons_of_mem _ hother))

theorem fits_of_number {t : Table} {records : List Record} {row record : Record}
    (h : number t records row = .ok record) (hrow : List.Forall₂ Column.Accepts t.columns row) :
    List.Forall₂ Column.Fits t.columns record := by
  unfold number at h
  split at h
  · rename_i hnumbered
    obtain ⟨column, rest, hcolumns, -, htype, hnames⟩ := Table.isNumbered_columns hnumbered
    rw [hcolumns] at hrow ⊢
    have hint : ∀ n, column.Fits (.int n) := by
      intro n
      refine .inr ?_
      rw [htype]
      exact ⟨n, rfl⟩
    cases hrow with
    | cons _ hcells =>
        split at h
        · rename_i heq
          cases heq
          cases h
          exact .cons (hint _) (fits_of_accepts hcells hnames)
        · rename_i heq
          cases heq
          cases h
          exact .cons (hint _) (fits_of_accepts hcells hnames)
        · cases h
  · rename_i hnumbered
    cases h
    exact fits_of_accepts hrow (Table.name_ne_id (Bool.eq_false_iff.mpr hnumbered))

theorem shaped_of_complete {t : Table} {record : Record} (h : missing? t record = none)
    (hfits : List.Forall₂ Column.Fits t.columns record) : Shaped t record := by
  obtain ⟨hlength, hzip⟩ := List.forall₂_iff_zip.mp hfits
  refine List.forall₂_iff_zip.mpr ⟨hlength, ?_⟩
  intro column cell hmem
  have hnull := List.find?_eq_none.mp (Option.map_eq_none_iff.mp h) _ hmem
  have hcolumn : column.nullable = false :=
    t.not_nullable column (List.of_mem_zip hmem).1
  rcases hzip hmem with rfl | hholds
  · refine absurd ?_ hnull
    show (!column.nullable && Cell.null == Cell.null) = true
    rw [hcolumn]
    rfl
  · exact hholds

theorem agreeAt_of_cellsAt_eq {positions : List Nat} {a b : Record}
    (h : cellsAt positions a = cellsAt positions b) : agreeAt positions a b = true := by
  unfold agreeAt
  rw [h, List.all_eq_true]
  rintro ⟨c, d⟩ hmem
  obtain rfl : c = d := by
    obtain ⟨i, hi, heq⟩ := List.mem_iff_getElem.mp hmem
    rw [List.getElem_zip] at heq
    cases heq
    rfl
  cases c with
  | none => rfl
  | some cell =>
      show (Cell.compare cell cell == .eq) = true
      rw [Cell.compare_self]
      rfl

theorem ne_of_fresh {t : Table} {records : List Record} {record : Record}
    (h : taken? t records record = none) {key : List Nat} (hkey : key ∈ t.keys) :
    ∀ other ∈ records, cellsAt key other ≠ cellsAt key record := by
  intro other hother heq
  have hnone := List.find?_eq_none.mp h key hkey
  exact hnone (List.any_eq_true.mpr ⟨other, hother, agreeAt_of_cellsAt_eq heq⟩)

/-! ## The invariant -/

/-- Tables as plain insertions make them. -/
structure Tables.Plain (tables : Tables) : Prop where
  shaped : ∀ t, ∀ record ∈ tables.rows t, Shaped t record
  distinct : ∀ t, ∀ key ∈ t.keys, ((tables.rows t).map (cellsAt key)).Nodup

def Tables.Grows (tables tables' : Tables) : Prop := ∀ t, tables.rows t <+: tables'.rows t

theorem Tables.Grows.refl (tables : Tables) : tables.Grows tables := fun _ => List.prefix_rfl

theorem Tables.Grows.trans {a b c : Tables} (h : a.Grows b) (h' : b.Grows c) : a.Grows c :=
  fun t => (h t).trans (h' t)

theorem Tables.Grows.mem {tables tables' : Tables} (h : tables.Grows tables') {t : Table}
    {record : Record} (hmem : record ∈ tables.rows t) : record ∈ tables'.rows t :=
  (h t).subset hmem

theorem Tables.plain_empty : Tables.Plain {} where
  shaped t record hmem := by
    cases t <;> cases hmem
  distinct t key _ := by
    cases t <;> exact List.nodup_nil

theorem Inserted.grows {tables tables' : Tables} {t : Table} {given record : Record}
    (h : Inserted tables t given tables' record) : tables.Grows tables' := by
  intro t'
  rw [h.put, Tables.rows_put]
  split
  · rename_i heq
    rw [heq]
    exact List.prefix_append _ _
  · exact List.prefix_rfl

/-- The invariant is kept by an insertion of cells that stand for plain values. -/
theorem Inserted.plain {tables tables' : Tables} {t : Table} {given record : Record}
    (h : Inserted tables t given tables' record) (hplain : tables.Plain)
    (hgiven : List.Forall₂ Column.Accepts t.columns given) : tables'.Plain := by
  have hrecord : Shaped t record :=
    shaped_of_complete h.complete (fits_of_number h.numbered (accepts_shaped hgiven))
  constructor
  · intro t' other hother
    rw [h.put, Tables.rows_put] at hother
    split at hother
    · rename_i heq
      subst heq
      rcases List.mem_append.mp hother with hold | hnew
      · exact hplain.shaped t' other hold
      · rw [List.mem_singleton.mp hnew]
        exact hrecord
    · exact hplain.shaped t' other hother
  · intro t' key hkey
    rw [h.put, Tables.rows_put]
    split
    · rename_i heq
      subst heq
      rw [List.map_append]
      refine List.nodup_append.mpr ⟨hplain.distinct t' key hkey, List.nodup_singleton _, ?_⟩
      intro a ha b hb
      obtain ⟨other, hother, rfl⟩ := List.mem_map.mp ha
      rw [List.map_singleton, List.mem_singleton] at hb
      rw [hb]
      exact ne_of_fresh h.fresh hkey other hother
    · exact hplain.distinct t' key hkey

/-! ## Steps -/

/-- An insertion of what is plain: a row given by name, or a row of the users given by position. -/
def Step.Plain : Step → Prop
  | .add t fields => ∀ column ∈ t.columns, column.Plain (valueOf fields column)
  | .addRow t row => t = .users ∧ ∀ pair ∈ t.columns.zip row, pair.1.Plain pair.2
  | _ => False

/-- What a step makes of a store; it does not depend on how lookups are made. -/
def Step.onDatabase (step : Step) (database : Database) : Database :=
  (Session.step ⟨database, {}, none⟩ step).1.database

theorem insertNamed_eq_ok {tables tables' : Tables} {t : Table} {fields : Named}
    {record : Record} (h : insertNamed (some tables) t fields = .ok (tables', record)) :
    ∃ given cells, givenValues fields t.columns = .ok given ∧ cellsOfGiven 1 given = .ok cells ∧
      insert tables t cells = .ok (tables', record) := by
  unfold insertNamed at h
  split at h
  · cases h
  · rename_i given hgiven
    unfold handedOver at hgiven
    split at hgiven
    · cases hgiven
    · simp only [insertInto] at h
      cases hcells : cellsOfGiven 1 given with
      | error fault =>
          rw [hcells] at h
          cases h
      | ok cells =>
          rw [hcells] at h
          exact ⟨given, cells, hgiven, hcells, h⟩

theorem insertValues_eq_ok {tables tables' : Tables} {t : Table} {row : List Value}
    {record : Record} (h : insertValues (some tables) t row = .ok (tables', record)) :
    ∃ cells, rowPlaces.length ≤ row.length ∧
      cellsFrom 1 (row.take rowPlaces.length) = .ok cells ∧
      insert tables t cells = .ok (tables', record) := by
  unfold insertValues at h
  split at h
  · cases h
  · rename_i values hvalues
    unfold placedValues at hvalues
    split at hvalues
    · cases hvalues
    · rename_i hplaces
      cases hvalues
      simp only [insertInto] at h
      cases hcells : cellsFrom 1 (row.take rowPlaces.length) with
      | error fault =>
          rw [hcells] at h
          cases h
      | ok cells =>
          rw [hcells] at h
          exact ⟨cells, List.getElem?_eq_none_iff.mp hplaces, rfl, h⟩

theorem plain_values {row : List Value} (hlength : rowPlaces.length ≤ row.length)
    (h : ∀ pair ∈ Table.users.columns.zip row, pair.1.Plain pair.2) :
    List.Forall₂ Column.Plain Table.users.columns (row.take rowPlaces.length) := by
  refine List.forall₂_iff_zip.mpr ⟨?_, ?_⟩
  · rw [List.length_take, Nat.min_eq_left hlength]
    rfl
  · intro column v hmem
    have hzip : Table.users.columns.zip (row.take rowPlaces.length) =
        (Table.users.columns.zip row).take rowPlaces.length := by
      unfold List.zip
      rw [List.take_zipWith]
      rfl
    rw [hzip] at hmem
    exact h _ (List.mem_of_mem_take hmem)

/-- The step lemma: an insertion keeps the tables plain and what they hold, whether it succeeds or
fails. -/
theorem Step.Plain.onDatabase {step : Step} (h : step.Plain) {tables : Tables}
    (hplain : tables.Plain) :
    ∃ tables', step.onDatabase (some tables) = some tables' ∧ tables'.Plain ∧
      tables.Grows tables' := by
  cases step with
  | add t fields =>
      cases hinsert : insertNamed (some tables) t fields with
      | error fault =>
          refine ⟨tables, ?_, hplain, Tables.Grows.refl tables⟩
          simp only [Step.onDatabase, Session.step, hinsert, Session.afterInsert]
      | ok result =>
          obtain ⟨tables', record⟩ := result
          obtain ⟨given, cells, hgiven, hcells, hinserted⟩ := insertNamed_eq_ok hinsert
          have hinserted := inserted_of_insert hinserted
          refine ⟨tables', ?_, ?_, hinserted.grows⟩
          · simp only [Step.onDatabase, Session.step, hinsert, Session.afterInsert]
          · exact hinserted.plain hplain (accepts_of_named h hgiven hcells)
  | addRow t row =>
      obtain ⟨rfl, hrow⟩ := h
      cases hinsert : insertValues (some tables) .users row with
      | error fault =>
          refine ⟨tables, ?_, hplain, Tables.Grows.refl tables⟩
          simp only [Step.onDatabase, Session.step, hinsert, Session.afterInsert]
      | ok result =>
          obtain ⟨tables', record⟩ := result
          obtain ⟨cells, hlength, hcells, hinserted⟩ := insertValues_eq_ok hinsert
          have hinserted := inserted_of_insert hinserted
          refine ⟨tables', ?_, ?_, hinserted.grows⟩
          · simp only [Step.onDatabase, Session.step, hinsert, Session.afterInsert]
          · exact hinserted.plain hplain (accepts_of_values (plain_values hlength hrow) hcells)
  | resolve username => exact h.elim
  | gather usernames => exact h.elim
  | configure changes => exact h.elim
  | create => exact h.elim
  | execute sql args => exact h.elim

/-! ## Runs -/

theorem Session.step_of_plain {step : Step} (h : step.Plain) (session : Session) :
    (session.step step).1 = { session with database := step.onDatabase session.database } := by
  cases step with
  | add t fields =>
      simp only [Step.onDatabase, Session.step]
      cases insertNamed session.database t fields with
      | error fault => rfl
      | ok result => rfl
  | addRow t row =>
      simp only [Step.onDatabase, Session.step]
      cases insertValues session.database t row with
      | error fault => rfl
      | ok result => rfl
  | resolve username => exact h.elim
  | gather usernames => exact h.elim
  | configure changes => exact h.elim
  | create => exact h.elim
  | execute sql args => exact h.elim

/-- The run lemma: whatever insertions are made in a session, its tables stay plain and only
grow. -/
theorem Session.run_plain {steps : List Step} (h : ∀ step ∈ steps, step.Plain) {session : Session}
    {tables : Tables} (hdatabase : session.database = some tables) (hplain : tables.Plain) :
    ∃ tables', (session.run steps).1 = { session with database := some tables' } ∧
      tables'.Plain ∧ tables.Grows tables' := by
  induction steps generalizing session tables with
  | nil =>
      refine ⟨tables, ?_, hplain, Tables.Grows.refl tables⟩
      rw [← hdatabase]
      rfl
  | cons step rest ih =>
      have hstep := h step List.mem_cons_self
      obtain ⟨middle, hmiddle, hplain', hgrows⟩ := hstep.onDatabase hplain
      have hnext := Session.step_of_plain hstep session
      rw [hdatabase, hmiddle] at hnext
      have hsession : (session.step step).1.database = some middle := by
        rw [hnext]
      obtain ⟨tables', hrun, hplain'', hgrows'⟩ :=
        ih (fun other hother => h other (List.mem_cons_of_mem _ hother)) hsession hplain'
      refine ⟨tables', ?_, hplain'', hgrows.trans hgrows'⟩
      show ((session.step step).1.run rest).1 = _
      rw [hrun, hnext]

end Store
end Entitlement
