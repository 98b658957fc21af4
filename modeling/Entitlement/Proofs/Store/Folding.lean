import Entitlement.Proofs.Store.DefaultQueries
import Entitlement.Proofs.Store.Soundness

/-!
# `Entitlement.Proofs.Store.Folding` — users looked up without regard to case

A users query may compare usernames in small letters:

    … WHERE lower(username) = lower(:username)

It answers with the users whose names are the username but for the case of ASCII letters, in the order
in which they were put in.  So its answer depends on the username through `folded` alone
(`answer_folding_congr`).

| | |
| :-- | :-- |
| the query, as it is written and as it is understood | `foldingUsers`, `foldingWritten`, `foldingSelection` |
| the users it answers with | `Tables.alike`, of a username |
| the first of them | `FirstAlike` |
| names that are texts | `Step.NamesInText`, of what is given; `Tables.NamedInText`, of what is kept |

The column of the usernames turns numbers into texts and takes no null, so a name that is kept is a
text unless it was given as bytes.  Of everything else that is given nothing is assumed.
-/
namespace Entitlement.Store

open Select Lookup

/-! ## The query -/

/-- The users query that compares names in small letters. -/
def foldingUsers : String :=
  "SELECT username, password, enabled FROM users WHERE lower(username) = lower(:username)"

/-- A text with its ASCII capitals in small letters. -/
def folded (s : String) : String := String.ofList (s.toList.map Char.toLower)

theorem asking_foldingUsers :
    Query.Asking foldingUsers
      "SELECT username, password, enabled FROM users WHERE lower(username) = lower(".toList
      "username".toList ")".toList where
  text := by decide +kernel
  inert_before := rfl
  free := rfl
  named := List.cons_ne_nil _ _
  word := rfl
  inert_name := rfl
  open_name := rfl
  inert_behind := rfl
  ends := by
    intro c hc
    cases hc
    decide

theorem statement_foldingUsers :
    Query.statement foldingUsers =
      "SELECT username, password, enabled FROM users WHERE lower(username) = lower(?)" :=
  asking_foldingUsers.statement

def foldingWritten : Select.Query where
  outputs :=
    [.expr (.name none "username" false) none "username",
      .expr (.name none "password" false) none "password",
      .expr (.name none "enabled" false) none "enabled"]
  sources := [("users", none)]
  filter := some (.binary .eq (.call "lower" [.name none "username" false])
    (.call "lower" [.place 1]))
  order := []

def foldingSelection : Selection where
  columns :=
    [⟨"username", .column 0 0 .text⟩, ⟨"password", .column 0 1 .text⟩,
      ⟨"enabled", .column 0 2 .numeric⟩]
  sources := [.users]
  filter := some (.binary .eq (.function .lower (.column 0 0 .text))
    (.function .lower (.place 1)))
  order := []

theorem understanding_folding :
    Understanding "SELECT username, password, enabled FROM users WHERE lower(username) = lower(?)"
      foldingWritten foldingSelection where
  noNull := by cbv
  noLeading := by cbv
  noTail := by cbv
  read := by cbv
  select := rfl
  places := by cbv
  noText := by decide

/-! ## The answer -/

theorem rows_of_single {selection : Selection} {t : Table} (hsources : selection.sources = [t])
    (horder : selection.order = []) (tables : Tables) (args : List Cell) :
    selection.rows tables args =
      ((tables.rows t).filter fun record => meets args selection.filter [record]).map
        fun record => selection.columns.map fun column => column.term.value args [record] := by
  have hcombinations : combinations tables [t] = (tables.rows t).map ([·]) := by
    simp only [combinations, List.map_cons, List.map_nil]
    exact List.flatMap_pure_eq_map _ _
  unfold Selection.rows
  rw [hsources, horder, hcombinations]
  show (List.filter _ _).map _ = _
  rw [List.filter_map, List.map_map]
  rfl

def meetsFolding (u : String) (record : Record) : Bool :=
  meets [.text u] foldingSelection.filter [record]

theorem meetsFolding_eq (u : String) (record : Record) :
    meetsFolding u record =
      (compareAs (· == .eq) .none (TextFunction.lower.value ((record[0]?).getD .null))
        (TextFunction.lower.value (.text u))).isTrue :=
  rfl

theorem meetsFolding_congr {u v : String} (h : folded u = folded v) :
    meetsFolding u = meetsFolding v := by
  have hvalue : TextFunction.lower.value (.text u) = TextFunction.lower.value (.text v) :=
    congrArg Cell.text h
  funext record
  rw [meetsFolding_eq, meetsFolding_eq, hvalue]

theorem meetsFolding_text (u s : String) (others : Record) :
    meetsFolding u (.text s :: others) = decide (folded s = folded u) := by
  show (compareAs (· == .eq) .text (.text (folded s)) (.text (folded u))).isTrue = _
  rw [compareAs_text, isTrue_truth]

/-- The users that the query answers with, in the order in which they were put in. -/
def Tables.alike (tables : Tables) (u : String) : List Record :=
  (tables.rows .users).filter (meetsFolding u)

def userRow (record : Record) : Row :=
  [((record[0]?).getD Cell.null).toValue, ((record[1]?).getD Cell.null).toValue,
    ((record[2]?).getD Cell.null).toValue]

theorem answer_folding (tables : Tables) (u : String) :
    Database.executor (some tables) (lookingUp foldingUsers u) =
      .ok ((tables.alike u).map userRow) := by
  rw [executor_of_understanding asking_foldingUsers statement_foldingUsers understanding_folding,
    rows_of_single rfl rfl, List.map_map]
  rfl

/-- Usernames that are the same in small letters have the same answer, on whatever tables. -/
theorem answer_folding_congr {u v : String} (h : folded u = folded v) (tables : Tables) :
    Database.executor (some tables) (lookingUp foldingUsers u) =
      Database.executor (some tables) (lookingUp foldingUsers v) := by
  rw [answer_folding, answer_folding, Tables.alike, Tables.alike, meetsFolding_congr h]

/-! ## Names that are texts -/

def Step.NamesInText : Step → Prop
  | .add .users fields => ∀ bs, fields.lookup "username" ≠ some (.bytes bs)
  | .addRow .users row => ∀ bs, row[0]? ≠ some (.bytes bs)
  | _ => True

def Tables.NamedInText (tables : Tables) : Prop :=
  ∀ record ∈ tables.rows .users, ∃ s, record[0]? = some (.text s)

theorem eq_bytes_of_blob {position : Nat} {v : Value} {bs : List UInt8}
    (h : Cell.ofValue position v = .ok (.blob bs)) : v = .bytes bs := by
  cases v with
  | bytes bs' =>
      cases h
      rfl
  | int n =>
      simp only [Cell.ofValue] at h
      split at h <;> cases h
  | float x =>
      simp only [Cell.ofValue] at h
      split at h <;> cases h
  | null | bool | text | list | object => cases h

theorem Step.Gives.name_of_users {step : Step} {given : Record} (h : step.Gives .users given)
    (hnames : step.NamesInText) : ∃ cell, given[0]? = some cell ∧ ∀ bs, cell ≠ .blob bs := by
  cases h with
  | @named _ fields values _ hgiven hcells =>
      simp only [Table.columns] at hgiven
      obtain ⟨v, others, rfl, hv, -⟩ := givenValues_cons hgiven
      obtain ⟨cell, more, next, rfl, hcell, -⟩ := cellsOfGiven_cons hcells
      refine ⟨cell, rfl, ?_⟩
      rintro bs rfl
      rcases hcell with hnull | hcell
      · cases hnull
      · cases hv
        have hbytes : (fields.lookup "username").getD .null = .bytes bs := eq_bytes_of_blob hcell
        cases hlookup : fields.lookup "username" with
        | none =>
            rw [hlookup] at hbytes
            cases hbytes
        | some v =>
            rw [hlookup] at hbytes
            exact hnames bs (hlookup.trans (congrArg some hbytes))
  | @placed _ row _ hlength hcells =>
      cases row with
      | nil => exact absurd hlength (by decide)
      | cons v rest =>
          simp only [rowPlaces, List.length_cons, List.take_succ_cons, cellsFrom] at hcells
          split at hcells
          · cases hcells
          · rename_i cell hcell
            split at hcells
            · cases hcells
            · cases hcells
              refine ⟨cell, rfl, ?_⟩
              rintro bs rfl
              exact hnames bs (congrArg some (eq_bytes_of_blob hcell))

theorem Inserted.name_of_users {tables tables' : Tables} {given record : Record}
    (h : Inserted tables .users given tables' record) (hwhole : Whole .users record)
    {cell : Cell} (hcell : given[0]? = some cell) (hbytes : ∀ bs, cell ≠ .blob bs) :
    ∃ s, record[0]? = some (.text s) := by
  have hrecord : record = shaped Table.users.columns given := (Except.ok.inj h.numbered).symm
  have hfirst : record[0]? = some cell.numberText := by
    rw [hrecord, shaped, List.getElem?_zipWith, hcell]
    rfl
  cases cell with
  | null => exact absurd rfl (hwhole.cells _ (List.mem_of_getElem? hfirst))
  | int n => exact ⟨_, hfirst⟩
  | real x => exact ⟨_, hfirst⟩
  | text s => exact ⟨s, hfirst⟩
  | blob bs => exact absurd rfl (hbytes bs)

theorem Session.step_namedInText {session : Session} {tables : Tables}
    (hdatabase : session.database = some tables) (hsound : tables.Sound)
    (hnamed : tables.NamedInText) {step : Step} (hstep : step.NamesInText) :
    ∃ tables', (session.step step).1.database = some tables' ∧ tables'.Sound ∧
      tables'.NamedInText := by
  obtain ⟨tables', hafter, hsound'⟩ := Session.step_tables hdatabase hsound step
  refine ⟨tables', hafter, hsound', ?_⟩
  have hmoves := session.moves_step step
  generalize session.step step = after at hmoves hafter
  have hsame : some tables = some tables' → tables'.NamedInText := by
    rintro ⟨⟩
    exact hnamed
  cases hmoves with
  | fails => exact hsame (hdatabase.symm.trans hafter)
  | reads => exact hsame (hdatabase.symm.trans hafter)
  | configures => exact hsame (hdatabase.symm.trans hafter)
  | creates =>
      refine hsame (Eq.trans ?_ hafter)
      rw [hdatabase]
      rfl
  | @inserts _ t given record before _ hbefore hgives hinserted =>
      cases hafter
      obtain rfl : before = tables := Option.some.inj (hbefore.symm.trans hdatabase)
      have hrows : ∀ t, ∀ other ∈ tables'.rows t, t = .users →
          ∃ s, other[0]? = some (.text s) := by
        refine hinserted.forall_rows ?_ ?_
        · rintro t other hother rfl
          exact hnamed other hother
        · rintro rfl
          obtain ⟨cell, hcell, hbytes⟩ := hgives.name_of_users hstep
          have hrecord : record ∈ tables'.rows .users := by
            rw [hinserted.put, Tables.rows_put, if_pos rfl]
            exact List.mem_append_right _ List.mem_cons_self
          exact hinserted.name_of_users (hsound'.whole .users record hrecord) hcell hbytes
      exact fun record hrecord => hrows .users record hrecord rfl

/-- The run lemma. -/
theorem Session.run_namedInText {session : Session} {tables : Tables}
    (hdatabase : session.database = some tables) (hsound : tables.Sound)
    (hnamed : tables.NamedInText) {steps : List Step} (hsteps : ∀ step ∈ steps, step.NamesInText) :
    ∃ tables', (session.run steps).1.database = some tables' ∧ tables'.Sound ∧
      tables'.NamedInText := by
  induction steps generalizing session tables with
  | nil => exact ⟨tables, hdatabase, hsound, hnamed⟩
  | cons step rest ih =>
      obtain ⟨middle, hmiddle, hsound', hnamed'⟩ :=
        Session.step_namedInText hdatabase hsound hnamed (hsteps step List.mem_cons_self)
      exact ih hmiddle hsound' hnamed' fun other hother =>
        hsteps other (List.mem_cons_of_mem _ hother)

/-! ## The first of them -/

/-- A user is the first one, in the order in which users were put in, whose name is the username but
for the case. -/
structure FirstAlike (tables : Tables) (u s : String) (password flag : Cell) : Prop where
  alike : folded s = folded u
  first : ∃ before after, tables.rows .users = before ++ [.text s, password, flag] :: after ∧
    ∀ record ∈ before, ∀ other, record[0]? = some (.text other) → folded other ≠ folded u

theorem Tables.Sound.user {tables : Tables} (h : tables.Sound) (hnamed : tables.NamedInText)
    {record : Record} (hrecord : record ∈ tables.rows .users) :
    ∃ s password flag, record = [.text s, password, flag] := by
  obtain ⟨s, hs⟩ := hnamed record hrecord
  have hlength := (h.whole .users record hrecord).length
  match record, hs, hlength with
  | [_, password, flag], hs, _ =>
      cases hs
      exact ⟨s, password, flag, rfl⟩

theorem alike_cases {tables : Tables} (hsound : tables.Sound) (hnamed : tables.NamedInText)
    (u : String) :
    (tables.alike u = [] ∧ ∀ record ∈ tables.rows .users, ∀ s, record[0]? = some (.text s) →
      folded s ≠ folded u) ∨
    ∃ s password flag others, tables.alike u = [.text s, password, flag] :: others ∧
      FirstAlike tables u s password flag := by
  have hmeets : ∀ record ∈ tables.rows .users, ∀ s, record[0]? = some (.text s) →
      meetsFolding u record = decide (folded s = folded u) := by
    intro record hrecord s hs
    obtain ⟨s', password, flag, rfl⟩ := hsound.user hnamed hrecord
    cases hs
    exact meetsFolding_text u s _
  have hunmet : ∀ record ∈ tables.rows .users, ¬meetsFolding u record = true →
      ∀ s, record[0]? = some (.text s) → folded s ≠ folded u := by
    intro record hrecord hnot s hs heq
    rw [hmeets record hrecord s hs] at hnot
    exact hnot (decide_eq_true heq)
  cases hfound : tables.alike u with
  | nil =>
      left
      refine ⟨rfl, fun record hrecord => hunmet record hrecord ?_⟩
      exact List.filter_eq_nil_iff.mp hfound record hrecord
  | cons record others =>
      right
      obtain ⟨before, after, hrows, hbefore, hmet, -⟩ := List.filter_eq_cons_iff.mp hfound
      have hmem : record ∈ tables.rows .users := by
        rw [hrows]
        exact List.mem_append_right _ List.mem_cons_self
      obtain ⟨s, password, flag, rfl⟩ := hsound.user hnamed hmem
      refine ⟨s, password, flag, others, rfl, ?_, before, after, hrows, ?_⟩
      · rw [hmeets _ hmem s rfl] at hmet
        exact of_decide_eq_true hmet
      · intro other hother
        refine hunmet other ?_ (hbefore other hother)
        rw [hrows]
        exact List.mem_append_left _ hother

end Entitlement.Store
