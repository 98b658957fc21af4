import Entitlement.Proofs.Lookup.Rules
import Entitlement.Proofs.Value.Text

/-!
# `Entitlement.Proofs.Lookup.Loading` — all rows of an answer, or the first refusal

A loader puts one query and reads the rows of the answer.  It comes back with one record for each
row, in the order of the rows, or with the refusal of the first row that is refused; what stands
behind that row is not looked at.

What a row is worth is said here without the reading of it, by its columns alone.

| | a row that makes a record | a row that is refused, and for what |
| :-- | :-- | :-- |
| users | `UserRow` | `UserRefusal`: too short, incomplete, without a flag, in this order |
| authorities | `AuthorityRow` | `AuthorityRefusal`: too short, without a name |

The order of the refusals shows in a row of two columns.  If its name or its password is missing it is
incomplete, and only if both are there it is too short.

Missing means null, and for a name the empty text as well (`Missing`).  Zero, false, the empty byte
sequence and the empty list look empty and are names: each has a text, and the text is not empty.

Nothing is said of a query that fails; there are no rows then, and the failure passes as it is.
-/
namespace Entitlement.Lookup

variable {α : Type}

/-! ## What is missing -/

/-- Nothing is named by null and by the empty text. -/
def Missing (v : Value) : Prop := v = .null ∨ v = .text ""

theorem namesNothing_iff {v : Value} : namesNothing v = true ↔ Missing v := by
  constructor
  · intro h
    cases v with
    | null => exact .inl rfl
    | text s => exact .inr (congrArg Value.text (String.isEmpty_iff.mp h))
    | bool | int | float | bytes | list | object => cases h
  · rintro (rfl | rfl)
    · rfl
    · rfl

theorem isNull_iff {v : Value} : isNull v = true ↔ v = .null := by
  constructor
  · intro h
    cases v with
    | null => rfl
    | text | bool | int | float | bytes | list | object => cases h
  · rintro rfl
    rfl

theorem toText_ne_empty {v : Value} (h : ¬Missing v) : v.toText ≠ "" := by
  intro hempty
  exact h (.inr (Value.toText_eq_empty_iff.mp hempty))

/-! ## User rows -/

/-- A row that makes a user record: a name, a password that is not null, a flag, and whatever
follows. -/
inductive UserRow : Row → UserRecord → Prop
  | mk {name password flag : Value} {more : Row} :
      ¬Missing name → password ≠ .null →
      UserRow (name :: password :: flag :: more) ⟨name.toText, password, flag.flag⟩

/-- A row that is refused as a user row, and for what. -/
inductive UserRefusal : Row → Fault → Prop
  | tooShort {row : Row} : row.length < 2 → UserRefusal row .rowTooShort
  | incomplete {name password : Value} {more : Row} :
      Missing name ∨ password = .null →
      UserRefusal (name :: password :: more) .incompleteUser
  | flagless {name password : Value} :
      ¬Missing name → password ≠ .null → UserRefusal [name, password] .rowTooShort

theorem UserRow.readUser_eq {row : Row} {record : UserRecord} (h : UserRow row record) :
    readUser row = .ok record := by
  cases h with
  | mk hname hpassword =>
      have hname' := Bool.eq_false_iff.mpr (mt namesNothing_iff.mp hname)
      have hpassword' := Bool.eq_false_iff.mpr (mt isNull_iff.mp hpassword)
      simp only [readUser, List.getElem?_cons_zero, List.getElem?_cons_succ, hname', hpassword',
        Bool.or_self, Bool.false_eq_true, if_false]

theorem UserRefusal.readUser_eq {row : Row} {fault : Fault} (h : UserRefusal row fault) :
    readUser row = .error fault := by
  cases h with
  | tooShort hlength =>
      match row, hlength with
      | [], _ => rfl
      | [_], _ => rfl
  | @incomplete name password more hmissing =>
      have hrefused : (namesNothing name || isNull password) = true := by
        rw [Bool.or_eq_true, namesNothing_iff, isNull_iff]
        exact hmissing
      simp only [readUser, List.getElem?_cons_zero, List.getElem?_cons_succ, hrefused, if_true]
  | flagless hname hpassword =>
      have hname' := Bool.eq_false_iff.mpr (mt namesNothing_iff.mp hname)
      have hpassword' := Bool.eq_false_iff.mpr (mt isNull_iff.mp hpassword)
      simp only [readUser, List.getElem?_cons_zero, List.getElem?_cons_succ, hname', hpassword',
        Bool.or_self, Bool.false_eq_true, if_false, List.getElem?_nil]

theorem userRow_or_refusal (row : Row) :
    (∃ record, UserRow row record) ∨ ∃ fault, UserRefusal row fault := by
  match row with
  | [] => exact .inr ⟨_, .tooShort (by decide)⟩
  | [_] => exact .inr ⟨_, .tooShort Nat.one_lt_two⟩
  | name :: password :: more =>
      by_cases hmissing : Missing name ∨ password = .null
      · exact .inr ⟨_, .incomplete hmissing⟩
      · obtain ⟨hname, hpassword⟩ := not_or.mp hmissing
        cases more with
        | nil => exact .inr ⟨_, .flagless hname hpassword⟩
        | cons flag more => exact .inl ⟨_, .mk hname hpassword⟩

/-! ## Authority rows -/

/-- A row that makes an authority: a name in the column of the source. -/
inductive AuthorityRow (source : Source) (pre : String) : Row → Authority → Prop
  | mk {row : Row} {name : Value} :
      row[source.column]? = some name → ¬Missing name →
      AuthorityRow source pre row ⟨pre ++ name.toText⟩

/-- A row that is refused as an authority row, and for what. -/
inductive AuthorityRefusal (source : Source) : Row → Fault → Prop
  | tooShort {row : Row} : row.length ≤ source.column → AuthorityRefusal source row .rowTooShort
  | unnamed {row : Row} {name : Value} :
      row[source.column]? = some name → Missing name →
      AuthorityRefusal source row (.unnamedAuthority (source.column + 1))

section Authorities

variable {source : Source} {pre : String} {row : Row}

theorem AuthorityRow.readAuthority_eq {authority : Authority}
    (h : AuthorityRow source pre row authority) :
    readAuthority source (.text pre) row = .ok authority := by
  cases h with
  | mk hrow hname =>
      have hname' := Bool.eq_false_iff.mpr (mt namesNothing_iff.mp hname)
      simp only [readAuthority, hrow, hname', Bool.false_eq_true, if_false, behind, Except.map]

theorem AuthorityRefusal.readAuthority_eq {fault : Fault} (h : AuthorityRefusal source row fault) :
    readAuthority source (.text pre) row = .error fault := by
  cases h with
  | tooShort hlength => simp only [readAuthority, List.getElem?_eq_none hlength]
  | unnamed hrow hname => simp only [readAuthority, hrow, namesNothing_iff.mpr hname, if_true]

theorem authorityRow_or_refusal (source : Source) (pre : String) (row : Row) :
    (∃ authority, AuthorityRow source pre row authority) ∨
      ∃ fault, AuthorityRefusal source row fault := by
  cases hrow : row[source.column]? with
  | none => exact .inr ⟨_, .tooShort (List.getElem?_eq_none_iff.mp hrow)⟩
  | some name =>
      by_cases hname : Missing name
      · exact .inr ⟨_, .unnamed hrow hname⟩
      · exact .inl ⟨_, .mk hrow hname⟩

end Authorities

/-! ## Loading -/

/-- A reading of rows that two relations describe: what a row makes, and for what it is refused. -/
structure Describes (read : Row → Except Fault α) (makes : Row → α → Prop)
    (refuses : Row → Fault → Prop) : Prop where
  ok : ∀ {row record}, makes row record → read row = .ok record
  error : ∀ {row fault}, refuses row fault → read row = .error fault
  total : ∀ row, (∃ record, makes row record) ∨ ∃ fault, refuses row fault

theorem describes_readUser : Describes readUser UserRow UserRefusal where
  ok h := h.readUser_eq
  error h := h.readUser_eq
  total := userRow_or_refusal

theorem describes_readAuthority (source : Source) (pre : String) :
    Describes (readAuthority source (.text pre)) (AuthorityRow source pre)
      (AuthorityRefusal source) where
  ok h := h.readAuthority_eq
  error h := h.readAuthority_eq
  total := authorityRow_or_refusal source pre

section Describes

variable {read : Row → Except Fault α} {makes : Row → α → Prop} {refuses : Row → Fault → Prop}
  {row : Row}

theorem Describes.ok_iff (h : Describes read makes refuses) {record : α} :
    read row = .ok record ↔ makes row record := by
  refine ⟨?_, h.ok⟩
  intro hread
  rcases h.total row with ⟨record', hmakes⟩ | ⟨fault, hrefuses⟩
  · cases hread.symm.trans (h.ok hmakes)
    exact hmakes
  · cases hread.symm.trans (h.error hrefuses)

theorem Describes.error_iff (h : Describes read makes refuses) {fault : Fault} :
    read row = .error fault ↔ refuses row fault := by
  refine ⟨?_, h.error⟩
  intro hread
  rcases h.total row with ⟨record, hmakes⟩ | ⟨fault', hrefuses⟩
  · cases hread.symm.trans (h.ok hmakes)
  · cases hread.symm.trans (h.error hrefuses)
    exact hrefuses

end Describes

/-- What a loader makes of rows, in clauses: what a row makes and for what it is refused being given.
-/
structure AllOrNothing (makes : Row → α → Prop) (refuses : Row → Fault → Prop) (rows : List Row)
    (outcome : Except Fault (List α)) : Prop where
  /-- A row makes one record, and is refused for nothing, or it is refused for one thing, and makes
  none. -/
  decided : ∀ row, ((∃! record, makes row record) ∧ ∀ fault, ¬refuses row fault) ∨
    (∃! fault, refuses row fault) ∧ ∀ record, ¬makes row record
  /-- The loader succeeds if every row makes a record, and with just these records in this order. -/
  all : ∀ records, outcome = .ok records ↔ List.Forall₂ makes rows records
  /-- It fails by the first row that is refused, with the refusal of that row, whatever follows. -/
  nothing : ∀ fault, outcome = .error fault ↔ ∃ before bad after, rows = before ++ bad :: after ∧
    (∀ row ∈ before, ∃ record, makes row record) ∧ refuses bad fault

theorem Describes.decided {read : Row → Except Fault α} {makes : Row → α → Prop}
    {refuses : Row → Fault → Prop} (h : Describes read makes refuses) (row : Row) :
    ((∃! record, makes row record) ∧ ∀ fault, ¬refuses row fault) ∨
      (∃! fault, refuses row fault) ∧ ∀ record, ¬makes row record := by
  simp only [← h.ok_iff, ← h.error_iff]
  cases read row with
  | ok record =>
      refine .inl ⟨⟨record, rfl, ?_⟩, ?_⟩
      · rintro _ ⟨⟩
        rfl
      · rintro fault ⟨⟩
  | error fault =>
      refine .inr ⟨⟨fault, rfl, ?_⟩, ?_⟩
      · rintro _ ⟨⟩
        rfl
      · rintro record ⟨⟩

/-- The loader of a reading that is described loads as the description says. -/
theorem Describes.allOrNothing {read : Row → Except Fault α} {makes : Row → α → Prop}
    {refuses : Row → Fault → Prop} (h : Describes read makes refuses) {executor : Executor}
    {sql u : String} {rows : List Row} (hrows : executor (lookingUp sql u) = .ok rows) :
    AllOrNothing makes refuses rows ((load read sql u).run executor).1 := by
  have hrun : ((load read sql u).run executor).1 = readRows read rows := by
    rw [run_load, recordsFrom, hrows]
    rfl
  rw [hrun]
  refine ⟨h.decided, ?_, ?_⟩
  · intro records
    simp only [readRows_eq_ok_iff, h.ok_iff]
  · intro fault
    simp only [readRows_eq_error_iff, h.ok_iff, h.error_iff]

/-! ## The statement -/

theorem UserRow.loaded {row : Row} {record : UserRecord} (h : UserRow row record) :
    (∃ name, row[0]? = some name ∧ record.username = name.toText) ∧ record.username ≠ "" ∧
      row[1]? = some record.password := by
  cases h with
  | mk hname _ => exact ⟨⟨_, rfl, rfl⟩, toText_ne_empty hname, rfl⟩

theorem AuthorityRow.loaded {source : Source} {pre : String} {row : Row} {authority : Authority}
    (h : AuthorityRow source pre row authority) :
    ∃ name, row[source.column]? = some name ∧ name.toText ≠ "" ∧
      authority.name = pre ++ name.toText := by
  cases h with
  | mk hrow hname => exact ⟨_, hrow, toText_ne_empty hname, rfl⟩

/-- Each of the three loaders is all or nothing.  A username that is loaded is the text of the first
column and not empty, a password is the second column as it is stored, and an authority is the prefix
with a text behind it that is not empty. -/
theorem load_allOrNothing (executor : Executor) (sql u : String) (rows : List Row)
    (hrows : executor (lookingUp sql u) = .ok rows) :
    (AllOrNothing UserRow UserRefusal rows ((load readUser sql u).run executor).1 ∧
      ∀ records, ((load readUser sql u).run executor).1 = .ok records →
        List.Forall₂ (fun row record =>
          (∃ name, row[0]? = some name ∧ record.username = name.toText) ∧ record.username ≠ "" ∧
            row[1]? = some record.password) rows records) ∧
    ∀ source pre,
      AllOrNothing (AuthorityRow source pre) (AuthorityRefusal source) rows
        ((load (readAuthority source (.text pre)) sql u).run executor).1 ∧
      ∀ authorities,
        ((load (readAuthority source (.text pre)) sql u).run executor).1 = .ok authorities →
        List.Forall₂ (fun row authority => ∃ name, row[source.column]? = some name ∧
          name.toText ≠ "" ∧ authority.name = pre ++ name.toText) rows authorities := by
  have husers : AllOrNothing UserRow UserRefusal rows ((load readUser sql u).run executor).1 :=
    describes_readUser.allOrNothing hrows
  refine ⟨⟨husers, ?_⟩, ?_⟩
  · intro records hrecords
    exact ((husers.all records).mp hrecords).imp fun _ _ h => h.loaded
  · intro source pre
    have hnames := (describes_readAuthority source pre).allOrNothing hrows
    refine ⟨hnames, ?_⟩
    intro authorities hauthorities
    exact ((hnames.all authorities).mp hauthorities).imp fun _ _ h => h.loaded

/-- A name that looks empty and is none, a row that is incomplete and too short, and a row that is
only too short. -/
def mixedRows : List Row :=
  [[.bytes [], .int 0, .text "no"], [.text "bob", .null], [.text "amy"]]

/-- The second row decides, and it is incomplete before it is too short.  As rows of direct authorities
the same rows are read up to the second one, where the name is missing. -/
theorem load_allOrNothing_mixed :
    ((load readUser "rows :u" "bob").run (preparedStore [⟨"rows :u", none, .ok mixedRows⟩])).1 =
        .error .incompleteUser ∧
      ((load (readAuthority .direct (.text "ROLE_")) "rows :u" "bob").run
          (preparedStore [⟨"rows :u", none, .ok mixedRows⟩])).1 =
        .error (.unnamedAuthority 2) := by
  obtain ⟨⟨husers, -⟩, hnames⟩ := load_allOrNothing
    (preparedStore [⟨"rows :u", none, .ok mixedRows⟩]) "rows :u" "bob" mixedRows rfl
  have hbytes : ¬Missing (.bytes []) := mt namesNothing_iff.mpr Bool.false_ne_true
  have hzero : ¬Missing (.int 0) := mt namesNothing_iff.mpr Bool.false_ne_true
  constructor
  · refine (husers.nothing _).mpr ⟨[[.bytes [], .int 0, .text "no"]], _, _, rfl, ?_, ?_⟩
    · rintro row hrow
      obtain rfl := List.mem_singleton.mp hrow
      exact ⟨_, .mk hbytes (by rintro ⟨⟩)⟩
    · exact .incomplete (.inr rfl)
  · refine ((hnames .direct "ROLE_").1.nothing _).mpr
      ⟨[[.bytes [], .int 0, .text "no"]], _, _, rfl, ?_, ?_⟩
    · rintro row hrow
      obtain rfl := List.mem_singleton.mp hrow
      exact ⟨_, .mk rfl hzero⟩
    · exact .unnamed rfl (.inl rfl)

end Entitlement.Lookup
