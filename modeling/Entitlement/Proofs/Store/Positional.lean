import Entitlement.Proofs.Store.OutputReading

/-!
# `Entitlement.Proofs.Store.Positional` — arguments reach every occurrence of their bind

Arguments are given for the distinct names of a query text, in the order of their first appearances,
and the statement has a place for every occurrence.  For a list of binds and literals the answer
shows where each argument went:

    SELECT :b, 7, :a, :b       names    b, a
                               given    1, 2
                               row      1, 7, 2, 1

`execute_positional` says so of every list.

| | |
| :-- | :-- |
| the names | `names`, the first appearances among the binds of the list |
| another number of arguments | refused with both numbers, whatever the store and whatever the texts |
| the right number | one row with a column for every item, `Slot.Holds` saying what it holds |

The second part needs texts that are left alone on the way (`Harmless`), which not all are: a mark of
a declared name becomes a place even inside a text, and the null character ends a statement.
`texts_not_kept` has a list for either.
-/
namespace Entitlement.Store

open Select
open Query (Piece)

/-! ## The columns of a list -/

def Sign.term : Sign → Term → Term
  | .none, t => t
  | .plus, t => .plus t
  | .minus, t => t

def Item.term (used : Nat) : Item → Term
  | .bind _ => .place (used + 1)
  | .integer sign numeral => sign.term (.cell (.int (sign.value numeral.value)))
  | .text s => .cell (.text s)

def Slot.column (used : Nat) (slot : Slot) : ResultColumn :=
  ⟨writtenAs (slot.item.tokens used slot.after), slot.item.term used⟩

theorem Select.Numeral.Good.expr_cases {numeral : Numeral} (h : numeral.Good) :
    (∃ n : Nat, numeral.expr = .integer n ∧ numeral.value = n) ∨
      ∃ n written, numeral.expr = .bits n written ∧ numeral.value = signedOfBits n ∧
        n < UInt64.size := by
  cases numeral with
  | decimal digits => exact .inl ⟨_, rfl, rfl⟩
  | hexadecimal capital digits =>
      rw [Numeral.expr]
      split
      · rename_i hsmall
        refine .inl ⟨_, rfl, if_pos ?_⟩
        have hle : (Int32.maxValue.toNatClampNeg : Int) ≤ Int64.maxValue.toInt := by decide
        exact Int.le_trans (Int.ofNat_le.mpr hsmall) hle
      · exact .inr ⟨_, _, rfl, rfl, h.2.2⟩

/-- An expression behind a minus, or without one. -/
def negated (negative : Bool) (e : Expr) : Expr := if negative then .neg e else e

theorem Select.Numeral.Good.term {numeral : Numeral} (h : numeral.Good) (negative : Bool) {n : Int}
    (hn : (if negative then -numeral.value else numeral.value) = n) (hfits : fitsWord n = true) :
    (negated negative numeral.expr).term [] = .ok (.cell (.int n)) ∧
      (negated negative numeral.expr).tooBig = [] := by
  rcases h.expr_cases with ⟨m, hexpr, hvalue⟩ | ⟨m, written, hexpr, hvalue, hsize⟩
  · rw [hvalue] at hn
    have hcell : integerCell negative m = .int n := by
      rw [integerCell]
      simp only [hn, hfits, if_true]
    rw [hexpr, ← hcell]
    cases negative with
    | false => exact ⟨rfl, rfl⟩
    | true => exact ⟨rfl, rfl⟩
  · rw [hvalue] at hn
    have hbig : isTooBig negative m = false := by
      rw [isTooBig, Bool.or_eq_false_iff]
      refine ⟨decide_eq_false (Nat.not_le.mpr hsize), ?_⟩
      cases negative with
      | false => rfl
      | true =>
          -- The least integer is the only one whose opposite does not fit.
          rw [Bool.true_and, beq_eq_false_iff_ne]
          intro hmin
          rw [← hn, if_pos rfl, hmin] at hfits
          exact absurd hfits (by decide)
    have hcell : bitsCell negative m = .int n := by
      rw [bitsCell, hbig, hn]
      rfl
    rw [hexpr, ← hcell]
    cases negative with
    | false =>
        refine ⟨rfl, ?_⟩
        show (if isTooBig false m then [written] else []) = []
        rw [hbig]
        rfl
    | true =>
        refine ⟨rfl, ?_⟩
        show (if isTooBig true m then ["-" ++ written] else []) = []
        rw [hbig]
        rfl

theorem Item.Good.term {item : Item} (h : item.Good) (used : Nat) :
    (item.expr used).term [] = .ok (item.term used) ∧ (item.expr used).tooBig = [] := by
  cases item with
  | bind w => exact ⟨rfl, rfl⟩
  | integer sign numeral =>
      obtain ⟨hgood, hfits⟩ := h
      cases sign with
      | none => exact hgood.term false rfl hfits
      | plus =>
          obtain ⟨hterm, hbig⟩ := hgood.term false rfl hfits
          exact ⟨congrArg (Except.map Term.plus) hterm, hbig⟩
      | minus => exact hgood.term true rfl hfits
  | text s => exact ⟨rfl, rfl⟩

theorem Item.isText_term (item : Item) (used : Nat) : (item.term used).isText = false := by
  cases item with
  | bind w => rfl
  | integer sign numeral =>
      cases sign with
      | none => rfl
      | plus => rfl
      | minus => rfl
  | text s => rfl

/-! ## The selection of a list -/

/-- The selection that a list is understood as: its columns, and no sources. -/
def listSelection (slots : List Slot) : Selection := ⟨mapFrom Slot.column 0 slots, [], none, []⟩

theorem outputsColumns_mapFrom {slots : List Slot} (h : ∀ slot ∈ slots, slot.Good) (used : Nat) :
    outputsColumns [] (mapFrom Slot.output used slots) = .ok (mapFrom Slot.column used slots) := by
  induction slots generalizing used with
  | nil => rfl
  | cons slot rest ih =>
      have hterm := ((h slot List.mem_cons_self).item.term used).1
      have hrest := ih (fun s hs => h s (List.mem_cons_of_mem _ hs)) (used + slot.item.places)
      rw [mapFrom, mapFrom, outputsColumns, Slot.output, Output.columns, hterm, hrest]
      rfl

theorem foldl_count_mapFrom (n used : Nat) (slots : List Slot) :
    (mapFrom Slot.output used slots).foldl (fun n output => n + output.count []) n =
      n + slots.length := by
  induction slots generalizing n used with
  | nil => rfl
  | cons slot rest ih =>
      rw [mapFrom, List.foldl_cons, ih, List.length_cons]
      show n + 1 + rest.length = _
      omega

theorem refusals_mapFrom (used : Nat) (slots : List Slot) :
    (mapFrom Slot.output used slots).filterMap (·.refusal? []) = [] := by
  induction slots generalizing used with
  | nil => rfl
  | cons slot rest ih => exact ih _

theorem tooBigOf_mapFrom {slots : List Slot} (h : ∀ slot ∈ slots, slot.Good) (used : Nat) :
    Expr.tooBigOf ((mapFrom Slot.output used slots).filterMap Output.expr?) = [] := by
  induction slots generalizing used with
  | nil => rfl
  | cons slot rest ih =>
      have hbig := ((h slot List.mem_cons_self).item.term used).2
      have hrest := ih (fun s hs => h s (List.mem_cons_of_mem _ hs)) (used + slot.item.places)
      show (slot.item.expr used).tooBig ++ Expr.tooBigOf _ = []
      rw [hbig, hrest]
      rfl

theorem select_mapFrom {slots : List Slot} (h : ∀ slot ∈ slots, slot.Good)
    (hmost : slots.length ≤ mostColumns) (exist : Bool) :
    Query.select exist ⟨mapFrom Slot.output 0 slots, [], none, []⟩ = .ok (listSelection slots) := by
  have hcolumns : resultColumns [] (mapFrom Slot.output 0 slots) =
      .ok (mapFrom Slot.column 0 slots) := by
    have hfew : tooManyColumns [] (mapFrom Slot.output 0 slots) = false := by
      rw [tooManyColumns, foldl_count_mapFrom, Nat.zero_add]
      exact decide_eq_false (Nat.not_lt.mpr hmost)
    rw [resultColumns, refusals_mapFrom, hfew]
    exact outputsColumns_mapFrom h 0
  have hlimit : Query.limitFault? ⟨mapFrom Slot.output 0 slots, [], none, []⟩ = none := by
    have hbig : Expr.tooBigOf (Query.expressions ⟨mapFrom Slot.output 0 slots, [], none, []⟩) =
        [] := by
      show Expr.tooBigOf (((mapFrom Slot.output 0 slots).filterMap Output.expr?) ++ []) = []
      rw [List.append_nil, tooBigOf_mapFrom h]
    rw [Query.limitFault?, hbig]
    rfl
  rw [Query.select, sourceTables]
  dsimp only
  rw [hcolumns]
  dsimp only [filterTerm, orderTerms]
  rw [List.length_nil, if_neg (Nat.not_lt_zero _), positionRefusal?, hlimit]
  rfl

theorem Item.foldl_number_tokens (item : Item) (used : Nat) (behind : List Char) :
    (item.tokens used behind).foldl (fun n l => max n l.number) used = used + item.places := by
  cases item with
  | bind w => exact Nat.max_eq_right (Nat.le_succ used)
  | integer sign numeral =>
      cases sign with
      | none => exact Nat.max_zero used
      | plus => exact (congrArg (max · 0) (Nat.max_zero used)).trans (Nat.max_zero used)
      | minus => exact (congrArg (max · 0) (Nat.max_zero used)).trans (Nat.max_zero used)
  | text s => exact Nat.max_zero used

theorem Slot.length_name? (slot : Slot) : slot.name?.toList.length = slot.item.places := by
  unfold Slot.name?
  cases slot.item with
  | bind w => rfl
  | integer sign numeral => rfl
  | text s => rfl

theorem length_names_cons (slot : Slot) (rest : List Slot) :
    ((slot :: rest).filterMap Slot.name?).length =
      slot.item.places + (rest.filterMap Slot.name?).length := by
  rw [← slot.length_name?, List.filterMap_cons]
  cases slot.name? with
  | none => exact (Nat.zero_add _).symm
  | some w => exact Nat.add_comm _ _

theorem foldl_number_tokensFrom (used : Nat) (first : Slot) (rest : List Slot) :
    (tokensFrom used first rest).foldl (fun n l => max n l.number) used =
      used + ((first :: rest).filterMap Slot.name?).length := by
  induction rest generalizing used first with
  | nil =>
      rw [tokensFrom, first.item.foldl_number_tokens, length_names_cons]
      rfl
  | cons slot rest ih =>
      rw [tokensFrom, List.foldl_append, first.item.foldl_number_tokens, List.foldl_cons,
        length_names_cons first, ← Nat.add_assoc, ← ih]
      exact congrArg (List.foldl _ · _) (Nat.max_zero _)

theorem placeCount_listTokens (first : Slot) (rest : List Slot) :
    placeCount (listTokens first rest) = ((first :: rest).filterMap Slot.name?).length := by
  have hcount := foldl_number_tokensFrom 0 first rest
  rw [Nat.zero_add] at hcount
  exact hcount

theorem Listed.runStatement {first : Slot} {rest : List Slot} (h : Listed first rest)
    (hnull : '\x00' ∉ (listPieces first rest).flatMap Piece.placed)
    (hmost : (first :: rest).length ≤ mostColumns) {args : List Value} {cells : List Cell}
    (hplaces : placeCount (listTokens first rest) = args.length)
    (hcells : cellsFrom 1 args = .ok cells) (database : Database) :
    runStatement database (String.ofList ((listPieces first rest).flatMap Piece.placed)) args =
      .ok [(mapFrom Slot.column 0 (first :: rest)).map fun column =>
        column.term.value cells []] := by
  have hcontains : (String.ofList ((listPieces first rest).flatMap Piece.placed)).toList.contains
      '\x00' = false := by
    rw [String.toList_ofList]
    exact Bool.eq_false_iff.mpr fun h => hnull (List.contains_iff_mem.mp h)
  have hunderstand : understand database.isSome ⟨false, listTokens first rest, []⟩ =
      .ok (.selection (listSelection (first :: rest))) := by
    rw [understand]
    simp only [listTokens, List.isEmpty_cons, Bool.false_eq_true, if_false]
    rw [← listTokens, h.readQuery]
    dsimp only
    rw [select_mapFrom h hmost]
    rfl
  have hfault : (listSelection (first :: rest)).fault?
      ((listSelection (first :: rest)).rows (database.getD {}) cells) = none := by
    refine fault?_eq_none _ ?_
    intro column hcolumn
    obtain ⟨used, slot, -, rfl⟩ := mem_mapFrom hcolumn
    exact slot.item.isText_term used
  rw [Store.runStatement, hcontains, h.cutFirst]
  dsimp only
  rw [hunderstand]
  simp only [Bool.false_eq_true, if_false, hplaces, ne_eq, not_true_eq_false, hcells, hfault]
  rfl

/-! ## Arguments -/

/-- A value that can be handed over as it is: null, a boolean, an integer that fits a word, a number
that is one, a text or bytes. -/
def Bindable : Value → Prop
  | .null => True
  | .bool _ => True
  | .int n => fitsWord n = true
  | .float x => x.isNan = false
  | .bytes _ => True
  | .text _ => True
  | .list _ => False
  | .object _ => False

instance (v : Value) : Decidable (Bindable v) :=
  match v with
  | .null => inferInstanceAs (Decidable True)
  | .bool _ => inferInstanceAs (Decidable True)
  | .int n => inferInstanceAs (Decidable (fitsWord n = true))
  | .float x => inferInstanceAs (Decidable (x.isNan = false))
  | .bytes _ => inferInstanceAs (Decidable True)
  | .text _ => inferInstanceAs (Decidable True)
  | .list _ => inferInstanceAs (Decidable False)
  | .object _ => inferInstanceAs (Decidable False)

/-- What a value comes back as: a boolean is a number, everything else stays as it is. -/
def returned : Value → Value
  | .bool b => .int (if b then 1 else 0)
  | v => v

theorem Bindable.ofValue {v : Value} (h : Bindable v) (position : Nat) :
    ∃ cell, Cell.ofValue position v = .ok cell ∧ cell.toValue = returned v := by
  cases v with
  | null => exact ⟨.null, rfl, rfl⟩
  | bool b => exact ⟨.int (if b then 1 else 0), rfl, rfl⟩
  | int n => exact ⟨.int n, if_pos h, rfl⟩
  | float x =>
      have hx : x.isNan = false := h
      refine ⟨.real x, ?_, rfl⟩
      rw [Cell.ofValue, hx]
      rfl
  | bytes bs => exact ⟨.blob bs, rfl, rfl⟩
  | text s => exact ⟨.text s, rfl, rfl⟩
  | list items => exact h.elim
  | object fields => exact h.elim

theorem cellsFrom_of_bindable {vs : List Value} (h : ∀ v ∈ vs, Bindable v) (position : Nat) :
    ∃ cells, cellsFrom position vs = .ok cells ∧ cells.map Cell.toValue = vs.map returned := by
  induction vs generalizing position with
  | nil => exact ⟨[], rfl, rfl⟩
  | cons v vs ih =>
      obtain ⟨cell, hcell, hvalue⟩ := (h v List.mem_cons_self).ofValue position
      obtain ⟨cells, hcells, hvalues⟩ := ih (fun w hw => h w (List.mem_cons_of_mem _ hw)) (position + 1)
      refine ⟨cell :: cells, ?_, ?_⟩
      · rw [cellsFrom, hcell]
        dsimp only
        rw [hcells]
      · rw [List.map_cons, List.map_cons, hvalue, hvalues]

/-- What a column holds, the names having arguments in their order: for a bind the argument of its
name, for a literal what is written. -/
def Slot.Holds (names : List String) (args : List Value) (slot : Slot) (v : Value) : Prop :=
  match slot.item with
  | .bind w => ∃ (k : Nat) (arg : Value),
    names[k]? = some w ∧ args[k]? = some arg ∧ v = returned arg
  | .integer sign numeral => v = .int (sign.value numeral.value)
  | .text s => v = .text s

/-- The places of a list are filled in the order of its binds, `valueOf` telling what is handed over
for a name: what stands at a place was handed over for the name of its bind. -/
theorem holds_mapFrom {slots : List Slot} {used : Nat} {cells : List Cell} (front : List Value)
    (valueOf : String → Value) {holds : Slot → Value → Prop}
    (hcells : cells.map Cell.toValue = front ++ (slots.filterMap Slot.name?).map valueOf)
    (hfront : front.length = used)
    (hbind : ∀ slot ∈ slots, ∀ w, slot.item = .bind w → holds slot (valueOf w))
    (hinteger : ∀ slot sign numeral, slot.item = .integer sign numeral →
      holds slot (.int (sign.value numeral.value)))
    (htext : ∀ slot s, slot.item = .text s → holds slot (.text s)) :
    List.Forall₂ holds slots
      ((mapFrom Slot.column used slots).map fun column =>
        (column.term.value cells []).toValue) := by
  induction slots generalizing used front with
  | nil => exact .nil
  | cons slot rest ih =>
      have hrest : ∀ s ∈ rest, ∀ w, s.item = .bind w → holds s (valueOf w) :=
        fun s hs => hbind s (List.mem_cons_of_mem slot hs)
      -- A literal takes no place, so the others find theirs where they were.
      have hliteral : ∀ v, slot.name? = none → slot.item.places = 0 →
          ((slot.item.term used).value cells []).toValue = v → holds slot v →
          List.Forall₂ holds (slot :: rest)
            ((mapFrom Slot.column used (slot :: rest)).map fun column =>
              (column.term.value cells []).toValue) := by
        rintro v hname hplaces rfl hholds
        rw [List.filterMap_cons, hname] at hcells
        exact .cons hholds (ih front hcells (by rw [hplaces]; exact hfront) hrest)
      cases hitem : slot.item with
      | bind w =>
          have hname : slot.name? = some w := by rw [Slot.name?, hitem]
          rw [List.filterMap_cons, hname, List.map_cons, List.append_cons] at hcells
          have hplace : (cells[used]?).map Cell.toValue = some (valueOf w) := by
            rw [← List.getElem?_map, hcells, ← hfront]
            simp only [List.append_assoc, List.getElem?_append_right, Nat.le_refl, Nat.sub_self,
              List.singleton_append, List.getElem?_cons_zero]
          obtain ⟨cell, hcell, hvalue⟩ := Option.map_eq_some_iff.mp hplace
          refine .cons ?_ (ih _ hcells ?_ hrest)
          · show holds slot ((slot.item.term used).value cells []).toValue
            rw [hitem, Item.term, Term.value, Nat.add_sub_cancel, hcell, Option.getD_some, hvalue]
            exact hbind slot List.mem_cons_self w hitem
          · rw [List.length_append, hfront, hitem]
            rfl
      | integer sign numeral =>
          refine hliteral (.int (sign.value numeral.value)) ?_ ?_ ?_ ?_
          · rw [Slot.name?, hitem]
          · rw [hitem]
            rfl
          · rw [hitem]
            cases sign <;> rfl
          · exact hinteger slot sign numeral hitem
      | text s =>
          refine hliteral (.text s) ?_ ?_ ?_ ?_
          · rw [Slot.name?, hitem]
          · rw [hitem]
            rfl
          · rw [hitem]
            rfl
          · exact htext slot s hitem

/-! ## The whole way -/

/-- Texts that are left alone on the way to the store: without the null character, and without a mark
that has the name of a bind or takes in a part of one. -/
structure Harmless (names : List String) (first : Slot) (rest : List Slot) : Prop where
  noNull : ∀ slot ∈ first :: rest, ∀ s ∈ slot.item.text?, '\x00' ∉ s.toList
  unmarked : Query.Unmarked names.contains (listPieces first rest)

/-- How a list is answered, `names` being those of its binds. -/
structure Positional (first : Slot) (rest : List Slot) (names : List String) : Prop where
  /-- Another number of arguments is refused, and the store is not asked. -/
  refused : ∀ database args, args.length ≠ names.length →
    execute database (listText first rest) args =
      .error (.argumentCount names.length args.length)
  /-- The refusal states both numbers. -/
  stated : ∀ given : Nat, (Entitlement.Fault.argumentCount names.length given).message =
    "Query declares " ++ toString names.length ++ " bind parameter(s) but " ++ toString given ++
      " given"
  /-- Arguments of the right number are answered with one row. -/
  answered : Harmless names first rest → (first :: rest).length ≤ mostColumns →
    ∀ database args, args.length = names.length → (∀ arg ∈ args, Bindable arg) →
      ∃ row, execute database (listText first rest) args = .ok [row] ∧
        List.Forall₂ (Slot.Holds names args) (first :: rest) row

theorem Listed.bindNames {first : Slot} {rest : List Slot} (h : Listed first rest)
    {names : List String} (hnames : FirstAppearances ((first :: rest).filterMap Slot.name?) names) :
    Query.bindNames (listText first rest) = names := by
  rw [Query.bindNames, h.scan, names_listPieces]
  exact (firstAppearances_distinct _).unique hnames

theorem Listed.placed {first : Slot} {rest : List Slot} (h : Listed first rest)
    {names : List String} (hnames : FirstAppearances ((first :: rest).filterMap Slot.name?) names)
    (hharmless : Harmless names first rest) : Query.Placed (listText first rest) := by
  have hescape : ∀ c, .char c ∈ listPieces first rest → (c != '\\') = true := by
    refine h.pieces (by decide) ?_
    intro slot hslot s hs c hc
    exact bne_iff_ne.mpr fun heq => ((h slot hslot).item.text s hs).2 (heq ▸ hc)
  refine Query.placed_of_unmarked ?_ ?_
  · rw [h.scan]
    intro hc
    exact absurd (hescape _ hc) (by decide)
  · rw [h.bindNames hnames, h.scan]
    exact hharmless.unmarked

theorem Listed.noNull {first : Slot} {rest : List Slot} (h : Listed first rest)
    {names : List String} (hharmless : Harmless names first rest) :
    '\x00' ∉ (listPieces first rest).flatMap Piece.placed := by
  have hnull : ∀ c, .char c ∈ listPieces first rest → (c != '\x00') = true := by
    refine h.pieces (by decide) ?_
    intro slot hslot s hs c hc
    exact bne_iff_ne.mpr fun heq => hharmless.noNull slot hslot s hs (heq ▸ hc)
  intro hmem
  obtain ⟨piece, hpiece, hc⟩ := List.mem_flatMap.mp hmem
  cases piece with
  | char c =>
      rw [← List.mem_singleton.mp hc] at hpiece
      exact absurd (hnull _ hpiece) (by decide)
  | bind w => exact absurd (List.mem_singleton.mp hc) (by decide)

def handed (names : List String) (args : List Value) (w : String) : Value :=
  ((names.zip args).lookup w).getD .null

theorem handed_of_mem {names : List String} {args : List Value} (hnodup : names.Nodup)
    (hlength : args.length = names.length) {w : String} (hw : w ∈ names) :
    ∃ (k : Nat) (arg : Value), names[k]? = some w ∧ args[k]? = some arg ∧
      handed names args w = arg := by
  obtain ⟨k, hk, hname⟩ := List.getElem_of_mem hw
  have hkey : names[k]? = some w := by rw [List.getElem?_eq_getElem hk, hname]
  have hvalue : args[k]? = some args[k] := List.getElem?_eq_getElem (hlength ▸ hk)
  refine ⟨k, args[k], hkey, hvalue, ?_⟩
  rw [handed, Query.lookup_zip hnodup hkey hvalue, Option.getD_some]

theorem Listed.atPlaces {first : Slot} {rest : List Slot} (h : Listed first rest)
    {names : List String} (hnames : FirstAppearances ((first :: rest).filterMap Slot.name?) names)
    (hharmless : Harmless names first rest) (args : List Value) :
    (Query.atPlaces (listText first rest) args).map (·.getD .null) =
      ((first :: rest).filterMap Slot.name?).map (handed names args) := by
  rw [Query.atPlaces, (h.placed hnames hharmless).occurrences, h.scan, names_listPieces,
    h.bindNames hnames, List.map_map]
  rfl

/-- A list is answered with one row, its places being filled bind by bind. -/
theorem Listed.execute {first : Slot} {rest : List Slot} (h : Listed first rest)
    {names : List String} (hnames : FirstAppearances ((first :: rest).filterMap Slot.name?) names)
    (hharmless : Harmless names first rest) (hmost : (first :: rest).length ≤ mostColumns)
    {args : List Value} (hlength : args.length = names.length)
    (hbindable : ∀ arg ∈ args, Bindable arg) (database : Database) :
    ∃ cells : List Cell,
      cells.map Cell.toValue =
          ((first :: rest).filterMap Slot.name?).map (fun w => returned (handed names args w)) ∧
        Store.execute database (listText first rest) args =
          .ok [(mapFrom Slot.column 0 (first :: rest)).map fun column =>
            (column.term.value cells []).toValue] := by
  have hhandable : ∀ v ∈ ((first :: rest).filterMap Slot.name?).map (handed names args),
      Bindable v := by
    intro v hv
    obtain ⟨w, hw, rfl⟩ := List.mem_map.mp hv
    obtain ⟨k, arg, -, hvalue, heq⟩ :=
      handed_of_mem hnames.once hlength ((hnames.mem_iff w).mpr hw)
    rw [heq]
    exact hbindable arg (List.mem_of_getElem? hvalue)
  obtain ⟨cells, hcells, hvalues⟩ := cellsFrom_of_bindable hhandable 1
  have hplaces : placeCount (listTokens first rest) =
      (((first :: rest).filterMap Slot.name?).map (handed names args)).length := by
    rw [placeCount_listTokens, List.length_map]
  have hrun := h.runStatement (h.noNull hharmless) hmost hplaces hcells database
  have hcount : ¬(Query.bindNames (listText first rest)).length ≠ args.length := by
    rw [h.bindNames hnames]
    exact not_not.mpr hlength.symm
  refine ⟨cells, hvalues.trans List.map_map, ?_⟩
  rw [Store.execute]
  dsimp only
  rw [if_neg hcount, h.atPlaces hnames hharmless, (h.placed hnames hharmless).statement, h.scan,
    hrun]
  simp only [List.map_cons, List.map_nil, List.map_map]
  rfl

/-- Arguments reach every occurrence of their bind, and no other column. -/
theorem execute_positional {first : Slot} {rest : List Slot} (h : Listed first rest)
    {names : List String}
    (hnames : FirstAppearances ((first :: rest).filterMap Slot.name?) names) :
    Positional first rest names where
  refused database args hlength := by
    have hcount : (Query.bindNames (listText first rest)).length ≠ args.length := by
      rw [h.bindNames hnames]
      exact Ne.symm hlength
    rw [execute]
    dsimp only
    rw [if_pos hcount, h.bindNames hnames]
  stated _ := rfl
  answered hharmless hmost database args hlength hbindable := by
    obtain ⟨cells, hcells, hexecute⟩ :=
      h.execute hnames hharmless hmost hlength hbindable database
    refine ⟨_, hexecute,
      holds_mapFrom [] (fun w => returned (handed names args w)) hcells rfl ?_ ?_ ?_⟩
    · intro slot hslot w hitem
      have hname : slot.name? = some w := by rw [Slot.name?, hitem]
      have hw : w ∈ (first :: rest).filterMap Slot.name? :=
        List.mem_filterMap.mpr ⟨slot, hslot, hname⟩
      obtain ⟨k, arg, hkey, hvalue, heq⟩ :=
        handed_of_mem hnames.once hlength ((hnames.mem_iff w).mpr hw)
      rw [Slot.Holds, hitem]
      exact ⟨k, arg, hkey, hvalue, congrArg returned heq⟩
    · intro slot sign numeral hitem
      rw [Slot.Holds, hitem]
    · intro slot s hitem
      rw [Slot.Holds, hitem]

/-- The first slot of a list in which its name comes back behind another one. -/
def sampleFirst : Slot := { item := .bind "b" }

/-- The others: among them a number with a zero in front, one with a sign, and a text with an
apostrophe and with the mark of a name that is no bind. -/
def sampleRest : List Slot :=
  [{ item := .integer .none (.decimal ['0', '7']) },
    { before := [' '], item := .text "it's 5%(x)s", after := ['\n'] },
    { before := [' '], item := .bind "a" },
    { before := [' '], item := .integer .minus (.hexadecimal false ['f', 'F']) },
    { before := [' '], item := .bind "b" }]

theorem execute_positional_sample :
    listText sampleFirst sampleRest = "SELECT :b,07, 'it''s 5%(x)s'\n, :a, -0xfF, :b" ∧
      (∃ row, execute none (listText sampleFirst sampleRest) [.bool true, .text "x"] = .ok [row] ∧
        List.Forall₂ (Slot.Holds ["b", "a"] [.bool true, .text "x"])
          (sampleFirst :: sampleRest) row) ∧
      execute none (listText sampleFirst sampleRest) [.null] = .error (.argumentCount 2 1) := by
  have hnames : FirstAppearances ((sampleFirst :: sampleRest).filterMap Slot.name?) ["b", "a"] :=
    firstAppearances_distinct ["b", "a", "b"]
  have hpositional := execute_positional (by decide) hnames
  refine ⟨by decide +kernel, ?_, hpositional.refused none [.null] (by decide)⟩
  refine hpositional.answered ⟨?_, by decide⟩ (by decide) none _ rfl ?_
  · decide
  · decide

/-! ## Texts that are not kept -/

/-- A text with the mark of a bind asks for an argument more, one that begins a mark in front of a
bind leaves the mark of the bind in the statement, and one with the null character is part of no
statement, though each can stand in a list and the arguments are of the right number. -/
theorem texts_not_kept :
    Listed { item := .bind "a" } [{ item := .text "%(a)s" }] ∧
      listText { item := .bind "a" } [{ item := .text "%(a)s" }] = "SELECT :a,'%(a)s'" ∧
      (execute none "SELECT :a,'%(a)s'" [.int 1] matches .error (.statement (.placeCount 1 2))) ∧
    Listed { item := .text "%(" } [{ item := .bind "a" }] ∧
      listText { item := .text "%(" } [{ item := .bind "a" }] = "SELECT '%(',:a" ∧
      (execute none "SELECT '%(',:a" [.int 1] matches .error (.statement (.unexpected "%"))) ∧
    Listed { item := .bind "a" } [{ item := .text "x\x00y" }] ∧
      listText { item := .bind "a" } [{ item := .text "x\x00y" }] = "SELECT :a,'x\x00y'" ∧
      (execute none "SELECT :a,'x\x00y'" [.int 1] matches .error (.statement .nullCharacter)) :=
  ⟨by decide, by decide +kernel, by decide +kernel, by decide, by decide +kernel, by decide +kernel,
    by decide, by decide +kernel, by decide +kernel⟩

end Entitlement.Store
