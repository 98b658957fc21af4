import Entitlement.Store.Select.Expr

/-!
# `Entitlement.Store.Select.Rows` — the rows a selection has

The rows of a selection are made in four steps, each a function on lists: the rows of the sources
are combined in every way, the first source varying slowest; the combinations that meet the
condition are kept; they are sorted, those that agree keeping their order; and from each the columns
of the result are computed.

A comparison converts its operands by the affinity of its columns.  With two columns, a numeric one
makes the comparison numeric; with one column, its affinity holds; without a column nothing is
converted.  Truth has three values: null is neither true nor false, and a condition that is null is
not met.
-/
namespace Entitlement.Store.Select

/-- One row of each source. -/
abbrev Combination := List Record

/-! ## Values of terms -/

/-- The affinity of a term: that of its column, when it is one. -/
def Term.affinity : Term → Affinity
  | .column _ _ affinity => affinity
  | _ => .none

def comparisonAffinity : Affinity → Affinity → Affinity
  | .none, b => b
  | a, .none => a
  | .text, .text => .none
  | _, _ => .numeric

/-- Two values compared as the affinities of their terms say. -/
def compareAs (holds : Ordering → Bool) (affinity : Affinity) (a b : Cell) : Cell :=
  Cell.condition holds (a.withAffinity affinity) (b.withAffinity affinity)

/-- Two values told apart, null being a value like any other. -/
def sameAs (affinity : Affinity) (a b : Cell) : Bool :=
  match a.withAffinity affinity, b.withAffinity affinity with
  | .null, .null => true
  | .null, _ => false
  | _, .null => false
  | a, b => Cell.compare a b == .eq

def both (a b : Cell) : Cell :=
  if a ≠ .null ∧ a.isTrue = false ∨ b ≠ .null ∧ b.isTrue = false then .int 0
  else if a = .null ∨ b = .null then .null
  else .int 1

def either (a b : Cell) : Cell :=
  if a.isTrue ∨ b.isTrue then .int 1
  else if a = .null ∨ b = .null then .null
  else .int 0

def negation (a : Cell) : Cell :=
  if a = .null then .null else .int (if a.isTrue then 0 else 1)

def Operator.value (op : Operator) (affinity : Affinity) (a b : Cell) : Cell :=
  match op with
  | .or => either a b
  | .and => both a b
  | .eq => compareAs (· == .eq) affinity a b
  | .ne => compareAs (· != .eq) affinity a b
  | .lt => compareAs (· == .lt) affinity a b
  | .le => compareAs (· != .gt) affinity a b
  | .gt => compareAs (· == .gt) affinity a b
  | .ge => compareAs (· != .lt) affinity a b
  | .is => .int (if sameAs affinity a b then 1 else 0)
  | .isNot => .int (if sameAs affinity a b then 0 else 1)

/-- A letter of a text under a function; only ASCII letters change. -/
def TextFunction.char : TextFunction → Char → Char
  | .lower => Char.toLower
  | .upper => Char.toUpper

/-- A byte of a text under a function. -/
def TextFunction.byte (f : TextFunction) (b : UInt8) : UInt8 :=
  if b < 128 then (f.char (Char.ofNat b.toNat)).toNat.toUInt8 else b

/-- The value of a function: a number is taken by its text, a blob by the text it encodes.  A blob
that encodes none gives one that encodes none. -/
def TextFunction.value (f : TextFunction) (c : Cell) : Cell :=
  match c.numberText with
  | .text s => .text (String.ofList (s.toList.map f.char))
  | .blob bs =>
    match Text.utf8? bs with
    | some s => .text (String.ofList (s.toList.map f.char))
    | none => .blob (bs.map f.byte)
  | c => c

/-- The number taken from zero; zero taken from zero has no sign. -/
def opposite (c : Cell) : Cell :=
  match c.asNumber with
  | .int n => if fitsWord (-n) then .int (-n) else .real (Binary64.ofInt (-n))
  | .real x => .real (if x.isZero then .zero false else x.neg)
  | c => c

/-- The cell of a combination at a position. -/
def cellAt (rows : Combination) (source position : Nat) : Cell :=
  match rows[source]? with
  | some record => (record[position]?).getD .null
  | none => .null

/-- The value of a term for a combination and arguments. -/
def Term.value (args : List Cell) (rows : Combination) : Term → Cell
  | .cell c => c
  | .place number => (args[number - 1]?).getD .null
  | .column source position _ => cellAt rows source position
  | .function f arg => f.value (arg.value args rows)
  | .neg arg => opposite (arg.value args rows)
  | .plus arg => arg.value args rows
  | .not arg => negation (arg.value args rows)
  | .binary op a b =>
    op.value (comparisonAffinity a.affinity b.affinity) (a.value args rows) (b.value args rows)

/-! ## Rows -/

/-- Every way to take one row from each source. -/
def combinations (tables : Tables) : List Table → List Combination
  | [] => [[]]
  | t :: rest =>
    (tables.rows t).flatMap fun record => (combinations tables rest).map (record :: ·)

/-- Whether a combination meets a condition; no condition is always met. -/
def meets (args : List Cell) (filter : Option Term) (rows : Combination) : Bool :=
  match filter with
  | none => true
  | some term => (term.value args rows).isTrue

/-- Whether the first of two combinations may stand in front of the second. -/
def inOrder (args : List Cell) (order : List (Term × Bool)) (a b : Combination) : Bool :=
  match order with
  | [] => true
  | (term, down) :: rest =>
    match Cell.compare (term.value args a) (term.value args b) with
    | .eq => inOrder args rest a b
    | .lt => !down
    | .gt => down

def sorted (args : List Cell) (order : List (Term × Bool)) (rows : List Combination) :
    List Combination :=
  if order.isEmpty then rows else rows.mergeSort (inOrder args order)

def Selection.rows (selection : Selection) (tables : Tables) (args : List Cell) : List Record :=
  (sorted args selection.order
      ((combinations tables selection.sources).filter (meets args selection.filter))).map
    fun rows => selection.columns.map fun column => column.term.value args rows

/-! ## Texts that are none -/

/-- Whether a term has a text for a value whenever it has bytes. -/
def Term.isText : Term → Bool
  | .function _ _ => true
  | .plus arg => arg.isText
  | _ => false

/-- The fault of a cell that should hold a text and holds bytes that encode none. -/
def ResultColumn.fault? (column : ResultColumn) : Cell → Option Fault
  | .blob bs => if column.term.isText then some (.undecodable column.name bs) else none
  | _ => none

/-- The first fault in the rows of a selection. -/
def Selection.fault? (selection : Selection) (records : List Record) : Option Fault :=
  records.findSome? fun record =>
    (selection.columns.zip record).findSome? fun (column, cell) => column.fault? cell

end Entitlement.Store.Select
