import Entitlement.Store.Select.Lexeme
import Entitlement.Store.Tables

/-!
# `Entitlement.Store.Select.Expr` — what a statement says, before and after its names are known

`Expr` and `Query` hold a statement as it is written: columns are names, possibly qualified.
`Term` and `Selection` hold it with the names known: a column is the position of a table among the
sources and the position of a column in that table.  `Query.select` leads from the one to the
other, given the tables there are, and fails exactly for names that stand for nothing or for two
things.  What a selection means needs no further failure, so evaluating one is a total function.
-/
namespace Entitlement.Store.Select

inductive Operator where
  | or
  | and
  | eq
  | ne
  | is
  | isNot
  | lt
  | le
  | gt
  | ge
deriving DecidableEq, Repr

inductive TextFunction where
  | lower
  | upper
deriving DecidableEq, Repr

/-! ## As written -/

inductive Expr where
  | null
  | integer (n : Nat)
  /-- An integer by its bits, with the way it is written. -/
  | bits (n : Nat) (written : String)
  | real (x : Binary64)
  | text (s : String)
  | blob (bs : List UInt8)
  | place (number : Nat)
  | name (qualifier : Option String) (column : String) (quoted : Bool)
  | call (function : String) (args : List Expr)
  | neg (e : Expr)
  | plus (e : Expr)
  | not (e : Expr)
  | binary (op : Operator) (a b : Expr)

/-- Whether an expression is a zero that is written out. -/
def Expr.isZero : Expr → Bool
  | .integer n => n == 0
  | _ => false

mutual

def Expr.height : Expr → Nat
  | .call _ args => heightOf args + 1
  | .neg e => e.height + 1
  | .plus e => e.height + 1
  | .not e => e.height + 1
  | .binary _ a b => max a.height b.height + 1
  | _ => 1

def Expr.heightOf : List Expr → Nat
  | [] => 0
  | e :: rest => max e.height (heightOf rest)

end

/-- A column of the result as it is written; `written` is the text of the expression. -/
inductive Output where
  | all
  | allOf (source : String)
  | expr (e : Expr) (label : Option String) (written : String)

/-- A statement as it is written. -/
structure Query where
  outputs : List Output
  sources : List (String × Option String)
  filter : Option Expr
  order : List (Expr × Bool)

/-! ## With names known -/

/-- An expression with its names known. -/
inductive Term where
  | cell (c : Cell)
  | place (number : Nat)
  | column (source column : Nat) (affinity : Affinity)
  | function (f : TextFunction) (arg : Term)
  | neg (arg : Term)
  /-- The value of a term, without the affinity of its column. -/
  | plus (arg : Term)
  | not (arg : Term)
  | binary (op : Operator) (a b : Term)
deriving DecidableEq

/-- A column of the result: its name and what it holds. -/
structure ResultColumn where
  name : String
  term : Term
deriving DecidableEq

/-- A statement with its names known: the columns of the result, the tables whose rows are combined,
the condition, and the terms to sort by, each with whether it sorts downwards. -/
structure Selection where
  columns : List ResultColumn
  sources : List Table
  filter : Option Term
  order : List (Term × Bool)
deriving DecidableEq

/-! ## Finding out what names stand for -/

/-- The sources of a statement: the name each goes by, and its table. -/
abbrev Scope := List (String × Table)

/-- Whether two names are the same, ASCII case aside. -/
def sameName (a b : String) : Bool :=
  a.toList.map Char.toLower == b.toList.map Char.toLower

/-- The columns of one source a name stands for. -/
def matchesIn (position : Nat) (t : Table) (column : String) : List Term :=
  ((List.range t.columns.length).zip t.columns).filterMap fun (i, c) =>
    if sameName c.name column then some (.column position i c.type.affinity) else none

/-- The columns a name stands for, the sources being counted from a position. -/
def matchesFrom (position : Nat) (qualifier : Option String) (column : String) :
    Scope → List Term
  | [] => []
  | (label, t) :: rest =>
    (if (qualifier.map (sameName label)).getD true then matchesIn position t column else []) ++
      matchesFrom (position + 1) qualifier column rest

/-- A name as it is shown to whoever wrote it. -/
def shownName (qualifier : Option String) (column : String) : String :=
  match qualifier with
  | some q => q ++ "." ++ column
  | none => column

/-- What a name stands for: a column; else, between double quotes, a text; else a truth value. -/
def nameTerm (scope : Scope) (qualifier : Option String) (column : String) (quoted : Bool) :
    Except Fault Term :=
  match matchesFrom 0 qualifier column scope with
  | [term] => .ok term
  | _ :: _ :: _ => .error (.ambiguousColumn (shownName qualifier column))
  | [] =>
    if qualifier.isSome then .error (.noSuchColumn (shownName qualifier column))
    else if quoted then .ok (.cell (.text column))
    else if sameName column "true" then .ok (.cell (.int 1))
    else if sameName column "false" then .ok (.cell (.int 0))
    else .error (.noSuchColumn column)

/-- The cell of an integer that is written with or without a sign. -/
def integerCell (negative : Bool) (n : Nat) : Cell :=
  let value : Int := if negative then -(n : Int) else n
  if fitsWord value then .int value else .real (Decimal.Scanned.storedReal ⟨negative, n, 0, true⟩)

/-- The integer of 64 bits. -/
def signedOfBits (n : Nat) : Int := if n ≤ Int64.maxValue.toInt then n else (n : Int) - UInt64.size

/-- Whether an integer given by its bits is none, and so is its opposite where that is asked for. -/
def isTooBig (negative : Bool) (n : Nat) : Bool :=
  UInt64.size ≤ n || (negative && signedOfBits n == Int64.minValue.toInt)

/-- The cell of an integer given by its bits. -/
def bitsCell (negative : Bool) (n : Nat) : Cell :=
  if isTooBig negative n then .null
  else .int (if negative then -signedOfBits n else signedOfBits n)

def textFunction? (name : String) : Option TextFunction :=
  if sameName name "lower" then some .lower
  else if sameName name "upper" then some .upper
  else none

/-- An expression with its names known. -/
def Expr.term (scope : Scope) : Expr → Except Fault Term
  | .null => .ok (.cell .null)
  | .integer n => .ok (.cell (integerCell false n))
  | .bits n _ => .ok (.cell (bitsCell false n))
  | .real x => .ok (.cell (.real x))
  | .text s => .ok (.cell (.text s))
  | .blob bs => .ok (.cell (.blob bs))
  | .place number => .ok (.place number)
  | .name qualifier column quoted => nameTerm scope qualifier column quoted
  | .call function args =>
    match textFunction? function with
    | none => .error (.noSuchFunction function)
    | some f =>
      match args with
      | [arg] => (arg.term scope).map (.function f)
      | _ => .error (.argumentsTo function)
  | .neg (.integer n) => .ok (.cell (integerCell true n))
  | .neg (.bits n _) => .ok (.cell (bitsCell true n))
  | .neg (.real x) => .ok (.cell (.real x.neg))
  | .neg e => (e.term scope).map .neg
  | .plus e => (e.term scope).map .plus
  | .not e => (e.term scope).map .not
  | .binary op a b =>
    match a.term scope with
    | .error fault => .error fault
    | .ok a =>
      match b.term scope with
      | .error fault => .error fault
      | .ok b => .ok (.binary op a b)

def sourceTables (exist : Bool) : List (String × Option String) → Except Fault Scope
  | [] => .ok []
  | (name, label) :: rest =>
    match (if exist then Table.all.find? fun t => sameName t.name name else none) with
    | none => .error (.noSuchTable name)
    | some t =>
      match sourceTables exist rest with
      | .error fault => .error fault
      | .ok scope => .ok ((label.getD name, t) :: scope)

def columnsOf (position : Nat) (t : Table) : List ResultColumn :=
  ((List.range t.columns.length).zip t.columns).map fun (i, c) =>
    ⟨c.name, .column position i c.type.affinity⟩

/-- All columns of the sources that pass a test, the sources being counted from a position. -/
def columnsFrom (keep : String → Bool) (position : Nat) : Scope → List ResultColumn
  | [] => []
  | (label, t) :: rest =>
    (if keep label then columnsOf position t else []) ++ columnsFrom keep (position + 1) rest

/-- Why a star stands for nothing. -/
def Output.refusal? (scope : Scope) : Output → Option Fault
  | .all => if scope.isEmpty then some .noTables else none
  | .allOf source =>
    if scope.any fun s => sameName source s.1 then none else some (.noSuchTable source)
  | .expr .. => none

/-- The columns of the result that one output stands for. -/
def Output.columns (scope : Scope) : Output → Except Fault (List ResultColumn)
  | .all => .ok (columnsFrom (fun _ => true) 0 scope)
  | .allOf source => .ok (columnsFrom (sameName source) 0 scope)
  | .expr e label written => (e.term scope).map fun term => [⟨label.getD written, term⟩]

/-- The columns that outputs stand for one after the other. -/
def outputsColumns (scope : Scope) : List Output → Except Fault (List ResultColumn)
  | [] => .ok []
  | output :: rest =>
    match output.columns scope with
    | .error fault => .error fault
    | .ok columns =>
      match outputsColumns scope rest with
      | .error fault => .error fault
      | .ok others => .ok (columns ++ others)

/-! ## Limits -/

/-- The greatest number of columns of a result, and of terms to sort by. -/
def mostColumns : Nat := 2000

/-- The greatest number of sources that are combined. -/
def mostCombined : Nat := 64

/-- How many columns an output stands for. -/
def Output.count (scope : Scope) : Output → Nat
  | .all => (columnsFrom (fun _ => true) 0 scope).length
  | .allOf source => (columnsFrom (sameName source) 0 scope).length
  | .expr .. => 1

/-- Whether outputs stand for too many columns. -/
def tooManyColumns (scope : Scope) (outputs : List Output) : Bool :=
  mostColumns < outputs.foldl (fun n output => n + output.count scope) 0

/-- The columns of the result.  Every star is looked at before any name is, and of several stars
that stand for nothing the last one is reported. -/
def resultColumns (scope : Scope) (outputs : List Output) : Except Fault (List ResultColumn) :=
  match (outputs.filterMap (·.refusal? scope)).getLast? with
  | some fault => .error fault
  | none =>
    if tooManyColumns scope outputs then .error .tooManyColumns else outputsColumns scope outputs

/-- The output a name labels. -/
def labelled? (outputs : List Output) (name : String) : Option Expr :=
  outputs.findSome? fun
    | .expr e (some label) _ => if sameName label name then some e else none
    | _ => none

/-- The integer that an expression to sort by is, if it is one of 32 bits. -/
def Expr.position? : Expr → Option Int
  | .integer n => if n ≤ Int32.maxValue.toInt then some n else none
  | .neg e => e.position?.map (-·)
  | .plus e => e.position?
  | _ => none

/-- The greatest position to sort by that is not refused at once. -/
def highestPosition : Int := 65535

/-- The term of an expression to sort by, the `n`-th one: an integer is the position of a column of
the result, a label is the column it labels. -/
def orderTerm (scope : Scope) (outputs : List Output) (columns : List ResultColumn) (n : Nat)
    (e : Expr) : Except Fault Term :=
  match e.position? with
  | some position =>
    if position < 1 ∨ highestPosition < position then .error (.sortPosition n columns.length)
    else .ok ((columns[position.toNat - 1]?.map (·.term)).getD (.cell .null))
  | none =>
    match e with
    | .name none column _ => ((labelled? outputs column).getD e).term scope
    | e => e.term scope

/-- The terms to sort by, counted from `n`. -/
def orderTerms (scope : Scope) (outputs : List Output) (columns : List ResultColumn) (n : Nat) :
    List (Expr × Bool) → Except Fault (List (Term × Bool))
  | [] => .ok []
  | (e, down) :: rest =>
    match orderTerm scope outputs columns n e with
    | .error fault => .error fault
    | .ok term =>
      match orderTerms scope outputs columns (n + 1) rest with
      | .error fault => .error fault
      | .ok others => .ok ((term, down) :: others)

/-- Why positions to sort by, counted from `n`, are none of so many columns. -/
def positionRefusal? (columns n : Nat) : List (Expr × Bool) → Option Fault
  | [] => none
  | (e, _) :: rest =>
    if e.position?.any ((columns : Int) < ·) then some (.sortPosition n columns)
    else positionRefusal? columns (n + 1) rest

/-! ## Integers that are none -/

mutual

/-- The integers of an expression that are too big, as they are written, in order. -/
def Expr.tooBig : Expr → List String
  | .bits n written => if isTooBig false n then [written] else []
  | .call _ args => tooBigOf args
  | .neg (.bits n written) => if isTooBig true n then ["-" ++ written] else []
  | .neg e => e.tooBig
  | .plus e => e.tooBig
  | .not e => e.tooBig
  | .binary _ a b => a.tooBig ++ b.tooBig
  | _ => []

/-- The integers of expressions that are too big. -/
def Expr.tooBigOf : List Expr → List String
  | [] => []
  | e :: rest => e.tooBig ++ tooBigOf rest

end

def Output.expr? : Output → Option Expr
  | .expr e .. => some e
  | _ => none

/-- The expressions of a statement, in the order in which they are worked out. -/
def Query.expressions (query : Query) : List Expr :=
  query.filter.toList ++ query.outputs.filterMap Output.expr? ++ query.order.map Prod.fst

/-- What is wrong with a statement whose names are known. -/
def Query.limitFault? (query : Query) : Option Fault :=
  if mostCombined < query.sources.length then some (.tooManySources mostCombined)
  else (Expr.tooBigOf query.expressions).getLast?.map .hexTooBig

/-! ## The whole statement -/

/-- The condition, if there is one. -/
def filterTerm (scope : Scope) : Option Expr → Except Fault (Option Term)
  | none => .ok none
  | some e => (e.term scope).map some

/-- The statement with its names known, `exist` telling whether there are any tables. -/
def Query.select (exist : Bool) (query : Query) : Except Fault Selection :=
  match sourceTables exist query.sources with
  | .error fault => .error fault
  | .ok scope =>
    match resultColumns scope query.outputs with
    | .error fault => .error fault
    | .ok columns =>
      match filterTerm scope query.filter with
      | .error fault => .error fault
      | .ok filter =>
        match orderTerms scope query.outputs columns 1 query.order with
        | .error fault => .error fault
        | .ok order =>
          if mostColumns < query.order.length then .error .tooManyOrders
          else
            match (positionRefusal? columns.length 1 query.order).or query.limitFault? with
            | some fault => .error fault
            | none => .ok ⟨columns, scope.map Prod.snd, filter, order⟩

end Entitlement.Store.Select
