import Entitlement.Decimal.Stored
import Entitlement.Store.Select.Expr

/-!
# `Entitlement.Store.Select.Reader` — reading a statement

The language is the part of the relational query language that lookups use:

    SELECT output, …  [FROM table [AS] [label], …]  [WHERE condition]  [ORDER BY expr [DESC], …]

An output is an expression with or without a label, or a star.  Operators bind, from loosely to
tightly: `OR`, `AND`, `NOT`, equality and `IS`, order, sign.

Each reader takes the lexemes and returns what it read with the lexemes that are left, or refuses at
the first lexeme with which no statement can go on.  The readers of expressions call each other on
fewer lexemes only; that bound is carried as a number because a sign or a parenthesis changes the
reader and not the list, and it starts at four for every lexeme.

Reading has limits of its own, and a statement that exceeds one is refused where it does.
-/
namespace Entitlement.Store.Select

/-- The lexemes left behind what was read, or the refusal. -/
abbrev Read (α : Type) := Except Fault (α × List Lexeme)

/-! ## Words and marks -/

/-- The words that cannot be names. -/
def reservedWords : List String :=
  ["add", "all", "alter", "and", "as", "autoincrement", "between", "case", "check", "collate",
    "commit", "constraint", "create", "default", "deferrable", "delete", "distinct", "drop",
    "else", "escape", "except", "exists", "foreign", "from", "group", "having", "in", "index",
    "insert", "intersect", "into", "is", "isnull", "join", "limit", "not", "nothing", "notnull",
    "null", "on", "or", "order", "primary", "references", "returning", "select", "set", "table",
    "then", "to", "transaction", "union", "unique", "update", "using", "values", "when", "where",
    "cross", "full", "inner", "left", "natural", "outer", "right"]

def Lexeme.lower (l : Lexeme) : String := String.ofList (l.chars.map Char.toLower)

def Lexeme.isWord (l : Lexeme) (word : String) : Bool := l.kind == .word && l.lower == word

/-- Whether the next lexeme is a word of the language. -/
def startsWord (word : String) (ls : List Lexeme) : Bool :=
  (ls.head?.map (·.isWord word)).getD false

def startsMark (mark : String) (ls : List Lexeme) : Bool :=
  (ls.head?.map (·.isMark mark)).getD false

/-- The content of a quoted run: the quotes around it are left out, a quote that stands twice is
one quote. -/
def unquote : List Char → List Char
  | [] => []
  | quote :: rest => undouble quote rest.dropLast
where
  undouble (quote : Char) : List Char → List Char
    | [] => []
    | [c] => [c]
    | c :: d :: rest =>
      if c = quote ∧ d = quote then c :: undouble quote rest else c :: undouble quote (d :: rest)

/-- The bytes of pairs of hexadecimal digits. -/
def bytesOfHex : List Char → List UInt8
  | a :: b :: rest => UInt8.ofNat (value a * 16 + value b) :: bytesOfHex rest
  | _ => []
where
  value (c : Char) : Nat := if isDigit c then c.toNat - 48 else c.toLower.toNat - 87

/-- A number as it is written; a hexadecimal one that has more than 31 bits is kept apart. -/
def numberExpr (chars : List Char) : Expr :=
  match chars with
  | '0' :: x :: digits =>
    if x = 'x' ∨ x = 'X' then
      let n := ((bytesOfHex (if digits.length % 2 = 0 then digits else '0' :: digits)).foldl
        (fun n b => n * 256 + b.toNat) 0)
      if n ≤ Int32.maxValue.toNatClampNeg then .integer n else .bits n (String.ofList chars)
    else decimal
  | _ => decimal
where
  decimal : Expr :=
    match Decimal.scanDecimal chars with
    | some (scanned, _) =>
      if scanned.integral then .integer scanned.digits else .real scanned.storedReal
    | none => .null

/-- The name a lexeme is, and whether it stands between double quotes. -/
def Lexeme.name? (l : Lexeme) : Option (String × Bool) :=
  match l.kind with
  | .word => if l.lower ∈ reservedWords then none else some (l.raw, false)
  | .quotedName => some (String.ofList (unquote l.chars), l.chars.head? == some '"')
  | _ => none

/-- The name or the text a lexeme is, where either names something. -/
def Lexeme.label? (l : Lexeme) : Option String :=
  match l.kind with
  | .text => some (String.ofList (unquote l.chars))
  | _ => l.name?.map Prod.fst

/-! ## Expressions -/

def Operator.level : Operator → Nat
  | .or => 1
  | .and => 2
  | .eq | .ne | .is | .isNot => 4
  | .lt | .le | .gt | .ge => 5

def notLevel : Nat := 3

def signLevel : Nat := 9

/-- The operator that comes next, and the lexemes behind it. -/
def operator? : List Lexeme → Option (Operator × List Lexeme)
  | [] => none
  | l :: rest =>
    if l.isWord "or" then some (.or, rest)
    else if l.isWord "and" then some (.and, rest)
    else if l.isWord "is" then
      if startsWord "not" rest then some (.isNot, rest.drop 1) else some (.is, rest)
    else if l.isMark "=" || l.isMark "==" then some (.eq, rest)
    else if l.isMark "<>" || l.isMark "!=" then some (.ne, rest)
    else if l.isMark "<=" then some (.le, rest)
    else if l.isMark "<" then some (.lt, rest)
    else if l.isMark ">=" then some (.ge, rest)
    else if l.isMark ">" then some (.gt, rest)
    else none

/-- The test for null that comes next, and how many lexemes it takes. -/
def testFor (ls : List Lexeme) : Option (Operator × Nat) :=
  if startsWord "isnull" ls then some (.is, 1)
  else if startsWord "notnull" ls then some (.isNot, 1)
  else if startsWord "not" ls && startsWord "null" (ls.drop 1) then some (.isNot, 2)
  else none

/-- How many places of the stack an operator takes. -/
def Operator.width : Operator → Nat
  | .isNot => 2
  | _ => 1

/-! ## Limits

A statement is read with a stack of a fixed size, on which every lexeme stands until the part it
belongs to is complete; a reader is told the place at which its part begins.  An expression may be
nested only so deep, whether or not that shows on the stack.
-/

/-- The last place of the stack. -/
def lastPlace : Nat := 99

/-- What comes of putting something on the stack at a place. -/
def putAt {α : Type} (place : Nat) (result : Read α) : Read α :=
  if lastPlace < place then .error .stackOverflow else result

def greatestHeight : Nat := 1000

/-- An expression that was read, unless it is too high. -/
def lowEnough (e : Expr) (rest : List Lexeme) : Read Expr :=
  if greatestHeight < e.height then .error .tooHigh else .ok (e, rest)

def mostArguments : Nat := 127

/-- A call that was read, unless it has too many arguments; `written` is the name as it stands in
the statement. -/
def callOf (written : Lexeme) (name : String) (args : List Expr) (rest : List Lexeme) : Read Expr :=
  if mostArguments < args.length then .error (.tooManyArguments written.raw)
  else lowEnough (.call name args) rest

/-- The greatest number that may be given to a place. -/
def greatestNumber : Nat := 250000

/-- A place that was read; a number that is given to one has to be in range. -/
def placeOf (l : Lexeme) (rest : List Lexeme) : Read Expr :=
  if l.chars.head? = some '?' ∧ 1 < l.chars.length ∧ (l.number < 1 ∨ greatestNumber < l.number) then
    .error (.placeNumber greatestNumber)
  else .ok (.place l.number, rest)

/-- What two operands make with an operator; a conjunction with a zero that is written out is
nothing but that zero. -/
def joined (op : Operator) (a b : Expr) : Expr :=
  match op with
  | .and => if a.isZero || b.isZero then .integer 0 else .binary .and a b
  | op => .binary op a b

/-! ## Reading an expression -/

mutual

/-- An operand that begins at a place: a literal, a place for an argument, a name, a call, an
expression in parentheses, or one of these behind a sign or `NOT`. -/
def readOperand : Nat → Nat → List Lexeme → Read Expr
  | 0, _, ls => .error (refuse ls)
  | _ + 1, _, [] => .error .incomplete
  | fuel + 1, place, l :: rest =>
    if l.kind = .number then putAt place (.ok (numberExpr l.chars, rest))
    else if l.kind = .text then putAt place (.ok (.text (String.ofList (unquote l.chars)), rest))
    else if l.kind = .blob then
      putAt place (.ok (.blob (bytesOfHex ((l.chars.drop 2).dropLast)), rest))
    else if l.kind = .place then putAt place (placeOf l rest)
    else if l.isWord "null" then putAt place (.ok (.null, rest))
    else if l.isWord "not" then putAt place (readBehind .not fuel (place + 1) notLevel rest)
    else if l.isMark "-" then putAt place (readBehind .neg fuel (place + 1) signLevel rest)
    else if l.isMark "+" then putAt place (readBehind .plus fuel (place + 1) signLevel rest)
    else if l.isMark "(" then
      putAt place
        (match readExpr fuel (place + 1) 0 rest with
          | .error fault => .error fault
          | .ok (e, rest) =>
            if startsMark ")" rest then putAt (place + 2) (.ok (e, rest.drop 1))
            else .error (refuse rest))
    else
      match l.name? with
      | none => .error (refuse (l :: rest))
      | some (name, quoted) =>
        putAt place
          (if startsMark "(" rest then
            if startsMark ")" (rest.drop 1) then
              putAt (place + 4) (callOf l name [] (rest.drop 2))
            else
              match readArgs fuel (place + 3) (place + 3) (rest.drop 1) with
              | .error fault => .error fault
              | .ok (args, rest) => callOf l name args rest
          else if startsMark "." rest then
            putAt (place + 1)
              (match (rest.drop 1).head? with
                | none => .error .incomplete
                | some column =>
                  match column.label? with
                  | some c => putAt (place + 2) (.ok (.name (some name) c false, rest.drop 2))
                  | none => .error (refuse (rest.drop 1)))
          else .ok (.name none name quoted, rest))

/-- An expression behind something that is put in front of it. -/
def readBehind (make : Expr → Expr) : Nat → Nat → Nat → List Lexeme → Read Expr
  | 0, _, _, ls => .error (refuse ls)
  | fuel + 1, place, level, ls =>
    match readExpr fuel place level ls with
    | .error fault => .error fault
    | .ok (e, rest) => lowEnough (make e) rest

def readArgs : Nat → Nat → Nat → List Lexeme → Read (List Expr)
  | 0, _, _, ls => .error (refuse ls)
  | fuel + 1, first, place, ls =>
    match readExpr fuel place 0 ls with
    | .error fault => .error fault
    | .ok (e, rest) =>
      if startsMark ")" rest then putAt (first + 1) (.ok ([e], rest.drop 1))
      else if startsMark "," rest then
        putAt (first + 1)
          (match readArgs fuel first (first + 2) (rest.drop 1) with
            | .error fault => .error fault
            | .ok (es, rest) => .ok (e :: es, rest))
      else .error (refuse rest)

/-- An expression that begins at a place and whose operators bind at least as tightly as a level. -/
def readExpr : Nat → Nat → Nat → List Lexeme → Read Expr
  | 0, _, _, ls => .error (refuse ls)
  | fuel + 1, place, level, ls =>
    match readOperand fuel place ls with
    | .error fault => .error fault
    | .ok (e, rest) => readMore fuel place level e rest

/-- What follows an expression and belongs to it. -/
def readMore : Nat → Nat → Nat → Expr → List Lexeme → Read Expr
  | 0, _, _, e, ls => .ok (e, ls)
  | fuel + 1, place, level, e, ls =>
    match operator? ls with
    | some (op, rest) =>
      if level ≤ op.level then
        putAt (place + op.width)
          (match readExpr fuel (place + op.width + 1) (op.level + 1) rest with
            | .error fault => .error fault
            | .ok (b, rest) =>
              match lowEnough (joined op e b) rest with
              | .error fault => .error fault
              | .ok (e, rest) => readMore fuel place level e rest)
      else .ok (e, ls)
    | none =>
      if level ≤ Operator.eq.level then
        match testFor ls with
        | some (op, width) =>
          putAt (place + width)
            (match lowEnough (.binary op e .null) (ls.drop width) with
              | .error fault => .error fault
              | .ok (e, rest) => readMore fuel place level e rest)
        | none => .ok (e, ls)
      else .ok (e, ls)

end

/-- An expression that begins at a place of the stack. -/
def readExpression (place : Nat) (ls : List Lexeme) : Read Expr :=
  readExpr (4 * ls.length + 4) place 0 ls

/-! ## The parts of a statement -/

/-- A label behind an output or a table, with or without `AS`. -/
def readLabel (ls : List Lexeme) : Read (Option String) :=
  if startsWord "as" ls then
    match ls.drop 1 with
    | [] => .error .incomplete
    | l :: rest =>
      match l.label? with
      | some label => .ok (some label, rest)
      | none => .error (refuse (l :: rest))
  else
    match ls with
    | [] => .ok (none, [])
    | l :: rest =>
      match l.label? with
      | some label => .ok (some label, rest)
      | none => .ok (none, l :: rest)

/-- A column of the result, read where an expression of it begins at a place of the stack. -/
def readOutput (place : Nat) (ls : List Lexeme) : Read Output :=
  match ls with
  | l :: dot :: star :: rest =>
    if l.isMark "*" then .ok (.all, dot :: star :: rest)
    else if dot.isMark "." && star.isMark "*" then
      match l.name? with
      | some (name, _) => .ok (.allOf name, rest)
      | none => .error (refuse ls)
    else labelled ls
  | l :: rest => if l.isMark "*" then .ok (.all, rest) else labelled ls
  | [] => .error .incomplete
where
  labelled (ls : List Lexeme) : Read Output :=
    match readExpression place ls with
    | .error fault => .error fault
    | .ok (e, rest) =>
      match readLabel rest with
      | .error fault => .error fault
      | .ok (label, after) =>
        .ok (.expr e label (writtenAs (ls.take (ls.length - rest.length))), after)

def readSource (ls : List Lexeme) : Read (String × Option String) :=
  match ls with
  | [] => .error .incomplete
  | l :: rest =>
    match l.label? with
    | none => .error (refuse ls)
    | some name =>
      match readLabel rest with
      | .error fault => .error fault
      | .ok (label, rest) => .ok ((name, label), rest)

/-- An expression to sort by, with its direction. -/
def readOrder (place : Nat) (ls : List Lexeme) : Read (Expr × Bool) :=
  match readExpression place ls with
  | .error fault => .error fault
  | .ok (e, rest) =>
    if startsWord "desc" rest then .ok ((e, true), rest.drop 1)
    else if startsWord "asc" rest then .ok ((e, false), rest.drop 1)
    else .ok ((e, false), rest)

/-- One or more of something, with commas between them: the first one is read by the first reader
and the others by the second. -/
def readList {α : Type} (readFirst readOther : List Lexeme → Read α) :
    Nat → List Lexeme → Read (List α)
  | 0, ls => .error (refuse ls)
  | fuel + 1, ls =>
    match readFirst ls with
    | .error fault => .error fault
    | .ok (x, rest) =>
      if startsMark "," rest then
        match readList readOther readOther fuel (rest.drop 1) with
        | .error fault => .error fault
        | .ok (xs, rest) => .ok (x :: xs, rest)
      else .ok ([x], rest)

/-- What stands behind a word, if the word comes next; `absent` if it does not. -/
def readClause {α : Type} (word : String) (absent : α) (read : List Lexeme → Read α)
    (ls : List Lexeme) : Read α :=
  if startsWord word ls then read (ls.drop 1) else .ok (absent, ls)

/-- What stands behind `ORDER BY`; `base` places of the stack are taken in front of the statement.
-/
def readOrderBy (base : Nat) (ls : List Lexeme) : Read (List (Expr × Bool)) :=
  if startsWord "by" ls then
    readList (readOrder (base + 10)) (readOrder (base + 12)) ls.length (ls.drop 1)
  else .error (refuse ls)

/-- The condition behind `WHERE`. -/
def readCondition (base : Nat) (ls : List Lexeme) : Read (Option Expr) :=
  match readExpression (base + 6) ls with
  | .error fault => .error fault
  | .ok (e, rest) => .ok (some e, rest)

/-- The greatest number of sources that are read. -/
def mostSources : Nat := 200

def readSources (ls : List Lexeme) : Read (List (String × Option String)) :=
  match readList readSource readSource (ls.length + 1) ls with
  | .error fault => .error fault
  | .ok (sources, rest) =>
    if mostSources < sources.length then .error (.tooManyTerms mostSources) else .ok (sources, rest)

/-- The parts of a statement behind its outputs. -/
def readTail (base : Nat) (outputs : List Output) (ls : List Lexeme) : Read Query :=
  match readClause "from" [] readSources ls with
  | .error fault => .error fault
  | .ok (sources, ls) =>
    match readClause "where" none (readCondition base) ls with
    | .error fault => .error fault
    | .ok (filter, ls) =>
      match readClause "order" [] (readOrderBy base) ls with
      | .error fault => .error fault
      | .ok (order, ls) => .ok (⟨outputs, sources, filter, order⟩, ls)

/-- A statement, and the lexemes behind it; `base` places of the stack are taken in front of it. -/
def readQuery (base : Nat) (ls : List Lexeme) : Read Query :=
  if startsWord "select" ls then
    match readList (readOutput (base + 5)) (readOutput (base + 5)) ls.length (ls.drop 1) with
    | .error fault => .error fault
    | .ok (outputs, rest) => readTail base outputs rest
  else .error (refuse ls)

end Entitlement.Store.Select
