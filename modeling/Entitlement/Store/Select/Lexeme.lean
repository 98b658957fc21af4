import Entitlement.Store.Fault

/-!
# `Entitlement.Store.Select.Lexeme` — the words of the store's language

A statement is cut into lexemes by looking at one character and at what follows it: `extent` says
of which kind the lexeme is that begins there and how many further characters belong to it.  The
cutting itself is one recursion that drops that many, so nothing is lost and nothing is read twice.

Blanks and comments are cut out like everything else and then left out, though each lexeme keeps
those behind it.  Something that is no lexeme
of the language becomes one of the kind `illegal`; it is refused only when a reader gets to it, so a
mistake further left is reported first.

Places for arguments are numbered in the order in which they stand; a place that has a name has the
same number wherever it stands.
-/
namespace Entitlement.Store.Select

inductive Kind where
  | blank
  | word
  | quotedName
  | text
  | blob
  | number
  | place
  | mark
  | illegal
deriving DecidableEq, Repr

/-- A lexeme: its kind, its characters, for a place its number, and the blanks and comments that
stand behind it. -/
structure Lexeme where
  kind : Kind
  chars : List Char
  number : Nat := 0
  behind : List Char := []
deriving DecidableEq, Repr

def Lexeme.raw (l : Lexeme) : String := String.ofList l.chars

/-- Blanks in the sense in which they end what stands in parentheses behind the name of a place, and
in which they are cut off around the text of a column. -/
def isBreak (c : Char) : Bool := c == ' ' || (9 ≤ c.toNat && c.toNat ≤ 13)

/-- The text of the lexemes as it is written, without the blanks around it. -/
def writtenAs (ls : List Lexeme) : String :=
  String.ofList (((ls.flatMap fun l => l.chars ++ l.behind).dropWhile isBreak).reverse.dropWhile
    isBreak).reverse

/-! ## Classes of characters -/

def isDigit (c : Char) : Bool := '0' ≤ c && c ≤ '9'

def isHexDigit (c : Char) : Bool :=
  isDigit c || ('a' ≤ c && c ≤ 'f') || ('A' ≤ c && c ≤ 'F')

/-- The characters a word begins with. -/
def isWordStart (c : Char) : Bool :=
  ('a' ≤ c && c ≤ 'z') || ('A' ≤ c && c ≤ 'Z') || c == '_' || 128 ≤ c.toNat

/-- The characters a word goes on with. -/
def isWordPart (c : Char) : Bool := isWordStart c || isDigit c || c == '$'

def isSpace (c : Char) : Bool :=
  c == ' ' || c == '\t' || c == '\n' || c == '\x0c' || c == '\r'

/-! ## Lengths -/

/-- How many characters at the beginning belong to a class. -/
def run (p : Char → Bool) (cs : List Char) : Nat := (cs.takeWhile p).length

/-- The length of a quoted run whose opening quote was read, its closing quote included; a quote
that stands twice does not close. -/
def quotedLength (quote : Char) : List Char → Option Nat
  | [] => none
  | [c] => if c = quote then some 1 else none
  | c :: d :: rest =>
    if c = quote then
      if d = quote then (quotedLength quote rest).map (· + 2) else some 1
    else (quotedLength quote (d :: rest)).map (· + 1)

/-- The length of a comment behind its opening, its closing included; an open comment goes on to
the end. -/
def commentLength : List Char → Nat
  | [] => 0
  | [_] => 1
  | c :: d :: rest => if c = '*' ∧ d = '/' then 2 else commentLength (d :: rest) + 1

/-- The length of an exponent, zero when there is none. -/
def exponentLength : List Char → Nat
  | e :: rest =>
    if e = 'e' ∨ e = 'E' then
      match rest with
      | sign :: d :: _ =>
        if isDigit sign then 1 + run isDigit rest
        else if (sign = '+' ∨ sign = '-') ∧ isDigit d then 2 + run isDigit (rest.drop 1)
        else 0
      | [d] => if isDigit d then 2 else 0
      | [] => 0
    else 0
  | [] => 0

/-- The extent of parentheses behind the name of a place, whose opening one was read: they end at
the closing one, and a blank or the end must not come before it. -/
def subscriptExtent (rest : List Char) : Kind × Nat :=
  let n := run (fun c => c != ')' && !isBreak c) rest
  if (rest.drop n).head? = some ')' then (.place, n + 1) else (.illegal, n)

/-- The extent of the name of a place: word characters, among which colons may stand in pairs, and
then perhaps something in parentheses.  There has to be a word character, `named` telling whether
there was one already. -/
def placeExtent (named : Bool) : List Char → Kind × Nat
  | ':' :: ':' :: rest => ((placeExtent named rest).1, (placeExtent named rest).2 + 2)
  | c :: rest =>
    if isWordPart c then ((placeExtent true rest).1, (placeExtent true rest).2 + 1)
    else if c = '(' ∧ named then ((subscriptExtent rest).1, (subscriptExtent rest).2 + 1)
    else (if named then .place else .illegal, 0)
  | [] => (if named then .place else .illegal, 0)

def decimalLength (cs : List Char) : Nat :=
  let whole := run isDigit cs
  let fraction := match cs.drop whole with
    | '.' :: rest => 1 + run isDigit rest
    | _ => 0
  whole + fraction + exponentLength (cs.drop (whole + fraction))

/-- The length of a number: hexadecimal behind `0x`, else decimal. -/
def numberLength : List Char → Nat
  | '0' :: x :: d :: rest =>
    if (x = 'x' ∨ x = 'X') ∧ isHexDigit d then 2 + run isHexDigit (d :: rest)
    else decimalLength ('0' :: x :: d :: rest)
  | cs => decimalLength cs

/-! ## Cutting -/

/-- A number, unless word characters follow it directly. -/
def numberExtent (cs : List Char) : Kind × Nat :=
  let n := numberLength cs
  let tail := run isWordPart (cs.drop n)
  (if tail = 0 then .number else .illegal, n + tail - 1)

/-- A run between quotes, or all of the rest when it is not closed. -/
def quotedExtent (kind : Kind) (quote : Char) (rest : List Char) : Kind × Nat :=
  match quotedLength quote rest with
  | some n => (kind, n)
  | none => (.illegal, rest.length)

/-- A blob between apostrophes, in pairs of hexadecimal digits. -/
def blobExtent (rest : List Char) : Kind × Nat :=
  let digits := run isHexDigit (rest.drop 1)
  match rest.drop (1 + digits) with
  | '\'' :: _ => (if digits % 2 = 0 then .blob else .illegal, digits + 2)
  | others =>
    let more := run (· != '\'') others
    (.illegal, 1 + digits + more + (if others.length = more then 0 else 1))

/-- The kind of the lexeme that begins with a character, and how many characters behind that one
belong to it. -/
def extent (c : Char) (rest : List Char) : Kind × Nat :=
  let next := rest.head?
  if isSpace c then (.blank, run isSpace rest)
  else if c = '\ufeff' then (.blank, 0)
  else if c = '-' then
    if next = some '-' then (.blank, run (· != '\n') rest)
    else if next = some '>' then (.mark, if rest.drop 1 |>.head? |> (· = some '>') then 2 else 1)
    else (.mark, 0)
  else if c = '/' then
    if next = some '*' ∧ 2 ≤ rest.length then (.blank, 1 + commentLength (rest.drop 1))
    else (.mark, 0)
  else if c ∈ ['(', ')', ';', '+', '*', '%', ',', '&', '~'] then (.mark, 0)
  else if c = '=' then (.mark, if next = some '=' then 1 else 0)
  else if c = '<' then
    (.mark, if next = some '=' ∨ next = some '>' ∨ next = some '<' then 1 else 0)
  else if c = '>' then (.mark, if next = some '=' ∨ next = some '>' then 1 else 0)
  else if c = '!' then if next = some '=' then (.mark, 1) else (.illegal, 0)
  else if c = '|' then (.mark, if next = some '|' then 1 else 0)
  else if c = '\'' then quotedExtent .text c rest
  else if c = '"' ∨ c = '\x60' then quotedExtent .quotedName c rest
  else if c = '[' then
    let n := run (· != ']') rest
    if n < rest.length then (.quotedName, n + 1) else (.illegal, n)
  else if isDigit c then numberExtent (c :: rest)
  else if c = '.' then
    if (next.map isDigit).getD false then numberExtent (c :: rest) else (.mark, 0)
  else if c = '?' then (.place, run isDigit rest)
  else if c = ':' ∨ c = '@' ∨ c = '$' ∨ c = '#' then placeExtent false rest
  else if (c = 'x' ∨ c = 'X') ∧ next = some '\'' then blobExtent rest
  else if isWordStart c then (.word, run isWordPart rest)
  else (.illegal, 0)

/-- The lexemes of a text, blanks included. -/
def cut : List Char → List Lexeme
  | [] => []
  | c :: rest =>
    let (kind, more) := extent c rest
    { kind, chars := c :: rest.take more } :: cut (rest.drop more)
termination_by cs => cs.length
decreasing_by
  simp only [List.length_drop, List.length_cons]
  omega

/-! ## Numbering the places -/

/-- The number a lexeme's digits give, zero when it has none. -/
def givenNumber (l : Lexeme) : Nat :=
  Text.ofDigits ((l.chars.drop 1).filterMap Text.asciiDigit?)

/-- The lexemes with their places numbered, `used` numbers and the `named` places being known. -/
def numberPlaces (used : Nat) (named : List (List Char × Nat)) : List Lexeme → List Lexeme
  | [] => []
  | l :: rest =>
    if l.kind = .place then
      if l.chars = ['?'] then
        { l with number := used + 1 } :: numberPlaces (used + 1) named rest
      else if l.chars.head? = some '?' then
        { l with number := givenNumber l } :: numberPlaces (max used (givenNumber l)) named rest
      else
        match named.lookup l.chars with
        | some n => { l with number := n } :: numberPlaces used named rest
        | none =>
          { l with number := used + 1 } ::
            numberPlaces (used + 1) ((l.chars, used + 1) :: named) rest
    else l :: numberPlaces used named rest

def Lexeme.isMark (l : Lexeme) (mark : String) : Bool := l.kind == .mark && l.raw == mark

/-- The lexemes of a text that may hold several statements: how many marks stand in front of the
first statement that close nothing, the lexemes of that statement with the mark that closes it, and
the text behind it. -/
structure Cutting where
  leading : Bool
  first : List Lexeme
  tail : List Char

/-- Whether a lexeme is nothing to a reader: a blank, or a mark that closes no statement. -/
def isIdle (l : Lexeme) : Bool := l.kind == .blank || l.isMark ";"

/-- The lexemes that are no blanks, each with the blanks behind it. -/
def withoutBlanks : List Lexeme → List Lexeme
  | [] => []
  | l :: rest =>
    if l.kind = .blank then withoutBlanks rest
    else
      { l with behind := (rest.takeWhile (·.kind == .blank)).flatMap (·.chars) } ::
        withoutBlanks rest

/-- A text cut into its first statement and what is behind it. -/
def cutFirst (sql : String) : Cutting :=
  let all := cut sql.toList
  let ls := all.dropWhile isIdle
  let body := ls.takeWhile (!·.isMark ";")
  let closing := (ls.drop body.length).take 1
  { leading := (all.takeWhile isIdle).any (·.isMark ";")
    first := numberPlaces 0 [] (withoutBlanks (body ++ closing))
    tail := (ls.drop (body.length + closing.length)).flatMap (·.chars) }

/-- Whether nothing but blanks and comments stands in a text behind a statement; a comment that is
not closed takes all the rest. -/
def isIdleTail : List Char → Bool
  | [] => true
  | '-' :: '-' :: rest => lineComment rest
  | '/' :: '*' :: rest => blockComment rest
  | c :: rest => isSpace c && isIdleTail rest
where
  lineComment : List Char → Bool
    | [] => true
    | c :: rest => if c = '\n' then isIdleTail rest else lineComment rest
  blockComment : List Char → Bool
    | [] => true
    | '*' :: '/' :: rest => isIdleTail rest
    | _ :: rest => blockComment rest

/-- What a reader says that cannot go on. -/
def refuse : List Lexeme → Fault
  | [] => .incomplete
  | l :: _ => if l.kind = .illegal then .unrecognized l.raw else .unexpected l.raw

end Entitlement.Store.Select
