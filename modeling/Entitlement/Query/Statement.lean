import Entitlement.Query.Bind

/-!
# `Entitlement.Query.Statement` — from a query text to a statement with places

A query text names its binds; the store knows only places for arguments, in order.  The statement of
a text is made in three steps.  Every bind is written out as a mark that holds its name; a colon
that was kept from beginning a bind by a backslash loses the backslash; and every mark of a declared
name becomes a place.

A mark is recognised by its shape alone, so a text may hold marks of its own, in a literal for
instance: one of a declared name becomes a place as well, one of another name stays as it is.  There
is a second shape, for a place that is to be made later; it stays in the statement, but asks for an
argument of its own.

`occurrences` lists the names whose arguments are handed over, in the order of the marks, so an
argument given for a name reaches all of its places.
-/
namespace Entitlement.Query

/-! ## Marks and escapes -/

/-- The characters of a piece: a bind is written out as a mark. -/
def Piece.chars : Piece → List Char
  | .char c => [c]
  | .bind name => '%' :: '(' :: name.toList ++ [')', 's']

/-- The characters that may follow an escaped colon without a break. -/
def isEscapable (c : Char) : Bool := Text.isWord c || c == '$'

/-- Whether a colon behind a backslash loses the backslash, `rest` being what follows the colon: it
does when no colon follows the name behind it, or when a dollar sign stands in that name. -/
def losesBackslash (rest : List Char) : Bool :=
  (rest.takeWhile isEscapable).contains '$' || (rest.dropWhile isEscapable).head? != some ':'

/-- A text without the backslashes that escape a colon. -/
def unescape : List Char → List Char
  | [] => []
  | c :: rest =>
    if c = '\\' ∧ rest.head? = some ':' ∧ losesBackslash (rest.drop 1) = true then
      ':' :: (rest.drop 1).takeWhile isEscapable ++
        unescape ((rest.drop 1).dropWhile isEscapable)
    else c :: unescape rest
termination_by cs => cs.length
decreasing_by
  · have := (List.dropWhile_suffix (l := rest.drop 1) isEscapable).length_le
    simp only [List.length_drop, List.length_cons] at this ⊢
    omega
  · simp

/-! ## Recognising marks -/

/-- A mark: its name, how many characters it takes, and whether it is for a place to be made now or
one to be made later. -/
structure Mark where
  name : List Char
  length : Nat
  later : Bool
deriving DecidableEq, Repr

/-- The mark at the beginning of a text whose first two characters are its opening. -/
def placeMark? (rest : List Char) : Option Mark :=
  let name := rest.takeWhile (· != ')')
  match rest.drop name.length with
  | _ :: 's' :: _ => if name.isEmpty then none else some ⟨name, name.length + 4, false⟩
  | _ => none

/-- What opens a mark for a place that is to be made later. -/
def laterOpening : List Char := "__[POSTCOMPILE_".toList

/-- How many characters lie between two waves and the next two waves that a bracket follows. -/
def waveLength? : List Char → Option Nat
  | '~' :: '~' :: ']' :: _ => some 0
  | '\n' :: _ => none
  | _ :: rest => (waveLength? rest).map (· + 1)
  | [] => none

/-- How many characters close a mark for a later place: a bracket, or something between waves and
then a bracket. -/
def closingLength? : List Char → Option Nat
  | ']' :: _ => some 1
  | '~' :: '~' :: c :: rest =>
    if c = '\n' then none else (waveLength? rest).map (· + 6)
  | _ => none

/-- The name of a mark for a later place and the number of characters that close it, the name being
as short as it can be. -/
def laterName? : List Char → Option (List Char × Nat)
  | [] => none
  | c :: rest =>
    if Text.isBlank c then none
    else
      match closingLength? rest with
      | some n => some ([c], n)
      | none => (laterName? rest).map fun (name, n) => (c :: name, n)

/-- The mark at the beginning of a text. -/
def mark? (cs : List Char) : Option Mark :=
  match cs with
  | '%' :: '(' :: rest => placeMark? rest
  | _ =>
    if laterOpening.isPrefixOf cs then
      (laterName? (cs.drop laterOpening.length)).map fun (name, n) =>
        ⟨name, laterOpening.length + name.length + n, true⟩
    else none

/-! ## Statements -/

/-- A part of a statement: a character, a place for the argument of a name, or an argument that is
handed over without a place. -/
inductive Part where
  | char (c : Char)
  | place (name : String)
  | argument (name : String)
deriving DecidableEq, Repr

/-- How the next characters of a text are read: looked at, copied, or passed over. -/
inductive Reading where
  | look
  | copy (n : Nat)
  | pass (n : Nat)

/-- The parts of a text, `declared` telling which names have arguments. -/
def partsFrom (declared : String → Bool) : Reading → List Char → List Part
  | _, [] => []
  | .copy (n + 1), c :: rest => .char c :: partsFrom declared (.copy n) rest
  | .pass (n + 1), _ :: rest => partsFrom declared (.pass n) rest
  | _, c :: rest =>
    match mark? (c :: rest) with
    | none => .char c :: partsFrom declared .look rest
    | some mark =>
      let name := String.ofList mark.name
      if !declared name then .char c :: partsFrom declared (.copy (mark.length - 1)) rest
      else if mark.later then
        .argument name :: .char c :: partsFrom declared (.copy (mark.length - 1)) rest
      else .place name :: partsFrom declared (.pass (mark.length - 1)) rest

/-- The parts of the statement of a query text. -/
def parts (sql : String) : List Part :=
  partsFrom (bindNames sql).contains .look (unescape ((scan sql).flatMap Piece.chars))

def Part.chars : Part → List Char
  | .char c => [c]
  | .place _ => ['?']
  | .argument _ => []

def Part.name? : Part → Option String
  | .char _ => none
  | .place name => some name
  | .argument name => some name

def statement (sql : String) : String := String.ofList ((parts sql).flatMap Part.chars)

/-- The names of a query text whose arguments are handed over, at every occurrence, in order. -/
def occurrences (sql : String) : List String := (parts sql).filterMap Part.name?

/-- The arguments handed over with the statement, given those of the distinct binds in order; a name
without an argument stays empty. -/
def atPlaces {α : Type} (sql : String) (args : List α) : List (Option α) :=
  let given := (bindNames sql).zip args
  (occurrences sql).map fun name => given.lookup name

end Entitlement.Query
