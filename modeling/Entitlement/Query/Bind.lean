import Entitlement.Distinct
import Entitlement.Text.Word

/-!
# `Entitlement.Query.Bind` — the named parameters of a query text

A query text declares a bind by a colon and a name.  The colon must not follow a colon, a backslash
or a word character, the name is the maximal run of word characters behind it, and no colon may
follow the name.  So `::text` and `12:30` declare nothing, and an escaped colon declares nothing;
quotes and comments play no part, and a bind inside a string literal is a bind.

`scan` cuts a text into the binds it declares and the characters between them.  Everything else here
is read off that list: the names it declares, and the text with something put in place of each bind.
A bind's own name cannot hold the colon of another bind, so the scan passes over no declaration.
-/
namespace Entitlement.Query

/-- A piece of a query text: a bind, or a character that belongs to none. -/
inductive Piece where
  | char (c : Char)
  | bind (name : String)
deriving DecidableEq, Repr

/-- Whether a colon behind this character can begin a bind. -/
def canPrecedeBind (c : Char) : Bool := !(c == ':' || c == '\\' || Text.isWord c)

/-- The name of the bind whose colon was just read. -/
def bindName? (rest : List Char) : Option String :=
  let name := rest.takeWhile Text.isWord
  if name.isEmpty || (rest.dropWhile Text.isWord).head? == some ':' then none
  else some (String.ofList name)

/-- The pieces of a text, `free` telling whether the character in front lets a bind begin. -/
def scanFrom (free : Bool) : List Char → List Piece
  | [] => []
  | c :: rest =>
    match (if free && c == ':' then bindName? rest else none) with
    | some name => .bind name :: scanFrom false (rest.dropWhile Text.isWord)
    | none => .char c :: scanFrom (canPrecedeBind c) rest
termination_by cs => cs.length
decreasing_by
  · have := (List.dropWhile_suffix (l := rest) Text.isWord).length_le
    simp only [List.length_cons]; omega
  · simp

def scan (sql : String) : List Piece := scanFrom true sql.toList

def Piece.name? : Piece → Option String
  | .bind name => some name
  | .char _ => none

/-- The distinct bind names of a query text, in order of first appearance. -/
def bindNames (sql : String) : List String :=
  distinct ((scan sql).filterMap Piece.name?)

end Entitlement.Query
