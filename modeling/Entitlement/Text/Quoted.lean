import Entitlement.Text.Printable

/-!
# `Entitlement.Text.Quoted` — a text written so that its boundaries show

A quoted literal stands between two quotes of one kind: apostrophes, unless the text holds an
apostrophe and no double quote.  Inside, the backslash and the enclosing quote are written with a
backslash in front, line feed, carriage return and tab as a backslash and a letter, and everything
that is not shown as itself by its code in two, four or eight hexadecimal digits.  The other kind
of quote stands as itself, which is why the enclosing quote has to be read first.

Byte sequences are written the same way with a `b` in front and every byte beyond printable ASCII by
its two digits.  The functions are on lists of characters: `flatMap` over the text is what a proof
of unique reading inducts on.
-/
namespace Entitlement.Text

/-- A hexadecimal digit in lower case. -/
def hexDigit (n : Nat) : Char :=
  if n % 16 < 10 then Char.ofNat (48 + n % 16) else Char.ofNat (87 + n % 16)

/-- The last `width` hexadecimal digits of a number. -/
def hex : Nat → Nat → List Char
  | 0, _ => []
  | width + 1, n => hex width (n / 16) ++ [hexDigit n]

/-- The code of a character behind a backslash, as short as its size allows. -/
def escapeCode (n : Nat) : List Char :=
  if n < 0x100 then '\\' :: 'x' :: hex 2 n
  else if n < 0x10000 then '\\' :: 'u' :: hex 4 n
  else '\\' :: 'U' :: hex 8 n

/-- One character of a literal between quotes of the given kind. -/
def escape (shown : Char → Bool) (quote c : Char) : List Char :=
  if c = '\\' ∨ c = quote then ['\\', c]
  else if c = '\n' then ['\\', 'n']
  else if c = '\r' then ['\\', 'r']
  else if c = '\t' then ['\\', 't']
  else if shown c then [c]
  else escapeCode c.toNat

/-- The kind of quote a literal stands between. -/
def quoteMark (cs : List Char) : Char :=
  if '\'' ∈ cs ∧ '"' ∉ cs then '"' else '\''

/-- A literal that shows the given characters as themselves. -/
def quotedWith (shown : Char → Bool) (cs : List Char) : List Char :=
  let mark := quoteMark cs
  mark :: cs.flatMap (escape shown mark) ++ [mark]

/-- The literal of a text: printable characters stand as themselves. -/
def quoted (s : String) : String :=
  String.ofList (quotedWith isPrintable s.toList)

def quotedBytes (bytes : List UInt8) : String :=
  String.ofList ('b' ::
    quotedWith (fun c => c.toNat < 128 && isPrintable c) (bytes.map fun b => Char.ofNat b.toNat))

end Entitlement.Text
