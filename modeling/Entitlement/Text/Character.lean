/-!
# `Entitlement.Text.Character` — classes of characters, and the bytes of a text

A class that a standard fixes by enumeration is a list of `Ranges`, its maximal runs in ascending
order.  Membership is a plain search of that list: the classes have a few hundred runs, ASCII
characters are decided before the list is consulted, and a search that is a `List.any` can be opened
in one step, which a packed bit table cannot.

Two classes of blank characters are in use and they differ.  A flag word is trimmed of everything
that separates words, paragraphs or records: the White_Space characters together with the four
information separators U+001C to U+001F.  A number in the settings is trimmed of the White_Space
characters alone.  Keeping one class for both would read `"\u001c8080"` as a number.

A decimal digit (category Nd) always stands in a block of ten that begins with its zero, so that
class is given by its zeros alone, in version 14.0.0 of the character database.
-/
namespace Entitlement.Text

/-! ## Ranges -/

/-- Ascending runs of code points, each given by its first and its last member. -/
abbrev Ranges := List (Nat × Nat)

/-- A code point belongs to a class when one of its runs holds it. -/
def Ranges.holds (runs : Ranges) (n : Nat) : Bool :=
  runs.any fun run => run.1 ≤ n && n ≤ run.2

/-! ## Blanks -/

/-- The White_Space property of the character database. -/
def isWhiteSpace (c : Char) : Bool :=
  let n := c.toNat
  (9 ≤ n && n ≤ 13) || n == 0x20 || n == 0x85 || n == 0xa0 || n == 0x1680 ||
    (0x2000 ≤ n && n ≤ 0x200a) || n == 0x2028 || n == 0x2029 || n == 0x202f || n == 0x205f ||
    n == 0x3000

/-- White space and the four information separators. -/
def isBlank (c : Char) : Bool :=
  isWhiteSpace c || (0x1c ≤ c.toNat && c.toNat ≤ 0x1f)

/-- Both ends freed of the characters of a class. -/
def trim (p : Char → Bool) (cs : List Char) : List Char :=
  ((cs.dropWhile p).reverse.dropWhile p).reverse

/-! ## Decimal digits -/

/-- The zero of each block of ten decimal digits. -/
def decimalZeros : List Nat := [
    0x30, 0x660, 0x6f0, 0x7c0, 0x966, 0x9e6, 0xa66, 0xae6, 0xb66, 0xbe6, 0xc66, 0xce6, 0xd66,
    0xde6, 0xe50, 0xed0, 0xf20, 0x1040, 0x1090, 0x17e0, 0x1810, 0x1946, 0x19d0, 0x1a80, 0x1a90,
    0x1b50, 0x1bb0, 0x1c40, 0x1c50, 0xa620, 0xa8d0, 0xa900, 0xa9d0, 0xa9f0, 0xaa50, 0xabf0,
    0xff10, 0x104a0, 0x10d30, 0x11066, 0x110f0, 0x11136, 0x111d0, 0x112f0, 0x11450, 0x114d0,
    0x11650, 0x116c0, 0x11730, 0x118e0, 0x11950, 0x11c50, 0x11d50, 0x11da0, 0x16a60, 0x16ac0,
    0x16b50, 0x1d7ce, 0x1d7d8, 0x1d7e2, 0x1d7ec, 0x1d7f6, 0x1e140, 0x1e2f0, 0x1e950, 0x1fbf0]

/-- The value of a decimal digit of any script. -/
def decimalDigit? (c : Char) : Option Nat :=
  (decimalZeros.find? fun z => z ≤ c.toNat && c.toNat < z + 10).map (c.toNat - ·)

/-- The value of an ASCII digit. -/
def asciiDigit? (c : Char) : Option Nat :=
  if '0' ≤ c && c ≤ '9' then some (c.toNat - 48) else none

/-- A run of digit values, most significant first, as a number. -/
def ofDigits (digits : List Nat) : Nat :=
  digits.foldl (fun n d => n * 10 + d) 0

/-! ## Bytes -/

/-- The text that bytes encode; some byte sequences encode none. -/
def utf8? (bytes : List UInt8) : Option String := String.fromUTF8? ⟨bytes.toArray⟩

end Entitlement.Text
