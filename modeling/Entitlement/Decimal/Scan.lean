import Entitlement.Decimal.Binary64
import Entitlement.Text.Character

/-!
# `Entitlement.Decimal.Scan` — decimal notation read as a number

`scanDecimal` reads the longest beginning of a text that is a decimal number: a sign, digits with at
most one point among them, and an exponent.  It returns the rest, so a caller that wants the whole
text to be a number says so itself.  An `e` that no digit follows is not an exponent and stays in
the rest.

A number is kept as sign, digits and power of ten until it is rounded, so no precision is lost on
the way.
-/
namespace Entitlement.Decimal

/-- A decimal number `± digits · 10 ^ exponent`, and whether it was written as an integer. -/
structure Scanned where
  negative : Bool
  digits : Nat
  exponent : Int
  integral : Bool
deriving DecidableEq, Repr

/-- The digits at the beginning of a text, and the rest. -/
def spanDigits : List Char → List Nat × List Char
  | [] => ([], [])
  | c :: rest =>
    match Text.asciiDigit? c with
    | some d => (d :: (spanDigits rest).1, (spanDigits rest).2)
    | none => ([], c :: rest)

/-- A sign at the beginning of a text: whether it is a minus, and the rest. -/
def spanSign : List Char → Bool × List Char
  | '-' :: rest => (true, rest)
  | '+' :: rest => (false, rest)
  | rest => (false, rest)

/-- An exponent at the beginning of a text; zero when there is none. -/
def spanExponent : List Char → Option Int × List Char
  | c :: rest =>
    if c == 'e' || c == 'E' then
      let (minus, rest') := spanSign rest
      match spanDigits rest' with
      | ([], _) => (none, c :: rest)
      | (ds, tail) =>
        let n : Int := Text.ofDigits ds
        (some (if minus then -n else n), tail)
    else (none, c :: rest)
  | [] => (none, [])

/-- The number without a sign at the beginning of a text, and the rest. -/
def scanUnsigned (negative : Bool) (cs : List Char) : Option (Scanned × List Char) :=
  let (whole, afterWhole) := spanDigits cs
  let (fraction, afterFraction, pointed) :=
    match afterWhole with
    | '.' :: rest => ((spanDigits rest).1, (spanDigits rest).2, true)
    | rest => ([], rest, false)
  if whole.isEmpty && fraction.isEmpty then none
  else
    let (exponent, rest) := spanExponent afterFraction
    some (⟨negative, Text.ofDigits (whole ++ fraction), exponent.getD 0 - fraction.length,
      !pointed && exponent.isNone⟩, rest)

/-- The number at the beginning of a text, and the rest. -/
def scanDecimal (cs : List Char) : Option (Scanned × List Char) :=
  scanUnsigned (spanSign cs).1 (spanSign cs).2

/-- The nearest double. -/
def Scanned.toBinary64 (s : Scanned) : Binary64 :=
  Binary64.ofScientific s.negative s.digits s.exponent

/-- The integer a number written without point and exponent stands for. -/
def Scanned.toInt (s : Scanned) : Int :=
  if s.negative then -(s.digits : Int) else s.digits

/-- A double written as decimal notation, or as one of the words for the values that have none. -/
def binary64? (cs : List Char) : Option Binary64 :=
  if cs == "nan".toList then some Binary64.nan
  else if cs == "inf".toList then some (Binary64.infinity false)
  else if cs == "-inf".toList then some (Binary64.infinity true)
  else
    match scanDecimal cs with
    | some (s, []) => some s.toBinary64
    | _ => none

end Entitlement.Decimal
