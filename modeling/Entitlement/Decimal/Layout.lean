import Entitlement.Decimal.Shortest

/-!
# `Entitlement.Decimal.Layout` — how a decimal number is set

Two notations for doubles are written: the shortest one, in which a value shows itself to a reader,
and the one with fifteen digits, in which the relational store turns a real into text.  They differ
in the digits they choose and in where positional notation ends, and share everything else, so the
differences are a record and the writing is one function.
-/
namespace Entitlement.Decimal

/-- Where positional notation ends, and whether a lone leading digit gets `.0` before an exponent.
-/
structure Layout where
  lowest : Int
  highest : Int
  pointBeforeExponent : Bool

/-- Shortest notation is positional from `1e-4` up to below `1e16`. -/
def Layout.shortest : Layout := ⟨-4, 15, false⟩

/-- Fifteen-digit notation is positional from `1e-4` up to below `1e15`. -/
def Layout.fifteen : Layout := ⟨-4, 14, true⟩

/-- Digits freed of zeros at the end. -/
def dropZeros (digits : List Char) : List Char :=
  (digits.reverse.dropWhile (· == '0')).reverse

/-- An exponent with its sign and at least two digits. -/
def exponentText (e : Int) : List Char :=
  let ds := Nat.toDigits 10 e.natAbs
  (if e < 0 then ['e', '-'] else ['e', '+']) ++ (if ds.length < 2 then '0' :: ds else ds)

/-- A positive decimal, set out by a layout. -/
def Layout.write (layout : Layout) (d : Digits) : List Char :=
  let all := Nat.toDigits 10 d.digits
  let first := d.exponent + all.length - 1
  let ds := dropZeros all
  let whole (cs : List Char) : List Char := if cs.isEmpty then ['0'] else cs
  if layout.lowest ≤ first && first ≤ layout.highest then
    if first < 0 then
      ['0', '.'] ++ List.replicate (-first - 1).toNat '0' ++ ds
    else
      let n := first.toNat + 1
      let padded := ds ++ List.replicate (n - ds.length) '0'
      padded.take n ++ '.' :: whole (padded.drop n)
  else
    match ds with
    | [] => []
    | c :: rest =>
      let tail :=
        if rest.isEmpty then (if layout.pointBeforeExponent then ['.', '0'] else [])
        else '.' :: rest
      c :: tail ++ exponentText first

/-- A double other than NaN and the infinities, set out by a layout with the digits chosen. -/
def Layout.writeFinite (layout : Layout) (choose : Binary64 → Digits) (x : Binary64) : List Char :=
  let sign := if x.negative then ['-'] else []
  if x.isZero then sign ++ ['0', '.', '0'] else sign ++ layout.write (choose x)

/-- The shortest text that reads back as the double. -/
def shortestText (x : Binary64) : List Char :=
  if x.isNan then "nan".toList
  else if x.isInfinite then (if x.negative then "-inf".toList else "inf".toList)
  else Layout.shortest.writeFinite shortestDigits x

end Entitlement.Decimal
