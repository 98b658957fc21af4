import Entitlement.Decimal.Binary64

/-!
# `Entitlement.Decimal.Shortest` — the decimal digits of a double

A finite double that is not zero owns an interval of reals: those that round to it, the end points
included exactly when its mantissa is even.  Its shortest decimal is the number with the fewest
digits in that interval, and among those with that many digits the nearest to the double.  On the
grid of decimals with `n` digits only the two neighbours of the double can be nearest, so trying
`n = 1, 2, …, 17` on those two decides the matter in exact arithmetic.
-/
namespace Entitlement.Decimal

/-- A positive decimal `digits · 10 ^ exponent`. -/
structure Digits where
  digits : Nat
  exponent : Int
deriving DecidableEq, Repr

/-- The position of the first digit of a positive ratio: the `e` with `10 ^ e ≤ num / den`
and `num / den < 10 ^ (e + 1)`. -/
def decimalLog (num den : Nat) : Int :=
  let size (n : Nat) : Int := (Nat.toDigits 10 n).length
  let guess := size num - size den
  let below :=
    if 0 ≤ guess then num < den * Nat.pow 10 guess.toNat
    else num * Nat.pow 10 (-guess).toNat < den
  if below then guess - 1 else guess

/-- A ratio in units of `10 ^ unit`. -/
def inUnits (num den : Nat) (unit : Int) : Nat × Nat :=
  if 0 ≤ unit then (num, den * Nat.pow 10 unit.toNat) else (num * Nat.pow 10 (-unit).toNat, den)

/-- The ends of the interval that rounds to `m · 2 ^ q`, in units of `2 ^ (q - 3)`, of which the
double itself is `8 · m`; below a power of two the gap is half as wide. -/
def roundingBounds (x : Binary64) : Nat × Nat :=
  let m := x.mantissa
  let narrow := x.fraction == 0 && 1 < x.exponent.toNat
  (if narrow then 8 * m - 2 else 8 * m - 4, 8 * m + 4)

/-- Whether `num / den` rounds to the finite double. -/
def readsBack (x : Binary64) (num den : Nat) : Bool :=
  let (low, high) := roundingBounds x
  let (xnum, xden) := x.ratio
  -- an end `b` is the number `b / (8 m) · xnum / xden`; denominators are cleared
  let scaled := num * xden * (8 * x.mantissa)
  let lowSide := low * xnum * den
  let highSide := high * xnum * den
  if x.mantissa % 2 = 0 then lowSide ≤ scaled && scaled ≤ highSide
  else lowSide < scaled && scaled < highSide

/-- The decimal with at most `n` digits that is nearest to the double among those that read back. -/
def withDigits? (x : Binary64) (n : Nat) : Option Digits :=
  let (num, den) := x.ratio
  let unit := decimalLog num den + 1 - n
  let (unum, uden) := inUnits num den unit
  let below := unum / uden
  let above := below + 1
  let reads (d : Nat) : Bool :=
    if 0 ≤ unit then readsBack x (d * Nat.pow 10 unit.toNat) 1
    else readsBack x d (Nat.pow 10 (-unit).toNat)
  match reads below, reads above with
  | true, true =>
    let gap := unum - below * uden
    some ⟨if 2 * gap < uden || (2 * gap == uden && below % 2 == 0) then below else above, unit⟩
  | true, false => some ⟨below, unit⟩
  | false, true => some ⟨above, unit⟩
  | false, false => none

/-- The first hit of a search through digit counts. -/
def firstDigits (x : Binary64) : List Nat → Digits
  | [] => ⟨0, 0⟩
  | n :: rest =>
    match withDigits? x n with
    | some d => d
    | none => firstDigits x rest

/-- The shortest decimal of a finite double other than zero. -/
def shortestDigits (x : Binary64) : Digits :=
  firstDigits x ((List.range 17).map (· + 1))

end Entitlement.Decimal
