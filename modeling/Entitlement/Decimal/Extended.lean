import Entitlement.Decimal.Binary64

/-!
# `Entitlement.Decimal.Extended` — numbers with a mantissa of 64 bits

Between a decimal text and a double stands arithmetic with more bits than a double has.  A number
here is `m · 2 ^ q` with a mantissa of at most 64 bits and any exponent; it has no sign, because
signs are put aside before and put back afterwards.  Each operation is the exact one followed by
`round`, which goes to the nearest such number and, in the middle, to the even mantissa.  The
exponents that occur are far from where a stored form would end, so there is no overflow.

Comparing two numbers and splitting one at its point are exact.
-/
namespace Entitlement.Decimal

/-- A number `mantissa · 2 ^ exponent`. -/
structure Extended where
  mantissa : Nat
  exponent : Int
deriving DecidableEq, Repr

namespace Extended

/-- The number nearest to `num / den · 2 ^ exponent`. -/
def round (num den : Nat) (exponent : Int) : Extended :=
  if num = 0 then ⟨0, 0⟩
  else
    let shift := Binary64.ratioLog2 num den - 63
    if 0 ≤ shift then
      ⟨Binary64.roundHalfEven num (den * Nat.pow 2 shift.toNat), exponent + shift⟩
    else ⟨Binary64.roundHalfEven (num * Nat.pow 2 (-shift).toNat) den, exponent + shift⟩

def ofNat (n : Nat) : Extended := round n 1 0

/-- The magnitude of a finite double. -/
def ofBinary64 (x : Binary64) : Extended := ⟨x.mantissa, x.binaryExponent⟩

/-- The double of a sign that is nearest to a number. -/
def toBinary64 (negative : Bool) (x : Extended) : Binary64 :=
  if 0 ≤ x.exponent then
    Binary64.ofRatio negative (x.mantissa * Nat.pow 2 x.exponent.toNat) 1
  else Binary64.ofRatio negative x.mantissa (Nat.pow 2 (-x.exponent).toNat)

/-- The mantissa a number has with another exponent, which is not greater. -/
def mantissaAt (x : Extended) (exponent : Int) : Nat :=
  x.mantissa * Nat.pow 2 (x.exponent - exponent).toNat

def add (x y : Extended) : Extended :=
  let exponent := min x.exponent y.exponent
  round (x.mantissaAt exponent + y.mantissaAt exponent) 1 exponent

def mul (x y : Extended) : Extended :=
  round (x.mantissa * y.mantissa) 1 (x.exponent + y.exponent)

def div (x y : Extended) : Extended := round x.mantissa y.mantissa (x.exponent - y.exponent)

def atLeast (x y : Extended) : Bool :=
  let exponent := min x.exponent y.exponent
  y.mantissaAt exponent ≤ x.mantissaAt exponent

def whole (x : Extended) : Nat :=
  if 0 ≤ x.exponent then x.mantissa * Nat.pow 2 x.exponent.toNat
  else x.mantissa / Nat.pow 2 (-x.exponent).toNat

/-- What is left of a number without its whole part. -/
def fraction (x : Extended) : Extended :=
  if 0 ≤ x.exponent then ⟨0, 0⟩
  else ⟨x.mantissa % Nat.pow 2 (-x.exponent).toNat, x.exponent⟩

/-! ## Powers of ten -/

/-- A power of a number times another one, by repeated squaring. -/
def powerFrom (base result : Extended) (n : Nat) : Extended :=
  let result' := if n % 2 = 1 then result.mul base else result
  if n / 2 = 0 then result' else powerFrom (base.mul base) result' (n / 2)
termination_by n
decreasing_by omega

/-- Ten to a power; beyond the twenty-seventh it is not exact. -/
def tenPower (n : Nat) : Extended := powerFrom (ofNat 10) (ofNat 1) n

end Extended
end Entitlement.Decimal
