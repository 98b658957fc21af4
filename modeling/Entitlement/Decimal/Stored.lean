import Entitlement.Decimal.Extended
import Entitlement.Decimal.Layout
import Entitlement.Decimal.Scan

/-!
# `Entitlement.Decimal.Stored` — how the store turns decimals into reals and back

The store does neither exactly.  Both ways it computes with mantissas of 64 bits and rounds at every
step, so a text may become a neighbour of the nearest double, and the fifteenth digit of a double
may be one off.  The steps are fixed, and here they are.

Reading (`storedReal`): digits are gathered into an integer as long as it stays below a bound, and
the rest only count.  The power of ten is brought to zero as far as that can be done on the integer.
What is left of it is computed by squaring and multiplied or divided once.

Writing (`storedText`): the number is scaled into the range from one to ten by powers of ten, half a
unit of the fifteenth digit is added, and the digits are taken off one by one from the front.
-/
namespace Entitlement.Decimal

/-! ## Reading -/

/-- Digits are gathered while the integer they make is below this bound. -/
def gatheringBound : Nat := (Int64.maxValue.toNatClampNeg - 9) / 10

/-- The integer of the digits that are gathered, and the power of ten of the others. -/
def gather (digits : Nat) (exponent : Int) : Nat × Int :=
  if gatheringBound ≤ digits / 10 then gather (digits / 10) (exponent + 1) else (digits, exponent)
termination_by digits
decreasing_by
  have : 0 < gatheringBound := by decide
  omega

/-- An integer multiplied by tens as long as it keeps within a word, and the tens that are left. -/
def absorb (n : Nat) : Nat → Nat × Nat
  | 0 => (n, 0)
  | tens + 1 =>
    if n < Int64.maxValue.toNatClampNeg / 10 then absorb (n * 10) tens else (n, tens + 1)

/-- An integer divided by tens as long as that is exact, and the tens that are left. -/
def release (n : Nat) : Nat → Nat × Nat
  | 0 => (n, 0)
  | tens + 1 => if n % 10 = 0 then release (n / 10) tens else (n, tens + 1)

/-- The product or the quotient of two positive doubles. -/
def scaledDouble (up : Bool) (x y : Binary64) : Binary64 :=
  let (n, d) := x.ratio
  let (n', d') := y.ratio
  if up then Binary64.ofRatio x.negative (n * n') (d * d')
  else Binary64.ofRatio x.negative (n * d') (d * n')

/-- The real of `n · 10 ^ tens`, or of `n / 10 ^ tens`. -/
def realOf (negative up : Bool) (n tens : Nat) : Binary64 :=
  let scaled (tens : Nat) : Binary64 :=
    let power := Extended.tenPower tens
    let m := Extended.ofNat n
    (if up then m.mul power else m.div power).toBinary64 negative
  if tens = 0 then Binary64.ofRatio negative n 1
  else if tens < 308 then scaled tens
  else if tens < 342 then
    scaledDouble up (scaled (tens - 308)) (Binary64.ofScientific false 1 308)
  else if up then Binary64.infinity negative
  else Binary64.zero negative

/-- The real the store makes of a decimal number. -/
def Scanned.storedReal (s : Scanned) : Binary64 :=
  let (n, exponent) := gather s.digits s.exponent
  if n = 0 then Binary64.zero s.negative
  else if 0 ≤ exponent then
    let (n, tens) := absorb n exponent.toNat
    realOf s.negative true n tens
  else
    let (n, tens) := release n (-exponent).toNat
    realOf s.negative false n tens

/-! ## Writing -/

/-- A double's magnitude as a number, for the constants. -/
def constant (digits : Nat) (exponent : Int) : Extended :=
  Extended.ofBinary64 (Binary64.ofScientific false digits exponent)

/-- A scale raised by `10 ^ step` as long as the number is at least that much greater; `place`
follows the power of ten. -/
def raiseScale (x power : Extended) (step : Int) : Nat → Extended × Int → Extended × Int
  | 0, scale => scale
  | fuel + 1, (scale, place) =>
    if x.atLeast (power.mul scale) && place ≤ 350 then
      raiseScale x power step fuel (scale.mul power, place + step)
    else (scale, place)

/-- A number multiplied by `10 ^ step` as long as it is below a bound. -/
def raiseNumber (bound power : Extended) (step : Int) : Nat → Extended × Int → Extended × Int
  | 0, x => x
  | fuel + 1, (x, place) =>
    if x.atLeast bound then (x, place)
    else raiseNumber bound power step fuel (x.mul power, place - step)

/-- A positive number brought into the range from one to ten, and the place of its first digit. -/
def normalized (x : Extended) : Extended × Int :=
  let scale := raiseScale x (constant 1 100) 100 4 (Extended.ofNat 1, 0)
  let scale := raiseScale x (constant 1 10) 10 40 scale
  let scale := raiseScale x (constant 1 1) 1 400 scale
  let number := raiseNumber (constant 1 (-8)) (constant 1 8) 8 50 (x.div scale.1, scale.2)
  raiseNumber (constant 1 0) (constant 1 1) 1 10 number

/-- Half a unit of the fifteenth digit of a number from one to ten. -/
def halfUnit : Extended :=
  Extended.ofBinary64
    (scaledDouble true (Binary64.ofScientific false 5 (-5)) (Binary64.ofScientific false 1 (-10)))

/-- So many digits, taken off a number from the front and put behind those of `acc`. -/
def takeDigits (x : Extended) (acc : Nat) : Nat → Nat
  | 0 => acc
  | n + 1 => takeDigits (x.fraction.mul (Extended.ofNat 10)) (acc * 10 + x.whole) n

/-- The fifteen digits the store writes of a finite double other than zero. -/
def storedDigits (x : Binary64) : Digits :=
  let (number, place) := normalized (Extended.ofBinary64 x)
  let rounded := number.add halfUnit
  let ten := Extended.ofNat 10
  let (rounded, place) :=
    if rounded.atLeast ten then (rounded.div ten, place + 1) else (rounded, place)
  ⟨takeDigits rounded 0 15, place - 14⟩

/-- The text the store keeps for a real; its zero has no sign. -/
def storedText (x : Binary64) : List Char :=
  if x.isInfinite then (if x.negative then "-Inf".toList else "Inf".toList)
  else if x.isZero then "0.0".toList
  else Layout.fifteen.writeFinite storedDigits x

end Entitlement.Decimal
