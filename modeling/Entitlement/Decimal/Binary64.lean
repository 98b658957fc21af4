/-!
# `Entitlement.Decimal.Binary64` — double-precision numbers as exact data

A double is kept as the three fields it is stored in: sign, exponent field and fraction field.  Two
doubles are the same datum exactly when the fields agree, so `0.0` and `-0.0` differ here, and the
comparison in which they are equal and a NaN is not equal to itself is a function, `numEq`.  All
NaNs have the one form `nan`.

A finite double stands for `± m · 2 ^ q` with `m` and `q` read off the fields (`mantissa`,
`binaryExponent`).  Arithmetic on doubles is not modelled because nothing here adds or multiplies
them; what is needed is rounding a ratio of naturals to the nearest double (`ofRatio`), comparing a
double with an integer, and cutting off its fraction.  Everything is computed in `Nat` and `Int`.

Integers are unbounded throughout.  A cell of the store, a flag given as a number, and a position in
a list take only those of 64 bits with a sign, and `fitsWord` is that one question.
-/
namespace Entitlement

/-- A double-precision number, by its stored fields. -/
structure Binary64 where
  negative : Bool
  exponent : BitVec 11
  fraction : BitVec 52
deriving DecidableEq, Inhabited

namespace Binary64

/-! ## The value of the fields -/

/-- The one not-a-number. -/
def nan : Binary64 := ⟨false, 2047, 1 <<< 51⟩

/-- Infinity of either sign. -/
def infinity (negative : Bool) : Binary64 := ⟨negative, 2047, 0⟩

/-- Zero of either sign. -/
def zero (negative : Bool) : Binary64 := ⟨negative, 0, 0⟩

def isNan (x : Binary64) : Bool := x.exponent == 2047 && x.fraction != 0

def isInfinite (x : Binary64) : Bool := x.exponent == 2047 && x.fraction == 0

def isFinite (x : Binary64) : Bool := x.exponent != 2047

def isZero (x : Binary64) : Bool := x.exponent == 0 && x.fraction == 0

/-- The natural `m` of a finite value `± m · 2 ^ q`. -/
def mantissa (x : Binary64) : Nat :=
  if x.exponent = 0 then x.fraction.toNat else x.fraction.toNat + Nat.pow 2 52

/-- The exponent `q` of a finite value `± m · 2 ^ q`. -/
def binaryExponent (x : Binary64) : Int :=
  if x.exponent = 0 then -1074 else (x.exponent.toNat : Int) - 1075

/-- Numerator and denominator of the magnitude of a finite value. -/
def ratio (x : Binary64) : Nat × Nat :=
  if 0 ≤ x.binaryExponent then (x.mantissa * Nat.pow 2 x.binaryExponent.toNat, 1)
  else (x.mantissa, Nat.pow 2 (-x.binaryExponent).toNat)

def neg (x : Binary64) : Binary64 := { x with negative := !x.negative }

/-! ## Rounding to the nearest double -/

/-- The quotient rounded to the nearest natural, a half going to the even neighbour. -/
def roundHalfEven (num den : Nat) : Nat :=
  let q := num / den
  let r := num % den
  if 2 * r < den then q
  else if den < 2 * r then q + 1
  else if q % 2 = 0 then q else q + 1

/-- The binary exponent of a positive ratio: the `e` with `2 ^ e ≤ num / den < 2 ^ (e + 1)`. -/
def ratioLog2 (num den : Nat) : Int :=
  let guess : Int := (num.log2 : Int) - den.log2
  let below :=
    if 0 ≤ guess then num < den * Nat.pow 2 guess.toNat
    else num * Nat.pow 2 (-guess).toNat < den
  if below then guess - 1 else guess

/-- The double with mantissa `m < 2 ^ 53` and exponent `q`; too large a value is infinite. -/
def ofMantissa (negative : Bool) (m : Nat) (q : Int) : Binary64 :=
  if m < Nat.pow 2 52 then ⟨negative, 0, BitVec.ofNat 52 m⟩
  else
    let field := (q + 1075).toNat
    if field < 2047 then ⟨negative, BitVec.ofNat 11 field, BitVec.ofNat 52 (m - Nat.pow 2 52)⟩
    else infinity negative

/-- The double nearest to `num / den`, a tie going to the even mantissa. -/
def ofRatio (negative : Bool) (num den : Nat) : Binary64 :=
  if num = 0 then zero negative
  else
    let q := max (ratioLog2 num den - 52) (-1074)
    let m := if 0 ≤ q then roundHalfEven num (den * Nat.pow 2 q.toNat)
      else roundHalfEven (num * Nat.pow 2 (-q).toNat) den
    if m = Nat.pow 2 53 then ofMantissa negative (Nat.pow 2 52) (q + 1)
    else ofMantissa negative m q

/-- The double nearest to an integer. -/
def ofInt (n : Int) : Binary64 := ofRatio (n < 0) n.natAbs 1

/-- The double nearest to `digits · 10 ^ exponent`.  An exponent far outside the range of doubles is
decided by its size, so that its power of ten is never computed. -/
def ofScientific (negative : Bool) (digits : Nat) (exponent : Int) : Binary64 :=
  let size := (Nat.toDigits 10 digits).length
  if digits = 0 then zero negative
  else if 400 < exponent + size then infinity negative
  else if exponent + size < -400 then zero negative
  else if 0 ≤ exponent then ofRatio negative (digits * Nat.pow 10 exponent.toNat) 1
  else ofRatio negative digits (Nat.pow 10 (-exponent).toNat)

/-! ## Comparison with integers and with each other -/

/-- A finite value without a fractional part. -/
def isIntegral (x : Binary64) : Bool :=
  x.isFinite && x.ratio.1 % x.ratio.2 == 0

/-- A finite value with its fraction cut off. -/
def truncate (x : Binary64) : Int :=
  let n : Int := (x.ratio.1 / x.ratio.2 : Nat)
  if x.negative then -n else n

/-- The sign of the difference of two finite values. -/
def compareFinite (x y : Binary64) : Ordering :=
  let signed (v : Binary64) : Int := if v.negative then -(v.ratio.1 : Int) else v.ratio.1
  compare (signed x * y.ratio.2) (signed y * x.ratio.2)

/-- The order of the numbers; a NaN is in no order with anything. -/
def compareNum (x y : Binary64) : Option Ordering :=
  if x.isNan || y.isNan then none
  else if x.isFinite && y.isFinite then some (compareFinite x y)
  else
    let rank (v : Binary64) : Int := if v.isFinite then 0 else if v.negative then -1 else 1
    some (compare (rank x) (rank y))

/-- A number is where it is; a NaN is in no order even with itself. -/
theorem compareNum_self (x : Binary64) :
    x.compareNum x = if x.isNan then none else some .eq := by
  unfold compareNum
  rw [Bool.or_self]
  split
  · rfl
  · split
    · exact congrArg some (Int.compare_eq_eq.mpr rfl)
    · exact congrArg some (Int.compare_eq_eq.mpr rfl)

/-- The order of a double and an integer, exact also where the integer is no double. -/
def compareInt (x : Binary64) (n : Int) : Option Ordering :=
  if x.isNan then none
  else if x.isInfinite then some (if x.negative then .lt else .gt)
  else
    let signed : Int := if x.negative then -(x.ratio.1 : Int) else x.ratio.1
    some (compare signed (n * x.ratio.2))

/-- Equality of the numbers: the zeros are equal and a NaN is equal to nothing. -/
def numEq (x y : Binary64) : Bool := x.compareNum y == some .eq

/-- Equality of a double and an integer. -/
def intEq (x : Binary64) (n : Int) : Bool := x.compareInt n == some .eq

end Binary64

/-! ## Integers -/

/-- Whether an integer has at most 64 bits, the sign among them. -/
def fitsWord (n : Int) : Bool := Int64.minValue.toInt ≤ n && n ≤ Int64.maxValue.toInt

end Entitlement
