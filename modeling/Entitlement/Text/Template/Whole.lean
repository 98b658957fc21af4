import Entitlement.Text.Template.Layout

/-!
# `Entitlement.Text.Template.Whole` — how a whole number is set

A path can reach the sizes of a class, so a layout can be about a whole number.  Its kind says how
the digits are written: in base ten, two, eight or sixteen, as the character with that code, or as a
decimal fraction, in positional or in exponential notation.

A written number has four parts: a sign, a mark for the base, the digits before the point, and
the rest.  Only the digits before the point are grouped, and only they grow when zeros fill up the
width.  The numbers are never negative, so a sign stands for an explicit plus or a space.
-/
namespace Entitlement.Text

/-! ## Digits -/

/-- The digits of a number in a base up to sixteen, in lower case. -/
def digitsIn (base n : Nat) : List Char := Nat.toDigits base n

/-- A quotient, rounded to the nearest whole number, and to the even one in the middle. -/
def roundedQuotient (n d : Nat) : Nat :=
  let q := n / d
  let twice := 2 * (n % d)
  if twice < d then q
  else if d < twice then q + 1
  else if q % 2 = 0 then q
  else q + 1

/-- A number as `count` digits, the first of them not zero unless all are, and the exponent of the
first. -/
def leadingDigits (count n : Nat) : List Char × Nat :=
  let ds := digitsIn 10 n
  if ds.length ≤ count then (ds ++ List.replicate (count - ds.length) '0', ds.length - 1)
  else
    let rounded := digitsIn 10 (roundedQuotient n (Nat.pow 10 (ds.length - count)))
    (rounded.take count, ds.length - 1 + (rounded.length - count))

/-- An exponent with its sign and two digits or more. -/
def exponentText (mark : Char) (n : Nat) : List Char :=
  let ds := digitsIn 10 n
  mark :: '+' :: (if ds.length < 2 then '0' :: ds else ds)

/-- The digits behind the point, with the point. -/
def fraction (keepPoint : Bool) (ds : List Char) : List Char :=
  if ds.isEmpty && !keepPoint then [] else '.' :: ds

/-- Digits without the zeros at their end. -/
def withoutTrailingZeros (ds : List Char) : List Char :=
  (ds.reverse.dropWhile (· == '0')).reverse

/-- A number with `places` digits behind the point: those before the point, and the rest. -/
def positional (keepPoint : Bool) (places n : Nat) : List Char × List Char :=
  (digitsIn 10 n, fraction keepPoint (List.replicate places '0'))

/-- A number with one digit before the point, `places` behind it, and an exponent. -/
def exponential (mark : Char) (keepPoint : Bool) (places n : Nat) : List Char × List Char :=
  let (ds, exponent) := leadingDigits (places + 1) n
  (ds.take 1, fraction keepPoint (ds.drop 1) ++ exponentText mark exponent)

/-- A number with `count` digits that count, in the shorter notation; zeros at the end go, unless
the point is to be kept. -/
def general (mark : Char) (keepPoint : Bool) (count n : Nat) : List Char × List Char :=
  let count := max count 1
  let (ds, exponent) := leadingDigits count n
  let behind (ds : List Char) :=
    fraction keepPoint (if keepPoint then ds else withoutTrailingZeros ds)
  if exponent < count then (ds.take (exponent + 1), behind (ds.drop (exponent + 1)))
  else (ds.take 1, behind (ds.drop 1) ++ exponentText mark exponent)

/-! ## Grouping -/

/-- Digits in groups from the right, the last digit coming first and `place` characters being there
already.  Zeros are put in front until there are `room` characters; a separator never stands first,
so there can be one more. -/
def groupReversed (size : Nat) (separator : Char) (room place : Nat) (ds : List Char) :
    List Char :=
  let width := max 1 (min size (max ds.length (room - place)))
  let group := ds.take width ++ List.replicate (width - ds.length) '0'
  if ds.length ≤ width ∧ room ≤ place + width then group
  else group ++
    separator :: groupReversed size separator room (place + width + 1) (ds.drop width)
termination_by ds.length + (room - place)
decreasing_by
  simp only [List.length_drop]
  omega

/-- Digits before the point, grouped and filled up with zeros to `room` characters. -/
def grouped (separator : Option (Nat × Char)) (room : Nat) (ds : List Char) : List Char :=
  match separator with
  | none => List.replicate (room - ds.length) '0' ++ ds
  | some (size, separator) =>
    (groupReversed size separator room 0 ds.reverse).reverse

/-! ## The layout of a number -/

/-- The parts of a written number. -/
structure WrittenNumber where
  mark : List Char
  digits : List Char
  rest : List Char

/-- The kinds that write a number in a base, with that base and the mark for it. -/
def base? (kind : Char) : Option (Nat × List Char) :=
  if kind = 'd' ∨ kind = 'n' then some (10, [])
  else if kind = 'b' then some (2, ['0', 'b'])
  else if kind = 'o' then some (8, ['0', 'o'])
  else if kind = 'x' then some (16, ['0', 'x'])
  else if kind = 'X' then some (16, ['0', 'X'])
  else none

/-- The kinds that write a number as a decimal fraction. -/
def isFractionKind (kind : Char) : Bool := kind ∈ ['e', 'E', 'f', 'F', 'g', 'G', '%']

/-- A number as a decimal fraction of a kind. -/
def writeFraction (l : FieldLayout) (kind : Char) (n : Nat) :
    Except TemplateError WrittenNumber :=
  let places := l.precision.getD 6
  if 0x7fffffff < places then .error .precisionTooBig
  else if largestRoom < places then .error .tooLong
  else
    let (digits, rest) :=
      if kind = 'e' ∨ kind = 'E' then exponential kind l.alternate places n
      else if kind = 'g' then general 'e' l.alternate places n
      else if kind = 'G' then general 'E' l.alternate places n
      else if kind = '%' then
        let (digits, rest) := positional l.alternate places (100 * n)
        (digits, rest ++ ['%'])
      else positional l.alternate places n
    .ok ⟨[], digits, rest⟩

/-- A number written as its kind says, for the named class. -/
def writeWhole (className : String) (l : FieldLayout) (n : Nat) :
    Except TemplateError WrittenNumber :=
  let kind := l.kind.getD 'd'
  if isFractionKind kind then writeFraction l kind n
  else if kind ≠ 'c' ∧ (base? kind).isNone then .error (.unknownKind kind className)
  else if l.precision.isSome then .error .precisionNotAllowed
  else if l.coerceZero then .error .zeroCoercionOfWhole
  else
    match base? kind with
    | some (base, mark) =>
      let ds := digitsIn base n
      .ok ⟨if l.alternate then mark else [], if kind = 'X' then ds.map Char.toUpper else ds, []⟩
    | none =>
      if l.sign.isSome then .error .signOfCharacter
      else if l.alternate then .error .alternateCharacter
      else if 0x110000 ≤ n then .error .characterOutOfRange
      else .ok ⟨[], [], [Char.ofNat n]⟩

/-- The size of a group and the separator of a layout: three digits, or four in another base than
ten. -/
def FieldLayout.grouping (l : FieldLayout) : Option (Nat × Char) :=
  l.separator.map fun c => (if l.kind.any (· ∈ ['b', 'o', 'x', 'X']) then 4 else 3, c)

/-- A written number, filled up to the width. -/
def FieldLayout.setNumber (l : FieldLayout) (w : WrittenNumber) : List Char :=
  let sign := if l.sign == some '+' then ['+'] else if l.sign == some ' ' then [' '] else []
  let fill := l.fill.getD ' '
  let align := l.align.getD (if l.fill.isSome then '=' else '>')
  let width := l.width.getD 0
  let fixed := sign.length + w.mark.length + w.rest.length
  let room := if fill = '0' ∧ align = '=' then width - fixed else 0
  let digits := if w.digits.isEmpty then [] else grouped l.grouping room w.digits
  let gap := width - (fixed + digits.length)
  let left := if align = '>' then gap else if align = '^' then gap / 2 else 0
  let inside := if align = '=' then gap else 0
  List.replicate left fill ++ sign ++ w.mark ++ List.replicate inside fill ++ digits ++ w.rest ++
    List.replicate (gap - left - inside) fill

/-- A whole number, set as the notation says; `plain` is what the empty notation makes of it. -/
def layOutWhole (className : String) (plain : List Char) (spec : List Char) (n : Nat) :
    Except TemplateError (List Char) :=
  if spec.isEmpty then .ok plain
  else do
    let l ← readLayout className 'd' spec
    let written ← writeWhole className l n
    if l.isTooWide then .error .tooLong else return l.setNumber written

end Entitlement.Text
