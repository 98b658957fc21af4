import Entitlement.Text.Template.Error

/-!
# `Entitlement.Text.Template.Layout` — width, alignment and precision of a field

The part of a replacement field behind its colon says how the text is set: a fill character and an
alignment, a sign, the letter `z`, the mark `#`, a leading zero, a width, a separator of thousands,
a precision and a kind, each of them optional and in this order.  Most of these make sense for
numbers only; on a text they are read and then refused, so the causes come in two waves: those of
the notation while it is read, and those of the text afterwards.

A precision cuts the text, and a width fills it up.  Numbers may be written with the decimal digits
of any script.  A width may be larger than any text can be long; then there is no result.
-/
namespace Entitlement.Text

/-- A layout as it is written. -/
structure FieldLayout where
  fill : Option Char
  align : Option Char
  sign : Option Char
  coerceZero : Bool
  alternate : Bool
  width : Option Nat
  separator : Option Char
  precision : Option Nat
  kind : Option Char
deriving DecidableEq, Repr

/-- The largest number a template may contain. -/
def largestNumber : Nat := Int64.maxValue.toNatClampNeg

/-- The largest width and the largest number of places that a text is made for. -/
def largestRoom : Nat := 0x4000000

/-- The value of a character that is a decimal digit, and whether it keeps the number in range. -/
def spanNumberFrom (read : Bool) (n : Nat) :
    List Char → Except TemplateError (Option Nat × List Char)
  | [] => .ok (if read then some n else none, [])
  | c :: rest =>
    match decimalDigit? c with
    | some d =>
      if largestNumber < n * 10 + d then .error .tooManyDigits
      else spanNumberFrom true (n * 10 + d) rest
    | none => .ok (if read then some n else none, c :: rest)

/-- The number at the beginning of a text, if there is one, and the rest. -/
def spanNumber (cs : List Char) : Except TemplateError (Option Nat × List Char) :=
  spanNumberFrom false 0 cs

def isAlign (c : Char) : Bool := c == '<' || c == '>' || c == '=' || c == '^'

def isSign (c : Char) : Bool := c == ' ' || c == '+' || c == '-'

/-- The fill and the alignment at the beginning of a layout, and the rest. -/
def spanAlign : List Char → Option Char × Option Char × List Char
  | a :: b :: rest =>
    if isAlign b then (some a, some b, rest)
    else if isAlign a then (none, some a, b :: rest)
    else (none, none, a :: b :: rest)
  | [a] => if isAlign a then (none, some a, []) else (none, none, [a])
  | [] => (none, none, [])

/-- One optional character of a class at the beginning of a text, and the rest. -/
def spanOptional (p : Char → Bool) : List Char → Option Char × List Char
  | c :: rest => if p c then (some c, rest) else (none, c :: rest)
  | [] => (none, [])

/-- The separator of thousands at the beginning of a text, and the rest. -/
def spanSeparator (cs : List Char) : Except TemplateError (Option Char × List Char) :=
  let (comma, rest) := spanOptional (· == ',') cs
  let (low, rest) := spanOptional (· == '_') rest
  if low.isSome && (comma.isSome || rest.head? == some ',') then .error .mixedSeparators
  else .ok (low.or comma, rest)

/-- Kinds of number with which a separator of thousands may stand. -/
def separatorFits (separator : Char) (kind : Char) : Bool :=
  kind ∈ ['d', 'e', 'f', 'g', 'E', 'G', '%', 'F', '\x00'] ||
    (separator == '_' && kind ∈ ['b', 'o', 'x', 'X'])

/-- A layout, read from its notation, for an item of the named class; `plain` is the kind that a
layout without a kind has. -/
def readLayout (className : String) (plain : Char) (cs : List Char) :
    Except TemplateError FieldLayout := do
  let (fill, align, rest) := spanAlign cs
  let (sign, rest) := spanOptional isSign rest
  let (coerce, rest) := spanOptional (· == 'z') rest
  let (alternate, rest) := spanOptional (· == '#') rest
  let (zero, rest) := if fill.isSome then (none, rest) else spanOptional (· == '0') rest
  let (width, rest) ← spanNumber rest
  let (separator, rest) ← spanSeparator rest
  let (precision, rest) ← match rest with
    | '.' :: rest => do
      match ← spanNumber rest with
      | (some n, rest) => pure (some n, rest)
      | (none, _) => .error .missingPrecision
    | rest => pure (none, rest)
  let kind ← match rest with
    | [] => pure none
    | [c] => pure (some c)
    | _ => .error (.unreadLayout (String.ofList cs) className)
  match separator with
  | some s =>
    if separatorFits s (kind.getD plain) then pure ()
    else .error (.separatorNotAllowed s (kind.getD plain))
  | none => pure ()
  return ⟨fill.or zero, align, sign, coerce.isSome, alternate.isSome, width, separator, precision,
    kind⟩

/-- What a text refuses of a layout. -/
def FieldLayout.refusal? (l : FieldLayout) : Option TemplateError :=
  if l.kind.getD 's' != 's' then some (.unknownKind (l.kind.getD 's') "str")
  else if l.sign == some ' ' then some .spaceNotAllowed
  else if l.sign.isSome then some .signNotAllowed
  else if l.coerceZero then some .zeroCoercionNotAllowed
  else if l.alternate then some .alternateNotAllowed
  else if l.align == some '=' then some .signAlignNotAllowed
  else none

/-- Whether a layout asks for more than a text can hold. -/
def FieldLayout.isTooWide (l : FieldLayout) : Bool := largestRoom < l.width.getD 0

/-- A text, cut to the precision and filled up to the width. -/
def FieldLayout.set (l : FieldLayout) (text : List Char) : List Char :=
  let cut := match l.precision with
    | some n => text.take n
    | none => text
  let room := l.width.getD 0 - cut.length
  let left :=
    if l.align == some '>' then room else if l.align == some '^' then room / 2 else 0
  let fill := l.fill.getD ' '
  List.replicate left fill ++ cut ++ List.replicate (room - left) fill

/-- A text, set as the notation says; the empty notation leaves it as it is. -/
def layOut (spec : List Char) (text : List Char) : Except TemplateError (List Char) :=
  if spec.isEmpty then .ok text
  else do
    let l ← readLayout "str" 's' spec
    match l.refusal? with
    | some e => .error e
    | none => if l.isTooWide then .error .tooLong else return l.set text

end Entitlement.Text
