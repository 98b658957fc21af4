import Entitlement.Decimal.Stored
import Entitlement.Store.Fault

/-!
# `Entitlement.Store.Cell` — what one column of a stored row holds

A cell is null, an integer of 64 bits, a real, a text or a blob.  Which of these a column ends up
with is decided by the value and by the column's affinity: a text column turns numbers into texts,
and a numeric column turns texts that are numbers into numbers and reals that are integers into
integers.  Nothing else is converted, and no conversion fails, so a column may hold a cell of any
sort.

Values that are handed over as arguments become cells first.  A boolean is the integer 0 or 1 and a
NaN is null; an integer beyond 64 bits, a list and an object have no cell.

Two orders are defined.  `Cell.compare` is the total order in which rows are sorted: null, numbers,
texts, blobs.  The comparison of a condition is unknown as soon as one side is null.
-/
namespace Entitlement.Store

inductive Cell where
  | null
  | int (n : Int)
  | real (x : Binary64)
  | text (s : String)
  | blob (bs : List UInt8)
deriving DecidableEq, Inhabited

/-- What a column does to the values put into it. -/
inductive Affinity where
  | text
  | numeric
  | none
deriving DecidableEq, Repr

namespace Cell

/-! ## From and to values -/

/-- The cell of an argument at a position. -/
def ofValue (position : Nat) : Value → Except Fault Cell
  | .null => .ok .null
  | .bool b => .ok (.int (if b then 1 else 0))
  | .int n => if fitsWord n then .ok (.int n) else .error .integerTooLarge
  | .float x => .ok (if x.isNan then .null else .real x)
  | .bytes bs => .ok (.blob bs)
  | .text s => .ok (.text s)
  | .list _ => .error (.unsupportedArgument position "list")
  | .object _ => .error (.unsupportedArgument position "dict")

/-- The value a cell is read back as. -/
def toValue : Cell → Value
  | .null => .null
  | .int n => .int n
  | .real x => .float x
  | .text s => .text s
  | .blob bs => .bytes bs

/-! ## Affinity -/

/-- The characters that may stand around a number in a text. -/
def isPadding (c : Char) : Bool :=
  c == ' ' || (9 ≤ c.toNat && c.toNat ≤ 13)

/-- A real as a number cell: an integer when it is one. -/
def ofReal (x : Binary64) : Cell :=
  if x.isIntegral && Int64.minValue.toInt < x.truncate && x.truncate < Int64.maxValue.toInt then
    .int x.truncate
  else .real x

/-- The number a text is, if all of it is one. -/
def numberOfText (s : String) : Option Cell :=
  match Decimal.scanDecimal (s.toList.dropWhile isPadding) with
  | some (scanned, rest) =>
    if rest.all isPadding then
      if scanned.integral && fitsWord scanned.toInt then some (.int scanned.toInt)
      else some (ofReal scanned.storedReal)
    else none
  | none => none

/-- The number that stands at the beginning of a text; no number counts as zero. -/
def leadingNumber (cs : List Char) : Cell :=
  match Decimal.scanDecimal (cs.dropWhile isPadding) with
  | some (scanned, _) =>
    if scanned.integral && fitsWord scanned.toInt then .int scanned.toInt
    else .real scanned.storedReal
  | none => .int 0

/-- What a cell counts as where a number is wanted; the bytes of a blob are taken for characters. -/
def asNumber : Cell → Cell
  | .text s => leadingNumber s.toList
  | .blob bs => leadingNumber (bs.map fun b => Char.ofNat b.toNat)
  | c => c

/-- The text of a number cell. -/
def numberText : Cell → Cell
  | .int n => .text (toString n)
  | .real x => .text (String.ofList (Decimal.storedText x))
  | c => c

/-- The cell a column of an affinity holds when it is given a cell. -/
def withAffinity : Affinity → Cell → Cell
  | .text, c => c.numberText
  | .numeric, .text s => (numberOfText s).getD (.text s)
  | .numeric, .real x => ofReal x
  | .numeric, c => c
  | .none, c => c

/-! ## Order and comparison -/

def rank : Cell → Nat
  | .null => 0
  | .int _ => 1
  | .real _ => 1
  | .text _ => 2
  | .blob _ => 3

/-- The order of byte sequences. -/
def compareBytes : List UInt8 → List UInt8 → Ordering
  | [], [] => .eq
  | [], _ :: _ => .lt
  | _ :: _, [] => .gt
  | a :: as, b :: bs => if a < b then .lt else if b < a then .gt else compareBytes as bs

def compareText (a b : String) : Ordering :=
  if a < b then .lt else if b < a then .gt else .eq

/-- The order in which rows are sorted. -/
def compare : Cell → Cell → Ordering
  | .int m, .int n => Ord.compare m n
  | .real x, .real y => (x.compareNum y).getD .eq
  | .real x, .int n => (x.compareInt n).getD .eq
  | .int n, .real x => ((x.compareInt n).getD .eq).swap
  | .text a, .text b => compareText a b
  | .blob a, .blob b => compareBytes a b
  | a, b => Ord.compare a.rank b.rank

theorem compareBytes_self (bs : List UInt8) : compareBytes bs bs = .eq := by
  induction bs with
  | nil => rfl
  | cons b bs ih =>
    rw [compareBytes, if_neg (UInt8.lt_irrefl b), if_neg (UInt8.lt_irrefl b), ih]

theorem compareText_self (s : String) : compareText s s = .eq := by
  unfold compareText
  rw [if_neg (String.lt_irrefl s), if_neg (String.lt_irrefl s)]

/-- A cell stands neither in front of itself nor behind itself, a NaN among them. -/
@[simp] theorem compare_self (c : Cell) : compare c c = .eq := by
  cases c with
  | null => rfl
  | int n => exact Int.compare_eq_eq.mpr rfl
  | real x =>
    show (x.compareNum x).getD .eq = .eq
    rw [Binary64.compareNum_self]
    split <;> rfl
  | text s => exact compareText_self s
  | blob bs => exact compareBytes_self bs

/-- A condition on the order of two cells; unknown when one of them is null. -/
def condition (holds : Ordering → Bool) : Cell → Cell → Cell
  | .null, _ => .null
  | _, .null => .null
  | a, b => .int (if holds (compare a b) then 1 else 0)

/-- Whether a condition that came out as a cell is met: unknown is not. -/
def isTrue (c : Cell) : Bool :=
  match c.asNumber with
  | .int n => n != 0
  | .real x => !x.isZero
  | _ => false

end Cell
end Entitlement.Store
