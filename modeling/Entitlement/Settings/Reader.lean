import Entitlement.Settings.Issue
import Entitlement.Value

/-!
# `Entitlement.Settings.Reader` — what each type of setting accepts

A setting arrives as a value of any form: a variable of the environment is a text, a keyword may be
anything.  Each of the four types accepts more forms than its own and converts them.  A reader
looks at one value and nothing else, so what one setting accepts cannot depend on another.

* a text: texts, and byte sequences that are UTF-8;
* a flag: booleans, the numbers 0 and 1, and twelve words in any ASCII case, with no blanks around;
* an integer: integers, booleans, doubles without a fraction, and texts in decimal notation;
* a stage: the three words as they are written.
-/
namespace Entitlement.Settings

/-- Where the service runs. -/
inductive Stage where
  | dev
  | test
  | prod
deriving DecidableEq, Repr

def Stage.word : Stage → String
  | .dev => "dev"
  | .test => "test"
  | .prod => "prod"

/-! ## Texts and stages -/

def readText : Value → Except IssueKind String
  | .text s => .ok s
  | .bytes bs =>
    match Text.utf8? bs with
    | some s => .ok s
    | none => .error .textNotUnicode
  | _ => .error .textExpected

def readStage : Value → Except IssueKind Stage
  | .text s =>
    if s = "dev" then .ok .dev
    else if s = "test" then .ok .test
    else if s = "prod" then .ok .prod
    else .error .stageUnknown
  | _ => .error .stageUnknown

/-! ## Flags -/

def setWords : List String := ["1", "on", "t", "true", "y", "yes"]

def clearWords : List String := ["0", "off", "f", "false", "n", "no"]

def flagOfWord (s : String) : Except IssueKind Bool :=
  let word := String.ofList (s.toList.map Char.toLower)
  if word ∈ setWords then .ok true
  else if word ∈ clearWords then .ok false
  else .error .boolUnreadable

def flagOfInt (n : Int) : Except IssueKind Bool :=
  if n = 0 then .ok false else if n = 1 then .ok true else .error .boolUnreadable

/-- The integer a double stands for; it has to lie strictly within 64 bits. -/
def intOfDouble (x : Binary64) : Except IssueKind Int :=
  if !x.isFinite then .error .intNotFinite
  else if !x.isIntegral then .error .intFractional
  else if Int64.minValue.toInt < x.truncate && x.truncate ≤ Int64.maxValue.toInt then
    .ok x.truncate
  else .error .intTooLong

def readFlag : Value → Except IssueKind Bool
  | .bool b => .ok b
  | .text s => flagOfWord s
  | .bytes bs =>
    match Text.utf8? bs with
    | some s => flagOfWord s
    | none => .error .boolUnreadable
  | .int n => if fitsWord n then flagOfInt n else .error .boolExpected
  | .float x =>
    match intOfDouble x with
    | .ok n => flagOfInt n
    | .error _ => .error .boolExpected
  | _ => .error .boolExpected

/-! ## Integers

A text is an integer when it is a plain numeral: an optional minus sign, and digits without a
needless zero in front.  A text that is not is freed of what may be written around the digits of a
number, step by step, and what is left has to be a plain numeral.  Only a text that is too long as
it stands is refused for its length; one that is too long when it has been cleaned is no number.
-/

/-- The greatest number of digits of a numeral. -/
def longestNumeral : Nat := 4300

/-- The natural of a plain numeral without a sign. -/
def natOfNumeral (cs : List Char) : Except IssueKind Nat :=
  let digits := cs.takeWhile fun c => (Text.asciiDigit? c).isSome
  if digits.isEmpty then .error .intUnreadable
  else if digits.head? = some '0' then if cs = ['0'] then .ok 0 else .error .intUnreadable
  else if longestNumeral < digits.length then .error .intTooLong
  else if digits.length < cs.length then .error .intUnreadable
  else .ok (Text.ofDigits (digits.filterMap Text.asciiDigit?))

/-- The integer of a plain numeral. -/
def intOfNumeral : List Char → Except IssueKind Int
  | '-' :: cs => (natOfNumeral cs).map fun n => -(n : Int)
  | cs => (natOfNumeral cs).map fun n => (n : Int)

/-- A text without a plus sign in front; a minus sign must not follow it. -/
def dropPlus : List Char → List Char
  | '+' :: rest => if rest.head? = some '-' then '+' :: rest else rest
  | cs => cs

/-- A text without the zeros in front of its first other digit, low lines among them included; one
zero stays where nothing else would, and a minus sign ends the zeros as a digit does.  A text that
does not begin with a digit has no such form. -/
def dropZeros : List Char → Option (List Char)
  | [] => none
  | c :: rest =>
    if c == '0' then
      let skipped := rest.takeWhile fun d => d == '0' || d == '_'
      let last := skipped.getLast?.getD '0'
      match rest.drop skipped.length with
      | [] => some [last]
      | d :: tail =>
        if (Text.asciiDigit? d).isSome || d == '-' then some (d :: tail)
        else if d == '.' then some (last :: d :: tail)
        else none
    else if (Text.asciiDigit? c).isSome then some (c :: rest)
    else none

/-- A text without its first point and what follows it, where nothing but zeros follow. -/
def dropZeroFraction (cs : List Char) : List Char :=
  match cs.dropWhile (· != '.') with
  | _ :: zeros =>
    if !zeros.isEmpty && zeros.all (· == '0') then cs.takeWhile (· != '.') else cs
  | [] => cs

/-- Whether two low lines stand side by side. -/
def hasDoubleLine : List Char → Bool
  | c :: d :: rest => (c == '_' && d == '_') || hasDoubleLine (d :: rest)
  | _ => false

/-- A text without low lines, where each of them stands alone and inside it. -/
def dropLines (cs : List Char) : List Char :=
  if cs.head? = some '_' ∨ cs.getLast? = some '_' ∨ hasDoubleLine cs then cs
  else cs.filter (· != '_')

/-- What is left of a text without a sign, if there can be a numeral in it. -/
def cleanUnsigned (cs : List Char) : Option (List Char) :=
  (dropZeros cs).map (dropLines <| dropZeroFraction ·)

/-- What is left of a text, if there can be a numeral in it. -/
def clean (cs : List Char) : Option (List Char) :=
  match dropPlus (Text.trim Text.isWhiteSpace cs) with
  | '-' :: rest => (cleanUnsigned rest).map ('-' :: ·)
  | rest => cleanUnsigned rest

def intOfText (s : String) : Except IssueKind Int :=
  match intOfNumeral s.toList with
  | .ok n => .ok n
  | .error .intTooLong => .error .intTooLong
  | .error _ =>
    match clean s.toList with
    | none => .error .intUnreadable
    | some cs =>
      match intOfNumeral cs with
      | .ok n => .ok n
      | .error _ => .error .intUnreadable

def readInt : Value → Except IssueKind Int
  | .int n => .ok n
  | .bool b => .ok (if b then 1 else 0)
  | .text s => intOfText s
  | .bytes bs =>
    match Text.utf8? bs with
    | some s => intOfText s
    | none => .error .intUnreadable
  | .float x => intOfDouble x
  | _ => .error .intExpected

end Entitlement.Settings
