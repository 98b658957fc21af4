import Mathlib.Data.List.Basic
import Entitlement.Proofs.Text.Run
import Entitlement.Store.Select.Reader

/-!
# `Entitlement.Proofs.Store.Literal` — literals, written and read back

Integers and texts are written in a statement as the store's language has them.

| written | cut as | read as |
| :-- | :-- | :-- |
| digits, leading zeros among them | a number | the integer of the digits |
| `0x` and hexadecimal digits, of 64 bits at most | a number | the integer of these bits |
| a text between apostrophes, an apostrophe doubled | a text | the text |

What stands behind a literal has to leave it alone: a blank, a comma, or the end (`Closes`).  The
lemmas of this module say of one lexeme at the front of a text how it is cut off, and of a literal
that it is read as what it was written for.
-/
namespace Entitlement.Store.Select

/-! ## What may follow a lexeme -/

/-- Nothing follows, or a blank, or a comma. -/
def Closes (rest : List Char) : Prop :=
  ∀ c, rest.head? = some c → isSpace c = true ∨ c = ','

theorem closes_nil : Closes [] := by
  intro c hc
  cases hc

theorem closes_comma (rest : List Char) : Closes (',' :: rest) := by
  rintro _ ⟨⟩
  exact .inr rfl

theorem Closes.append {front rest : List Char} (hfront : ∀ c ∈ front, isSpace c = true)
    (hrest : Closes rest) : Closes (front ++ rest) := by
  cases front with
  | nil => exact hrest
  | cons b front =>
      rintro _ ⟨⟩
      exact .inl (hfront b List.mem_cons_self)

def blankChars : List Char := [' ', '\t', '\n', '\x0c', '\r']

theorem mem_of_isSpace {c : Char} (h : isSpace c = true) : c ∈ blankChars := by
  simp only [isSpace, Bool.or_eq_true, beq_iff_eq, or_assoc] at h
  simpa only [blankChars, List.mem_cons, List.not_mem_nil, or_false] using h

theorem Closes.head_mem {c : Char} {rest : List Char} (h : Closes (c :: rest)) :
    c ∈ ',' :: blankChars := by
  rcases h c rfl with hspace | rfl
  · exact List.mem_cons_of_mem _ (mem_of_isSpace hspace)
  · exact List.mem_cons_self

/-- A property that a blank and a comma do not have is not had by what follows. -/
theorem Closes.head_false {p : Char → Bool} {rest : List Char} (h : Closes rest)
    (hp : (',' :: blankChars).any p = false) :
    ∀ c, rest.head? = some c → p c = false := by
  intro c hc
  cases rest with
  | nil => cases hc
  | cons d rest =>
      cases hc
      exact Bool.eq_false_iff.mpr (List.any_eq_false.mp hp c h.head_mem)

/-! ## One lexeme at the front of a text -/

theorem run_append {p : Char → Bool} {cs rest : List Char} (hcs : ∀ c ∈ cs, p c = true)
    (hrest : ∀ c, rest.head? = some c → p c = false) : run p (cs ++ rest) = cs.length := by
  rw [run, Text.takeWhile_append_eq hcs hrest]

theorem cut_of_extent {kind : Kind} {c : Char} (more : List Char) {rest : List Char}
    (h : extent c (more ++ rest) = (kind, more.length)) :
    cut (c :: (more ++ rest)) = { kind, chars := c :: more } :: cut rest := by
  rw [cut, h]
  simp only [List.take_left, List.drop_left]

/-- The lexeme of blanks; no blanks are none. -/
def blankLexemes : List Char → List Lexeme
  | [] => []
  | c :: cs => [{ kind := .blank, chars := c :: cs }]

theorem cut_blanks {cs rest : List Char} (hcs : ∀ c ∈ cs, isSpace c = true)
    (hrest : ∀ c, rest.head? = some c → isSpace c = false) :
    cut (cs ++ rest) = blankLexemes cs ++ cut rest := by
  cases cs with
  | nil => rfl
  | cons c cs =>
      refine cut_of_extent _ ?_
      rw [extent, if_pos (hcs c List.mem_cons_self),
        run_append (fun d hd => hcs d (List.mem_cons_of_mem _ hd)) hrest]

theorem cut_comma (rest : List Char) :
    cut (',' :: rest) = { kind := .mark, chars := [','] } :: cut rest :=
  cut_of_extent [] rfl

theorem cut_place {rest : List Char} (h : Closes rest) :
    cut ('?' :: rest) = { kind := .place, chars := ['?'] } :: cut rest := by
  refine cut_of_extent [] ?_
  show (Kind.place, run isDigit ([] ++ rest)) = _
  rw [run_append (fun _ hc => absurd hc List.not_mem_nil) (h.head_false (by decide))]

/-! ## Digits -/

def digitChars : List Char := ['0', '1', '2', '3', '4', '5', '6', '7', '8', '9']

def hexDigitChars : List Char :=
  digitChars ++ ['a', 'b', 'c', 'd', 'e', 'f', 'A', 'B', 'C', 'D', 'E', 'F']

theorem mem_of_below {p : Char → Bool} (bound : Nat) {cs : List Char}
    (hall : ∀ n < bound, p (Char.ofNat n) = true → Char.ofNat n ∈ cs) {c : Char}
    (hc : c.toNat < bound) (h : p c = true) : c ∈ cs := by
  rw [← Char.ofNat_toNat c] at h ⊢
  exact hall _ hc h

theorem mem_of_isDigit {c : Char} (h : isDigit c = true) : c ∈ digitChars := by
  refine mem_of_below 58 (by decide) ?_ h
  rw [isDigit, Bool.and_eq_true, decide_eq_true_eq, decide_eq_true_eq] at h
  exact Nat.lt_succ_of_le (show c.toNat ≤ 57 from h.2)

theorem mem_of_isHexDigit {c : Char} (h : isHexDigit c = true) : c ∈ hexDigitChars := by
  refine mem_of_below 103 (by decide) ?_ h
  simp only [isHexDigit, isDigit, Bool.or_eq_true, Bool.and_eq_true, decide_eq_true_eq] at h
  rcases h with (h | h) | h
  · exact Nat.lt_of_le_of_lt (show c.toNat ≤ 57 from h.2) (by decide)
  · exact Nat.lt_of_le_of_lt (show c.toNat ≤ 102 from h.2) (by decide)
  · exact Nat.lt_of_le_of_lt (show c.toNat ≤ 70 from h.2) (by decide)

theorem extent_digit {c : Char} (h : isDigit c = true) (rest : List Char) :
    extent c rest = numberExtent (c :: rest) := by
  have hc := mem_of_isDigit h
  simp only [digitChars, List.mem_cons, List.not_mem_nil, or_false] at hc
  rcases hc with rfl | rfl | rfl | rfl | rfl | rfl | rfl | rfl | rfl | rfl <;> rfl

/-! ## Integers -/

/-- How an integer without a sign is written. -/
inductive Numeral where
  | decimal (digits : List Char)
  | hexadecimal (capital : Bool) (digits : List Char)
deriving DecidableEq, Repr

def digitValue (c : Char) : Nat := if isDigit c then c.toNat - 48 else c.toLower.toNat - 87

def valueIn (base : Nat) (digits : List Char) : Nat :=
  digits.foldl (fun n c => n * base + digitValue c) 0

namespace Numeral

def chars : Numeral → List Char
  | .decimal digits => digits
  | .hexadecimal capital digits => '0' :: (if capital then 'X' else 'x') :: digits

/-- A numeral has digits of its base, and a hexadecimal one has no more than 64 bits. -/
def Good : Numeral → Prop
  | .decimal digits => digits ≠ [] ∧ ∀ c ∈ digits, isDigit c = true
  | .hexadecimal _ digits =>
    digits ≠ [] ∧ (∀ c ∈ digits, isHexDigit c = true) ∧ valueIn 16 digits < UInt64.size

-- The instances are named because the one over all characters there are must not be found.
instance (numeral : Numeral) : Decidable numeral.Good :=
  match numeral with
  | .decimal digits => @instDecidableAnd _ _ inferInstance (List.decidableBAll _ digits)
  | .hexadecimal _ digits =>
    @instDecidableAnd _ _ inferInstance
      (@instDecidableAnd _ _ (List.decidableBAll _ digits) inferInstance)

def value : Numeral → Int
  | .decimal digits => valueIn 10 digits
  | .hexadecimal _ digits => signedOfBits (valueIn 16 digits)

def expr : Numeral → Expr
  | .decimal digits => .integer (valueIn 10 digits)
  | .hexadecimal capital digits =>
    if valueIn 16 digits ≤ Int32.maxValue.toNatClampNeg then .integer (valueIn 16 digits)
    else .bits (valueIn 16 digits) (String.ofList (chars (.hexadecimal capital digits)))

theorem Good.mem_chars {numeral : Numeral} (h : numeral.Good) :
    ∀ c ∈ numeral.chars, c ∈ 'x' :: 'X' :: hexDigitChars := by
  cases numeral with
  | decimal digits =>
      intro c hc
      exact List.mem_cons_of_mem _ (List.mem_cons_of_mem _
        (List.mem_append_left _ (mem_of_isDigit (h.2 c hc))))
  | hexadecimal capital digits =>
      refine List.forall_mem_cons.mpr ⟨by decide, List.forall_mem_cons.mpr ⟨?_, ?_⟩⟩
      · cases capital
        · exact List.mem_cons_self
        · exact List.mem_cons_of_mem _ List.mem_cons_self
      · intro c hc
        exact List.mem_cons_of_mem _ (List.mem_cons_of_mem _ (mem_of_isHexDigit (h.2.1 c hc)))

end Numeral

/-! ### The length of a numeral -/

theorem numberExtent_of_length {cs rest : List Char} (h : numberLength (cs ++ rest) = cs.length)
    (hrest : Closes rest) : numberExtent (cs ++ rest) = (.number, cs.length - 1) := by
  have htail : run isWordPart ([] ++ rest) = 0 :=
    run_append (fun _ hc => absurd hc List.not_mem_nil) (hrest.head_false (by decide))
  rw [numberExtent, h, List.drop_left]
  rw [List.nil_append] at htail
  simp only [htail, if_true, Nat.add_zero]

theorem exponentLength_of_closes {rest : List Char} (h : Closes rest) : exponentLength rest = 0 := by
  cases rest with
  | nil => rfl
  | cons c rest =>
      have hc := h.head_mem
      simp only [blankChars, List.mem_cons, List.not_mem_nil, or_false] at hc
      rcases hc with rfl | rfl | rfl | rfl | rfl | rfl <;> rfl

theorem decimalLength_append {digits rest : List Char} (hdigits : ∀ c ∈ digits, isDigit c = true)
    (h : Closes rest) : decimalLength (digits ++ rest) = digits.length := by
  have hrun : run isDigit (digits ++ rest) = digits.length :=
    run_append hdigits (h.head_false (by decide))
  simp only [decimalLength, hrun, List.drop_left]
  split
  · exact absurd h.head_mem (by decide)
  · rw [Nat.add_zero, List.drop_left, exponentLength_of_closes h, Nat.add_zero]

theorem numberLength_decimal {digits rest : List Char} (hne : digits ≠ [])
    (hdigits : ∀ c ∈ digits, isDigit c = true) (h : Closes rest) :
    numberLength (digits ++ rest) = digits.length := by
  have hdecimal := decimalLength_append hdigits h
  generalize htext : digits ++ rest = text at hdecimal ⊢
  unfold numberLength
  split
  · rename_i x d others
    -- The character behind the first one is a digit, a blank or a comma, and no letter.
    have hx : x ≠ 'x' ∧ x ≠ 'X' := by
      cases digits with
      | nil => exact absurd rfl hne
      | cons c more =>
          obtain ⟨-, htext⟩ := List.cons.inj htext
          cases more with
          | nil =>
              have hrest : rest = x :: d :: others := htext
              rw [hrest] at h
              exact ⟨fun hx => absurd (hx ▸ h.head_mem) (by decide),
                fun hx => absurd (hx ▸ h.head_mem) (by decide)⟩
          | cons c' more =>
              obtain ⟨rfl, -⟩ := List.cons.inj htext
              have hc := hdigits c' (List.mem_cons_of_mem _ List.mem_cons_self)
              exact ⟨fun hx => absurd (hx ▸ hc) (by decide), fun hx => absurd (hx ▸ hc) (by decide)⟩
    rw [if_neg fun hhex => hhex.1.elim hx.1 hx.2]
    exact hdecimal
  · exact hdecimal

theorem numberLength_hexadecimal {x : Char} {digits rest : List Char} (hx : x = 'x' ∨ x = 'X')
    (hne : digits ≠ []) (hdigits : ∀ c ∈ digits, isHexDigit c = true) (h : Closes rest) :
    numberLength ('0' :: x :: digits ++ rest) = digits.length + 2 := by
  obtain ⟨d, more, rfl⟩ := List.exists_cons_of_ne_nil hne
  have hrun : run isHexDigit (d :: more ++ rest) = (d :: more).length :=
    run_append hdigits (h.head_false (by decide))
  show (if (x = 'x' ∨ x = 'X') ∧ isHexDigit d = true then 2 + run isHexDigit (d :: more ++ rest)
    else _) = _
  rw [if_pos ⟨hx, hdigits d List.mem_cons_self⟩, hrun, Nat.add_comm]

/-- A numeral is cut off as a number. -/
theorem cut_numeral {numeral : Numeral} {rest : List Char} (hgood : numeral.Good)
    (h : Closes rest) :
    cut (numeral.chars ++ rest) = { kind := .number, chars := numeral.chars } :: cut rest := by
  -- The first character is a digit, so all is said by the length of the number.
  have hcut : ∀ c more, isDigit c = true → numberLength (c :: more ++ rest) = (c :: more).length →
      cut (c :: more ++ rest) = { kind := .number, chars := c :: more } :: cut rest := by
    intro c more hc hlength
    refine cut_of_extent _ ?_
    rw [extent_digit hc]
    exact numberExtent_of_length hlength h
  cases numeral with
  | decimal digits =>
      obtain ⟨hne, hdigits⟩ := hgood
      obtain ⟨c, more, rfl⟩ := List.exists_cons_of_ne_nil hne
      exact hcut c more (hdigits c List.mem_cons_self) (numberLength_decimal hne hdigits h)
  | hexadecimal capital digits =>
      obtain ⟨hne, hdigits, -⟩ := hgood
      have hx : (if capital then 'X' else 'x') = 'x' ∨ (if capital then 'X' else 'x') = 'X' := by
        cases capital
        · exact .inl rfl
        · exact .inr rfl
      exact hcut '0' _ rfl (numberLength_hexadecimal hx hne hdigits h)

/-! ### The value of a numeral -/

theorem digitValue_lt {c : Char} (h : isHexDigit c = true) : digitValue c < 16 := by
  have hall : hexDigitChars.all (fun c => digitValue c < 16) = true := by decide
  exact of_decide_eq_true (List.all_eq_true.mp hall c (mem_of_isHexDigit h))

theorem foldl_bytesOfHex (digits : List Char) (n : Nat) (hdigits : ∀ c ∈ digits, isHexDigit c = true)
    (heven : digits.length % 2 = 0) :
    (bytesOfHex digits).foldl (fun n b => n * 256 + b.toNat) n =
      digits.foldl (fun n c => n * 16 + digitValue c) n := by
  fun_induction bytesOfHex digits generalizing n with
  | case1 a b rest ih =>
      have ha := digitValue_lt (hdigits a List.mem_cons_self)
      have hb := digitValue_lt (hdigits b (List.mem_cons_of_mem _ List.mem_cons_self))
      have hbyte : (UInt8.ofNat (digitValue a * 16 + digitValue b)).toNat =
          digitValue a * 16 + digitValue b := by
        refine UInt8.toNat_ofNat_of_lt ?_
        show _ < 256
        omega
      have hrest := ih (n * 256 + (digitValue a * 16 + digitValue b))
        (fun c hc => hdigits c (List.mem_cons_of_mem _ (List.mem_cons_of_mem _ hc))) (by
          rw [List.length_cons, List.length_cons] at heven
          omega)
      rw [List.foldl_cons, List.foldl_cons, List.foldl_cons]
      show List.foldl _ (n * 256 + (UInt8.ofNat (digitValue a * 16 + digitValue b)).toNat) _ = _
      rw [hbyte, hrest]
      congr 1
      omega
  | case2 digits hshort =>
      cases digits with
      | nil => rfl
      | cons a digits =>
          cases digits with
          | nil => cases heven
          | cons b digits => exact absurd rfl (hshort a b digits)

theorem scanDecimal_digits {digits : List Char} (hne : digits ≠ [])
    (hdigits : ∀ c ∈ digits, isDigit c = true) :
    Decimal.scanDecimal digits = some (⟨false, valueIn 10 digits, 0, true⟩, []) := by
  have hspan : ∀ cs : List Char, (∀ c ∈ cs, isDigit c = true) →
      Decimal.spanDigits cs = (cs.map digitValue, []) := by
    intro cs hcs
    induction cs with
    | nil => rfl
    | cons c cs ih =>
        have hc := hcs c List.mem_cons_self
        have hdigit : Text.asciiDigit? c = some (digitValue c) := by
          rw [digitValue, if_pos hc]
          exact if_pos hc
        rw [Decimal.spanDigits, hdigit, ih fun d hd => hcs d (List.mem_cons_of_mem _ hd)]
        rfl
  have hsign : Decimal.spanSign digits = (false, digits) := by
    unfold Decimal.spanSign
    split
    · exact absurd (hdigits '-' List.mem_cons_self) (by decide)
    · exact absurd (hdigits '+' List.mem_cons_self) (by decide)
    · rfl
  have hvalue : Text.ofDigits (digits.map digitValue) = valueIn 10 digits := by
    rw [Text.ofDigits, List.foldl_map]
    rfl
  have hsome : (digits.map digitValue).isEmpty = false := by
    rw [List.isEmpty_eq_false_iff, ne_eq, List.map_eq_nil_iff]
    exact hne
  rw [Decimal.scanDecimal, hsign, Decimal.scanUnsigned, hspan digits hdigits]
  simp only [hsome, Bool.false_and, Bool.false_eq_true, if_false, List.append_nil, hvalue,
    Decimal.spanExponent]
  rfl

theorem numberExpr_chars {numeral : Numeral} (hgood : numeral.Good) :
    numberExpr numeral.chars = numeral.expr := by
  cases numeral with
  | decimal digits =>
      obtain ⟨hne, hdigits⟩ := hgood
      have hdecimal : numberExpr.decimal digits = .integer (valueIn 10 digits) := by
        rw [numberExpr.decimal, scanDecimal_digits hne hdigits]
        rfl
      show numberExpr digits = .integer (valueIn 10 digits)
      unfold numberExpr
      split
      · rename_i x more
        have hx := hdigits x (List.mem_cons_of_mem _ List.mem_cons_self)
        have hletter : ¬(x = 'x' ∨ x = 'X') := by
          rintro (rfl | rfl)
          · exact absurd hx (by decide)
          · exact absurd hx (by decide)
        rw [if_neg hletter]
        exact hdecimal
      · exact hdecimal
  | hexadecimal capital digits =>
      obtain ⟨hne, hdigits, -⟩ := hgood
      have hx : (if capital then 'X' else 'x') = 'x' ∨ (if capital then 'X' else 'x') = 'X' := by
        cases capital
        · exact .inl rfl
        · exact .inr rfl
      have hvalue : (bytesOfHex (if digits.length % 2 = 0 then digits else '0' :: digits)).foldl
          (fun n b => n * 256 + b.toNat) 0 = valueIn 16 digits := by
        split
        · rename_i heven
          exact foldl_bytesOfHex digits 0 hdigits heven
        · rename_i hodd
          refine foldl_bytesOfHex ('0' :: digits) 0 (List.forall_mem_cons.mpr ⟨rfl, hdigits⟩) ?_
          rw [List.length_cons]
          omega
      simp only [numberExpr, Numeral.chars, Numeral.expr, if_pos hx, hvalue]

/-! ## Texts -/

/-- A text with its apostrophes doubled. -/
def doubled (cs : List Char) : List Char :=
  cs.flatMap fun c => if c = '\'' then ['\'', '\''] else [c]

def quotedText (s : String) : List Char := '\'' :: (doubled s.toList ++ ['\''])

theorem doubled_cons (c : Char) (cs : List Char) :
    doubled (c :: cs) = (if c = '\'' then ['\'', '\''] else [c]) ++ doubled cs :=
  List.flatMap_cons

theorem mem_quotedText {s : String} {c : Char} (h : c ∈ quotedText s) : c = '\'' ∨ c ∈ s.toList := by
  simp only [quotedText, doubled, List.mem_cons, List.mem_append, List.mem_flatMap,
    List.not_mem_nil, or_false] at h
  rcases h with h | ⟨d, hd, hc⟩ | h
  · exact .inl h
  · split at hc
    · simp only [List.mem_cons, List.not_mem_nil, or_false, or_self] at hc
      exact .inl hc
    · exact .inr (List.mem_singleton.mp hc ▸ hd)
  · exact .inl h

theorem quotedLength_doubled {rest : List Char} (hrest : rest.head? ≠ some '\'') (cs : List Char) :
    quotedLength '\'' (doubled cs ++ '\'' :: rest) = some ((doubled cs).length + 1) := by
  induction cs with
  | nil =>
      cases rest with
      | nil => rfl
      | cons d rest =>
          have hd : d ≠ '\'' := fun h => hrest (congrArg some h)
          show quotedLength '\'' ('\'' :: d :: rest) = some 1
          rw [quotedLength, if_pos rfl, if_neg hd]
  | cons c cs ih =>
      rw [doubled_cons]
      by_cases hc : c = '\''
      · subst hc
        rw [if_pos rfl]
        show quotedLength '\'' ('\'' :: '\'' :: (doubled cs ++ '\'' :: rest)) = _
        rw [quotedLength, if_pos rfl, if_pos rfl, ih]
        rfl
      · rw [if_neg hc]
        obtain ⟨d, more, hmore⟩ := List.exists_cons_of_ne_nil
          (List.append_ne_nil_of_right_ne_nil (doubled cs) (List.cons_ne_nil '\'' rest))
        show quotedLength '\'' (c :: (doubled cs ++ '\'' :: rest)) = _
        rw [hmore] at ih ⊢
        rw [quotedLength, if_neg hc, ih]
        rfl

/-- A text between apostrophes is cut off as a text. -/
theorem cut_quotedText (s : String) {rest : List Char} (h : Closes rest) :
    cut (quotedText s ++ rest) = { kind := .text, chars := quotedText s } :: cut rest := by
  have hrest : rest.head? ≠ some '\'' := by
    intro hhead
    cases rest with
    | nil => cases hhead
    | cons c rest =>
        cases hhead
        exact absurd h.head_mem (by decide)
  refine cut_of_extent _ ?_
  show quotedExtent .text '\'' (doubled s.toList ++ ['\''] ++ rest) = _
  rw [List.append_assoc, List.singleton_append, quotedExtent, quotedLength_doubled hrest]
  show (Kind.text, (doubled s.toList).length + 1) = _
  rw [List.length_append, List.length_singleton]

theorem undouble_doubled (cs : List Char) : unquote.undouble '\'' (doubled cs) = cs := by
  induction cs with
  | nil => rfl
  | cons c cs ih =>
      rw [doubled_cons]
      by_cases hc : c = '\''
      · subst hc
        rw [if_pos rfl]
        show unquote.undouble '\'' ('\'' :: '\'' :: doubled cs) = _
        rw [unquote.undouble, if_pos ⟨rfl, rfl⟩, ih]
      · rw [if_neg hc, List.singleton_append]
        cases hmore : doubled cs with
        | nil =>
            rw [hmore] at ih
            rw [← ih]
            rfl
        | cons d more =>
            rw [hmore] at ih
            rw [unquote.undouble, if_neg fun h => hc h.1, ih]

theorem unquote_quotedText (s : String) : unquote (quotedText s) = s.toList := by
  rw [quotedText, unquote, List.dropLast_concat, undouble_doubled]

end Entitlement.Store.Select
