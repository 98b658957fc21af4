import Mathlib.Data.List.Forall2
import Entitlement.Principal
import Entitlement.Proofs.Text.Quoted
import Entitlement.Proofs.Text.Run

/-!
# `Entitlement.Proofs.Value.Display` — literals between commas are read in one way

A text form lists its parts between commas and ends with a parenthesis.  A literal of a text or of a
flag shows where it ends; the literal of a number does not, and is read to the first character that
is no digit.  So what stands behind a part enters the statements: a comma or a parenthesis
(`IsBehind`).

| what is compared | what two equal texts agree on |
| :-- | :-- |
| values of one form (`Value.OfOneForm`) | the value, and what stands behind it |
| parts with a comma and a blank between neighbours | the parts, one by one, and the same |
| a sequence between parentheses, one member alone with a comma | likewise |

Which parts agree is a relation that the two lists bring along: equal members for a sequence, equal
values of equal names for a record of fields.  Nothing is assumed of what is inside a part: a name
may hold commas, parentheses and quotes.
-/
namespace Entitlement

open Text

/-! ## Values of one form -/

/-- What may stand behind a part: a comma or the closing parenthesis, and anything behind that. -/
inductive IsBehind : List Char → Prop
  | comma (rest : List Char) : IsBehind (',' :: rest)
  | close (rest : List Char) : IsBehind (')' :: rest)

theorem IsBehind.head_isDigit {x : List Char} (h : IsBehind x) :
    ∀ c, x.head? = some c → c.isDigit = false := by
  cases h with
  | comma rest =>
      rintro c ⟨⟩
      rfl
  | close rest =>
      rintro c ⟨⟩
      rfl

theorem displayFlag_append_inj {a b : Bool} {x y : List Char} :
    (displayFlag a).toList ++ x = (displayFlag b).toList ++ y ↔ a = b ∧ x = y := by
  cases a with
  | false =>
      cases b with
      | false => simp [displayFlag, Value.display]
      | true => simp [displayFlag, Value.display]
  | true =>
      cases b with
      | false => simp [displayFlag, Value.display]
      | true => simp [displayFlag, Value.display]

theorem repr_append_inj {m n : Nat} {x y : List Char} (hx : IsBehind x) (hy : IsBehind y)
    (h : m.repr.toList ++ x = n.repr.toList ++ y) : m = n ∧ x = y := by
  rw [Nat.toList_repr, Nat.toList_repr] at h
  have hdigit (k : Nat) : ∀ c ∈ Nat.toDigits 10 k, c.isDigit = true := fun c hc =>
    Nat.isDigit_of_mem_toDigits (by decide) (by decide) hc
  obtain ⟨hdigits, hxy⟩ :=
    append_inj_of_class (hdigit m) (hdigit n) hx.head_isDigit hy.head_isDigit h
  have hread := congrArg (fun cs => Nat.ofDigitChars 10 cs 0) hdigits
  simp only [Nat.ofDigitChars_ten_toDigits] at hread
  exact ⟨hread, hxy⟩

theorem repr_append_ne (n : Nat) (x y : List Char) : n.repr.toList ++ x ≠ '-' :: y := by
  rw [Nat.toList_repr]
  cases hdigits : Nat.toDigits 10 n with
  | nil => exact absurd hdigits Nat.toDigits_ne_nil
  | cons c rest =>
      intro h
      have hdigit : c.isDigit = true :=
        Nat.isDigit_of_mem_toDigits (b := 10) (n := n) (by decide) (by decide) (by simp [hdigits])
      rw [(List.cons.inj h).1] at hdigit
      cases hdigit

theorem int_append_inj {m n : Int} {x y : List Char} (hx : IsBehind x) (hy : IsBehind y)
    (h : (toString m).toList ++ x = (toString n).toList ++ y) : m = n ∧ x = y := by
  have hneg (k : Nat) (z : List Char) :
      (toString (Int.negSucc k)).toList ++ z = '-' :: ((k + 1).repr.toList ++ z) := by
    have hstring : toString (Int.negSucc k) = "-" ++ (k + 1).repr := rfl
    simp [hstring]
  cases m with
  | ofNat m =>
      cases n with
      | ofNat n =>
          obtain ⟨rfl, hxy⟩ := repr_append_inj hx hy h
          exact ⟨rfl, hxy⟩
      | negSucc n =>
          rw [hneg] at h
          exact absurd h (repr_append_ne m x _)
  | negSucc m =>
      rw [hneg] at h
      cases n with
      | ofNat n => exact absurd h.symm (repr_append_ne n y _)
      | negSucc n =>
          rw [hneg] at h
          obtain ⟨hmn, hxy⟩ := repr_append_inj hx hy (List.cons.inj h).2
          exact ⟨congrArg Int.negSucc (Nat.succ.inj hmn), hxy⟩

/-- Two texts, two flags or two whole numbers. -/
inductive Value.OfOneForm : Value → Value → Prop
  | text (s t : String) : OfOneForm (.text s) (.text t)
  | bool (a b : Bool) : OfOneForm (.bool a) (.bool b)
  | int (m n : Int) : OfOneForm (.int m) (.int n)

theorem Value.OfOneForm.display_append_inj {v w : Value} (h : OfOneForm v w) {x y : List Char}
    (hx : IsBehind x) (hy : IsBehind y)
    (heq : v.display.toList ++ x = w.display.toList ++ y) : v = w ∧ x = y := by
  cases h with
  | text s t =>
      obtain ⟨rfl, hxy⟩ := quoted_append_inj.mp heq
      exact ⟨rfl, hxy⟩
  | bool a b =>
      obtain ⟨rfl, hxy⟩ := displayFlag_append_inj.mp heq
      exact ⟨rfl, hxy⟩
  | int m n =>
      obtain ⟨rfl, hxy⟩ := int_append_inj hx hy heq
      exact ⟨rfl, hxy⟩

/-! ## Parts between commas -/

/-- What stands behind the first part, up to the closing parenthesis. -/
def furtherParts : List String → List Char
  | [] => [')']
  | part :: rest => ',' :: ' ' :: (part.toList ++ furtherParts rest)

theorem toList_commaSeparated (part : String) (rest : List String) :
    (Value.commaSeparated (part :: rest)).toList ++ [')'] = part.toList ++ furtherParts rest := by
  induction rest generalizing part with
  | nil => simp [Value.commaSeparated, furtherParts]
  | cons next rest ih =>
      rw [furtherParts, ← ih next]
      simp [Value.commaSeparated]

theorem isBehind_furtherParts (rest : List String) (x : List Char) :
    IsBehind (furtherParts rest ++ x) := by
  cases rest with
  | nil => exact .close x
  | cons part rest => exact .comma _

section Parts

variable {α β : Type} {R : α → β → Prop} {f : α → String} {g : β → String}

/-- What a relation says of two parts whenever they are read from the same text. -/
def ReadsAs (R : α → β → Prop) (f : α → String) (g : β → String) : Prop :=
  ∀ (a : α) (b : β) (x y : List Char), IsBehind x → IsBehind y →
    (f a).toList ++ x = (g b).toList ++ y → R a b ∧ x = y

theorem furtherParts_append_inj (hreads : ReadsAs R f g) (as : List α) (bs : List β)
    {x y : List Char} (h : furtherParts (as.map f) ++ x = furtherParts (bs.map g) ++ y) :
    List.Forall₂ R as bs ∧ x = y := by
  induction as generalizing bs with
  | nil =>
      cases bs with
      | nil => exact ⟨.nil, (List.cons.inj h).2⟩
      | cons b bs => exact absurd (List.cons.inj h).1 (by decide)
  | cons a as ih =>
      cases bs with
      | nil => exact absurd (List.cons.inj h).1 (by decide)
      | cons b bs =>
          simp only [List.map_cons, furtherParts, List.cons_append, List.append_assoc,
            List.cons.injEq, true_and] at h
          obtain ⟨hab, hrest⟩ := hreads a b _ _ (isBehind_furtherParts _ x)
            (isBehind_furtherParts _ y) h
          obtain ⟨hall, hxy⟩ := ih bs hrest
          exact ⟨.cons hab hall, hxy⟩

/-- Parts with a comma and a blank between neighbours, in front of the closing parenthesis. -/
theorem commaSeparated_append_inj (hreads : ReadsAs R f g) (a : α) (as : List α) (b : β)
    (bs : List β) {x y : List Char}
    (h : (Value.commaSeparated ((a :: as).map f)).toList ++ [')'] ++ x =
      (Value.commaSeparated ((b :: bs).map g)).toList ++ [')'] ++ y) :
    List.Forall₂ R (a :: as) (b :: bs) ∧ x = y := by
  rw [List.map_cons, List.map_cons, toList_commaSeparated, toList_commaSeparated,
    List.append_assoc, List.append_assoc] at h
  obtain ⟨hab, hrest⟩ := hreads a b _ _ (isBehind_furtherParts _ x) (isBehind_furtherParts _ y) h
  obtain ⟨hall, hxy⟩ := furtherParts_append_inj hreads as bs hrest
  exact ⟨.cons hab hall, hxy⟩

end Parts

/-! ## Sequences between parentheses -/

/-- What stands behind the first member of a sequence: one member alone is followed by a comma. -/
def sequenceEnd : List String → List Char
  | [] => [',', ')']
  | part :: rest => furtherParts (part :: rest)

theorem isBehind_sequenceEnd (rest : List String) (x : List Char) :
    IsBehind (sequenceEnd rest ++ x) := by
  cases rest with
  | nil => exact .comma _
  | cons part rest => exact .comma _

theorem toList_displaySequence_cons (part : String) (rest : List String) :
    (displaySequence (part :: rest)).toList = '(' :: (part.toList ++ sequenceEnd rest) := by
  cases rest with
  | nil => simp [displaySequence, sequenceEnd]
  | cons next rest =>
      rw [sequenceEnd, ← toList_commaSeparated]
      simp [displaySequence]

theorem displaySequence_nil_append_ne {part : String} (hpart : part.toList.head? ≠ some ')')
    (rest : List String) (x y : List Char) :
    (displaySequence []).toList ++ x ≠ (displaySequence (part :: rest)).toList ++ y := by
  intro h
  rw [toList_displaySequence_cons] at h
  have hsecond : ')' :: x = part.toList ++ (sequenceEnd rest ++ y) := by
    simpa [displaySequence, Value.commaSeparated] using h
  cases hchars : part.toList with
  | nil =>
      rw [hchars] at hsecond
      cases rest with
      | nil => exact absurd (List.cons.inj hsecond).1 (by decide)
      | cons next rest => exact absurd (List.cons.inj hsecond).1 (by decide)
  | cons c cs =>
      rw [hchars] at hsecond hpart
      exact hpart (congrArg some (List.cons.inj hsecond).1.symm)

section Sequence

variable {α β : Type} {R : α → β → Prop} {f : α → String} {g : β → String}

theorem sequenceEnd_append_inj (hreads : ReadsAs R f g) {as : List α} {bs : List β}
    {x y : List Char} (h : sequenceEnd (as.map f) ++ x = sequenceEnd (bs.map g) ++ y) :
    List.Forall₂ R as bs ∧ x = y := by
  cases as with
  | nil =>
      cases bs with
      | nil => exact ⟨.nil, (List.cons.inj (List.cons.inj h).2).2⟩
      | cons b bs => exact absurd (List.cons.inj (List.cons.inj h).2).1 (by decide)
  | cons a as =>
      cases bs with
      | nil => exact absurd (List.cons.inj (List.cons.inj h).2).1 (by decide)
      | cons b bs => exact furtherParts_append_inj hreads (a :: as) (b :: bs) h

/-- A sequence none of whose members begins with the closing parenthesis. -/
theorem displaySequence_append_inj (hreads : ReadsAs R f g)
    (hf : ∀ a, (f a).toList.head? ≠ some ')') (hg : ∀ b, (g b).toList.head? ≠ some ')')
    {as : List α} {bs : List β} {x y : List Char}
    (h : (displaySequence (as.map f)).toList ++ x = (displaySequence (bs.map g)).toList ++ y) :
    List.Forall₂ R as bs ∧ x = y := by
  cases as with
  | nil =>
      cases bs with
      | nil => exact ⟨.nil, List.append_cancel_left h⟩
      | cons b bs => exact absurd h (displaySequence_nil_append_ne (hg b) _ x y)
  | cons a as =>
      cases bs with
      | nil => exact absurd h.symm (displaySequence_nil_append_ne (hf a) _ y x)
      | cons b bs =>
          rw [List.map_cons, List.map_cons, toList_displaySequence_cons,
            toList_displaySequence_cons] at h
          simp only [List.cons_append, List.append_assoc, List.cons.injEq, true_and] at h
          obtain ⟨hab, hrest⟩ := hreads a b _ _ (isBehind_sequenceEnd _ x)
            (isBehind_sequenceEnd _ y) h
          obtain ⟨hall, hxy⟩ := sequenceEnd_append_inj hreads hrest
          exact ⟨.cons hab hall, hxy⟩

end Sequence

end Entitlement
