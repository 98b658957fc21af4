import Mathlib.Data.List.TakeWhile
import Entitlement.Value

/-!
# `Entitlement.Proofs.Value.Text` — only the empty text stands for no text

Where a text is wanted, a text stands for itself and every other value is written as a literal.  No
literal is empty, so a value that stands for the empty text is the empty text:

    v.toText = ""   ↔   v = .text ""

Most literals begin with a character of their own.  The one that has to be looked into is that of a
double, where digits are chosen and zeros at the end are dropped: something is left of them because
the chosen decimal reads back as the double, and zero does not.
-/
namespace Entitlement

namespace Decimal

/-! ## Digits that are chosen -/

theorem exists_digit_ne_zero {n : Nat} (hn : 0 < n) : ∃ c ∈ Nat.toDigits 10 n, c ≠ '0' := by
  induction n using Nat.strongRecOn with
  | ind n ih =>
      by_cases hsmall : n < 10
      · rw [Nat.toDigits_of_lt_base hsmall]
        refine ⟨_, List.mem_singleton_self _, ?_⟩
        have hall : ∀ k : Fin 10, 0 < k.val → k.val.digitChar ≠ '0' := by decide
        exact hall ⟨n, hsmall⟩ hn
      · have hlarge : 10 ≤ n := Nat.le_of_not_lt hsmall
        obtain ⟨c, hc, hne⟩ := ih (n / 10) (by omega) (by omega)
        rw [Nat.toDigits_of_base_le (by decide) hlarge]
        exact ⟨c, List.mem_append_left _ hc, hne⟩

theorem dropZeros_ne_nil {digits : List Char} (h : ∃ c ∈ digits, c ≠ '0') :
    dropZeros digits ≠ [] := by
  obtain ⟨c, hc, hne⟩ := h
  unfold dropZeros
  rw [ne_eq, List.reverse_eq_nil_iff, List.dropWhile_eq_nil_iff]
  intro hall
  exact hne (beq_iff_eq.mp (hall c (List.mem_reverse.mpr hc)))

theorem Layout.write_ne_nil (layout : Layout) {d : Digits} (hd : 0 < d.digits) :
    layout.write d ≠ [] := by
  have hdigits := dropZeros_ne_nil (exists_digit_ne_zero hd)
  unfold Layout.write
  dsimp only
  split
  · split
    · exact List.cons_ne_nil _ _
    · exact List.append_ne_nil_of_right_ne_nil _ (List.cons_ne_nil _ _)
  · split
    · rename_i hnone
      exact absurd hnone hdigits
    · exact List.cons_ne_nil _ _

/-! ## Doubles that are not zero -/

theorem mantissa_pos {x : Binary64} (hx : x.isZero = false) : 0 < x.mantissa := by
  unfold Binary64.mantissa
  split
  · rename_i hexponent
    refine Nat.pos_of_ne_zero ?_
    intro hzero
    have hfraction : x.fraction = 0 := BitVec.eq_of_toNat_eq hzero
    rw [Binary64.isZero, hexponent, hfraction] at hx
    cases hx
  · exact Nat.add_pos_right _ (Nat.pow_pos (by decide))

theorem ratio_pos {x : Binary64} (hx : x.isZero = false) : 0 < x.ratio.1 := by
  have hm := mantissa_pos hx
  unfold Binary64.ratio
  split
  · exact Nat.mul_pos hm (Nat.pow_pos (by decide))
  · exact hm

/-- Zero does not read back as a double that is not zero: it lies below the interval. -/
theorem readsBack_zero {x : Binary64} (hx : x.isZero = false) {den : Nat} (hden : 0 < den) :
    readsBack x 0 den = false := by
  have hm := mantissa_pos hx
  have hlow : 0 < (roundingBounds x).1 := by
    unfold roundingBounds
    dsimp only
    split
    · omega
    · omega
  have hside : 0 < (roundingBounds x).1 * x.ratio.1 * den :=
    Nat.mul_pos (Nat.mul_pos hlow (ratio_pos hx)) hden
  unfold readsBack
  simp only [Nat.zero_mul]
  split
  · rw [decide_eq_false (Nat.not_le_of_lt hside), Bool.false_and]
  · rw [decide_eq_false (Nat.not_lt_zero _), Bool.false_and]

theorem digits_pos_of_withDigits {x : Binary64} (hx : x.isZero = false) {n : Nat} {d : Digits}
    (h : withDigits? x n = some d) : 0 < d.digits := by
  -- Whether a number of units reads back, as it is asked of both neighbours.
  have hreads : ∀ {unit : Int} {k : Nat},
      (if 0 ≤ unit then readsBack x (k * Nat.pow 10 unit.toNat) 1
        else readsBack x k (Nat.pow 10 (-unit).toNat)) = true → 0 < k := by
    intro unit k hk
    refine Nat.pos_of_ne_zero ?_
    rintro rfl
    split at hk
    · rw [Nat.zero_mul, readsBack_zero hx (by decide)] at hk
      cases hk
    · have hden : 0 < Nat.pow 10 (-unit).toNat := Nat.pow_pos (by decide)
      rw [readsBack_zero hx hden] at hk
      cases hk
  unfold withDigits? at h
  dsimp only at h
  split at h
  · rename_i hbelow habove
    cases h
    dsimp only
    split
    · exact hreads hbelow
    · exact hreads habove
  · rename_i hbelow _
    cases h
    exact hreads hbelow
  · rename_i _ habove
    cases h
    exact hreads habove
  · cases h

theorem firstDigits_cases {x : Binary64} (hx : x.isZero = false) (counts : List Nat) :
    firstDigits x counts = ⟨0, 0⟩ ∨ 0 < (firstDigits x counts).digits := by
  induction counts with
  | nil => exact .inl rfl
  | cons n rest ih =>
      rw [firstDigits.eq_def]
      dsimp only
      split
      · rename_i d hd
        exact .inr (digits_pos_of_withDigits hx hd)
      · exact ih

theorem shortestText_ne_nil (x : Binary64) : shortestText x ≠ [] := by
  unfold shortestText
  split
  · exact List.cons_ne_nil _ _
  · split
    · split
      · exact List.cons_ne_nil _ _
      · exact List.cons_ne_nil _ _
    · unfold Layout.writeFinite
      dsimp only
      split
      · exact List.append_ne_nil_of_right_ne_nil _ (List.cons_ne_nil _ _)
      · rename_i hx
        refine List.append_ne_nil_of_right_ne_nil _ ?_
        unfold shortestDigits
        rcases firstDigits_cases (Bool.eq_false_iff.mpr hx) ((List.range 17).map (· + 1)) with
          hnone | hpos
        · rw [hnone]
          decide
        · exact Layout.write_ne_nil _ hpos

end Decimal

/-! ## Literals -/

namespace Value

theorem display_ne_empty (v : Value) : v.display ≠ "" := by
  cases v with
  | null => decide
  | bool b =>
      cases b
      · decide
      · decide
  | int n =>
      cases n with
      | ofNat n => exact Nat.repr_ne_empty
      | negSucc n => exact fun h => absurd (String.append_eq_empty_iff.mp h).1 (by decide)
  | float x =>
      intro h
      exact Decimal.shortestText_ne_nil x (String.ofList_eq_empty_iff.mp h)
  | bytes bs =>
      intro h
      exact List.cons_ne_nil _ _ (String.ofList_eq_empty_iff.mp h)
  | text s =>
      intro h
      exact List.cons_ne_nil _ _ (String.ofList_eq_empty_iff.mp h)
  | list items =>
      intro h
      rw [display] at h
      exact absurd (String.append_eq_empty_iff.mp h).2 (by decide)
  | object fields =>
      intro h
      rw [display] at h
      exact absurd (String.append_eq_empty_iff.mp h).2 (by decide)

theorem toText_eq_empty_iff {v : Value} : v.toText = "" ↔ v = .text "" := by
  constructor
  · intro h
    unfold toText at h
    split at h
    · rw [h]
    · exact absurd h (display_ne_empty v)
  · rintro rfl
    rfl

end Value
end Entitlement
