import Entitlement.Text.Case

/-!
# `Entitlement.Proofs.Text.Lower` — what becomes ASCII in small letters

A text is put in small letters by a table of all capitals, and the table holds two characters beyond
ASCII whose small letters are ASCII: one of them has an `i` and the other one has a `k`.  So a word in
small ASCII letters, without these two, is what becomes of its own spellings in ASCII and of nothing
else:

    lower cs = word   ↔   cs.map Char.toLower = word

The two exceptions are in the hypothesis because they are in the table: with `k` allowed the statement
is false, the Kelvin sign being the second character.
-/
namespace Entitlement.Text

/-! ## ASCII -/

theorem toLower_of_beyond {c : Char} (h : 128 ≤ c.toNat) : c.toLower = c := by
  have hnot : ¬(c.val ≥ 'A'.val ∧ c.val ≤ 'Z'.val) := by
    rintro ⟨-, hle⟩
    have hle' : c.toNat ≤ 90 := UInt32.le_iff_toNat_le.mp hle
    omega
  exact dif_neg hnot

theorem smallLetters_of_ascii {c : Char} (h : c.toNat < 128) : smallLetters c = [c.toLower] :=
  if_pos h

theorem lowerBehind_of_ascii {before cs : List Char} (h : ∀ c ∈ cs, c.toNat < 128) :
    lowerBehind before cs = cs.map Char.toLower := by
  induction cs generalizing before with
  | nil => rfl
  | cons c rest ih =>
      have hc : c.toNat < 128 := h c List.mem_cons_self
      have hsigma : (c == '\u03a3') = false := by
        refine beq_eq_false_iff_ne.mpr ?_
        rintro rfl
        exact absurd hc (by decide)
      have hrest := @ih (c :: before) fun d hd => h d (List.mem_cons_of_mem _ hd)
      simp only [lowerBehind, hsigma, Bool.false_and, Bool.false_eq_true, if_false,
        smallLetters_of_ascii hc, hrest, List.map_cons, List.singleton_append]

/-! ## Beyond ASCII -/

/-- The small letters of a run are characters, and they lie beyond ASCII unless there is only one of
them and it is `k`. -/
theorem capitalRuns_small : ∀ run ∈ capitalRuns,
    (run.small + (run.last - run.first) < 0xd800 ∨
      0xdfff < run.small ∧ run.small + (run.last - run.first) < 0x110000) ∧
    (128 ≤ run.small ∨ run.small = 107 ∧ run.last ≤ run.first) := by
  decide +kernel

/-- A character that is not ASCII, or one of the two small letters that such a character may
have. -/
def IsForeign (d : Char) : Prop := 128 ≤ d.toNat ∨ d = 'i' ∨ d = 'k'

theorem CapitalRun.small?_isForeign {run : CapitalRun} (hrun : run ∈ capitalRuns) {n m : Nat}
    (h : run.small? n = some m) : IsForeign (Char.ofNat m) := by
  obtain ⟨hvalid, hsmall⟩ := capitalRuns_small run hrun
  unfold small? at h
  split at h
  · rename_i hin
    simp only [Bool.and_eq_true, decide_eq_true_eq] at hin
    cases h
    rcases hsmall with hbeyond | ⟨hk, hone⟩
    · have hm : (run.small + (n - run.first)).isValidChar := by
        unfold Nat.isValidChar
        omega
      have hcode : (Char.ofNat (run.small + (n - run.first))).toNat =
          run.small + (n - run.first) := by
        rw [Char.ofNat, dif_pos hm]
        rfl
      refine .inl ?_
      rw [hcode]
      omega
    · have hm : run.small + (n - run.first) = 107 := by omega
      rw [hm]
      exact .inr (.inr rfl)
  · cases h

theorem exists_isForeign_smallLetters {c : Char} (h : 128 ≤ c.toNat) :
    ∃ d ∈ smallLetters c, IsForeign d := by
  unfold smallLetters
  rw [if_neg (Nat.not_lt_of_le h)]
  split
  · exact ⟨'i', List.mem_cons_self, .inr (.inl rfl)⟩
  · split
    · rename_i n hn
      obtain ⟨run, hrun, hsmall⟩ := List.exists_of_findSome?_eq_some hn
      exact ⟨_, List.mem_cons_self, run.small?_isForeign hrun hsmall⟩
    · exact ⟨c, List.mem_cons_self, .inl h⟩

theorem ascii_of_lowerBehind {before cs : List Char}
    (h : ∀ d ∈ lowerBehind before cs, ¬IsForeign d) : ∀ c ∈ cs, c.toNat < 128 := by
  induction cs generalizing before with
  | nil => exact fun c hc => absurd hc List.not_mem_nil
  | cons c rest ih =>
      simp only [lowerBehind, List.mem_append] at h
      intro d hd
      rcases List.mem_cons.mp hd with rfl | hd
      · refine Nat.lt_of_not_le ?_
        intro hbeyond
        split at h
        · exact h '\u03c2' (.inl List.mem_cons_self) (.inl (by decide))
        · obtain ⟨e, he, hforeign⟩ := exists_isForeign_smallLetters hbeyond
          exact h e (.inl he) hforeign
      · exact ih (fun e he => h e (.inr he)) d hd

/-! ## Words -/

/-- A word with nothing foreign in it is what becomes, in small letters, of its ASCII spellings and
of no other text. -/
theorem lower_eq_iff {cs word : List Char} (h : ∀ d ∈ word, ¬IsForeign d) :
    lower cs = word ↔ cs.map Char.toLower = word := by
  constructor
  · rintro rfl
    exact (lowerBehind_of_ascii (ascii_of_lowerBehind h)).symm
  · rintro rfl
    refine lowerBehind_of_ascii ?_
    intro c hc
    refine Nat.lt_of_not_le ?_
    intro hbeyond
    have hmem : c.toLower ∈ cs.map Char.toLower := List.mem_map_of_mem hc
    rw [toLower_of_beyond hbeyond] at hmem
    exact h c hmem (.inl hbeyond)

end Entitlement.Text
