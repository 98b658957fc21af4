import Entitlement.Value
import Entitlement.Proofs.Text.Lower
import Entitlement.Proofs.Text.Run

/-!
# `Entitlement.Proofs.Value.Flag` — which values set a flag

`Value.flag` reads a flag by computing: a number is compared, bytes are searched, and whatever is left
is written as a text, trimmed, put in small letters and looked up.  Which values set a flag can be
said without any of this, and `Value.IsSet` says it:

| form | is set when |
|---|---|
| boolean | it is true |
| integer | it is not zero |
| double | it is neither of the two zeros |
| bytes | one of them is not zero |
| text | what stands between its blanks is a flag word, but for the case of ASCII letters |
| null, list, object | never |

The last two rows need an argument.  Small letters are a matter of all characters, and two characters
beyond ASCII have small letters in it; but these are `i` and `k`, and no flag word has one.  A list or
an object is written with a bracket in front, which is no blank, stays in front, and begins no flag
word, whatever is inside.
-/
namespace Entitlement

open Text

/-! ## Case -/

namespace Text

/-- Two texts that differ at most in the case of their ASCII letters. -/
def SameButCase (cs ds : List Char) : Prop := cs.map Char.toLower = ds.map Char.toLower

theorem isBlank_toLower (c : Char) : isBlank c.toLower = isBlank c := by
  rcases Nat.lt_or_ge c.toNat 128 with hascii | hbeyond
  · have hall : ∀ n : Fin 128, isBlank (Char.ofNat n).toLower = isBlank (Char.ofNat n) := by
      decide +kernel
    have hc := hall ⟨c.toNat, hascii⟩
    rwa [Char.ofNat_toNat] at hc
  · rw [toLower_of_beyond hbeyond]

instance : DecidablePred IsForeign := fun d =>
  inferInstanceAs (Decidable (128 ≤ d.toNat ∨ d = 'i' ∨ d = 'k'))

end Text

/-! ## What sets a flag -/

inductive Value.IsSet : Value → Prop where
  | bool : IsSet (.bool true)
  | int {n : Int} (h : n ≠ 0) : IsSet (.int n)
  | float {x : Binary64} (hpos : x ≠ .zero false) (hneg : x ≠ .zero true) : IsSet (.float x)
  | bytes {bs : List UInt8} {b : UInt8} (hmem : b ∈ bs) (h : b ≠ 0) : IsSet (.bytes bs)
  | text {s word : String} {w : List Char} (htrim : Trimmed isBlank s.toList w)
      (hword : word ∈ ["1", "true", "t", "yes", "y", "on"]) (hcase : SameButCase w word.toList) :
      IsSet (.text s)

theorem Binary64.isZero_iff {x : Binary64} :
    x.isZero = true ↔ x = .zero false ∨ x = .zero true := by
  obtain ⟨negative, exponent, fraction⟩ := x
  constructor
  · intro h
    simp only [isZero, Bool.and_eq_true, beq_iff_eq] at h
    obtain ⟨rfl, rfl⟩ := h
    cases negative with
    | false => exact .inl rfl
    | true => exact .inr rfl
  · rintro (h | h)
    · rw [h]
      rfl
    · rw [h]
      rfl

/-! ## Texts -/

/-- No flag word has a letter that comes from beyond ASCII, or one that is not small. -/
theorem flagWords_plain : ∀ word ∈ flagWords,
    (∀ d ∈ word.toList, ¬IsForeign d) ∧ word.toList.map Char.toLower = word.toList := by
  have hall : ∀ word ∈ flagWords, (word.toList.all fun d => !decide (IsForeign d)) = true ∧
      word.toList.map Char.toLower = word.toList := by
    decide
  intro word hword
  obtain ⟨hplain, hlower⟩ := hall word hword
  refine ⟨fun d hd hforeign => ?_, hlower⟩
  have hnot := List.all_eq_true.mp hplain d hd
  rw [decide_eq_true hforeign] at hnot
  cases hnot

/-- What is left of a text between its blanks is a flag word but for case. -/
def IsFlagText (cs : List Char) : Prop :=
  ∃ word ∈ flagWords, (trim isBlank cs).map Char.toLower = word.toList

theorem flagWord_mem_iff {s : String} : flagWord s ∈ flagWords ↔ IsFlagText s.toList := by
  have hiff : ∀ word ∈ flagWords,
      flagWord s = word ↔ (trim isBlank s.toList).map Char.toLower = word.toList := by
    intro word hword
    rw [← lower_eq_iff (flagWords_plain word hword).1, flagWord, ← String.toList_inj,
      String.toList_ofList]
  constructor
  · intro h
    exact ⟨_, h, (hiff _ h).mp rfl⟩
  · rintro ⟨word, hword, hlower⟩
    rw [(hiff word hword).mpr hlower]
    exact hword

theorem flag_text_iff {s : String} : (Value.text s).flag = true ↔ IsFlagText s.toList := by
  rw [← flagWord_mem_iff]
  exact decide_eq_true_iff

theorem isFlagText_padded {cs l r : List Char} (hl : ∀ c ∈ l, isBlank c = true)
    (hr : ∀ c ∈ r, isBlank c = true) : IsFlagText (l ++ (cs ++ r)) ↔ IsFlagText cs := by
  rw [IsFlagText, trim_padded hl hr, IsFlagText]

theorem isFlagText_of_sameButCase {cs ds : List Char} (h : SameButCase cs ds) :
    IsFlagText cs ↔ IsFlagText ds := by
  rw [IsFlagText, ← trim_map isBlank_toLower, h, trim_map isBlank_toLower, IsFlagText]

theorem IsFlagText.ascii {cs w : List Char} (h : IsFlagText cs) (htrim : Trimmed isBlank cs w) :
    ∀ c ∈ w, c.toNat < 128 := by
  obtain ⟨word, hword, hlower⟩ := h
  rw [htrim.eq_trim] at hlower
  intro c hc
  refine Nat.lt_of_not_le ?_
  intro hbeyond
  have hmem : c.toLower ∈ w.map Char.toLower := List.mem_map_of_mem hc
  rw [hlower, toLower_of_beyond hbeyond] at hmem
  exact (flagWords_plain word hword).1 c hmem (.inl hbeyond)

theorem not_isFlagText_of_front {c : Char} {rest : List Char} (hblank : isBlank c = false)
    (hfront : ∀ word ∈ flagWords, word.toList.head? ≠ some c.toLower) :
    ¬IsFlagText (c :: rest) := by
  rintro ⟨word, hword, hlower⟩
  obtain ⟨⟨l, r, hcs, hl, hr⟩, -, -⟩ := trimmed_trim isBlank (c :: rest)
  have hnone : ∀ {ds : List Char}, (∀ d ∈ c :: ds, isBlank d = true) → False := by
    intro ds hall
    rw [hall c List.mem_cons_self] at hblank
    cases hblank
  -- Nothing is taken away in front of a character that is no blank, and something is left of it.
  cases l with
  | cons d l =>
      rw [← (List.cons.inj hcs).1] at hl
      exact hnone hl
  | nil =>
      cases hw : trim isBlank (c :: rest) with
      | nil =>
          rw [hw, List.nil_append, List.nil_append] at hcs
          subst hcs
          exact hnone hr
      | cons d w =>
          rw [hw] at hcs hlower
          cases hcs
          refine hfront word hword ?_
          rw [← hlower]
          rfl

/-! ## Every value -/

theorem flag_list (items : List Value) : (Value.list items).flag = false := by
  refine decide_eq_false ?_
  intro h
  have htext : IsFlagText (Value.list items).display.toList := flagWord_mem_iff.mp h
  rw [Value.display, String.toList_append, String.toList_append] at htext
  exact not_isFlagText_of_front (by decide) (by decide) htext

theorem flag_object (fields : List (String × Value)) : (Value.object fields).flag = false := by
  refine decide_eq_false ?_
  intro h
  have htext : IsFlagText (Value.object fields).display.toList := flagWord_mem_iff.mp h
  rw [Value.display, String.toList_append, String.toList_append] at htext
  exact not_isFlagText_of_front (by decide) (by decide) htext

theorem isSet_text_iff {s : String} : (Value.text s).IsSet ↔ IsFlagText s.toList := by
  constructor
  · intro h
    cases h with
    | @text _ word w htrim hword hcase =>
        refine ⟨word, hword, ?_⟩
        rw [htrim.eq_trim, hcase, (flagWords_plain word hword).2]
  · rintro ⟨word, hword, hlower⟩
    exact .text (trimmed_trim isBlank s.toList) hword
      (hlower.trans (flagWords_plain word hword).2.symm)

theorem flag_eq_true_iff (v : Value) : v.flag = true ↔ v.IsSet := by
  cases v with
  | null => exact ⟨nofun, nofun⟩
  | bool b =>
      constructor
      · rintro rfl
        exact .bool
      · rintro ⟨⟩
        rfl
  | int n =>
      constructor
      · intro h
        exact .int (bne_iff_ne.mp h)
      · intro h
        cases h with
        | int hn => exact bne_iff_ne.mpr hn
  | float x =>
      have hzero : (Value.float x).flag = true ↔ ¬(x = .zero false ∨ x = .zero true) := by
        rw [← Binary64.isZero_iff, Value.flag, Bool.not_eq_true', Bool.not_eq_true]
      rw [hzero, not_or]
      constructor
      · rintro ⟨hpos, hneg⟩
        exact .float hpos hneg
      · intro h
        cases h with
        | float hpos hneg => exact ⟨hpos, hneg⟩
  | bytes bs =>
      constructor
      · intro h
        obtain ⟨b, hmem, hb⟩ := List.any_eq_true.mp h
        exact .bytes hmem (bne_iff_ne.mp hb)
      · intro h
        cases h with
        | bytes hmem hb => exact List.any_eq_true.mpr ⟨_, hmem, bne_iff_ne.mpr hb⟩
  | text s => rw [flag_text_iff, isSet_text_iff]
  | list items => exact ⟨fun h => absurd h (by rw [flag_list]; decide), nofun⟩
  | object fields => exact ⟨fun h => absurd h (by rw [flag_object]; decide), nofun⟩

/-! ## The statement -/

/-- What a reading of values as flags does. -/
structure ReadsFlags (flag : Value → Bool) : Prop where
  /-- It is true of the values that set a flag and of no others. -/
  isSet_iff : ∀ v, flag v = true ↔ v.IsSet
  /-- Blanks at the ends of a text do not matter. -/
  padded : ∀ (s : String) (l r : List Char), (∀ c ∈ l, isBlank c = true) →
    (∀ c ∈ r, isBlank c = true) →
    flag (.text (String.ofList (l ++ (s.toList ++ r)))) = flag (.text s)
  /-- Neither does the case of its ASCII letters. -/
  anyCase : ∀ s t : String, SameButCase s.toList t.toList → flag (.text s) = flag (.text t)
  /-- A text with a character beyond ASCII between its blanks sets no flag. -/
  ascii : ∀ (s : String) (w : List Char), Trimmed isBlank s.toList w →
    (∃ c ∈ w, 128 ≤ c.toNat) → flag (.text s) = false
  /-- No list sets one, whatever is inside. -/
  list : ∀ items, flag (.list items) = false
  /-- No object does. -/
  object : ∀ fields, flag (.object fields) = false

/-- Flags are read that way. -/
theorem flag_readsFlags : ReadsFlags Value.flag where
  isSet_iff := flag_eq_true_iff
  padded := by
    intro s l r hl hr
    rw [Bool.eq_iff_iff, flag_text_iff, flag_text_iff, String.toList_ofList]
    exact isFlagText_padded hl hr
  anyCase := by
    intro s t h
    rw [Bool.eq_iff_iff, flag_text_iff, flag_text_iff]
    exact isFlagText_of_sameButCase h
  ascii := by
    rintro s w htrim ⟨c, hc, hbeyond⟩
    rw [Bool.eq_false_iff]
    intro h
    exact absurd ((flag_text_iff.mp h).ascii htrim c hc) (Nat.not_lt_of_le hbeyond)
  list := flag_list
  object := flag_object

/-- The Kelvin sign has a `k` for its small letter, and still does not set a flag: no flag word has
one. -/
example : flagWord "\u2003O\u212a" = "ok" ∧ (Value.text "\u2003O\u212a").flag = false ∧
    (Value.text "\u2003YeS\u001f").flag = true := by decide +kernel

end Entitlement
