import Mathlib.Data.List.Forall2
import Entitlement.Store.Execute

/-!
# `Entitlement.Proofs.Store.Selection` — the rows of a selection, by membership

A selection combines its sources, keeps what meets its condition, sorts, and computes the columns.
Which rows come out is said here without the order in which they come out: `mem_rows` takes a row to
the records it was made from.

A record that meets the condition in no combination is not seen at all: `rows_put_of_unmet` has the
same rows, in the same order, without it.

Conditions have three truth values, but a comparison of two texts or of two integers has only two,
and so has a conjunction of such comparisons.  `truth` is the cell of a truth value, and the
equations with it on their right turn the condition of a selection into a proposition.

Last come the stages in front of the rows: `Understanding` says of a statement that it is read as a
selection with one place, and `Understanding.runStatement` what it is then answered with.
-/
namespace Entitlement.Store

open Select

namespace Select

/-! ## Truth values as cells -/

def truth (p : Prop) [Decidable p] : Cell := .int (if p then 1 else 0)

theorem isTrue_truth (p : Prop) [Decidable p] : (truth p).isTrue = decide p := by
  unfold truth
  by_cases hp : p
  · rw [if_pos hp, decide_eq_true hp]
    rfl
  · rw [if_neg hp, decide_eq_false hp]
    rfl

theorem truth_ne_null (p : Prop) [Decidable p] : truth p ≠ .null := by
  intro h
  cases h

theorem both_truth (p q : Prop) [Decidable p] [Decidable q] :
    both (truth p) (truth q) = truth (p ∧ q) := by
  have hp := truth_ne_null p
  have hq := truth_ne_null q
  unfold both
  rw [isTrue_truth, isTrue_truth]
  by_cases h : p ∧ q
  · rw [if_neg, if_neg]
    · exact (congrArg Cell.int (if_pos h)).symm
    · exact fun hnull => hnull.elim hp hq
    · simp only [decide_eq_false_iff_not, not_or, not_and, not_not]
      exact ⟨fun _ => h.1, fun _ => h.2⟩
  · rw [if_pos]
    · exact (congrArg Cell.int (if_neg h)).symm
    · simp only [decide_eq_false_iff_not]
      by_cases hpp : p
      · exact .inr ⟨hq, fun hqq => h ⟨hpp, hqq⟩⟩
      · exact .inl ⟨hp, hpp⟩

theorem compareText_eq_iff {a b : String} : Cell.compareText a b = .eq ↔ a = b := by
  unfold Cell.compareText
  constructor
  · intro h
    split at h
    · cases h
    · rename_i hab
      split at h
      · cases h
      · rename_i hba
        exact String.le_antisymm (String.not_lt.mp hba) (String.not_lt.mp hab)
  · rintro rfl
    exact Cell.compareText_self a

theorem compareAs_text (a b : String) :
    compareAs (· == .eq) .text (.text a) (.text b) = truth (a = b) := by
  show Cell.int (if (Cell.compareText a b == .eq) = true then 1 else 0) = _
  simp only [beq_iff_eq, compareText_eq_iff]
  rfl

theorem compareAs_int (a b : Int) :
    compareAs (· == .eq) .numeric (.int a) (.int b) = truth (a = b) := by
  show Cell.int (if (Ord.compare a b == .eq) = true then 1 else 0) = _
  simp only [beq_iff_eq, Int.compare_eq_eq]
  rfl

/-! ### Conditions that hold

On cells of any sort a condition need not be the truth value of a proposition, but when it holds,
then what it asks for holds. -/

theorem isTrue_of_both {a b : Cell} (h : (both a b).isTrue = true) :
    a.isTrue = true ∧ b.isTrue = true := by
  unfold both at h
  split at h
  · cases h
  · rename_i hfalse
    split at h
    · cases h
    · rename_i hnull
      rw [not_or] at hnull hfalse
      exact ⟨Bool.not_eq_false _ ▸ not_and.mp hfalse.1 hnull.1,
        Bool.not_eq_false _ ▸ not_and.mp hfalse.2 hnull.2⟩

theorem compare_of_compareAs {affinity : Affinity} {a b : Cell}
    (h : (compareAs (· == .eq) affinity a b).isTrue = true) :
    Cell.compare (a.withAffinity affinity) (b.withAffinity affinity) = .eq := by
  unfold compareAs Cell.condition at h
  split at h
  · cases h
  · cases h
  · split at h
    · rename_i heq
      exact beq_iff_eq.mp heq
    · cases h

theorem eq_text_of_compare {c : Cell} {s : String} (h : Cell.compare c (.text s) = .eq) :
    c = .text s := by
  cases c with
  | text a => exact congrArg Cell.text (compareText_eq_iff.mp h)
  | null => cases h
  | int n => cases h
  | real x => cases h
  | blob bs => cases h

/-! ## Membership -/

theorem mem_combinations {tables : Tables} {sources : List Table} {combination : Combination} :
    combination ∈ combinations tables sources ↔
      List.Forall₂ (fun t record => record ∈ tables.rows t) sources combination := by
  induction sources generalizing combination with
  | nil =>
      simp only [combinations, List.mem_singleton, List.forall₂_nil_left_iff]
  | cons t rest ih =>
      simp only [combinations, List.mem_flatMap, List.mem_map]
      constructor
      · rintro ⟨record, hrecord, others, hothers, rfl⟩
        exact .cons hrecord (ih.mp hothers)
      · intro h
        cases h with
        | cons hrecord hothers => exact ⟨_, hrecord, _, ih.mpr hothers, rfl⟩

theorem mem_sorted {args : List Cell} {order : List (Term × Bool)} {rows : List Combination}
    {combination : Combination} : combination ∈ sorted args order rows ↔ combination ∈ rows := by
  unfold sorted
  split
  · exact Iff.rfl
  · exact List.mem_mergeSort

/-- The rows of a selection, each with the records it was made from. -/
theorem mem_rows {selection : Selection} {tables : Tables} {args : List Cell} {row : Record} :
    row ∈ selection.rows tables args ↔
      ∃ combination, List.Forall₂ (fun t record => record ∈ tables.rows t) selection.sources
          combination ∧ meets args selection.filter combination = true ∧
        row = selection.columns.map fun column => column.term.value args combination := by
  simp only [Selection.rows, List.mem_map, mem_sorted, List.mem_filter, mem_combinations]
  constructor
  · rintro ⟨combination, ⟨hcombination, hmeets⟩, rfl⟩
    exact ⟨combination, hcombination, hmeets, rfl⟩
  · rintro ⟨combination, hcombination, hmeets, rfl⟩
    exact ⟨combination, ⟨hcombination, hmeets⟩, rfl⟩

/-! ## A record more -/

theorem filter_combinations_put {tables : Tables} {t : Table} {record : Record}
    {sources : List Table} {p : Combination → Bool}
    (h : ∀ combination,
      List.Forall₂ (fun s row => row ∈ (tables.put t (tables.rows t ++ [record])).rows s)
        sources combination →
      (t, record) ∈ sources.zip combination → p combination = false) :
    (combinations (tables.put t (tables.rows t ++ [record])) sources).filter p =
      (combinations tables sources).filter p := by
  induction sources generalizing p with
  | nil => rfl
  | cons s rest ih =>
      -- With a row in front that was there before, the rest is a matter of the other sources.
      have hrest : ∀ row ∈ (tables.put t (tables.rows t ++ [record])).rows s,
          ((combinations (tables.put t (tables.rows t ++ [record])) rest).map (row :: ·)).filter p =
            ((combinations tables rest).map (row :: ·)).filter p := by
        intro row hrow
        rw [List.filter_map, List.filter_map, ih]
        intro combination hcombination hmem
        exact h (row :: combination) (.cons hrow hcombination) (List.mem_cons_of_mem _ hmem)
      simp only [combinations, List.filter_flatMap]
      rw [Tables.rows_put] at hrest ⊢
      split at hrest
      · rename_i hs
        subst hs
        have hnew : ((combinations (tables.put s (tables.rows s ++ [record])) rest).map
            (record :: ·)).filter p = [] := by
          rw [List.filter_eq_nil_iff]
          intro combination hcombination
          obtain ⟨others, hothers, rfl⟩ := List.mem_map.mp hcombination
          refine Bool.eq_false_iff.mp (h _ (.cons ?_ (mem_combinations.mp hothers)) ?_)
          · rw [Tables.rows_put, if_pos rfl]
            exact List.mem_append_right _ List.mem_cons_self
          · exact List.mem_cons_self
        rw [if_pos rfl, List.flatMap_append, List.flatMap_singleton, hnew, List.append_nil]
        exact List.flatMap_congr fun row hrow => hrest row (List.mem_append_left _ hrow)
      · rename_i hs
        rw [if_neg hs]
        exact List.flatMap_congr hrest

/-- A selection does not see a record that meets its condition in no combination. -/
theorem rows_put_of_unmet {selection : Selection} {tables : Tables} {t : Table} {record : Record}
    {args : List Cell}
    (h : ∀ combination,
      List.Forall₂ (fun s row => row ∈ (tables.put t (tables.rows t ++ [record])).rows s)
        selection.sources combination →
      (t, record) ∈ selection.sources.zip combination →
      meets args selection.filter combination = false) :
    selection.rows (tables.put t (tables.rows t ++ [record])) args =
      selection.rows tables args := by
  unfold Selection.rows
  rw [filter_combinations_put h]

/-! ## Texts that are none -/

theorem fault?_eq_none {selection : Selection} (records : List Record)
    (h : ∀ column ∈ selection.columns, column.term.isText = false) :
    selection.fault? records = none := by
  unfold Selection.fault?
  rw [List.findSome?_eq_none_iff]
  intro record _
  rw [List.findSome?_eq_none_iff]
  rintro ⟨column, cell⟩ hpair
  have hcolumn := h column (List.of_mem_zip hpair).1
  show column.fault? cell = none
  unfold ResultColumn.fault?
  split
  · rw [hcolumn]
    rfl
  · rfl

end Select

/-! ## From a statement to its rows -/

/-- A statement that is read as a selection, and that has one place. -/
structure Understanding (text : String) (query : Select.Query) (selection : Selection) : Prop where
  noNull : text.toList.contains '\x00' = false
  noLeading : (cutFirst text).leading = false
  noTail : (cutFirst text).tail = []
  read : readQuery 0 (cutFirst text).first = .ok (query, [])
  select : query.select true = .ok selection
  places : placeCount (cutFirst text).first = 1
  noText : ∀ column ∈ selection.columns, column.term.isText = false

theorem Understanding.understand {text : String} {query : Select.Query} {selection : Selection}
    (h : Understanding text query selection) :
    understand true (cutFirst text) = .ok (.selection selection) := by
  have hfirst : (cutFirst text).first.isEmpty = false := by
    cases hempty : (cutFirst text).first with
    | nil =>
        have hread := h.read
        rw [hempty] at hread
        cases hread
    | cons l ls => rfl
  unfold Store.understand
  simp only [hfirst, Bool.false_eq_true, if_false, h.noLeading, h.read, List.isEmpty_nil,
    Bool.true_or, if_true, h.select, h.noTail, isIdleTail]

theorem Understanding.runStatement {text : String} {query : Select.Query} {selection : Selection}
    (h : Understanding text query selection) (tables : Tables) (u : String) :
    runStatement (some tables) text [.text u] = .ok (selection.rows tables [.text u]) := by
  unfold Store.runStatement
  rw [h.noNull]
  simp only [Bool.false_eq_true, if_false, Option.isSome_some, h.understand, h.places,
    List.length_singleton, ne_eq, not_true_eq_false, cellsFrom, Cell.ofValue,
    Option.getD_some, fault?_eq_none _ h.noText]

end Entitlement.Store
