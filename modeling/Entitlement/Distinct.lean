/-!
# `Entitlement.Distinct` — first appearances

Bind names and authorities are kept once each, in the order in which they first appear.  `distinct`
is that list, written by recursion from the front: a member strikes its own repetitions out of what
follows.  `merge` puts the new members of a further list behind those that are kept already.

    merge (merge [] as) bs = distinct (as ++ bs)        (`merge_merge`)

so lists merged one after the other are kept as if they had been one list (nothing kept is moved, a
member that comes again stays where it was).

What `distinct` computes is said without it by `FirstAppearances all kept`:

    kept holds each member once,
    kept has the members of all, and no other,
    kept has them in the order of their first positions in all.

These three conditions leave one list (`FirstAppearances.unique`), so two lists that meet them are
the same list whatever they were made by.
-/
namespace Entitlement

/-- A list without its repetitions, each member at its first position. -/
def distinct {α : Type} [DecidableEq α] : List α → List α
  | [] => []
  | x :: xs => x :: (distinct xs).filter (· ≠ x)

/-- What is kept, and behind it the members of a further list that are not kept yet. -/
def merge {α : Type} [DecidableEq α] (kept further : List α) : List α :=
  kept ++ (distinct further).filter (· ∉ kept)

variable {α : Type} [DecidableEq α]

/-! ## Members -/

@[simp] theorem mem_distinct {a : α} {as : List α} : a ∈ distinct as ↔ a ∈ as := by
  induction as with
  | nil => exact Iff.rfl
  | cons b as ih =>
      simp only [distinct, List.mem_cons, List.mem_filter, ih, decide_eq_true_eq]
      by_cases hab : a = b
      · exact ⟨fun _ => .inl hab, fun _ => .inl hab⟩
      · exact or_congr_right (and_iff_left hab)

theorem nodup_distinct (as : List α) : (distinct as).Nodup := by
  induction as with
  | nil => exact .nil
  | cons b as ih =>
      refine List.nodup_cons.mpr ⟨?_, List.Pairwise.filter _ ih⟩
      intro hmem
      exact absurd rfl (of_decide_eq_true (List.mem_filter.mp hmem).2)

/-! ## One list behind another -/

theorem distinct_append (as bs : List α) : distinct (as ++ bs) = merge (distinct as) bs := by
  induction as with
  | nil => exact (List.filter_eq_self.mpr fun b _ => decide_eq_true List.not_mem_nil).symm
  | cons c as ih =>
      have htest : (fun b => decide (b ≠ c) && decide (b ∉ distinct as)) =
          fun b => decide (b ∉ c :: (distinct as).filter (· ≠ c)) := by
        funext b
        rw [← Bool.decide_and]
        refine decide_eq_decide.mpr ?_
        simp only [List.mem_cons, List.mem_filter, decide_eq_true_eq, not_or]
        exact ⟨fun ⟨hne, hnot⟩ => ⟨hne, fun h => hnot h.1⟩,
          fun ⟨hne, hnot⟩ => ⟨hne, fun h => hnot ⟨h, hne⟩⟩⟩
      calc distinct (c :: as ++ bs)
          = c :: (merge (distinct as) bs).filter (· ≠ c) := by rw [List.cons_append, distinct, ih]
        _ = distinct (c :: as) ++ (distinct bs).filter fun b =>
              decide (b ≠ c) && decide (b ∉ distinct as) := by
            rw [merge, List.filter_append, List.filter_filter, distinct, List.cons_append]
        _ = merge (distinct (c :: as)) bs := by rw [htest, merge, distinct]

theorem distinct_prefix (as bs : List α) : distinct as <+: distinct (as ++ bs) :=
  ⟨_, (distinct_append as bs).symm⟩

theorem merge_merge (as bs : List α) : merge (merge [] as) bs = distinct (as ++ bs) := by
  have hfirst : merge [] as = distinct as := (distinct_append [] as).symm
  rw [hfirst, distinct_append]

/-! ## The order -/

/-- A list without repetitions that has the members of another one, in the order of their first
positions there. -/
structure FirstAppearances (all kept : List α) : Prop where
  once : kept.Nodup
  mem_iff : ∀ a, a ∈ kept ↔ a ∈ all
  inOrder : kept.Pairwise fun a b => all.idxOf a < all.idxOf b

theorem pairwise_distinct (as : List α) :
    (distinct as).Pairwise fun a b => as.idxOf a < as.idxOf b := by
  induction as with
  | nil => exact .nil
  | cons c as ih =>
      have hlater : ∀ {a}, a ≠ c → (c :: as).idxOf a = as.idxOf a + 1 := by
        intro a hne
        rw [List.idxOf_cons, beq_false_of_ne (Ne.symm hne)]
        rfl
      have hne : ∀ a ∈ (distinct as).filter (· ≠ c), a ≠ c :=
        fun a h => of_decide_eq_true (List.mem_filter.mp h).2
      refine List.pairwise_cons.mpr ⟨?_, ?_⟩
      · intro b hb
        rw [List.idxOf_cons_self, hlater (hne b hb)]
        exact Nat.zero_lt_succ _
      · refine (ih.filter _).imp_of_mem ?_
        intro a b ha hb hab
        rw [hlater (hne a ha), hlater (hne b hb)]
        exact Nat.succ_lt_succ hab

theorem firstAppearances_distinct (as : List α) : FirstAppearances as (distinct as) where
  once := nodup_distinct as
  mem_iff _ := mem_distinct
  inOrder := pairwise_distinct as

theorem FirstAppearances.unique {all kept kept' : List α} (h : FirstAppearances all kept)
    (h' : FirstAppearances all kept') : kept = kept' := by
  have hperm : kept.Perm kept' :=
    (List.perm_ext_iff_of_nodup h.once h'.once).mpr fun a => (h.mem_iff a).trans (h'.mem_iff a).symm
  refine hperm.eq_of_pairwise ?_ h.inOrder h'.inOrder
  intro a b _ _ hab hba
  exact absurd hba (Nat.lt_asymm hab)

/-- Members that stay apart under a map are kept under it as they are kept without it. -/
theorem distinct_map {β : Type} [DecidableEq β] {f : α → β} (hf : Function.Injective f)
    (as : List α) : distinct (as.map f) = (distinct as).map f := by
  induction as with
  | nil => rfl
  | cons c as ih =>
      have htest : (fun b => decide (b ≠ f c)) ∘ f = fun a => decide (a ≠ c) := by
        funext a
        exact decide_eq_decide.mpr (not_congr hf.eq_iff)
      rw [List.map_cons, distinct, distinct, ih, List.filter_map, htest, List.map_cons]

end Entitlement
