import Entitlement.Lookup.Hook

/-!
# `Entitlement.Proofs.Lookup.Script` — what a script does to a list

A script is a list of edits that are carried out one after the other on one list of authorities.  The
computation counts positions; here each edit is told by the parts into which it cuts the list.

    insert    before ++ after          becomes   before ++ name :: after
    pop       before ++ gone :: after  becomes   before ++ after

| | |
| :-- | :-- |
| an edit that is carried out | `Edit.Leaves`, and `Cuts` for where an insertion goes |
| an edit that is refused | `Edit.Refuses`, with the fault |
| edits in order | `Carried`: up to the first that is refused, if there is one |
| what ties them | `Edit.apply_eq_ok_iff`, `Edit.apply_eq_error_iff`, `hook_eq_iff` |

An insertion takes every position, also one beyond the ends of the list.  A removal takes only the
positions of members.  Neither takes a position that no machine word holds, not even where the list
is empty, and then that is what is wrong.

A script that is refused leaves no list: `carried_error_iff` says that what the edits in front did
counts for nothing.
-/
namespace Entitlement.Lookup

/-! ## One edit -/

/-- Where a position cuts a list for an insertion: so far from the front, or, when it is negative, so
far from the end.  Beyond an end it is that end. -/
def Cuts (position : Int) (before after : List Authority) : Prop :=
  if position < 0 then
    -position = after.length ∨ (after.length < -position ∧ before = [])
  else position = before.length ∨ (before.length < position ∧ after = [])

/-- What an edit leaves of a list, `r` being the username as the store spells it. -/
inductive Edit.Leaves (r : String) : Edit → List Authority → List Authority → Prop
  | append {name : String} {found : List Authority} :
      Leaves r (.append name) found (found ++ [⟨name⟩])
  | appendUser {text : String} {found : List Authority} :
      Leaves r (.appendUser text) found (found ++ [⟨text ++ r⟩])
  | insert {position : Int} {name : String} {before after : List Authority} :
      fitsWord position = true → Cuts position before after →
      Leaves r (.insert position name) (before ++ after) (before ++ ⟨name⟩ :: after)
  | pop {position : Int} {before after : List Authority} {gone : Authority} :
      fitsWord position = true →
      position = before.length ∨ position = -(after.length + 1 : Int) →
      Leaves r (.pop position) (before ++ gone :: after) (before ++ after)
  | clear {found : List Authority} : Leaves r .clear found []
  | reverse {found : List Authority} : Leaves r .reverse found found.reverse

/-- When an edit is refused, and with which fault. -/
inductive Edit.Refuses : Edit → List Authority → Fault → Prop
  | raised {found : List Authority} {fault : Fault} : Refuses (.fail fault) found fault
  | insertTooLarge {position : Int} {name : String} {found : List Authority} :
      fitsWord position = false → Refuses (.insert position name) found .positionTooLarge
  | popTooLarge {position : Int} {found : List Authority} :
      fitsWord position = false → Refuses (.pop position) found .positionTooLarge
  | popFromEmpty {position : Int} :
      fitsWord position = true → Refuses (.pop position) [] .popFromEmpty
  | popOutOfRange {position : Int} {found : List Authority} :
      fitsWord position = true → found ≠ [] →
      position < -(found.length : Int) ∨ (found.length : Int) ≤ position →
      Refuses (.pop position) found .popOutOfRange

section Edits

variable {r : String} {edit : Edit} {found left : List Authority} {fault : Fault}

theorem take_of_cuts {position : Int} {before after : List Authority}
    (h : Cuts position before after) :
    (before ++ after).take (fromFront (before ++ after).length position).toNat = before ∧
      (before ++ after).drop (fromFront (before ++ after).length position).toNat = after := by
  unfold Cuts at h
  unfold fromFront
  rw [List.length_append]
  split at h
  · rcases h with h | ⟨h, rfl⟩
    · have hcount : (position + ((before.length + after.length : Nat) : Int)).toNat =
          before.length := by omega
      rw [if_pos ‹_›, hcount]
      exact ⟨List.take_left, List.drop_left⟩
    · have hcount : (position + ((([] : List Authority).length + after.length : Nat) : Int)).toNat =
          0 := by
        rw [List.length_nil]
        omega
      rw [if_pos ‹_›, hcount]
      exact ⟨rfl, rfl⟩
  · rcases h with h | ⟨h, rfl⟩
    · have hcount : position.toNat = before.length := by omega
      rw [if_neg ‹_›, hcount]
      exact ⟨List.take_left, List.drop_left⟩
    · have hcount : before.length ≤ position.toNat := by omega
      rw [if_neg ‹_›, List.append_nil]
      exact ⟨List.take_of_length_le hcount, List.drop_eq_nil_of_le hcount⟩

theorem exists_cuts (position : Int) (found : List Authority) :
    ∃ before after, found = before ++ after ∧ Cuts position before after := by
  refine ⟨found.take (fromFront found.length position).toNat,
    found.drop (fromFront found.length position).toNat, (List.take_append_drop _ _).symm, ?_⟩
  unfold Cuts fromFront
  split
  · by_cases hfar : (found.length : Int) < -position
    · right
      have hcount : (position + (found.length : Int)).toNat = 0 := by omega
      rw [hcount]
      exact ⟨hfar, rfl⟩
    · left
      rw [List.length_drop]
      omega
  · by_cases hfar : (found.length : Int) < position
    · right
      have hcount : found.length ≤ position.toNat := by omega
      rw [List.take_of_length_le hcount, List.drop_eq_nil_of_le hcount]
      exact ⟨hfar, rfl⟩
    · left
      rw [List.length_take]
      omega

theorem Edit.Leaves.apply_eq (h : edit.Leaves r found left) : edit.apply r found = .ok left := by
  cases h with
  | append | appendUser | clear | reverse => rfl
  | @insert position name before after hfits hcuts =>
      obtain ⟨htake, hdrop⟩ := take_of_cuts hcuts
      simp only [Edit.apply, hfits, htake, hdrop, Bool.not_true, Bool.false_eq_true, if_false]
  | @pop position before after gone hfits hplace =>
      have hcount : fromFront (before ++ gone :: after).length position = before.length := by
        unfold fromFront
        rw [List.length_append, List.length_cons]
        split <;> omega
      have hempty : (before ++ gone :: after).isEmpty = false := by
        cases before <;> rfl
      have hinside : ¬((before.length : Int) < 0 ∨
          ((before ++ gone :: after).length : Int) ≤ before.length) := by
        rw [List.length_append, List.length_cons]
        omega
      have herase : (before ++ gone :: after).eraseIdx before.length = before ++ after := by
        rw [List.eraseIdx_append_of_length_le (Nat.le_refl _), Nat.sub_self]
        rfl
      simp only [Edit.apply, hfits, hcount, hempty, if_neg hinside, Int.toNat_natCast, herase,
        Bool.not_true, Bool.false_eq_true, if_false]

theorem Edit.Refuses.apply_eq (h : edit.Refuses found fault) :
    edit.apply r found = .error fault := by
  cases h with
  | raised => rfl
  | insertTooLarge hfits => simp only [Edit.apply, hfits, Bool.not_false, if_true]
  | popTooLarge hfits => simp only [Edit.apply, hfits, Bool.not_false, if_true]
  | popFromEmpty hfits =>
      simp only [Edit.apply, hfits, Bool.not_true, Bool.false_eq_true, if_false, List.isEmpty_nil,
        if_true]
  | @popOutOfRange position found hfits hne houtside =>
      have hempty : found.isEmpty = false := by
        cases found with
        | nil => exact absurd rfl hne
        | cons first rest => rfl
      have houtside' : fromFront found.length position < 0 ∨
          (found.length : Int) ≤ fromFront found.length position := by
        unfold fromFront
        split <;> omega
      simp only [Edit.apply, hfits, hempty, if_pos houtside', Bool.not_true, Bool.false_eq_true,
        if_false]

theorem Edit.leaves_or_refuses (r : String) (edit : Edit) (found : List Authority) :
    (∃ left, edit.Leaves r found left) ∨ ∃ fault, edit.Refuses found fault := by
  cases edit with
  | append name => exact .inl ⟨_, .append⟩
  | appendUser text => exact .inl ⟨_, .appendUser⟩
  | clear => exact .inl ⟨_, .clear⟩
  | reverse => exact .inl ⟨_, .reverse⟩
  | fail fault => exact .inr ⟨_, .raised⟩
  | insert position name =>
      cases hfits : fitsWord position with
      | false => exact .inr ⟨_, .insertTooLarge hfits⟩
      | true =>
          obtain ⟨before, after, rfl, hcuts⟩ := exists_cuts position found
          exact .inl ⟨_, .insert hfits hcuts⟩
  | pop position =>
      cases hfits : fitsWord position with
      | false => exact .inr ⟨_, .popTooLarge hfits⟩
      | true =>
          by_cases hempty : found = []
          · subst hempty
            exact .inr ⟨_, .popFromEmpty hfits⟩
          · by_cases hinside : -(found.length : Int) ≤ position ∧ position < found.length
            · obtain ⟨i, hi, hplace⟩ : ∃ i, i < found.length ∧
                  (position = i ∨ position = i - found.length) := by
                refine ⟨(fromFront found.length position).toNat, ?_, ?_⟩
                · unfold fromFront
                  split <;> omega
                · unfold fromFront
                  split <;> omega
              left
              refine ⟨found.take i ++ found.drop (i + 1), ?_⟩
              have hparts : found = found.take i ++ found[i] :: found.drop (i + 1) := by
                rw [List.getElem_cons_drop, List.take_append_drop]
              have hpop : Edit.Leaves r (.pop position)
                  (found.take i ++ found[i] :: found.drop (i + 1))
                  (found.take i ++ found.drop (i + 1)) := by
                refine .pop hfits ?_
                rw [List.length_take, List.length_drop]
                omega
              rw [← hparts] at hpop
              exact hpop
            · exact .inr ⟨_, .popOutOfRange hfits hempty (by omega)⟩

theorem Edit.apply_eq_ok_iff : edit.apply r found = .ok left ↔ edit.Leaves r found left := by
  constructor
  · intro h
    rcases edit.leaves_or_refuses r found with ⟨left', h'⟩ | ⟨fault, h'⟩
    · rw [h'.apply_eq] at h
      cases h
      exact h'
    · rw [h'.apply_eq] at h
      cases h
  · exact Edit.Leaves.apply_eq

theorem Edit.apply_eq_error_iff : edit.apply r found = .error fault ↔ edit.Refuses found fault := by
  constructor
  · intro h
    rcases edit.leaves_or_refuses r found with ⟨left, h'⟩ | ⟨fault', h'⟩
    · rw [h'.apply_eq] at h
      cases h
    · rw [h'.apply_eq] at h
      cases h
      exact h'
  · exact Edit.Refuses.apply_eq

end Edits

/-! ## Edits in order -/

/-- What becomes of a list when edits are carried out in order. -/
inductive Carried (r : String) :
    List Edit → List Authority → Except Fault (List Authority) → Prop
  | ends {found : List Authority} : Carried r [] found (.ok found)
  | stops {edit : Edit} {rest : List Edit} {found : List Authority} {fault : Fault} :
      edit.Refuses found fault → Carried r (edit :: rest) found (.error fault)
  | goesOn {edit : Edit} {rest : List Edit} {found left : List Authority}
      {outcome : Except Fault (List Authority)} :
      edit.Leaves r found left → Carried r rest left outcome →
      Carried r (edit :: rest) found outcome

section Scripts

variable {r : String} {edits : List Edit} {found : List Authority}
  {outcome : Except Fault (List Authority)}

theorem Carried.foldlM_eq (h : Carried r edits found outcome) :
    edits.foldlM (Edit.apply r) found = outcome := by
  induction h with
  | ends => rfl
  | stops hrefuses =>
      rw [List.foldlM_cons, hrefuses.apply_eq]
      rfl
  | goesOn hleaves _ ih =>
      rw [List.foldlM_cons, hleaves.apply_eq]
      exact ih

theorem exists_carried (r : String) (edits : List Edit) (found : List Authority) :
    ∃ outcome, Carried r edits found outcome := by
  induction edits generalizing found with
  | nil => exact ⟨_, .ends⟩
  | cons edit rest ih =>
      rcases edit.leaves_or_refuses r found with ⟨left, hleaves⟩ | ⟨fault, hrefuses⟩
      · obtain ⟨outcome, hrest⟩ := ih left
        exact ⟨outcome, .goesOn hleaves hrest⟩
      · exact ⟨_, .stops hrefuses⟩

/-- A script is the hook that carries its edits out. -/
theorem hook_eq_iff {script : Script} :
    script.hook.outcome r found = outcome ↔ Carried r script.edits found outcome := by
  rw [Script.outcome_hook]
  constructor
  · intro h
    obtain ⟨outcome', h'⟩ := exists_carried r script.edits found
    have heq : script.run r found = outcome' := h'.foldlM_eq
    rw [← h, heq]
    exact h'
  · exact Carried.foldlM_eq

/-- Edits fail at the first of them that is refused, whatever those in front of it left. -/
theorem carried_error_iff {fault : Fault} :
    Carried r edits found (.error fault) ↔
      ∃ before edit after left, edits = before ++ edit :: after ∧
        Carried r before found (.ok left) ∧ edit.Refuses left fault := by
  constructor
  · intro h
    generalize hfailed : Except.error fault = failed at h
    induction h with
    | ends => cases hfailed
    | @stops edit rest found _ hrefuses =>
        cases hfailed
        exact ⟨[], edit, rest, found, rfl, .ends, hrefuses⟩
    | @goesOn first rest found left _ hleaves _ ih =>
        obtain ⟨before, edit, after, left', rfl, hbefore, hrefuses⟩ := ih hfailed
        exact ⟨first :: before, edit, after, left', rfl, .goesOn hleaves hbefore, hrefuses⟩
  · rintro ⟨before, edit, after, left, rfl, hbefore, hrefuses⟩
    generalize hcame : Except.ok left = came at hbefore
    induction hbefore with
    | ends =>
        cases hcame
        exact .stops hrefuses
    | stops _ => cases hcame
    | goesOn hleaves _ ih => exact .goesOn hleaves (ih hcame)

end Scripts

end Entitlement.Lookup
