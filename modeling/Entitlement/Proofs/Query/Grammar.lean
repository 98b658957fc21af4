import Mathlib.Data.List.Nodup
import Entitlement.Distinct
import Entitlement.Proofs.Text.Run
import Entitlement.Query.Bind

/-!
# `Entitlement.Proofs.Query.Grammar` — which names a query text declares

A text declares a name at a position, and whether it does is a matter of the characters there:

    before   :   w   after

with `before` up to the position, `w` a run of word characters that is not empty, no character at
the end of `before` that forbids a bind, and none at the beginning of `after` that goes on with the
name or is a colon.  `Declares` says this of one position and knows of no scan.

The scan goes from left to right, and behind a bind it goes on behind its name.  That it passes over
no declaration and reports nothing else is `bindNames_byGrammar`:

| | |
| :-- | :-- |
| the positions that declare | `spots`, exactly these, in ascending order |
| what the scan reports | the names at these positions, in this order |
| the names of the text | the first appearances among them |

What stands further away plays no part (`Declares.local_iff`), and so neither quotes nor comments do.
-/
namespace Entitlement.Query

/-! ## The end of a name -/

def EndsName (rest : List Char) : Prop :=
  ∀ c, rest.head? = some c → Text.isWord c = false ∧ c ≠ ':'

theorem takeWhile_of_endsName {name rest : List Char} (hname : ∀ c ∈ name, Text.isWord c = true)
    (hrest : EndsName rest) : (name ++ rest).takeWhile Text.isWord = name :=
  Text.takeWhile_append_eq hname fun c hc => (hrest c hc).1

theorem dropWhile_of_endsName {name rest : List Char} (hname : ∀ c ∈ name, Text.isWord c = true)
    (hrest : EndsName rest) : (name ++ rest).dropWhile Text.isWord = rest :=
  Text.dropWhile_append_eq hname fun c hc => (hrest c hc).1

/-! ## A declaration -/

/-- A bind can begin behind a text: the text is empty, or its last character forbids none. -/
def FreeBehind (before : List Char) : Prop :=
  ∀ c, before.getLast? = some c → c ≠ ':' ∧ c ≠ '\\' ∧ Text.isWord c = false

/-- A text declares a name at a position. -/
def Declares (text : List Char) (i : Nat) (w : String) : Prop :=
  ∃ before after, text = before ++ ':' :: (w.toList ++ after) ∧ before.length = i ∧
    FreeBehind before ∧ w ≠ "" ∧ (∀ c ∈ w.toList, Text.isWord c = true) ∧ EndsName after

/-! ## One position -/

theorem canPrecedeBind_iff {c : Char} :
    canPrecedeBind c = true ↔ c ≠ ':' ∧ c ≠ '\\' ∧ Text.isWord c = false := by
  simp only [canPrecedeBind, Bool.not_eq_true', Bool.or_eq_false_iff, beq_eq_false_iff_ne,
    and_assoc]

theorem freeBehind_concat {before : List Char} {c : Char} :
    FreeBehind (before ++ [c]) ↔ canPrecedeBind c = true := by
  rw [canPrecedeBind_iff, FreeBehind, List.getLast?_concat]
  constructor
  · intro h
    exact h c rfl
  · rintro h _ ⟨⟩
    exact h

theorem not_freeBehind_of_word {before name : List Char} (hne : name ≠ [])
    (hname : ∀ c ∈ name, Text.isWord c = true) : ¬FreeBehind (before ++ ':' :: name) := by
  intro h
  have hlast : (before ++ ':' :: name).getLast? = some (name.getLast hne) := by
    rw [List.getLast?_append_cons, List.getLast?_cons_of_ne_nil hne, List.getLast?_eq_some_getLast hne]
  have hword := hname _ (List.getLast_mem hne)
  rw [(h _ hlast).2.2] at hword
  cases hword

theorem bindName?_eq_some_iff {rest : List Char} {w : String} :
    bindName? rest = some w ↔ ∃ after, rest = w.toList ++ after ∧ w ≠ "" ∧
      (∀ c ∈ w.toList, Text.isWord c = true) ∧ EndsName after := by
  have hsplit : rest.takeWhile Text.isWord ++ rest.dropWhile Text.isWord = rest :=
    List.takeWhile_append_dropWhile
  constructor
  · intro h
    rw [bindName?] at h
    split at h
    · cases h
    · rename_i hgood
      cases h
      rw [Bool.or_eq_true, not_or, Bool.not_eq_true, List.isEmpty_eq_false_iff,
        beq_iff_eq] at hgood
      refine ⟨rest.dropWhile Text.isWord, ?_, ?_, ?_, ?_⟩
      · rw [String.toList_ofList, hsplit]
      · intro hempty
        exact hgood.1 (String.ofList_injective hempty)
      · intro c hc
        rw [String.toList_ofList] at hc
        exact List.all_eq_true.mp List.all_takeWhile c hc
      · intro c hc
        refine ⟨?_, fun heq => hgood.2 (heq ▸ hc)⟩
        have hstop := List.head?_dropWhile_not Text.isWord rest
        rw [hc] at hstop
        exact hstop
  · rintro ⟨after, rfl, hne, hword, hends⟩
    have hhead : after.head? ≠ some ':' := fun h => (hends ':' h).2 rfl
    have hnil : w.toList.isEmpty = false :=
      List.isEmpty_eq_false_iff.mpr fun h => hne (String.toList_eq_nil_iff.mp h)
    simp only [bindName?, takeWhile_of_endsName hword hends, dropWhile_of_endsName hword hends,
      hnil, Bool.false_or, beq_iff_eq, hhead, if_false, String.ofList_toList]

/-- At the place where a text goes on, the scan decides as the grammar does. -/
theorem declares_at_iff {before rest : List Char} {c : Char} {w : String} :
    Declares (before ++ c :: rest) before.length w ↔
      FreeBehind before ∧ c = ':' ∧ bindName? rest = some w := by
  rw [bindName?_eq_some_iff]
  constructor
  · rintro ⟨before', after, htext, hlength, hfree, hname⟩
    obtain ⟨rfl, hrest⟩ := List.append_inj htext hlength.symm
    obtain ⟨rfl, rfl⟩ := List.cons.inj hrest
    exact ⟨hfree, rfl, after, rfl, hname⟩
  · rintro ⟨hfree, rfl, after, rfl, hname⟩
    exact ⟨before, after, rfl, rfl, hfree, hname⟩

theorem Declares.colon {text : List Char} {i : Nat} {w : String} (h : Declares text i w) :
    text[i]? = some ':' := by
  obtain ⟨before, after, rfl, rfl, -⟩ := h
  rw [List.getElem?_append_right (Nat.le_refl _), Nat.sub_self]
  rfl

theorem not_declares_inside {before name rest : List Char} {i : Nat} {w : String}
    (hname : ∀ c ∈ name, Text.isWord c = true) (hfrom : before.length ≤ i)
    (hto : i < before.length + name.length) : ¬Declares (before ++ (name ++ rest)) i w := by
  intro h
  have hcolon := h.colon
  rw [List.getElem?_append_right hfrom,
    List.getElem?_append_left (by omega : i - before.length < name.length)] at hcolon
  have hword := hname ':' (List.mem_of_getElem? hcolon)
  exact absurd hword (by decide)

/-- Whether a name is declared is told by the character in front of the colon and the one behind the
name.  What stands further away can be changed, be it a quote or the dashes of a comment. -/
theorem Declares.local_iff {before before' after after' : List Char} {w : String}
    (hfront : before.getLast? = before'.getLast?) (hbehind : after.head? = after'.head?) :
    Declares (before ++ ':' :: (w.toList ++ after)) before.length w ↔
      Declares (before' ++ ':' :: (w.toList ++ after')) before'.length w := by
  have hat : ∀ before after : List Char,
      Declares (before ++ ':' :: (w.toList ++ after)) before.length w ↔
        FreeBehind before ∧ w ≠ "" ∧ (∀ c ∈ w.toList, Text.isWord c = true) ∧ EndsName after := by
    intro before after
    constructor
    · rintro ⟨before', after', htext, hlength, hfree, hne, hword, hends⟩
      obtain ⟨rfl, hcons⟩ := List.append_inj htext hlength.symm
      rw [List.append_cancel_left (List.cons.inj hcons).2]
      exact ⟨hfree, hne, hword, hends⟩
    · rintro ⟨hfree, hne, hword, hends⟩
      exact ⟨before, after, rfl, rfl, hfree, hne, hword, hends⟩
  rw [hat, hat, FreeBehind, FreeBehind, EndsName, EndsName, hfront, hbehind]

/-! ## The positions of a scan -/

/-- The binds among pieces with their positions, the first piece being at a position. -/
def spotsFrom : Nat → List Piece → List (Nat × String)
  | _, [] => []
  | i, .char _ :: rest => spotsFrom (i + 1) rest
  | i, .bind w :: rest => (i, w) :: spotsFrom (i + 1 + w.toList.length) rest

theorem map_spotsFrom (i : Nat) (pieces : List Piece) :
    (spotsFrom i pieces).map Prod.snd = pieces.filterMap Piece.name? := by
  induction pieces generalizing i with
  | nil => rfl
  | cons piece rest ih =>
      cases piece with
      | char c => exact ih _
      | bind w => exact congrArg (w :: ·) (ih _)

theorem le_of_mem_spotsFrom {i : Nat} {pieces : List Piece} :
    ∀ spot ∈ spotsFrom i pieces, i ≤ spot.1 := by
  induction pieces generalizing i with
  | nil =>
      intro spot h
      cases h
  | cons piece rest ih =>
      intro spot h
      cases piece with
      | char c => exact Nat.le_of_succ_le (ih spot h)
      | bind w =>
          rcases List.mem_cons.mp h with rfl | h
          · exact Nat.le_refl _
          · have hlater := ih spot h
            omega

theorem pairwise_spotsFrom (i : Nat) (pieces : List Piece) :
    (spotsFrom i pieces).Pairwise fun s t => s.1 < t.1 := by
  induction pieces generalizing i with
  | nil => exact .nil
  | cons piece rest ih =>
      cases piece with
      | char c => exact ih _
      | bind w =>
          refine List.pairwise_cons.mpr ⟨?_, ih _⟩
          intro spot h
          have hlater := le_of_mem_spotsFrom spot h
          show i < spot.1
          omega

/-- From any place on, the scan finds the positions that declare, if it knows whether a bind can begin
there. -/
theorem mem_spotsFrom_iff (cs : List Char) :
    ∀ (free : Bool) (before : List Char), (free = true ↔ FreeBehind before) → ∀ i w,
      (i, w) ∈ spotsFrom before.length (scanFrom free cs) ↔
        before.length ≤ i ∧ Declares (before ++ cs) i w := by
  -- The scan goes on behind a name, so the induction is on the length of what is left.
  induction hn : cs.length using Nat.strongRecOn generalizing cs with
  | ind n ih =>
  subst hn
  intro free before hfree i w
  cases cs with
  | nil =>
      rw [scanFrom]
      refine iff_of_false List.not_mem_nil ?_
      rintro ⟨hle, h⟩
      have hcolon := h.colon
      rw [List.append_nil, List.getElem?_eq_none hle] at hcolon
      cases hcolon
  | cons c rest =>
      have hhere : ∀ w, Declares (before ++ c :: rest) before.length w ↔
          (if free && c == ':' then bindName? rest else none) = some w := by
        intro w
        rw [declares_at_iff, ← hfree]
        split
        · rename_i hbegins
          rw [Bool.and_eq_true, beq_iff_eq] at hbegins
          simp only [hbegins, true_and]
        · rename_i hnot
          rw [Bool.and_eq_true, beq_iff_eq] at hnot
          refine iff_of_false (fun h => hnot ⟨h.1, h.2.1⟩) ?_
          intro h
          cases h
      rw [scanFrom]
      cases hbind : (if free && c == ':' then bindName? rest else none) with
      | none =>
          rw [hbind] at hhere
          have hrest := ih rest.length (Nat.lt_succ_self _) rest rfl (canPrecedeBind c)
            (before ++ [c]) freeBehind_concat.symm i w
          rw [List.length_append, List.length_singleton, List.append_assoc] at hrest
          refine hrest.trans ⟨fun h => ⟨Nat.le_of_succ_le h.1, h.2⟩, fun h => ⟨?_, h.2⟩⟩
          refine Nat.lt_of_le_of_ne h.1 ?_
          rintro rfl
          cases (hhere w).mp h.2
      | some name =>
          rw [hbind] at hhere
          obtain ⟨before', after, htext, hlength, -, hne, hword, hends⟩ := (hhere name).mpr rfl
          obtain ⟨rfl, hcons⟩ := List.append_inj htext hlength.symm
          obtain ⟨rfl, rfl⟩ := List.cons.inj hcons
          have hafter : (name.toList ++ after).dropWhile Text.isWord = after :=
            dropWhile_of_endsName hword hends
          have hnil : name.toList ≠ [] := fun h => hne (String.toList_eq_nil_iff.mp h)
          have hlast : (false = true) ↔ FreeBehind (before ++ ':' :: name.toList) :=
            iff_of_false Bool.false_ne_true (not_freeBehind_of_word hnil hword)
          have hshorter : after.length < (':' :: (name.toList ++ after)).length := by
            rw [List.length_cons, List.length_append]
            omega
          have hrest := ih after.length hshorter after rfl false
            (before ++ ':' :: name.toList) hlast i w
          rw [List.length_append, List.length_cons, List.append_assoc, List.cons_append] at hrest
          simp only [hafter, spotsFrom, List.mem_cons, Prod.mk.injEq]
          rw [Nat.add_assoc, Nat.add_comm 1, hrest]
          constructor
          · rintro (⟨rfl, rfl⟩ | ⟨hle, h⟩)
            · exact ⟨Nat.le_refl _, (hhere w).mpr rfl⟩
            · exact ⟨by omega, h⟩
          · rintro ⟨hle, h⟩
            by_cases heq : i = before.length
            · subst heq
              exact .inl ⟨rfl, (Option.some.inj ((hhere w).mp h)).symm⟩
            · refine .inr ⟨?_, h⟩
              by_contra hinside
              have htext' : before ++ ':' :: (name.toList ++ after) =
                  (before ++ [':']) ++ (name.toList ++ after) := by
                rw [List.append_assoc, List.singleton_append]
              rw [htext'] at h
              refine not_declares_inside hword ?_ ?_ h
              · rw [List.length_append, List.length_singleton]
                omega
              · rw [List.length_append, List.length_singleton]
                omega

/-! ## The names of a text -/

/-- The names of a text are those that it declares by its grammar, `spots` being the positions that
declare with what they declare. -/
structure ByGrammar (sql : String) (names : List String) (spots : List (Nat × String)) : Prop where
  exact : ∀ i w, (i, w) ∈ spots ↔ Declares sql.toList i w
  ascending : spots.Pairwise fun s t => s.1 < t.1
  scanned : (scan sql).filterMap Piece.name? = spots.map Prod.snd
  kept : FirstAppearances (spots.map Prod.snd) names

/-- The scan passes over no position that declares and reports no other name, and of a name that is
declared more than once it keeps the first appearance. -/
theorem bindNames_byGrammar (sql : String) : ∃ spots, ByGrammar sql (bindNames sql) spots := by
  have hfree : (true = true) ↔ FreeBehind [] := by
    refine iff_of_true rfl ?_
    intro c hc
    cases hc
  have hscanned : (scan sql).filterMap Piece.name? =
      (spotsFrom 0 (scan sql)).map Prod.snd := (map_spotsFrom 0 (scan sql)).symm
  refine ⟨spotsFrom 0 (scan sql), ?_, pairwise_spotsFrom 0 _, hscanned, ?_⟩
  · intro i w
    have hmem := mem_spotsFrom_iff sql.toList true [] hfree i w
    rw [List.nil_append, List.length_nil] at hmem
    exact hmem.trans (and_iff_right (Nat.zero_le i))
  · rw [bindNames, hscanned]
    exact firstAppearances_distinct _

/-- A quoted bind is a bind and so is one behind dashes, and of the other colons none declares. -/
example : bindNames "SELECT ':q', \\:x, a::b, :c:, :q -- :d" = ["q", "d"] := by
  decide +kernel

end Entitlement.Query
