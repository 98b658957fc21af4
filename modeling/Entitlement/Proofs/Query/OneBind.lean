import Entitlement.Proofs.Query.Placing

/-!
# `Entitlement.Proofs.Query.OneBind` — query texts with a single bind

Most query texts are written plainly: between the binds no character means anything to the scan, to
the escapes or to the marks.  Such a text has a place for every bind, as `placed_of_inert` says, and
with a single bind the three steps to a statement come to what one would write down by hand.

    SELECT … WHERE username = :username          the query text
    SELECT … WHERE username = ?                  its statement

`Asking.bindNames` and `Asking.statement` say so for every such text, whatever stands around the
bind, so a closed query is settled by looking at its characters once.
-/
namespace Entitlement.Query

/-- A character that has no meaning to the scan, to the escapes and to the marks. -/
def isInert (c : Char) : Bool := c != ':' && c != '\\' && c != '%' && c != '['

/-- Without a percent sign in front and without brackets at all there is no mark. -/
theorem mark?_eq_none {c : Char} {rest : List Char} (hc : c ≠ '%') (hopen : '[' ∉ c :: rest) :
    mark? (c :: rest) = none := by
  have hlater : ¬laterOpening.isPrefixOf (c :: rest) = true := by
    intro h
    exact hopen ((List.isPrefixOf_iff_prefix.mp h).subset (by decide))
  unfold mark?
  split
  · rename_i heq
    cases heq
    exact absurd rfl hc
  · rw [if_neg hlater]

/-! ## Texts that are inert between their binds -/

theorem unmarked_of_inert {declared : String → Bool} {pieces : List Piece}
    (hchar : ∀ c, .char c ∈ pieces → isInert c = true)
    (hword : ∀ w, .bind w ∈ pieces → ∀ c ∈ w.toList, Text.isWord c = true) :
    Unmarked declared pieces := by
  induction pieces with
  | nil => exact trivial
  | cons piece rest ih =>
      have hrest := ih (fun c hc => hchar c (List.mem_cons_of_mem _ hc))
        fun w hw => hword w (List.mem_cons_of_mem _ hw)
      cases piece with
      | bind w => exact hrest
      | char c =>
          have hinert := hchar c List.mem_cons_self
          have hopen : '[' ∉ (.char c :: rest).flatMap Piece.chars := fun hmem =>
            absurd (hchar _ (char_mem_of_mem_chars hword (by decide) hmem)) (by decide)
          have hnone : mark? (c :: rest.flatMap Piece.chars) = none := by
            refine mark?_eq_none ?_ hopen
            rintro rfl
            exact absurd hinert (by decide)
          refine ⟨?_, hrest⟩
          rw [hnone]
          intro mark hmark
          cases hmark

/-- A text that is inert between its binds has a place for each of them. -/
theorem placed_of_inert {sql : String} (h : ∀ c, .char c ∈ scan sql → isInert c = true) :
    Placed sql := by
  refine placed_of_unmarked ?_ (unmarked_of_inert h fun w hw => (word_of_mem_scanFrom hw).2)
  intro hmem
  exact absurd (h _ hmem) (by decide)

/-! ## Texts with one bind -/

/-- A query text that is plain but for one bind. -/
structure Asking (sql : String) (before name behind : List Char) : Prop where
  text : sql.toList = before ++ ':' :: (name ++ behind)
  inert_before : before.all isInert = true
  free : before.foldl (fun _ c => canPrecedeBind c) true = true
  named : name ≠ []
  word : name.all Text.isWord = true
  inert_name : name.all isInert = true
  open_name : name.all (· != ')') = true
  inert_behind : behind.all isInert = true
  ends : EndsName behind

namespace Asking

variable {sql : String} {before name behind : List Char}

theorem scan (h : Asking sql before name behind) :
    Query.scan sql =
      before.map .char ++ .bind (String.ofList name) :: behind.map .char := by
  have hcolon : ∀ {cs : List Char}, cs.all isInert = true → ∀ c ∈ cs, c ≠ ':' :=
    fun hinert c hc hcolon => absurd (hcolon ▸ List.all_eq_true.mp hinert c hc) (by decide)
  have hne : String.ofList name ≠ "" := fun hempty => h.named (String.ofList_injective hempty)
  have hword : ∀ c ∈ (String.ofList name).toList, Text.isWord c = true := by
    rw [String.toList_ofList]
    exact List.all_eq_true.mp h.word
  have hbind := scanFrom_bind hne hword h.ends
  rw [String.toList_ofList] at hbind
  rw [Query.scan, h.text, scanFrom_append (hcolon h.inert_before), h.free, hbind,
    scanFrom_eq_map (hcolon h.inert_behind)]

theorem bindNames (h : Asking sql before name behind) :
    Query.bindNames sql = [String.ofList name] := by
  rw [Query.bindNames, h.scan, List.filterMap_append, List.filterMap_cons, filterMap_name_char,
    filterMap_name_char]
  rfl

theorem placed (h : Asking sql before name behind) : Placed sql := by
  refine placed_of_inert ?_
  rw [h.scan]
  intro c hc
  simp only [List.mem_append, List.mem_cons, List.mem_map, Piece.char.injEq, exists_eq_right,
    reduceCtorEq, false_or] at hc
  rcases hc with hc | hc
  · exact List.all_eq_true.mp h.inert_before c hc
  · exact List.all_eq_true.mp h.inert_behind c hc

theorem statement (h : Asking sql before name behind) :
    Query.statement sql = String.ofList (before ++ '?' :: behind) := by
  rw [h.placed.statement, h.scan, List.flatMap_append, List.flatMap_cons, flatMap_placed_char,
    flatMap_placed_char]
  rfl

theorem atPlaces {α : Type} (h : Asking sql before name behind) (arg : α) :
    Query.atPlaces sql [arg] = [some arg] := by
  have hoccurs : occurrences sql = [String.ofList name] := by
    rw [h.placed.occurrences, h.scan, List.filterMap_append, List.filterMap_cons,
      filterMap_name_char, filterMap_name_char]
    rfl
  rw [Query.atPlaces, hoccurs, h.bindNames]
  simp only [List.zip_cons_cons, List.map_cons, List.map_nil, List.lookup_cons,
    beq_self_eq_true]

end Asking
end Entitlement.Query
