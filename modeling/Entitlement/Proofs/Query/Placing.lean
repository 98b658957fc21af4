import Entitlement.Proofs.Query.Grammar
import Entitlement.Query.Statement

/-!
# `Entitlement.Proofs.Query.Placing` — a place for every bind

The statement of a query text should be the text with a place where a bind was, and the names whose
arguments are handed over should be the names of the binds in order:

    SELECT :b, :a, :b          the query text
    SELECT ?, ?, ?             its statement
    b, a, b                    what is handed over

`Placed` says so of a text, and `placed_of_unmarked` says when it is so: when no mark that begins
outside the binds is taken for one of theirs (`Unmarked`), and no colon is escaped.  A mark of a name
that is not declared does no harm as long as it ends before the next bind, because it is copied.

On the way there the pieces of a scan are written down as a text again.  That gives back the text
that was scanned (`flatMap_written_scanFrom`), and if each bind of a list of pieces stands free in
the text they make, then the scan of that text is the list (`scanFrom_written`).
-/
namespace Entitlement.Query

/-! ## The scan of a text -/

/-- Text without colons is passed over, and its last character decides whether a bind may begin. -/
theorem scanFrom_append {cs : List Char} (h : ∀ c ∈ cs, c ≠ ':') (free : Bool)
    (rest : List Char) :
    scanFrom free (cs ++ rest) =
      cs.map .char ++ scanFrom (cs.foldl (fun _ c => canPrecedeBind c) free) rest := by
  induction cs generalizing free with
  | nil => rfl
  | cons c cs ih =>
      have hc : (free && c == ':') = false := by
        rw [beq_eq_false_iff_ne.mpr (h c List.mem_cons_self), Bool.and_false]
      have hcs := ih (fun d hd => h d (List.mem_cons_of_mem _ hd)) (canPrecedeBind c)
      rw [List.cons_append, scanFrom, hc]
      simp only [Bool.false_eq_true, if_false, List.map_cons, List.cons_append, List.foldl_cons]
      rw [hcs]

theorem scanFrom_eq_map {cs : List Char} (h : ∀ c ∈ cs, c ≠ ':') (free : Bool) :
    scanFrom free cs = cs.map .char := by
  have happend := scanFrom_append h free []
  rw [List.append_nil, scanFrom, List.append_nil] at happend
  exact happend

theorem scanFrom_bind {w : String} {rest : List Char} (hne : w ≠ "")
    (hword : ∀ c ∈ w.toList, Text.isWord c = true) (hends : EndsName rest) :
    scanFrom true (':' :: (w.toList ++ rest)) = .bind w :: scanFrom false rest := by
  have hbind : bindName? (w.toList ++ rest) = some w :=
    bindName?_eq_some_iff.mpr ⟨rest, rfl, hne, hword, hends⟩
  rw [scanFrom]
  simp only [Bool.true_and, beq_self_eq_true, if_true, hbind]
  rw [dropWhile_of_endsName hword hends]

/-! ## Pieces as they are written -/

def Piece.written : Piece → List Char
  | .char c => [c]
  | .bind w => ':' :: w.toList

theorem flatMap_written_char (cs : List Char) :
    (cs.map Piece.char).flatMap Piece.written = cs := by
  rw [List.flatMap_map]
  exact List.flatMap_singleton' cs

theorem filterMap_name_char (cs : List Char) : (cs.map Piece.char).filterMap Piece.name? = [] := by
  refine List.filterMap_eq_nil_iff.mpr ?_
  rintro piece hpiece
  obtain ⟨c, -, rfl⟩ := List.mem_map.mp hpiece
  rfl

theorem flatMap_written_scanFrom (free : Bool) (cs : List Char) :
    (scanFrom free cs).flatMap Piece.written = cs := by
  fun_induction scanFrom free cs with
  | case1 => rfl
  | case2 free c rest w hbind ih =>
      split at hbind
      · rename_i hbegins
        obtain ⟨after, rfl, hne, hword, hends⟩ := bindName?_eq_some_iff.mp hbind
        rw [Bool.and_eq_true, beq_iff_eq] at hbegins
        rw [dropWhile_of_endsName hword hends] at ih
        rw [List.flatMap_cons, dropWhile_of_endsName hword hends, ih, hbegins.2]
        rfl
      · cases hbind
  | case3 free c rest hnone ih =>
      rw [List.flatMap_cons, ih]
      rfl

theorem word_of_mem_scanFrom {free : Bool} {cs : List Char} {w : String}
    (h : .bind w ∈ scanFrom free cs) : w ≠ "" ∧ ∀ c ∈ w.toList, Text.isWord c = true := by
  fun_induction scanFrom free cs with
  | case1 => cases h
  | case2 free c rest name hbind ih =>
      rcases List.mem_cons.mp h with heq | h
      · cases heq
        split at hbind
        · obtain ⟨after, -, hne, hword, -⟩ := bindName?_eq_some_iff.mp hbind
          exact ⟨hne, hword⟩
        · cases hbind
      · exact ih h
  | case3 free c rest hnone ih =>
      rcases List.mem_cons.mp h with heq | h
      · cases heq
      · exact ih h

/-- Pieces that can be told from the text they are written as, `free` telling whether a bind can
begin in front of them. -/
def Legible : Bool → List Piece → Prop
  | _, [] => True
  | _, .char c :: rest => c ≠ ':' ∧ Legible (canPrecedeBind c) rest
  | free, .bind w :: rest =>
    free = true ∧ w ≠ "" ∧ (∀ c ∈ w.toList, Text.isWord c = true) ∧
      EndsName (rest.flatMap Piece.written) ∧ Legible false rest

theorem scanFrom_written {free : Bool} {pieces : List Piece} (h : Legible free pieces) :
    scanFrom free (pieces.flatMap Piece.written) = pieces := by
  induction pieces generalizing free with
  | nil => rw [List.flatMap_nil, scanFrom]
  | cons piece rest ih =>
      rw [List.flatMap_cons]
      cases piece with
      | char c =>
          obtain ⟨hc, hrest⟩ := h
          have hcolon : ∀ d ∈ [c], d ≠ ':' := List.forall_mem_singleton.mpr hc
          rw [Piece.written, scanFrom_append hcolon]
          exact congrArg (.char c :: ·) (ih hrest)
      | bind w =>
          obtain ⟨rfl, hne, hword, hends, hrest⟩ := h
          rw [Piece.written, List.cons_append, scanFrom_bind hne hword hends, ih hrest]

/-! ## The escapes and the marks -/

theorem char_mem_of_mem_chars {pieces : List Piece} {c : Char}
    (hnames : ∀ w, .bind w ∈ pieces → ∀ d ∈ w.toList, Text.isWord d = true)
    (hc : c ∉ ['%', '(', ')'] ∧ Text.isWord c = false) (h : c ∈ pieces.flatMap Piece.chars) :
    .char c ∈ pieces := by
  obtain ⟨piece, hpiece, hmem⟩ := List.mem_flatMap.mp h
  cases piece with
  | char d =>
      rw [← List.mem_singleton.mp hmem] at hpiece
      exact hpiece
  | bind w =>
      have hword : c ∉ w.toList ∧ c ≠ 's' := by
        constructor
        · intro hw
          exact Bool.false_ne_true (hc.2.symm.trans (hnames w hpiece c hw))
        · rintro rfl
          exact absurd hc.2 (by decide)
      simp only [List.mem_cons, List.not_mem_nil, or_false, not_or] at hc
      simp only [Piece.chars, List.cons_append, List.mem_cons, List.mem_append, List.not_mem_nil, hc,
        hword, or_self] at hmem

theorem unescape_eq_self {cs : List Char} (h : ∀ c ∈ cs, c ≠ '\\') : unescape cs = cs := by
  induction cs with
  | nil => rw [unescape]
  | cons c cs ih =>
      have hc : ¬(c = '\\' ∧ cs.head? = some ':' ∧ losesBackslash (cs.drop 1) = true) :=
        fun hescape => h c List.mem_cons_self hescape.1
      rw [unescape, if_neg hc, ih fun d hd => h d (List.mem_cons_of_mem _ hd)]

/-- Where a text is looked at, the mark that begins there decides. -/
theorem partsFrom_look (declared : String → Bool) (c : Char) (rest : List Char) :
    partsFrom declared .look (c :: rest) =
      match mark? (c :: rest) with
      | none => .char c :: partsFrom declared .look rest
      | some mark =>
        if !declared (String.ofList mark.name) then
          .char c :: partsFrom declared (.copy (mark.length - 1)) rest
        else if mark.later then
          .argument (String.ofList mark.name) :: .char c ::
            partsFrom declared (.copy (mark.length - 1)) rest
        else
          .place (String.ofList mark.name) :: partsFrom declared (.pass (mark.length - 1)) rest :=
  rfl

theorem partsFrom_copy_zero (declared : String → Bool) (cs : List Char) :
    partsFrom declared (.copy 0) cs = partsFrom declared .look cs := by
  cases cs with
  | nil => rfl
  | cons c rest => rfl

theorem partsFrom_pass (declared : String → Bool) (passed rest : List Char) :
    partsFrom declared (.pass passed.length) (passed ++ rest) =
      partsFrom declared .look rest := by
  induction passed with
  | nil =>
      cases rest with
      | nil => rfl
      | cons c rest => rfl
  | cons c passed ih => exact ih

theorem partsFrom_place {declared : String → Bool} {w : String} (hne : w ≠ "")
    (hclose : ∀ c ∈ w.toList, c ≠ ')') (hdeclared : declared w = true) (rest : List Char) :
    partsFrom declared .look (Piece.chars (.bind w) ++ rest) =
      .place w :: partsFrom declared .look rest := by
  have hnil : w.toList ≠ [] := fun h => hne (String.toList_eq_nil_iff.mp h)
  have htext : Piece.chars (.bind w) ++ rest = '%' :: '(' :: (w.toList ++ ')' :: 's' :: rest) := by
    simp only [Piece.chars, List.cons_append, List.append_assoc, List.nil_append]
  have htake : (w.toList ++ ')' :: 's' :: rest).takeWhile (· != ')') = w.toList := by
    rw [List.takeWhile_append_of_pos fun c hc => bne_iff_ne.mpr (hclose c hc)]
    exact List.append_nil w.toList
  have hmark : mark? ('%' :: '(' :: (w.toList ++ ')' :: 's' :: rest)) =
      some ⟨w.toList, w.toList.length + 4, false⟩ := by
    simp only [mark?, placeMark?, htake, List.drop_left, List.isEmpty_eq_false_iff.mpr hnil,
      Bool.false_eq_true, if_false]
  have hpass := partsFrom_pass declared ('(' :: (w.toList ++ [')', 's'])) rest
  have hlength : ('(' :: (w.toList ++ [')', 's'])).length = w.toList.length + 4 - 1 := by
    rw [List.length_cons, List.length_append]
    rfl
  rw [hlength, List.cons_append, List.append_assoc] at hpass
  rw [htext, partsFrom_look, hmark]
  simp only [String.ofList_toList, hdeclared, Bool.not_true, Bool.false_eq_true, if_false]
  exact congrArg (.place w :: ·) hpass

/-! ## Marks that begin outside the binds -/

/-- No mark that begins outside the binds has a declared name or takes in a part of a bind. -/
def Unmarked (declared : String → Bool) : List Piece → Prop
  | [] => True
  | .char c :: rest =>
    (∀ mark ∈ mark? (c :: rest.flatMap Piece.chars), declared (String.ofList mark.name) = false ∧
      ∀ piece ∈ rest.take (mark.length - 1), piece.name? = none) ∧ Unmarked declared rest
  | .bind _ :: rest => Unmarked declared rest

instance decidableUnmarked (declared : String → Bool) :
    (pieces : List Piece) → Decidable (Unmarked declared pieces)
  | [] => isTrue trivial
  | .char _ :: rest =>
    have := decidableUnmarked declared rest
    inferInstanceAs (Decidable (_ ∧ _))
  | .bind _ :: rest => decidableUnmarked declared rest

theorem Unmarked.tail {declared : String → Bool} {piece : Piece} {rest : List Piece}
    (h : Unmarked declared (piece :: rest)) : Unmarked declared rest := by
  cases piece with
  | char c => exact h.2
  | bind w => exact h

def Piece.part : Piece → Part
  | .char c => .char c
  | .bind w => .place w

theorem partsFrom_of_unmarked {declared : String → Bool} {pieces : List Piece}
    (hnames : ∀ w, .bind w ∈ pieces → declared w = true ∧ w ≠ "" ∧
      ∀ c ∈ w.toList, Text.isWord c = true)
    (h : Unmarked declared pieces) (n : Nat)
    (hcopied : ∀ piece ∈ pieces.take n, piece.name? = none) :
    partsFrom declared (.copy n) (pieces.flatMap Piece.chars) = pieces.map Piece.part := by
  induction pieces generalizing n with
  | nil => rw [List.flatMap_nil, partsFrom, List.map_nil]
  | cons piece rest ih =>
      have ihrest := ih (fun w hw => hnames w (List.mem_cons_of_mem _ hw)) h.tail
      rw [List.flatMap_cons, List.map_cons]
      cases piece with
      | char c =>
          rw [Piece.chars, Piece.part, List.singleton_append]
          cases n with
          | succ n =>
              rw [partsFrom, ihrest n fun piece hp => hcopied piece (List.mem_cons_of_mem _ hp)]
          | zero =>
              have hlook := ihrest 0 fun _ hp => absurd hp List.not_mem_nil
              rw [partsFrom_copy_zero, partsFrom_look]
              cases hmark : mark? (c :: rest.flatMap Piece.chars) with
              | none =>
                  rw [partsFrom_copy_zero] at hlook
                  exact congrArg (.char c :: ·) hlook
              | some mark =>
                  obtain ⟨hdeclared, hbind⟩ := h.1 mark hmark
                  simp only [hdeclared, Bool.not_false, if_true]
                  exact congrArg (.char c :: ·) (ihrest _ hbind)
      | bind w =>
          cases n with
          | succ n => cases hcopied (.bind w) List.mem_cons_self
          | zero =>
              have hlook := ihrest 0 fun _ hp => absurd hp List.not_mem_nil
              obtain ⟨hdeclared, hne, hword⟩ := hnames w List.mem_cons_self
              have hclose : ∀ c ∈ w.toList, c ≠ ')' := by
                rintro c hc rfl
                exact absurd (hword _ hc) (by decide)
              rw [partsFrom_copy_zero] at hlook ⊢
              rw [partsFrom_place hne hclose hdeclared, hlook]
              rfl

/-! ## Texts with a place for every bind -/

def Piece.placed : Piece → List Char
  | .char c => [c]
  | .bind _ => ['?']

theorem flatMap_placed_char (cs : List Char) : (cs.map Piece.char).flatMap Piece.placed = cs := by
  rw [List.flatMap_map]
  exact List.flatMap_singleton' cs

/-- The statement of a text has a place where a bind was, and the arguments handed over are those of
the binds in order. -/
structure Placed (sql : String) : Prop where
  statement : statement sql = String.ofList ((scan sql).flatMap Piece.placed)
  occurrences : occurrences sql = (scan sql).filterMap Piece.name?

theorem mem_bindNames {sql w : String} : w ∈ bindNames sql ↔ .bind w ∈ scan sql := by
  rw [bindNames, mem_distinct, List.mem_filterMap]
  constructor
  · rintro ⟨piece, hpiece, hname⟩
    cases piece with
    | char c => cases hname
    | bind v =>
        cases hname
        exact hpiece
  · intro h
    exact ⟨_, h, rfl⟩

theorem placed_of_unmarked {sql : String} (hescape : .char '\\' ∉ scan sql)
    (h : Unmarked (bindNames sql).contains (scan sql)) : Placed sql := by
  have hword : ∀ w, .bind w ∈ scan sql → w ≠ "" ∧ ∀ c ∈ w.toList, Text.isWord c = true :=
    fun w hw => word_of_mem_scanFrom hw
  have hkept : ∀ c ∈ (scan sql).flatMap Piece.chars, c ≠ '\\' := by
    rintro c hc rfl
    exact hescape (char_mem_of_mem_chars (fun w hw => (hword w hw).2) (by decide) hc)
  have hparts : parts sql = (scan sql).map Piece.part := by
    rw [parts, unescape_eq_self hkept, ← partsFrom_copy_zero]
    refine partsFrom_of_unmarked ?_ h 0 fun _ hp => absurd hp List.not_mem_nil
    intro w hw
    exact ⟨List.contains_iff_mem.mpr (mem_bindNames.mpr hw), hword w hw⟩
  constructor
  · rw [statement, hparts, List.flatMap_map]
    congr 2
    funext piece
    cases piece <;> rfl
  · rw [occurrences, hparts, List.filterMap_map]
    congr 1
    funext piece
    cases piece <;> rfl

/-! ## Arguments at their places -/

theorem lookup_zip {α β : Type} [BEq α] [LawfulBEq α] {keys : List α} {values : List β} {k : Nat}
    {key : α} {value : β} (hkeys : keys.Nodup) (hkey : keys[k]? = some key)
    (hvalue : values[k]? = some value) : (keys.zip values).lookup key = some value := by
  induction keys generalizing values k with
  | nil => cases hkey
  | cons a keys ih =>
      cases values with
      | nil => cases hvalue
      | cons b values =>
          obtain ⟨hfresh, hrest⟩ := List.nodup_cons.mp hkeys
          rw [List.zip_cons_cons, List.lookup_cons]
          cases k with
          | zero =>
              cases hkey
              cases hvalue
              rw [beq_self_eq_true]
          | succ k =>
              have hne : (key == a) = false := by
                refine beq_eq_false_iff_ne.mpr ?_
                rintro rfl
                exact hfresh (List.mem_of_getElem? hkey)
              rw [hne]
              exact ih hrest hkey hvalue

end Entitlement.Query
