import Mathlib.Data.List.TakeWhile
import Entitlement.Proofs.Store.Outputs
import Entitlement.Proofs.Store.Selection

/-!
# `Entitlement.Proofs.Store.OutputReading` — lists of binds and literals, as they are read

The statement of a list is cut into lexemes, the lexemes are read as outputs, and the outputs make
the columns of a selection without sources.  Each of the three stages is a function on lists, and for
each there is a function that says what comes out for a list of slots.

| | |
| :-- | :-- |
| cut, without blanks, numbered | `tokensFrom`: the places have the numbers from left to right |
| read | `outputsFrom`: a place, a signed integer or a text for every slot |
| names known | `columnsFrom`: a term for every output |

They carry the number of places in front of a slot along, because a place is told by its number
alone.
-/
namespace Entitlement.Store

open Select
open Query (Piece)

/-! ## Cutting -/

def Item.placed (item : Item) : List Char := item.pieces.flatMap Piece.placed

def othersPlaced (rest : List Slot) : List Char := (othersPieces rest).flatMap Piece.placed

def Sign.lexemes : Sign → List Lexeme
  | .none => []
  | .plus => [{ kind := .mark, chars := ['+'] }]
  | .minus => [{ kind := .mark, chars := ['-'] }]

def Item.lexemes : Item → List Lexeme
  | .bind _ => [{ kind := .place, chars := ['?'] }]
  | .integer sign numeral => sign.lexemes ++ [{ kind := .number, chars := numeral.chars }]
  | .text s => [{ kind := .text, chars := quotedText s }]

def Slot.lexemes (slot : Slot) : List Lexeme :=
  blankLexemes slot.before ++ (slot.item.lexemes ++ blankLexemes slot.after)

def comma (behind : List Char) : Lexeme := { kind := .mark, chars := [','], behind }

def othersLexemes (rest : List Slot) : List Lexeme :=
  rest.flatMap fun slot => comma [] :: slot.lexemes

theorem Item.placed_integer (sign : Sign) (numeral : Numeral) :
    (Item.integer sign numeral).placed = sign.chars ++ numeral.chars :=
  Query.flatMap_placed_char _

theorem Item.placed_text (s : String) : (Item.text s).placed = quotedText s :=
  Query.flatMap_placed_char _

theorem Select.Numeral.Good.head_digit {numeral : Numeral} (h : numeral.Good) :
    ∃ c more, numeral.chars = c :: more ∧ isDigit c = true := by
  cases numeral with
  | decimal digits =>
      obtain ⟨c, more, rfl⟩ := List.exists_cons_of_ne_nil h.1
      exact ⟨c, more, rfl, h.2 c List.mem_cons_self⟩
  | hexadecimal capital digits => exact ⟨'0', _, rfl, rfl⟩

theorem extent_minus {c : Char} (h : isDigit c = true) (rest : List Char) :
    extent '-' (c :: rest) = (.mark, 0) := by
  have hc := mem_of_isDigit h
  simp only [digitChars, List.mem_cons, List.not_mem_nil, or_false] at hc
  rcases hc with rfl | rfl | rfl | rfl | rfl | rfl | rfl | rfl | rfl | rfl <;> rfl

theorem Item.Good.cut {item : Item} (h : item.Good) {rest : List Char} (hrest : Closes rest) :
    Select.cut (item.placed ++ rest) = item.lexemes ++ Select.cut rest := by
  cases item with
  | bind w => exact cut_place hrest
  | integer sign numeral =>
      have hnumeral := cut_numeral h.1 hrest
      rw [Item.placed_integer, List.append_assoc, Item.lexemes, List.append_assoc,
        List.singleton_append, ← hnumeral]
      cases sign with
      | none => rfl
      | plus => exact cut_of_extent [] rfl
      | minus =>
          obtain ⟨c, more, hchars, hc⟩ := h.1.head_digit
          refine cut_of_extent [] ?_
          rw [hchars]
          exact extent_minus hc _
  | text s =>
      rw [Item.placed_text]
      exact cut_quotedText s hrest

theorem Item.Good.head_placed {item : Item} (h : item.Good) :
    ∃ c more, item.placed = c :: more ∧ isSpace c = false := by
  cases item with
  | bind w => exact ⟨'?', [], rfl, rfl⟩
  | integer sign numeral =>
      rw [Item.placed_integer]
      cases sign with
      | none =>
          obtain ⟨c, more, hchars, hc⟩ := h.1.head_digit
          have hall : digitChars.all (fun c => !isSpace c) = true := by decide
          exact ⟨c, more, hchars,
            (Bool.not_eq_true' _).mp (List.all_eq_true.mp hall c (mem_of_isDigit hc))⟩
      | plus => exact ⟨'+', _, rfl, rfl⟩
      | minus => exact ⟨'-', _, rfl, rfl⟩
  | text s =>
      rw [Item.placed_text]
      exact ⟨'\'', _, rfl, rfl⟩

theorem Slot.Good.cut {slot : Slot} (h : slot.Good) {rest : List Char}
    (hrest : ∀ c, rest.head? = some c → c = ',') :
    Select.cut (slot.before ++ (slot.item.placed ++ (slot.after ++ rest))) =
      slot.lexemes ++ Select.cut rest := by
  obtain ⟨c, more, hplaced, hc⟩ := h.item.head_placed
  have hcloses : Closes rest := fun c hc => .inr (hrest c hc)
  have hafter : Select.cut (slot.after ++ rest) = blankLexemes slot.after ++ Select.cut rest := by
    refine cut_blanks h.after ?_
    intro c hc
    rw [hrest c hc]
    rfl
  have hitem := h.item.cut (hcloses.append h.after)
  rw [hafter] at hitem
  rw [cut_blanks h.before, hitem, Slot.lexemes, List.append_assoc, List.append_assoc]
  intro d hd
  rw [hplaced] at hd
  cases hd
  exact hc

theorem othersPlaced_cons (slot : Slot) (rest : List Slot) :
    othersPlaced (slot :: rest) =
      ',' :: (slot.before ++ (slot.item.placed ++ (slot.after ++ othersPlaced rest))) := by
  show ((Piece.char ',' :: slot.pieces) ++ othersPieces rest).flatMap Piece.placed = _
  rw [List.cons_append, List.flatMap_cons, List.flatMap_append, Slot.pieces, List.flatMap_append,
    List.flatMap_append, Query.flatMap_placed_char, Query.flatMap_placed_char, List.append_assoc,
    List.append_assoc]
  rfl

theorem head_othersPlaced (rest : List Slot) :
    ∀ c, (othersPlaced rest).head? = some c → c = ',' := by
  intro c hc
  cases rest with
  | nil => cases hc
  | cons slot rest =>
      rw [othersPlaced_cons] at hc
      cases hc
      rfl

theorem cut_othersPlaced {rest : List Slot} (h : ∀ slot ∈ rest, slot.Good) :
    cut (othersPlaced rest) = othersLexemes rest := by
  induction rest with
  | nil =>
      show cut [] = []
      rw [cut]
  | cons slot rest ih =>
      rw [othersPlaced_cons, cut_comma,
        (h slot List.mem_cons_self).cut (head_othersPlaced rest),
        ih fun s hs => h s (List.mem_cons_of_mem _ hs)]
      rfl

/-- The lexemes of a statement: the word, and the slots with the blank behind the word among the
blanks of the first one. -/
theorem Listed.cut {first : Slot} {rest : List Slot} (h : Listed first rest) :
    Select.cut ((listPieces first rest).flatMap Piece.placed) =
      { kind := .word, chars := ['S', 'E', 'L', 'E', 'C', 'T'] } ::
        (blankLexemes (' ' :: first.before) ++
          (first.item.lexemes ++ (blankLexemes first.after ++ othersLexemes rest))) := by
  have hfirst : Slot.Good { first with before := ' ' :: first.before } :=
    ⟨List.forall_mem_cons.mpr ⟨rfl, h.first.before⟩, h.first.item, h.first.after⟩
  have hcut := hfirst.cut (head_othersPlaced rest)
  rw [cut_othersPlaced fun s hs => h s (List.mem_cons_of_mem _ hs)] at hcut
  have htext : (listPieces first rest).flatMap Piece.placed = 'S' ::
      (['E', 'L', 'E', 'C', 'T'] ++ (' ' :: first.before ++
        (first.item.placed ++ (first.after ++ othersPlaced rest)))) := by
    rw [listPieces, List.flatMap_append, List.flatMap_append, Slot.pieces, List.flatMap_append,
      List.flatMap_append, Query.flatMap_placed_char, Query.flatMap_placed_char, Query.flatMap_placed_char,
      List.append_assoc, List.append_assoc]
    rfl
  rw [htext, cut_of_extent _ rfl, hcut]
  simp only [Slot.lexemes, List.append_assoc]

/-! ## Numbering -/

def Item.places : Item → Nat
  | .bind _ => 1
  | .integer _ _ => 0
  | .text _ => 0

def Item.tokens (used : Nat) (behind : List Char) : Item → List Lexeme
  | .bind _ => [{ kind := .place, chars := ['?'], number := used + 1, behind }]
  | .integer sign numeral =>
    sign.lexemes ++ [{ kind := .number, chars := numeral.chars, behind }]
  | .text s => [{ kind := .text, chars := quotedText s, behind }]

def tokensFrom : Nat → Slot → List Slot → List Lexeme
  | used, first, [] => first.item.tokens used first.after
  | used, first, slot :: rest =>
    first.item.tokens used first.after ++
      comma slot.before :: tokensFrom (used + first.item.places) slot rest

def listTokens (first : Slot) (rest : List Slot) : List Lexeme :=
  { kind := .word, chars := ['S', 'E', 'L', 'E', 'C', 'T'], behind := ' ' :: first.before } ::
    tokensFrom 0 first rest

/-- Blanks end in front of such lexemes. -/
def Visible (ls : List Lexeme) : Prop := ∀ l, ls.head? = some l → l.kind ≠ .blank

theorem visible_cons {kind : Kind} {chars : List Char} (h : kind ≠ .blank) (ls : List Lexeme) :
    Visible ({ kind, chars } :: ls) := by
  rintro _ ⟨⟩
  exact h

theorem visible_othersLexemes (rest : List Slot) : Visible (othersLexemes rest) := by
  cases rest with
  | nil =>
      intro l hl
      cases hl
  | cons slot rest => exact visible_cons (by decide) _

theorem Item.visible (item : Item) (ls : List Lexeme) : Visible (item.lexemes ++ ls) := by
  cases item with
  | bind w => exact visible_cons (by decide) _
  | integer sign numeral =>
      cases sign with
      | none => exact visible_cons (by decide) _
      | plus => exact visible_cons (by decide) _
      | minus => exact visible_cons (by decide) _
  | text s => exact visible_cons (by decide) _

theorem withoutBlanks_cons {kind : Kind} {chars behind : List Char} {ls : List Lexeme}
    (hkind : kind ≠ .blank) (hls : Visible ls) :
    withoutBlanks ({ kind, chars } :: (blankLexemes behind ++ ls)) =
      { kind, chars, behind } :: withoutBlanks ls := by
  have hstop : (ls.takeWhile (·.kind == .blank)) = [] := by
    cases ls with
    | nil => rfl
    | cons m ls =>
        have hm : (m.kind == .blank) = false := beq_eq_false_iff_ne.mpr (hls m rfl)
        rw [List.takeWhile_cons, hm]
        rfl
  rw [withoutBlanks, if_neg hkind]
  cases behind with
  | nil =>
      rw [blankLexemes, List.nil_append, hstop]
      rfl
  | cons c cs =>
      have htake : ((blankLexemes (c :: cs) ++ ls).takeWhile (·.kind == .blank)).flatMap (·.chars) =
          c :: cs := by
        rw [blankLexemes, List.singleton_append, List.takeWhile_cons]
        simp only [beq_self_eq_true, if_true, hstop, List.flatMap_cons, List.flatMap_nil,
          List.append_nil]
      rw [htake, blankLexemes, List.singleton_append, withoutBlanks, if_pos rfl]

theorem numberPlaces_cons {used : Nat} {kind : Kind} {chars : List Char} (behind : List Char)
    {ls : List Lexeme} (hblank : kind ≠ .blank) (hplace : kind ≠ .place) (hls : Visible ls) :
    numberPlaces used [] (withoutBlanks ({ kind, chars } :: (blankLexemes behind ++ ls))) =
      { kind, chars, behind } :: numberPlaces used [] (withoutBlanks ls) := by
  rw [withoutBlanks_cons hblank hls, numberPlaces, if_neg hplace]

theorem numberPlaces_item (item : Item) (used : Nat) (behind : List Char) {ls : List Lexeme}
    (hls : Visible ls) :
    numberPlaces used [] (withoutBlanks (item.lexemes ++ (blankLexemes behind ++ ls))) =
      item.tokens used behind ++ numberPlaces (used + item.places) [] (withoutBlanks ls) := by
  cases item with
  | bind w =>
      show numberPlaces used [] (withoutBlanks ({ kind := .place, chars := ['?'] } ::
        (blankLexemes behind ++ ls))) = _
      rw [withoutBlanks_cons (by decide) hls, numberPlaces, if_pos rfl, if_pos rfl]
      rfl
  | integer sign numeral =>
      have hnumber : numberPlaces used [] (withoutBlanks
          ({ kind := .number, chars := numeral.chars } :: (blankLexemes behind ++ ls))) =
          { kind := .number, chars := numeral.chars, behind } ::
            numberPlaces used [] (withoutBlanks ls) :=
        numberPlaces_cons _ (by decide) (by decide) hls
      -- Nothing stands between a sign and its number.
      have hsign : ∀ chars : List Char, numberPlaces used [] (withoutBlanks
          ({ kind := .mark, chars } :: { kind := .number, chars := numeral.chars } ::
            (blankLexemes behind ++ ls))) =
          { kind := .mark, chars } :: { kind := .number, chars := numeral.chars, behind } ::
            numberPlaces used [] (withoutBlanks ls) := by
        intro chars
        rw [← hnumber]
        exact numberPlaces_cons [] (by decide) (by decide) (visible_cons (by decide) _)
      cases sign with
      | none => exact hnumber
      | plus => exact hsign ['+']
      | minus => exact hsign ['-']
  | text s => exact numberPlaces_cons _ (by decide) (by decide) hls

theorem numberPlaces_list (used : Nat) (first : Slot) (rest : List Slot) :
    numberPlaces used [] (withoutBlanks
      (first.item.lexemes ++ (blankLexemes first.after ++ othersLexemes rest))) =
      tokensFrom used first rest := by
  rw [numberPlaces_item first.item used first.after (visible_othersLexemes rest)]
  induction rest generalizing used first with
  | nil =>
      show _ ++ numberPlaces _ [] (withoutBlanks []) = _
      rw [withoutBlanks, numberPlaces, List.append_nil, tokensFrom]
  | cons slot rest ih =>
      rw [tokensFrom, ← ih, ← numberPlaces_item slot.item _ slot.after (visible_othersLexemes rest)]
      refine congrArg (_ ++ ·) ?_
      show numberPlaces _ [] (withoutBlanks (({ kind := .mark, chars := [','] } ::
        (blankLexemes slot.before ++ (slot.item.lexemes ++ blankLexemes slot.after))) ++
          othersLexemes rest)) = _
      rw [List.cons_append, List.append_assoc, List.append_assoc]
      exact numberPlaces_cons _ (by decide) (by decide) (slot.item.visible _)

/-! ## The first statement -/

theorem cutFirst_eq {sql : String} {l : Lexeme} {ls : List Lexeme} (hcut : cut sql.toList = l :: ls)
    (hidle : isIdle l = false) (hmark : ∀ m ∈ l :: ls, m.isMark ";" = false) :
    cutFirst sql = ⟨false, numberPlaces 0 [] (withoutBlanks (l :: ls)), []⟩ := by
  have hbody : (l :: ls).takeWhile (!·.isMark ";") = l :: ls :=
    List.takeWhile_eq_self_iff.mpr fun m hm => (Bool.not_eq_true' _).mpr (hmark m hm)
  have hdrop : (l :: ls).dropWhile isIdle = l :: ls := by
    rw [List.dropWhile_cons, hidle]
    rfl
  have htake : (l :: ls).takeWhile isIdle = [] := by
    rw [List.takeWhile_cons, hidle]
    rfl
  unfold cutFirst
  simp only [hcut, hdrop, htake, hbody, List.drop_length, List.take_nil, List.append_nil,
    List.length_nil, Nat.add_zero, List.flatMap_nil, List.any_nil]

theorem closing_of_mem_list {first : Slot} {rest : List Slot} :
    ∀ l ∈ ({ kind := .word, chars := ['S', 'E', 'L', 'E', 'C', 'T'] } : Lexeme) ::
      (blankLexemes (' ' :: first.before) ++
        (first.item.lexemes ++ (blankLexemes first.after ++ othersLexemes rest))),
      l.isMark ";" = false := by
  have hblank : ∀ cs, ∀ l ∈ blankLexemes cs, l.isMark ";" = false := by
    intro cs l hl
    cases cs with
    | nil => cases hl
    | cons c cs =>
        rw [List.mem_singleton.mp hl]
        rfl
  have hitem : ∀ item : Item, ∀ l ∈ item.lexemes, l.isMark ";" = false := by
    intro item l hl
    cases item with
    | bind w =>
        rw [List.mem_singleton.mp hl]
        rfl
    | integer sign numeral =>
        rcases List.mem_append.mp hl with hl | hl
        · cases sign with
          | none => cases hl
          | plus =>
              rw [List.mem_singleton.mp hl]
              rfl
          | minus =>
              rw [List.mem_singleton.mp hl]
              rfl
        · rw [List.mem_singleton.mp hl]
          rfl
    | text s =>
        rw [List.mem_singleton.mp hl]
        rfl
  intro l hl
  simp only [List.mem_cons, List.mem_append, othersLexemes, Slot.lexemes, List.mem_flatMap] at hl
  rcases hl with rfl | hl | hl | hl | ⟨slot, -, rfl | hl | hl | hl⟩
  · rfl
  · exact hblank _ l hl
  · exact hitem _ l hl
  · exact hblank _ l hl
  · rfl
  · exact hblank _ l hl
  · exact hitem _ l hl
  · exact hblank _ l hl

theorem Listed.cutFirst {first : Slot} {rest : List Slot} (h : Listed first rest) :
    Select.cutFirst (String.ofList ((listPieces first rest).flatMap Piece.placed)) =
      ⟨false, listTokens first rest, []⟩ := by
  have hcut := h.cut
  rw [← String.toList_ofList (l := (listPieces first rest).flatMap Piece.placed)] at hcut
  rw [cutFirst_eq hcut rfl closing_of_mem_list,
    numberPlaces_cons _ (by decide) (by decide) (first.item.visible _), numberPlaces_list]
  rfl

/-! ## Reading -/

def Sign.expr : Sign → Expr → Expr
  | .none, e => e
  | .plus, e => .plus e
  | .minus, e => .neg e

def Item.expr (used : Nat) : Item → Expr
  | .bind _ => .place (used + 1)
  | .integer sign numeral => sign.expr numeral.expr
  | .text s => .text s

/-- Where an item ends: at a comma, or at the end. -/
def Stops (ls : List Lexeme) : Prop := ls = [] ∨ ∃ behind more, ls = comma behind :: more

/-- Nothing that follows an item belongs to it. -/
theorem readMore_of_stops {ls : List Lexeme} (h : Stops ls) (fuel place level : Nat) (e : Expr) :
    readMore fuel place level e ls = .ok (e, ls) := by
  have hoperator : operator? ls = none := by
    rcases h with rfl | ⟨behind, more, rfl⟩
    · rfl
    · rfl
  have htest : testFor ls = none := by
    rcases h with rfl | ⟨behind, more, rfl⟩
    · rfl
    · rfl
  cases fuel with
  | zero => rw [readMore]
  | succ fuel =>
      rw [readMore, hoperator]
      dsimp only
      split
      · rw [htest]
      · rfl

theorem putAt_of_le {α : Type} {place : Nat} (h : place ≤ lastPlace) (result : Read α) :
    putAt place result = result :=
  if_neg (Nat.not_lt.mpr h)

theorem Select.Numeral.height_expr (numeral : Numeral) : numeral.expr.height = 1 := by
  cases numeral with
  | decimal digits => rfl
  | hexadecimal capital digits =>
      rw [Numeral.expr]
      split <;> rfl

/-- An item is read where there is a place for it and for a sign in front of it. -/
theorem Item.Good.readExpr {item : Item} (h : item.Good) (used : Nat) {place fuel : Nat}
    {behind : List Char} {rest : List Lexeme} (hplace : place < lastPlace) (hrest : Stops rest) :
    readExpr (fuel + 5) place 0 (item.tokens used behind ++ rest) = .ok (item.expr used, rest) := by
  have hoperand : ∀ {e : Expr} {ls : List Lexeme}, readOperand (fuel + 4) place ls = .ok (e, rest) →
      Select.readExpr (fuel + 5) place 0 ls = .ok (e, rest) := by
    intro e ls hread
    rw [Select.readExpr, hread]
    exact readMore_of_stops hrest _ _ _ _
  have hput : ∀ {result : Read Expr}, putAt place result = result :=
    fun {result} => putAt_of_le (Nat.le_of_lt hplace) result
  cases item with
  | bind w =>
      refine hoperand ?_
      show readOperand _ _ ({ kind := .place, chars := ['?'], number := used + 1, behind } :: rest) = _
      rw [readOperand]
      exact hput
  | integer sign numeral =>
      have hnumber : ∀ fuel place, place ≤ lastPlace →
          readOperand (fuel + 1) place
            ({ kind := .number, chars := numeral.chars, behind } :: rest) =
            .ok (numeral.expr, rest) := by
        intro fuel place hplace
        rw [readOperand, if_pos rfl, putAt_of_le hplace, numberExpr_chars h.1]
      have hsigned : ∀ make : Expr → Expr, (make numeral.expr).height = 2 →
          readBehind make (fuel + 3) (place + 1) signLevel
            ({ kind := .number, chars := numeral.chars, behind } :: rest) =
            .ok (make numeral.expr, rest) := by
        intro make hheight
        rw [readBehind, Select.readExpr, hnumber _ _ hplace]
        dsimp only
        rw [readMore_of_stops hrest]
        dsimp only
        rw [lowEnough, hheight]
        rfl
      have hheight : numeral.expr.height + 1 = 2 := congrArg (· + 1) numeral.height_expr
      refine hoperand ?_
      cases sign with
      | none => exact hnumber _ _ (Nat.le_of_lt hplace)
      | plus =>
          show readOperand _ _ ({ kind := .mark, chars := ['+'] } :: _) = _
          rw [readOperand]
          exact hput.trans (hsigned .plus hheight)
      | minus =>
          show readOperand _ _ ({ kind := .mark, chars := ['-'] } :: _) = _
          rw [readOperand]
          exact hput.trans (hsigned .neg hheight)
  | text s =>
      refine hoperand ?_
      show readOperand _ _ ({ kind := .text, chars := quotedText s, behind } :: rest) = _
      rw [readOperand]
      refine hput.trans ?_
      rw [unquote_quotedText, String.ofList_toList]
      rfl

theorem readLabel_of_stops {ls : List Lexeme} (h : Stops ls) : readLabel ls = .ok (none, ls) := by
  rcases h with rfl | ⟨behind, more, rfl⟩
  · rfl
  · rfl

theorem readOutput_eq {place : Nat} {ls : List Lexeme} (hne : ls ≠ [])
    (hstar : startsMark "*" ls = false) (hdot : startsMark "." (ls.drop 1) = false) :
    readOutput place ls = readOutput.labelled place ls := by
  obtain ⟨l, more, rfl⟩ := List.exists_cons_of_ne_nil hne
  have hl : l.isMark "*" = false := hstar
  cases more with
  | nil => simp only [readOutput, hl, Bool.false_eq_true, if_false]
  | cons d more =>
      have hd : d.isMark "." = false := hdot
      cases more with
      | nil => simp only [readOutput, hl, Bool.false_eq_true, if_false]
      | cons m more =>
          simp only [readOutput, hl, hd, Bool.false_and, Bool.false_eq_true, if_false]

/-- What a slot behind `used` places is read as; it is named by how it is written. -/
def Slot.output (used : Nat) (slot : Slot) : Output :=
  .expr (slot.item.expr used) none (writtenAs (slot.item.tokens used slot.after))

theorem Slot.Good.readOutput {slot : Slot} (h : slot.Good) (used : Nat) {place : Nat}
    {rest : List Lexeme} (hplace : place < lastPlace) (hrest : Stops rest) :
    readOutput place (slot.item.tokens used slot.after ++ rest) =
      .ok (slot.output used, rest) := by
  have hdot : startsMark "." rest = false := by
    rcases hrest with rfl | ⟨behind, more, rfl⟩
    · rfl
    · rfl
  have hlabelled : readOutput.labelled place (slot.item.tokens used slot.after ++ rest) =
      .ok (slot.output used, rest) := by
    have hlength : (slot.item.tokens used slot.after ++ rest).length - rest.length =
        (slot.item.tokens used slot.after).length := by
      rw [List.length_append, Nat.add_sub_cancel]
    have hpositive : 0 < (slot.item.tokens used slot.after).length := by
      cases slot.item with
      | bind w => exact Nat.zero_lt_one
      | integer sign numeral =>
          rw [Item.tokens, List.length_append]
          exact Nat.succ_pos _
      | text s => exact Nat.zero_lt_one
    obtain ⟨fuel, hfuel⟩ : ∃ fuel,
        4 * (slot.item.tokens used slot.after ++ rest).length + 4 = fuel + 5 := by
      refine ⟨4 * (slot.item.tokens used slot.after ++ rest).length - 1, ?_⟩
      rw [List.length_append]
      omega
    rw [readOutput.labelled, readExpression, hfuel, h.item.readExpr used hplace hrest]
    dsimp only
    rw [readLabel_of_stops hrest, hlength, List.take_left]
    rfl
  rw [← hlabelled]
  cases slot.item with
  | bind w => exact readOutput_eq (List.cons_ne_nil _ _) rfl hdot
  | integer sign numeral =>
      cases sign with
      | none => exact readOutput_eq (List.cons_ne_nil _ _) rfl hdot
      | plus => exact readOutput_eq (List.cons_ne_nil _ _) rfl rfl
      | minus => exact readOutput_eq (List.cons_ne_nil _ _) rfl rfl
  | text s => exact readOutput_eq (List.cons_ne_nil _ _) rfl hdot

/-! ## Slot by slot -/

/-- What is made of slots one by one, the number of places in front of each being known. -/
def mapFrom {α : Type} (f : Nat → Slot → α) : Nat → List Slot → List α
  | _, [] => []
  | used, slot :: rest => f used slot :: mapFrom f (used + slot.item.places) rest

theorem mem_mapFrom {α : Type} {f : Nat → Slot → α} {used : Nat} {slots : List Slot} {a : α}
    (h : a ∈ mapFrom f used slots) : ∃ n, ∃ slot ∈ slots, a = f n slot := by
  induction slots generalizing used with
  | nil => cases h
  | cons slot rest ih =>
      rcases List.mem_cons.mp h with rfl | h
      · exact ⟨used, slot, List.mem_cons_self, rfl⟩
      · obtain ⟨n, s, hs, rfl⟩ := ih h
        exact ⟨n, s, List.mem_cons_of_mem _ hs, rfl⟩

theorem Listed.readList {first : Slot} {rest : List Slot} (h : Listed first rest) {place : Nat}
    (hplace : place < lastPlace) (used : Nat) {fuel : Nat} (hfuel : rest.length < fuel) :
    readList (readOutput place) (readOutput place) fuel (tokensFrom used first rest) =
      .ok (mapFrom Slot.output used (first :: rest), []) := by
  induction rest generalizing first used fuel with
  | nil =>
      obtain ⟨fuel, rfl⟩ := Nat.exists_eq_add_of_lt hfuel
      have hread := h.first.readOutput used hplace (.inl rfl)
      rw [List.append_nil] at hread
      rw [tokensFrom, Select.readList, hread]
      rfl
  | cons slot rest ih =>
      obtain ⟨fuel, rfl⟩ := Nat.exists_eq_add_of_lt hfuel
      have hread := h.first.readOutput used hplace
        (.inr ⟨slot.before, tokensFrom (used + first.item.places) slot rest, rfl⟩)
      have hless : rest.length < (slot :: rest).length + fuel := by
        rw [List.length_cons]
        omega
      have hrest := ih h.rest (used + first.item.places) hless
      have hcomma : startsMark ","
          (comma slot.before :: tokensFrom (used + first.item.places) slot rest) = true := rfl
      rw [tokensFrom, Select.readList, hread]
      dsimp only
      rw [if_pos hcomma, List.drop_one, List.tail_cons, hrest]
      rfl

theorem le_length_tokensFrom (used : Nat) (first : Slot) (rest : List Slot) :
    rest.length ≤ (tokensFrom used first rest).length := by
  induction rest generalizing used first with
  | nil => exact Nat.zero_le _
  | cons slot rest ih =>
      have hrest := ih (used + first.item.places) slot
      rw [tokensFrom, List.length_append, List.length_cons, List.length_cons]
      omega

/-- A list is read as a query with its outputs and nothing else. -/
theorem Listed.readQuery {first : Slot} {rest : List Slot} (h : Listed first rest) :
    readQuery 0 (listTokens first rest) =
      .ok (⟨mapFrom Slot.output 0 (first :: rest), [], none, []⟩, []) := by
  have hlength : rest.length < (listTokens first rest).length :=
    Nat.lt_succ_of_le (le_length_tokensFrom 0 first rest)
  have hread : Select.readList (readOutput (0 + 5)) (readOutput (0 + 5))
      (listTokens first rest).length ((listTokens first rest).drop 1) =
      .ok (mapFrom Slot.output 0 (first :: rest), []) := h.readList (by decide) 0 hlength
  have hselect : startsWord "select" (listTokens first rest) = true := rfl
  rw [Select.readQuery, if_pos hselect, hread]
  rfl

end Entitlement.Store
