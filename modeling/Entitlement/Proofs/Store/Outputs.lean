import Entitlement.Proofs.Query.Placing
import Entitlement.Proofs.Store.Literal

/-!
# `Entitlement.Proofs.Store.Outputs` — lists of binds and literals, as they are written and cut

A list of outputs is one or more items with commas between them, each a bind, an integer or a text,
and blanks wherever a blank may stand:

    SELECT :b, 0,'it''s' , -7, :a, :b

| | |
| :-- | :-- |
| `listPieces` | the text as pieces: the binds, and the characters between them |
| `listText` | the query text that is written from the pieces; its scan gives them back |
| `listPlaced` | what stands in the statement, with a place for every bind |
| `tokensFrom` | the lexemes of the statement, with the places numbered from left to right |

A list is given by its first slot and the others, so none is empty.
-/
namespace Entitlement.Store

open Select

/-! ## Items -/

inductive Sign where
  | none
  | plus
  | minus
deriving DecidableEq, Repr

namespace Sign

def chars : Sign → List Char
  | .none => []
  | .plus => ['+']
  | .minus => ['-']

def value : Sign → Int → Int
  | .none, n => n
  | .plus, n => n
  | .minus, n => -n

end Sign

/-- What one column of the result is to hold. -/
inductive Item where
  | bind (name : String)
  | integer (sign : Sign) (numeral : Numeral)
  | text (s : String)
deriving DecidableEq, Repr

/-- An item that can stand in a list: a bind has a name of ASCII word characters, an integer fits a
machine word, and a text has nothing in it that could begin or escape a bind. -/
def Item.Good : Item → Prop
  | .bind w => w ≠ "" ∧ ∀ c ∈ w.toList, c.toNat < 128 ∧ Text.isWord c = true
  | .integer sign numeral => numeral.Good ∧ fitsWord (sign.value numeral.value) = true
  | .text s => ':' ∉ s.toList ∧ '\\' ∉ s.toList

instance (item : Item) : Decidable item.Good :=
  match item with
  | .bind w => @instDecidableAnd _ _ inferInstance (List.decidableBAll _ w.toList)
  | .integer _ _ => inferInstanceAs (Decidable (_ ∧ _))
  | .text _ => inferInstanceAs (Decidable (_ ∧ _))

def Item.text? : Item → Option String
  | .text s => some s
  | _ => none

structure Slot where
  before : List Char := []
  item : Item
  after : List Char := []

structure Slot.Good (slot : Slot) : Prop where
  before : ∀ c ∈ slot.before, isSpace c = true
  item : slot.item.Good
  after : ∀ c ∈ slot.after, isSpace c = true

instance (slot : Slot) : Decidable slot.Good :=
  decidable_of_iff (slot.before.all isSpace = true ∧ slot.item.Good ∧
      slot.after.all isSpace = true)
    ⟨fun ⟨hbefore, hitem, hafter⟩ =>
        ⟨List.all_eq_true.mp hbefore, hitem, List.all_eq_true.mp hafter⟩,
      fun h => ⟨List.all_eq_true.mpr h.before, h.item, List.all_eq_true.mpr h.after⟩⟩

def Slot.name? (slot : Slot) : Option String :=
  match slot.item with
  | .bind w => some w
  | _ => none

/-! ## The text of a list -/

open Query (Piece)

def Item.pieces : Item → List Piece
  | .bind w => [.bind w]
  | .integer sign numeral => (sign.chars ++ numeral.chars).map .char
  | .text s => (quotedText s).map .char

def Slot.pieces (slot : Slot) : List Piece :=
  slot.before.map .char ++ (slot.item.pieces ++ slot.after.map .char)

def othersPieces (rest : List Slot) : List Piece :=
  rest.flatMap fun slot => .char ',' :: slot.pieces

/-- What stands in front of a list. -/
def opening : List Char := ['S', 'E', 'L', 'E', 'C', 'T', ' ']

def listPieces (first : Slot) (rest : List Slot) : List Piece :=
  opening.map .char ++ (first.pieces ++ othersPieces rest)

def listText (first : Slot) (rest : List Slot) : String :=
  String.ofList ((listPieces first rest).flatMap Piece.written)

/-- A list whose items can stand in it. -/
def Listed (first : Slot) (rest : List Slot) : Prop := ∀ slot ∈ first :: rest, slot.Good

instance (first : Slot) (rest : List Slot) : Decidable (Listed first rest) :=
  inferInstanceAs (Decidable (∀ slot ∈ first :: rest, slot.Good))

theorem Listed.first {first : Slot} {rest : List Slot} (h : Listed first rest) : first.Good :=
  h first List.mem_cons_self

theorem Listed.rest {first slot : Slot} {rest : List Slot} (h : Listed first (slot :: rest)) :
    Listed slot rest :=
  fun s hs => h s (List.mem_cons_of_mem _ hs)

/-! ### The characters of a list -/

/-- The characters that a list is written in, its texts and binds apart. -/
def plainChars : List Char :=
  '\'' :: '+' :: '-' :: ',' :: 'x' :: 'X' :: hexDigitChars ++ blankChars ++ opening

theorem Item.Good.text {item : Item} (h : item.Good) :
    ∀ s ∈ item.text?, ':' ∉ s.toList ∧ '\\' ∉ s.toList := by
  intro s hs
  cases item with
  | bind w => cases hs
  | integer sign numeral => cases hs
  | text t =>
      cases hs
      exact h

theorem Item.Good.pieces {item : Item} (h : item.Good) {p : Char → Bool}
    (hplain : plainChars.all p = true)
    (htext : ∀ s ∈ item.text?, ∀ c ∈ s.toList, p c = true) :
    ∀ c, .char c ∈ item.pieces → p c = true := by
  have hp := List.all_eq_true.mp hplain
  intro c hc
  cases item with
  | bind w =>
      cases List.mem_singleton.mp hc
  | integer sign numeral =>
      obtain ⟨d, hd, heq⟩ := List.mem_map.mp hc
      cases heq
      rcases List.mem_append.mp hd with hd | hd
      · cases sign with
        | none => cases hd
        | plus =>
            rw [List.mem_singleton.mp hd]
            exact hp _ (by decide)
        | minus =>
            rw [List.mem_singleton.mp hd]
            exact hp _ (by decide)
      · refine hp _ (List.mem_append_left _ (List.mem_append_left _ ?_))
        exact List.mem_cons_of_mem _ (List.mem_cons_of_mem _ (List.mem_cons_of_mem _
          (List.mem_cons_of_mem _ (h.1.mem_chars _ hd))))
  | text s =>
      obtain ⟨d, hd, heq⟩ := List.mem_map.mp hc
      cases heq
      rcases mem_quotedText hd with rfl | hd
      · exact hp _ (by decide)
      · exact htext s rfl _ hd

theorem Slot.Good.pieces {slot : Slot} (h : slot.Good) {p : Char → Bool}
    (hplain : plainChars.all p = true)
    (htext : ∀ s ∈ slot.item.text?, ∀ c ∈ s.toList, p c = true) :
    ∀ c, .char c ∈ slot.pieces → p c = true := by
  have hblank : ∀ c, isSpace c = true → p c = true := fun c hc =>
    List.all_eq_true.mp hplain c (List.mem_append_left _
      (List.mem_append_right _ (mem_of_isSpace hc)))
  intro c hc
  rcases List.mem_append.mp hc with hc | hc
  · obtain ⟨d, hd, heq⟩ := List.mem_map.mp hc
    cases heq
    exact hblank _ (h.before _ hd)
  · rcases List.mem_append.mp hc with hc | hc
    · exact h.item.pieces hplain htext c hc
    · obtain ⟨d, hd, heq⟩ := List.mem_map.mp hc
      cases heq
      exact hblank _ (h.after _ hd)

/-- What holds of the characters that a list is written in and of those of its texts holds of all
characters between its binds. -/
theorem Listed.pieces {first : Slot} {rest : List Slot} (h : Listed first rest) {p : Char → Bool}
    (hplain : plainChars.all p = true)
    (htext : ∀ slot ∈ first :: rest, ∀ s ∈ slot.item.text?, ∀ c ∈ s.toList, p c = true) :
    ∀ c, .char c ∈ listPieces first rest → p c = true := by
  have hp := List.all_eq_true.mp hplain
  have hslot : ∀ slot ∈ first :: rest, ∀ c, .char c ∈ slot.pieces → p c = true :=
    fun slot hmem => (h slot hmem).pieces hplain (htext slot hmem)
  intro c hc
  rcases List.mem_append.mp hc with hc | hc
  · obtain ⟨d, hd, heq⟩ := List.mem_map.mp hc
    cases heq
    exact hp _ (List.mem_append_right _ hd)
  · rcases List.mem_append.mp hc with hc | hc
    · exact hslot first List.mem_cons_self c hc
    · obtain ⟨slot, hmem, hc⟩ := List.mem_flatMap.mp hc
      rcases List.mem_cons.mp hc with heq | hc
      · cases heq
        exact hp _ (by decide)
      · exact hslot slot (List.mem_cons_of_mem _ hmem) c hc

/-! ## The scan gives the pieces back -/

/-- Characters other than colons can be told from what they are written as, and the last of them
decides whether a bind can begin behind them. -/
theorem legible_append {cs : List Char} {pieces : List Piece} {free : Bool}
    (hcs : ∀ c ∈ cs, c ≠ ':')
    (h : Query.Legible (cs.foldl (fun _ c => Query.canPrecedeBind c) free) pieces) :
    Query.Legible free (cs.map .char ++ pieces) := by
  induction cs generalizing free with
  | nil => exact h
  | cons c cs ih =>
      exact ⟨hcs c List.mem_cons_self, ih (fun d hd => hcs d (List.mem_cons_of_mem _ hd)) h⟩

theorem free_of_blanks {cs : List Char} (h : ∀ c ∈ cs, isSpace c = true) :
    cs.foldl (fun _ c => Query.canPrecedeBind c) true = true := by
  have hall : blankChars.all Query.canPrecedeBind = true := by decide
  induction cs with
  | nil => rfl
  | cons c cs ih =>
      rw [List.foldl_cons, List.all_eq_true.mp hall c (mem_of_isSpace (h c List.mem_cons_self))]
      exact ih fun d hd => h d (List.mem_cons_of_mem _ hd)

theorem Select.Closes.endsName {rest : List Char} (h : Closes rest) : Query.EndsName rest := by
  intro c hc
  have hfalse := h.head_false (p := fun c => Text.isWord c || c == ':') (by decide) c hc
  rw [Bool.or_eq_false_iff, beq_eq_false_iff_ne] at hfalse
  exact hfalse

theorem Slot.Good.ne_colon {slot : Slot} (h : slot.Good) :
    ∀ c, .char c ∈ slot.pieces → c ≠ ':' := by
  have hall := h.pieces (p := (· != ':')) (by decide)
    fun s hs c hc => bne_iff_ne.mpr fun heq => (h.item.text s hs).1 (heq ▸ hc)
  exact fun c hc => bne_iff_ne.mp (hall c hc)

theorem legible_slot {slot : Slot} {pieces : List Piece} (h : slot.Good)
    (hcloses : Closes (pieces.flatMap Piece.written)) (hpieces : ∀ free, Query.Legible free pieces) :
    Query.Legible true (slot.pieces ++ pieces) := by
  have hcolon := h.ne_colon
  unfold Slot.pieces at hcolon ⊢
  simp only [List.mem_append] at hcolon
  have hafter : ∀ free, Query.Legible free (slot.after.map .char ++ pieces) := fun free =>
    legible_append (fun c hc => hcolon c (.inr (.inr (List.mem_map_of_mem hc)))) (hpieces _)
  have hplain : ∀ cs : List Char, slot.item.pieces = cs.map .char →
      Query.Legible true (slot.item.pieces ++ (slot.after.map .char ++ pieces)) := by
    intro cs hcs
    rw [hcs] at hcolon ⊢
    exact legible_append (fun c hc => hcolon c (.inr (.inl (List.mem_map_of_mem hc)))) (hafter _)
  rw [List.append_assoc, List.append_assoc]
  refine legible_append (fun c hc => hcolon c (.inl (List.mem_map_of_mem hc))) ?_
  rw [free_of_blanks h.before]
  cases hitem : slot.item with
  | bind w =>
      have hgood := h.item
      rw [hitem] at hgood
      refine ⟨rfl, hgood.1, fun c hc => (hgood.2 c hc).2, ?_, hafter _⟩
      show Query.EndsName ((slot.after.map Piece.char ++ pieces).flatMap Piece.written)
      rw [List.flatMap_append, Query.flatMap_written_char]
      exact (hcloses.append h.after).endsName
  | integer sign numeral => exact hitem ▸ hplain _ (congrArg Item.pieces hitem)
  | text s => exact hitem ▸ hplain _ (congrArg Item.pieces hitem)

theorem closes_othersPieces {f : Piece → List Char} (hf : ∀ c, f (.char c) = [c])
    (rest : List Slot) : Closes ((othersPieces rest).flatMap f) := by
  cases rest with
  | nil => exact closes_nil
  | cons slot rest =>
      have hcomma : (othersPieces (slot :: rest)).flatMap f =
          ',' :: (slot.pieces ++ othersPieces rest).flatMap f := by
        rw [othersPieces, List.flatMap_cons, List.cons_append, List.flatMap_cons, hf]
        rfl
      rw [hcomma]
      exact closes_comma _

theorem legible_othersPieces {rest : List Slot} (h : ∀ slot ∈ rest, slot.Good) (free : Bool) :
    Query.Legible free (othersPieces rest) := by
  induction rest generalizing free with
  | nil => exact trivial
  | cons slot rest ih =>
      exact ⟨by decide, legible_slot (h slot List.mem_cons_self)
        (closes_othersPieces (fun _ => rfl) rest)
        (ih fun s hs => h s (List.mem_cons_of_mem _ hs))⟩

theorem Listed.scan {first : Slot} {rest : List Slot} (h : Listed first rest) :
    Query.scan (listText first rest) = listPieces first rest := by
  have hopening : opening.all (· != ':') = true := by decide
  rw [Query.scan, listText, String.toList_ofList]
  refine Query.scanFrom_written
    (legible_append (fun c hc => bne_iff_ne.mp (List.all_eq_true.mp hopening c hc)) ?_)
  exact legible_slot h.first (closes_othersPieces (fun _ => rfl) rest)
    (legible_othersPieces fun s hs => h s (List.mem_cons_of_mem _ hs))

theorem Slot.names_pieces (slot : Slot) :
    slot.pieces.filterMap Piece.name? = slot.name?.toList := by
  unfold Slot.pieces Slot.name?
  rw [List.filterMap_append, List.filterMap_append, Query.filterMap_name_char,
    Query.filterMap_name_char, List.append_nil, List.nil_append]
  cases slot.item with
  | bind w => rfl
  | integer sign numeral => exact Query.filterMap_name_char _
  | text s => exact Query.filterMap_name_char _

theorem names_othersPieces (rest : List Slot) :
    (othersPieces rest).filterMap Piece.name? = rest.filterMap Slot.name? := by
  induction rest with
  | nil => rfl
  | cons slot rest ih =>
      rw [othersPieces] at ih
      rw [othersPieces, List.flatMap_cons, List.filterMap_append, ih,
        List.filterMap_cons_none (f := Piece.name?) rfl, slot.names_pieces, List.filterMap_cons]
      cases slot.name? with
      | none => rfl
      | some w => rfl

theorem names_listPieces (first : Slot) (rest : List Slot) :
    (listPieces first rest).filterMap Piece.name? = (first :: rest).filterMap Slot.name? := by
  rw [listPieces, List.filterMap_append, List.filterMap_append,
    Query.filterMap_name_char, first.names_pieces, names_othersPieces, List.nil_append,
    List.filterMap_cons]
  cases first.name? with
  | none => rfl
  | some w => rfl

end Entitlement.Store
