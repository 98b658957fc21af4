import Mathlib.Data.List.TakeWhile
import Entitlement.Text.Template

/-!
# `Entitlement.Proofs.Text.Template` — expanding a template piece by piece

A template is expanded from left to right, so its expansion is the expansion of its pieces in a row.
Two pieces are treated here: a text whose braces are written twice, which stands for the text, and
the field of the one name that has a value, which stands for that value whatever is written in it.

    expand f (doubled cs ++ rest)  = cs    ++ expand f rest
    expand f ("{name}" ++ rest)    = value ++ expand f rest

Neither equation asks anything of `rest`.  Three opening braces in a row are therefore never in
doubt: those of a text come in pairs, the pair is taken first, and what is left over opens the
field; behind a field the first closing brace is its own.  Nor does either look at what was put in
front, so the braces of a value do not meet those of the template.

So pieces in a row are expanded to what they stand for, in front of any template whatever
(`expand_append_pieces`).
-/
namespace Entitlement.Text

theorem forall_mem_of_all {p : Char → Prop} [DecidablePred p] {cs : List Char}
    (h : (cs.all fun c => decide (p c)) = true) : ∀ c ∈ cs, p c :=
  fun c hc => of_decide_eq_true (List.all_eq_true.mp h c hc)

theorem map_append_map_append (result : Except TemplateError (List Char)) (cs ds : List Char) :
    (result.map (ds ++ ·)).map (cs ++ ·) = result.map (cs ++ ds ++ ·) := by
  cases result with
  | error e => rfl
  | ok es => simp only [Except.map, List.append_assoc]

theorem map_nil_append (result : Except TemplateError (List Char)) :
    result.map ([] ++ ·) = result := by
  cases result with
  | error e => rfl
  | ok es => rfl

/-! ## A text whose braces are written twice -/

/-- A character that neither opens a field nor closes one. -/
def isPlain (c : Char) : Prop := c ≠ '\x7b' ∧ c ≠ '\x7d'

instance : DecidablePred isPlain := fun _ => inferInstanceAs (Decidable (_ ∧ _))

def doubled (cs : List Char) : List Char := cs.flatMap fun c => if isPlain c then [c] else [c, c]

theorem doubled_cons (c : Char) (cs : List Char) :
    doubled (c :: cs) = (if isPlain c then [c] else [c, c]) ++ doubled cs := rfl

theorem doubled_of_isPlain {cs : List Char} (h : ∀ c ∈ cs, isPlain c) : doubled cs = cs := by
  induction cs with
  | nil => rfl
  | cons c cs ih =>
      have hc : isPlain c := h c List.mem_cons_self
      rw [doubled_cons, if_pos hc, ih fun d hd => h d (List.mem_cons_of_mem _ hd)]
      rfl

theorem expandWith_nil (f : Field → Except TemplateError (List Char)) :
    expandWith f [] = .ok [] := by
  rw [expandWith]

theorem expandWith_cons_plain (f : Field → Except TemplateError (List Char)) {c : Char}
    (hc : isPlain c) (rest : List Char) :
    expandWith f (c :: rest) = (expandWith f rest).map ([c] ++ ·) := by
  rw [expandWith.eq_def]
  simp only [if_neg hc.1, if_neg hc.2, List.singleton_append]

theorem expandWith_cons_brace (f : Field → Except TemplateError (List Char)) {c : Char}
    (hc : ¬isPlain c) (rest : List Char) :
    expandWith f (c :: c :: rest) = (expandWith f rest).map ([c] ++ ·) := by
  have hbrace : c = '\x7b' ∨ c = '\x7d' := Decidable.or_iff_not_not_and_not.mpr hc
  rw [expandWith.eq_def]
  rcases hbrace with rfl | rfl
  · simp
  · simp

theorem expandWith_append_doubled (f : Field → Except TemplateError (List Char))
    (cs rest : List Char) :
    expandWith f (doubled cs ++ rest) = (expandWith f rest).map (cs ++ ·) := by
  induction cs with
  | nil => exact (map_nil_append _).symm
  | cons c cs ih =>
      have hfront : expandWith f (doubled (c :: cs) ++ rest) =
          (expandWith f (doubled cs ++ rest)).map ([c] ++ ·) := by
        rw [doubled_cons]
        by_cases hc : isPlain c
        · rw [if_pos hc]
          exact expandWith_cons_plain f hc _
        · rw [if_neg hc]
          exact expandWith_cons_brace f hc _
      rw [hfront, ih, map_append_map_append]
      rfl

/-! ## A field that is a name -/

/-- A character that a name can be made of: it begins no other part of a field. -/
def isNamePart (c : Char) : Prop :=
  c ≠ '\x7b' ∧ c ≠ '\x7d' ∧ c ≠ ':' ∧ c ≠ '!' ∧ c ≠ '.' ∧ c ≠ '['

instance : DecidablePred isNamePart := fun _ => inferInstanceAs (Decidable (_ ∧ _))

theorem spanPath_name (rest : List Char) :
    ∀ name : List Char, (∀ c ∈ name, isNamePart c) →
      spanPath false (name ++ '\x7d' :: rest) = .ok (name, '\x7d', rest)
  | [], _ => by simp [spanPath]
  | c :: name, hname => by
      obtain ⟨h₁, h₂, h₃, h₄, -, h₆⟩ := hname c List.mem_cons_self
      have hbracket : (c == '[') = false := beq_eq_false_iff_ne.mpr h₆
      have ih := spanPath_name rest name fun d hd => hname d (List.mem_cons_of_mem _ hd)
      simp [spanPath, h₁, h₂, h₃, h₄, hbracket, ih]

theorem spanField_name {name : List Char} (hname : ∀ c ∈ name, isNamePart c) (rest : List Char) :
    spanField (name ++ '\x7d' :: rest) = .ok (⟨name, none, []⟩, rest) := by
  simp [spanField, spanPath_name rest name hname, spanTail]

/-- A name, as a template names a value: not empty, made of name characters, and no number. -/
structure IsName (name : List Char) : Prop where
  nonempty : name ≠ []
  parts : ∀ c ∈ name, isNamePart c
  noNumber : position? name = .ok none

theorem IsName.takeWhile {name : List Char} (h : IsName name) :
    name.takeWhile (!beginsStep ·) = name ∧ name.dropWhile (!beginsStep ·) = [] := by
  have hall : ∀ c ∈ name, (!beginsStep c) = true := by
    intro c hc
    obtain ⟨-, -, -, -, h₅, h₆⟩ := h.parts c hc
    simp [beginsStep, h₅, h₆]
  exact ⟨List.takeWhile_eq_self_iff.mpr hall, List.dropWhile_eq_nil_iff.mpr hall⟩

theorem Field.expand_name (lay : List Char → Except TemplateError (List Char)) {name : List Char}
    (h : IsName name) (value : List Char) :
    Field.expand lay name value ⟨name, none, []⟩ = .ok value := by
  have hitem : lookUp name value name = .ok (.text value) := by
    simp only [lookUp, h.takeWhile.1, h.takeWhile.2, h.noNumber, List.isEmpty_iff, h.nonempty,
      if_false, if_true]
    rw [Item.follow]
  simp only [Field.expand, hitem, convert, bind, Except.bind, List.not_mem_nil, if_false]
  rfl

theorem expandWith_field (lay : List Char → Except TemplateError (List Char)) {name : List Char}
    (h : IsName name) (value rest : List Char) :
    expandWith (Field.expand lay name value) ('\x7b' :: (name ++ '\x7d' :: rest)) =
      (expandWith (Field.expand lay name value) rest).map (value ++ ·) := by
  cases name with
  | nil => exact absurd rfl h.nonempty
  | cons c name =>
      have hc : c ≠ '\x7b' := (h.parts c List.mem_cons_self).1
      have hspan : spanField (c :: (name ++ '\x7d' :: rest)) = .ok (⟨c :: name, none, []⟩, rest) :=
        spanField_name h.parts rest
      rw [expandWith.eq_def]
      simp only [List.cons_append, Char.reduceEq, if_false, if_true, if_neg hc]
      split
      · rename_i heq
        rw [hspan] at heq
        cases heq
      · rename_i field rest' heq
        rw [hspan] at heq
        cases heq
        rw [Field.expand_name lay h value]

/-! ## Pieces in a row -/

/-- A piece of a template: a text that is meant as it is, or the field of the value. -/
inductive Piece where
  | literal (cs : List Char)
  | field
deriving DecidableEq, Repr

def Piece.written (name : List Char) : Piece → List Char
  | .literal cs => doubled cs
  | .field => '\x7b' :: (name ++ ['\x7d'])

def Piece.shown (value : List Char) : Piece → List Char
  | .literal cs => cs
  | .field => value

theorem expandWith_append_piece (lay : List Char → Except TemplateError (List Char))
    {name : List Char} (h : IsName name) (value : List Char) (piece : Piece) (rest : List Char) :
    expandWith (Field.expand lay name value) (piece.written name ++ rest) =
      (expandWith (Field.expand lay name value) rest).map (piece.shown value ++ ·) := by
  cases piece with
  | literal cs => exact expandWith_append_doubled _ cs rest
  | field =>
      have hfield : Piece.field.written name ++ rest = '\x7b' :: (name ++ '\x7d' :: rest) := by
        simp [Piece.written]
      rw [hfield, expandWith_field lay h value rest]
      rfl

/-- Pieces in front of any template, one that cannot be expanded included. -/
theorem expandWith_append_pieces (lay : List Char → Except TemplateError (List Char))
    {name : List Char} (h : IsName name) (value : List Char) (pieces : List Piece)
    (rest : List Char) :
    expandWith (Field.expand lay name value) (pieces.flatMap (Piece.written name) ++ rest) =
      (expandWith (Field.expand lay name value) rest).map
        (pieces.flatMap (Piece.shown value) ++ ·) := by
  induction pieces with
  | nil => exact (map_nil_append _).symm
  | cons piece pieces ih =>
      rw [List.flatMap_cons, List.append_assoc, expandWith_append_piece lay h value piece, ih,
        map_append_map_append]
      rfl

theorem expand_append_pieces {name : String} (h : IsName name.toList) (value : String)
    (pieces : List Piece) (rest : String) :
    expand name value (String.ofList (pieces.flatMap (Piece.written name.toList)) ++ rest) =
      (expand name value rest).map
        (String.ofList (pieces.flatMap (Piece.shown value.toList)) ++ ·) := by
  have hlist := expandWith_append_pieces (expandLevels name.toList value.toList 1) h value.toList
    pieces rest.toList
  simp only [expand, String.toList_append, String.toList_ofList, expandLevels] at hlist ⊢
  rw [hlist]
  cases expandWith (Field.expand _ name.toList value.toList) rest.toList with
  | error e => rfl
  | ok cs => simp only [Except.map, String.ofList_append]

end Entitlement.Text
