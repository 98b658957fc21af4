import Mathlib.Tactic.SplitIfs
import Entitlement.Text.Quoted

/-!
# `Entitlement.Proofs.Text.Quoted` — a quoted literal is read in one way

A literal ends at its closing quote, and what stands behind it may be anything, so two readings of
one text have to agree on where the literal ends and on what it holds:

    quotedWith shown cs ++ x = quotedWith shown ds ++ y   ↔   cs = ds ∧ x = y

The first character is the enclosing quote and tells which of the two kinds it is.  Behind it the
literal goes on character by character, and each of them is read back before the next is looked at
(`readChar_escape`): a backslash is followed by the character it stands for, by a letter, or by the
digits of a code, whose number the letter fixes.  No character is written with the enclosing quote
in front, so that is where the literal ends.

Nothing is asked of the characters that are shown as themselves: the statement holds of texts and of
ASCII literals alike.
-/
namespace Entitlement.Text

/-! ## Codes -/

def hexValue (c : Char) : Nat := if c.toNat < 97 then c.toNat - 48 else c.toNat - 87

def ofHex (cs : List Char) : Nat := cs.foldl (fun n c => n * 16 + hexValue c) 0

theorem hexValue_hexDigit (n : Nat) : hexValue (hexDigit n) = n % 16 := by
  have hall : ∀ d : Fin 16,
      hexValue (if d.val < 10 then Char.ofNat (48 + d.val) else Char.ofNat (87 + d.val)) =
        d.val := by
    decide
  exact hall ⟨n % 16, Nat.mod_lt n (by decide)⟩

theorem length_hex (width n : Nat) : (hex width n).length = width := by
  induction width generalizing n with
  | zero => rfl
  | succ width ih => rw [hex, List.length_append, ih, List.length_singleton]

theorem ofHex_hex {width n : Nat} (h : n < Nat.pow 16 width) : ofHex (hex width n) = n := by
  induction width generalizing n with
  | zero =>
      have hzero : n = 0 := Nat.lt_one_iff.mp h
      subst hzero
      rfl
  | succ width ih =>
      have hsmall : n / 16 < Nat.pow 16 width := Nat.div_lt_of_lt_mul (by
        rwa [Nat.mul_comm])
      have hlast : ofHex (hex (width + 1) n) =
          ofHex (hex width (n / 16)) * 16 + hexValue (hexDigit n) := by
        simp only [ofHex, hex, List.foldl_append, List.foldl_cons, List.foldl_nil]
      rw [hlast, ih hsmall, hexValue_hexDigit]
      omega

/-! ## One character -/

/-- The character whose code stands in the first digits, and what follows them. -/
def readCode (width : Nat) (cs : List Char) : Char × List Char :=
  (Char.ofNat (ofHex (cs.take width)), cs.drop width)

/-- The character that is written first inside a literal, and what follows it. -/
def readChar : List Char → Option (Char × List Char)
  | [] => none
  | c :: rest =>
    if c = '\\' then
      match rest with
      | [] => none
      | kind :: rest =>
        if kind = 'n' then some ('\n', rest)
        else if kind = 'r' then some ('\r', rest)
        else if kind = 't' then some ('\t', rest)
        else if kind = 'x' then some (readCode 2 rest)
        else if kind = 'u' then some (readCode 4 rest)
        else if kind = 'U' then some (readCode 8 rest)
        else some (kind, rest)
    else some (c, rest)

theorem readChar_cons {c : Char} (h : c ≠ '\\') (rest : List Char) :
    readChar (c :: rest) = some (c, rest) := by
  simp [readChar, h]

theorem readCode_hex (width : Nat) {c : Char} (h : c.toNat < Nat.pow 16 width)
    (rest : List Char) : readCode width (hex width c.toNat ++ rest) = (c, rest) := by
  have hlength := length_hex width c.toNat
  rw [readCode, List.take_left' hlength, List.drop_left' hlength, ofHex_hex h, Char.ofNat_toNat]

theorem readChar_escapeCode (c : Char) (rest : List Char) :
    readChar (escapeCode c.toNat ++ rest) = some (c, rest) := by
  unfold escapeCode
  split
  · rename_i hbyte
    exact congrArg some (readCode_hex 2 hbyte rest)
  · split
    · rename_i htwo
      exact congrArg some (readCode_hex 4 htwo rest)
    · have hall : c.toNat < Nat.pow 16 8 := c.val.toNat_lt
      exact congrArg some (readCode_hex 8 hall rest)

def IsMark (mark : Char) : Prop := mark = '\'' ∨ mark = '"'

theorem isMark_quoteMark (cs : List Char) : IsMark (quoteMark cs) := by
  unfold quoteMark
  split
  · exact .inr rfl
  · exact .inl rfl

section Literal

variable (shown : Char → Bool) {mark : Char}

/-- However a character is written, it is read back. -/
theorem readChar_escape (hmark : IsMark mark) (c : Char) (rest : List Char) :
    readChar (escape shown mark c ++ rest) = some (c, rest) := by
  unfold escape
  split_ifs with hguarded hfeed hreturn htab
  · -- A quote or a backslash: neither of them is one of the letters.
    rcases hguarded with rfl | rfl
    · rfl
    · rcases hmark with rfl | rfl
      · rfl
      · rfl
  · subst hfeed
    rfl
  · subst hreturn
    rfl
  · subst htab
    rfl
  · exact readChar_cons (not_or.mp hguarded).1 rest
  · exact readChar_escapeCode c rest

/-- No character is written with the enclosing quote in front. -/
theorem escape_append_ne (hmark : IsMark mark) (c : Char) (rest x : List Char) :
    escape shown mark c ++ rest ≠ mark :: x := by
  have hbackslash : mark ≠ '\\' := by
    rcases hmark with rfl | rfl
    · decide
    · decide
  intro h
  -- Only the quote itself would be read back from there, and it is written with a backslash.
  have hread := readChar_escape shown hmark c rest
  rw [h, readChar_cons hbackslash] at hread
  obtain ⟨rfl, -⟩ := Prod.mk.inj (Option.some.inj hread)
  rw [escape, if_pos (.inr rfl)] at h
  exact hbackslash (List.cons.inj h).1.symm

/-! ## The whole literal -/

theorem flatMap_escape_append_inj (hmark : IsMark mark) {cs ds x y : List Char}
    (h : cs.flatMap (escape shown mark) ++ mark :: x =
      ds.flatMap (escape shown mark) ++ mark :: y) : cs = ds ∧ x = y := by
  induction cs generalizing ds with
  | nil =>
      cases ds with
      | nil => exact ⟨rfl, (List.cons.inj h).2⟩
      | cons d ds =>
          rw [List.flatMap_cons, List.append_assoc] at h
          exact absurd h.symm (escape_append_ne shown hmark d _ x)
  | cons c cs ih =>
      cases ds with
      | nil =>
          rw [List.flatMap_cons, List.append_assoc] at h
          exact absurd h (escape_append_ne shown hmark c _ y)
      | cons d ds =>
          rw [List.flatMap_cons, List.flatMap_cons, List.append_assoc, List.append_assoc] at h
          have hread := congrArg readChar h
          rw [readChar_escape shown hmark, readChar_escape shown hmark] at hread
          obtain ⟨rfl, hrest⟩ := Prod.mk.inj (Option.some.inj hread)
          obtain ⟨rfl, hxy⟩ := ih hrest
          exact ⟨rfl, hxy⟩

theorem quotedWith_append_inj {cs ds x y : List Char} :
    quotedWith shown cs ++ x = quotedWith shown ds ++ y ↔ cs = ds ∧ x = y := by
  constructor
  · intro h
    simp only [quotedWith, List.cons_append, List.append_assoc] at h
    -- The enclosing quote is of one kind, and only then can the insides be compared.
    obtain ⟨hmark, hinside⟩ := List.cons.inj h
    rw [← hmark] at hinside
    exact flatMap_escape_append_inj shown (isMark_quoteMark cs) hinside
  · rintro ⟨rfl, rfl⟩
    rfl

end Literal

theorem quoted_append_inj {s t : String} {x y : List Char} :
    (quoted s).toList ++ x = (quoted t).toList ++ y ↔ s = t ∧ x = y := by
  simp only [quoted, String.toList_ofList, quotedWith_append_inj, String.toList_inj]

end Entitlement.Text
