import Entitlement.Text.Character

/-!
# `Entitlement.Proofs.Text.Run` — where a run of one class ends, and what is left between two

Names, numbers and blanks are read as long as the characters are of one class.  A run of them that
stands in front of a character of another class, or of nothing, is read exactly:

    takeWhile p (cs ++ x) = cs        dropWhile p (cs ++ x) = x

So two such runs in front of two such rests, when they make the same text, are the same run and the
same rest.

`Text.trim` drops a run from the front, turns the list around and drops again.  What it leaves is
told without a direction by `Trimmed`: the text is a word with blanks on both sides, and the word
neither begins nor ends with one.  The two say the same (`trim_eq_iff`), and everything else about
trimming is read off from that: blanks that are added at the ends are lost again, and a renaming of
characters that keeps the blanks apart commutes with it.
-/
namespace Entitlement.Text

variable {p : Char → Bool} {cs ds w x y : List Char}

/-! ## One run in front -/

theorem takeWhile_append_eq (hcs : ∀ c ∈ cs, p c = true)
    (hx : ∀ c, x.head? = some c → p c = false) : (cs ++ x).takeWhile p = cs := by
  rw [List.takeWhile_append_of_pos hcs]
  cases x with
  | nil => exact List.append_nil cs
  | cons c rest =>
      rw [List.takeWhile_cons_of_neg (Bool.eq_false_iff.mp (hx c rfl)), List.append_nil]

theorem dropWhile_append_eq (hcs : ∀ c ∈ cs, p c = true)
    (hx : ∀ c, x.head? = some c → p c = false) : (cs ++ x).dropWhile p = x := by
  rw [List.dropWhile_append_of_pos hcs]
  cases x with
  | nil => rfl
  | cons c rest => exact List.dropWhile_cons_of_neg (Bool.eq_false_iff.mp (hx c rfl))

theorem append_inj_of_class (hcs : ∀ c ∈ cs, p c = true) (hds : ∀ d ∈ ds, p d = true)
    (hx : ∀ c, x.head? = some c → p c = false) (hy : ∀ c, y.head? = some c → p c = false)
    (h : cs ++ x = ds ++ y) : cs = ds ∧ x = y := by
  have hrun : cs = ds := by
    rw [← takeWhile_append_eq hcs hx, h, takeWhile_append_eq hds hy]
  subst hrun
  exact ⟨rfl, List.append_cancel_left h⟩

/-! ## A word between two runs -/

/-- The list is the word with characters of a class on both sides, and the word neither begins nor
ends with one. -/
structure Trimmed (p : Char → Bool) (cs w : List Char) : Prop where
  /-- What was taken away. -/
  between : ∃ l r, cs = l ++ (w ++ r) ∧ (∀ c ∈ l, p c = true) ∧ ∀ c ∈ r, p c = true
  /-- The word begins with none of the class. -/
  front : ∀ c rest, w = c :: rest → p c = false
  /-- The word ends with none of the class. -/
  back : ∀ c rest, w = rest ++ [c] → p c = false

theorem dropWhile_eq_self (h : ∀ c rest, w = c :: rest → p c = false) : w.dropWhile p = w := by
  cases w with
  | nil => rfl
  | cons c rest => exact List.dropWhile_cons_of_neg (Bool.eq_false_iff.mp (h c rest rfl))

theorem not_of_dropWhile_eq {c : Char} {rest : List Char} (h : cs.dropWhile p = c :: rest) :
    p c = false := by
  have hhead := List.head?_dropWhile_not p cs
  rw [h] at hhead
  exact hhead

theorem trimmed_trim (p : Char → Bool) (cs : List Char) : Trimmed p cs (trim p cs) := by
  -- The list is cut twice: in front of what the first dropping leaves, and behind the word in it.
  have hword : trim p cs ++ ((cs.dropWhile p).reverse.takeWhile p).reverse = cs.dropWhile p := by
    rw [trim, ← List.reverse_append, List.takeWhile_append_dropWhile, List.reverse_reverse]
  refine ⟨⟨cs.takeWhile p, ((cs.dropWhile p).reverse.takeWhile p).reverse, ?_, ?_, ?_⟩, ?_, ?_⟩
  · rw [hword, List.takeWhile_append_dropWhile]
  · exact fun c hc => List.all_eq_true.mp List.all_takeWhile c hc
  · exact fun c hc => List.all_eq_true.mp List.all_takeWhile c (List.mem_reverse.mp hc)
  · intro c rest hw
    rw [hw, List.cons_append] at hword
    exact not_of_dropWhile_eq hword.symm
  · intro c rest hw
    have hrev := congrArg List.reverse hw
    rw [trim, List.reverse_reverse, List.reverse_append] at hrev
    exact not_of_dropWhile_eq hrev

theorem Trimmed.eq_trim (h : Trimmed p cs w) : trim p cs = w := by
  obtain ⟨⟨l, r, rfl, hl, hr⟩, hfront, hback⟩ := h
  have hwr : (w ++ r).dropWhile p = w ++ r ∨ w = [] := by
    cases w with
    | nil => exact .inr rfl
    | cons c rest =>
        exact .inl (List.dropWhile_cons_of_neg (Bool.eq_false_iff.mp (hfront c rest rfl)))
  have hrev : w.reverse.dropWhile p = w.reverse := by
    refine dropWhile_eq_self ?_
    intro c rest hw
    refine hback c rest.reverse ?_
    rw [← List.reverse_reverse w, hw, List.reverse_cons]
  rw [trim, List.dropWhile_append_of_pos hl]
  rcases hwr with hkept | rfl
  · rw [hkept, List.reverse_append,
      List.dropWhile_append_of_pos fun c hc => hr c (List.mem_reverse.mp hc), hrev,
      List.reverse_reverse]
  · rw [List.nil_append, ← List.append_nil r, List.dropWhile_append_of_pos hr]
    rfl

theorem trim_eq_iff : trim p cs = w ↔ Trimmed p cs w := by
  constructor
  · rintro rfl
    exact trimmed_trim p cs
  · exact Trimmed.eq_trim

theorem trim_padded {l r : List Char} (hl : ∀ c ∈ l, p c = true) (hr : ∀ c ∈ r, p c = true) :
    trim p (l ++ (cs ++ r)) = trim p cs := by
  obtain ⟨⟨l', r', hcs, hl', hr'⟩, hfront, hback⟩ := trimmed_trim p cs
  refine Trimmed.eq_trim ⟨⟨l ++ l', r' ++ r, ?_, ?_, ?_⟩, hfront, hback⟩
  · have hboth := congrArg (fun ds => l ++ (ds ++ r)) hcs
    simpa only [List.append_assoc] using hboth
  · exact fun c hc => (List.mem_append.mp hc).elim (hl c) (hl' c)
  · exact fun c hc => (List.mem_append.mp hc).elim (hr' c) (hr c)

theorem trim_map {f : Char → Char} (hf : ∀ c, p (f c) = p c) (cs : List Char) :
    trim p (cs.map f) = (trim p cs).map f := by
  have hclass : p ∘ f = p := funext hf
  simp only [trim, List.dropWhile_map, ← List.map_reverse, hclass]

end Entitlement.Text
