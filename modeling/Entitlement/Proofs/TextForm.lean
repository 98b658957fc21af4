import Entitlement.Proofs.Settings.Selection
import Entitlement.Proofs.Value.Display

/-!
# `Entitlement.Proofs.TextForm` — a text form hides the secret and nothing else

Principals, user records and settings have a text form that is safe to print, because the one field
that is secret is left out.  Two things are asked of it: it must not depend on the secret, and it
must depend on everything else, so that two of them that differ anywhere else never look the same in
a report.  Together they are an iff, for any two of a kind:

| | the text forms are equal iff equal are |
| :-- | :-- |
| principals | the username, the flag and the sequence of authorities |
| user records | the username and the flag |
| settings | all fields but the address of the database |

The first half is that the secret is not among what is written.  The second is that what is written
is read in one way: every name is a literal that shows where it ends, so names that imitate what
stands around them (a quote, a comma, the word `Authority`) are still told from it.  The sequence of
authorities counts with its order and its repetitions.

Passwords are compared nowhere here: two of them may differ in what they are or mean.
-/
namespace Entitlement

open Text

/-! ## Authorities -/

theorem Authority.toList_display (a : Authority) :
    a.display.toList = "Authority(name=".toList ++ ((quoted a.name).toList ++ ")".toList) := by
  have hdisplay : a.display = "Authority(name=" ++ quoted a.name ++ ")" := rfl
  rw [hdisplay]
  simp only [String.toList_append, List.append_assoc]

theorem Authority.display_append_inj {a b : Authority} {x y : List Char} :
    a.display.toList ++ x = b.display.toList ++ y ↔ a = b ∧ x = y := by
  rw [a.toList_display, b.toList_display]
  cases a
  cases b
  simp only [List.append_assoc, List.append_cancel_left_eq, quoted_append_inj, mk.injEq]

/-- An authority begins with the word, not with the parenthesis that closes a sequence. -/
theorem Authority.head_display (a : Authority) : a.display.toList.head? ≠ some ')' := by
  have hhead : a.display.toList.head? = some 'A' := by
    rw [a.toList_display]
    rfl
  rw [hhead]
  decide

theorem authorities_append_inj {as bs : List Authority} {x y : List Char} :
    (displaySequence (as.map Authority.display)).toList ++ x =
        (displaySequence (bs.map Authority.display)).toList ++ y ↔ as = bs ∧ x = y := by
  constructor
  · intro h
    have hreads : ReadsAs (· = ·) Authority.display Authority.display := by
      intro a b x y _ _ hab
      exact Authority.display_append_inj.mp hab
    obtain ⟨hall, hxy⟩ :=
      displaySequence_append_inj hreads Authority.head_display Authority.head_display h
    rw [List.forall₂_eq_eq_eq] at hall
    exact ⟨hall, hxy⟩
  · rintro ⟨rfl, rfl⟩
    rfl

/-! ## Records and principals -/

theorem UserRecord.toList_display (r : UserRecord) :
    r.display.toList = "UserRecord(username=".toList ++ ((quoted r.username).toList ++
      (", enabled=".toList ++ ((displayFlag r.enabled).toList ++ ")".toList))) := by
  have hdisplay : r.display = "UserRecord(username=" ++ quoted r.username ++ ", enabled=" ++
      displayFlag r.enabled ++ ")" := rfl
  rw [hdisplay]
  simp only [String.toList_append, List.append_assoc]

theorem UserRecord.display_eq_iff (r s : UserRecord) :
    r.display = s.display ↔ r.username = s.username ∧ r.enabled = s.enabled := by
  rw [← String.toList_inj, r.toList_display, s.toList_display]
  simp only [List.append_cancel_left_eq, quoted_append_inj, displayFlag_append_inj, and_true]

theorem Principal.toList_display (p : Principal) :
    p.display.toList = "Principal(username=".toList ++ ((quoted p.username).toList ++
      (", enabled=".toList ++ ((displayFlag p.enabled).toList ++ (", authorities=".toList ++
        ((displaySequence (p.authorities.map Authority.display)).toList ++ ")".toList))))) := by
  have hdisplay : p.display = "Principal(username=" ++ quoted p.username ++ ", enabled=" ++
      displayFlag p.enabled ++ ", authorities=" ++
      displaySequence (p.authorities.map Authority.display) ++ ")" := rfl
  rw [hdisplay]
  simp only [String.toList_append, List.append_assoc]

theorem Principal.display_eq_iff (p q : Principal) :
    p.display = q.display ↔
      p.username = q.username ∧ p.enabled = q.enabled ∧ p.authorities = q.authorities := by
  rw [← String.toList_inj, p.toList_display, q.toList_display]
  simp only [List.append_cancel_left_eq, quoted_append_inj, displayFlag_append_inj,
    authorities_append_inj, and_true]

/-! ## Settings -/

namespace Settings

/-- A field as the text form has it. -/
def fieldText (s : Settings) (name : Name) : String := name.key ++ "=" ++ (s.value name).display

theorem value_ofOneForm (s t : Settings) (name : Name) :
    Value.OfOneForm (s.value name) (t.value name) := by
  cases name with
  | apiPort => exact .int _ _
  | usernameBasedPrimaryKey => exact .bool _ _
  | enableAuthorities => exact .bool _ _
  | enableGroups => exact .bool _ _
  | _ => exact .text _ _

theorem Name.key_noEquals (name : Name) : ∀ c ∈ name.key.toList, (c != '=') = true := by
  have hall : ∀ name ∈ Name.all, name.key.toList.all (· != '=') = true := by
    decide +kernel
  exact List.all_eq_true.mp (hall name name.mem_all)

theorem fieldText_readsAs (s t : Settings) :
    ReadsAs (fun m n => m = n ∧ s.value m = t.value n) s.fieldText t.fieldText := by
  intro m n x y hx hy h
  simp only [fieldText, String.toList_append, List.append_assoc] at h
  obtain ⟨hkey, hvalue⟩ := append_inj_of_class m.key_noEquals n.key_noEquals
    (by rintro c ⟨⟩; rfl) (by rintro c ⟨⟩; rfl) h
  obtain rfl := Name.key_injective (String.toList_inj.mp hkey)
  obtain ⟨hsame, hxy⟩ := (value_ofOneForm s t m).display_append_inj hx hy
    (List.append_cancel_left hvalue)
  exact ⟨⟨rfl, hsame⟩, hxy⟩

theorem toList_display (s : Settings) :
    s.display.toList = "Settings(".toList ++
      ((Value.commaSeparated (shownNames.map s.fieldText)).toList ++ [')']) := by
  have hdisplay : s.display =
      "Settings(" ++ Value.commaSeparated (shownNames.map s.fieldText) ++ ")" := rfl
  rw [hdisplay]
  simp only [String.toList_append, List.append_assoc]
  rfl

theorem value_eq_of_display {s t : Settings} (h : s.display = t.display) :
    ∀ name ∈ shownNames, s.value name = t.value name := by
  rw [← String.toList_inj, s.toList_display, t.toList_display] at h
  have hparts := List.append_cancel_left h
  obtain ⟨hall, -⟩ := commaSeparated_append_inj (fieldText_readsAs s t) .stage shownNames.tail
    .stage shownNames.tail (x := []) (y := []) (by rwa [List.append_nil, List.append_nil])
  intro name hname
  exact (List.forall₂_same.mp hall name hname).2

theorem value_of_ne (s : Settings) (url : String) {name : Name} (h : name ≠ .databaseUrl) :
    ({ s with databaseUrl := url } : Settings).value name = s.value name := by
  cases name with
  | databaseUrl => exact absurd rfl h
  | _ => rfl

theorem Stage.word_injective {a b : Stage} (h : a.word = b.word) : a = b := by
  have hall : ∀ a ∈ [Stage.dev, .test, .prod], ∀ b ∈ [Stage.dev, .test, .prod],
      a.word = b.word → a = b := by decide
  exact hall a (by cases a <;> decide) b (by cases b <;> decide) h

theorem ext_value {s t : Settings} (h : ∀ name, s.value name = t.value name) : s = t := by
  cases s
  cases t
  rw [mk.injEq]
  exact ⟨Stage.word_injective (Value.text.inj (h .stage)), Value.text.inj (h .serviceName),
    Value.text.inj (h .logLevel), Value.text.inj (h .apiHost), Value.int.inj (h .apiPort),
    Value.text.inj (h .databaseUrl), Value.text.inj (h .usersQuery),
    Value.text.inj (h .authoritiesQuery), Value.text.inj (h .groupAuthoritiesQuery),
    Value.text.inj (h .rolePrefix), Value.bool.inj (h .usernameBasedPrimaryKey),
    Value.bool.inj (h .enableAuthorities), Value.bool.inj (h .enableGroups)⟩

theorem mem_shownNames {name : Name} : name ∈ shownNames ↔ name ≠ .databaseUrl := by
  simp [shownNames, Name.mem_all]

theorem display_eq_iff (s t : Settings) :
    s.display = t.display ↔ { s with databaseUrl := t.databaseUrl } = t := by
  constructor
  · intro h
    refine ext_value ?_
    intro name
    by_cases hname : name = .databaseUrl
    · subst hname
      rfl
    · rw [value_of_ne s _ hname]
      exact value_eq_of_display h name (mem_shownNames.mpr hname)
  · intro h
    have hshown : shownNames.map s.fieldText = shownNames.map t.fieldText := by
      refine List.map_congr_left ?_
      intro name hname
      have hvalue := value_of_ne s t.databaseUrl (mem_shownNames.mp hname)
      rw [h] at hvalue
      rw [fieldText, fieldText, hvalue]
    rw [← String.toList_inj, s.toList_display, t.toList_display, hshown]

end Settings

/-! ## The statement -/

/-- What a text form of user records and principals tells: all but the password. -/
structure HidesPasswords (form : Entity → String) : Prop where
  /-- Of a principal the username, the flag and the sequence of authorities. -/
  principal : ∀ p q : Principal, form (.principal p) = form (.principal q) ↔
    p.username = q.username ∧ p.enabled = q.enabled ∧ p.authorities = q.authorities
  /-- Of a user record the username and the flag. -/
  user : ∀ r s : UserRecord, form (.user r) = form (.user s) ↔
    r.username = s.username ∧ r.enabled = s.enabled

/-- What the text forms hide, and that they hide nothing else. -/
structure HidesSecrets : Prop where
  /-- The form that shows the kind and the fields. -/
  display : HidesPasswords Entity.display
  /-- The text a record or a principal stands for. -/
  toText : HidesPasswords Entity.toText
  /-- Settings of equal text forms are the same but for the address of the database. -/
  settings : ∀ s t : Settings, s.display = t.display ↔ { s with databaseUrl := t.databaseUrl } = t

/-- The text forms hide the secrets, and nothing else. -/
theorem textForms_hideSecrets : HidesSecrets where
  display := ⟨Principal.display_eq_iff, UserRecord.display_eq_iff⟩
  toText := ⟨Principal.display_eq_iff, UserRecord.display_eq_iff⟩
  settings := Settings.display_eq_iff

/-- One authority whose name imitates the end of one and the beginning of another. -/
example :
    displaySequence ([⟨"a'), Authority(name='b"⟩].map Authority.display) =
        "(Authority(name=\"a'), Authority(name='b\"),)" ∧
      displaySequence ([⟨"a"⟩, ⟨"b"⟩].map Authority.display) =
        "(Authority(name='a'), Authority(name='b'))" := by
  decide +kernel

end Entitlement
