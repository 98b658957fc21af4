import Mathlib.Data.List.Basic
import Mathlib.Data.List.Nodup
import Entitlement.Settings.Source

/-!
# `Entitlement.Proofs.Settings.Selection` — every field minds its own value

Settings are built from an environment and keywords.  Two things are told apart here, and each is a
matter of one field alone:

| | |
| :-- | :-- |
| what a field takes | `Takes`: the value of its keyword, else of its variable, else nothing |
| what comes of it | `Name.outcome`: the value read as its type demands, or else the default |

Building puts the thirteen outcomes together (`made_ofTaken`).  If none of them is an error, and every
keyword is the name of a field, the settings hold what came of each field; otherwise all errors are
reported, those of the fields in their order and then those of the keywords in theirs.

Two things are asked of what is given.  No two variables have names that differ in case only, so that
the order of an environment does not matter; and a keyword that is no name of a field differs from one
in more than case and is no option either.  The names of variables may be spelled in any case,
including the capitals beyond ASCII that have ASCII small letters.
-/
namespace Entitlement.Settings

/-! ## One field -/

def Name.read : Name → Value → Except IssueKind Value
  | .stage, v => (readStage v).map fun stage => .text stage.word
  | .apiPort, v => (readInt v).map .int
  | .usernameBasedPrimaryKey, v => (readFlag v).map .bool
  | .enableAuthorities, v => (readFlag v).map .bool
  | .enableGroups, v => (readFlag v).map .bool
  | _, v => (readText v).map .text

/-- What comes of a field for what it takes; nothing leaves the default. -/
def Name.outcome (name : Name) : Option Value → Except IssueKind Value
  | none => .ok (({} : Settings).value name)
  | some v => name.read v

def Name.issue? (name : Name) (o : Option Value) : Option Issue :=
  match name.outcome o with
  | .ok _ => none
  | .error kind => some ⟨name.key, kind⟩

theorem Name.mem_all (name : Name) : name ∈ Name.all := by
  cases name <;> decide

theorem Name.key_injective {a b : Name} (h : a.key = b.key) : a = b := by
  have hall : ∀ a ∈ Name.all, ∀ b ∈ Name.all, a.key = b.key → a = b := by decide +kernel
  exact hall a a.mem_all b b.mem_all h

theorem Name.issue?_eq_none_iff {name : Name} {o : Option Value} :
    name.issue? o = none ↔ ∃ w, name.outcome o = .ok w := by
  unfold issue?
  cases name.outcome o with
  | ok w => exact ⟨fun _ => ⟨w, rfl⟩, fun _ => rfl⟩
  | error kind => exact ⟨nofun, fun ⟨_, h⟩ => nomatch h⟩

theorem Name.issue?_eq_some_iff {name : Name} {o : Option Value} {issue : Issue} :
    name.issue? o = some issue ↔
      issue.name = name.key ∧ name.outcome o = .error issue.kind := by
  obtain ⟨key, kind⟩ := issue
  unfold issue?
  cases name.outcome o with
  | ok w => exact ⟨nofun, fun ⟨_, h⟩ => nomatch h⟩
  | error kind' =>
      constructor
      · rintro ⟨⟩
        exact ⟨rfl, rfl⟩
      · rintro ⟨rfl, ⟨⟩⟩
        rfl

/-! ## All fields -/

section Made

variable (take : Name → Option Value)

def fieldIssues : List Issue := Name.all.filterMap fun name => name.issue? (take name)

/-- How settings are made of what their fields take, where something else may be wrong as well. -/
inductive Made (further : List Issue) : Except (List Issue) Settings → Prop
  | settings {s : Settings} : (∀ name : Name, name.outcome (take name) = .ok (s.value name)) →
      further = [] → Made further (.ok s)
  | issues : fieldIssues take ++ further ≠ [] → Made further (.error (fieldIssues take ++ further))

/-- A field is made by its reader, whatever the type of what it holds. -/
theorem field_agrees {α : Type} (read : Value → Except IssueKind α) (default : α) (name : Name)
    (wrap : α → Value) (hread : ∀ v, name.read v = (read v).map wrap)
    (hdefault : ({} : Settings).value name = wrap default) :
    (field read default name take).2 = (name.issue? (take name)).toList ∧
      (name.issue? (take name) = none →
        name.outcome (take name) = .ok (wrap (field read default name take).1)) := by
  unfold field Name.issue? Name.outcome
  cases take name with
  | none => exact ⟨rfl, fun _ => congrArg Except.ok hdefault⟩
  | some v =>
      dsimp only
      rw [hread]
      cases read v with
      | ok a => exact ⟨rfl, fun _ => rfl⟩
      | error kind => exact ⟨rfl, nofun⟩

theorem fieldIssues_append (further : List Issue) :
    let issues (name : Name) := (name.issue? (take name)).toList
    fieldIssues take ++ further =
      issues .stage ++ issues .serviceName ++ issues .logLevel ++ issues .apiHost ++
        issues .apiPort ++ issues .databaseUrl ++ issues .usersQuery ++
        issues .authoritiesQuery ++ issues .groupAuthoritiesQuery ++ issues .rolePrefix ++
        issues .usernameBasedPrimaryKey ++ issues .enableAuthorities ++
        issues .enableGroups ++ further := by
  simp only [fieldIssues, List.filterMap_eq_flatMap_toList, Name.all, List.flatMap_cons,
    List.flatMap_nil, List.append_nil, List.append_assoc]

theorem made_ofTaken (further : List Issue) : Made take further (ofTaken take further) := by
  -- One fact for each field: its issues, and what it holds where there are none.
  have stage := field_agrees take readStage _ .stage (fun stage => .text stage.word)
    (fun _ => rfl) rfl
  have port := field_agrees take readInt _ .apiPort .int (fun _ => rfl) rfl
  have service := field_agrees take readText _ .serviceName .text (fun _ => rfl) rfl
  have level := field_agrees take readText _ .logLevel .text (fun _ => rfl) rfl
  have host := field_agrees take readText _ .apiHost .text (fun _ => rfl) rfl
  have url := field_agrees take readText _ .databaseUrl .text (fun _ => rfl) rfl
  have users := field_agrees take readText _ .usersQuery .text (fun _ => rfl) rfl
  have authorities := field_agrees take readText _ .authoritiesQuery .text (fun _ => rfl) rfl
  have groups := field_agrees take readText _ .groupAuthoritiesQuery .text (fun _ => rfl) rfl
  have rolePrefix := field_agrees take readText _ .rolePrefix .text (fun _ => rfl) rfl
  have primaryKey := field_agrees take readFlag _ .usernameBasedPrimaryKey .bool (fun _ => rfl) rfl
  have direct := field_agrees take readFlag _ .enableAuthorities .bool (fun _ => rfl) rfl
  have grouped := field_agrees take readFlag _ .enableGroups .bool (fun _ => rfl) rfl
  unfold ofTaken
  dsimp only
  rw [stage.1, service.1, level.1, host.1, port.1, url.1, users.1, authorities.1, groups.1,
    rolePrefix.1, primaryKey.1, direct.1, grouped.1, ← fieldIssues_append]
  cases hall : fieldIssues take ++ further with
  | cons issue rest =>
      have hmade : Made take further (.error (fieldIssues take ++ further)) := by
        refine .issues ?_
        rw [hall]
        exact List.cons_ne_nil _ _
      rwa [hall] at hmade
  | nil =>
      obtain ⟨hfields, hfurther⟩ := List.append_eq_nil_iff.mp hall
      have hnone : ∀ name : Name, name.issue? (take name) = none := by
        intro name
        exact List.filterMap_eq_nil_iff.mp hfields name name.mem_all
      refine .settings (fun name => ?_) hfurther
      cases name with
      | stage => exact stage.2 (hnone _)
      | serviceName => exact service.2 (hnone _)
      | logLevel => exact level.2 (hnone _)
      | apiHost => exact host.2 (hnone _)
      | apiPort => exact port.2 (hnone _)
      | databaseUrl => exact url.2 (hnone _)
      | usersQuery => exact users.2 (hnone _)
      | authoritiesQuery => exact authorities.2 (hnone _)
      | groupAuthoritiesQuery => exact groups.2 (hnone _)
      | rolePrefix => exact rolePrefix.2 (hnone _)
      | usernameBasedPrimaryKey => exact primaryKey.2 (hnone _)
      | enableAuthorities => exact direct.2 (hnone _)
      | enableGroups => exact grouped.2 (hnone _)

end Made

/-! ## What is given -/

/-- No two variables have names that differ in case only. -/
def Environment.Distinct (environment : Environment) : Prop :=
  (environment.map fun var => Text.lowerName var.1).Nodup

/-- The name of a variable is that of a field behind `PRINCIPALS_`, in any case. -/
def Spells (given : String) (name : Name) : Prop :=
  Text.lowerName given = Text.lowerName ("PRINCIPALS_" ++ name.key)

def Environment.Holds (environment : Environment) (name : Name) (value : String) : Prop :=
  ∃ given, (given, value) ∈ environment ∧ Spells given name

/-- Whether a keyword is the name of a field, as it is written. -/
def IsKey (keyword : String) : Prop := ∃ name ∈ Name.all, keyword = name.key

instance : DecidablePred IsKey := fun keyword =>
  inferInstanceAs (Decidable (∃ name ∈ Name.all, keyword = name.key))

/-- Every keyword is the name of a field as it is written, or in no case and no option. -/
def Keywords.Proper (keywords : Keywords) : Prop :=
  ∀ kw ∈ keywords, IsKey kw.1 ∨
    (∀ name ∈ Name.all, Text.lowerName kw.1 ≠ name.key) ∧ kw.1.toList.head? ≠ some '_'

/-- The keywords that are no names of fields, in the order in which they are given. -/
def Keywords.unknown (keywords : Keywords) : Keywords := keywords.filter fun kw => ¬IsKey kw.1

inductive Takes (environment : Environment) (keywords : Keywords) (name : Name) :
    Option Value → Prop
  | byKeyword {v : Value} : keywords.lookup name.key = some v →
      Takes environment keywords name (some v)
  | byVariable {value : String} : keywords.lookup name.key = none → environment.Holds name value →
      Takes environment keywords name (some (.text value))
  | nothing : keywords.lookup name.key = none → (∀ value, ¬environment.Holds name value) →
      Takes environment keywords name none

/-! ## Variables -/

theorem Options.names_iff {given : String} {name : Name} :
    ({} : Options).names given name = true ↔ Spells given name :=
  beq_iff_eq

theorem Environment.value?_eq {environment : Environment} {name : Name} :
    environment.value? {} name =
      (environment.reverse.find? fun var => ({} : Options).names var.1 name).map
        fun var => .text var.2 := by
  rw [Environment.value?, List.findRev?_eq_find?_reverse]
  rfl

theorem Environment.Distinct.unique {environment : Environment} (h : environment.Distinct)
    {name : Name} {var var' : String × String} (hvar : var ∈ environment)
    (hvar' : var' ∈ environment) (hname : Spells var.1 name) (hname' : Spells var'.1 name) :
    var = var' :=
  List.inj_on_of_nodup_map h hvar hvar' (hname.trans hname'.symm)

theorem Environment.Distinct.value?_eq_some_iff {environment : Environment}
    (h : environment.Distinct) {name : Name} {v : Value} :
    environment.value? {} name = some v ↔
      ∃ value, v = .text value ∧ environment.Holds name value := by
  rw [Environment.value?_eq, Option.map_eq_some_iff]
  constructor
  · rintro ⟨var, hfind, rfl⟩
    have hmem := List.mem_reverse.mp (List.mem_of_find?_eq_some hfind)
    have hnames := List.find?_some hfind
    exact ⟨var.2, rfl, var.1, hmem, Options.names_iff.mp hnames⟩
  · rintro ⟨value, rfl, given, hmem, hspells⟩
    cases hfind : environment.reverse.find? fun var => ({} : Options).names var.1 name with
    | none =>
        have hnot := List.find?_eq_none.mp hfind _ (List.mem_reverse.mpr hmem)
        exact absurd (Options.names_iff.mpr hspells) hnot
    | some var =>
        have hvar := List.mem_reverse.mp (List.mem_of_find?_eq_some hfind)
        have hnames := List.find?_some hfind
        have hsame : var = (given, value) :=
          h.unique hvar hmem (Options.names_iff.mp hnames) hspells
        exact ⟨var, rfl, by rw [hsame]⟩

theorem Environment.value?_eq_none_iff {environment : Environment} {name : Name} :
    environment.value? {} name = none ↔ ∀ value, ¬environment.Holds name value := by
  rw [Environment.value?_eq, Option.map_eq_none_iff, List.find?_eq_none]
  constructor
  · rintro hnone value ⟨given, hmem, hspells⟩
    exact hnone _ (List.mem_reverse.mpr hmem) (Options.names_iff.mpr hspells)
  · rintro hnone var hmem hnames
    exact hnone var.2 ⟨var.1, List.mem_reverse.mp hmem, Options.names_iff.mp hnames⟩

/-! ## Keywords -/

theorem Name.lowerName_key (name : Name) : Text.lowerName name.key = name.key := by
  have hall : ∀ name ∈ Name.all, Text.lowerName name.key = name.key := by decide +kernel
  exact hall name name.mem_all

theorem IsKey.head? {keyword : String} (h : IsKey keyword) : keyword.toList.head? ≠ some '_' := by
  obtain ⟨name, hname, rfl⟩ := h
  have hall : ∀ name ∈ Name.all, name.key.toList.head? ≠ some '_' := by decide +kernel
  exact hall name hname

theorem head?_of_isOption {keyword : String} (h : isOption keyword = true) :
    keyword.toList.head? = some '_' := by
  have hall : ∀ option ∈ readingOptions ++ idleOptions, option.toList.head? = some '_' := by
    decide +kernel
  rw [isOption, Bool.or_eq_true, List.contains_iff_mem, List.contains_iff_mem] at h
  exact hall keyword (List.mem_append.mpr h)

section Proper

variable {keywords : Keywords} (h : keywords.Proper)
include h

theorem Keywords.Proper.head? {kw : String × Value} (hkw : kw ∈ keywords) :
    kw.1.toList.head? ≠ some '_' := by
  rcases h kw hkw with hkey | ⟨-, hhead⟩
  · exact hkey.head?
  · exact hhead

/-- A proper keyword is a name of a field in any case only as it is written. -/
theorem Keywords.Proper.isNameOf {kw : String × Value} (hkw : kw ∈ keywords) (name : Name) :
    isNameOf kw.1 name = (name.key == kw.1) := by
  rw [Bool.eq_iff_iff, Settings.isNameOf, beq_iff_eq, beq_iff_eq]
  rcases h kw hkw with ⟨other, -, hkey⟩ | ⟨hnone, -⟩
  · rw [hkey, other.lowerName_key]
    exact eq_comm
  · constructor
    · exact fun heq => absurd heq (hnone name name.mem_all)
    · rintro heq
      rw [← heq, name.lowerName_key]

theorem Keywords.Proper.value? (name : Name) :
    keywords.value? name = keywords.lookup name.key := by
  induction keywords with
  | nil => rfl
  | cons kw rest ih =>
      have hrest := ih fun other hother => h other (List.mem_cons_of_mem _ hother)
      have hname := h.isNameOf List.mem_cons_self name
      rw [Keywords.value?, List.find?_cons, hname, List.lookup_cons]
      cases name.key == kw.1 with
      | true => rfl
      | false => exact hrest

theorem Keywords.Proper.lookup_eq_none {option : String}
    (hoption : option.toList.head? = some '_') :
    keywords.lookup option = none := by
  refine List.lookup_eq_none_iff.mpr ?_
  intro kw hkw
  refine bne_iff_ne.mpr ?_
  rintro rfl
  exact h.head? hkw hoption

theorem Keywords.Proper.options : keywords.options = .ok {} := by
  have hnone : ∀ option ∈ readingOptions, keywords.option? option = none := by
    intro option hmem
    have hall : ∀ option ∈ readingOptions, option.toList.head? = some '_' := by decide +kernel
    rw [Keywords.option?, h.lookup_eq_none (hall option hmem)]
  have hoff : ∀ option ∈ readingOptions, keywords.isOn option = false := by
    intro option hmem
    rw [Keywords.isOn, hnone option hmem]
    rfl
  rw [Keywords.options, hnone _ (by decide), hoff _ (by decide), hoff _ (by decide),
    hnone _ (by decide)]
  rfl

theorem Keywords.Proper.issues :
    keywords.issues = keywords.unknown.map fun kw => ⟨kw.1, .unknownName⟩ := by
  have hsettings : keywords.settings = keywords := by
    refine List.filter_eq_self.mpr ?_
    intro kw hkw
    rw [Bool.not_eq_true', ← Bool.not_eq_true]
    exact fun hoption => h.head? hkw (head?_of_isOption hoption)
  have hunknown : keywords.filter (fun kw => !Name.all.any (Settings.isNameOf kw.1)) =
      keywords.unknown := by
    refine List.filter_congr ?_
    intro kw hkw
    rw [decide_not, Bool.not_inj_iff, Bool.eq_iff_iff, List.any_eq_true, decide_eq_true_iff]
    refine exists_congr fun name => and_congr_right fun _ => ?_
    rw [h.isNameOf hkw, beq_iff_eq]
    exact eq_comm
  rw [Keywords.issues, hsettings, hunknown]

end Proper

/-! ## What a field takes -/

theorem taken_eq_some_of_lookup {environment : Environment} {keywords : Keywords}
    (h : keywords.Proper) {name : Name} {v : Value} (hv : keywords.lookup name.key = some v) :
    taken environment {} keywords name = some v := by
  rw [taken, h.value?, hv, Option.some_or]

theorem taken_eq_value?_of_lookup {environment : Environment} {keywords : Keywords}
    (h : keywords.Proper) {name : Name} (hnone : keywords.lookup name.key = none) :
    taken environment {} keywords name = environment.value? {} name := by
  rw [taken, h.value?, hnone, Option.none_or]

theorem takes_iff {environment : Environment} {keywords : Keywords} (henv : environment.Distinct)
    (hkw : keywords.Proper) {name : Name} {o : Option Value} :
    Takes environment keywords name o ↔ taken environment {} keywords name = o := by
  constructor
  · intro h
    cases h with
    | byKeyword hv => exact taken_eq_some_of_lookup hkw hv
    | byVariable hnone hholds =>
        rw [taken_eq_value?_of_lookup hkw hnone]
        exact henv.value?_eq_some_iff.mpr ⟨_, rfl, hholds⟩
    | nothing hnone hheld =>
        rw [taken_eq_value?_of_lookup hkw hnone]
        exact Environment.value?_eq_none_iff.mpr hheld
  · rintro rfl
    cases hkeyword : keywords.lookup name.key with
    | some v =>
        rw [taken_eq_some_of_lookup hkw hkeyword]
        exact .byKeyword hkeyword
    | none =>
        rw [taken_eq_value?_of_lookup hkw hkeyword]
        cases hvalue : environment.value? {} name with
        | none => exact .nothing hkeyword (Environment.value?_eq_none_iff.mp hvalue)
        | some v =>
            obtain ⟨value, rfl, hholds⟩ := henv.value?_eq_some_iff.mp hvalue
            exact .byVariable hkeyword hholds

theorem taken_congr {environment environment' : Environment} {keywords : Keywords}
    (henv : environment.Distinct) (henv' : environment'.Distinct) (hkw : keywords.Proper)
    {name : Name} (h : keywords.lookup name.key = none →
      ∀ value, environment.Holds name value ↔ environment'.Holds name value) :
    taken environment' {} keywords name = taken environment {} keywords name := by
  have htakes : Takes environment keywords name (taken environment {} keywords name) :=
    (takes_iff henv hkw).mpr rfl
  refine (takes_iff henv' hkw).mp ?_
  generalize taken environment {} keywords name = o at htakes ⊢
  cases htakes with
  | byKeyword hv => exact .byKeyword hv
  | byVariable hnone hholds => exact .byVariable hnone ((h hnone _).mp hholds)
  | nothing hnone hheld => exact .nothing hnone fun value => mt (h hnone value).mpr (hheld value)

/-! ## Building -/

def Reports (result : Except Fault Settings) (name : Name) (kind : IssueKind) : Prop :=
  ∃ issues, result = .error (.invalidSettings issues) ∧ ⟨name.key, kind⟩ ∈ issues

/-- How building ends, for what the fields take. -/
inductive Built (take : Name → Option Value) (keywords : Keywords) : Except Fault Settings → Prop
  | settings {s : Settings} : (∀ name : Name, name.outcome (take name) = .ok (s.value name)) →
      keywords.unknown = [] → Built take keywords (.ok s)
  | issues {issues : List Issue} :
      issues = fieldIssues take ++ keywords.unknown.map (fun kw => ⟨kw.1, .unknownName⟩) →
      issues ≠ [] → Built take keywords (.error (.invalidSettings issues))

theorem Keywords.Proper.build_eq {keywords : Keywords} (h : keywords.Proper)
    (environment : Environment) :
    build environment keywords =
      (ofTaken (taken environment {} keywords) keywords.issues).mapError .invalidSettings := by
  have hself : keywords.any (·.1 == "__pydantic_self__") = false := by
    rw [← Bool.not_eq_true, List.any_eq_true]
    rintro ⟨kw, hkw, hname⟩
    refine h.head? hkw ?_
    rw [eq_of_beq hname]
    decide
  rw [build, hself, h.options, if_neg Bool.false_ne_true]
  dsimp only
  cases ofTaken (taken environment {} keywords) keywords.issues with
  | ok s => rfl
  | error issues => rfl

theorem built_build (environment : Environment) {keywords : Keywords} (h : keywords.Proper) :
    Built (taken environment {} keywords) keywords (build environment keywords) := by
  have hmade := made_ofTaken (taken environment {} keywords) keywords.issues
  rw [h.build_eq]
  generalize ofTaken (taken environment {} keywords) keywords.issues = result at hmade ⊢
  rw [h.issues] at hmade
  cases hmade with
  | settings hfields hnone => exact .settings hfields (List.map_eq_nil_iff.mp hnone)
  | issues hsome => exact .issues rfl hsome

section Built

variable {take : Name → Option Value} {keywords : Keywords} {result : Except Fault Settings}

theorem Built.ok_iff (h : Built take keywords result) :
    (∃ s, result = .ok s) ↔
      (∀ name : Name, ∃ w, name.outcome (take name) = .ok w) ∧ keywords.unknown = [] := by
  cases h with
  | @settings s hfields hnone =>
      exact ⟨fun _ => ⟨fun name => ⟨_, hfields name⟩, hnone⟩, fun _ => ⟨s, rfl⟩⟩
  | issues heq hsome =>
      refine ⟨nofun, ?_⟩
      rintro ⟨hfields, hnone⟩
      refine absurd heq ?_
      have hquiet : fieldIssues take = [] := by
        refine List.filterMap_eq_nil_iff.mpr ?_
        exact fun name _ => Name.issue?_eq_none_iff.mpr (hfields name)
      rw [hquiet, hnone]
      exact hsome

theorem Built.reports_iff (h : Built take keywords result) {name : Name} {kind : IssueKind} :
    Reports result name kind ↔ name.outcome (take name) = .error kind := by
  constructor
  · rintro ⟨issues, rfl, hmem⟩
    cases h with
    | issues heq hsome =>
        rw [heq] at hmem
        rcases List.mem_append.mp hmem with hfield | hkeyword
        · obtain ⟨other, -, hother⟩ := List.mem_filterMap.mp hfield
          obtain ⟨hkey, hkind⟩ := Name.issue?_eq_some_iff.mp hother
          rwa [Name.key_injective hkey]
        · obtain ⟨kw, hkw, hissue⟩ := List.mem_map.mp hkeyword
          have hnot := of_decide_eq_true (List.mem_filter.mp hkw).2
          exact absurd ⟨name, name.mem_all, congrArg Issue.name hissue⟩ hnot
  · intro hkind
    cases h with
    | settings hfields hnone =>
        rw [hfields name] at hkind
        cases hkind
    | issues heq hsome =>
        refine ⟨_, rfl, ?_⟩
        rw [heq]
        refine List.mem_append_left _ (List.mem_filterMap.mpr ⟨name, name.mem_all, ?_⟩)
        exact Name.issue?_eq_some_iff.mpr ⟨rfl, hkind⟩

end Built

/-! ## The statement -/

/-- How settings are built from an environment and keywords. -/
structure Selects (environment : Environment) (keywords : Keywords) : Prop where
  /-- Every field takes one thing. -/
  takes : ∀ name, ∃ o, ∀ o', Takes environment keywords name o' ↔ o' = o
  /-- Settings are built when every value that is taken is accepted by the type of its field and
  every keyword is the name of one. -/
  built_iff : (∃ s, build environment keywords = .ok s) ↔
    (∀ (name : Name) v, Takes environment keywords name (some v) → ∃ w, name.read v = .ok w) ∧
      keywords.unknown = []
  /-- Then every field holds what comes of what it takes. -/
  converted : ∀ s, build environment keywords = .ok s → ∀ (name : Name) o,
    Takes environment keywords name o → name.outcome o = .ok (s.value name)
  /-- Otherwise one error is reported for each field that rejects its value, in the order of the
  fields, and then one for each keyword that is no name of a field, in the order of the keywords. -/
  refused : ∀ fault, build environment keywords = .error fault →
    ∀ take : Name → Option Value, (∀ name, Takes environment keywords name (take name)) →
      fault = .invalidSettings
        (fieldIssues take ++ keywords.unknown.map fun kw => ⟨kw.1, .unknownName⟩)
  /-- Of an environment nothing matters but the variables of the fields that no keyword is given
  for. -/
  sameVariables : ∀ environment' : Environment, environment'.Distinct →
    (∀ name, keywords.lookup name.key = none →
      ∀ value, environment.Holds name value ↔ environment'.Holds name value) →
    build environment' keywords = build environment keywords
  /-- What a field holds, and what is reported of it, does not depend on what is given for the
  others. -/
  independent : ∀ (environment' : Environment) (keywords' : Keywords), environment'.Distinct →
    keywords'.Proper → ∀ name o, Takes environment keywords name o →
    Takes environment' keywords' name o →
    (∀ s s', build environment keywords = .ok s → build environment' keywords' = .ok s' →
      s'.value name = s.value name) ∧
    ∀ kind, Reports (build environment' keywords') name kind ↔
      Reports (build environment keywords) name kind

theorem built_converted {environment : Environment} {keywords : Keywords}
    (henv : environment.Distinct) (hkw : keywords.Proper) {s : Settings}
    (h : build environment keywords = .ok s) {name : Name} {o : Option Value}
    (ho : Takes environment keywords name o) : name.outcome o = .ok (s.value name) := by
  have hbuilt := built_build environment hkw
  rw [h] at hbuilt
  cases hbuilt with
  | settings hfields _ =>
      rw [← (takes_iff henv hkw).mp ho]
      exact hfields name

/-- Every field is selected, read and reported for itself. -/
theorem build_selects {environment : Environment} {keywords : Keywords}
    (henv : environment.Distinct) (hkw : keywords.Proper) : Selects environment keywords where
  takes := by
    intro name
    refine ⟨taken environment {} keywords name, fun o => ?_⟩
    rw [takes_iff henv hkw]
    exact eq_comm
  built_iff := by
    rw [(built_build environment hkw).ok_iff]
    refine and_congr_left fun _ => forall_congr' fun name => ?_
    constructor
    · intro hread v hv
      rw [(takes_iff henv hkw).mp hv] at hread
      exact hread
    · intro hread
      cases htaken : taken environment {} keywords name with
      | none => exact ⟨_, rfl⟩
      | some v => exact hread v ((takes_iff henv hkw).mpr htaken)
  converted := fun s hs name o ho => built_converted henv hkw hs ho
  refused := by
    intro fault hfault take htake
    have hsame : take = taken environment {} keywords :=
      funext fun name => ((takes_iff henv hkw).mp (htake name)).symm
    have hbuilt := built_build environment hkw
    rw [hfault] at hbuilt
    cases hbuilt with
    | issues heq _ => rw [hsame, heq]
  sameVariables := by
    intro environment' henv' hvariables
    have hsame : taken environment' {} keywords = taken environment {} keywords :=
      funext fun name => taken_congr henv henv' hkw (hvariables name)
    rw [hkw.build_eq, hkw.build_eq, hsame]
  independent := by
    intro environment' keywords' henv' hkw' name o ho ho'
    constructor
    · intro s s' hs hs'
      have hvalue := built_converted henv hkw hs ho
      rw [built_converted henv' hkw' hs' ho'] at hvalue
      exact Except.ok.inj hvalue
    · intro kind
      rw [(built_build environment' hkw').reports_iff, (built_build environment hkw).reports_iff,
        (takes_iff henv hkw).mp ho, (takes_iff henv' hkw').mp ho']

/-- A variable with a bad value that a keyword overrides, one in another spelling and one that is
nobody's; and besides that keyword an unknown one and a rejected one. -/
def mixed : Environment × Keywords :=
  ([("principals_api_port", "soon"), ("Principals_Enable_Groups", "YES"), ("PATH", "/bin")],
    [("colour", .null), ("api_port", .text "9"), ("role_prefix", .int 1)])

theorem build_selects_mixed :
    mixed.1.Distinct ∧ mixed.2.Proper ∧ Selects mixed.1 mixed.2 ∧
      build mixed.1 mixed.2 =
        .error (.invalidSettings [⟨"role_prefix", .textExpected⟩, ⟨"colour", .unknownName⟩]) := by
  have henv : mixed.1.Distinct := by
    unfold Environment.Distinct
    decide +kernel
  have hkw : mixed.2.Proper := by
    unfold Keywords.Proper
    decide +kernel
  exact ⟨henv, hkw, build_selects henv hkw, rfl⟩

end Entitlement.Settings
