import Entitlement.Proofs.Lookup.FirstRow
import Entitlement.Proofs.Lookup.Isolation
import Entitlement.Proofs.Lookup.Loading

/-!
# `Entitlement.Proofs.Lookup.Absence` — who is not there, and who is granted nothing

A lookup can say two things of a username: that there is no such user, and that nothing is granted to
it.  With the default queries and no hook both are a matter of which rows the tables have, and of
nothing else:

| | |
| :-- | :-- |
| there is no such user | no row of the users has the username |
| nothing is granted | such a row, with a name, and in no source that is switched on a row about it |

The tables may hold anything that any insertions leave in them: names that are blobs, numbers of
groups that are texts, grants of the empty name.  A row of the last sort is refused, and so is a user
without a name; both end the lookup, and neither is said to be an absence (`Ending`).
-/
namespace Entitlement

namespace Store

open Select Lookup

/-! ## Conditions that are met

What a condition asks for is enough for it to hold: the converse of what is known of conditions that
hold. -/

theorem isTrue_both {a b : Cell} (ha : a.isTrue = true) (hb : b.isTrue = true) :
    (both a b).isTrue = true := by
  have hne : ∀ {c : Cell}, c.isTrue = true → c ≠ .null := by
    rintro c hc rfl
    cases hc
  unfold both
  rw [ha, hb, if_neg (by simp), if_neg (not_or.mpr ⟨hne ha, hne hb⟩)]
  rfl

theorem isTrue_compareAs {affinity : Affinity} {a b : Cell} (ha : a.withAffinity affinity ≠ .null)
    (hb : b.withAffinity affinity ≠ .null)
    (h : Cell.compare (a.withAffinity affinity) (b.withAffinity affinity) = .eq) :
    (compareAs (· == .eq) affinity a b).isTrue = true := by
  unfold compareAs Cell.condition
  split
  · exact absurd ‹_› ha
  · exact absurd ‹_› hb
  · rw [h]
    rfl

theorem isTrue_compareAs_of_bears {t : Table} {u : String} {record : Record}
    (h : Bears t u record) :
    (compareAs (· == .eq) .text ((record[position t "username"]?).getD .null)
      (.text u)).isTrue = true := by
  have hcell : record[position t "username"]? = some (.text u) := h
  rw [hcell, Option.getD_some, compareAs_text, isTrue_truth]
  exact decide_eq_true rfl

section Sound

variable {tables : Tables} {u : String}

theorem Tables.Sound.isTrue_of_refers (h : tables.Sound) {t : Table} {record : Record}
    (hrecord : record ∈ tables.rows t) {name : String} {column : Column}
    (hcolumn : t.columns[position t name]? = some column)
    (hnumeric : column.type.affinity = .numeric) {n : Int} (hrefers : Refers t name n record) :
    (compareAs (· == .eq) .numeric (.int n) ((record[position t name]?).getD .null)).isTrue =
      true := by
  obtain ⟨cell, hfield, hstands⟩ := hrefers
  have hcell : record[position t name]? = some cell := hfield
  obtain ⟨kept, hkeptCell, hkept⟩ := h.cell hrecord hcolumn
  cases hcell.symm.trans hkeptCell
  rw [hnumeric] at hkept
  have hint : (Cell.int n).withAffinity .numeric = .int n := rfl
  rw [hcell, Option.getD_some]
  refine isTrue_compareAs (by rw [hint]; exact nofun) ?_ ?_
  · rw [hkept]
    rintro rfl
    cases hstands
  · rw [hint, hkept]
    exact hstands

/-! ## Rows about a username -/

def Tables.Knows (tables : Tables) (u : String) : Prop :=
  ∃ record ∈ tables.rows .users, Bears .users u record

/-- A source has a row about the username: an authority of it, or a group, a membership of it in
the group and an authority of the group. -/
def Tables.GrantsTo (tables : Tables) (u : String) : Source → Prop
  | .direct => ∃ record ∈ tables.rows .authorities, Bears .authorities u record
  | .group => ∃ group ∈ tables.rows .groups, ∃ member ∈ tables.rows .groupMembers,
      ∃ authority ∈ tables.rows .groupAuthorities, Bears .groupMembers u member ∧
        ∃ n, Refers .groups "id" n group ∧ Refers .groupMembers "group_id" n member ∧
          Refers .groupAuthorities "group_id" n authority

def sourceSelection : Source → Selection
  | .direct => authoritiesSelection
  | .group => groupAuthoritiesSelection

theorem exists_row_iff_of_single {selection : Selection} {t : Table} {args : List Cell}
    (hsources : selection.sources = [t]) :
    (∃ row, row ∈ selection.rows tables args) ↔
      ∃ record ∈ tables.rows t, meets args selection.filter [record] = true := by
  constructor
  · rintro ⟨row, hrow⟩
    obtain ⟨combination, hcombination, hmeets, -⟩ := mem_rows.mp hrow
    rw [hsources] at hcombination
    cases hcombination with
    | cons hrecord hrest =>
        cases hrest
        exact ⟨_, hrecord, hmeets⟩
  · rintro ⟨record, hrecord, hmeets⟩
    refine ⟨_, mem_rows.mpr ⟨[record], ?_, hmeets, rfl⟩⟩
    rw [hsources]
    exact .cons hrecord .nil

theorem Tables.Sound.exists_user_iff (h : tables.Sound) :
    (∃ row, row ∈ usersSelection.rows tables [.text u]) ↔ tables.Knows u := by
  rw [exists_row_iff_of_single rfl]
  refine exists_congr fun record => and_congr_right fun hrecord => ?_
  exact ⟨h.bears_of_users hrecord, isTrue_compareAs_of_bears⟩

theorem Tables.Sound.exists_authority_iff (h : tables.Sound) :
    (∃ row, row ∈ authoritiesSelection.rows tables [.text u]) ↔ tables.GrantsTo u .direct := by
  rw [exists_row_iff_of_single rfl]
  refine exists_congr fun record => and_congr_right fun hrecord => ?_
  exact ⟨h.bears_of_authorities hrecord, isTrue_compareAs_of_bears⟩

theorem Tables.Sound.exists_groupAuthority_iff (h : tables.Sound) :
    (∃ row, row ∈ groupAuthoritiesSelection.rows tables [.text u]) ↔
      tables.GrantsTo u .group := by
  constructor
  · rintro ⟨row, hrow⟩
    obtain ⟨combination, hcombination, hmeets, -⟩ := mem_rows.mp hrow
    cases hcombination with
    | cons hgroup hrest =>
        cases hrest with
        | cons hmember hrest =>
            cases hrest with
            | cons hauthority hrest =>
                cases hrest
                exact ⟨_, hgroup, _, hmember, _, hauthority,
                  h.refers_of_groups hgroup hmember hauthority hmeets⟩
  · rintro ⟨group, hgroup, member, hmember, authority, hauthority, hbears, n, hid, hin, hto⟩
    refine ⟨_, mem_rows.mpr ⟨[group, member, authority],
      .cons hgroup (.cons hmember (.cons hauthority .nil)), ?_, rfl⟩⟩
    obtain ⟨m, rest, rfl⟩ := h.numbered .groups rfl group hgroup
    obtain ⟨cell, hcell, hstands⟩ := hid
    cases hcell
    obtain rfl := Cell.standsFor_int.mp hstands
    refine isTrue_both (isTrue_both (isTrue_compareAs_of_bears hbears) ?_) ?_
    · exact @Tables.Sound.isTrue_of_refers _ h _ _ hauthority "group_id" _ rfl rfl _ hto
    · exact @Tables.Sound.isTrue_of_refers _ h _ _ hmember "group_id" _ rfl rfl _ hin

theorem Tables.Sound.exists_grant_iff (h : tables.Sound) (source : Source) :
    (∃ row, row ∈ (sourceSelection source).rows tables [.text u]) ↔ tables.GrantsTo u source := by
  cases source with
  | direct => exact h.exists_authority_iff
  | group => exact h.exists_groupAuthority_iff

theorem executor_source (tables : Tables) (source : Source) (u : String) :
    Database.executor (some tables) (lookingUp (defaultQuery source) u) =
      .ok (((sourceSelection source).rows tables [.text u]).map fun record =>
        record.map Cell.toValue) := by
  cases source with
  | direct =>
      exact executor_of_understanding asking_defaultAuthorities statement_defaultAuthorities
        understanding_authorities tables u
  | group =>
      exact executor_of_understanding asking_defaultGroupAuthorities
        statement_defaultGroupAuthorities understanding_groupAuthorities tables u

theorem Tables.Sound.row_of_users (h : tables.Sound) {row : Record}
    (hrow : row ∈ usersSelection.rows tables [.text u]) :
    ∃ password flag, row = [.text u, password, flag] ∧ password ≠ .null := by
  obtain ⟨combination, hcombination, hmeets, rfl⟩ := mem_rows.mp hrow
  cases hcombination with
  | @cons _ user _ _ huser hrest =>
      cases hrest
      have hname : user[0]? = some (.text u) := h.bears_of_users huser hmeets
      obtain ⟨password, hpassword, hsome⟩ :=
        @Tables.Sound.filled _ h .users "password" (by decide) user huser
      have hsecond : user[1]? = some password := hpassword
      refine ⟨password, (user[2]?).getD .null, ?_, hsome⟩
      show [(user[0]?).getD .null, (user[1]?).getD .null, (user[2]?).getD .null] = _
      rw [hname, hsecond]
      rfl

end Sound

end Store

/-! ## Lookups -/

namespace Lookup

open Store (Tables Database sourceSelection)

inductive Ending (config : Config) (tables : Tables) (u : String) : Except Fault Principal → Prop
  | unknown : ¬tables.Knows u → Ending config tables u (.error (.failure .userNotFound u))
  | unauthorised : tables.Knows u → u ≠ "" →
      (∀ source, (config.grants none).enabled source = true → ¬tables.GrantsTo u source) →
      Ending config tables u (.error (.failure .noAuthority u))
  | refused {fault : Fault} : tables.Knows u →
      (u = "" ∨ ∃ source, (config.grants none).enabled source = true ∧ tables.GrantsTo u source) →
      (∀ kind name, fault ≠ .failure kind name) → Ending config tables u (.error fault)
  | resolved {p : Principal} : tables.Knows u → u ≠ "" →
      (∃ source, (config.grants none).enabled source = true ∧ tables.GrantsTo u source) →
      Ending config tables u (.ok p)

theorem not_failure_of_readAuthority {source : Source} {rolePrefix : Value} {rows : List Row}
    {fault : Fault} (h : readRows (readAuthority source rolePrefix) rows = .error fault)
    (kind : FailureKind) (name : String) : fault ≠ .failure kind name := by
  obtain ⟨row, -, hrow⟩ := refusal_of_readRows h
  rcases readAuthority_refusal hrow with rfl | rfl | rfl
  · exact nofun
  · exact nofun
  · exact nofun

section Sound

variable {config : Config} {tables : Tables} {u : String}

theorem readUser_of_password {password flag : Store.Cell} (hu : u ≠ "")
    (hsome : password ≠ .null) :
    readUser [.text u, password.toValue, flag.toValue] =
      .ok ⟨u, password.toValue, flag.toValue.flag⟩ := by
  refine (UserRow.mk ?_ ?_).readUser_eq
  · rintro (h | h)
    · cases h
    · exact hu (Value.text.inj h)
  · intro hnull
    cases password with
    | null => exact hsome rfl
    | int | real | text | blob => cases hnull

/-- The users query finds nobody, or somebody without a name, or the user. -/
theorem usersFound_of_sound (hconfig : config.AsksDefaults) (hsound : tables.Sound) (u : String) :
    (¬tables.Knows u ∧ config.usersFound (Database.executor (some tables)) u = .ok []) ∨
      tables.Knows u ∧
        ((u = "" ∧ config.usersFound (Database.executor (some tables)) u =
            .error .incompleteUser) ∨
          u ≠ "" ∧ ∃ record others, record.username = u ∧
            config.usersFound (Database.executor (some tables)) u = .ok (record :: others)) := by
  have hanswer := Store.executor_of_understanding Store.asking_defaultUsers
    Store.statement_defaultUsers Store.understanding_users tables u
  rw [← hconfig.users] at hanswer
  rw [usersFound_of_rows hanswer, ← hsound.exists_user_iff]
  cases hrows : Store.usersSelection.rows tables [.text u] with
  | nil => exact .inl ⟨fun ⟨_, hrow⟩ => absurd hrow List.not_mem_nil, rfl⟩
  | cons first rest =>
      refine .inr ⟨⟨first, List.mem_cons_self⟩, ?_⟩
      by_cases hu : u = ""
      · refine .inl ⟨hu, ?_⟩
        obtain ⟨password, flag, rfl, -⟩ := hsound.row_of_users (hrows ▸ List.mem_cons_self)
        subst hu
        rfl
      · refine .inr ⟨hu, ?_⟩
        -- Every row of the answer is about the username, so none of them spoils the others.
        have hreads : ∀ row ∈ (first :: rest).map fun record => record.map Store.Cell.toValue,
            ∃ record, record.username = u ∧ readUser row = .ok record := by
          intro row hrow
          obtain ⟨cells, hcells, rfl⟩ := List.mem_map.mp hrow
          obtain ⟨password, flag, rfl, hsome⟩ := hsound.row_of_users (hrows ▸ hcells)
          exact ⟨_, rfl, readUser_of_password hu hsome⟩
        obtain ⟨records, hrecords⟩ := exists_readRows fun row hrow =>
          (hreads row hrow).imp fun _ h => h.2
        cases readRows_eq_ok_iff.mp hrecords with
        | @cons _ record _ others hrecord _ =>
            obtain ⟨record', hname, hread⟩ := hreads _ List.mem_cons_self
            cases hrecord.symm.trans hread
            exact ⟨record, others, hname, hrecords⟩

/-- A source finds something when it is switched on and has a row about the username, and only then;
unless such a row is refused. -/
theorem found_of_sound (hconfig : config.AsksDefaults) (hsound : tables.Sound) (u : String)
    (source : Source) :
    (((config.grants none).enabled source = true ∧ tables.GrantsTo u source) ∧
      ∃ fault, (config.grants none).found (Database.executor (some tables)) source u =
        .error fault ∧ ∀ kind name, fault ≠ .failure kind name) ∨
    ∃ as, (config.grants none).found (Database.executor (some tables)) source u = .ok as ∧
      (as ≠ [] ↔ (config.grants none).enabled source = true ∧ tables.GrantsTo u source) := by
  cases henabled : (config.grants none).enabled source with
  | false =>
      refine .inr ⟨[], ?_, fun h => absurd rfl h, fun h => absurd h.1 Bool.false_ne_true⟩
      rw [Grants.found, henabled, if_neg Bool.false_ne_true]
  | true =>
      have hfound : (config.grants none).found (Database.executor (some tables)) source u =
          readRows (readAuthority source (config.grants none).rolePrefix)
            (((sourceSelection source).rows tables [.text u]).map fun record =>
              record.map Store.Cell.toValue) := by
        rw [Grants.found, henabled, if_pos rfl, recordsFrom, hconfig.query,
          Store.executor_source]
        rfl
      rw [hfound, ← hsound.exists_grant_iff]
      cases hrows : (sourceSelection source).rows tables [.text u] with
      | nil =>
          refine .inr ⟨[], rfl, fun h => absurd rfl h, ?_⟩
          rintro ⟨-, row, hrow⟩
          exact absurd hrow List.not_mem_nil
      | cons first rest =>
          have hsome : true = true ∧ ∃ row, row ∈ first :: rest :=
            ⟨rfl, first, List.mem_cons_self⟩
          cases hread : readRows (readAuthority source (config.grants none).rolePrefix)
              ((first :: rest).map fun record => record.map Store.Cell.toValue) with
          | error fault => exact .inl ⟨hsome, fault, rfl, not_failure_of_readAuthority hread⟩
          | ok authorities =>
              cases readRows_eq_ok_iff.mp hread with
              | cons => exact .inr ⟨_, rfl, fun _ => hsome, fun _ => List.cons_ne_nil _ _⟩

theorem aggregation_of_sound (hconfig : config.AsksDefaults) (hsound : tables.Sound) (u : String) :
    ((∀ source, (config.grants none).enabled source = true → ¬tables.GrantsTo u source) ∧
      ∃ acts, Aggregation (config.grants none) (Database.executor (some tables)) u
        (.error (.failure .noAuthority u)) acts) ∨
    (∃ source, (config.grants none).enabled source = true ∧ tables.GrantsTo u source) ∧
      ((∃ fault acts, Aggregation (config.grants none) (Database.executor (some tables)) u
          (.error fault) acts ∧ ∀ kind name, fault ≠ .failure kind name) ∨
        ∃ authorities acts, Aggregation (config.grants none) (Database.executor (some tables)) u
          (.ok authorities) acts) := by
  rcases found_of_sound hconfig hsound u .direct with
    ⟨hgrant, fault, hd, hother⟩ | ⟨direct, hd, hdirect⟩
  · exact .inr ⟨⟨.direct, hgrant⟩, .inl ⟨fault, _, .directFails hd, hother⟩⟩
  rcases found_of_sound hconfig hsound u .group with
    ⟨hgrant, fault, hg, hother⟩ | ⟨group, hg, hgroup⟩
  · exact .inr ⟨⟨.group, hgrant⟩, .inl ⟨fault, _, .groupFails hd hg, hother⟩⟩
  by_cases hnone : direct = [] ∧ group = []
  · obtain ⟨rfl, rfl⟩ := hnone
    refine .inl ⟨?_, _, .nothingLeft hd hg rfl⟩
    intro source henabled hgrant
    cases source with
    | direct => exact hdirect.mpr ⟨henabled, hgrant⟩ rfl
    | group => exact hgroup.mpr ⟨henabled, hgrant⟩ rfl
  · have hsome : distinct (direct ++ group) ≠ [] := by
      intro hnil
      refine hnone (List.append_eq_nil_iff.mp (List.eq_nil_iff_forall_not_mem.mpr ?_))
      intro a ha
      exact absurd (mem_distinct.mpr ha) (hnil ▸ List.not_mem_nil)
    refine .inr ⟨?_, .inr ⟨_, _, .granted hd hg rfl hsome⟩⟩
    rcases not_and_or.mp hnone with hne | hne
    · exact ⟨.direct, hdirect.mp hne⟩
    · exact ⟨.group, hgroup.mp hne⟩

/-- On sound tables a lookup ends by these rules. -/
theorem ending_of_sound (hconfig : config.AsksDefaults) (hsound : tables.Sound) (u : String) :
    Ending config tables u ((resolve config none u).run (Database.executor (some tables))).1 := by
  rcases usersFound_of_sound hconfig hsound u with
    ⟨hnot, hfound⟩ | ⟨hknows, ⟨hempty, hfound⟩ | ⟨hu, record, others, hname, hfound⟩⟩
  · rw [(Resolution.unknown hfound).run_eq]
    exact .unknown hnot
  · rw [resolve_of_usersFound_error hfound]
    exact .refused hknows (.inl hempty) nofun
  subst hname
  rcases aggregation_of_sound hconfig hsound record.username with
    ⟨hnothing, acts, ha⟩ | ⟨hgrant, ⟨fault, acts, ha, hother⟩ | ⟨authorities, acts, ha⟩⟩
  · rw [(Resolution.unauthorised hfound ha).run_eq]
    exact .unauthorised hknows hu hnothing
  · rw [(Resolution.fails hfound ha (hother .noAuthority)).run_eq]
    exact .refused hknows (.inr hgrant) hother
  · rw [(Resolution.resolved hfound ha).run_eq]
    exact .resolved hknows hu hgrant

end Sound

/-! ## The two absences -/

section Ending

variable {config : Config} {tables : Tables} {u : String} {outcome : Except Fault Principal}

theorem Ending.unknown_iff (h : Ending config tables u outcome) :
    (∃ name, outcome = .error (.failure .userNotFound name)) ↔ ¬tables.Knows u := by
  cases h with
  | unknown hnot => exact ⟨fun _ => hnot, fun _ => ⟨u, rfl⟩⟩
  | unauthorised hknows => exact ⟨nofun, fun hnot => absurd hknows hnot⟩
  | refused hknows _ hother =>
      exact ⟨fun ⟨name, heq⟩ => absurd (Except.error.inj heq) (hother _ name),
        fun hnot => absurd hknows hnot⟩
  | resolved hknows => exact ⟨nofun, fun hnot => absurd hknows hnot⟩

theorem Ending.unauthorised_iff (h : Ending config tables u outcome) :
    (∃ name, outcome = .error (.failure .noAuthority name)) ↔
      tables.Knows u ∧ u ≠ "" ∧
        ∀ source, (config.grants none).enabled source = true → ¬tables.GrantsTo u source := by
  cases h with
  | unknown hnot => exact ⟨nofun, fun ⟨hknows, _⟩ => absurd hknows hnot⟩
  | unauthorised hknows hu hnothing =>
      exact ⟨fun _ => ⟨hknows, hu, hnothing⟩, fun _ => ⟨u, rfl⟩⟩
  | refused _ hwhy hother =>
      refine ⟨fun ⟨name, heq⟩ => absurd (Except.error.inj heq) (hother _ name), ?_⟩
      rintro ⟨-, hu, hnothing⟩
      rcases hwhy with hempty | ⟨source, henabled, hgrant⟩
      · exact absurd hempty hu
      · exact absurd hgrant (hnothing source henabled)
  | resolved _ _ hgrant =>
      refine ⟨nofun, ?_⟩
      rintro ⟨-, -, hnothing⟩
      obtain ⟨source, henabled, hgrant⟩ := hgrant
      exact absurd hgrant (hnothing source henabled)

end Ending

end Lookup
end Entitlement
