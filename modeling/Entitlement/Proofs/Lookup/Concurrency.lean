import Entitlement.Proofs.Lookup.Grants
import Entitlement.Proofs.Lookup.Schedule

/-!
# `Entitlement.Proofs.Lookup.Concurrency` — lookups while rows are inserted

A lookup puts up to three queries, and other lookups and insertions may come between any two of
them.  So it may read three stores, and no single one of them need explain what it answers.  Two
things hold nevertheless, of every lookup in every interleaving:

* if nothing is inserted between its first query and its last, it answers what it would have
  answered alone;
* if something is, its answer lies between two stores, that of its first query and that of its last:
  everything granted in the first is in it, and everything in it is granted in the last, while the
  password and the flag are those of the first.

`resolve_interleaved` states both, with the reasons for which a lookup can fail, and that lookups
started together end as one by one.

The second holds because insertions only add: the stores a lookup sees grow in the order in which it
sees them (`seen_grows`), and what is granted grows with them.  The stores are put together to one
answering function, so the rules for a single lookup decide what it answers (`verdict_of_sees`).
-/
namespace Entitlement.Lookup

open Store (Tables Database Session Step defaultQuery)

/-! ## Insertions among the moves -/

/-- A move that lets a lookup go on, or inserts what is plain. -/
def Inserts : Move Database → Prop
  | .advance _ => True
  | .change f => ∃ step : Step, step.Plain ∧ f = step.onDatabase

theorem Pool.glimpse_cases {σ α : Type} (i : Nat) (pool : Pool σ α) (move : Move σ) :
    pool.glimpse i move = [] ∨ ∃ question, pool.glimpse i move = [(question, pool.store)] := by
  cases move with
  | advance j =>
      simp only [Pool.glimpse]
      split
      · exact .inr ⟨_, rfl⟩
      · exact .inl rfl
  | change f => exact .inl rfl

/-- The stores a lookup sees have plain tables, and grow in the order in which it sees them. -/
theorem seen_grows {i : Nat} {schedule : List (Move Database)}
    (h : ∀ move ∈ schedule, Inserts move) {pool : Pool Database Principal} {tables : Tables}
    (hstore : pool.store = some tables) (hplain : tables.Plain) :
    ∃ entries : List (Question × Tables),
      pool.seen Database.executor i schedule = entries.map (fun entry => (entry.1, some entry.2)) ∧
      (∀ entry ∈ entries, entry.2.Plain ∧ tables.Grows entry.2) ∧
      entries.Pairwise fun entry entry' => entry.2.Grows entry'.2 := by
  induction schedule generalizing pool tables with
  | nil => exact ⟨[], rfl, fun _ hentry => absurd hentry List.not_mem_nil, .nil⟩
  | cons move rest ih =>
      have hmove := h move List.mem_cons_self
      have hrest : ∀ other ∈ rest, Inserts other :=
        fun other hother => h other (List.mem_cons_of_mem _ hother)
      rw [Pool.seen]
      cases move with
      | change f =>
          obtain ⟨step, hstep, rfl⟩ := hmove
          obtain ⟨tables', hdatabase, hplain', hgrows⟩ := hstep.onDatabase hplain
          have hstore' : (pool.move Database.executor (.change step.onDatabase)).store =
              some tables' := by
            show step.onDatabase pool.store = _
            rw [hstore, hdatabase]
          obtain ⟨entries, hseen, hentries, hpairwise⟩ := ih hrest hstore' hplain'
          refine ⟨entries, hseen, ?_, hpairwise⟩
          intro entry hentry
          exact ⟨(hentries entry hentry).1, hgrows.trans (hentries entry hentry).2⟩
      | advance j =>
          have hstore' : (pool.move Database.executor (.advance j)).store = some tables := hstore
          obtain ⟨entries, hseen, hentries, hpairwise⟩ := ih hrest hstore' hplain
          rw [hseen]
          rcases pool.glimpse_cases i (.advance j) with hnone | ⟨question, hone⟩
          · rw [hnone]
            exact ⟨entries, rfl, hentries, hpairwise⟩
          · rw [hone, hstore]
            refine ⟨(question, tables) :: entries, rfl, ?_, ?_⟩
            · intro entry hentry
              rcases List.mem_cons.mp hentry with rfl | hentry
              · exact ⟨hplain, Tables.Grows.refl tables⟩
              · exact hentries entry hentry
            · exact .cons (fun entry hentry => (hentries entry hentry).2) hpairwise

/-! ## Between two stores -/

theorem Config.Granted.mono {config : Config} {tables tables' : Source → Tables} {u a : String}
    (h : config.Granted tables u a) (hgrows : ∀ source, (tables source).Grows (tables' source)) :
    config.Granted tables' u a := by
  obtain ⟨source, henabled, hgrant⟩ := h
  exact ⟨source, henabled, (hgrows source).grants hgrant⟩

/-- What a lookup answers that read one store first and another one last. -/
structure Between (config : Config) (pre u : String) (first last : Tables)
    (outcome : Except Fault Principal) : Prop where
  /-- A principal has the password and the flag of the first store, all that is granted there, and
  nothing that is not granted in the last. -/
  resolved : ∀ p, outcome = .ok p → p.username = u ∧
    (∃ password flag, first.HasUser u password flag ∧ p.password = .text password ∧
      p.enabled = flag.toValue.flag) ∧
    (∀ a, config.Granted (fun _ => first) u a → ⟨pre ++ a⟩ ∈ p.authorities) ∧
    ∀ authority ∈ p.authorities, ∃ a, config.Granted (fun _ => last) u a ∧ authority = ⟨pre ++ a⟩
  /-- There is no such user, exactly when there is none in the first store. -/
  unknown : outcome = .error (.failure .userNotFound u) ↔ ∀ p flag, ¬first.HasUser u p flag
  /-- There is no authority: there is a user and nothing is granted in the first store. -/
  unauthorised : outcome = .error (.failure .noAuthority u) →
    (∃ p flag, first.HasUser u p flag) ∧ ∀ a, ¬config.Granted (fun _ => first) u a
  /-- A row is refused: the user has no name in the first store, or the empty name is granted in the
  last. -/
  refused : ∀ fault, outcome = .error fault → IsRowMapping fault →
    (∃ p flag, first.HasUser u p flag) ∧ (u = "" ∨ config.Granted (fun _ => last) u "")
  /-- A lookup fails for no other reason. -/
  failures : ∀ fault, outcome = .error fault →
    fault = .failure .userNotFound u ∨ fault = .failure .noAuthority u ∨ IsRowMapping fault

theorem Verdict.between {config : Config} {pre u : String} {first last : Tables}
    {tables : Source → Tables} (hfirst : ∀ source, first.Grows (tables source))
    (hlast : ∀ source, (tables source).Grows last) {outcome : Except Fault Principal}
    (h : Verdict first (config.Granted tables u) pre u outcome) :
    Between config pre u first last outcome := by
  have hlower : ∀ {a}, config.Granted (fun _ => first) u a → config.Granted tables u a :=
    fun hgrant => hgrant.mono hfirst
  have hupper : ∀ {a}, config.Granted tables u a → config.Granted (fun _ => last) u a :=
    fun hgrant => hgrant.mono hlast
  refine ⟨?_, h.unknown_iff, ?_, ?_, ?_⟩
  · rintro p rfl
    cases h with
    | resolved huser _ _ _ _ hmem =>
        refine ⟨rfl, ⟨_, _, huser, rfl, rfl⟩, ?_, ?_⟩
        · intro a hgrant
          exact (hmem _).mpr ⟨a, hlower hgrant, rfl⟩
        · intro authority hauthority
          obtain ⟨a, hgrant, rfl⟩ := (hmem authority).mp hauthority
          exact ⟨a, hupper hgrant, rfl⟩
  · rintro rfl
    cases h with
    | unauthorised huser _ hnothing =>
        exact ⟨⟨_, _, huser⟩, fun a hgrant => hnothing a (hlower hgrant)⟩
  · rintro fault rfl hrow
    cases h with
    | unknown => exact hrow.elim
    | nameless huser hempty => exact ⟨⟨_, _, huser⟩, .inl hempty⟩
    | unnamed _ huser _ hgrant => exact ⟨⟨_, _, huser⟩, .inr (hupper hgrant)⟩
    | unauthorised => exact hrow.elim
  · rintro fault rfl
    cases h with
    | unknown => exact .inl rfl
    | nameless => exact .inr (.inr trivial)
    | unnamed => exact .inr (.inr trivial)
    | unauthorised => exact .inr (.inl rfl)

theorem grows_last {entries : List (Question × Tables)}
    (h : entries.Pairwise fun entry entry' => entry.2.Grows entry'.2) {last : Question × Tables}
    (hlast : entries.getLast? = some last) : ∀ entry ∈ entries, entry.2.Grows last.2 := by
  obtain ⟨others, rfl⟩ := List.getLast?_eq_some_iff.mp hlast
  intro entry hentry
  rcases List.mem_append.mp hentry with hother | hself
  · exact (List.pairwise_append.mp h).2.2 entry hother last List.mem_cons_self
  · rw [List.mem_singleton.mp hself]
    exact Tables.Grows.refl _

/-- The stores that were seen, put together to one answering function, are what a lookup sees. -/
theorem sees_storeSeen {entries : List (Question × Tables)}
    (hplain : ∀ entry ∈ entries, entry.2.Plain) {first last : Question × Tables} (u : String)
    (hfirst : first ∈ entries) (hlast : last ∈ entries)
    (husers : storeSeen entries last.2 Query.defaultUsers = first.2) :
    Sees (fun question => Database.executor (some (storeSeen entries last.2 question.sql)) question)
      first.2 (fun source => storeSeen entries last.2 (defaultQuery source)) u := by
  refine ⟨hplain first hfirst, ?_, ?_, fun _ => rfl⟩
  · intro source
    obtain ⟨entry, hentry, heq⟩ := storeSeen_mem hlast (defaultQuery source)
    rw [heq]
    exact hplain entry hentry
  · show Database.executor (some (storeSeen entries last.2 Query.defaultUsers)) _ = _
    rw [husers]

theorem Follows.first_question {σ : Type} {answer : σ → Executor} {config : Config}
    {hook : Option Hook} {u : String} {seen : List (Question × σ)}
    {outcome : Except Fault Principal} (h : Follows answer (resolve config hook u) seen outcome) :
    ∃ store rest, seen = (lookingUp config.usersQuery u, store) :: rest := by
  obtain ⟨next, hask⟩ : ∃ next, resolve config hook u =
      .ask (lookingUp config.usersQuery u) next := ⟨_, rfl⟩
  rw [hask] at h
  cases h with
  | ask => exact ⟨_, _, rfl⟩

/-- A lookup that has followed growing stores answers between the first and the last of them. -/
theorem between_of_follows {config : Config} {pre u : String} (hconfig : config.Default pre)
    {entries : List (Question × Tables)} {outcome : Except Fault Principal}
    (h : Follows Database.executor (resolve config none u)
      (entries.map fun entry => (entry.1, some entry.2)) outcome)
    (hplain : ∀ entry ∈ entries, entry.2.Plain)
    (hpairwise : entries.Pairwise fun entry entry' => entry.2.Grows entry'.2) :
    ∃ first last, entries.head? = some first ∧ entries.getLast? = some last ∧
      first.1 = lookingUp Query.defaultUsers u ∧ first.2.Grows last.2 ∧
      Between config pre u first.2 last.2 outcome := by
  have hfollows : Follows (fun tables : Tables => Database.executor (some tables))
      (resolve config none u) entries outcome := h.comap
  obtain ⟨store, rest, rfl⟩ := hfollows.first_question
  rw [hconfig.users] at hfollows hplain hpairwise ⊢
  generalize hentries : (lookingUp Query.defaultUsers u, store) :: rest = entries at *
  obtain ⟨last, hlast⟩ : ∃ last, entries.getLast? = some last := by
    rw [← hentries]
    exact ⟨_, List.getLast?_eq_some_getLast (List.cons_ne_nil _ rest)⟩
  have hfirstmem : (lookingUp Query.defaultUsers u, store) ∈ entries := by
    rw [← hentries]
    exact List.mem_cons_self
  have hlastmem : last ∈ entries := List.mem_of_getLast? hlast
  have hlower : ∀ entry ∈ entries, store.Grows entry.2 := by
    intro entry hentry
    rw [← hentries] at hentry hpairwise
    rcases List.mem_cons.mp hentry with rfl | hentry
    · exact Tables.Grows.refl _
    · exact (List.pairwise_cons.mp hpairwise).1 entry hentry
  have hupper := grows_last hpairwise hlast
  -- The query texts differ, so every one of them is answered from one store only.
  have hnodup : [config.usersQuery, config.authoritiesQuery,
      config.groupAuthoritiesQuery].Nodup := by
    rw [hconfig.users, hconfig.authorities, hconfig.groupAuthorities]
    decide
  have husers : storeSeen entries last.2 Query.defaultUsers = store := by
    rw [← hentries]
    simp only [storeSeen, List.find?_cons, lookingUp, beq_self_eq_true, Option.map_some,
      Option.getD_some]
  have hverdict := verdict_of_sees hconfig (sees_storeSeen hplain u hfirstmem hlastmem husers)
  rw [hfollows.run_nodup (asks_resolve config none u) hnodup last.2] at hverdict
  refine ⟨_, last, ?_, hlast, rfl, hlower last hlastmem, hverdict.between ?_ ?_⟩
  · rw [← hentries]
    rfl
  · intro source
    obtain ⟨entry, hentry, heq⟩ := storeSeen_mem hlastmem (defaultQuery source)
    rw [heq]
    exact hlower entry hentry
  · intro source
    obtain ⟨entry, hentry, heq⟩ := storeSeen_mem hlastmem (defaultQuery source)
    rw [heq]
    exact hupper entry hentry

/-! ## The statement -/

/-- Lookups that are started together on the empty tables.  What is in the tables when a lookup
puts its first query is inserted by the schedule in front of it. -/
def started (config : Config) (usernames : List String) : Pool Database Principal :=
  ⟨some {}, usernames.map (resolve config none)⟩

/-- What holds of one lookup of a username among others, in a schedule with insertions. -/
structure Interleaved (config : Config) (pre : String) (usernames : List String)
    (schedule : List (Move Database)) (i : Nat) (u : String) : Prop where
  /-- Four turns are enough for it. -/
  ends : 4 ≤ schedule.countP (Pool.isTurn i) →
    ∃ outcome, ((started config usernames).play Database.executor schedule).plans[i]? =
      some (.done outcome)
  /-- If nothing changes from its first query to its last, it ends as alone on the store of that
  time. -/
  alone : ∀ before during after outcome, schedule = before ++ during ++ after →
    Pool.Still during →
    (started config usernames).seen Database.executor i before = [] →
    ((started config usernames).play Database.executor (before ++ during)).seen
      Database.executor i after = [] →
    ((started config usernames).play Database.executor schedule).plans[i]? =
      some (.done outcome) →
    outcome = (Session.mk ((started config usernames).play Database.executor before).store
      config none).resolve u
  /-- In any case it ends between the store of its users query and that of its last query. -/
  between : ∀ outcome,
    ((started config usernames).play Database.executor schedule).plans[i]? =
      some (.done outcome) →
    ∃ question first last,
      ((started config usernames).seen Database.executor i schedule).head? =
        some (lookingUp Query.defaultUsers u, some first) ∧
      ((started config usernames).seen Database.executor i schedule).getLast? =
        some (question, some last) ∧
      first.Grows last ∧ Between config pre u first last outcome
  /-- Lookups that take turns on a store that stays as it is end as one by one. -/
  gathered : ∀ (database : Database) (names : List String),
    gather Database.executor database (names.map (resolve config none)) =
      names.map fun name => (Session.mk database config none).resolve name

theorem resolve_interleaved (config : Config) (pre : String) (hconfig : config.Default pre)
    (usernames : List String) (schedule : List (Move Database))
    (hschedule : ∀ move ∈ schedule, Inserts move) (i : Nat) (u : String)
    (hu : usernames[i]? = some u) : Interleaved config pre usernames schedule i u := by
  have hplan : (started config usernames).plans[i]? = some (resolve config none u) := by
    show (usernames.map (resolve config none))[i]? = _
    rw [List.getElem?_map, hu]
    rfl
  constructor
  · exact fun hturns => Pool.done_of_turns hplan (endsIn_resolve config u) hturns
  · intro before during after outcome hsplit hstill hbefore hafter hdone
    have hfollows := Pool.follows_of_play hplan hdone
    rw [hsplit, Pool.seen_append, Pool.seen_append, hbefore, hafter, List.nil_append,
      List.append_nil] at hfollows
    refine (hfollows.run fun entry hentry => ?_).symm
    rw [Pool.seen_of_still hstill _ entry hentry]
  · intro outcome hdone
    have hfollows := Pool.follows_of_play hplan hdone
    obtain ⟨entries, hseen, hentries, hpairwise⟩ :=
      @seen_grows i schedule hschedule (started config usernames) {} rfl Tables.plain_empty
    rw [hseen] at hfollows ⊢
    obtain ⟨first, last, hhead, hlast, hquestion, hgrows, hbetween⟩ :=
      between_of_follows hconfig hfollows (fun entry hentry => (hentries entry hentry).1) hpairwise
    refine ⟨last.1, first.2, last.2, ?_, ?_, hgrows, hbetween⟩
    · rw [List.head?_map, hhead, ← hquestion]
      rfl
    · rw [List.getLast?_map, hlast]
      rfl
  · intro database names
    rw [gather_eq_map, List.map_map]
    rfl

/-- Two lookups of a user who is granted one name before and another one while they are under way.
-/
def staffSchedule : List (Move Database) :=
  [.change (Step.add .users [("username", .text "bob"), ("password", .text "pw")]).onDatabase,
    .change (Step.add .authorities
      [("username", .text "bob"), ("authority", .text "READER")]).onDatabase,
    .advance 0, .advance 1, .advance 1,
    .change (Step.add .authorities
      [("username", .text "bob"), ("authority", .text "WRITER")]).onDatabase,
    .advance 0, .advance 1, .advance 0, .advance 0]

theorem staffSchedule_inserts : ∀ move ∈ staffSchedule, Inserts move := by
  intro move hmove
  simp only [staffSchedule, List.mem_cons, List.not_mem_nil, or_false] at hmove
  rcases hmove with rfl | rfl | rfl | rfl | rfl | rfl | rfl | rfl | rfl | rfl
  · refine ⟨_, ?_, rfl⟩
    simp [Step.Plain, Table.columns, Column.Plain, Store.valueOf, List.lookup]
  · refine ⟨_, ?_, rfl⟩
    simp [Step.Plain, Table.columns, Column.Plain, Store.valueOf, List.lookup]
  · trivial
  · trivial
  · trivial
  · refine ⟨_, ?_, rfl⟩
    simp [Step.Plain, Table.columns, Column.Plain, Store.valueOf, List.lookup]
  · trivial
  · trivial
  · trivial
  · trivial

/-- The first of the two has ended, between two stores. -/
theorem resolve_interleaved_staff :
    Config.Default {} "" ∧ (∀ move ∈ staffSchedule, Inserts move) ∧
      ["bob", "bob"][0]? = some "bob" ∧
      ∃ outcome first last,
        ((started {} ["bob", "bob"]).play Database.executor staffSchedule).plans[0]? =
          some (.done outcome) ∧
        first.Grows last ∧ Between {} "" "bob" first last outcome := by
  have hconfig : Config.Default {} "" := ⟨rfl, rfl, rfl, rfl⟩
  refine ⟨hconfig, staffSchedule_inserts, rfl, ?_⟩
  have h := resolve_interleaved {} "" hconfig ["bob", "bob"] staffSchedule staffSchedule_inserts 0
    "bob" rfl
  obtain ⟨outcome, hdone⟩ := h.ends (by decide)
  obtain ⟨_, first, last, _, _, hgrows, hbetween⟩ := h.between outcome hdone
  exact ⟨outcome, first, last, hdone, hgrows, hbetween⟩

end Entitlement.Lookup
