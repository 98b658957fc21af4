import Entitlement.Proofs.Lookup.LogTrail
import Entitlement.Proofs.Lookup.Password
import Entitlement.Proofs.Lookup.Trace
import Entitlement.Proofs.Lookup.Union
import Entitlement.Proofs.Value.Text

/-!
# `Entitlement.Proofs.Lookup.RolePrefix` — the role prefix is put in front and does nothing else

Two lookups are compared that differ in the role prefix alone.  Behind the prefixes they come to the
same names, in the same order, or to the same failure.

| | |
| :-- | :-- |
| the names, before any prefix | `readName`, `Grants.namesFound` |
| what a prefix makes of a name | `prefixed` |
| what two runs have in common | `Uniform`: queries, calls of the hook, entries for the log, outcome |
| what two lists have in common | `Shared`: the names of the store, and behind them what the hook added |
| the statement | `resolve_uniform`, of aggregations and of whole lookups |

Repetitions are struck out behind the prefix.  That this comes to the same as striking them out in
front of it is the one thing to be proved here: a prefix keeps names apart (`prefixed_injective`),
and what keeps members apart commutes with `distinct`.

The hook sees the prefix, in the list it is given, so a hook that looks at the list may tell one
prefix from another.  The statement is about hooks that only append, and append the same to every
list (`OnlyAppends`); no hook at all is one of them.
-/
namespace Entitlement.Lookup

variable {α β : Type}

/-! ## Names and prefixes -/

def prefixed (pre name : String) : Authority := ⟨pre ++ name⟩

theorem prefixed_injective (pre : String) : Function.Injective (prefixed pre) := by
  intro a b hab
  exact (String.append_right_inj pre).mp (congrArg Authority.name hab)

theorem length_lt_prefixed {name : String} (h : name ≠ "") (pre : String) :
    pre.length < (prefixed pre name).name.length := by
  have hpos : 0 < name.length := Nat.pos_of_ne_zero fun hzero =>
    h (String.length_eq_zero_iff.mp hzero)
  show pre.length < (pre ++ name).length
  rw [String.length_append]
  omega

def readName (source : Source) (row : Row) : Except Fault String :=
  match row[source.column]? with
  | some v =>
    if namesNothing v then .error (.unnamedAuthority (source.column + 1)) else .ok v.toText
  | none => .error .rowTooShort

/-- Reading an authority is reading its name and putting it behind the prefix. -/
theorem readAuthority_eq_map (source : Source) (pre : String) (row : Row) :
    readAuthority source (.text pre) row = (readName source row).map (prefixed pre) := by
  unfold readAuthority readName
  cases row[source.column]? with
  | none => rfl
  | some v =>
      dsimp only
      split
      · rfl
      · rfl

theorem ne_empty_of_readName {source : Source} {row : Row} {name : String}
    (h : readName source row = .ok name) : name ≠ "" := by
  unfold readName at h
  split at h
  · rename_i v hv
    split at h
    · cases h
    · rename_i hnamed
      cases h
      intro hempty
      rw [Value.toText_eq_empty_iff.mp hempty] at hnamed
      exact hnamed rfl
  · cases h

theorem readRows_map {read : Row → Except Fault α} {f : α → β} (rows : List Row) :
    readRows (fun row => (read row).map f) rows = (readRows read rows).map (List.map f) := by
  induction rows with
  | nil => rfl
  | cons row rest ih =>
      simp only [readRows, ih]
      cases read row with
      | error fault => rfl
      | ok record =>
          cases readRows read rest with
          | error fault => rfl
          | ok records => rfl

/-! ## Names in the store -/

/-- The names an executor has for a username in a source, repetitions included; none when it is
switched off. -/
def Grants.namesFound (grants : Grants) (executor : Executor) (source : Source) (r : String) :
    Except Fault (List String) :=
  if grants.enabled source then recordsFrom executor (readName source) (grants.query source) r
  else .ok []

/-- The names of both sources, each at its first place. -/
structure Grants.Stores (grants : Grants) (executor : Executor) (r : String)
    (names : List String) : Prop where
  first : ∃ direct group, grants.namesFound executor .direct r = .ok direct ∧
    grants.namesFound executor .group r = .ok group ∧ FirstAppearances (direct ++ group) names
  named : ∀ name ∈ names, name ≠ ""

section Names

variable {grants : Grants} {executor : Executor} {source : Source} {r pre : String}

theorem found_eq_map (hpre : grants.rolePrefix = .text pre) :
    grants.found executor source r =
      (grants.namesFound executor source r).map (List.map (prefixed pre)) := by
  unfold Grants.found Grants.namesFound
  split
  · rw [hpre]
    unfold recordsFrom
    cases executor (lookingUp (grants.query source) r) with
    | error fault => rfl
    | ok rows =>
        have hread : readAuthority source (.text pre) =
            fun row => (readName source row).map (prefixed pre) := by
          funext row
          exact readAuthority_eq_map source pre row
        show readRows (readAuthority source (.text pre)) rows = _
        rw [hread]
        exact readRows_map rows
  · rfl

theorem ne_empty_of_namesFound {names : List String}
    (h : grants.namesFound executor source r = .ok names) : ∀ name ∈ names, name ≠ "" := by
  unfold Grants.namesFound at h
  split at h
  · obtain ⟨rows, -, hread⟩ := bind_readRows_eq_ok_iff.mp h
    intro name hname
    obtain ⟨row, -, hrow⟩ := (records_of_readRows hread).2 name hname
    exact ne_empty_of_readName hrow
  · cases h
    exact fun name hname => absurd hname List.not_mem_nil

theorem stores_distinct {direct group : List String}
    (hdirect : grants.namesFound executor .direct r = .ok direct)
    (hgroup : grants.namesFound executor .group r = .ok group) :
    grants.Stores executor r (distinct (direct ++ group)) where
  first := ⟨direct, group, hdirect, hgroup, firstAppearances_distinct _⟩
  named name hname := by
    rcases List.mem_append.mp (mem_distinct.mp hname) with hname | hname
    · exact ne_empty_of_namesFound hdirect name hname
    · exact ne_empty_of_namesFound hgroup name hname

end Names

/-! ## Hooks that only append -/

/-- A hook that only appends, and appends the same to whatever list it is given; it may look at the
username. -/
def OnlyAppends (hook : Option Hook) (added : String → List Authority) : Prop :=
  ∀ r found, edited hook r found = .ok (found ++ added r)

theorem onlyAppends_none : OnlyAppends none fun _ => [] := by
  intro r found
  rw [List.append_nil]
  rfl

/-- What an edit appends for a username; nothing is said of edits that do something else. -/
def Edit.added? (r : String) : Edit → Option Authority
  | .append name => some ⟨name⟩
  | .appendUser before => some ⟨before ++ r⟩
  | _ => none

theorem Edit.apply_of_added {r : String} {edit : Edit} {authority : Authority}
    (h : edit.added? r = some authority) (found : List Authority) :
    edit.apply r found = .ok (found ++ [authority]) := by
  cases edit with
  | append name =>
      cases h
      rfl
  | appendUser before =>
      cases h
      rfl
  | insert | pop | clear | reverse | fail => cases h

theorem onlyAppends_script {script : Script} {added : String → List Authority}
    (h : ∀ r, List.Forall₂ (fun edit authority => edit.added? r = some authority)
      script.edits (added r)) : OnlyAppends (some script.hook) added := by
  intro r found
  show script.hook.outcome r found = _
  rw [Script.outcome_hook, Script.run]
  have hedits := h r
  generalize script.edits = edits, added r = authorities at hedits
  induction hedits generalizing found with
  | nil =>
      rw [List.append_nil]
      rfl
  | @cons edit authority edits authorities hedit _ ih =>
      have hrest := ih (found ++ [authority])
      rw [List.append_assoc] at hrest
      rw [List.foldlM_cons, Edit.apply_of_added hedit]
      exact hrest

/-! ## Two runs -/

/-- Two calls of the hook that differ in the prefix of the names they are given. -/
def SameCall (p q : String) (call call' : String × List Authority) : Prop :=
  call.1 = call'.1 ∧
    ∃ names : List String, call.2 = names.map (prefixed p) ∧ call'.2 = names.map (prefixed q)

/-- Acts under the prefix `p` and acts under the prefix `q` that differ in the prefix alone. -/
structure SameActs (p q : String) (acts acts' : List Act) : Prop where
  /-- The same queries with the same arguments. -/
  asked : questions acts = questions acts'
  /-- The hook is called as often, for the same username and with the same names. -/
  called : List.Forall₂ (SameCall p q) (hookCalls acts) (hookCalls acts')
  /-- The same entries for the log. -/
  entered : logEntries acts = logEntries acts'

theorem SameActs.of_uncalled {p q : String} {acts : List Act} (h : hookCalls acts = []) :
    SameActs p q acts acts := by
  refine ⟨rfl, ?_, rfl⟩
  rw [h]
  exact .nil

theorem SameActs.append {p q : String} {acts acts' more more' : List Act}
    (h : SameActs p q acts acts') (hmore : SameActs p q more more') :
    SameActs p q (acts ++ more) (acts' ++ more') := by
  refine ⟨?_, ?_, ?_⟩
  · rw [questions_append, questions_append, h.asked, hmore.asked]
  · rw [hookCalls_append, hookCalls_append]
    exact List.rel_append h.called hmore.called
  · rw [logEntries_append, logEntries_append, h.entered, hmore.entered]

theorem sameActs_asking (p q : String) (grants : Grants) (source : Source) (r : String) :
    SameActs p q (grants.asking source r) (grants.asking source r) :=
  .of_uncalled (hookCalls_asking grants source r)

theorem sameActs_consulting (p q : String) (hook : Option Hook) (r : String)
    (names : List String) :
    SameActs p q (consulting hook r (names.map (prefixed p)))
      (consulting hook r (names.map (prefixed q))) := by
  cases hook with
  | none => exact ⟨rfl, .nil, rfl⟩
  | some h => exact ⟨rfl, .cons ⟨rfl, names, rfl, rfl⟩ .nil, rfl⟩

/-- What a run under the prefix `p` and a run under the prefix `q` have in common, `related` saying
how their results may differ. -/
structure Uniform (p q : String) (related : α → α → Prop)
    (run run' : Except Fault α × List Act) : Prop where
  acts : SameActs p q run.2 run'.2
  /-- The same failure, or results that are related. -/
  outcomes : Matching related run.1 run'.1

/-- The lists of authorities that come of the prefixes `p` and `q`: the names of the store, each
behind the prefix, and then what the hook added, as it is. -/
structure Shared (grants : Grants) (executor : Executor) (r : String) (added : List Authority)
    (p q : String) (names : List String) (found found' : List Authority) : Prop where
  stored : grants.Stores executor r names
  left : found = names.map (prefixed p) ++ added
  right : found' = names.map (prefixed q) ++ added
  length : found.length = found'.length
  /-- No prefix makes one name of two. -/
  apart : (names.map (prefixed p)).Nodup ∧ (names.map (prefixed q)).Nodup
  /-- An authority of the store is longer than the prefix. -/
  longer : ∀ name ∈ names, p.length < (prefixed p name).name.length ∧
    q.length < (prefixed q name).name.length

theorem Grants.Stores.shared {grants : Grants} {executor : Executor} {r : String}
    {names : List String} (h : grants.Stores executor r names) (added : List Authority)
    (p q : String) :
    Shared grants executor r added p q names
      (names.map (prefixed p) ++ added) (names.map (prefixed q) ++ added) := by
  obtain ⟨direct, group, -, -, hfirst⟩ := h.first
  refine ⟨h, rfl, rfl, ?_, ⟨?_, ?_⟩, ?_⟩
  · simp only [List.length_append, List.length_map]
  · exact hfirst.once.map (prefixed_injective p)
  · exact hfirst.once.map (prefixed_injective q)
  · intro name hname
    exact ⟨length_lt_prefixed (h.named name hname) p, length_lt_prefixed (h.named name hname) q⟩

def Config.behind (config : Config) (pre : String) : Config :=
  { config with rolePrefix := .text pre }

section Runs

variable {config : Config} {hook : Option Hook} {added : String → List Authority}
  {executor : Executor}

/-! ## Aggregations under two prefixes -/

theorem found_behind (source : Source) (pre r : String) :
    ((config.behind pre).grants hook).found executor source r =
      ((config.grants hook).namesFound executor source r).map (List.map (prefixed pre)) := by
  rw [found_eq_map rfl]
  cases source <;> rfl

theorem asking_behind (source : Source) (pre r : String) :
    ((config.behind pre).grants hook).asking source r = (config.grants hook).asking source r := by
  cases source <;> rfl

theorem found_behind_of_error {source : Source} {r : String} {fault : Fault}
    (h : (config.grants hook).namesFound executor source r = .error fault) (pre : String) :
    ((config.behind pre).grants hook).found executor source r = .error fault := by
  rw [found_behind, h]
  rfl

theorem found_behind_of_ok {source : Source} {r : String} {names : List String}
    (h : (config.grants hook).namesFound executor source r = .ok names) (pre : String) :
    ((config.behind pre).grants hook).found executor source r =
      .ok (names.map (prefixed pre)) := by
  rw [found_behind, h]
  rfl

/-- An aggregation that has read the names puts them behind the prefix, without repetitions, and
leaves them to the hook. -/
theorem run_aggregate_of_names {r : String} {direct group : List String}
    (hdirect : (config.grants hook).namesFound executor .direct r = .ok direct)
    (hgroup : (config.grants hook).namesFound executor .group r = .ok group) (pre : String) :
    (aggregate ((config.behind pre).grants hook) r).run executor =
      (settled r (edited hook r ((distinct (direct ++ group)).map (prefixed pre))),
        (config.grants hook).asking .direct r ++ (config.grants hook).asking .group r ++
          consulting hook r ((distinct (direct ++ group)).map (prefixed pre))) := by
  have hlist : distinct (direct.map (prefixed pre) ++ group.map (prefixed pre)) =
      (distinct (direct ++ group)).map (prefixed pre) := by
    rw [← List.map_append, distinct_map (prefixed_injective pre)]
  rw [run_aggregate_of_found (found_behind_of_ok hdirect pre) (found_behind_of_ok hgroup pre),
    hlist, asking_behind, asking_behind]
  rfl

theorem Matching.settled {related : List Authority → List Authority → Prop}
    {found found' : List Authority} (hrelated : related found found')
    (hempty : found = [] ↔ found' = []) (r : String) :
    Matching related (settled r (.ok found)) (settled r (.ok found')) := by
  cases found with
  | nil =>
      rw [hempty.mp rfl]
      exact .error _
  | cons first rest =>
      cases found' with
      | nil => cases hempty.mpr rfl
      | cons first' rest' => exact .ok hrelated

theorem aggregate_uniform (hhook : OnlyAppends hook added) (r p q : String) :
    Uniform p q
      (fun found found' => ∃ names,
        Shared (config.grants hook) executor r (added r) p q names found found')
      ((aggregate ((config.behind p).grants hook) r).run executor)
      ((aggregate ((config.behind q).grants hook) r).run executor) := by
  have hasked := fun source => sameActs_asking p q (config.grants hook) source r
  cases hdirect : (config.grants hook).namesFound executor .direct r with
  | error fault =>
      have hrun : ∀ pre, (aggregate ((config.behind pre).grants hook) r).run executor =
          (.error fault, (config.grants hook).asking .direct r) := by
        intro pre
        rw [← asking_behind .direct pre]
        exact (Aggregation.directFails (found_behind_of_error hdirect pre)).run_eq
      rw [hrun p, hrun q]
      exact ⟨hasked .direct, .error fault⟩
  | ok direct =>
      cases hgroup : (config.grants hook).namesFound executor .group r with
      | error fault =>
          have hrun : ∀ pre, (aggregate ((config.behind pre).grants hook) r).run executor =
              (.error fault,
                (config.grants hook).asking .direct r ++ (config.grants hook).asking .group r) := by
            intro pre
            rw [← asking_behind .direct pre, ← asking_behind .group pre]
            exact (Aggregation.groupFails (found_behind_of_ok hdirect pre)
              (found_behind_of_error hgroup pre)).run_eq
          rw [hrun p, hrun q]
          exact ⟨(hasked .direct).append (hasked .group), .error fault⟩
      | ok group =>
          rw [run_aggregate_of_names hdirect hgroup, run_aggregate_of_names hdirect hgroup,
            hhook, hhook]
          have hstores := stores_distinct hdirect hgroup
          refine ⟨?_, Matching.settled ⟨_, hstores.shared (added r) p q⟩ ?_ r⟩
          · exact ((hasked .direct).append (hasked .group)).append (sameActs_consulting p q _ _ _)
          · simp only [List.append_eq_nil_iff, List.map_eq_nil_iff]

/-! ## Lookups under two prefixes -/

/-- Principals that come of the prefixes `p` and `q`: they differ in the authorities alone, and those
are the names of the store for the user that was found. -/
structure SharedPrincipals (config : Config) (hook : Option Hook) (executor : Executor) (u : String)
    (added : String → List Authority) (p q : String) (principal principal' : Principal) : Prop where
  username : principal.username = principal'.username
  password : principal.password = principal'.password
  enabled : principal.enabled = principal'.enabled
  authorities : ∃ record others names, config.usersFound executor u = .ok (record :: others) ∧
    Shared (config.grants hook) executor record.username (added record.username) p q names
      principal.authorities principal'.authorities

theorem resolve_uniform_of_hook (hhook : OnlyAppends hook added) (u p q : String) :
    Uniform p q (SharedPrincipals config hook executor u added p q)
      ((resolve (config.behind p) hook u).run executor)
      ((resolve (config.behind q) hook u).run executor) := by
  have husers : SameActs p q [config.askingUsers u] [config.askingUsers u] := .of_uncalled rfl
  have hlogged : ∀ entry : LogEntry,
      SameActs p q [.noted (.logged entry)] [.noted (.logged entry)] := fun _ => .of_uncalled rfl
  -- Neither prefix has a say in which users are found.
  have hfound : ∀ {found pre}, config.usersFound executor u = found →
      (config.behind pre).usersFound executor u = found := fun h => h
  cases hread : config.usersFound executor u with
  | error fault =>
      rw [(Resolution.usersFail (hfound hread)).run_eq, (Resolution.usersFail (hfound hread)).run_eq]
      exact ⟨husers, .error fault⟩
  | ok records =>
      cases records with
      | nil =>
          rw [(Resolution.unknown (hfound hread)).run_eq, (Resolution.unknown (hfound hread)).run_eq]
          exact ⟨husers.append (hlogged _), .error _⟩
      | cons record others =>
          have huniform := @aggregate_uniform config hook added executor hhook record.username p q
          obtain ⟨outcome, acts, ha⟩ :=
            aggregation_run ((config.behind p).grants hook) executor record.username
          obtain ⟨outcome', acts', ha'⟩ :=
            aggregation_run ((config.behind q).grants hook) executor record.username
          rw [ha.run_eq, ha'.run_eq] at huniform
          have hacts : SameActs p q acts acts' := huniform.acts
          have hmatching : Matching _ outcome outcome' := huniform.outcomes
          cases hmatching with
          | error fault =>
              by_cases hwant : ∃ name, fault = .failure .noAuthority name
              · obtain ⟨name, rfl⟩ := hwant
                rw [(Resolution.unauthorised (hfound hread) ha).run_eq,
                  (Resolution.unauthorised (hfound hread) ha').run_eq]
                exact ⟨husers.append (hacts.append (hlogged _)), .error _⟩
              · have hother := not_exists.mp hwant
                rw [(Resolution.fails (hfound hread) ha hother).run_eq,
                  (Resolution.fails (hfound hread) ha' hother).run_eq]
                exact ⟨husers.append hacts, .error fault⟩
          | @ok authorities authorities' hshared =>
              obtain ⟨names, hshared⟩ := hshared
              rw [(Resolution.resolved (hfound hread) ha).run_eq,
                (Resolution.resolved (hfound hread) ha').run_eq]
              have hentry :
                  entryResolved ((config.behind p).principal u record authorities) =
                    entryResolved ((config.behind q).principal u record authorities') := by
                simp only [entryResolved, Config.principal, hshared.length]
                rfl
              rw [hentry]
              exact ⟨husers.append (hacts.append (hlogged _)),
                .ok ⟨rfl, rfl, rfl, record, others, names, hread, hshared⟩⟩

end Runs

/-! ## The statement -/

/-- Two lookups that differ in the role prefix alone put the same queries and end with the same
failure, or with the same names of the store behind the one prefix and behind the other, followed by
what the hook added; and so do two aggregations. -/
theorem resolve_uniform (config : Config) (hook : Option Hook) (added : String → List Authority)
    (executor : Executor) (p q : String) (hhook : OnlyAppends hook added) :
    (∀ r, Uniform p q
      (fun found found' => ∃ names,
        Shared (config.grants hook) executor r (added r) p q names found found')
      ((aggregate ((config.behind p).grants hook) r).run executor)
      ((aggregate ((config.behind q).grants hook) r).run executor)) ∧
    ∀ u, Uniform p q (SharedPrincipals config hook executor u added p q)
      ((resolve (config.behind p) hook u).run executor)
      ((resolve (config.behind q) hook u).run executor) := by
  constructor
  · intro r
    exact aggregate_uniform hhook r p q
  · intro u
    exact resolve_uniform_of_hook hhook u p q

def bothConfig : Config := { shortConfig with enableGroups := .bool true }

/-- A store that spells the user `Amy`, and that grants one name twice: as a number directly, and as
a text through a group. -/
def bothStore : Executor :=
  preparedStore
    [⟨"users :u", none, .ok [[.text "Amy", .text "pw", .int 1]]⟩,
      ⟨"direct :u", none, .ok [[.text "Amy", .int 1], [.text "Amy", .text "b"]]⟩,
      ⟨"group :u", none, .ok [[.int 7, .text "g", .text "1"], [.int 7, .text "g", .text "c"]]⟩]

/-- A hook that appends a name which the store grants as well, and the username. -/
def greeting : Script where
  edits := [.append "b", .appendUser "user_"]

theorem onlyAppends_greeting :
    OnlyAppends (some greeting.hook) fun r => [⟨"b"⟩, ⟨"user_" ++ r⟩] := by
  refine onlyAppends_script fun r => ?_
  exact .cons rfl (.cons rfl .nil)

/-- Without a prefix the hook repeats a name of the store, and behind a prefix it does not; its names
are not prefixed either way. -/
theorem resolve_uniform_amy :
    OnlyAppends (some greeting.hook) (fun r => [⟨"b"⟩, ⟨"user_" ++ r⟩]) ∧
      Uniform "" "R_"
        (SharedPrincipals bothConfig (some greeting.hook) bothStore "amy"
          (fun r => [⟨"b"⟩, ⟨"user_" ++ r⟩]) "" "R_")
        ((resolve (bothConfig.behind "") (some greeting.hook) "amy").run bothStore)
        ((resolve (bothConfig.behind "R_") (some greeting.hook) "amy").run bothStore) ∧
      ((resolve (bothConfig.behind "") (some greeting.hook) "amy").run bothStore).1 =
        .ok ⟨"Amy", .text "pw", true, [⟨"1"⟩, ⟨"b"⟩, ⟨"c"⟩, ⟨"b"⟩, ⟨"user_Amy"⟩]⟩ ∧
      ((resolve (bothConfig.behind "R_") (some greeting.hook) "amy").run bothStore).1 =
        .ok ⟨"Amy", .text "pw", true, [⟨"R_1"⟩, ⟨"R_b"⟩, ⟨"R_c"⟩, ⟨"b"⟩, ⟨"user_Amy"⟩]⟩ := by
  refine ⟨onlyAppends_greeting, ?_, rfl, rfl⟩
  exact (resolve_uniform bothConfig (some greeting.hook) _ bothStore "" "R_"
    onlyAppends_greeting).2 "amy"

end Entitlement.Lookup
