import Entitlement.Proofs.Lookup.LogTrail
import Entitlement.Proofs.Lookup.Trace
import Entitlement.Proofs.Lookup.Union

/-!
# `Entitlement.Proofs.Lookup.Identifier` — the identifier policy names the principal and does no more

A lookup has two spellings of a username at hand: the one it was asked for, `u`, and the one in the
first user row, `r`.  They serve different purposes.

| spelling | used for |
| :-- | :-- |
| `u` | the users query, failures, and the entries for the log about them |
| `r` | the queries of the sources, and the hook |
| either | the username of the principal, and with it the entry for the log about it |

The identifier policy decides the last line and has no say in the others.  Two lookups are compared
here that differ in the policy alone.  They are one lookup until the principal is made
(`Parting`): where there is none they never part, and where there is one they part in its username and
in the one field of the log that repeats it (`resolve_identifier`).

That the policy is kept as given, whatever its form, is no third possibility: it is judged by its
truth.
-/
namespace Entitlement.Lookup

def Config.naming (config : Config) (policy : Bool) : Config :=
  { config with usernameBasedPrimaryKey := .bool policy }

/-! ## What the sources and the hook are asked about -/

@[simp] theorem questions_consulting (hook : Option Hook) (r : String) (found : List Authority) :
    questions (consulting hook r found) = [] := by
  cases hook with
  | none => rfl
  | some h => rfl

theorem of_mem_questions_asking {grants : Grants} {source : Source} {r : String}
    {question : Question} (h : question ∈ questions (grants.asking source r)) :
    question = lookingUp (grants.query source) r := by
  unfold Grants.asking at h
  split at h
  · exact List.mem_singleton.mp h
  · cases h

theorem of_mem_hookCalls_consulting {hook : Option Hook} {r : String} {found : List Authority}
    {call : String × List Authority} (h : call ∈ hookCalls (consulting hook r found)) :
    call.1 = r := by
  cases hook with
  | none => cases h
  | some _ =>
      obtain rfl := List.mem_singleton.mp h
      rfl

/-- Acts that are about one username: queries of sources and calls of the hook. -/
structure Grants.About (grants : Grants) (r : String) (acts : List Act) : Prop where
  asked : ∀ question ∈ questions acts, ∃ source, question = lookingUp (grants.query source) r
  called : ∀ call ∈ hookCalls acts, call.1 = r

theorem Grants.About.append {grants : Grants} {r : String} {acts more : List Act}
    (h : grants.About r acts) (hmore : grants.About r more) : grants.About r (acts ++ more) := by
  constructor
  · rw [questions_append]
    exact List.forall_mem_append.mpr ⟨h.asked, hmore.asked⟩
  · rw [hookCalls_append]
    exact List.forall_mem_append.mpr ⟨h.called, hmore.called⟩

theorem about_asking (grants : Grants) (source : Source) (r : String) :
    grants.About r (grants.asking source r) where
  asked _ h := ⟨source, of_mem_questions_asking h⟩
  called _ h := by
    rw [hookCalls_asking] at h
    cases h

theorem about_consulting (grants : Grants) (hook : Option Hook) (r : String)
    (found : List Authority) : grants.About r (consulting hook r found) where
  asked _ h := by
    rw [questions_consulting] at h
    cases h
  called _ h := of_mem_hookCalls_consulting h

theorem Aggregation.about {grants : Grants} {executor : Executor} {r : String}
    {outcome : Except Fault (List Authority)} {acts : List Act}
    (h : Aggregation grants executor r outcome acts) : grants.About r acts := by
  have hasked : grants.About r (grants.asking .direct r ++ grants.asking .group r) :=
    (about_asking grants .direct r).append (about_asking grants .group r)
  cases h with
  | directFails _ => exact about_asking grants .direct r
  | groupFails _ _ => exact hasked
  | hookFails _ _ _ => exact hasked.append (about_consulting grants _ r _)
  | nothingLeft _ _ _ => exact hasked.append (about_consulting grants _ r _)
  | granted _ _ _ _ => exact hasked.append (about_consulting grants _ r _)

section Lookup

variable {config : Config} {hook : Option Hook} {executor : Executor} {u : String}

/-! ## Where two lookups part -/

/-- Two runs that are one run, and a failure, or that part in the username of a principal: the first
one names it as the store does, and the other one as the caller does. -/
inductive Parting (config : Config) (executor : Executor) (u : String) :
    (run run' : Except Fault Principal × List Act) → Prop
  | together {fault : Fault} {acts : List Act} :
      Parting config executor u (.error fault, acts) (.error fault, acts)
  | parted {r : String} {p : Principal} {acts : List Act} :
      config.Spelled executor u r → logEntries acts = [] →
      Parting config executor u
        (.ok { p with username := r },
          acts ++ [.noted (.logged (entryResolved { p with username := r }))])
        (.ok { p with username := u },
          acts ++ [.noted (.logged (entryResolved { p with username := u }))])

/-- The rule that ends a lookup under the one policy ends it under the other. -/
theorem parting_resolve (config : Config) (hook : Option Hook) (executor : Executor) (u : String) :
    Parting config executor u ((resolve (config.naming true) hook u).run executor)
      ((resolve (config.naming false) hook u).run executor) := by
  obtain ⟨outcome, acts, hr⟩ := resolution_run (config.naming true) hook executor u
  rw [hr.run_eq]
  cases hr with
  | usersFail hu =>
      have hr' : Resolution (config.naming false) hook executor u _ _ := .usersFail hu
      rw [hr'.run_eq]
      exact .together
  | unknown hu =>
      have hr' : Resolution (config.naming false) hook executor u _ _ := .unknown hu
      rw [hr'.run_eq]
      exact .together
  | unauthorised hu ha =>
      have hr' : Resolution (config.naming false) hook executor u _ _ := .unauthorised hu ha
      rw [hr'.run_eq]
      exact .together
  | fails hu ha hne =>
      have hr' : Resolution (config.naming false) hook executor u _ _ := .fails hu ha hne
      rw [hr'.run_eq]
      exact .together
  | @resolved record others authorities acts hu ha =>
      have hr' : Resolution (config.naming false) hook executor u _ _ := .resolved hu ha
      rw [hr'.run_eq]
      exact @Parting.parted config executor u record.username
        ⟨record.username, record.password, record.enabled, authorities⟩
        (config.askingUsers u :: acts) (spelled_of_usersFound hu) ha.logEntries_eq_nil

namespace Parting

variable {run run' : Except Fault Principal × List Act}

theorem questions_eq (h : Parting config executor u run run') :
    questions run.2 = questions run'.2 := by
  cases h with
  | together => rfl
  | parted _ _ =>
      rw [questions_append, questions_append]
      rfl

theorem hookCalls_eq (h : Parting config executor u run run') :
    hookCalls run.2 = hookCalls run'.2 := by
  cases h with
  | together => rfl
  | parted _ _ =>
      rw [hookCalls_append, hookCalls_append]
      rfl

theorem eq_of_error (h : Parting config executor u run run') {fault : Fault}
    (hfault : run.1 = .error fault ∨ run'.1 = .error fault) : run = run' := by
  cases h with
  | together => rfl
  | parted _ _ => rcases hfault with hfault | hfault <;> cases hfault

end Parting

/-! ## Which spelling serves which purpose -/

/-- Which spelling the acts of a lookup are about. -/
structure Config.Spelling (config : Config) (hook : Option Hook) (executor : Executor) (u : String)
    (acts : List Act) : Prop where
  /-- The user is asked for as the caller does, and the sources as the store does. -/
  asked : ∀ question ∈ questions acts, question = lookingUp config.usersQuery u ∨
    ∃ r source, config.Spelled executor u r ∧
      question = lookingUp ((config.grants hook).query source) r
  /-- The hook is told the store's spelling. -/
  called : ∀ call ∈ hookCalls acts, config.Spelled executor u call.1

/-- Behind the users come acts about the name of the record, and then at most an entry for the
log. -/
theorem spelling_behind {record : UserRecord} {others : List UserRecord}
    {outcome : Except Fault (List Authority)} {acts more : List Act}
    (hu : config.usersFound executor u = .ok (record :: others))
    (ha : Aggregation (config.grants hook) executor record.username outcome acts)
    (hquestions : questions more = []) (hcalls : hookCalls more = []) :
    config.Spelling hook executor u (config.askingUsers u :: (acts ++ more)) where
  asked question hquestion := by
    have hquestion' : question ∈ lookingUp config.usersQuery u :: questions (acts ++ more) :=
      hquestion
    rw [questions_append, hquestions, List.append_nil] at hquestion'
    rcases List.mem_cons.mp hquestion' with rfl | hquestion'
    · exact .inl rfl
    · obtain ⟨source, hsource⟩ := ha.about.asked question hquestion'
      exact .inr ⟨record.username, source, spelled_of_usersFound hu, hsource⟩
  called call hcall := by
    have hcall' : call ∈ hookCalls (acts ++ more) := hcall
    rw [hookCalls_append, hcalls, List.append_nil] at hcall'
    rw [ha.about.called call hcall']
    exact spelled_of_usersFound hu

theorem spelling_users {acts : List Act} (hquestions : questions acts = [])
    (hcalls : hookCalls acts = []) :
    config.Spelling hook executor u (config.askingUsers u :: acts) where
  asked question hquestion := by
    have hquestion' : question ∈ lookingUp config.usersQuery u :: questions acts := hquestion
    rw [hquestions] at hquestion'
    exact .inl (List.mem_singleton.mp hquestion')
  called call hcall := by
    have hcall' : call ∈ hookCalls acts := hcall
    rw [hcalls] at hcall'
    cases hcall'

theorem spelling_resolve (config : Config) (hook : Option Hook) (executor : Executor) (u : String) :
    config.Spelling hook executor u ((resolve config hook u).run executor).2 := by
  obtain ⟨outcome, acts, hr⟩ := resolution_run config hook executor u
  rw [hr.run_eq]
  cases hr with
  | usersFail _ => exact spelling_users rfl rfl
  | unknown _ => exact spelling_users rfl rfl
  | unauthorised hu ha => exact spelling_behind hu ha rfl rfl
  | @fails record others fault acts hu ha _ =>
      have hspelling := @spelling_behind _ _ _ _ _ _ _ _ [] hu ha rfl rfl
      rw [List.append_nil] at hspelling
      exact hspelling
  | resolved hu ha => exact spelling_behind hu ha rfl rfl

/-- Of the policy nothing counts but its truth. -/
theorem resolve_naming_truthy (config : Config) (hook : Option Hook) (u : String) :
    resolve (config.naming config.usernameBasedPrimaryKey.truthy) hook u =
      resolve config hook u := by
  have htruthy : (Value.bool config.usernameBasedPrimaryKey.truthy).truthy =
      config.usernameBasedPrimaryKey.truthy := rfl
  have hconclude : conclude (config.naming config.usernameBasedPrimaryKey.truthy) =
      conclude config := by
    funext username record result
    simp only [conclude, Config.principal, Config.naming, htruthy]
  unfold resolve
  rw [hconclude]
  rfl

theorem wanting_resolve {name : String}
    (h : ((resolve config hook u).run executor).1 = .error (.failure .noAuthority name)) :
    name = u ∨ executor (lookingUp config.usersQuery u) = .error (.failure .noAuthority name) := by
  obtain ⟨outcome, acts, hr⟩ := resolution_run config hook executor u
  rw [hr.run_eq] at h
  cases hr with
  | usersFail hu =>
      cases h
      right
      cases hanswer : executor (lookingUp config.usersQuery u) with
      | error fault =>
          rw [usersFound_of_fault hanswer] at hu
          cases hu
          rfl
      | ok rows =>
          rw [usersFound_of_rows hanswer] at hu
          obtain ⟨row, -, hrow⟩ := refusal_of_readRows hu
          rcases readUser_refusal hrow with hfault | hfault <;> cases hfault
  | unknown => cases h
  | unauthorised =>
      cases h
      exact .inl rfl
  | fails _ _ hne =>
      cases h
      exact absurd rfl (hne name)
  | resolved => cases h

theorem entries_of_failure {fault : Fault}
    (h : ((resolve config hook u).run executor).1 = .error fault) :
    ∀ entry ∈ logEntries ((resolve config hook u).run executor).2,
      entry = entryUserNotFound u ∨ entry = entryNoAuthority u := by
  have hentered := entered_resolve config hook executor u
  rw [h] at hentered
  generalize logEntries ((resolve config hook u).run executor).2 = entries at hentered ⊢
  intro entry hentry
  cases hentered with
  | unknown => exact .inl (List.mem_singleton.mp hentry)
  | unauthorised => exact .inr (List.mem_singleton.mp hentry)
  | silent => cases hentry

/-! ## The statement -/

/-- What the identifier policy makes of the lookup of a username, in clauses: `run` is the lookup
that names the principal as the store does, and `run'` the one that names it as the caller does. -/
structure IdentifierOnly (config : Config) (hook : Option Hook) (executor : Executor) (u : String)
    (run run' : Except Fault Principal × List Act) : Prop where
  /-- The same queries with the same arguments, in the same order. -/
  asked : questions run.2 = questions run'.2
  /-- The same calls of the hook, with the same lists. -/
  called : hookCalls run.2 = hookCalls run'.2
  /-- The user is asked for by the caller's spelling; the sources are asked by the store's, and the
  hook is told the store's. -/
  spelling : config.Spelling hook executor u run.2
  /-- Where one of them fails the two are one lookup, with one failure and the same entries for the
  log. -/
  failed : ∀ fault, run.1 = .error fault ∨ run'.1 = .error fault → run = run'
  /-- No row is a failure about the caller's spelling. -/
  unknown : config.Unknown executor u → run.1 = .error (.failure .userNotFound u)
  /-- So is a want of authorities, unless the users query has put it into its own words. -/
  wanting : ∀ name, run.1 = .error (.failure .noAuthority name) → name = u ∨
    executor (lookingUp config.usersQuery u) = .error (.failure .noAuthority name)
  /-- What a failure writes into the log is about the caller's spelling. -/
  failedAbout : ∀ fault, run.1 = .error fault → ∀ entry ∈ logEntries run.2,
    entry = entryUserNotFound u ∨ entry = entryNoAuthority u
  /-- Where one of them returns a principal both do, and the principals differ in the username alone:
  it is the store's spelling in the one and the caller's in the other, and so it is in the one field
  of the one entry for the log that names the principal. -/
  resolved : (∃ p, run.1 = .ok p) ∨ (∃ p, run'.1 = .ok p) →
    ∃ r password enabled authorities, config.Spelled executor u r ∧
      run.1 = .ok ⟨r, password, enabled, authorities⟩ ∧
      run'.1 = .ok ⟨u, password, enabled, authorities⟩ ∧
      logEntries run.2 = [⟨"principal_resolved", .debug,
        [("username", .text r), ("enabled", .bool enabled),
          ("authority_count", .int authorities.length)]⟩] ∧
      logEntries run'.2 = [⟨"principal_resolved", .debug,
        [("username", .text u), ("enabled", .bool enabled),
          ("authority_count", .int authorities.length)]⟩]

/-- Nothing but the identifier depends on the identifier policy, whatever the rest of the
configuration, the hook, what answers the queries and the username are; and of the policy nothing
counts but its truth. -/
theorem resolve_identifier (config : Config) (hook : Option Hook) (executor : Executor)
    (u : String) :
    IdentifierOnly config hook executor u
      ((resolve (config.naming true) hook u).run executor)
      ((resolve (config.naming false) hook u).run executor) ∧
    (resolve config hook u).run executor =
      (resolve (config.naming config.usernameBasedPrimaryKey.truthy) hook u).run executor := by
  have hparting := parting_resolve config hook executor u
  have hspelling := spelling_resolve (config.naming true) hook executor u
  constructor
  · refine ⟨hparting.questions_eq, hparting.hookCalls_eq,
      ⟨hspelling.asked, hspelling.called⟩, fun _ => hparting.eq_of_error, ?_, ?_,
      fun _ h => entries_of_failure h, ?_⟩
    · intro hunknown
      have hr : Resolution (config.naming true) hook executor u _ _ :=
        .unknown (usersFound_eq_ok_nil_iff.mpr hunknown)
      rw [hr.run_eq]
    · intro name hwant
      exact @wanting_resolve (config.naming true) hook executor u name hwant
    · intro hsome
      generalize (resolve (config.naming true) hook u).run executor = run at hparting hsome ⊢
      generalize (resolve (config.naming false) hook u).run executor = run' at hparting hsome ⊢
      cases hparting with
      | together => rcases hsome with ⟨p, hp⟩ | ⟨p, hp⟩ <;> cases hp
      | @parted r p acts hspelled hquiet =>
          refine ⟨r, p.password, p.enabled, p.authorities, hspelled, rfl, rfl, ?_, ?_⟩
          · rw [logEntries_append, hquiet]
            rfl
          · rw [logEntries_append, hquiet]
            rfl
  · rw [resolve_naming_truthy]

end Lookup

-- The policy is given as an empty text, so it is not set, and the store's spelling is left to the
-- sources.
example :
    (resolve { usernameBasedPrimaryKey := .text "" } none "bob").run
      (preparedStore
        [⟨Query.defaultUsers, none, .ok [[.text "Bob", .text "pw", .int 1]]⟩,
          ⟨Query.defaultAuthorities, some (.text "Bob"), .ok [[.text "Bob", .text "READER"]]⟩]) =
      (.ok ⟨"bob", .text "pw", true, [⟨"READER"⟩]⟩,
        [.asked (lookingUp Query.defaultUsers "bob"),
          .asked (lookingUp Query.defaultAuthorities "Bob"),
          .noted (.logged (entryResolved ⟨"bob", .text "pw", true, [⟨"READER"⟩]⟩))]) := by
  rfl

end Entitlement.Lookup
