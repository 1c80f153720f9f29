import Tabula.Proofs.Transaction.Step

/-!
# What the calls of a transaction do

Each call of a transaction has an inversion lemma. `RollsBackAll` and `CommitsAll` follow the
connections that are left one after the other, `NextRun` the ways in which the next step goes, and
`Ran` counts how many steps have run since a call was made.

* `rollbackAll_run`, `commitAll_run`: how connections are left.
* `executeNext_run`, `commit_run`, `rollback_run`: the calls.
* `runSteps_run`, `execute_run`: running all steps is running one after the other.
-/

namespace Tabula

namespace Transaction

variable {β : Type} [Backend β]

/-! ## Leaving connections -/

/-- The ways in which rolling back connections in order goes. -/
inductive RollsBackAll :
    (Nat → Nat) → List Nat → Outcome (List Error) → List Mark → (Nat → Nat) → Prop
  /-- none is left -/
  | nil {d : Nat → Nat} : RollsBackAll d [] (.ok []) [] d
  /-- it gets stuck -/
  | stuck {d d' : Nat → Nat} {c : Nat} {cs : List Nat} {ms : List Mark}
    (first : Session.RollsBack d c (.error .stuck) ms d') :
    RollsBackAll d (c :: cs) (.error .stuck) ms d'
  /-- one after the other -/
  | cons {d d' d'' : Nat → Nat} {c : Nat} {cs : List Nat} {r : Outcome Unit}
    {o : Outcome (List Error)} {ms ns : List Mark} (first : Session.RollsBack d c r ms d')
    (answered : r ≠ .error .stuck) (rest : RollsBackAll d' cs o ns d'') :
    RollsBackAll d (c :: cs) (o.map (errorsOf r ++ ·)) (ms ++ ns) d''

/-- Leaving connections fails only by getting stuck. -/
theorem RollsBackAll.halt {d d' : Nat → Nat} {cs : List Nat} {o : Outcome (List Error)}
    {ms : List Mark} (h : RollsBackAll d cs o ms d') {halt : Halt} (ho : o = .error halt) :
    halt = .stuck := by
  induction h with
  | nil => cases ho
  | stuck first => exact (Except.error.inj ho).symm
  | @cons _ _ _ _ _ _ o _ _ first answered rest ih =>
    rcases o with halt | es
    · exact ih ho
    · cases ho

theorem rollbackAll_run {cs : List Nat} {s s' : Session β} {o : Outcome (List Error)}
    (h : (rollbackAll cs).run s = (o, s')) :
    ∃ ms d, RollsBackAll s.depth cs o ms d ∧ s.Leads ms d s' := by
  induction cs generalizing s o with
  | nil =>
    obtain ⟨rfl, rfl⟩ := Action.pure_eq h
    exact ⟨[], _, .nil, .refl _⟩
  | cons c cs ih =>
    rw [rollbackAll] at h
    obtain ⟨r, t, h₁, h⟩ := Action.bind_eq h
    obtain ⟨ms, d, hr, hl⟩ := Session.rollback_run h₁
    -- an error is noted, and the rest is rolled back all the same
    by_cases hstuck : r = .error .stuck
    · subst hstuck
      obtain ⟨rfl, rfl⟩ := Action.pure_eq h
      exact ⟨ms, d, .stuck hr, hl⟩
    · have h : (rollbackAll cs >>= fun o => pure (o.map (errorsOf r ++ ·)) :
          Action β (Outcome (List Error))).run t = (o, s') := by
        rcases r with (e | _) | _
        · exact h
        · exact absurd rfl hstuck
        · exact h
      obtain ⟨o', t', h₂, h⟩ := Action.bind_eq h
      obtain ⟨rfl, rfl⟩ := Action.pure_eq h
      obtain ⟨ns, d', hrest, hl'⟩ := ih h₂
      rw [hl.depth] at hrest
      exact ⟨_, d', .cons hr hstuck hrest, hl.trans hl'⟩

/-- The ways in which committing a connection, or else rolling it back, goes. -/
inductive CommitsOne (depth : Nat → Nat) (c : Nat) :
    Outcome (List Error) → List Mark → (Nat → Nat) → Prop
  /-- it is committed -/
  | kept {ms : List Mark} {d : Nat → Nat} (commits : Session.Commits depth c (.ok ()) ms d) :
    CommitsOne depth c (.ok []) ms d
  /-- it gets stuck -/
  | stuck {ms : List Mark} {d : Nat → Nat}
    (commits : Session.Commits depth c (.error .stuck) ms d) :
    CommitsOne depth c (.error .stuck) ms d
  /-- it cannot be committed and is rolled back -/
  | undone {e : Error} {r : Outcome Unit} {ms ns : List Mark} {d d' : Nat → Nat}
    (commits : Session.Commits depth c (failWith e) ms d)
    (rollsBack : Session.RollsBack d c r ns d') (answered : r ≠ .error .stuck) :
    CommitsOne depth c (.ok [e]) (ms ++ ns) d'
  /-- it cannot be committed, and rolling it back gets stuck -/
  | lost {e : Error} {ms ns : List Mark} {d d' : Nat → Nat}
    (commits : Session.Commits depth c (failWith e) ms d)
    (rollsBack : Session.RollsBack d c (.error .stuck) ns d') :
    CommitsOne depth c (.error .stuck) (ms ++ ns) d'

theorem commitOne_run {c : Nat} {s s' : Session β} {o : Outcome (List Error)}
    (h : (commitOne c).run s = (o, s')) :
    ∃ ms d, CommitsOne s.depth c o ms d ∧ s.Leads ms d s' := by
  rw [commitOne] at h
  obtain ⟨r, t, h₁, h⟩ := Action.bind_eq h
  obtain ⟨ms, d, hc, hl⟩ := Session.commit_run h₁
  rcases r with (e | _) | ⟨⟨⟩⟩
  · -- a failed COMMIT is followed by a ROLLBACK, whose own failure is dropped
    obtain ⟨r, t', h₂, h⟩ := Action.bind_eq h
    obtain ⟨ns, d', hr, hl'⟩ := Session.rollback_run h₂
    rw [hl.depth] at hr
    by_cases hstuck : r = .error .stuck
    · subst hstuck
      obtain ⟨rfl, rfl⟩ := Action.pure_eq h
      exact ⟨_, d', .lost hc hr, hl.trans hl'⟩
    · have h : (pure (.ok [e]) : Action β (Outcome (List Error))).run t' = (o, s') := by
        rcases r with (e | _) | _
        · exact h
        · exact absurd rfl hstuck
        · exact h
      obtain ⟨rfl, rfl⟩ := Action.pure_eq h
      exact ⟨_, d', .undone hc hr hstuck, hl.trans hl'⟩
  · -- a commit that never returns has no rollback behind it
    obtain ⟨rfl, rfl⟩ := Action.pure_eq h
    exact ⟨ms, d, .stuck hc, hl⟩
  · obtain ⟨rfl, rfl⟩ := Action.pure_eq h
    exact ⟨ms, d, .kept hc, hl⟩

/-- The ways in which committing connections in order goes. -/
inductive CommitsAll :
    (Nat → Nat) → List Nat → Outcome (List Error) → List Mark → (Nat → Nat) → Prop
  /-- none is left -/
  | nil {d : Nat → Nat} : CommitsAll d [] (.ok []) [] d
  /-- it gets stuck -/
  | stuck {d d' : Nat → Nat} {c : Nat} {cs : List Nat} {ms : List Mark}
    (first : CommitsOne d c (.error .stuck) ms d') : CommitsAll d (c :: cs) (.error .stuck) ms d'
  /-- one after the other -/
  | cons {d d' d'' : Nat → Nat} {c : Nat} {cs : List Nat} {es : List Error}
    {o : Outcome (List Error)} {ms ns : List Mark} (first : CommitsOne d c (.ok es) ms d')
    (rest : CommitsAll d' cs o ns d'') :
    CommitsAll d (c :: cs) (o.map (es ++ ·)) (ms ++ ns) d''

/-- Leaving connections fails only by getting stuck. -/
theorem CommitsAll.halt {d d' : Nat → Nat} {cs : List Nat} {o : Outcome (List Error)}
    {ms : List Mark} (h : CommitsAll d cs o ms d') {halt : Halt} (ho : o = .error halt) :
    halt = .stuck := by
  induction h with
  | nil => cases ho
  | stuck first => exact (Except.error.inj ho).symm
  | @cons _ _ _ _ _ _ o _ _ first rest ih =>
    rcases o with halt | es
    · exact ih ho
    · cases ho

theorem commitAll_run {cs : List Nat} {s s' : Session β} {o : Outcome (List Error)}
    (h : (commitAll cs).run s = (o, s')) :
    ∃ ms d, CommitsAll s.depth cs o ms d ∧ s.Leads ms d s' := by
  induction cs generalizing s o with
  | nil =>
    obtain ⟨rfl, rfl⟩ := Action.pure_eq h
    exact ⟨[], _, .nil, .refl _⟩
  | cons c cs ih =>
    rw [commitAll] at h
    obtain ⟨r, t, h₁, h⟩ := Action.bind_eq h
    obtain ⟨ms, d, hc, hl⟩ := commitOne_run h₁
    rcases r with halt | es
    · obtain ⟨rfl, rfl⟩ := Action.pure_eq h
      -- what never returns is the last thing of the run
      cases hc with
      | stuck commits => exact ⟨ms, d, .stuck (.stuck commits), hl⟩
      | lost commits rollsBack => exact ⟨_, d, .stuck (.lost commits rollsBack), hl⟩
    · obtain ⟨o', t', h₂, h⟩ := Action.bind_eq h
      obtain ⟨rfl, rfl⟩ := Action.pure_eq h
      obtain ⟨ns, d', hrest, hl'⟩ := ih h₂
      rw [hl.depth] at hrest
      exact ⟨_, d', .cons hc hrest, hl.trans hl'⟩

/-! ## Calls -/

omit [Backend β] in
theorem isFinished_iff {t : Transaction} : t.isFinished ↔ t.phase ≠ .running :=
  decide_eq_true_iff

/-- The ways in which running the next step goes. -/
inductive NextRun (t : Transaction) (s : Session β) :
    Outcome (Option Nat) → Transaction → Session β → Prop
  /-- the transaction is over -/
  | finished (ended : t.phase ≠ .running) : NextRun t s (failWith finished) t s
  /-- there is no more step -/
  | exhausted (running : t.phase = .running) (all : t.steps.length ≤ t.next) :
    NextRun t s (.ok none) t s
  /-- it succeeds -/
  | ran {t₁ : Transaction} {s₁ : Session β} (running : t.phase = .running)
    (some : t.next < t.steps.length) (run : (t.runStep t.next).run s = ((.ok (), t₁), s₁)) :
    NextRun t s (.ok t.next) { t₁ with next := t.next + 1 } s₁
  /-- it fails, and everything that was touched is rolled back -/
  | aborted {e : Error} {t₁ : Transaction} {s₁ s₂ : Session β} {failures : List Error}
    {ms : List Mark} {d : Nat → Nat} (running : t.phase = .running)
    (some : t.next < t.steps.length)
    (run : (t.runStep t.next).run s = ((failWith e, t₁), s₁))
    (rollsBack : RollsBackAll s₁.depth t₁.touched.reverse (.ok failures) ms d)
    (leads : s₁.Leads ms d s₂) :
    NextRun t s (failWith (.aborted t.next e failures))
      { t₁ with touched := [], phase := .rolledBack } s₂
  /-- it fails, and rolling back gets stuck -/
  | lost {e : Error} {t₁ : Transaction} {s₁ s₂ : Session β} {h : Halt} {ms : List Mark}
    {d : Nat → Nat} (running : t.phase = .running) (some : t.next < t.steps.length)
    (run : (t.runStep t.next).run s = ((failWith e, t₁), s₁))
    (rollsBack : RollsBackAll s₁.depth t₁.touched.reverse (.error h) ms d)
    (leads : s₁.Leads ms d s₂) :
    NextRun t s (.error h) { t₁ with touched := [], phase := .rolledBack } s₂
  /-- it gets stuck -/
  | stuck {t₁ : Transaction} {s₁ : Session β} (running : t.phase = .running)
    (some : t.next < t.steps.length)
    (run : (t.runStep t.next).run s = ((.error .stuck, t₁), s₁)) :
    NextRun t s (.error .stuck) t₁ s₁

theorem executeNext_run {t t' : Transaction} {s s' : Session β} {o : Outcome (Option Nat)}
    (h : t.executeNext.run s = ((o, t'), s')) : NextRun t s o t' s' := by
  rw [executeNext, Action.run_ite] at h
  by_cases hover : t.phase ≠ .running
  · rw [if_pos (isFinished_iff.mpr hover)] at h
    obtain ⟨h, rfl⟩ := Action.pure_eq h
    cases h
    exact .finished hover
  · rw [if_neg (fun h => hover (isFinished_iff.mp h)), Action.run_ite] at h
    have hrunning : t.phase = .running := not_not.mp hover
    by_cases hall : t.steps.length ≤ t.next
    · rw [if_pos hall] at h
      obtain ⟨h, rfl⟩ := Action.pure_eq h
      cases h
      exact .exhausted hrunning hall
    · rw [if_neg hall] at h
      have hsome := Nat.lt_of_not_le hall
      obtain ⟨⟨o₁, t₁⟩, s₁, h₁, h⟩ := Action.bind_eq h
      have hnext := (runStep_stays h₁).next
      -- the number in the answer is that of the step, since a step does not change it
      rcases o₁ with (e | _) | ⟨⟨⟩⟩
      · obtain ⟨⟨o₂, t₂⟩, s₂, h₂, h⟩ := Action.bind_eq h
        obtain ⟨o₃, s₃, h₃, h₂⟩ := Action.bind_eq h₂
        obtain ⟨hback, rfl⟩ := Action.pure_eq h₂
        cases hback
        obtain ⟨ms, d, hr, hl⟩ := rollbackAll_run h₃
        rcases o₂ with halt | failures
        · obtain ⟨hres, rfl⟩ := Action.pure_eq h
          cases hres
          have hlost := NextRun.lost hrunning hsome h₁ hr hl
          exact hlost
        · obtain ⟨hres, rfl⟩ := Action.pure_eq h
          cases hres
          have haborted := NextRun.aborted hrunning hsome h₁ hr hl
          rw [← hnext] at haborted
          exact haborted
      · obtain ⟨h, rfl⟩ := Action.pure_eq h
        cases h
        exact .stuck hrunning hsome h₁
      · obtain ⟨hres, rfl⟩ := Action.pure_eq h
        rw [hnext] at hres
        cases hres
        exact .ran hrunning hsome h₁

/-- The ways in which committing goes. -/
inductive CommitRun (t : Transaction) (depth : Nat → Nat) :
    Outcome Unit → Transaction → List Mark → (Nat → Nat) → Prop
  /-- it is refused -/
  | refused {text : String} (early : t.phase ≠ .running ∨ t.next < t.steps.length) :
    CommitRun t depth (failWith (.invalidInput text)) t [] depth
  /-- it gets stuck -/
  | stuck {h : Halt} {ms : List Mark} {d : Nat → Nat} (running : t.phase = .running)
    (commits : CommitsAll depth t.touched (.error h) ms d) :
    CommitRun t depth (.error h) { t with touched := [] } ms d
  /-- everything that was touched is left -/
  | left {o : Outcome Unit} {failures : List Error} {ms : List Mark} {d : Nat → Nat}
    (running : t.phase = .running) (all : t.steps.length ≤ t.next)
    (commits : CommitsAll depth t.touched (.ok failures) ms d)
    (kept : o = .ok () ∧ failures = [] ∨ o = failWith (.commitFailed failures)) :
    CommitRun t depth o { t with touched := [], phase := .committed } ms d

theorem commit_run {t t' : Transaction} {s s' : Session β} {o : Outcome Unit}
    (h : t.commit.run s = ((o, t'), s')) :
    ∃ ms d, CommitRun t s.depth o t' ms d ∧ s.Leads ms d s' := by
  rw [commit, Action.run_ite] at h
  by_cases hover : t.phase ≠ .running
  · rw [if_pos (isFinished_iff.mpr hover)] at h
    obtain ⟨h, rfl⟩ := Action.pure_eq h
    cases h
    exact ⟨[], _, .refused (.inl hover), .refl _⟩
  · rw [if_neg (fun h => hover (isFinished_iff.mp h)), Action.run_ite] at h
    -- a step is still to be executed
    by_cases hearly : t.next < t.steps.length
    · rw [if_pos hearly] at h
      obtain ⟨h, rfl⟩ := Action.pure_eq h
      cases h
      exact ⟨[], _, .refused (.inr hearly), .refl _⟩
    · rw [if_neg hearly] at h
      obtain ⟨o₁, s₁, h₁, h⟩ := Action.bind_eq h
      obtain ⟨ms, d, hc, hl⟩ := commitAll_run h₁
      have hleft {o : Outcome Unit} {failures : List Error}
          (hc : CommitsAll s.depth t.touched (.ok failures) ms d)
          (hkept : o = .ok () ∧ failures = [] ∨ o = failWith (.commitFailed failures)) :
          CommitRun t s.depth o { t with touched := [], phase := .committed } ms d :=
        .left (not_not.mp hover) (Nat.le_of_not_lt hearly) hc hkept
      -- the list of what failed is empty exactly if every connection was committed
      rcases o₁ with halt | (_ | ⟨e, es⟩)
      · obtain ⟨h, rfl⟩ := Action.pure_eq h
        cases h
        exact ⟨ms, d, .stuck (not_not.mp hover) hc, hl⟩
      · obtain ⟨h, rfl⟩ := Action.pure_eq h
        cases h
        exact ⟨ms, d, hleft hc (.inl ⟨rfl, rfl⟩), hl⟩
      · obtain ⟨h, rfl⟩ := Action.pure_eq h
        cases h
        exact ⟨ms, d, hleft hc (.inr rfl), hl⟩

/-- The ways in which rolling back goes. -/
inductive RollbackRun (t : Transaction) (depth : Nat → Nat) :
    Outcome Unit → Transaction → List Mark → (Nat → Nat) → Prop
  /-- it is refused -/
  | refused (ended : t.phase ≠ .running) : RollbackRun t depth (failWith finished) t [] depth
  /-- it gets stuck -/
  | stuck {h : Halt} {ms : List Mark} {d : Nat → Nat} (running : t.phase = .running)
    (rollsBack : RollsBackAll depth t.touched.reverse (.error h) ms d) :
    RollbackRun t depth (.error h) { t with touched := [] } ms d
  /-- everything that was touched is left -/
  | left {o : Outcome Unit} {failures : List Error} {ms : List Mark} {d : Nat → Nat}
    (running : t.phase = .running)
    (rollsBack : RollsBackAll depth t.touched.reverse (.ok failures) ms d)
    (answer : o = .ok () ∧ failures = [] ∨ ∃ text, o = failWith (.execution text)) :
    RollbackRun t depth o { t with touched := [], phase := .rolledBack } ms d

theorem rollback_run {t t' : Transaction} {s s' : Session β} {o : Outcome Unit}
    (h : t.rollback.run s = ((o, t'), s')) :
    ∃ ms d, RollbackRun t s.depth o t' ms d ∧ s.Leads ms d s' := by
  rw [rollback, Action.run_ite] at h
  by_cases hover : t.phase ≠ .running
  · rw [if_pos (isFinished_iff.mpr hover)] at h
    obtain ⟨h, rfl⟩ := Action.pure_eq h
    cases h
    exact ⟨[], _, .refused hover, .refl _⟩
  · rw [if_neg (fun h => hover (isFinished_iff.mp h))] at h
    obtain ⟨⟨o₁, t₁⟩, s₁, h₁, h⟩ := Action.bind_eq h
    obtain ⟨o₂, s₂, h₂, h₁⟩ := Action.bind_eq h₁
    obtain ⟨h₁, rfl⟩ := Action.pure_eq h₁
    cases h₁
    obtain ⟨ms, d, hr, hl⟩ := rollbackAll_run h₂
    -- the list of what failed goes into the error
    rcases o₁ with halt | (_ | ⟨e, es⟩)
    · obtain ⟨h, rfl⟩ := Action.pure_eq h
      cases h
      exact ⟨ms, d, .stuck (not_not.mp hover) hr, hl⟩
    · obtain ⟨h, rfl⟩ := Action.pure_eq h
      cases h
      exact ⟨ms, d, .left (not_not.mp hover) hr (.inl ⟨rfl, rfl⟩), hl⟩
    · obtain ⟨h, rfl⟩ := Action.pure_eq h
      cases h
      exact ⟨ms, d, .left (not_not.mp hover) hr (.inr ⟨_, rfl⟩), hl⟩

/-! ## Runs -/

/-- A transaction that has not been used yet. -/
structure IsNew (t : Transaction) : Prop where
  /-- no step has run -/
  next : t.next = 0
  /-- no connection has been touched -/
  touched : t.touched = []
  /-- it is not over -/
  running : t.phase = .running

/-- So many steps have run since, each with success. -/
inductive Ran (t₀ : Transaction) (s₀ : Session β) : Nat → Transaction → Session β → Prop
  /-- none has -/
  | start : Ran t₀ s₀ 0 t₀ s₀
  /-- one more has -/
  | step {n i : Nat} {t t' : Transaction} {s s' : Session β} (before : Ran t₀ s₀ n t s)
    (run : t.executeNext.run s = ((.ok (some i), t'), s')) : Ran t₀ s₀ (n + 1) t' s'

theorem Ran.isPlain {t₀ t : Transaction} (ht : t₀.IsPlain) {s₀ s : Session β} {n : Nat}
    (h : Ran t₀ s₀ n t s) : t.IsPlain := by
  induction h with
  | start => exact ht
  | step before run ih =>
    cases executeNext_run run with
    | ran running some run =>
      obtain ⟨-, -, -, -, hk⟩ := runStep_run ih some run
      exact hk.plain

theorem runSteps_run {t₀ : Transaction} {s₀ : Session β} {fuel n : Nat} {t t' : Transaction}
    {s s' : Session β} {o : Outcome Unit} (hran : Ran t₀ s₀ n t s)
    (h : (runSteps fuel t).run s = ((o, t'), s')) :
    (∃ halt m t₁ s₁, o = .error halt ∧ Ran t₀ s₀ m t₁ s₁ ∧
        t₁.executeNext.run s₁ = ((.error halt, t'), s')) ∨
      o = .ok () ∧ ∃ m, Ran t₀ s₀ m t' s' := by
  -- the fuel goes down while the number of steps that have run goes up
  induction fuel generalizing n t s with
  | zero =>
    obtain ⟨h, rfl⟩ := Action.pure_eq h
    cases h
    exact .inr ⟨rfl, n, hran⟩
  | succ fuel ih =>
    rw [runSteps] at h
    obtain ⟨⟨o₁, t₁⟩, s₁, h₁, h⟩ := Action.bind_eq h
    rcases o₁ with halt | _ | i
    · obtain ⟨h, rfl⟩ := Action.pure_eq h
      cases h
      exact .inl ⟨halt, n, t, s, rfl, hran, h₁⟩
    · obtain ⟨hres, rfl⟩ := Action.pure_eq h
      cases hres
      cases executeNext_run h₁ with
      | exhausted running all => exact .inr ⟨rfl, n, hran⟩
    · exact ih (.step hran h₁) h

/-- The ways in which executing a transaction goes. -/
inductive ExecuteRun (t : Transaction) (s : Session β) :
    Outcome ResultSet → Transaction → Session β → Prop
  /-- a step does not succeed -/
  | broken {n : Nat} {t₁ t' : Transaction} {s₁ s' : Session β} {h : Halt} (ran : Ran t s n t₁ s₁)
    (run : t₁.executeNext.run s₁ = ((.error h, t'), s')) : ExecuteRun t s (.error h) t' s'
  /-- the commit does not succeed -/
  | unkept {n : Nat} {t₁ t' : Transaction} {s₁ s' : Session β} {h : Halt} (ran : Ran t s n t₁ s₁)
    (commit : t₁.commit.run s₁ = ((.error h, t'), s')) : ExecuteRun t s (.error h) t' s'
  /-- all steps and the commit succeed -/
  | done {n : Nat} {t₁ t' : Transaction} {s₁ s' : Session β} {r : ResultSet} (ran : Ran t s n t₁ s₁)
    (commit : t₁.commit.run s₁ = ((.ok (), t'), s')) :
    ExecuteRun t s (.ok r) { t' with outcome := some r } s'

theorem execute_run {t t' : Transaction} {s s' : Session β} {o : Outcome ResultSet}
    (h : t.execute.run s = ((o, t'), s')) : ExecuteRun t s o t' s' := by
  rw [execute] at h
  obtain ⟨⟨o₁, t₁⟩, s₁, h₁, h⟩ := Action.bind_eq h
  rcases runSteps_run .start h₁ with ⟨halt, n, t₂, s₂, rfl, hran, hnext⟩ | ⟨rfl, n, hran⟩
  · obtain ⟨hres, rfl⟩ := Action.pure_eq h
    cases hres
    exact .broken hran hnext
  · obtain ⟨⟨o₂, t₂⟩, s₂, h₂, h⟩ := Action.bind_eq h
    rcases o₂ with halt | ⟨⟨⟩⟩
    · obtain ⟨hres, rfl⟩ := Action.pure_eq h
      cases hres
      exact .unkept hran h₂
    · obtain ⟨hres, rfl⟩ := Action.pure_eq h
      cases hres
      exact .done hran h₂

end Transaction

end Tabula
