import Tabula.Proofs.Transaction.Parting

/-!
# Transactions whose token fires

The token of a transaction is looked at before each step, and while the procedure of a step waits.
If it fires, the step in flight comes to its own end or is dropped, and no other step is started: a
run ends in an abort, unless the step in flight was the last one and succeeded.

* `KeepsTo`: what is said of steps is said of one step only. Whatever its procedure is, a step says
  nothing of another one.
* `AbortsAt`: how a run ends that is aborted at a step.
* `InFlight`: how a step goes during which the token fires.
* `execute_cancelled`: how the run of a transaction ends whose token fires.
-/

open Tabula.Action

namespace Tabula

variable {β : Type} [Backend β]

/-! ## What a step says of steps -/

/-- What is said of steps between two sessions is said of one step. -/
def KeepsTo (i : Nat) (s s' : Session β) : Prop :=
  ∃ ms, s'.trace = s.trace ++ ms ∧ ∀ m ∈ ms, ∀ j ∈ m.step?, j = i

namespace KeepsTo

omit [Backend β]

variable {i : Nat} {s t u : Session β}

/-- Nothing is said at all. -/
theorem of_trace_eq (h : t.trace = s.trace) : KeepsTo i s t :=
  ⟨[], by rw [h, List.append_nil], by simp⟩

theorem refl (s : Session β) : KeepsTo i s s := .of_trace_eq rfl

/-- Keeping to a step is transitive. -/
theorem trans (h : KeepsTo i s t) (h' : KeepsTo i t u) : KeepsTo i s u := by
  obtain ⟨ms, hms, hsteps⟩ := h
  obtain ⟨ns, hns, hsteps'⟩ := h'
  exact ⟨ms ++ ns, by rw [hns, hms, List.append_assoc],
    List.forall_mem_append.mpr ⟨hsteps, hsteps'⟩⟩

instance : Std.Refl (KeepsTo (β := β) i) := ⟨.refl⟩

instance : IsTrans (Session β) (KeepsTo i) := ⟨fun _ _ _ => .trans⟩

/-- Something is said of connections. -/
theorem of_stepless {ms : List Mark} (h : t.trace = s.trace ++ ms)
    (hms : ∀ m ∈ ms, m.step? = none) :
    KeepsTo i s t := by
  refine ⟨ms, h, fun m hm j hj => ?_⟩
  rw [hms m hm] at hj
  cases hj

/-- Backends are asked. -/
theorem of_asked {xs : List Exchange} (h : t.trace = s.trace ++ xs.map .asked) : KeepsTo i s t := by
  refine .of_stepless h fun m hm => ?_
  obtain ⟨x, -, rfl⟩ := List.mem_map.mp hm
  rfl

/-- One mark is left. -/
theorem mark {m : Mark} (h : ∀ j ∈ m.step?, j = i) (s : Session β) : KeepsTo i s (s.mark m) :=
  ⟨[m], rfl, List.forall_mem_singleton.mpr h⟩

end KeepsTo

/-- What is said of a connection alone is said of no step. -/
theorem KeepsTo.of_on {i c : Nat} {s t : Session β} {ms : List Mark} {d : Nat → Nat}
    (h : s.Leads ms d t) (hon : ∀ m ∈ ms, m.On c) : KeepsTo i s t :=
  .of_stepless h.trace fun m hm => (hon m hm).step?

namespace Session

variable {i : Nat}

/-- Whatever is called on a connection, it says nothing of steps. -/
theorem along_call (k : ConnectionCall) :
    Along (KeepsTo i) (call k : Action β (Outcome ConnectionAnswer)) := by
  -- what comes back is made of the outcome alone
  have hanswer (c : Nat) (o : Outcome Unit) :
      Along (KeepsTo i) (answerOf c o : Action β (Outcome ConnectionAnswer)) := by
    refine along_get.bind fun s => ?_
    dsimp only
    split <;> exact along_pure _
  cases k with
  | begin c =>
    refine Along.bind (fun s => ?_) (hanswer c)
    obtain ⟨ms, d, hbegins, hl⟩ := begin_run (s := s) (c := c) rfl
    exact .of_on hl hbegins.on
  | commit c =>
    refine Along.bind (fun s => ?_) (hanswer c)
    obtain ⟨ms, d, hcommits, hl⟩ := commit_run (s := s) (c := c) rfl
    obtain ⟨xs, rfl, -⟩ := Transaction.asked_of_commits hcommits
    exact .of_asked hl.trace
  | rollback c =>
    refine Along.bind (fun s => ?_) (hanswer c)
    obtain ⟨ms, d, hback, hl⟩ := rollback_run (s := s) (c := c) rfl
    obtain ⟨xs, rfl, -⟩ := Transaction.asked_of_rollsBack hback
    exact .of_asked hl.trace
  | batch c sql =>
    refine Along.bind (Along.map (fun s => ?_) _) (hanswer c)
    -- a batch is a guarded round trip, whose marks are about its connection
    obtain ⟨ms, htrips, hl⟩ := sendGuarded_run (s := s) (c := c) (r := .batch sql) rfl
    exact .of_on hl htrips.on
  | execute c sql sets type =>
    refine Along.bind (fun s => ?_) fun o => ?_
    · obtain ⟨ms, hruns, hl⟩ := execute_run (s := s) (c := c) rfl
      exact .of_on hl hruns.on
    · split <;> exact along_pure _
  | info c =>
    refine along_get.bind fun s => ?_
    split <;> exact along_pure _
  | report c =>
    refine along_get.bind fun s => ?_
    split <;> exact along_pure _

end Session

namespace Stub

variable {i : Nat}

omit [Backend β] in
/-- Noting something in the journal keeps to the step. -/
theorem along_note (s : Stub) (call : StubCall) : Along (KeepsTo (β := β) i) (s.note call) :=
  along_modify fun _ => .of_trace_eq rfl

/-- The deeds of a stub keep to the step. -/
theorem along_perform (deeds : List StubDeed) :
    Along (KeepsTo i) (perform deeds : Action β (Outcome Unit)) := by
  induction deeds with
  | nil => exact along_pure _
  | cons deed deeds ih =>
    cases deed with
    | cancel t => exact (along_modify fun _ => .of_trace_eq rfl).bind fun _ => ih
    | call k =>
      refine (Session.along_call k).bind fun o => ?_
      split
      · exact along_pure _
      · exact (along_modify fun _ => .of_trace_eq rfl).bind fun _ => ih

theorem along_execute (p : Stub) : Along (KeepsTo (β := β) i) p.execute := by
  refine (along_note p .execute).bind fun _ => ?_
  refine (along_perform _).bind fun o => ?_
  split
  · exact along_pure _
  · dsimp only
    split
    · refine Along.bind (fun s => ?_) fun _ => along_pure _
      exact .of_trace_eq (by rw [(Session.leads_wait none none s).trace, List.append_nil])
    · exact along_pure _
    · exact along_pure _

end Stub

namespace Routine

variable {i : Nat}

theorem along_execute {r : Routine} {c : Nat} (hc : r.connection = some c) :
    Along (KeepsTo (β := β) i) r.execute := by
  have hplain (hr : r.IsPlain) : Along (KeepsTo (β := β) i) r.execute := by
    intro s
    obtain ⟨⟨ns, hruns, hl⟩, -⟩ := execute_run (s := s) hr hc rfl
    exact .of_on hl hruns.on
  cases r with
  | stub p => exact (Stub.along_execute p).map _
  | _ => exact hplain trivial

/-- Preparing a procedure is seen at most. -/
theorem prepare_run_eq (r : Routine) (s : Session β) :
    ∃ journal, (r.prepare.run s).2 = { s with journal := journal } := by
  cases r with
  | query q => exact ⟨s.journal, rfl⟩
  | set p => exact ⟨s.journal, rfl⟩
  | prepared p =>
    refine ⟨s.journal, ?_⟩
    rw [prepare, PreparedStatement.prepare, run_get_bind]
    split <;> rfl
  | stub p =>
    refine ⟨s.journal ++ [.stub p.name .prepare], ?_⟩
    rw [prepare, Stub.prepare, Stub.note, run_modify_bind]
    split <;> rfl

omit [Backend β] in
/-- Whatever is added to a routine or bound in it keeps to the step. -/
theorem along_input (r : Routine) :
    (∀ name v, Along (KeepsTo (β := β) i) (r.bindAll name v)) ∧
      (∀ set, Along (KeepsTo (β := β) i) (r.addParameters set)) ∧
      (∀ c, Along (KeepsTo (β := β) i) (r.addCriterion c)) ∧
      Along (KeepsTo (β := β) i) r.clear := by
  -- a stub only notes what it is given
  have hnote {α : Type} (p : Stub) (call : StubCall) (a : α) :
      Along (KeepsTo (β := β) i) (do p.note call; return a) :=
    (Stub.along_note p call).bind fun _ => along_pure a
  cases r with
  | stub p =>
    refine ⟨fun name v => ?_, fun set => ?_, fun c => ?_, ?_⟩
    · rw [bindAll]
      split
      · exact along_pure _
      · exact hnote p _ _
    · rw [addParameters]
      split
      · exact hnote p _ _
      · exact along_pure _
    · rw [addCriterion]
      split
      · exact hnote p _ _
      · exact along_pure _
    · exact (hnote p .clear { p with results := none }).map Routine.stub
  | _ =>
    -- any other routine takes its input, or refuses it, without looking at the session
    exact ⟨fun _ _ => along_pure _, fun _ => along_pure _, fun _ => along_pure _, along_pure _⟩

end Routine

namespace Transaction

variable {i : Nat}

omit [Backend β] in
/-- Carrying out a directive keeps to the step. -/
theorem along_obey (previous : Option ResultSet) (d : Directive) (next : Option Step) :
    Along (KeepsTo (β := β) i) (obey previous d next) := by
  have hbind (name : String) (v : Value) (step : Step) :
      Along (KeepsTo (β := β) i) (do return (← bindNext name v step).map id some) := by
    refine Along.map ?_ _
    cases step with
    | routine r => exact ((Routine.along_input r).1 name v).map _
    | _ => exact along_pure _
  cases next with
  | none =>
    cases d with
    -- without a step behind, only a token can be fired
    | cancel t => exact (along_modify fun _ => .of_trace_eq rfl).bind fun _ => along_pure _
    | _ => exact along_pure _
  | some step =>
    cases d with
    | fail e => exact along_pure _
    | cancel t => exact (along_modify fun _ => .of_trace_eq rfl).bind fun _ => along_pure _
    | bind name v => exact hbind name v step
    | bindKey name => exact hbind name _ step
    | bindCell name column => exact hbind name _ step
    | addParameters set =>
      cases step with
      | routine r => exact ((Routine.along_input r).2.1 set).map _
      | _ => exact along_pure _
    | addCriterion c =>
      cases step with
      | routine r => exact ((Routine.along_input r).2.2.1 c).map _
      | _ => exact along_pure _
    | clear =>
      cases step with
      | routine r => exact ((Routine.along_input r).2.2.2).bind fun _ => along_pure _
      | _ => exact along_pure _
    | setConnection c => exact along_pure _

omit [Backend β] in
/-- Carrying out directives keeps to the step. -/
theorem along_obeyAll (previous : Option ResultSet) (ds : List Directive) (next : Option Step) :
    Along (KeepsTo (β := β) i) (obeyAll previous ds next) := by
  induction ds generalizing next with
  | nil => exact along_pure _
  | cons d ds ih =>
    refine (along_obey previous d next).bind fun p => ?_
    split
    · exact ih _
    · exact along_pure _

omit [Backend β] in
/-- What is watched keeps to a step if what runs does. -/
theorem along_watched {σ α : Type} {token : Option Token} {before : σ}
    {run : Action β (Outcome α × σ)} (h : Along (KeepsTo i) run) :
    Along (KeepsTo i) (watched token before run) := by
  intro s
  obtain ⟨⟨o, after⟩, s', hrun⟩ : ∃ p s', (watched token before run).run s = (p, s') := ⟨_, _, rfl⟩
  rw [hrun]
  rcases watched_run hrun with ⟨-, -, -, rfl⟩ | ⟨-, o₁, t, h₁, rfl, -⟩
  · exact .refl _
  · have hwithin := h { s with watcher := token }
    rw [h₁] at hwithin
    exact hwithin

/-- Running a procedure as a step keeps to that step. -/
theorem along_runRoutine (t : Transaction) (r : Routine) :
    Along (KeepsTo (β := β) i) (t.runRoutine i r) := by
  rw [runRoutine]
  rcases hc : r.connection with _ | c
  · -- without a connection there is nothing to run
    exact along_pure _
  have hprepare : Along (KeepsTo (β := β) i) r.prepare := by
    intro s
    obtain ⟨journal, hjournal⟩ := r.prepare_run_eq s
    exact .of_trace_eq (by rw [hjournal])
  have htouch : Along (KeepsTo (β := β) i) (t.touch c) := by
    intro s
    obtain ⟨ms, d, touched, htouches, -, hl⟩ := touch_run (t := t) (c := c) (s := s) rfl
    exact .of_on hl htouches.on
  have hexecute : Along (KeepsTo (β := β) i) (executeAs i c r) := by
    refine Along.bind (along_modify fun s => ?_) fun _ => Routine.along_execute hc
    exact .mark (by simp [Mark.step?]) s
  -- prepared, touched and executed, in this order; each part can end the step
  refine (along_modify fun s => .mark (by simp [Mark.step?]) s).bind fun _ => ?_
  refine hprepare.bind fun o => ?_
  rcases o with e | ⟨⟨⟩⟩
  · exact along_pure _
  refine htouch.bind fun p => ?_
  rcases p with ⟨halt | ⟨⟨⟩⟩, t₁⟩
  · exact along_pure _
  refine (along_watched hexecute).bind fun p => ?_
  refine (along_modify fun s => ?_).bind fun _ => along_pure _
  split
  · -- the backend of a cancelled procedure is told to stop, which is no matter of steps
    exact .of_on (c := c) (Session.leads_interrupt s c) (List.forall_mem_singleton.mpr rfl)
  · exact .refl s

/-- **A step says nothing of other steps**, whatever its procedure is. -/
theorem along_runStep (t : Transaction) (i : Nat) : Along (KeepsTo (β := β) i) (t.runStep i) := by
  refine along_get.bind fun s => ?_
  split
  · exact along_pure _
  · split
    · exact along_pure _
    · exact along_runRoutine t _
    · exact along_pure _
    · refine (along_modify fun s => .mark (by simp [Mark.step?]) s).bind fun _ => ?_
      refine (along_modify fun s => .of_trace_eq rfl).bind fun _ => ?_
      exact (along_obeyAll _ _ _).bind fun _ => along_pure _

/-! ## Aborting -/

/-- A run is aborted at a step for a reason, which is its root cause: what is touched is rolled
back, the last one first, and nothing else is done. Everything that was touched is left then, unless
something gets no answer. -/
def AbortsAt {α : Type} (t : Transaction) (step : Nat) (reason : Error) (s : Session β)
    (o : Outcome α) (t' : Transaction) (s' : Session β) : Prop :=
  t' = { t with touched := [], phase := .rolledBack } ∧
    (∀ e, o = failWith e → e.rootCause = reason.rootCause) ∧
    ∃ xs : List Exchange, s'.trace = s.trace ++ xs.map .asked ∧
      (∀ x ∈ xs, x.connection ∈ t.touched ∧ x.request = Control.rollback.request) ∧
      (o = .error .stuck ∧ (∃ x ∈ xs, x.ending = .error .stuck) ∨
        o = failWith (.aborted step reason (xs.filterMap Exchange.error?)) ∧
          requests xs = (t.touched.reverse.filter fun c => s.depth c ≠ 0).map
            (·, Control.rollback.request) ∧
          ∀ c, s'.depth c = if c ∈ t.touched then 0 else s.depth c)

/-- Rolling back connections asks for nothing but rollbacks over them, and is stuck only in one of
these. -/
theorem RollsBackAll.asked {d d' : Nat → Nat} {cs : List Nat} {o : Outcome (List Error)}
    {ms : List Mark} (h : RollsBackAll d cs o ms d') :
    ∃ xs : List Exchange, ms = xs.map .asked ∧
      (∀ x ∈ xs, x.connection ∈ cs ∧ x.request = Control.rollback.request) ∧
      (o = .error .stuck → ∃ x ∈ xs, x.ending = .error .stuck) := by
  induction h with
  | nil => exact ⟨[], rfl, by simp, nofun⟩
  -- the first rollback does not end, and the others are not tried
  | stuck first =>
    obtain ⟨xs, rfl, hxs, hstuck⟩ := asked_of_rollsBack first
    exact ⟨xs, rfl, fun x hx => ⟨(hxs x hx).1 ▸ List.mem_cons_self, (hxs x hx).2⟩,
      fun _ => hstuck rfl⟩
  | @cons _ _ _ c cs _ o _ _ first answered rest ih =>
    obtain ⟨xs, rfl, hxs, -⟩ := asked_of_rollsBack first
    obtain ⟨ys, rfl, hys, hstuck⟩ := ih
    -- the first rollback was answered, so it is one of the others that can be stuck
    refine ⟨xs ++ ys, List.map_append.symm, ?_, fun ho => ?_⟩
    · rw [List.forall_mem_append]
      exact ⟨fun x hx => ⟨(hxs x hx).1 ▸ List.mem_cons_self, (hxs x hx).2⟩,
        fun y hy => ⟨List.mem_cons_of_mem c (hys y hy).1, (hys y hy).2⟩⟩
    · rcases o with halt | es
      · obtain ⟨x, hx, hending⟩ := hstuck ho
        exact ⟨x, List.mem_append_right _ hx, hending⟩
      · cases ho

/-- **Aborting rolls back everything that was touched**, and nothing else is done. -/
theorem abort_run {t t' : Transaction} {step : Nat} {e : Error} {s s' : Session β}
    {o : Outcome (Option Nat)} (hn : t.touched.Nodup)
    (h : (t.abort step e).run s = ((o, t'), s')) :
    ∃ halt, o = .error halt ∧ t.AbortsAt step e s (.error halt : Outcome ResultSet) t' s' := by
  obtain ⟨⟨r, t₁⟩, s₁, h₁, h⟩ := Action.bind_eq h
  obtain ⟨r, s₂, h₂, h₁⟩ := Action.bind_eq h₁
  obtain ⟨heq, rfl⟩ := Action.pure_eq h₁
  cases heq
  obtain ⟨ms, d, hback, hl⟩ := rollbackAll_run h₂
  rcases r with halt | failures
  · -- a rollback that does not end: no error is answered
    obtain ⟨heq, rfl⟩ := Action.pure_eq h
    cases heq
    obtain rfl := hback.halt rfl
    obtain ⟨xs, rfl, hxs, hstuck⟩ := hback.asked
    refine ⟨.stuck, rfl, rfl, nofun, xs, hl.trace, fun x hx => ?_, .inl ⟨rfl, hstuck rfl⟩⟩
    exact ⟨List.mem_reverse.mp (hxs x hx).1, (hxs x hx).2⟩
  · -- all rollbacks were answered: the abort fails with the reason and with what failed meanwhile
    obtain ⟨heq, rfl⟩ := Action.pure_eq h
    cases heq
    obtain ⟨xs, rfl, hxs, rfl, hd⟩ := hback.exchanges rfl (List.nodup_reverse.mpr hn)
    refine ⟨_, rfl, rfl, ?_, xs, hl.trace, fun x hx => ?_, .inr ⟨rfl, hxs, fun c => ?_⟩⟩
    · intro e he
      cases he
      rfl
    · obtain ⟨hc, hr⟩ := of_requests_eq hxs x hx
      exact ⟨List.mem_reverse.mp (List.mem_of_mem_filter hc), hr⟩
    · rw [hl.depth, hd]
      simp only [List.mem_reverse]

omit [Backend β] in
/-- An abort says nothing of steps. -/
theorem AbortsAt.keepsTo {α : Type} {t t' : Transaction} {step i : Nat} {e : Error}
    {s s' : Session β} {o : Outcome α} (h : t.AbortsAt step e s o t' s') : KeepsTo i s s' := by
  obtain ⟨-, -, xs, htrace, -⟩ := h
  exact .of_asked htrace

/-! ## Running on -/

/-- What stays while steps run, and the step that runs next. -/
theorem Ran.stays {t t' : Transaction} {s s' : Session β} {n : Nat} (h : Ran t s n t' s') :
    t'.next = t.next + n ∧ t'.token = t.token ∧ t'.steps.length = t.steps.length ∧
      (t.phase = .running → t'.phase = .running) := by
  induction h with
  | start => exact ⟨rfl, rfl, rfl, id⟩
  | @step n i t₁ t' s₁ s' before run ih =>
    obtain ⟨hnext, htoken, hlength, hphase⟩ := ih
    cases executeNext_run run with
    | ran running some run =>
      have hstays := runStep_stays run
      refine ⟨?_, hstays.token.trans htoken, hstays.length.trans hlength, fun _ => ?_⟩
      · show t₁.next + 1 = t.next + (n + 1)
        omega
      · exact hstays.phase.trans running

/-- Running steps goes on from where some have run. -/
theorem runSteps_of_ran {t t' : Transaction} {s s' : Session β} {n : Nat} (h : Ran t s n t' s')
    (fuel : Nat) : (runSteps (n + fuel) t).run s = (runSteps fuel t').run s' := by
  induction h generalizing fuel with
  | start => rw [Nat.zero_add]
  | @step n i t₁ t' s₁ s' before run ih =>
    rw [Nat.add_right_comm, Nat.add_assoc, ih, runSteps]
    exact Action.run_bind _ run

section Execute

variable {t t₁ t₂ t' : Transaction} {s s₁ s₂ s' : Session β} {n : Nat}

/-- What running the next step comes to, by how it goes. -/
theorem executeNext_of_step {r : Outcome Unit} (hrunning : t.phase = .running)
    (hlt : t.next < t.steps.length) : (t.runStep t.next).run s = ((r, t'), s') →
    t.executeNext.run s = match r with
      | .ok () => ((.ok (some t.next), { t' with next := t.next + 1 }), s')
      | .error (.failed e) => (t'.abort t.next e).run s'
      | .error .stuck => ((.error .stuck, t'), s') := by
  intro hstep
  rw [executeNext, run_ite, if_neg (fun h => isFinished_iff.mp h hrunning), run_ite,
    if_neg (Nat.not_le.mpr hlt), Action.run_bind _ hstep, ← (runStep_stays hstep).next]
  rcases r with (e | _) | ⟨⟨⟩⟩ <;> rfl

/-- The run of a transaction breaks off at a step that does not succeed. -/
theorem execute_of_broken (h : Ran t s n t₁ s₁) (hlt : t₁.next < t₁.steps.length) {halt : Halt}
    (hnext : t₁.executeNext.run s₁ = ((.error halt, t'), s')) :
    t.execute.run s = ((.error halt, t'), s') := by
  obtain ⟨hn, -, hlength, -⟩ := h.stays
  obtain ⟨fuel, hfuel⟩ : ∃ fuel, t.steps.length - t.next + 1 = n + (fuel + 1) :=
    ⟨t.steps.length - t.next - n, by omega⟩
  have hsteps : (runSteps (t.steps.length - t.next + 1) t).run s = ((.error halt, t'), s') := by
    rw [hfuel, runSteps_of_ran h, runSteps]
    exact Action.run_bind _ hnext
  rw [execute]
  exact Action.run_bind _ hsteps

/-- If all steps have run it comes to the commit. -/
theorem execute_of_all (h : Ran t s n t₁ s₁) (hrunning : t₁.phase = .running)
    (hall : t₁.next = t₁.steps.length) {o : Outcome Unit}
    (hcommit : t₁.commit.run s₁ = ((o, t'), s')) :
    t.execute.run s = match o with
      | .ok () => ((.ok (t'.lastResult?.getD {}),
          { t' with outcome := some (t'.lastResult?.getD {}) }), s')
      | .error halt => ((.error halt, t'), s') := by
  obtain ⟨hn, -, hlength, -⟩ := h.stays
  -- there is one round for each step that was left and one that finds none
  have hfuel : t.steps.length - t.next + 1 = n + 1 := by omega
  have hnext : t₁.executeNext.run s₁ = ((.ok none, t₁), s₁) := by
    rw [executeNext, run_ite, if_neg (fun h => isFinished_iff.mp h hrunning), run_ite,
      if_pos (Nat.le_of_eq hall.symm)]
    rfl
  have hsteps : (runSteps (t.steps.length - t.next + 1) t).run s = ((.ok (), t₁), s₁) := by
    rw [hfuel, runSteps_of_ran h, runSteps]
    exact Action.run_bind _ hnext
  rw [execute, Action.run_bind _ hsteps]
  rcases o with halt | ⟨⟨⟩⟩
  · -- the commit fails or succeeds, and so does the run
    exact Action.run_bind _ hcommit
  · exact Action.run_bind _ hcommit

/-- The transaction is committed after its last step, and that is how its run ends. -/
def Concludes (t : Transaction) (s : Session β) (o : Outcome ResultSet) (t' : Transaction)
    (s' : Session β) : Prop :=
  ∃ (kept : Outcome Unit) (t₁ : Transaction),
    (kept = .error .stuck ∧ Unanswered s s' ∨ CommitsThrough t s kept t₁ s') ∧
      match kept with
      | .ok () => o = .ok (t₁.lastResult?.getD {}) ∧
          t' = { t₁ with outcome := some (t₁.lastResult?.getD {}) }
      | .error halt => o = .error halt ∧ t' = t₁

omit [Backend β] in
/-- Neither does committing. -/
theorem CommitsThrough.keepsTo [Backend β] {i : Nat} {o : Outcome Unit}
    (h : CommitsThrough t s o t' s') : KeepsTo i s s' := by
  obtain ⟨ps, -, -, hparted, -⟩ := h
  obtain ⟨xs, htrace, -⟩ := hparted.asked
  exact .of_asked htrace

/-- Neither does the end of a run. -/
theorem Concludes.keepsTo {i : Nat} {o : Outcome ResultSet} (h : t.Concludes s o t' s') :
    KeepsTo i s s' := by
  obtain ⟨kept, t₁, ⟨-, xs, htrace, -⟩ | hthrough, -⟩ := h
  · exact .of_asked htrace
  · exact hthrough.keepsTo

/-- A step that fails aborts the run. -/
theorem execute_of_failed {o : Outcome ResultSet} {e : Error} (h : Ran t s n t₁ s₁)
    (hrunning : t₁.phase = .running) (hlt : t₁.next < t₁.steps.length)
    (hn : t₁.touched.Nodup) (hstep : (t₁.runStep t₁.next).run s₁ = ((failWith e, t₂), s₂))
    (hrun : t.execute.run s = ((o, t'), s')) : t₂.AbortsAt t₁.next e s₂ o t' s' := by
  obtain ⟨⟨a, u⟩, v, habort⟩ : ∃ p v, (t₂.abort t₁.next e).run s₂ = (p, v) := ⟨_, _, rfl⟩
  obtain ⟨halt, rfl, haborts⟩ := abort_run ((runStep_stays hstep).nodup hn) habort
  have hnext : t₁.executeNext.run s₁ = ((.error halt, u), v) :=
    (executeNext_of_step hrunning hlt hstep).trans habort
  rw [execute_of_broken h hlt hnext] at hrun
  cases hrun
  exact haborts

/-- A step whose token has fired fails at once. -/
theorem runStep_of_fired {i : Nat} (h : s.hasFired t.token) :
    (t.runStep i).run s = ((failWith .cancelled, t), s) := by
  rw [runStep, run_get_bind, run_ite, if_pos h]
  rfl

/-- **A run whose token has fired between two steps** is aborted at the next one. -/
theorem execute_of_fired {o : Outcome ResultSet} (h : Ran t s n t₁ s₁)
    (hrunning : t₁.phase = .running) (hlt : t₁.next < t₁.steps.length)
    (hn : t₁.touched.Nodup) (hfired : s₁.hasFired t₁.token)
    (hrun : t.execute.run s = ((o, t'), s')) : t₁.AbortsAt t₁.next .cancelled s₁ o t' s' :=
  execute_of_failed h hrunning hlt hn (runStep_of_fired hfired) hrun

end Execute

/-! ## The step in flight -/

/-- The procedure of a step was prepared, and comes to its connection. -/
structure Arrives (t : Transaction) (i : Nat) (s : Session β) (r : Routine) (c : Nat)
    (u : Session β) : Prop where
  /-- it is the step -/
  step : t.steps[i]? = some (.routine r)
  /-- it runs on the connection -/
  connection : r.connection = some c
  /-- there is no fault in its input -/
  prepared : r.prepare.run (s.mark (.prepared i)) = (.ok (), u)

/-- The ways in which a step goes during which the token fires. -/
inductive InFlight (t : Transaction) (i : Nat) (s : Session β) :
    Outcome Unit → Transaction → Session β → Prop
  /-- a function goes on to its end -/
  | called {directives : Option ResultSet → Option ProcedureInfo → List Directive}
    {o : Except Error Unit} {t' : Transaction} {s' : Session β}
    (step : t.steps[i]? = some (.function directives))
    (run : (t.runFunction i directives).run s = ((outcomeOf o, t'), s')) :
    InFlight t i s (outcomeOf o) t' s'
  /-- no transaction can be begun on the connection -/
  | refused {r : Routine} {c : Nat} {e : Error} {t' : Transaction} {u s' : Session β}
    (arrives : t.Arrives i s r c u) (touch : (t.touch c).run u = ((failWith e, t'), s')) :
    InFlight t i s (failWith e) t' s'
  /-- beginning one gets no answer -/
  | waiting {r : Routine} {c : Nat} {t' : Transaction} {u s' : Session β} {ms : List Mark}
    (arrives : t.Arrives i s r c u) (touch : (t.touch c).run u = ((.error .stuck, t'), s'))
    (trace : s'.trace = u.trace ++ ms)
    (sent : exchanges ms = [⟨c, Control.begin.request, .error .stuck⟩]) :
    InFlight t i s (.error .stuck) t' s'
  /-- one was begun, but the procedure is not executed any more -/
  | late {r : Routine} {c : Nat} {t₁ : Transaction} {u v : Session β}
    (arrives : t.Arrives i s r c u) (touch : (t.touch c).run u = ((.ok (), t₁), v))
    (fired : v.hasFired t.token) :
    InFlight t i s (failWith .cancelled) (t₁.withStep i (.routine r)) (v.interrupt c)
  /-- the procedure comes to its own end -/
  | ended {r r' : Routine} {c : Nat} {o : Outcome ResultSet} {t₁ : Transaction}
    {u v w : Session β} (arrives : t.Arrives i s r c u)
    (touch : (t.touch c).run u = ((.ok (), t₁), v))
    (run : (executeAs i c r).run { v with watcher := t.token } = ((o, r'), w))
    (answered : o ≠ .error .stuck) :
    InFlight t i s (t₁.record i r' o).1 (t₁.record i r' o).2
      (if isCancelled o then ({ w with watcher := none } : Session β).interrupt c
        else { w with watcher := none })
  /-- the procedure waits, and is dropped; the backend of its connection is told to stop -/
  | dropped {r r' : Routine} {c : Nat} {t₁ : Transaction} {u v w : Session β}
    (arrives : t.Arrives i s r c u) (touch : (t.touch c).run u = ((.ok (), t₁), v))
    (run : (executeAs i c r).run { v with watcher := t.token } = ((.error .stuck, r'), w)) :
    InFlight t i s (failWith .cancelled) (t₁.withStep i (.routine r'))
      (({ w with watcher := none } : Session β).interrupt c)

/-- Telling a backend to stop fires nothing. -/
theorem hasFired_interrupt (s : Session β) (c : Nat) (token : Option Token) :
    (s.interrupt c).hasFired token = s.hasFired token := by
  rw [Session.interrupt]
  split <;> rfl

/-- Executing the procedure once a transaction was begun on its connection. -/
theorem inFlight_of_touched {t t₁ t' : Transaction} {i c : Nat} {r : Routine}
    {s u v s' : Session β} {o : Outcome Unit} (arrives : t.Arrives i s r c u)
    (touch : (t.touch c).run u = ((.ok (), t₁), v)) (hfired : s'.hasFired t.token)
    (h : (do
      let (result, r) ← watched t₁.token r (executeAs i c r)
      modify fun s => if isCancelled result then s.interrupt c else s
      return t₁.record i r result : Action β (Outcome Unit × Transaction)).run v =
        ((o, t'), s')) :
    t.InFlight i s o t' s' := by
  obtain ⟨⟨o₁, r'⟩, w, hwatched, h⟩ := Action.bind_eq h
  rw [run_modify_bind] at h
  obtain ⟨hrec, rfl⟩ := Action.pure_eq h
  obtain ⟨rfl, rfl⟩ := Prod.ext_iff.mp hrec
  -- telling the backend to stop fires nothing, so the token had fired before
  have hw : w.hasFired t.token := by
    split at hfired
    · rwa [hasFired_interrupt] at hfired
    · exact hfired
  rw [(touch_stays touch).token] at hwatched
  rcases watched_run hwatched with ⟨hv, rfl, rfl, rfl⟩ | ⟨-, o₂, u', run, rfl, ho⟩
  · -- the token fired before the procedure was begun
    exact .late arrives touch hv
  · rcases ho with ⟨hanswered, rfl⟩ | ⟨rfl, ho⟩
    · -- the procedure was answered in time
      exact .ended arrives touch run hanswered
    · -- the procedure was waiting, and is dropped
      rw [if_pos hw] at ho
      subst ho
      exact .dropped arrives touch run

/-- A step that is a procedure. As long as nothing fires, the token cannot have fired, and so
neither a fault in the input nor the lack of a connection ends it here. -/
theorem runRoutine_inFlight {t t' : Transaction} {i : Nat} {r : Routine} {s s' : Session β}
    {o : Outcome Unit} (hi : t.steps[i]? = some (.routine r))
    (hfree : s.hasFired t.token = false)
    (h : (t.runRoutine i r).run s = ((o, t'), s')) (hfired : s'.hasFired t.token) :
    t.InFlight i s o t' s' := by
  -- the token had not fired when the step began, so a way that ends there is out of the question
  have hnot {u : Session β} (hu : u.fired = s.fired) : u.hasFired t.token ≠ true := by
    rw [Session.hasFired, hu]
    exact Bool.eq_false_iff.mp hfree
  rw [runRoutine] at h
  rcases hc : r.connection with _ | c
  · simp only [hc] at h
    obtain ⟨-, rfl⟩ := Action.pure_eq h
    exact absurd hfired (hnot rfl)
  simp only [hc, Action.run_modify_bind] at h
  obtain ⟨o₁, u, h₁, h⟩ := Action.bind_eq h
  obtain ⟨journal, hjournal⟩ := r.prepare_run_eq (s.mark (.prepared i))
  rw [h₁] at hjournal
  change u = _ at hjournal
  rcases o₁ with e | ⟨⟨⟩⟩
  · obtain ⟨-, rfl⟩ := Action.pure_eq h
    exact absurd hfired (hnot (by rw [hjournal]; rfl))
  have harrives : t.Arrives i s r c u := ⟨hi, hc, h₁⟩
  obtain ⟨⟨o₂, t₁⟩, v, h₂, h⟩ := Action.bind_eq h
  rcases o₂ with (e | _) | ⟨⟨⟩⟩
  · obtain ⟨heq, rfl⟩ := Action.pure_eq h
    cases heq
    -- touching failed, with an error or because it was dropped
    exact .refused harrives h₂
  · -- the `BEGIN` is waiting, the only thing of a touch that can be
    obtain ⟨heq, rfl⟩ := Action.pure_eq h
    cases heq
    obtain ⟨ms, d, touched, htouches, -, hl⟩ := touch_run h₂
    cases htouches with
    | refused untouched begins =>
      cases begins with
      | refused closed on sent => exact .waiting harrives h₂ hl.trace sent
  · exact inFlight_of_touched harrives h₂ hfired h

/-- **A step during which the token fires goes one of the six ways.** -/
theorem runStep_inFlight {t t' : Transaction} {i : Nat} {s s' : Session β} {o : Outcome Unit}
    (hi : i < t.steps.length) (hfree : s.hasFired t.token = false)
    (h : (t.runStep i).run s = ((o, t'), s')) (hfired : s'.hasFired t.token) :
    t.InFlight i s o t' s' := by
  have hnot : ¬s.hasFired t.token := Bool.eq_false_iff.mp hfree
  rw [runStep, run_get_bind, run_ite, if_neg hnot] at h
  rcases hstep : t.steps[i]? with _ | r | type | directives
  all_goals simp only [hstep] at h
  · -- there is a step of this number
    exact absurd (List.getElem?_eq_none_iff.mp hstep) (Nat.not_le.mpr hi)
  · exact runRoutine_inFlight hstep hfree h hfired
  · -- a transaction as a step is refused at once
    obtain ⟨-, rfl⟩ := Action.pure_eq h
    exact absurd hfired hnot
  · -- a function does not wait, so it runs to its end
    have hrun := h
    simp only [runFunction, run_modify_bind] at h
    obtain ⟨⟨o₁, next⟩, s₁, -, h⟩ := Action.bind_eq h
    obtain ⟨heq, rfl⟩ := Action.pure_eq h
    cases heq
    exact .called hstep hrun

/-- How a run ends whose token fired while a step was in flight, by how that step went: if it
succeeded, at the step behind, unless it was the last one; and if not, there. -/
def EndsAfter (t : Transaction) (i : Nat) (s : Session β) (r : Outcome Unit)
    (o : Outcome ResultSet) (t' : Transaction) (s' : Session β) : Prop :=
  match r with
  | .ok () =>
    if i + 1 < t.steps.length then
      AbortsAt { t with next := i + 1 } (i + 1) .cancelled s o t' s'
    else Concludes { t with next := i + 1 } s o t' s'
  | .error (.failed e) => t.AbortsAt i e s o t' s'
  | .error .stuck => o = .error .stuck ∧ t' = t ∧ s' = s

section Cancelled

variable {t t₁ t₂ t' : Transaction} {s s₁ s₂ s' : Session β} {n : Nat} {o : Outcome ResultSet}

/-- Ending after a step says nothing of another one. -/
theorem EndsAfter.keepsTo {i : Nat} {r : Outcome Unit} (h : t.EndsAfter i s r o t' s') :
    KeepsTo i s s' := by
  rcases r with (e | _) | ⟨⟨⟩⟩
  · exact AbortsAt.keepsTo h
  · obtain ⟨-, -, rfl⟩ := h
    exact .refl _
  · rw [EndsAfter] at h
    split at h
    · exact h.keepsTo
    · exact h.keepsTo

/-- **After the step in flight no other one is started.** -/
theorem execute_endsAfter {r : Outcome Unit} (h : Ran t s n t₁ s₁)
    (hrunning : t₁.phase = .running) (hlt : t₁.next < t₁.steps.length) (hn : t₁.touched.Nodup)
    (hstep : (t₁.runStep t₁.next).run s₁ = ((r, t₂), s₂)) (hfired : s₂.hasFired t₁.token)
    (hrun : t.execute.run s = ((o, t'), s')) : t₂.EndsAfter t₁.next s₂ r o t' s' := by
  have hstays := runStep_stays hstep
  rcases r with (e | _) | ⟨⟨⟩⟩
  · -- the step failed for any reason, be it that it was cancelled: the run is aborted
    exact execute_of_failed h hrunning hlt hn hstep hrun
  · -- the step is stuck, and with it the run
    rw [execute_of_broken h hlt (executeNext_of_step hrunning hlt hstep)] at hrun
    cases hrun
    exact ⟨rfl, rfl, rfl⟩
  · -- the step succeeded, so the token is looked at again before the next step, if there is one
    have hran := h.step (executeNext_of_step hrunning hlt hstep)
    have hphase : t₂.phase = .running := hstays.phase.trans hrunning
    have hnodup := hstays.nodup hn
    rw [EndsAfter]
    split
    next hmore =>
      exact execute_of_fired hran hphase hmore hnodup (by rw [hstays.token]; exact hfired) hrun
    next hlast =>
      have hall : t₁.next + 1 = t₂.steps.length := by
        rw [hstays.length] at hlast ⊢
        omega
      -- there is none: everything is committed as if no token had fired
      obtain ⟨⟨kept, u⟩, v, hcommit⟩ : ∃ p v,
          ({ t₂ with next := t₁.next + 1 } : Transaction).commit.run s₂ = (p, v) := ⟨_, _, rfl⟩
      have hthrough := commit_through (t := { t₂ with next := t₁.next + 1 }) hphase
        (Nat.le_of_eq hall.symm) hnodup hcommit
      rw [execute_of_all hran hphase hall hcommit] at hrun
      rcases kept with halt | ⟨⟨⟩⟩
      all_goals
        cases hrun
        exact ⟨_, _, hthrough, rfl, rfl⟩

/-- A token that has fired when some steps have run had fired before, or it fired while the last of
them was in flight. -/
theorem Ran.fired_during (h : Ran t s n t₁ s₁) (hfired : s₁.hasFired t.token) :
    s.hasFired t.token ∨ ∃ m u u' v, Ran t s m u v ∧ u.next < u.steps.length ∧
      v.hasFired t.token = false ∧ (u.runStep u.next).run v = ((.ok (), u'), s₁) := by
  cases h with
  | start => exact .inl hfired
  | @step m i u _ v _ before run =>
    right
    cases executeNext_run run with
    | @ran u' _ running some run =>
      refine ⟨m, u, u', v, before, some, ?_, run⟩
      by_contra hfree
      rw [Bool.not_eq_false, ← before.stays.2.1] at hfree
      rw [runStep_of_fired hfree] at run
      cases run

/-- **A transaction whose token fires starts nothing more.** If it has fired before the run, that is
aborted at the next step. It fires before the run or while a step is in flight, and such a step goes
one of six ways: a function goes on to its end, a connection cannot be entered, its procedure is not
executed any more, comes to its own end, or waits and is dropped. If it fails or is dropped the run
is aborted there, and if it succeeds, at the step behind; only if it was the last one, the
transaction is committed. From the beginning of the step in flight no other step is prepared,
executed or called, and from its end on, nothing is asked but to leave what was touched. -/
theorem execute_cancelled {t₀ : Transaction} {us : List Use} (hnew : t₀.IsNew)
    (hused : Used β t₀ us t) (hrunning : t.phase = .running) (hleft : t.next < t.steps.length)
    (hrun : t.execute.run s = ((o, t'), s')) :
    (s.hasFired t.token → t.AbortsAt t.next .cancelled s o t' s') ∧
    (∀ n t₁ s₁, Ran t s n t₁ s₁ → s₁.hasFired t.token →
      s.hasFired t.token ∨ ∃ m u u' v, Ran t s m u v ∧ u.next < u.steps.length ∧
        v.hasFired t.token = false ∧ (u.runStep u.next).run v = ((.ok (), u'), s₁)) ∧
    ∀ n t₁ t₂ s₁ s₂ r, Ran t s n t₁ s₁ → t₁.next < t₁.steps.length →
      s₁.hasFired t.token = false → (t₁.runStep t₁.next).run s₁ = ((r, t₂), s₂) →
      s₂.hasFired t.token →
        t₁.InFlight t₁.next s₁ r t₂ s₂ ∧ t₂.EndsAfter t₁.next s₂ r o t' s' ∧
          KeepsTo t₁.next s₁ s' := by
  have hn : t.touched.Nodup := hused.nodup (hnew.touched ▸ List.nodup_nil)
  refine ⟨fun hfired => execute_of_fired .start hrunning hleft hn hfired hrun,
    fun n t₁ s₁ hran => hran.fired_during, ?_⟩
  intro n t₁ t₂ s₁ s₂ r hran hlt hfree hstep hfired
  obtain ⟨-, htoken, -, hphase⟩ := hran.stays
  rw [← htoken] at hfree hfired
  have hends := execute_endsAfter hran (hphase hrunning) hlt (hran.nodup hn) hstep hfired hrun
  have hwithin : KeepsTo t₁.next s₁ s₂ := by
    have h := along_runStep t₁ t₁.next s₁
    rwa [hstep] at h
  exact ⟨runStep_inFlight hlt hfree hstep hfired, hends, hwithin.trans hends.keepsTo⟩

end Cancelled

/-- A statement, a procedure that never ends and during which the token fires, and one more
statement. -/
def lingering : Transaction where
  steps :=
    [.routine (.query { connection := some 0, sql := "DELETE FROM t", type := .delete }),
      .routine (.stub
        { name := "sleeper", connection := some 1,
          runs := [{ deeds := [.cancel 1], ending := .hang }] }),
      .routine (.query { connection := some 0, sql := "DELETE FROM u", type := .delete })]
  results := [none, none, none]
  token := some 1

/-- The procedure is dropped, and both connections are rolled back; the last statement is not sent.
-/
theorem execute_cancelled_lingering :
    lingering.IsNew ∧ Used Willing lingering [] lingering ∧
      ∃ t₁ t₂ s₁ s₂, Ran lingering Willing.pair 1 t₁ s₁ ∧ t₁.next = 1 ∧
        t₁.InFlight t₁.next s₁ (failWith .cancelled) t₂ s₂ ∧
        (lingering.execute.run Willing.pair).1.1 = failWith (.aborted 1 .cancelled []) ∧
        requests ((exchanges (lingering.execute.run Willing.pair).2.trace).drop 3) =
          [(1, Control.rollback.request), (0, Control.rollback.request)] := by
  have hnew : lingering.IsNew := ⟨rfl, rfl, rfl⟩
  have hused : Used Willing lingering [] lingering := .fresh
  have hdeleted : (lingering.executeNext.run Willing.pair).1.1 = .ok (some 0) := by
    with_unfolding_all rfl
  have hran := Ran.start.step (run_of_answer hdeleted)
  have hdropped : (((lingering.executeNext.run Willing.pair).1.2.runStep
      (lingering.executeNext.run Willing.pair).1.2.next).run
        (lingering.executeNext.run Willing.pair).2).1.1 = failWith .cancelled := by
    with_unfolding_all rfl
  have haborted : (lingering.execute.run Willing.pair).1.1 =
      failWith (.aborted 1 .cancelled []) := by
    with_unfolding_all rfl
  obtain ⟨-, -, hflight⟩ := execute_cancelled hnew hused rfl (by decide) (run_of_answer haborted)
  obtain ⟨hway, -, -⟩ := hflight 1 _ _ _ _ _ hran (by with_unfolding_all decide)
    (by with_unfolding_all rfl) (run_of_answer hdropped) (by with_unfolding_all rfl)
  exact ⟨hnew, hused, _, _, _, _, hran, by with_unfolding_all rfl, hway, haborted,
    by with_unfolding_all rfl⟩

end Transaction

end Tabula
