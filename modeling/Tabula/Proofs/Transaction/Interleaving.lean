import Tabula.Proofs.Transaction.Coherence

/-!
# Transactions that share connections

A `World` holds a session, any number of transactions, and the log of what they did in it. It goes
on by calls: the next step, the commit or the rollback of a transaction, or a connection that is
used directly. Calls follow each other in any order.

Everybody counts on the same depth of a connection, but what a transaction has touched is its own
matter, and a rollback leaves all transactions of a connection at once. So a transaction can go on
where it takes itself to be in a transaction, and there is none any more.

* `Log.Holds`: what a log says of one transaction, by how far that is.
* `World.good_call`, `World.good_run`: one call keeps a world good, and so do all of them.
* `World.run_isolation`: when a step starts outside of every transaction, and when an aborted
  transaction leaves something behind.
-/

namespace Tabula

variable {β : Type} [Backend β]

/-! ## Worlds -/

/-- Several transactions in one session. -/
structure World (β : Type) where
  /-- the session -/
  session : Session β
  /-- the transactions; one whose call never ended is lost -/
  transactions : List (Option Transaction)
  /-- those whose last call answered that they were aborted -/
  aborted : List Nat := []
  /-- what everybody did -/
  log : Log := []

/-- What is done next. -/
inductive Call where
  /-- the next step of a transaction -/
  | next (i : Nat)
  /-- the commit of a transaction -/
  | commit (i : Nat)
  /-- the rollback of a transaction -/
  | rollback (i : Nat)
  /-- a connection is used directly -/
  | direct (k : Control) (c : Nat)

/-- It got stuck. -/
def isStuck {α : Type} : Outcome α → Bool
  | .error .stuck => true
  | _ => false

/-- It answered that a transaction was aborted. -/
def isAborted {α : Type} : Outcome α → Bool
  | .error (.failed (.aborted ..)) => true
  | _ => false

namespace World

/-- A party did something that led to another session. -/
def record (w : World β) (p : Party) (s : Session β) : World β :=
  { w with
    session := s
    log := w.log ++ tagged p (s.trace.drop w.session.trace.length) }

/-- A transaction does something, if it is there. -/
def act {α : Type} (w : World β) (i : Nat)
    (run : Transaction → Action β (Outcome α × Transaction)) : World β :=
  match w.transactions[i]? with
  | some (some t) =>
    let ((o, t'), s) := (run t).run w.session
    { w.record (some i) s with
      transactions := w.transactions.set i (if isStuck o then none else some t')
      aborted := if isAborted o then i :: w.aborted else w.aborted }
  | _ => w

/-- The world after a call. -/
def call (w : World β) : Call → World β
  | .next i => w.act i Transaction.executeNext
  | .commit i => w.act i Transaction.commit
  | .rollback i => w.act i Transaction.rollback
  | .direct k c => w.record none ((Session.steer k c).run w.session).2

/-- The world after some calls. -/
def run (w : World β) (calls : List Call) : World β := calls.foldl call w

end World

/-! ## What a log says of a transaction -/

namespace Log

variable {log : Log} {p : Party} {c : Nat} {t t' : Transaction}

/-- What a log says of the transaction of a party. -/
structure Holds (log : Log) (p : Party) (t : Transaction) : Prop where
  /-- it has no stubs -/
  plain : t.IsPlain
  /-- while it is running it ends no transaction -/
  calm : t.phase = .running → log.Calm p
  /-- while it is running it has started steps inside of transactions where it has touched -/
  entered : t.phase = .running → ∀ c ∈ t.touched, Inside log p c
  /-- and nowhere else -/
  touched : t.phase = .running → ∀ c n, Started log p c n → c ∈ t.touched
  /-- if it was rolled back it has committed nothing -/
  uncommitted : t.phase = .rolledBack → ¬Committed log p
  /-- and nothing of it waits that is not stranded -/
  left : t.phase = .rolledBack → ∀ c, p ∈ (log.ledger c).pending → Stranded log p c

/-- What others do leaves it as it is. -/
theorem Holds.append (h : Holds log p t) {log' : Log} (hne : ∀ m, (p, m) ∉ log') :
    Holds (log ++ log') p t := by
  have hold {m : Mark} (hm : (p, m) ∈ log ++ log') : (p, m) ∈ log :=
    (List.mem_append.mp hm).resolve_right (hne m)
  constructor
  case plain => exact h.plain
  case calm => exact fun hr x hx => h.calm hr x (hold hx)
  case entered => exact fun hr c hc => (h.entered hr c hc).append _
  case touched =>
    rintro hr c n ⟨i, hi⟩
    exact h.touched hr c n ⟨i, hold hi⟩
  case uncommitted =>
    rintro hr ⟨x, hx, hk⟩
    exact h.uncommitted hr ⟨x, hold hx, hk⟩
  case left =>
    intro hr c hp
    exact (h.left hr c (mem_pending_of_append (fun x hx => absurd hx (hne _)) hp)).append _

theorem mem_exchanges_of_tagged {ms : List Mark} {q : Party} {x : Exchange}
    (h : (p, .asked x) ∈ tagged q ms) : x ∈ exchanges ms :=
  mem_exchanges (mem_tagged.mp h).2

/-- A step that was started is among the marks that it left, or had been started before. -/
theorem started_of_append {ms : List Mark} {n : Nat} (h : Started (log ++ tagged p ms) p c n) :
    Started log p c n ∨ ∃ i, .executed i c n ∈ ms := by
  obtain ⟨i, hi⟩ := h
  rcases List.mem_append.mp hi with hi | hi
  · exact .inl ⟨i, hi⟩
  · exact .inr ⟨i, (mem_tagged.mp hi).2⟩

/-- A step touches every connection on which its party has started one. -/
theorem Holds.touched_of_stepRun (h : Holds log p t) (hr : t.phase = .running) {i : Nat}
    {s : Session β} {o : Outcome Unit} {ms : List Mark} {d : Nat → Nat} {touched : List Nat}
    (hrun : t.StepRun i s o ms d touched) {n : Nat}
    (hs : Started (log ++ tagged p ms) p c n) : c ∈ touched := by
  obtain ⟨hsub, hexec, -⟩ := hrun.touched
  rcases started_of_append hs with hs | ⟨j, hj⟩
  · exact hsub (h.touched hr c n hs)
  · exact hexec j c n hj

/-- After a step that succeeded. -/
theorem Holds.ran (h : Holds log p t) (hr : t.phase = .running) {i : Nat} {s : Session β}
    {ms : List Mark} {d : Nat → Nat} (hrun : t.StepRun i s (.ok ()) ms d t'.touched)
    (hk : t.Keeps t') (n : Nat) : Holds (log ++ tagged p ms) p { t' with next := n } := by
  have hrunning : t'.phase = .running := hk.phase.trans hr
  constructor
  case plain => exact hk.plain
  -- the party has not ended a transaction: the step sends statements and beginnings only
  case calm => exact fun _ => (h.calm hr).append hrun.control?
  -- a connection is touched by a step that is started on it at once, or was touched before
  case entered =>
    intro _ c hc
    obtain ⟨-, -, hnew⟩ := hrun.touched
    by_cases hold : c ∈ t.touched
    · exact (h.entered hr c hold).append _
    · obtain ⟨n, hn, hm⟩ := hnew rfl c hc hold
      exact ⟨n, hn, i, List.mem_append_right _ (mem_tagged.mpr ⟨rfl, hm⟩)⟩
  case touched => exact fun _ c n hs => h.touched_of_stepRun hr hrun hs
  -- a transaction that is running has rolled nothing back
  case uncommitted =>
    intro hback
    rw [hrunning] at hback
    cases hback
  case left =>
    intro hback
    rw [hrunning] at hback
    cases hback

/-- After all connections were rolled back on which a party had started steps. -/
theorem Coheres.left {depth d : Nat → Nat} {cs : List Nat} {es : List Error} {ms : List Mark}
    (h : Coheres log depth) (hcalm : log.Calm p) (hcs : ∀ c n, Started log p c n → c ∈ cs)
    (hb : Transaction.RollsBackAll depth cs.reverse (.ok es) ms d) :
    ¬Committed (log ++ tagged p ms) p ∧
      ∀ c, p ∈ (ledger (log ++ tagged p ms) c).pending →
        Stranded (log ++ tagged p ms) p c := by
  constructor
  · rintro ⟨x, hx, hk⟩
    rcases List.mem_append.mp hx with hx | hx
    · rcases hcalm x hx with h | h <;> simp [hk] at h
    · rw [control?_of_rollsBackAll hb x (mem_exchanges_of_tagged hx)] at hk
      cases hk
  · intro c hp
    -- it had waited before, so a step was started there, and the connection was rolled back
    have hbefore : p ∈ (log.ledger c).pending := by
      refine mem_pending_of_append (fun x hx => ?_) hp
      rw [control?_of_rollsBackAll hb x (mem_exchanges_of_tagged hx)]
      exact Option.some_ne_none _
    obtain ⟨n, -, hn⟩ := (h.sound.accounts p c).own (.inr hbefore)
    exact h.stranded hb rfl (List.mem_reverse.mpr (hcs c n hn)) hp

/-- A transaction that is over and was rolled back. -/
theorem Holds.ended (hplain : t.IsPlain) (hphase : t.phase = .rolledBack)
    (hc : ¬Committed log p) (hl : ∀ c, p ∈ (log.ledger c).pending → Stranded log p c) :
    Holds log p t := by
  have hno : t.phase ≠ .running := by
    rw [hphase]
    decide
  exact ⟨hplain, fun h => absurd h hno, fun h => absurd h hno, fun h => absurd h hno,
    fun _ => hc, fun _ => hl⟩

/-- A transaction that was committed. -/
theorem Holds.committed (hplain : t.IsPlain) (hphase : t.phase = .committed) :
    Holds log p t := by
  have hno : t.phase ≠ .running := by
    rw [hphase]
    decide
  have hno' : t.phase ≠ .rolledBack := by
    rw [hphase]
    decide
  exact ⟨hplain, fun h => absurd h hno, fun h => absurd h hno, fun h => absurd h hno,
    fun h => absurd h hno', fun h => absurd h hno'⟩

end Log

namespace World

open Log

/-! ## Good worlds -/

/-- What holds of every world that is reached. -/
structure Good (w : World β) : Prop where
  /-- the depths and the log agree -/
  coheres : w.log.Coheres w.session.depth
  /-- the log says what it should of every transaction -/
  holds : ∀ i t, w.transactions[i]? = some (some t) → w.log.Holds (some i) t
  /-- those that were aborted were rolled back -/
  aborted : ∀ i ∈ w.aborted, ∃ t, w.transactions[i]? = some (some t) ∧ t.phase = .rolledBack

/-- What has to be shown of something that a transaction does. -/
structure Does {α : Type} (w : World β) (i : Nat) (t : Transaction) (o : Outcome α)
    (t' : Transaction) (ms : List Mark) (d : Nat → Nat) : Prop where
  /-- the depths and the log agree afterwards -/
  coheres : (w.log ++ tagged (some i) ms).Coheres d
  /-- the log says what it should of the transaction, unless it is lost -/
  holds : isStuck o = false → (w.log ++ tagged (some i) ms).Holds (some i) t'
  /-- it was rolled back if it says that it was aborted -/
  aborted : isAborted o = true → t'.phase = .rolledBack
  /-- nothing happens once it was rolled back -/
  ended : t.phase = .rolledBack → isStuck o = false ∧ t'.phase = .rolledBack

omit [Backend β] in
/-- A transaction that is running was not rolled back. -/
theorem elim_of_running {P : Prop} {t : Transaction} (hr : t.phase = .running)
    (hb : t.phase = .rolledBack) : P := by
  rw [hr] at hb
  cases hb

theorem log_record {w : World β} {p : Party} {s : Session β} {ms : List Mark} {d : Nat → Nat}
    (hl : w.session.Leads ms d s) : (w.record p s).log = w.log ++ tagged p ms := by
  rw [record, hl.trace, List.drop_left]

theorem isStuck_of_isAborted {α : Type} {o : Outcome α} (h : isAborted o = true) :
    isStuck o = false := by
  rcases o with (e | _) | a
  · rfl
  · cases h
  · rfl

/-- **What a transaction does keeps a world good.** -/
theorem Good.act {α : Type} {w : World β} (h : w.Good) {i : Nat}
    {run : Transaction → Action β (Outcome α × Transaction)}
    (hdoes : ∀ t o t' s, w.transactions[i]? = some (some t) →
      (run t).run w.session = ((o, t'), s) →
        ∃ ms d, w.session.Leads ms d s ∧ w.Does i t o t' ms d) :
    (w.act i run).Good := by
  rcases ht : w.transactions[i]? with _ | _ | t
  · -- there is no such transaction
    rw [World.act, ht]
    exact h
  · -- it is stuck for good
    rw [World.act, ht]
    exact h
  · rcases hrun : (run t).run w.session with ⟨⟨o, t'⟩, s⟩
    obtain ⟨ms, d, hl, hd⟩ := hdoes t o t' s ht hrun
    have hlog := log_record (p := some i) hl
    have hlt : i < w.transactions.length := (List.getElem?_eq_some_iff.mp ht).1
    rw [World.act, ht]
    simp only [hrun]
    constructor
    case coheres =>
      rw [hlog]
      exact hl.depth ▸ hd.coheres
    -- what holds of a transaction is said of its own marks; the others see foreign marks only
    case holds =>
      intro j u hu
      rw [hlog]
      by_cases hj : i = j
      · subst hj
        rw [List.getElem?_set_self hlt] at hu
        -- the call was stuck, and the transaction is not looked at any more
        split at hu
        · cases hu
        case isFalse hstuck =>
          cases hu
          exact hd.holds (Bool.eq_false_iff.mpr hstuck)
      · rw [List.getElem?_set_ne hj] at hu
        refine (h.holds j u hu).append fun m hm => hj ?_
        exact (Option.some.inj (mem_tagged.mp hm).1).symm
    -- what is aborted stays so: a transaction that is rolled back does nothing that is stuck
    case aborted =>
      have hkept {j : Nat} (hj : j ∈ w.aborted) :
          ∃ u, (w.transactions.set i (if isStuck o then none else some t'))[j]? =
            some (some u) ∧ u.phase = .rolledBack := by
        obtain ⟨u, hu, hphase⟩ := h.aborted j hj
        by_cases hij : i = j
        · subst hij
          rw [ht] at hu
          cases hu
          obtain ⟨hstuck, hphase'⟩ := hd.ended hphase
          exact ⟨t', by rw [List.getElem?_set_self hlt, hstuck]; rfl, hphase'⟩
        · exact ⟨u, by rw [List.getElem?_set_ne hij]; exact hu, hphase⟩
      intro j hj
      by_cases ha : isAborted o = true
      · simp only [ha, if_true] at hj
        rcases List.mem_cons.mp hj with rfl | hj
        · refine ⟨t', ?_, hd.aborted ha⟩
          rw [List.getElem?_set_self hlt, isStuck_of_isAborted ha]
          rfl
        · exact hkept hj
      · simp only [ha] at hj
        exact hkept hj

omit [Backend β] in
/-- A call that is refused does nothing. -/
theorem Good.does_nothing {α : Type} {w : World β} (h : w.Good) {i : Nat} {t : Transaction}
    (ht : w.transactions[i]? = some (some t)) {o : Outcome α} (ho : isStuck o = false)
    (ha : isAborted o = false) : w.Does i t o t [] w.session.depth := by
  have hlog : w.log ++ tagged (some i) [] = w.log := List.append_nil _
  refine ⟨hlog.symm ▸ h.coheres, fun _ => hlog.symm ▸ h.holds i t ht, fun h => ?_,
    fun h => ⟨ho, h⟩⟩
  rw [ha] at h
  cases h

theorem Good.does_next {w : World β} (h : w.Good) {i : Nat} {t t' : Transaction}
    (ht : w.transactions[i]? = some (some t)) {o : Outcome (Option Nat)} {s : Session β}
    (hrun : t.executeNext.run w.session = ((o, t'), s)) :
    ∃ ms d, w.session.Leads ms d s ∧ w.Does i t o t' ms d := by
  have hh := h.holds i t ht
  cases Transaction.executeNext_run hrun with
  -- nothing is done
  | finished ended => exact ⟨[], _, .refl _, h.does_nothing ht rfl rfl⟩
  | exhausted running all => exact ⟨[], _, .refl _, h.does_nothing ht rfl rfl⟩
  -- the step succeeded, and what was said of the transaction is said of it now
  | ran running some run =>
    obtain ⟨ms, d, hstep, hl, hk⟩ := Transaction.runStep_run hh.plain some run
    have hc := h.coheres.stepRun hstep (hh.calm running) (hh.entered running)
    refine ⟨ms, d, hl, hc, fun _ => hh.ran running hstep hk _, fun ha => ?_,
      elim_of_running running⟩
    cases ha
  -- the step failed, so everything that was touched is rolled back behind it
  | @aborted e t₁ s₁ s₂ failures ns d' running some run rollsBack leads =>
    obtain ⟨ms, d, hstep, hl, hk⟩ := Transaction.runStep_run hh.plain some run
    have hc := h.coheres.stepRun hstep (hh.calm running) (hh.entered running)
    rw [hl.depth] at rollsBack
    have hleft := hc.left ((hh.calm running).append hstep.control?)
      (fun c n => hh.touched_of_stepRun running hstep) rollsBack
    have hc' := hc.rollsBackAll (p := Option.some i) rollsBack
    rw [List.append_assoc, ← tagged_append] at hleft hc'
    exact ⟨ms ++ ns, d', hl.trans leads, hc', fun _ => .ended hk.plain rfl hleft.1 hleft.2,
      fun _ => rfl, elim_of_running running⟩
  -- a rollback is stuck, and with it the transaction
  | @lost e t₁ s₁ s₂ halt ns d' running some run rollsBack leads =>
    obtain ⟨ms, d, hstep, hl, hk⟩ := Transaction.runStep_run hh.plain some run
    have hc := h.coheres.stepRun hstep (hh.calm running) (hh.entered running)
    rw [hl.depth] at rollsBack
    have hc' := hc.rollsBackAll (p := Option.some i) rollsBack
    rw [List.append_assoc, ← tagged_append] at hc'
    obtain rfl := rollsBack.halt rfl
    exact ⟨ms ++ ns, d', hl.trans leads, hc', nofun, nofun, elim_of_running running⟩
  -- the step is stuck
  | stuck running some run =>
    obtain ⟨ms, d, hstep, hl, hk⟩ := Transaction.runStep_run hh.plain some run
    have hc := h.coheres.stepRun hstep (hh.calm running) (hh.entered running)
    exact ⟨ms, d, hl, hc, nofun, nofun, elim_of_running running⟩

theorem Good.does_commit {w : World β} (h : w.Good) {i : Nat} {t t' : Transaction}
    (ht : w.transactions[i]? = some (some t)) {o : Outcome Unit} {s : Session β}
    (hrun : t.commit.run w.session = ((o, t'), s)) :
    ∃ ms d, w.session.Leads ms d s ∧ w.Does i t o t' ms d := by
  have hh := h.holds i t ht
  obtain ⟨ms, d, hcommit, hl⟩ := Transaction.commit_run hrun
  refine ⟨ms, d, hl, ?_⟩
  cases hcommit with
  | refused early => exact h.does_nothing ht rfl rfl
  -- a commit is stuck
  | stuck running commits =>
    obtain rfl := commits.halt rfl
    exact ⟨h.coheres.commitsAll commits, nofun, nofun, elim_of_running running⟩
  | left running all commits kept =>
    refine ⟨h.coheres.commitsAll commits, fun _ => .committed hh.plain rfl, fun ha => ?_,
      elim_of_running running⟩
    -- neither of the ends of a commit is an abort
    rcases kept with ⟨rfl, -⟩ | rfl
    · cases ha
    · cases ha

theorem Good.does_rollback {w : World β} (h : w.Good) {i : Nat} {t t' : Transaction}
    (ht : w.transactions[i]? = some (some t)) {o : Outcome Unit} {s : Session β}
    (hrun : t.rollback.run w.session = ((o, t'), s)) :
    ∃ ms d, w.session.Leads ms d s ∧ w.Does i t o t' ms d := by
  have hh := h.holds i t ht
  obtain ⟨ms, d, hback, hl⟩ := Transaction.rollback_run hrun
  refine ⟨ms, d, hl, ?_⟩
  cases hback with
  | refused ended => exact h.does_nothing ht rfl rfl
  | stuck running rollsBack =>
    obtain rfl := rollsBack.halt rfl
    exact ⟨h.coheres.rollsBackAll rollsBack, nofun, nofun, elim_of_running running⟩
  | left running rollsBack answer =>
    have hleft := h.coheres.left (hh.calm running) (hh.touched running) rollsBack
    exact ⟨h.coheres.rollsBackAll rollsBack, fun _ => .ended hh.plain rfl hleft.1 hleft.2,
      fun _ => rfl, elim_of_running running⟩

/-- Using a connection directly keeps the depths and the log together. -/
theorem steer_run {k : Control} {c : Nat} {s : Session β} {log : Log}
    (h : log.Coheres s.depth) (p : Party) :
    ∃ ms d, s.Leads ms d ((Session.steer k c).run s).2 ∧ (log ++ tagged p ms).Coheres d := by
  cases k with
  | begin =>
    obtain ⟨ms, d, hb, hl⟩ := Session.begin_run (Prod.eta ((Session.begin c).run s)).symm
    exact ⟨ms, d, hl, h.begins hb⟩
  | commit =>
    obtain ⟨ms, d, hb, hl⟩ := Session.commit_run (Prod.eta ((Session.commit c).run s)).symm
    exact ⟨ms, d, hl, h.commits hb⟩
  | rollback =>
    obtain ⟨ms, d, hb, hl⟩ := Session.rollback_run (Prod.eta ((Session.rollback c).run s)).symm
    exact ⟨ms, d, hl, h.rollsBack hb⟩

/-- **A call keeps a world good.** -/
theorem good_call {w : World β} (h : w.Good) (call : Call) : (w.call call).Good := by
  cases call with
  | next i => exact h.act fun t o t' s ht hrun => h.does_next ht hrun
  | commit i => exact h.act fun t o t' s ht hrun => h.does_commit ht hrun
  | rollback i => exact h.act fun t o t' s ht hrun => h.does_rollback ht hrun
  -- somebody begins or ends a transaction without one of the parties
  | direct k c =>
    obtain ⟨ms, d, hl, hc⟩ := steer_run (k := k) (c := c) h.coheres none
    have hlog := log_record (p := none) hl
    constructor
    case coheres =>
      rw [World.call, hlog]
      exact hl.depth ▸ hc
    case holds =>
      intro i t ht
      rw [World.call, hlog]
      refine (h.holds i t ht).append fun m hm => ?_
      -- these marks are of no party
      cases (mem_tagged.mp hm).1
    case aborted => exact h.aborted

theorem good_run {w : World β} (h : w.Good) (calls : List Call) : (w.run calls).Good := by
  induction calls generalizing w with
  | nil => exact h
  | cons call calls ih => exact ih (good_call h call)

/-! ## Isolation -/

/-- Transactions that have not been used yet, in a session where no transaction is open. -/
def start (s : Session β) (ts : List Transaction) : World β :=
  { session := s, transactions := ts.map some }

omit [Backend β] in
theorem good_start {s : Session β} {ts : List Transaction} (hclosed : ∀ c, s.depth c = 0)
    (hnew : ∀ t ∈ ts, t.IsNew ∧ t.IsPlain) : (start s ts).Good := by
  constructor
  -- at first there are no marks, and no transaction is open
  case coheres => exact ⟨.nil, fun c => ⟨fun _ => rfl, fun _ => hclosed c⟩⟩
  case holds =>
    intro i t ht
    obtain ⟨u, hu, hut⟩ := List.mem_map.mp (List.mem_of_getElem? ht)
    obtain rfl := Option.some.inj hut
    obtain ⟨hn, hp⟩ := hnew u hu
    -- a new transaction is running
    have hno {P : Prop} (hb : u.phase = .rolledBack) : P := by
      rw [hn.running] at hb
      cases hb
    refine ⟨hp, fun _ x hx => absurd hx List.not_mem_nil, fun _ c hc => ?_, ?_, hno, hno⟩
    · rw [hn.touched] at hc
      cases hc
    · rintro _ c n ⟨j, hj⟩
      cases hj
  case aborted => exact fun i hi => absurd hi List.not_mem_nil

/-- **How far transactions that share connections are isolated.** A step starts outside of every
transaction exactly if another party ended the one that the step's own transaction had been in. An
aborted transaction leaves a statement in a database only if one of its steps started like that, or
another party committed; it leaves one waiting only if rolling back failed. -/
theorem run_isolation {s : Session β} {ts : List Transaction} (hclosed : ∀ c, s.depth c = 0)
    (hnew : ∀ t ∈ ts, t.IsNew ∧ t.IsPlain) (calls : List Call) :
    (∀ pre post i j c n, ((start s ts).run calls).log = pre ++ (some i, .executed j c n) :: post →
        (n = 0 ↔ Log.Broken pre (some i) c)) ∧
      ∀ i ∈ ((start s ts).run calls).aborted, ∀ c,
        (some i ∈ (((start s ts).run calls).log.ledger c).kept →
            Log.Exposed ((start s ts).run calls).log (some i) c) ∧
          (some i ∈ (((start s ts).run calls).log.ledger c).pending →
            Log.Stranded ((start s ts).run calls).log (some i) c) := by
  have hgood := good_run (good_start hclosed hnew) calls
  refine ⟨fun pre post i j c n hsplit => hgood.coheres.sound.executed_iff hsplit, ?_⟩
  intro i hi c
  obtain ⟨t, ht, hphase⟩ := hgood.aborted i hi
  have hholds := hgood.holds i t ht
  refine ⟨fun hp => ?_, hholds.left hphase c⟩
  have haccounts := hgood.coheres.sound.accounts (some i) c
  exact (haccounts.kept hp).resolve_right (hholds.uncommitted hphase)

/-- A statement on the first connection. -/
def insertion : Step :=
  .routine (.query { connection := some 0, sql := "INSERT INTO t VALUES (1)", type := .insert })

/-- A function that fails. -/
def failure : Step := .function fun _ _ => [.fail (.invalidInput "stop")]

/-- Two transactions on one connection: one statement and two statements, and then a failure. -/
def sharing : List Transaction :=
  [{ steps := [insertion, failure], results := [none, none] },
    { steps := [insertion, insertion, failure], results := [none, none, none] }]

/-- The second one starts, the first one starts and is aborted, and the second one goes on. -/
def turns : List Call := [.next 1, .next 0, .next 0, .next 1, .next 1]

theorem isNew_sharing : ∀ t ∈ sharing, t.IsNew ∧ t.IsPlain := by
  intro t ht
  rcases List.mem_cons.mp ht with rfl | ht
  · exact ⟨⟨rfl, rfl, rfl⟩, by simp [Transaction.IsPlain, insertion, failure, Step.IsPlain,
      Routine.IsPlain]⟩
  · obtain rfl := List.mem_singleton.mp ht
    exact ⟨⟨rfl, rfl, rfl⟩, by simp [Transaction.IsPlain, insertion, failure, Step.IsPlain,
      Routine.IsPlain]⟩

theorem depth_pair (c : Nat) : Willing.pair.depth c = 0 := by
  rcases c with _ | _ | c <;> rfl

theorem log_turns :
    ∃ pre post, ((start Willing.pair sharing).run turns).log =
      pre ++ (some 1, .executed 1 0 0) :: post :=
  ⟨_, _, (List.take_append_drop 10 _).symm.trans (by with_unfolding_all rfl)⟩

theorem aborted_turns : 1 ∈ ((start Willing.pair sharing).run turns).aborted := by
  with_unfolding_all decide

theorem kept_turns :
    some 1 ∈ (((start Willing.pair sharing).run turns).log.ledger 0).kept := by
  with_unfolding_all decide

/-- The second one starts a step outside of every transaction, since the first one ended the one
that it had been in, and what it sent there stays. -/
theorem run_isolation_turns :
    (∃ pre, Log.Broken pre (some 1) 0) ∧
      Log.Exposed ((start Willing.pair sharing).run turns).log (some 1) 0 := by
  obtain ⟨pre, post, hlog⟩ := log_turns
  obtain ⟨hstarts, hleft⟩ := run_isolation depth_pair isNew_sharing turns
  exact ⟨⟨pre, (hstarts pre post 1 1 0 0 hlog).mp rfl⟩, (hleft 1 aborted_turns 0).1 kept_turns⟩

/-- So transactions that share a connection are not isolated: a step of one that is running starts
outside of every transaction, and one that was aborted leaves something behind. -/
theorem run_turns_not_isolated :
    ¬(∀ i j c n, (some i, .executed j c n) ∈ ((start Willing.pair sharing).run turns).log →
        0 < n) ∧
      ¬(∀ i ∈ ((start Willing.pair sharing).run turns).aborted, ∀ c,
        some i ∉ (((start Willing.pair sharing).run turns).log.ledger c).kept) := by
  obtain ⟨pre, post, hlog⟩ := log_turns
  refine ⟨fun h => ?_, fun h => h 1 aborted_turns 0 kept_turns⟩
  refine Nat.lt_irrefl 0 (h 1 1 0 0 ?_)
  rw [hlog]
  exact List.mem_append_right _ List.mem_cons_self

end World

end Tabula
