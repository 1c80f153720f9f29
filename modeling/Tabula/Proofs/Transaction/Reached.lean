import Tabula.Proofs.Transaction.Rerun

/-!
# States of a transaction

A transaction of procedures goes on by its calls, as long as each of them returns. It can be cleared
at any time and run once more. If it is over then, it touches nothing any more, and the run that
follows stands by itself; but if it was left in the middle, what it touched is touched still.

* `Settled`: what holds in every state that is reached.
* `Reached.clear_execute`: what a run keeps that follows on clearing.
-/

namespace Tabula

namespace Transaction

variable {β : Type} [Backend β]

/-- The states that a new transaction of procedures reaches by calls that return. -/
inductive Reached (t₀ : Transaction) (s₀ : Session β) : Transaction → Session β → Prop
  /-- nothing was called -/
  | fresh (new : t₀.IsNew) (plain : t₀.IsPlain) (straight : t₀.IsStraight) : Reached t₀ s₀ t₀ s₀
  /-- the next step was run -/
  | next {t t' : Transaction} {s s' : Session β} {o : Outcome (Option Nat)}
    (before : Reached t₀ s₀ t s) (run : t.executeNext.run s = ((o, t'), s'))
    (answered : o ≠ .error .stuck) : Reached t₀ s₀ t' s'
  /-- it was committed -/
  | commit {t t' : Transaction} {s s' : Session β} {o : Outcome Unit}
    (before : Reached t₀ s₀ t s) (run : t.commit.run s = ((o, t'), s'))
    (answered : o ≠ .error .stuck) : Reached t₀ s₀ t' s'
  /-- it was rolled back -/
  | rollback {t t' : Transaction} {s s' : Session β} {o : Outcome Unit}
    (before : Reached t₀ s₀ t s) (run : t.rollback.run s = ((o, t'), s'))
    (answered : o ≠ .error .stuck) : Reached t₀ s₀ t' s'
  /-- it was executed -/
  | execute {t t' : Transaction} {s s' : Session β} {o : Outcome ResultSet}
    (before : Reached t₀ s₀ t s) (run : t.execute.run s = ((o, t'), s'))
    (answered : o ≠ .error .stuck) : Reached t₀ s₀ t' s'
  /-- it was cleared -/
  | clear {t : Transaction} {s : Session β} (before : Reached t₀ s₀ t s) : Reached t₀ s₀ t.clear s

/-! ## What holds in every state -/

/-- What holds of a transaction in every state that it reaches. -/
structure Settled (t₀ : Transaction) (s₀ : Session β) (t : Transaction) (s : Session β) :
    Prop where
  /-- there are no stubs -/
  plain : t.IsPlain
  /-- nor functions -/
  straight : t.IsStraight
  /-- the steps stay, but for their results -/
  steps : t.steps.map Step.bare = t₀.steps.map Step.bare
  /-- when it is over it has touched nothing -/
  ended : t.phase ≠ .running → t.touched = []
  /-- where it started outside of every transaction, it is in those that it touched, once -/
  level : (∀ c, s₀.depth c = 0) → t.touched.Nodup ∧ s.depth = depthOf t.touched

variable {t₀ t t' : Transaction} {s₀ s s' : Session β}

/-- Rolling back leaves a connection in any case. -/
theorem depth_of_rollsBack {d d' : Nat → Nat} {c : Nat} {o : Outcome Unit} {ms : List Mark}
    (h : Session.RollsBack d c o ms d') : d' = Function.update d c 0 := by
  cases h with
  | closed closed => rw [← closed, Function.update_eq_self]
  | sent open_ => rfl

/-- A connection that was entered once is left by a commit that returns, kept or not. -/
theorem CommitsOne.depth {d d' : Nat → Nat} {c : Nat} {es : List Error} {ms : List Mark}
    (h : CommitsOne d c (.ok es) ms d') (hd : d c ≤ 1) : d' = Function.update d c 0 := by
  cases h with
  | kept commits =>
    cases commits with
    | nested level => omega
    | kept level => rfl
  | undone commits rollsBack answered =>
    generalize ho : failWith _ = o at commits
    cases commits with
    | closed closed => exact depth_of_rollsBack rollsBack
    | nested level => cases ho
    | kept level => cases ho
    | refused level => exact depth_of_rollsBack rollsBack

theorem CommitsAll.depth {d d' : Nat → Nat} {cs : List Nat} {o : Outcome (List Error)}
    {es : List Error} {ms : List Mark} (h : CommitsAll d cs o ms d') (ho : o = .ok es)
    (hd : ∀ c, d c ≤ 1) (c : Nat) : d' c = if c ∈ cs then 0 else d c := by
  induction h generalizing es with
  | nil => rw [if_neg List.not_mem_nil]
  | stuck first => cases ho
  | @cons d d' d'' c' cs es' o ms ns first rest ih =>
    rcases o with halt | es''
    · cases ho
    -- the connections behind are still entered once at most
    obtain rfl := first.depth (hd c')
    have hle : ∀ c, Function.update d c' 0 c ≤ 1 := by
      intro c
      by_cases hc : c = c'
      · subst hc
        rw [Function.update_self]
        exact Nat.zero_le _
      · rw [Function.update_of_ne hc]
        exact hd c
    rw [ih rfl hle]
    by_cases hc : c = c'
    · subst hc
      rw [Function.update_self, if_pos List.mem_cons_self, ite_self]
    · rw [Function.update_of_ne hc]
      simp only [List.mem_cons, or_iff_right hc]

theorem depthOf_le (touched : List Nat) (c : Nat) : depthOf touched c ≤ 1 := by
  rw [depthOf]
  split
  · exact Nat.le_refl 1
  · exact Nat.zero_le 1

/-- When all that is touched is left, nothing is touched. -/
theorem depth_of_left {touched cs : List Nat} {d d' : Nat → Nat} (hd : d = depthOf touched)
    (hcs : ∀ c, c ∈ cs ↔ c ∈ touched) (h : ∀ c, d' c = if c ∈ cs then 0 else d c) :
    d' = depthOf [] := by
  funext c
  rw [h, hd, depthOf, depthOf, if_neg List.not_mem_nil]
  by_cases hc : c ∈ touched
  · rw [if_pos ((hcs c).mpr hc)]
  · rw [if_neg fun h => hc ((hcs c).mp h), if_neg hc]

omit [Backend β] in
theorem Settled.start (hnew : t₀.IsNew) (hplain : t₀.IsPlain) (hs : t₀.IsStraight) :
    Settled t₀ s₀ t₀ s₀ := by
  refine ⟨hplain, hs, rfl, fun _ => hnew.touched, fun h => ?_⟩
  rw [hnew.touched]
  exact ⟨List.nodup_nil, funext h⟩

/-- All that was touched has been rolled back. -/
theorem Settled.left (h : Settled t₀ s₀ t s) {o : Outcome (List Error)} {failures : List Error}
    {ms : List Mark} {d : Nat → Nat} (hback : RollsBackAll s.depth t.touched.reverse o ms d)
    (ho : o = .ok failures) (hl : s.Leads ms d s') (phase : Phase) :
    Settled t₀ s₀ { t with touched := [], phase } s' := by
  refine ⟨h.plain, h.straight, h.steps, fun _ => rfl, fun hclosed => ⟨List.nodup_nil, ?_⟩⟩
  obtain ⟨hn, hd⟩ := h.level hclosed
  obtain ⟨-, -, -, -, hdepth⟩ := hback.exchanges ho (List.nodup_reverse.mpr hn)
  rw [hl.depth]
  exact depth_of_left hd (fun c => List.mem_reverse) hdepth

/-- A step of a transaction that is running. -/
theorem Settled.stepRun (h : Settled t₀ s₀ t s) (hrunning : t.phase = .running) {i : Nat}
    (hi : i < t.steps.length) {o : Outcome Unit} (hrun : (t.runStep i).run s = ((o, t'), s')) :
    Settled t₀ s₀ t' s' := by
  obtain ⟨ms, d, hstep, hl, hk⟩ := runStep_run h.plain hi hrun
  have hbare := hk.bare h.straight
  refine ⟨hk.plain, h.straight.congr hbare, hbare.trans h.steps, fun hover => ?_, fun hclosed => ?_⟩
  · rw [hk.phase] at hover
    exact absurd hrunning hover
  · obtain ⟨hn, hd⟩ := h.level hclosed
    have hext := hstep.extends hd hn
    exact ⟨hext.nodup, hl.depth.trans hext.depth⟩

theorem Settled.next (h : Settled t₀ s₀ t s) {o : Outcome (Option Nat)}
    (hrun : t.executeNext.run s = ((o, t'), s')) (ho : o ≠ .error .stuck) :
    Settled t₀ s₀ t' s' := by
  cases executeNext_run hrun with
  | finished ended => exact h
  | exhausted running all => exact h
  | ran running some run =>
    have hs := h.stepRun running some run
    exact ⟨hs.plain, hs.straight, hs.steps, hs.ended, hs.level⟩
  | aborted running some run rollsBack leads =>
    exact (h.stepRun running some run).left rollsBack rfl leads .rolledBack
  | lost running some run rollsBack leads =>
    exact absurd (congrArg Except.error (rollsBack.halt rfl)) ho
  | stuck running some run => exact absurd rfl ho

theorem Settled.commit (h : Settled t₀ s₀ t s) {o : Outcome Unit}
    (hrun : t.commit.run s = ((o, t'), s')) (ho : o ≠ .error .stuck) : Settled t₀ s₀ t' s' := by
  obtain ⟨ms, d, hcommit, hl⟩ := commit_run hrun
  cases hcommit with
  | refused early =>
    refine ⟨h.plain, h.straight, h.steps, h.ended, fun hclosed => ?_⟩
    rw [hl.depth]
    exact h.level hclosed
  | stuck running commits => exact absurd (congrArg Except.error (commits.halt rfl)) ho
  | left running all commits kept =>
    refine ⟨h.plain, h.straight, h.steps, fun _ => rfl, fun hclosed => ⟨List.nodup_nil, ?_⟩⟩
    obtain ⟨-, hd⟩ := h.level hclosed
    rw [hl.depth]
    refine depth_of_left hd (fun c => Iff.rfl) (commits.depth rfl fun c => ?_)
    rw [hd]
    exact depthOf_le t.touched c

theorem Settled.rollback (h : Settled t₀ s₀ t s) {o : Outcome Unit}
    (hrun : t.rollback.run s = ((o, t'), s')) (ho : o ≠ .error .stuck) : Settled t₀ s₀ t' s' := by
  obtain ⟨ms, d, hback, hl⟩ := rollback_run hrun
  cases hback with
  | refused ended =>
    refine ⟨h.plain, h.straight, h.steps, h.ended, fun hclosed => ?_⟩
    rw [hl.depth]
    exact h.level hclosed
  | stuck running rollsBack => exact absurd (congrArg Except.error (rollsBack.halt rfl)) ho
  | left running rollsBack answer => exact h.left rollsBack rfl hl .rolledBack

theorem Settled.ran (h : Settled t₀ s₀ t s) {n : Nat} (hran : Ran t s n t' s') :
    Settled t₀ s₀ t' s' := by
  induction hran with
  | start => exact h
  | step before run ih => exact ih.next run nofun

theorem Settled.execute (h : Settled t₀ s₀ t s) {o : Outcome ResultSet}
    (hrun : t.execute.run s = ((o, t'), s')) (ho : o ≠ .error .stuck) : Settled t₀ s₀ t' s' := by
  cases execute_run hrun with
  | broken ran run => exact (h.ran ran).next run fun hs => ho (by cases hs; rfl)
  | unkept ran commit => exact (h.ran ran).commit commit fun hs => ho (by cases hs; rfl)
  | done ran commit =>
    have hs := (h.ran ran).commit commit nofun
    exact ⟨hs.plain, hs.straight, hs.steps, hs.ended, hs.level⟩

omit [Backend β] in
/-- What is touched stays touched, but the transaction is running again. -/
theorem Settled.clear (h : Settled t₀ s₀ t s) : Settled t₀ s₀ t.clear s :=
  ⟨h.plain, h.straight, h.steps, fun hover => absurd rfl hover, h.level⟩

/-- **Every state that is reached is settled.** -/
theorem Reached.settled (h : Reached t₀ s₀ t s) : Settled t₀ s₀ t s := by
  induction h with
  | fresh new plain straight => exact .start new plain straight
  | next before run answered ih => exact ih.next run answered
  | commit before run answered ih => exact ih.commit run answered
  | rollback before run answered ih => exact ih.rollback run answered
  | execute before run answered ih => exact ih.execute run answered
  | clear before ih => exact ih.clear

/-! ## Clearing -/

/-- The results that the steps had stored do not matter. -/
theorem Rerun.congr {steps steps' : List Step} {touched : List Nat} {ms : List Mark}
    (h : Rerun steps touched s s' ms) (hs : steps.map Step.bare = steps'.map Step.bare) :
    Rerun steps' touched s s' ms := by
  have hlength : steps.length = steps'.length := by
    rw [← List.length_map, hs, List.length_map]
  have hplan (style : PlaceholderStyle) (c : Nat) : plan style c steps = plan style c steps' := by
    rw [← plan_bare, hs, plan_bare]
  have huses (c : Nat) : Uses steps c ↔ Uses steps' c := by
    rw [← uses_bare, hs, uses_bare]
  refine ⟨h.trace, hlength ▸ h.once, fun c => ?_, h.answered, fun c hc => ?_⟩
  · rw [h.complete, hplan]
  · exact h.clean c ((huses c).mpr hc)

/-- **What a run keeps that follows on clearing.** It runs all steps once, and on a connection of
theirs it keeps what they asked and nothing else, entering it anew, exactly if the connection was
not left touched, no transaction was counted on it and nothing was waiting there. When the
transaction was over nothing was left touched, and outside of what was touched no transaction is
counted unless one was from the beginning. -/
theorem Reached.clear_execute (h : Reached t₀ s₀ t s) {r : ResultSet}
    (hrun : t.clear.execute.run s = ((.ok r, t'), s')) :
    (t.phase ≠ .running → t.touched = []) ∧
      ((∀ c, s₀.depth c = 0) → ∀ c, c ∉ t.touched → s.depth c = 0) ∧
      ∃ ms, Rerun t₀.steps t.touched s s' ms := by
  have hs := h.settled
  refine ⟨hs.ended, fun hclosed c hc => ?_, ?_⟩
  · rw [(hs.level hclosed).2, depthOf, if_neg hc]
  · obtain ⟨ms, hr⟩ := execute_rerun (t := t.clear) hs.plain hs.straight rfl hrun
    exact ⟨ms, hr.congr hs.steps⟩

/-- A statement on a connection. -/
def inserting : Transaction where
  steps :=
    [.routine
      (.query { connection := some 0, sql := "INSERT INTO t VALUES (1)", type := .insert })]
  results := [none]

theorem Reached.fresh_inserting : Reached inserting Willing.pair inserting Willing.pair := by
  refine .fresh ⟨rfl, rfl, rfl⟩ ?_ ?_
  · simp [IsPlain, inserting, Step.IsPlain, Routine.IsPlain]
  · simp [IsStraight, inserting]

/-- It is executed, cleared and executed again. -/
theorem Reached.clear_execute_inserting :
    ∃ (t t' : Transaction) (s s' : Session Willing) (r : ResultSet),
      Reached inserting Willing.pair t s ∧ t.clear.execute.run s = ((.ok r, t'), s') ∧
        t.touched = [] ∧ ∃ ms, Rerun inserting.steps t.touched s s' ms := by
  obtain ⟨r₁, h₁⟩ : ∃ r, (inserting.execute.run Willing.pair).1.1 = .ok r :=
    ⟨_, by with_unfolding_all rfl⟩
  obtain ⟨r₂, h₂⟩ : ∃ r, ((inserting.execute.run Willing.pair).1.2.clear.execute.run
      (inserting.execute.run Willing.pair).2).1.1 = .ok r :=
    ⟨_, by with_unfolding_all rfl⟩
  have hreached := Reached.execute .fresh_inserting (run_of_answer h₁) nofun
  have hrun := run_of_answer h₂
  have htouched : (inserting.execute.run Willing.pair).1.2.touched = [] := by
    with_unfolding_all rfl
  exact ⟨_, _, _, _, r₂, hreached, hrun, htouched, (hreached.clear_execute hrun).2.2⟩

/-- If its step is run, and it is cleared and executed then, the statement is kept twice, and no
transaction is begun by that. -/
theorem Reached.clear_execute_unfinished :
    ∃ (t t' : Transaction) (s s' : Session Willing) (r : ResultSet) (q : Request),
      Reached inserting Willing.pair t s ∧ t.clear.execute.run s = ((.ok r, t'), s') ∧
        plan .question 0 inserting.steps = [.ok q] ∧ (s.ledger 0).kept = [] ∧
        (s'.ledger 0).kept = [q, q] ∧
        begun (exchanges (s'.trace.drop s.trace.length)) = [] := by
  obtain ⟨i, h₁⟩ : ∃ i, (inserting.executeNext.run Willing.pair).1.1 = .ok i :=
    ⟨_, by with_unfolding_all rfl⟩
  obtain ⟨r, h₂⟩ : ∃ r, ((inserting.executeNext.run Willing.pair).1.2.clear.execute.run
      (inserting.executeNext.run Willing.pair).2).1.1 = .ok r :=
    ⟨_, by with_unfolding_all rfl⟩
  have hreached := Reached.next .fresh_inserting (run_of_answer h₁) nofun
  have hrun := run_of_answer h₂
  refine ⟨_, _, _, _, r, .sets "INSERT INTO t VALUES (1)" [[]] .insert, hreached, hrun, ?_, ?_,
    ?_, ?_⟩
  · with_unfolding_all rfl
  · with_unfolding_all rfl
  · with_unfolding_all rfl
  · with_unfolding_all rfl

end Transaction

end Tabula
