import Tabula.Proofs.Session.Ledger
import Tabula.Proofs.Transaction.Abort

/-!
# Running once more

A transaction that was cleared runs its steps from the first one on, but what was touched before
counts as touched still. So where it had left a connection in the middle of a transaction, it goes
on in there, and the commit keeps both what it did before and what it does now.

`Progress` does not apply then, and each connection is followed by itself (`Visit`): one that is
outside of every transaction is entered, and one that is not stays as it is.

* `Visit.step`, `Course.step`: one step that succeeds, for a connection and for the whole run.
* `Ran.course`: all steps that succeed; `Course.commit`: the commit behind them.
* `execute_rerun`: what a run leaves that succeeds, and on which connections that is the run alone.
-/

namespace Tabula

/-! ## Plans -/

/-- The connection of a step. -/
def Step.connection? : Step → Option Nat
  | .routine r => r.connection
  | _ => none

/-- What a step asks of a connection. -/
def Step.asks (style : PlaceholderStyle) (c : Nat) : Step → List (Except Error Request)
  | .routine r => if r.connection = some c then r.statements style else []
  | _ => []

theorem Step.connection?_bare (s : Step) : s.bare.connection? = s.connection? := by
  cases s with
  | routine r => exact Routine.connection_bare r
  | _ => rfl

theorem Step.asks_bare (style : PlaceholderStyle) (c : Nat) (s : Step) :
    s.bare.asks style c = s.asks style c := by
  cases s with
  | routine r =>
    simp only [bare, asks]
    rw [Routine.connection_bare, Routine.statements_bare]
  | _ => rfl

namespace Transaction

/-- A step is on a connection. -/
def Uses (steps : List Step) (c : Nat) : Prop := ∃ step ∈ steps, step.connection? = some c

/-- What steps ask of a connection, in order. -/
def plan (style : PlaceholderStyle) (c : Nat) (steps : List Step) : List (Except Error Request) :=
  steps.flatMap (Step.asks style c)

/-- The results that are stored do not matter. -/
theorem plan_bare (style : PlaceholderStyle) (c : Nat) (steps : List Step) :
    plan style c (steps.map Step.bare) = plan style c steps := by
  rw [plan, List.flatMap_map, plan]
  congr 1
  funext step
  exact Step.asks_bare style c step

theorem uses_bare {steps : List Step} {c : Nat} : Uses (steps.map Step.bare) c ↔ Uses steps c := by
  simp only [Uses, List.mem_map, exists_exists_and_eq_and, Step.connection?_bare]

variable {t t' : Transaction}

theorem plan_take (h : t'.steps.map Step.bare = t.steps.map Step.bare) (style : PlaceholderStyle)
    (c n : Nat) : plan style c (t'.steps.take n) = plan style c (t.steps.take n) := by
  rw [← plan_bare, List.map_take, h, ← List.map_take, plan_bare]

theorem uses_take (h : t'.steps.map Step.bare = t.steps.map Step.bare) (c n : Nat) :
    Uses (t'.steps.take n) c ↔ Uses (t.steps.take n) c := by
  rw [← uses_bare, List.map_take, h, ← List.map_take, uses_bare]

theorem IsStraight.congr (ht : t.IsStraight) (h : t'.steps.map Step.bare = t.steps.map Step.bare) :
    t'.IsStraight := by
  intro step hstep
  have hmem : step.bare ∈ t.steps.map Step.bare := h ▸ List.mem_map_of_mem hstep
  obtain ⟨step₀, hstep₀, hbare⟩ := List.mem_map.mp hmem
  obtain ⟨r, rfl⟩ := ht step₀ hstep₀
  cases step with
  | routine r' => exact ⟨r', rfl⟩
  | nested type => cases hbare
  | function directives => cases hbare

/-! ## A step that succeeds -/

variable {β : Type} [Backend β]

/-- A step that succeeded and is a procedure: it touched its connection and ran all its
statements. -/
structure Passes (t : Transaction) (i : Nat) (s : Session β) (c : Nat) (ns : List Mark)
    (xs : List Exchange) (d : Nat → Nat) (touched : List Nat) : Prop where
  /-- it is a step of the connection -/
  step : ∃ r, t.steps[i]? = some (.routine r) ∧ r.connection = some c ∧
    xs.map (fun x => .ok x.request) = r.statements (s.styleOf c)
  /-- which was touched -/
  touches : t.Touches s.depth c (.ok ()) ns d touched
  /-- its statements went there, and nothing else -/
  statements : ∀ x ∈ xs, x.connection = c ∧ x.request.control? = none
  /-- each with a reply -/
  answered : ∀ x ∈ xs, x.ending.isOk

theorem StepRun.passes {i : Nat} {s : Session β} {o : Outcome Unit} {ms : List Mark}
    {d : Nat → Nat} {touched : List Nat} (h : t.StepRun i s o ms d touched) (hs : t.IsStraight)
    (ho : o = .ok ()) :
    ∃ c ns xs, t.Passes i s c ns xs d touched ∧ exchanges ms = exchanges ns ++ xs := by
  cases h with
  | idle => cases ho
  | unprepared => cases ho
  | refused enters touches => cases ho
  | dropped enters touches => cases ho
  | @ran r c _ ns xs d touched enters touches runs =>
    have hok : (o : Outcome Unit).isOk := ho ▸ rfl
    refine ⟨c, ns, exchanges xs, ⟨⟨r, enters.step, enters.connection, runs.all hok⟩, touches, ?_,
      runs.answered hok⟩, ?_⟩
    · exact fun x hx => ⟨connection_of_on runs.on x hx, Routine.control?_of_runs runs x hx⟩
    · rw [exchanges_prepared, exchanges_append, exchanges_executed]
  -- the steps are all plain, so that none is a call
  | called step =>
    obtain ⟨r, hr⟩ := hs _ (List.mem_of_getElem? step)
    cases hr

/-! ## A connection during a run -/

/-- Elsewhere nothing changes. -/
theorem Touches.elsewhere {depth d : Nat → Nat} {c c' : Nat} {o : Outcome Unit} {ms : List Mark}
    {touched : List Nat} (h : t.Touches depth c o ms d touched) (hc : c' ≠ c) :
    d c' = depth c' ∧ (c' ∈ touched ↔ c' ∈ t.touched) := by
  have hbegins {o : Outcome Unit} (hb : Session.Begins depth c o ms d) : d c' = depth c' := by
    cases hb with
    | nested open_ => exact Function.update_of_ne hc _ _
    | opened closed on sent => exact Function.update_of_ne hc _ _
    | refused closed on sent => rfl
    | unsent closed on sent => rfl
  cases h with
  | already touched => exact ⟨rfl, Iff.rfl⟩
  | entered untouched begins => exact ⟨hbegins begins, by simp [hc]⟩
  | refused untouched begins => exact ⟨hbegins begins, Iff.rfl⟩

/-- The connection of the step is touched. If it was not, and was in no transaction, one is begun,
and otherwise nothing is asked. -/
theorem Touches.here {depth d : Nat → Nat} {c : Nat} {ms : List Mark} {touched : List Nat}
    (h : t.Touches depth c (.ok ()) ms d touched) :
    ((c ∈ t.touched ∨ depth c ≠ 0) ∧ exchanges ms = [] ∧ (c ∈ t.touched → d c = depth c)) ∨
      ((c ∉ t.touched ∧ depth c = 0) ∧ d c = 1 ∧
        ∃ sets, exchanges ms = [⟨c, Control.begin.request, .ok sets⟩]) := by
  cases h with
  | already touched => exact .inl ⟨.inl touched, rfl, fun _ => rfl⟩
  | entered untouched begins =>
    cases begins with
    | nested open_ => exact .inl ⟨.inr open_, rfl, fun hc => absurd hc untouched⟩
    | @opened _ sets closed on sent =>
      exact .inr ⟨⟨untouched, closed⟩, Function.update_self .., sets, sent⟩

/-- How a connection stands in a run, by how it stood before. -/
inductive Visit (c : Nat) (t₀ : Transaction) (s₀ : Session β) (t : Transaction) (s : Session β)
    (xs : List Exchange) : Prop
  /-- it was outside of every transaction, and no step has used it -/
  | away (before : c ∉ t₀.touched ∧ s₀.depth c = 0) (untouched : c ∉ t.touched)
    (closed : s.depth c = 0) (ledger : s.ledger c = s₀.ledger c) (none : statementsOn c xs = []) :
    Visit c t₀ s₀ t s xs
  /-- it was outside of every transaction, and has been entered -/
  | inside (before : c ∉ t₀.touched ∧ s₀.depth c = 0) (touched : c ∈ t.touched)
    (level : s.depth c = 1) (begun : c ∈ begun xs)
    (ledger : s.ledger c = { kept := (s₀.ledger c).kept
                             pending := (s₀.ledger c).pending ++ statementsOn c xs
                             isOpen := true }) :
    Visit c t₀ s₀ t s xs
  /-- it counted as touched or was in a transaction, and is so still -/
  | stays (before : c ∈ t₀.touched ∨ s₀.depth c ≠ 0) (now : c ∈ t.touched ∨ s.depth c ≠ 0)
    (unbegun : c ∉ begun xs) : Visit c t₀ s₀ t s xs

theorem not_mem_begun {c : Nat} {xs : List Exchange}
    (h : ∀ x ∈ xs, x.connection = c → x.request.control? ≠ some .begin) : c ∉ begun xs := by
  intro hc
  obtain ⟨x, hx, hb⟩ := List.mem_filterMap.mp hc
  rw [Exchange.begun?] at hb
  split at hb
  case isTrue hbegin => exact h x hx (Option.some.inj hb) hbegin.1
  case isFalse => cases hb

section

variable {c c' i : Nat} {t₀ : Transaction} {s₀ s s' : Session β} {ys xs : List Exchange}
  {ms ns : List Mark} {d : Nat → Nat}

/-- A step of another connection changes nothing. -/
theorem Visit.elsewhere (h : Visit c t₀ s₀ t s ys) (hp : t.Passes i s c' ns xs d t'.touched)
    (hms : exchanges ms = exchanges ns ++ xs) (hl : s.Leads ms d s') (hc : c ≠ c') :
    Visit c t₀ s₀ t' s' (ys ++ exchanges ms) := by
  -- whatever this step sent went out on another connection
  have helse : ∀ x ∈ exchanges ms, x.connection ≠ c := by
    rw [hms]
    refine List.forall_mem_append.mpr ⟨fun x hx he => hc ?_, fun x hx he => hc ?_⟩
    · exact he.symm.trans (connection_of_on hp.touches.on x hx)
    · exact he.symm.trans (hp.statements x hx).1
  obtain ⟨hd, ht⟩ := hp.touches.elsewhere hc
  have hledger : s'.ledger c = s.ledger c := by
    rw [hl.ledger, Ledger.through_elsewhere helse]
  have hst : statementsOn c (ys ++ exchanges ms) = statementsOn c ys := by
    rw [statementsOn_append, statementsOn_eq_nil fun x hx hx' => absurd hx' (helse x hx),
      List.append_nil]
  cases h with
  | away before untouched closed ledger none =>
    refine .away before (fun h => untouched (ht.mp h)) ?_ (hledger.trans ledger) (hst.trans none)
    rw [hl.depth, hd, closed]
  | inside before touched level begun ledger =>
    refine .inside before (ht.mpr touched) ?_ ?_ ?_
    · rw [hl.depth, hd, level]
    · rw [begun_append]
      exact List.mem_append_left _ begun
    · rw [hledger, ledger, hst]
  | stays before now unbegun =>
    refine .stays before ?_ ?_
    · rw [hl.depth, hd, ht]
      exact now
    · rw [begun_append, List.mem_append, not_or]
      exact ⟨unbegun, not_mem_begun fun x hx hx' => absurd hx' (helse x hx)⟩

/-- A step of the connection enters it, or finds it touched or in a transaction. -/
theorem Visit.here (h : Visit c t₀ s₀ t s ys) (hp : t.Passes i s c ns xs d t'.touched)
    (hms : exchanges ms = exchanges ns ++ xs) (hl : s.Leads ms d s') :
    Visit c t₀ s₀ t' s' (ys ++ exchanges ms) := by
  have hledger := hl.ledger c
  have htouched := hp.touches.mem
  rw [hms] at hledger ⊢
  rcases hp.touches.here with ⟨hopen, hns, hd⟩ | ⟨⟨huntouched, hclosed⟩, hd, sets, hns⟩
  · -- nothing is begun, so the statements go where the connection stands
    rw [hns, List.nil_append] at hledger ⊢
    cases h with
    | away before untouched closed ledger none =>
      exact absurd hopen (not_or.mpr ⟨untouched, not_not.mpr closed⟩)
    | inside before touched level begun ledger =>
      refine .inside before htouched ?_ ?_ ?_
      · rw [hl.depth, hd touched, level]
      · rw [begun_append]
        exact List.mem_append_left _ begun
      · rw [hledger, ledger, Ledger.through_inside rfl hp.statements, statementsOn_append,
          List.append_assoc]
    | stays before now unbegun =>
      refine .stays before (.inl htouched) ?_
      rw [begun_append, List.mem_append, not_or]
      refine ⟨unbegun, not_mem_begun fun x hx _ => ?_⟩
      rw [(hp.statements x hx).2]
      exact (Option.some_ne_none _).symm
  · -- a transaction is begun, and the statements wait in it
    rw [hns] at hledger ⊢
    cases h with
    | away before untouched closed ledger none =>
      have hbegin : (⟨c, Control.begin.request, .ok sets⟩ : Exchange).request.control? =
          some .begin := Request.control?_request _
      refine .inside before htouched ?_ ?_ ?_
      · rw [hl.depth, hd]
      · simp [Tabula.begun, Exchange.begun?, Except.isOk, Except.toBool]
      · have hst : statementsOn c (ys ++ ([⟨c, Control.begin.request, .ok sets⟩] ++ xs)) =
            statementsOn c xs := by
          rw [statementsOn_append, none, statementsOn_append, List.nil_append]
          rw [statementsOn_eq_nil (by simp), List.nil_append]
        rw [hledger, Ledger.through_append, Ledger.through_cons, Ledger.through_nil, ledger, hst]
        rw [Ledger.after_control hbegin rfl, Ledger.through_inside rfl hp.statements]
        rfl
    | inside before touched level begun ledger => exact absurd touched huntouched
    | stays before now unbegun =>
      exact absurd now (not_or.mpr ⟨huntouched, not_not.mpr hclosed⟩)

/-- **One more step** of a connection's visit. -/
theorem Visit.step (h : Visit c t₀ s₀ t s ys) (hp : t.Passes i s c' ns xs d t'.touched)
    (hms : exchanges ms = exchanges ns ++ xs) (hl : s.Leads ms d s') :
    Visit c t₀ s₀ t' s' (ys ++ exchanges ms) := by
  by_cases hc : c = c'
  · subst hc
    exact h.here hp hms hl
  · exact h.elsewhere hp hms hl hc

end

/-! ## Steps that succeed -/

section

variable {c i : Nat} {s : Session β} {ns : List Mark} {xs : List Exchange} {d : Nat → Nat}
  {touched : List Nat}

/-- What a step asks of a connection is its share of the plan. -/
theorem Passes.asked (h : t.Passes i s c ns xs d touched) (c' : Nat) :
    (statementsOn c' (exchanges ns ++ xs)).map .ok =
      plan (s.styleOf c') c' (t.steps[i]?.toList) := by
  obtain ⟨r, hr, hc, hxs⟩ := h.step
  have hbegin : statementsOn c' (exchanges ns) = [] := statementsOn_eq_nil fun x hx _ => by
    rw [h.touches.control? x hx]
    exact Option.some_ne_none _
  rw [statementsOn_append, hbegin, List.nil_append, hr, Option.toList_some, plan,
    List.flatMap_singleton, Step.asks]
  by_cases hcc : c = c'
  · subst hcc
    rw [statementsOn_eq_map h.statements, List.map_map, if_pos hc, ← hxs]
    rfl
  · rw [if_neg (fun he => hcc (Option.some.inj (hc.symm.trans he))),
      statementsOn_eq_nil fun x hx hx' => absurd ((h.statements x hx).1.symm.trans hx') hcc]
    rfl

/-- There was a reply to all of it. -/
theorem Passes.replies (h : t.Passes i s c ns xs d touched) :
    ∀ x ∈ exchanges ns ++ xs, x.ending.isOk := by
  refine List.forall_mem_append.mpr ⟨?_, h.answered⟩
  rcases h.touches.here with ⟨-, hns, -⟩ | ⟨-, -, sets, hns⟩
  · simp [hns]
  · rw [hns]
    exact List.forall_mem_singleton.mpr rfl

/-- Its connection is touched, and what was touched stays so. -/
theorem Passes.uses (h : t.Passes i s c ns xs d touched) {c' : Nat}
    (hc' : Uses (t.steps[i]?.toList) c') : c' ∈ touched := by
  obtain ⟨r, hr, hc, -⟩ := h.step
  obtain ⟨step, hstep, hstepc⟩ := hc'
  rw [hr, Option.toList_some] at hstep
  obtain rfl := List.mem_singleton.mp hstep
  obtain rfl := Option.some.inj (hc.symm.trans hstepc)
  exact h.touches.mem

end

/-- How a run has gone of which so many steps have succeeded. -/
structure Course (t₀ : Transaction) (s₀ : Session β) (n : Nat) (t : Transaction) (s : Session β)
    (ms : List Mark) : Prop where
  /-- what it left -/
  leads : s₀.Leads ms s.depth s
  /-- the steps stay, but for their results -/
  steps : t.steps.map Step.bare = t₀.steps.map Step.bare
  /-- the step that runs next -/
  next : t.next = n
  /-- there are as many -/
  bound : n ≤ t₀.steps.length
  /-- each step was started once, in order -/
  once : started ms = List.range n
  /-- on each connection all their statements were sent, and nothing else -/
  complete : ∀ c, (statementsOn c (exchanges ms)).map .ok =
    plan (s₀.styleOf c) c (t₀.steps.take n)
  /-- there was a reply to everything -/
  answered : ∀ x ∈ exchanges ms, x.ending.isOk
  /-- their connections are touched -/
  touched : ∀ c, Uses (t₀.steps.take n) c → c ∈ t.touched
  /-- how each connection stands -/
  visits : ∀ c, Visit c t₀ s₀ t s (exchanges ms)

theorem Course.length {t₀ : Transaction} {s₀ s : Session β} {n : Nat} {ms : List Mark}
    (h : Course t₀ s₀ n t s ms) : t.steps.length = t₀.steps.length := by
  rw [← List.length_map, h.steps, List.length_map]

theorem Course.start (hnext : t.next = 0) (s : Session β) : Course t s 0 t s [] := by
  refine ⟨.refl s, rfl, hnext, Nat.zero_le _, rfl, fun c => rfl, by simp, ?_, fun c => ?_⟩
  · rintro c ⟨step, hstep, -⟩
    cases hstep
  · by_cases hc : c ∉ t.touched ∧ s.depth c = 0
    · exact .away hc hc.1 hc.2 rfl rfl
    · have hin : c ∈ t.touched ∨ s.depth c ≠ 0 := by
        rwa [not_and_or, not_not] at hc
      exact .stays hin hin List.not_mem_nil

/-- **One more step.** -/
theorem Course.step {t₀ : Transaction} {s₀ s s' : Session β} {n : Nat} {ms ns : List Mark}
    {d : Nat → Nat} (h : Course t₀ s₀ n t s ms) (hs : t₀.IsStraight)
    (hrun : t.StepRun n s (.ok ()) ns d t'.touched) (hl : s.Leads ns d s')
    (hk : t'.steps.map Step.bare = t.steps.map Step.bare) (hnext : t'.next = n + 1) :
    Course t₀ s₀ (n + 1) t' s' (ms ++ ns) := by
  obtain ⟨c, es, xs, hp, hns⟩ := hrun.passes (hs.congr h.steps) rfl
  have hall := h.leads.trans hl
  rw [← hl.depth] at hall
  constructor
  case leads => exact hall
  case steps => exact hk.trans h.steps
  case next => exact hnext
  case bound =>
    obtain ⟨r, hr, -⟩ := hp.step
    rw [← h.length]
    exact (List.getElem?_eq_some_iff.mp hr).1
  case once =>
    obtain ⟨-, -, ⟨-, hok⟩ | hstarted⟩ := hrun.marks
    · exact absurd rfl hok
    · rw [started_append, h.once, hstarted, List.range_succ]
  case complete =>
    intro c'
    rw [exchanges_append, hns, statementsOn_append, List.map_append, h.complete, hp.asked,
      h.leads.styleOf, ← plan_take h.steps, ← plan_take h.steps, List.take_add_one, plan, plan,
      plan, List.flatMap_append]
  case answered =>
    rw [exchanges_append, hns]
    exact List.forall_mem_append.mpr ⟨h.answered, hp.replies⟩
  case touched =>
    intro c' hc'
    rw [← uses_take h.steps, List.take_add_one] at hc'
    obtain ⟨step, hstep, hstepc⟩ := hc'
    -- a connection of an earlier step is still touched, one of this step now
    rcases List.mem_append.mp hstep with hstep | hstep
    · exact hp.touches.subset (h.touched c' ((uses_take h.steps c' n).mp ⟨step, hstep, hstepc⟩))
    · exact hp.uses ⟨step, hstep, hstepc⟩
  case visits =>
    intro c'
    rw [exchanges_append]
    exact (h.visits c').step hp hns hl

theorem Ran.course {t₀ : Transaction} (hplain : t₀.IsPlain) (hs : t₀.IsStraight)
    (hnext : t₀.next = 0) {s₀ s : Session β} {n : Nat} (h : Ran t₀ s₀ n t s) :
    ∃ ms, Course t₀ s₀ n t s ms := by
  induction h with
  | start => exact ⟨[], .start hnext s₀⟩
  | @step n i t t' s s' before run ih =>
    obtain ⟨ms, hc⟩ := ih
    cases executeNext_run run with
    | ran running some run =>
      obtain ⟨ns, d, hrun, hl, hk⟩ := runStep_run (before.isPlain hplain) some run
      have hbare := hk.bare (hs.congr hc.steps)
      rw [hc.next] at hrun ⊢
      exact ⟨ms ++ ns, hc.step hs hrun hl hbare rfl⟩

/-! ## A commit that succeeds -/

/-- Connections are committed in order, each with success. -/
inductive KeepsAll : (Nat → Nat) → List Nat → List Mark → (Nat → Nat) → Prop
  /-- none is left -/
  | nil {d : Nat → Nat} : KeepsAll d [] [] d
  /-- one after the other -/
  | cons {d d' d'' : Nat → Nat} {c : Nat} {cs : List Nat} {ms ns : List Mark}
    (first : Session.Commits d c (.ok ()) ms d') (rest : KeepsAll d' cs ns d'') :
    KeepsAll d (c :: cs) (ms ++ ns) d''

/-- Without an error every commit succeeded. -/
theorem CommitsAll.keepsAll {d d' : Nat → Nat} {cs : List Nat} {o : Outcome (List Error)}
    {ms : List Mark} (h : CommitsAll d cs o ms d') (ho : o = .ok []) : KeepsAll d cs ms d' := by
  induction h with
  | nil => exact .nil
  | stuck first => cases ho
  | @cons _ _ _ _ _ es o _ _ first rest ih =>
    rcases o with halt | es'
    · cases ho
    obtain ⟨rfl, rfl⟩ := List.append_eq_nil_iff.mp (Except.ok.inj ho)
    cases first with
    | kept commits => exact .cons commits (ih rfl)

/-- Nothing is asked but to commit, each time with a reply. -/
theorem KeepsAll.asks {d d' : Nat → Nat} {cs : List Nat} {ms : List Mark}
    (h : KeepsAll d cs ms d') :
    ∀ x ∈ exchanges ms, x.request.control? = some .commit ∧ x.ending.isOk := by
  induction h with
  | nil => simp
  | cons first rest ih =>
    rw [exchanges_append]
    refine List.forall_mem_append.mpr ⟨?_, ih⟩
    cases first with
    | nested level => simp
    | kept level => exact List.forall_mem_singleton.mpr ⟨Request.control?_request _, rfl⟩

theorem KeepsAll.started {d d' : Nat → Nat} {cs : List Nat} {ms : List Mark}
    (h : KeepsAll d cs ms d') : started ms = [] := by
  induction h with
  | nil => rfl
  | cons first rest ih =>
    rw [started_append, ih]
    cases first <;> rfl

/-- A connection without a transaction was none of them. -/
theorem KeepsAll.closed {d d' : Nat → Nat} {cs : List Nat} {ms : List Mark}
    (h : KeepsAll d cs ms d') {c : Nat} (hd : d c = 0) :
    c ∉ cs ∧ ∀ x ∈ exchanges ms, x.connection ≠ c := by
  induction h with
  | nil => simp
  | @cons d d' d'' c' cs ms ns first rest ih =>
    -- what is committed is open, and `c'` is closed
    have hc : c ≠ c' := by
      rintro rfl
      cases first with
      | nested level => rw [hd] at level; cases level
      | kept level => rw [hd] at level; cases level
    have hrest : d' c = 0 := by
      cases first with
      | nested level => rw [Function.update_of_ne hc, hd]
      | kept level => rw [Function.update_of_ne hc, hd]
    obtain ⟨hcs, hx⟩ := ih hrest
    refine ⟨List.not_mem_cons_of_ne_of_not_mem hc hcs, ?_⟩
    rw [exchanges_append]
    refine List.forall_mem_append.mpr ⟨?_, hx⟩
    cases first with
    | nested level => simp
    | kept level => exact List.forall_mem_singleton.mpr (Ne.symm hc)

/-- **One that was entered once is committed.** -/
theorem KeepsAll.through {d d' : Nat → Nat} {cs : List Nat} {ms : List Mark}
    (h : KeepsAll d cs ms d') {c : Nat} (hc : c ∈ cs) (hd : d c = 1) (l : Ledger Request) :
    l.through c (exchanges ms) = l.control .commit := by
  induction h with
  | nil => cases hc
  | @cons d d' d'' c' cs ms ns first rest ih =>
    rw [exchanges_append, Ledger.through_append]
    by_cases hcc : c = c'
    · -- after its commit it is in no transaction, so it does not come again
      subst hcc
      cases first with
      | nested level => rw [hd] at level; cases level
      | @kept sets level =>
        have hcommit : (⟨c, Control.commit.request, .ok sets⟩ : Exchange).request.control? =
            some .commit := Request.control?_request _
        rw [Ledger.through_elsewhere (rest.closed (Function.update_self ..)).2, exchanges_asked,
          exchanges_nil, Ledger.through_cons, Ledger.through_nil,
          Ledger.after_control hcommit rfl]
    · have hrest := (List.mem_cons.mp hc).resolve_left hcc
      cases first with
      | nested level =>
        exact ih hrest ((Function.update_of_ne hcc _ _).trans hd)
      | kept level =>
        rw [exchanges_asked, exchanges_nil, Ledger.through_cons, Ledger.through_nil,
          Ledger.after_of_ne (Ne.symm hcc)]
        exact ih hrest ((Function.update_of_ne hcc _ _).trans hd)

/-! ## A run that succeeds -/

/-- What a run of some steps leaves that succeeds, from a state on in which some connections count
as touched. -/
structure Rerun (steps : List Step) (touched : List Nat) (s s' : Session β) (ms : List Mark) :
    Prop where
  /-- what is in the trace -/
  trace : s'.trace = s.trace ++ ms
  /-- each step was started once, in order -/
  once : started ms = List.range steps.length
  /-- on each connection all their statements were sent, and nothing else -/
  complete : ∀ c, (statementsOn c (exchanges ms)).map .ok = plan (s.styleOf c) c steps
  /-- there was a reply to everything -/
  answered : ∀ x ∈ exchanges ms, x.ending.isOk
  /-- a connection was entered, and its database keeps the statements of this run and nothing else,
  exactly if it did not count as touched, was in no transaction, and nothing was waiting there -/
  clean : ∀ c, Uses steps c →
    ((c ∈ begun (exchanges ms) ∧
        (s'.ledger c).kept = (s.ledger c).kept ++ statementsOn c (exchanges ms)) ↔
      c ∉ touched ∧ s.depth c = 0 ∧ (s.ledger c).pending = [])

/-- The commit at the end of a run. -/
theorem Course.commit {t₀ : Transaction} {s₀ s s' : Session β} {n : Nat} {ms es : List Mark}
    {d : Nat → Nat} (h : Course t₀ s₀ n t s ms) (hn : t.steps.length ≤ n)
    (hkeeps : KeepsAll s.depth t.touched es d) (hl : s.Leads es d s') :
    Rerun t₀.steps t₀.touched s₀ s' (ms ++ es) := by
  have hlength : n = t₀.steps.length := Nat.le_antisymm h.bound (h.length ▸ hn)
  have htake : t₀.steps.take n = t₀.steps := by rw [hlength, List.take_length]
  have hnone (c : Nat) : statementsOn c (exchanges es) = [] :=
    statementsOn_eq_nil fun x hx _ => by
      rw [(hkeeps.asks x hx).1]
      exact Option.some_ne_none _
  have hunbegun (c : Nat) : c ∉ begun (exchanges es) := not_mem_begun fun x hx _ => by
    rw [(hkeeps.asks x hx).1]
    exact fun h => Control.noConfusion (Option.some.inj h)
  have hst (c : Nat) : statementsOn c (exchanges (ms ++ es)) = statementsOn c (exchanges ms) := by
    rw [exchanges_append, statementsOn_append, hnone, List.append_nil]
  have hbegun (c : Nat) : c ∈ begun (exchanges (ms ++ es)) ↔ c ∈ begun (exchanges ms) := by
    rw [exchanges_append, begun_append, List.mem_append, or_iff_left (hunbegun c)]
  refine ⟨(h.leads.trans hl).trace, ?_, fun c => ?_, ?_, fun c hc => ?_⟩
  · rw [started_append, h.once, hkeeps.started, List.append_nil, hlength]
  · rw [hst, h.complete, htake]
  · rw [exchanges_append]
    exact List.forall_mem_append.mpr ⟨h.answered, fun x hx => (hkeeps.asks x hx).2⟩
  · have htouched := h.touched c (htake.symm ▸ hc)
    rw [hst, hbegun]
    cases h.visits c with
    -- a step is on the connection, so it cannot have stayed away
    | away before untouched => exact absurd htouched untouched
    | inside before touched level begun ledger =>
      have hkept : (s'.ledger c).kept = (s₀.ledger c).kept ++
          ((s₀.ledger c).pending ++ statementsOn c (exchanges ms)) := by
        rw [hl.ledger, hkeeps.through touched level, ledger]
        rfl
      rw [hkept, List.append_cancel_left_eq, List.append_left_eq_self]
      exact ⟨fun ⟨_, hp⟩ => ⟨before.1, before.2, hp⟩, fun ⟨_, _, hp⟩ => ⟨begun, hp⟩⟩
    | stays before now unbegun =>
      refine ⟨fun ⟨hb, _⟩ => absurd hb unbegun, fun ⟨hc, hd, _⟩ => ?_⟩
      exact absurd before (not_or.mpr ⟨hc, not_not.mpr hd⟩)

/-- **What a run leaves that succeeds.** -/
theorem execute_rerun (hplain : t.IsPlain) (hs : t.IsStraight) (hnext : t.next = 0)
    {s s' : Session β} {r : ResultSet} (h : t.execute.run s = ((.ok r, t'), s')) :
    ∃ ms, Rerun t.steps t.touched s s' ms := by
  generalize ho : (Except.ok r : Outcome ResultSet) = o at h
  cases execute_run h with
  | broken ran run => cases ho
  | unkept ran commit => cases ho
  | done ran commit =>
    obtain ⟨ms, hc⟩ := ran.course hplain hs hnext
    obtain ⟨es, d, hcommit, hl⟩ := commit_run commit
    generalize ho : (Except.ok () : Outcome Unit) = o at hcommit
    cases hcommit with
    | refused early => cases ho
    | stuck running commits => cases ho
    | left running all commits kept =>
      rcases kept with ⟨-, rfl⟩ | rfl
      · exact ⟨ms ++ es, hc.commit (hc.next ▸ all) (commits.keepsAll rfl) hl⟩
      · cases ho

end Transaction

end Tabula
