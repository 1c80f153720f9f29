import Mathlib.Data.List.Nodup
import Tabula.Proofs.Transaction.Call

/-!
# All or nothing

A transaction that nobody disturbs enters each of its connections once, and when a step fails it
leaves them again in the opposite order. `Progress` says how far it has come: which connections it
has begun transactions on, that these are the ones it counts as touched, that it asked for nothing
else than beginning and its statements, and that every statement stands behind such a beginning.

* `Progress.step`: one step keeps it; `Ran.progress`: so do all of them.
* `RollsBackAll.exchanges`: what is sent when connections are left.
* `execute_aborted`: what stands in the trace when a transaction was aborted.
-/

namespace Tabula

/-! ## What was begun -/

/-- The connection on which an exchange began a transaction. -/
def Exchange.begun? (x : Exchange) : Option Nat :=
  if x.request.control? = some .begin ∧ x.ending.isOk then some x.connection else none

/-- The error with which an exchange ended. -/
def Exchange.error? (x : Exchange) : Option Error :=
  match x.ending with
  | .error (.failed e) => some e
  | _ => none

/-- The connections on which transactions were begun, in order. -/
def begun (xs : List Exchange) : List Nat := xs.filterMap Exchange.begun?

@[simp] theorem begun_append (xs ys : List Exchange) : begun (xs ++ ys) = begun xs ++ begun ys :=
  List.filterMap_append

theorem begun_eq_nil {xs : List Exchange} (h : ∀ x ∈ xs, x.request.control? = none) :
    begun xs = [] := by
  refine List.filterMap_eq_nil_iff.mpr fun x hx => ?_
  rw [Exchange.begun?, h x hx, if_neg]
  rintro ⟨hc, -⟩
  cases hc

/-- The connection on which a mark says that a step is at work: its procedure begins to be executed,
or a statement of it is sent. -/
def Mark.work? : Mark → Option Nat
  | .executed _ c _ => some c
  | .asked x => if x.request.control? = none then some x.connection else none
  | _ => none

/-- Steps are at work only where a transaction was begun before, or on connections that are given.
-/
def Encloses (cs : List Nat) (ms : List Mark) : Prop :=
  ∀ front m back, ms = front ++ m :: back → ∀ c ∈ m.work?, c ∈ cs ++ begun (exchanges front)

theorem encloses_of_mem {cs : List Nat} {ms : List Mark}
    (h : ∀ m ∈ ms, ∀ c ∈ m.work?, c ∈ cs) : Encloses cs ms := by
  rintro front m back rfl c hc
  exact List.mem_append_left _ (h m (by simp) c hc)

/-- What comes behind is at work where the marks before it have begun a transaction. -/
theorem Encloses.append {cs : List Nat} {ms ns : List Mark} (h : Encloses cs ms)
    (h' : Encloses (cs ++ begun (exchanges ms)) ns) : Encloses cs (ms ++ ns) := by
  intro front m back hsplit c hc
  rcases List.append_eq_append_iff.mp hsplit with ⟨ns', rfl, hns⟩ | ⟨ms', hms, hback⟩
  · have hmem := h' ns' m back hns c hc
    rwa [List.append_assoc, ← begun_append, ← exchanges_append] at hmem
  · cases ms' with
    | nil =>
      -- the mark is the first of those behind
      rw [List.append_nil] at hms
      have hmem := h' [] m back hback.symm c hc
      simpa [hms, begun] using hmem
    | cons m' ms' =>
      obtain ⟨rfl, -⟩ := List.cons.inj hback
      exact h front m ms' hms c hc

namespace Session

variable {depth d : Nat → Nat} {c : Nat} {ms : List Mark}

/-- Where no transaction is open, one is begun. -/
theorem Begins.begun_ok (h : Begins depth c (.ok ()) ms d) (hd : depth c = 0) :
    begun (exchanges ms) = [c] ∧ d = Function.update depth c 1 := by
  cases h with
  | nested open_ => exact absurd hd open_
  | opened closed on sent =>
    rw [sent]
    exact ⟨by simp [begun, Exchange.begun?, Except.isOk, Except.toBool], rfl⟩

/-- If that fails, none is. -/
theorem Begins.begun_error {h : Halt} (hb : Begins depth c (.error h) ms d) :
    begun (exchanges ms) = [] ∧ d = depth := by
  cases hb with
  | refused closed on sent =>
    rw [sent]
    exact ⟨by simp [begun, Exchange.begun?, Except.isOk, Except.toBool], rfl⟩
  | unsent closed on sent =>
    rw [sent]
    exact ⟨rfl, rfl⟩

end Session

namespace Transaction

variable {β : Type} [Backend β]

/-- The depths of connections of which some are touched, by nobody else. -/
def depthOf (touched : List Nat) (c : Nat) : Nat := if c ∈ touched then 1 else 0

/-- What running a step means for the connections that are touched: those on which it began a
transaction are added, and it asked for nothing else than that and its statements. -/
structure Extends (touched : List Nat) (ms : List Mark) (d : Nat → Nat) (touched' : List Nat) :
    Prop where
  /-- the connections are added in order -/
  touched : touched' = touched ++ begun (exchanges ms)
  /-- each once -/
  nodup : touched'.Nodup
  /-- and they are entered once -/
  depth : d = depthOf touched'
  /-- nothing is committed or rolled back -/
  control : ∀ x ∈ exchanges ms, x.request.control? = none ∨ x.request.control? = some .begin

theorem Extends.refl {touched : List Nat} (hn : touched.Nodup) {ms : List Mark}
    (h : ∀ x ∈ exchanges ms, x.request.control? = none) :
    Extends touched ms (depthOf touched) touched :=
  ⟨by rw [begun_eq_nil h, List.append_nil], hn, rfl, fun x hx => .inl (h x hx)⟩

theorem depthOf_concat {touched : List Nat} {c : Nat} :
    Function.update (depthOf touched) c 1 = depthOf (touched ++ [c]) := by
  funext c'
  by_cases hc : c' = c
  · subst hc
    rw [Function.update_self, depthOf, if_pos (List.mem_append_right _ (List.mem_singleton_self _))]
  · rw [Function.update_of_ne hc, depthOf, depthOf]
    congr 1
    rw [List.mem_append, List.mem_singleton, or_iff_left hc]

theorem Touches.extends {t : Transaction} {c : Nat} {o : Outcome Unit} {ms : List Mark}
    {d : Nat → Nat} {touched : List Nat} (h : t.Touches (depthOf t.touched) c o ms d touched)
    (hn : t.touched.Nodup) : Extends t.touched ms d touched := by
  cases h with
  | already touched => exact .refl hn (by simp)
  | entered untouched begins =>
    obtain ⟨hb, rfl⟩ := begins.begun_ok (if_neg untouched)
    refine ⟨by rw [hb], ?_, depthOf_concat, fun x hx => .inr (begins.control? x hx)⟩
    exact List.nodup_append.mpr ⟨hn, List.pairwise_singleton _ c, fun a ha b hb hab =>
      untouched (List.mem_singleton.mp hb ▸ hab ▸ ha)⟩
  | refused untouched begins =>
    obtain ⟨hb, rfl⟩ := begins.begun_error
    exact ⟨by rw [hb, List.append_nil], hn, rfl, fun x hx => .inr (begins.control? x hx)⟩

theorem Extends.congr {touched touched' : List Nat} {ms ns : List Mark} {d : Nat → Nat}
    (h : Extends touched ms d touched') (hx : exchanges ns = exchanges ms) :
    Extends touched ns d touched' :=
  ⟨hx ▸ h.touched, h.nodup, h.depth, hx ▸ h.control⟩

theorem Extends.trans {a b c : List Nat} {ms ns : List Mark} {d e : Nat → Nat}
    (h : Extends a ms d b) (h' : Extends b ns e c) : Extends a (ms ++ ns) e c := by
  refine ⟨?_, h'.nodup, h'.depth, fun x hx => ?_⟩
  · rw [exchanges_append, begun_append, h'.touched, h.touched, List.append_assoc]
  · rw [exchanges_append] at hx
    exact (List.mem_append.mp hx).elim (h.control x) (h'.control x)

/-- **A step extends what is touched.** -/
theorem StepRun.extends {t : Transaction} {i : Nat} {s : Session β} {o : Outcome Unit}
    {ms : List Mark} {d : Nat → Nat} {touched : List Nat} (h : t.StepRun i s o ms d touched)
    (hd : s.depth = depthOf t.touched) (hn : t.touched.Nodup) :
    Extends t.touched ms d touched := by
  cases h with
  | idle => exact hd ▸ .refl hn (by simp)
  | unprepared => exact hd ▸ .refl hn (by simp)
  | refused enters touches =>
    rw [hd] at touches
    exact (touches.extends hn).congr (exchanges_prepared ..)
  | dropped enters touches =>
    rw [hd] at touches
    refine (touches.extends hn).congr ?_
    rw [exchanges_prepared, exchanges_append, exchanges_interrupted, exchanges_nil,
      List.append_nil]
  | ran enters touches runs =>
    rw [hd] at touches
    have ht := touches.extends hn
    have hx := Routine.control?_of_runs runs
    obtain rfl := ht.depth
    refine (ht.trans (.refl ht.nodup hx)).congr ?_
    rw [exchanges_prepared, exchanges_append, exchanges_executed, exchanges_append]
  | called => exact hd ▸ .refl hn (by simp)

/-- **A step is at work on a connection that is touched**, and if it was not, behind the beginning
of a transaction on it. -/
theorem StepRun.encloses {t : Transaction} {i : Nat} {s : Session β} {o : Outcome Unit}
    {ms : List Mark} {d : Nat → Nat} {touched : List Nat} (h : t.StepRun i s o ms d touched)
    (hd : s.depth = depthOf t.touched) (hn : t.touched.Nodup) : Encloses t.touched ms := by
  -- to begin a transaction is no work of a step
  have idle {c : Nat} {o : Outcome Unit} {ms : List Mark} {d : Nat → Nat} {touched : List Nat}
      (h : t.Touches s.depth c o ms d touched) : ∀ m ∈ .prepared i :: ms, m.work? = none := by
    refine List.forall_mem_cons.mpr ⟨rfl, fun m hm => ?_⟩
    have hon := h.on m hm
    cases m with
    | asked x => simp [Mark.work?, h.control? x (mem_exchanges hm)]
    | executed => exact hon.elim
    | _ => rfl
  have apart {cs : List Nat} {ms : List Mark} (h : ∀ m ∈ ms, m.work? = none) :
      ∀ m ∈ ms, ∀ c ∈ m.work?, c ∈ cs := fun m hm c hc => by
    rw [h m hm] at hc
    cases hc
  cases h with
  | idle => exact encloses_of_mem (by simp)
  | unprepared => exact encloses_of_mem (by simp [Mark.work?])
  | refused enters touches => exact encloses_of_mem (apart (idle touches))
  | dropped enters touches =>
    rw [← List.cons_append]
    refine encloses_of_mem (apart (List.forall_mem_append.mpr ⟨idle touches, ?_⟩))
    exact List.forall_mem_singleton.mpr rfl
  | @ran r c o ms ns d touched enters touches runs =>
    rw [← List.cons_append]
    refine (encloses_of_mem (apart (idle touches))).append (encloses_of_mem ?_)
    have hc := touches.mem
    rw [hd] at touches
    rw [exchanges_prepared, ← (touches.extends hn).touched]
    refine List.forall_mem_cons.mpr ⟨fun c' hc' => Option.some.inj hc' ▸ hc, fun m hm c' hc' => ?_⟩
    have hon := runs.on m hm
    cases m with
    | asked x =>
      rw [Mark.work?] at hc'
      split at hc'
      · obtain rfl : x.connection = c := hon
        exact Option.some.inj hc' ▸ hc
      · cases hc'
    | executed => exact hon.elim
    | _ => cases hc'
  | called => exact encloses_of_mem (by simp [Mark.work?])

/-! ## Progress -/

/-- A step comes as far as a connection, in a run from a state on. -/
def Reaches (t₀ : Transaction) (s₀ : Session β) (i c : Nat) : Prop :=
  ∃ t s r, Ran t₀ s₀ i t s ∧ t.Enters i s r c

/-- How far a transaction has come that began untouched, with so many steps begun. -/
structure Progress (t₀ : Transaction) (s₀ : Session β) (n : Nat) (touched : List Nat)
    (s : Session β) (ms : List Mark) : Prop where
  /-- what it left -/
  leads : s₀.Leads ms (depthOf touched) s
  /-- which connections it began transactions on -/
  touches : Extends [] ms (depthOf touched) touched
  /-- and that steps were at work only behind that -/
  encloses : Encloses [] ms
  /-- no later step has been begun -/
  steps : ∀ m ∈ ms, ∀ i ∈ m.step?, i < n
  /-- no connection is concerned that no step came as far as -/
  reached : ∀ m ∈ ms, ∀ c ∈ m.connection?, ∃ i < n, t₀.Reaches s₀ i c

/-- **One more step keeps the progress.** -/
theorem Progress.step {t₀ t : Transaction} {s₀ s s' : Session β} {n : Nat} {ms ns : List Mark}
    {o : Outcome Unit} {d : Nat → Nat} {touched : List Nat}
    (h : Progress t₀ s₀ n t.touched s ms) (hran : Ran t₀ s₀ n t s)
    (hrun : t.StepRun n s o ns d touched) (hl : s.Leads ns d s') :
    Progress t₀ s₀ (n + 1) touched s' (ms ++ ns) := by
  obtain ⟨hsteps, hconns, -⟩ := hrun.marks
  have hext := hrun.extends h.leads.depth h.touches.nodup
  obtain rfl := hext.depth
  have henc := hrun.encloses h.leads.depth h.touches.nodup
  rw [h.touches.touched] at henc
  refine ⟨h.leads.trans hl, h.touches.trans hext, h.encloses.append henc, fun m hm i hi => ?_,
    fun m hm c hc => ?_⟩
  · rcases List.mem_append.mp hm with hm | hm
    · exact Nat.lt_succ_of_lt (h.steps m hm i hi)
    · -- the step with the number `n` is the last so far
      exact Nat.lt_succ_of_le (Nat.le_of_eq (hsteps m hm i hi))
  · rcases List.mem_append.mp hm with hm | hm
    · obtain ⟨i, hi, hr⟩ := h.reached m hm c hc
      exact ⟨i, Nat.lt_succ_of_lt hi, hr⟩
    · obtain ⟨r, he⟩ := hconns m hm c hc
      exact ⟨n, Nat.lt_succ_self n, t, s, r, hran, he⟩

/-- **Steps that succeeded ran once each, in order.** -/
theorem Ran.progress {t₀ t : Transaction} (hnew : t₀.IsNew) (ht : t₀.IsPlain)
    {s₀ s : Session β} (hs : ∀ c, s₀.depth c = 0) {n : Nat} (h : Ran t₀ s₀ n t s) :
    t.next = n ∧ ∃ ms, Progress t₀ s₀ n t.touched s ms ∧ started ms = List.range n := by
  induction h with
  | start =>
    have hd : s₀.depth = depthOf [] := funext hs
    refine ⟨hnew.next, [], ?_, rfl⟩
    rw [hnew.touched]
    exact ⟨hd ▸ .refl s₀, .refl List.nodup_nil (by simp), encloses_of_mem (by simp), by simp,
      by simp⟩
  | @step n i t t' s s' before run ih =>
    obtain ⟨hnext, ms, hp, hstarted⟩ := ih
    cases executeNext_run run with
    | ran running some run =>
      rw [hnext] at run some ⊢
      obtain ⟨ns, d, hrun, hl, -⟩ := runStep_run (before.isPlain ht) some run
      refine ⟨rfl, ms ++ ns, hp.step before hrun hl, ?_⟩
      -- a step that answered was started
      obtain ⟨-, -, ⟨-, hok⟩ | hns⟩ := hrun.marks
      · exact absurd rfl hok
      · rw [started_append, hstarted, hns, List.range_succ]

/-! ## Rolling back -/

/-- The requests of some exchanges and where they went. -/
def requests (xs : List Exchange) : List (Nat × Request) :=
  xs.map fun x => (x.connection, x.request)

/-- What was asked, by what was asked in all. -/
theorem of_requests_eq {xs : List Exchange} {cs : List Nat} {r : Request}
    (h : requests xs = cs.map (·, r)) : ∀ x ∈ xs, x.connection ∈ cs ∧ x.request = r := by
  intro x hx
  have hmem : (x.connection, x.request) ∈ requests xs := List.mem_map_of_mem hx
  rw [h] at hmem
  obtain ⟨c, hc, heq⟩ := List.mem_map.mp hmem
  obtain ⟨rfl, hr⟩ := Prod.mk.inj heq
  exact ⟨hc, hr.symm⟩

theorem filterMap_error?_cons (x : Exchange) (xs : List Exchange) :
    (x :: xs).filterMap Exchange.error? =
      errorsOf (x.ending.map fun _ => ()) ++ xs.filterMap Exchange.error? := by
  obtain ⟨c, r, (e | _) | sets⟩ := x <;> rfl

/-- **Every connection that is open is rolled back once, in order**; none of them is open then. -/
theorem RollsBackAll.exchanges {d d' : Nat → Nat} {cs : List Nat} {o : Outcome (List Error)}
    {ms : List Mark} {failures : List Error} (h : RollsBackAll d cs o ms d')
    (ho : o = .ok failures) (hn : cs.Nodup) :
    ∃ xs, ms = xs.map .asked ∧
      requests xs = (cs.filter fun c => d c ≠ 0).map (·, Control.rollback.request) ∧
      failures = xs.filterMap Exchange.error? ∧ ∀ c, d' c = if c ∈ cs then 0 else d c := by
  induction h generalizing failures with
  | nil =>
    cases ho
    exact ⟨[], rfl, rfl, rfl, by simp⟩
  | stuck first => cases ho
  | @cons d d' d'' c cs r o ms ns first answered rest ih =>
    obtain ⟨hc, hn⟩ := List.nodup_cons.mp hn
    rcases o with halt | es
    · cases ho
    obtain ⟨xs, rfl, hxs, rfl, hd⟩ := ih rfl hn
    cases ho
    cases first with
    | closed closed =>
      refine ⟨xs, rfl, ?_, rfl, fun c' => ?_⟩
      · rw [hxs, List.filter_cons_of_neg (by simpa using closed)]
      · by_cases h : c' = c
        · subst h
          rw [hd, if_neg hc, if_pos List.mem_cons_self, closed]
        · simp only [hd, List.mem_cons, or_iff_right h]
    | @sent ending open_ =>
      refine ⟨⟨c, Control.rollback.request, ending⟩ :: xs, rfl, ?_, ?_, fun c' => ?_⟩
      · -- the connections behind are others, and open as before
        have hfilter : (cs.filter fun c' => Function.update d c 0 c' ≠ 0) =
            cs.filter fun c' => d c' ≠ 0 := by
          refine List.filter_congr fun c' hc' => ?_
          rw [Function.update_of_ne]
          rintro rfl
          exact hc hc'
        rw [hfilter] at hxs
        rw [List.filter_cons_of_pos (by simpa using open_), List.map_cons, ← hxs]
        rfl
      · rw [filterMap_error?_cons]
      · by_cases h : c' = c
        · subst h
          rw [hd, if_neg hc, if_pos List.mem_cons_self, Function.update_self]
        · simp only [hd, List.mem_cons, or_iff_right h, Function.update_of_ne h]

/-! ## Aborting -/

/-- What a run leaves that was aborted at a step: the marks of its steps, and then the exchanges by
which it left its connections. -/
structure AbortedRun (t₀ : Transaction) (s₀ : Session β) (step : Nat) (source : Error)
    (failures : List Error) (s' : Session β) (own : List Mark) (ends : List Exchange) : Prop where
  /-- nothing else was done -/
  trace : s'.trace = s₀.trace ++ own ++ ends.map .asked
  /-- the steps before succeeded, and then this one failed for the reason that is given -/
  reason : ∃ t₁ s₁ t₂ s₂, Ran t₀ s₀ step t₁ s₁ ∧
    (t₁.runStep step).run s₁ = ((failWith source, t₂), s₂)
  /-- each of them was started once, and perhaps this one was -/
  begunOnce : started own = List.range step ∨ started own = List.range (step + 1)
  /-- nothing was prepared, executed or called behind it -/
  noneBehind : ∀ m ∈ own, ∀ i ∈ m.step?, i ≤ step
  /-- nothing was committed -/
  uncommitted : ∀ x ∈ exchanges own ++ ends, x.request ≠ Control.commit.request
  /-- nothing was rolled back before it failed -/
  unbroken : ∀ x ∈ exchanges own, x.request ≠ Control.rollback.request
  /-- a procedure was executed, and a statement of it sent, only behind the beginning of a
  transaction on its connection -/
  enclosed : Encloses [] own
  /-- a connection was entered once at most -/
  enteredOnce : (begun (exchanges own)).Nodup
  /-- each that was entered was rolled back once, the last one first -/
  leftOnce : requests ends = (begun (exchanges own)).reverse.map (·, Control.rollback.request)
  /-- the errors of that are reported in order -/
  reported : failures = ends.filterMap Exchange.error?
  /-- no transaction is open on a connection -/
  closed : ∀ c, s'.depth c = 0
  /-- where no step came as far as beginning, nothing was sent -/
  reached : ∀ m ∈ own ++ ends.map .asked, ∀ c ∈ m.connection?, ∃ i ≤ step, t₀.Reaches s₀ i c

theorem request_ne {x : Exchange} {a : Control} (h : x.request.control? ≠ some a) :
    x.request ≠ a.request := by
  intro hx
  rw [hx, Request.control?_request] at h
  exact h rfl

/-- A connection that was begun has a mark of its own. -/
theorem exists_mark_of_mem_begun {ms : List Mark} {c : Nat} (h : c ∈ begun (exchanges ms)) :
    ∃ m ∈ ms, c ∈ m.connection? := by
  obtain ⟨x, hx, hb⟩ := List.mem_filterMap.mp h
  obtain ⟨m, hm, hmx⟩ := List.mem_filterMap.mp hx
  refine ⟨m, hm, ?_⟩
  cases m with
  | asked e =>
    cases hmx
    rw [Exchange.begun?] at hb
    split at hb
    · exact hb
    · cases hb
  | _ => cases hmx

/-- What was entered and is left again. -/
theorem Progress.aborted {t₀ t₁ t₂ : Transaction} {s₀ s₁ s₂ s' : Session β} {k : Nat}
    {ms ns es : List Mark} {d e : Nat → Nat} {source : Error} {failures : List Error}
    (hp : Progress t₀ s₀ k t₁.touched s₁ ms) (hstarted : started ms = List.range k)
    (hran : Ran t₀ s₀ k t₁ s₁) (hstep : (t₁.runStep k).run s₁ = ((failWith source, t₂), s₂))
    (hrun : t₁.StepRun k s₁ (failWith source) ns d t₂.touched) (hl : s₁.Leads ns d s₂)
    (hback : RollsBackAll s₂.depth t₂.touched.reverse (.ok failures) es e)
    (hl' : s₂.Leads es e s') :
    ∃ own ends, AbortedRun t₀ s₀ k source failures s' own ends := by
  have hq := hp.step hran hrun hl
  have hown : begun (exchanges (ms ++ ns)) = t₂.touched := by
    rw [hq.touches.touched, List.nil_append]
  obtain ⟨xs, rfl, hxs, hfailures, hdepth⟩ :=
    hback.exchanges rfl (List.nodup_reverse.mpr hq.touches.nodup)
  -- each connection that was touched is open, so none of them is passed over
  have hopen : ∀ c ∈ t₂.touched.reverse, decide (s₂.depth c ≠ 0) = true := by
    intro c hc
    rw [hq.leads.depth, depthOf, if_pos (List.mem_reverse.mp hc)]
    rfl
  rw [List.filter_eq_self.mpr hopen, ← hown] at hxs
  have hends := of_requests_eq hxs
  have hreached : ∀ m ∈ ms ++ ns, ∀ c ∈ m.connection?, ∃ i ≤ k, t₀.Reaches s₀ i c := by
    intro m hm c hc
    obtain ⟨i, hi, hr⟩ := hq.reached m hm c hc
    exact ⟨i, Nat.le_of_lt_succ hi, hr⟩
  refine ⟨ms ++ ns, xs, ?_⟩
  constructor
  case trace => rw [hl'.trace, hq.leads.trace]
  case reason => exact ⟨t₁, s₁, t₂, s₂, hran, hstep⟩
  case begunOnce =>
    rw [started_append, hstarted]
    obtain ⟨-, -, ⟨hns, -⟩ | hns⟩ := hrun.marks
    · exact .inl (by rw [hns, List.append_nil])
    · exact .inr (by rw [hns, List.range_succ])
  case noneBehind => exact fun m hm i hi => Nat.le_of_lt_succ (hq.steps m hm i hi)
  case uncommitted =>
    intro x hx
    refine request_ne ?_
    rcases List.mem_append.mp hx with hx | hx
    · rcases hq.touches.control x hx with h | h <;> simp [h]
    · rw [(hends x hx).2]
      simp
  case unbroken =>
    intro x hx
    refine request_ne ?_
    rcases hq.touches.control x hx with h | h <;> simp [h]
  case enclosed => exact hq.encloses
  case enteredOnce => exact hown ▸ hq.touches.nodup
  case leftOnce => exact hxs
  case reported => exact hfailures
  case closed =>
    intro c
    rw [hl'.depth, hdepth]
    by_cases hc : c ∈ t₂.touched
    · rw [if_pos (List.mem_reverse.mpr hc)]
    · rw [if_neg (fun h => hc (List.mem_reverse.mp h)), hq.leads.depth, depthOf, if_neg hc]
  case reached =>
    intro m hm c hc
    rcases List.mem_append.mp hm with hm | hm
    · exact hreached m hm c hc
    · obtain ⟨x, hx, rfl⟩ := List.mem_map.mp hm
      obtain ⟨m, hm, hc'⟩ := exists_mark_of_mem_begun (List.mem_reverse.mp (hends x hx).1)
      cases hc
      exact hreached m hm _ hc'

/-- **An aborted transaction was all or nothing.** If nobody disturbs a new transaction and it
answers that it was aborted at a step, then it ran the steps before with success, began nothing
behind, committed nothing, and rolled back exactly what it had begun, the last one first. -/
theorem execute_aborted {t₀ t' : Transaction} (hnew : t₀.IsNew) (hplain : t₀.IsPlain)
    {s₀ s' : Session β} (hclosed : ∀ c, s₀.depth c = 0) {step : Nat} {source : Error}
    {failures : List Error}
    (h : t₀.execute.run s₀ = ((failWith (.aborted step source failures), t'), s')) :
    ∃ own ends, AbortedRun t₀ s₀ step source failures s' own ends := by
  generalize ho : failWith (.aborted step source failures) = o at h
  -- only a step that fails answers like that
  cases execute_run h with
  | done ran commit => cases ho
  | unkept ran commit =>
    obtain ⟨ms, d, hcommit, -⟩ := commit_run commit
    cases hcommit with
    | refused early => cases ho
    | stuck running commits =>
      obtain rfl := commits.halt rfl
      cases ho
    | left running all commits kept =>
      rcases kept with ⟨hkept, -⟩ | hkept
      · cases hkept
      · cases hkept
        cases ho
  | @broken n t₁ _ s₁ _ _ ran run =>
    obtain ⟨hnext, ms, hp, hstarted⟩ := ran.progress hnew hplain hclosed
    have ht₁ := ran.isPlain hplain
    cases executeNext_run run with
    | finished ended => cases ho
    | lost running some run rollsBack leads =>
      obtain rfl := rollsBack.halt rfl
      cases ho
    | stuck running some run => cases ho
    | aborted running some hstep rollsBack leads =>
      cases ho
      obtain ⟨ns, d, hrun, hl, -⟩ := runStep_run ht₁ some hstep
      rw [hnext] at hstep hrun ⊢
      exact hp.aborted hstarted ran hstep hrun hl rollsBack leads

/-- Two statements on two connections, and a function that fails. -/
def failing : Transaction where
  steps :=
    [.routine (.query { connection := some 0, sql := "DELETE FROM t", type := .delete }),
      .routine (.query { connection := some 1, sql := "DELETE FROM u", type := .delete }),
      .function fun _ _ => [.fail (.invalidInput "stop")]]
  results := [none, none, none]

/-- It runs both statements before it is aborted, each behind a beginning, and leaves the second
connection first. -/
theorem execute_aborted_failing :
    failing.IsNew ∧ failing.IsPlain ∧ (∀ c, Willing.pair.depth c = 0) ∧
      (∃ own ends, AbortedRun failing Willing.pair 2 (.invalidInput "stop") []
        (failing.execute.run Willing.pair).2 own ends) ∧
      (exchanges (failing.execute.run Willing.pair).2.trace).map
          (fun x => (x.connection, x.request.control?)) =
        [(0, some .begin), (0, none), (1, some .begin), (1, none), (1, some .rollback),
          (0, some .rollback)] := by
  -- the hypotheses hold of it, so that the theorem says how it broke off
  have hnew : failing.IsNew := ⟨rfl, rfl, rfl⟩
  have hplain : failing.IsPlain := by simp [IsPlain, failing, Step.IsPlain, Routine.IsPlain]
  have hclosed : ∀ c, Willing.pair.depth c = 0 := by
    rintro (_ | _ | c) <;> rfl
  have hrun : (failing.execute.run Willing.pair).1.1 =
      failWith (.aborted 2 (.invalidInput "stop") []) := by
    with_unfolding_all rfl
  refine ⟨hnew, hplain, hclosed,
    execute_aborted hnew hplain hclosed (Prod.ext (Prod.ext hrun rfl) rfl), ?_⟩
  with_unfolding_all rfl

end Transaction

end Tabula
