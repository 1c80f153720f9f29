import Tabula.Proofs.Succeeding
import Tabula.Proofs.Transaction.Log
import Tabula.Proofs.Transaction.Reached
import Tabula.Sqlite.Database

/-!
# Transactions in doubt

When the waiting for a `BEGIN` is given up, nobody knows whether a transaction was begun: the
backend may still carry it out. A step that fails like that does not count its connection as
touched, so nothing is sent to end what may have been begun. Everywhere else a transaction ends what
it begins.

* `Tracks`: which requests to begin a transaction have found their end, by what counts as touched.
* `Kept`: what holds in every state, with one lemma for each call.
* `Called.ended_iff`: what has been ended when a transaction is over.
-/

namespace Tabula

/-! ## What stands behind -/

section

variable {α : Type} {p q : α → Prop} {xs ys : List α} {x : α}

/-- Behind everything of one kind there is something of another. -/
def Followed (p q : α → Prop) : List α → Prop
  | [] => True
  | x :: xs => (p x → ∃ y ∈ xs, q y) ∧ Followed p q xs

theorem followed_append :
    Followed p q (xs ++ ys) ↔ (Followed p q xs ∨ ∃ y ∈ ys, q y) ∧ Followed p q ys := by
  induction xs with
  | nil => simp [Followed]
  | cons x xs ih =>
    have hexists : (∃ y ∈ xs ++ ys, q y) ↔ (∃ y ∈ xs, q y) ∨ ∃ y ∈ ys, q y := by
      simp only [List.mem_append, or_and_right, exists_or]
    simp only [List.cons_append, Followed, ih, hexists]
    by_cases h : ∃ y ∈ ys, q y
    · simp only [h, or_true, implies_true, true_and]
    · simp only [h, or_false, and_assoc]

/-- Nothing of the first kind needs nothing of the other. -/
theorem followed_of_none (h : ∀ x ∈ xs, ¬p x) : Followed p q xs := by
  induction xs with
  | nil => trivial
  | cons x xs ih =>
    obtain ⟨hx, hxs⟩ := List.forall_mem_cons.mp h
    exact ⟨fun hp => absurd hp hx, ih hxs⟩

/-- What is of neither kind does not matter. -/
theorem followed_append_of_none (hp : ∀ y ∈ ys, ¬p y) (hq : ∀ y ∈ ys, ¬q y) :
    Followed p q (xs ++ ys) ↔ Followed p q xs := by
  rw [followed_append, or_iff_left (fun ⟨y, hy, h⟩ => hq y hy h),
    and_iff_left (followed_of_none hp)]

end

/-! ## Beginnings and ends -/

namespace Exchange

variable {x : Exchange} {c : Nat}

/-- A request to begin a transaction whose end nobody awaited. -/
def InDoubt (x : Exchange) (c : Nat) : Prop :=
  x.connection = c ∧ x.request.control? = some .begin ∧ Session.isCutShort x.ending

/-- A request to begin a transaction that was not refused. -/
def MayOpen (x : Exchange) (c : Nat) : Prop := x.Opens c ∨ x.InDoubt c

/-- A request to end a transaction, one way or the other. -/
def Ends (x : Exchange) (c : Nat) : Prop :=
  x.connection = c ∧
    (x.request.control? = some .commit ∨ x.request.control? = some .rollback)

theorem MayOpen.connection (h : x.MayOpen c) : x.connection = c := h.elim (·.1) (·.1)

theorem MayOpen.control? (h : x.MayOpen c) : x.request.control? = some .begin :=
  h.elim (·.2.1) (·.2.1)

theorem Opens.not_inDoubt {c' : Nat} (h : x.Opens c) : ¬x.InDoubt c' := by
  rintro ⟨-, -, hcut⟩
  obtain ⟨sets, hsets⟩ := exists_of_isOk h.2.2
  rw [hsets] at hcut
  cases hcut

theorem Ends.not_mayOpen {c' : Nat} (h : x.Ends c) : ¬x.MayOpen c' := by
  intro hm
  rcases h.2 with hk | hk
  · rw [hm.control?] at hk
    cases hk
  · rw [hm.control?] at hk
    cases hk

end Exchange

/-- What was begun on a connection has found its end: behind every request to begin a transaction
that was not refused there is one to end it. -/
def Ended (c : Nat) (xs : List Exchange) : Prop := Followed (·.MayOpen c) (·.Ends c) xs

/-- No doubt is left on a connection: behind every request to begin a transaction whose end nobody
awaited there is one that succeeded. -/
def Cleared (c : Nat) (xs : List Exchange) : Prop := Followed (·.InDoubt c) (·.Opens c) xs

/-- What is asked elsewhere does not matter. -/
theorem ended_elsewhere {xs : List Exchange} {x : Exchange} {c : Nat} (h : x.connection ≠ c) :
    (Ended c (xs ++ [x]) ↔ Ended c xs) ∧ (Cleared c (xs ++ [x]) ↔ Cleared c xs) := by
  refine ⟨followed_append_of_none ?_ ?_, followed_append_of_none ?_ ?_⟩
  · exact List.forall_mem_singleton.mpr fun hm => h hm.connection
  · exact List.forall_mem_singleton.mpr fun he => h he.1
  · exact List.forall_mem_singleton.mpr fun hd => h hd.1
  · exact List.forall_mem_singleton.mpr fun ho => h ho.1

namespace Transaction

/-- **What has found its end, by what counts as touched.** No doubt is left on a connection that is
touched, and on every other one what was begun has been ended unless doubt is left. -/
structure Tracks (touched : List Nat) (xs : List Exchange) : Prop where
  /-- a connection that is touched was entered with success -/
  cleared : ∀ c ∈ touched, Cleared c xs
  /-- all others were left -/
  ended : ∀ c ∉ touched, (Ended c xs ↔ Cleared c xs)

namespace Tracks

variable {touched : List Nat} {xs ys : List Exchange}

theorem start : Tracks [] [] := ⟨by simp, fun _ _ => Iff.rfl⟩

/-- Exchanges that neither begin nor end anything change nothing. -/
theorem quiet (h : Tracks touched xs) (hopen : ∀ y ∈ ys, ∀ c, ¬y.MayOpen c)
    (hend : ∀ y ∈ ys, ∀ c, ¬y.Ends c) : Tracks touched (xs ++ ys) := by
  have hcleared (c : Nat) : Cleared c (xs ++ ys) ↔ Cleared c xs :=
    followed_append_of_none (fun y hy hd => hopen y hy c (.inr hd))
      fun y hy ho => hopen y hy c (.inl ho)
  refine ⟨fun c hc => (hcleared c).mpr (h.cleared c hc), fun c hc => ?_⟩
  rw [hcleared, ← h.ended c hc]
  exact followed_append_of_none (fun y hy => hopen y hy c) fun y hy => hend y hy c

/-- Statements do neither. -/
theorem statements (h : Tracks touched xs) (hs : ∀ y ∈ ys, y.request.control? = none) :
    Tracks touched (xs ++ ys) := by
  refine h.quiet (fun y hy c hm => ?_) fun y hy c he => ?_
  · have hk := hm.control?
    rw [hs y hy] at hk
    cases hk
  · have hk := he.2
    simp [hs y hy] at hk

/-- A connection is entered. -/
theorem opened (h : Tracks touched xs) {c : Nat} {x : Exchange} (hx : x.Opens c) :
    Tracks (touched ++ [c]) (xs ++ [x]) := by
  refine ⟨fun c' hc' => ?_, fun c' hc' => ?_⟩
  · refine followed_append.mpr
      ⟨?_, followed_of_none (List.forall_mem_singleton.mpr hx.not_inDoubt)⟩
    rcases List.mem_append.mp hc' with hc' | hc'
    · exact .inl (h.cleared c' hc')
    · rw [List.mem_singleton.mp hc']
      exact .inr ⟨x, List.mem_singleton_self x, hx⟩
  · obtain ⟨htouched, hne⟩ := not_or.mp (fun hor => hc' (List.mem_append.mpr hor))
    have hother : x.connection ≠ c' := fun he => hne (List.mem_singleton.mpr (he ▸ hx.1))
    rw [(ended_elsewhere hother).1, (ended_elsewhere hother).2]
    exact h.ended c' htouched

/-- The waiting for that is given up, and nothing more counts as touched. -/
theorem doubted (h : Tracks touched xs) {c : Nat} (hc : c ∉ touched) {x : Exchange}
    (hx : x.InDoubt c) : Tracks touched (xs ++ [x]) := by
  refine ⟨fun c' hc' => ?_, fun c' hc' => ?_⟩
  · have hother : x.connection ≠ c' := fun he => hc (hx.1.symm.trans he ▸ hc')
    exact (ended_elsewhere hother).2.mpr (h.cleared c' hc')
  · by_cases hother : x.connection = c'
    · -- it is the last request, and nothing stands behind it
      obtain rfl := hx.1.symm.trans hother
      refine iff_of_false (fun he => ?_) fun hcl => ?_
      · obtain ⟨y, hy, -⟩ := (followed_append.mp he).2.1 (.inr hx)
        cases hy
      · obtain ⟨y, hy, -⟩ := (followed_append.mp hcl).2.1 hx
        cases hy
    · rw [(ended_elsewhere hother).1, (ended_elsewhere hother).2]
      exact h.ended c' hc'

/-- Everything that was touched is left. -/
theorem left (h : Tracks touched xs) (hends : ∀ y ∈ ys, ∃ c ∈ touched, y.Ends c)
    (hall : ∀ c ∈ touched, ∃ y ∈ ys, y.Ends c) : Tracks [] (xs ++ ys) := by
  have hopen (c : Nat) : ∀ y ∈ ys, ¬y.MayOpen c := by
    intro y hy
    obtain ⟨c', -, he⟩ := hends y hy
    exact he.not_mayOpen
  refine ⟨by simp, fun c _ => ?_⟩
  have hcleared : Cleared c (xs ++ ys) ↔ Cleared c xs :=
    followed_append_of_none (fun y hy hd => hopen c y hy (.inr hd))
      fun y hy ho => hopen c y hy (.inl ho)
  rw [hcleared]
  by_cases hc : c ∈ touched
  · -- a connection that was touched is ended now
    refine iff_of_true (followed_append.mpr ⟨.inr (hall c hc), ?_⟩) (h.cleared c hc)
    exact followed_of_none (hopen c)
  · -- any other is not spoken to
    rw [← h.ended c hc]
    refine followed_append_of_none (hopen c) fun y hy he => ?_
    obtain ⟨c', hc', he'⟩ := hends y hy
    exact hc (he.1.symm.trans he'.1 ▸ hc')

end Tracks

variable {β : Type} [Backend β]

/-! ## Steps -/

/-- Touching a connection: it is entered, or refused, or left in doubt. -/
theorem Touches.tracks {t : Transaction} {c : Nat} {o : Outcome Unit} {ms : List Mark}
    {d : Nat → Nat} {touched : List Nat} {xs : List Exchange}
    (h : t.Touches (depthOf t.touched) c o ms d touched) (ho : o ≠ .error .stuck)
    (hxs : Tracks t.touched xs) : Tracks touched (xs ++ exchanges ms) := by
  cases h with
  | already touched =>
    rw [exchanges_nil, List.append_nil]
    exact hxs
  | entered untouched begins =>
    cases begins with
    | nested open_ => exact absurd (if_neg untouched) open_
    | opened closed on sent =>
      rw [sent]
      exact hxs.opened ⟨rfl, Request.control?_request _, rfl⟩
  | @refused ms halt d untouched begins =>
    cases begins with
    | unsent closed on sent =>
      rw [sent, List.append_nil]
      exact hxs
    | refused closed on sent =>
      rw [sent]
      by_cases hcut : Session.isCutShort (.error halt : Outcome (List ResultSet))
      · exact hxs.doubted untouched ⟨rfl, Request.control?_request _, hcut⟩
      · -- the backend has said no
        refine hxs.quiet (List.forall_mem_singleton.mpr fun c' hm => ?_)
          (List.forall_mem_singleton.mpr fun c' he => ?_)
        · rcases hm with ⟨-, -, hok⟩ | ⟨-, -, hcut'⟩
          · cases hok
          · exact hcut hcut'
        · simpa using he.2

/-- **A step** touches its connection, and the rest is statements. -/
theorem StepRun.tracks {t : Transaction} {i : Nat} {s : Session β} {o : Outcome Unit}
    {ms : List Mark} {d : Nat → Nat} {touched : List Nat} {xs : List Exchange}
    (h : t.StepRun i s o ms d touched) (hd : s.depth = depthOf t.touched)
    (ho : o ≠ .error .stuck) (hxs : Tracks t.touched xs) :
    Tracks touched (xs ++ exchanges ms) := by
  cases h with
  | idle => rwa [exchanges_nil, List.append_nil]
  | unprepared => rwa [exchanges_prepared, exchanges_nil, List.append_nil]
  | refused enters touches =>
    rw [hd] at touches
    rw [exchanges_prepared]
    exact touches.tracks ho hxs
  | dropped enters touches =>
    rw [hd] at touches
    rw [exchanges_prepared, exchanges_append, exchanges_interrupted, exchanges_nil,
      List.append_nil]
    exact touches.tracks nofun hxs
  | ran enters touches runs =>
    rw [hd] at touches
    rw [exchanges_prepared, exchanges_append, exchanges_executed, ← List.append_assoc]
    exact (touches.tracks nofun hxs).statements (Routine.control?_of_runs runs)
  | called => rwa [exchanges_called, exchanges_nil, List.append_nil]

/-! ## Leaving connections -/

/-- Rolling back connections that are open ends what was begun there, and nothing else. -/
theorem ends_of_rollsBackAll {d d' : Nat → Nat} {cs : List Nat} {failures : List Error}
    {ms : List Mark} (h : RollsBackAll d cs (.ok failures) ms d') (hn : cs.Nodup)
    (hopen : ∀ c ∈ cs, d c ≠ 0) :
    (∀ y ∈ exchanges ms, ∃ c ∈ cs, y.Ends c) ∧ ∀ c ∈ cs, ∃ y ∈ exchanges ms, y.Ends c := by
  obtain ⟨xs, rfl, hxs, -, -⟩ := h.exchanges rfl hn
  rw [List.filter_eq_self.mpr fun c hc => decide_eq_true (hopen c hc)] at hxs
  have hx : exchanges (xs.map .asked) = xs := by
    rw [exchanges, List.filterMap_map]
    exact List.filterMap_some
  rw [hx]
  refine ⟨fun y hy => ?_, fun c hc => ?_⟩
  · -- only ROLLBACK is sent
    obtain ⟨hc, hr⟩ := of_requests_eq hxs y hy
    exact ⟨y.connection, hc, rfl, .inr (by rw [hr, Request.control?_request])⟩
  · -- and to each of them
    have hmem : (c, Control.rollback.request) ∈ requests xs := by
      rw [hxs]
      exact List.mem_map_of_mem hc
    obtain ⟨y, hy, heq⟩ := List.mem_map.mp hmem
    obtain ⟨rfl, hr⟩ := Prod.mk.inj heq
    exact ⟨y, hy, rfl, .inr (by rw [hr, Request.control?_request])⟩

/-- Committing a connection that was entered once, or else rolling it back, ends what was begun. -/
theorem CommitsOne.ends {d d' : Nat → Nat} {c : Nat} {es : List Error} {ms : List Mark}
    (h : CommitsOne d c (.ok es) ms d') (hd : d c = 1) :
    (∀ y ∈ exchanges ms, y.Ends c) ∧ exchanges ms ≠ [] := by
  have hcommit {o : Outcome (List ResultSet)} :
      (Exchange.mk c Control.commit.request o).Ends c :=
    ⟨rfl, .inl (Request.control?_request _)⟩
  cases h with
  | kept commits =>
    cases commits with
    -- there is no inner level here
    | nested level => omega
    | kept level => exact ⟨List.forall_mem_singleton.mpr hcommit, by simp⟩
  | undone commits rollsBack answered =>
    generalize ho : failWith _ = o at commits
    cases commits with
    | closed closed => omega
    | nested level => cases ho
    | kept level => cases ho
    -- a refused COMMIT is followed by the ROLLBACK that ends it
    | refused level =>
      cases rollsBack with
      | closed closed => omega
      | sent open_ =>
        refine ⟨List.forall_mem_cons.mpr ⟨hcommit, List.forall_mem_singleton.mpr ?_⟩, by simp⟩
        exact ⟨rfl, .inr (Request.control?_request _)⟩

theorem CommitsAll.ends {d d' : Nat → Nat} {cs : List Nat} {o : Outcome (List Error)}
    {es : List Error} {ms : List Mark} (h : CommitsAll d cs o ms d') (ho : o = .ok es)
    (hn : cs.Nodup) (hd : ∀ c ∈ cs, d c = 1) :
    (∀ y ∈ exchanges ms, ∃ c ∈ cs, y.Ends c) ∧ ∀ c ∈ cs, ∃ y ∈ exchanges ms, y.Ends c := by
  induction h generalizing es with
  | nil => exact ⟨by simp, by simp⟩
  | stuck first => cases ho
  | @cons d d' d'' c cs es' o ms ns first rest ih =>
    rcases o with halt | es''
    · cases ho
    obtain ⟨hc, hn⟩ := List.nodup_cons.mp hn
    obtain ⟨hdc, hdcs⟩ := List.forall_mem_cons.mp hd
    obtain ⟨hone, hsome⟩ := first.ends hdc
    -- the connections behind are entered as before
    obtain rfl := first.depth (Nat.le_of_eq hdc)
    obtain ⟨hends, hall⟩ := ih rfl hn fun c' hc' => by
      rw [Function.update_of_ne (ne_of_mem_of_not_mem hc' hc), hdcs c' hc']
    rw [exchanges_append]
    refine ⟨fun y hy => ?_, List.forall_mem_cons.mpr ⟨?_, fun c' hc' => ?_⟩⟩
    · rcases List.mem_append.mp hy with hy | hy
      · exact ⟨c, List.mem_cons_self, hone y hy⟩
      · obtain ⟨c', hc', he⟩ := hends y hy
        exact ⟨c', List.mem_cons_of_mem c hc', he⟩
    · obtain ⟨y, hy⟩ := List.exists_mem_of_ne_nil _ hsome
      exact ⟨y, List.mem_append_left _ hy, hone y hy⟩
    · obtain ⟨y, hy, he⟩ := hall c' hc'
      exact ⟨y, List.mem_append_right _ hy, he⟩

/-! ## Calls -/

/-- The states that a new transaction without stubs reaches by calls that return. -/
inductive Called (t₀ : Transaction) (s₀ : Session β) : Transaction → Session β → Prop
  /-- nothing was called -/
  | fresh (new : t₀.IsNew) (plain : t₀.IsPlain) : Called t₀ s₀ t₀ s₀
  /-- the next step was run -/
  | next {t t' : Transaction} {s s' : Session β} {o : Outcome (Option Nat)}
    (before : Called t₀ s₀ t s) (run : t.executeNext.run s = ((o, t'), s'))
    (answered : o ≠ .error .stuck) : Called t₀ s₀ t' s'
  /-- it was committed -/
  | commit {t t' : Transaction} {s s' : Session β} {o : Outcome Unit}
    (before : Called t₀ s₀ t s) (run : t.commit.run s = ((o, t'), s'))
    (answered : o ≠ .error .stuck) : Called t₀ s₀ t' s'
  /-- it was rolled back -/
  | rollback {t t' : Transaction} {s s' : Session β} {o : Outcome Unit}
    (before : Called t₀ s₀ t s) (run : t.rollback.run s = ((o, t'), s'))
    (answered : o ≠ .error .stuck) : Called t₀ s₀ t' s'
  /-- it was executed -/
  | execute {t t' : Transaction} {s s' : Session β} {o : Outcome ResultSet}
    (before : Called t₀ s₀ t s) (run : t.execute.run s = ((o, t'), s'))
    (answered : o ≠ .error .stuck) : Called t₀ s₀ t' s'
  /-- it was cleared -/
  | clear {t : Transaction} {s : Session β} (before : Called t₀ s₀ t s) : Called t₀ s₀ t.clear s

/-- What holds of a transaction in every state, if no connection was in a transaction before. -/
structure Kept (s₀ : Session β) (t : Transaction) (s : Session β) (ms : List Mark) : Prop where
  /-- there are no stubs -/
  plain : t.IsPlain
  /-- when it is over it has touched nothing -/
  finished : t.phase ≠ .running → t.touched = []
  /-- a connection is touched once -/
  nodup : t.touched.Nodup
  /-- and entered once -/
  leads : s₀.Leads ms (depthOf t.touched) s
  /-- what was begun has been ended, by what is touched -/
  tracks : Tracks t.touched (exchanges ms)

namespace Kept

variable {s₀ s s' : Session β} {t t' : Transaction} {ms : List Mark}

theorem start (hnew : t.IsNew) (hplain : t.IsPlain) (hs : ∀ c, s₀.depth c = 0) :
    Kept s₀ t s₀ [] := by
  have hd : s₀.depth = depthOf [] := funext hs
  refine ⟨hplain, fun _ => hnew.touched, ?_, ?_, ?_⟩
  · rw [hnew.touched]
    exact List.nodup_nil
  · rw [hnew.touched, ← hd]
    exact .refl s₀
  · rw [hnew.touched]
    exact .start

/-- A step of a transaction that is running. -/
theorem stepRun (h : Kept s₀ t s ms) (hrunning : t.phase = .running) {i : Nat}
    (hi : i < t.steps.length) {o : Outcome Unit} (hrun : (t.runStep i).run s = ((o, t'), s'))
    (ho : o ≠ .error .stuck) : ∃ ns, Kept s₀ t' s' (ms ++ ns) := by
  obtain ⟨ns, d, hstep, hl, hk⟩ := runStep_run h.plain hi hrun
  have hext := hstep.extends h.leads.depth h.nodup
  have htracks := hstep.tracks h.leads.depth ho h.tracks
  obtain rfl := hext.depth
  refine ⟨ns, hk.plain, fun hover => absurd (hk.phase.trans hrunning) hover, hext.nodup,
    h.leads.trans hl, ?_⟩
  rw [exchanges_append]
  exact htracks

/-- All that was touched has been left. -/
theorem left (h : Kept s₀ t s ms) {ns : List Mark} {d : Nat → Nat} (hl : s.Leads ns d s')
    (hd : ∀ c, d c = if c ∈ t.touched then 0 else s.depth c)
    (hends : ∀ y ∈ exchanges ns, ∃ c ∈ t.touched, y.Ends c)
    (hall : ∀ c ∈ t.touched, ∃ y ∈ exchanges ns, y.Ends c) (phase : Phase) :
    Kept s₀ { t with touched := [], phase } s' (ms ++ ns) := by
  obtain rfl : d = depthOf [] := depth_of_left h.leads.depth (fun c => Iff.rfl) hd
  refine ⟨h.plain, fun _ => rfl, List.nodup_nil, h.leads.trans hl, ?_⟩
  rw [exchanges_append]
  exact h.tracks.left hends hall

/-- It has been rolled back. -/
theorem rolledBack (h : Kept s₀ t s ms) {failures : List Error} {ns : List Mark} {d : Nat → Nat}
    (hback : RollsBackAll s.depth t.touched.reverse (.ok failures) ns d) (hl : s.Leads ns d s')
    (phase : Phase) : Kept s₀ { t with touched := [], phase } s' (ms ++ ns) := by
  have hn := List.nodup_reverse.mpr h.nodup
  obtain ⟨-, -, -, -, hdepth⟩ := hback.exchanges rfl hn
  obtain ⟨hends, hall⟩ := ends_of_rollsBackAll hback hn fun c hc => by
    rw [h.leads.depth, depthOf, if_pos (List.mem_reverse.mp hc)]
    exact Nat.one_ne_zero
  refine h.left hl (fun c => ?_) (fun y hy => ?_) (fun c hc => ?_) phase
  · simpa only [List.mem_reverse] using hdepth c
  · obtain ⟨c, hc, he⟩ := hends y hy
    exact ⟨c, List.mem_reverse.mp hc, he⟩
  · exact hall c (List.mem_reverse.mpr hc)

theorem next (h : Kept s₀ t s ms) {o : Outcome (Option Nat)}
    (hrun : t.executeNext.run s = ((o, t'), s')) (ho : o ≠ .error .stuck) :
    ∃ ns, Kept s₀ t' s' (ms ++ ns) := by
  cases executeNext_run hrun with
  | finished ended => exact ⟨[], (List.append_nil ms).symm ▸ h⟩
  | exhausted running all => exact ⟨[], (List.append_nil ms).symm ▸ h⟩
  | ran running some run =>
    obtain ⟨ns, hs⟩ := h.stepRun running some run nofun
    exact ⟨ns, hs.plain, hs.finished, hs.nodup, hs.leads, hs.tracks⟩
  | aborted running some run rollsBack leads =>
    obtain ⟨ns, hs⟩ := h.stepRun running some run nofun
    exact ⟨_, List.append_assoc .. ▸ hs.rolledBack rollsBack leads .rolledBack⟩
  | lost running some run rollsBack leads =>
    exact absurd (congrArg Except.error (rollsBack.halt rfl)) ho
  | stuck running some run => exact absurd rfl ho

theorem commit (h : Kept s₀ t s ms) {o : Outcome Unit}
    (hrun : t.commit.run s = ((o, t'), s')) (ho : o ≠ .error .stuck) :
    ∃ ns, Kept s₀ t' s' (ms ++ ns) := by
  obtain ⟨ns, d, hcommit, hl⟩ := commit_run hrun
  cases hcommit with
  | refused early =>
    rw [h.leads.depth] at hl
    exact ⟨[], h.plain, h.finished, h.nodup, h.leads.trans hl, by simpa using h.tracks⟩
  | stuck running commits => exact absurd (congrArg Except.error (commits.halt rfl)) ho
  | left running all commits kept =>
    have hone : ∀ c ∈ t.touched, s.depth c = 1 := fun c hc => by
      rw [h.leads.depth, depthOf, if_pos hc]
    obtain ⟨hends, hall⟩ := commits.ends rfl h.nodup hone
    refine ⟨ns, h.left hl (commits.depth rfl fun c => ?_) hends hall .committed⟩
    rw [h.leads.depth]
    exact depthOf_le t.touched c

theorem rollback (h : Kept s₀ t s ms) {o : Outcome Unit}
    (hrun : t.rollback.run s = ((o, t'), s')) (ho : o ≠ .error .stuck) :
    ∃ ns, Kept s₀ t' s' (ms ++ ns) := by
  obtain ⟨ns, d, hback, hl⟩ := rollback_run hrun
  cases hback with
  | refused ended =>
    rw [h.leads.depth] at hl
    exact ⟨[], h.plain, h.finished, h.nodup, h.leads.trans hl, by simpa using h.tracks⟩
  | stuck running rollsBack => exact absurd (congrArg Except.error (rollsBack.halt rfl)) ho
  | left running rollsBack answer => exact ⟨ns, h.rolledBack rollsBack hl .rolledBack⟩

theorem ran (h : Kept s₀ t s ms) {n : Nat} (hran : Ran t s n t' s') :
    ∃ ns, Kept s₀ t' s' (ms ++ ns) := by
  induction hran with
  | start => exact ⟨[], (List.append_nil ms).symm ▸ h⟩
  | step before run ih =>
    obtain ⟨ns, hs⟩ := ih
    obtain ⟨ns', hs'⟩ := hs.next run nofun
    exact ⟨_, List.append_assoc .. ▸ hs'⟩

theorem execute (h : Kept s₀ t s ms) {o : Outcome ResultSet}
    (hrun : t.execute.run s = ((o, t'), s')) (ho : o ≠ .error .stuck) :
    ∃ ns, Kept s₀ t' s' (ms ++ ns) := by
  cases execute_run hrun with
  | broken ran run =>
    obtain ⟨ns, hs⟩ := h.ran ran
    obtain ⟨ns', hs'⟩ := hs.next run fun hs => ho (by cases hs; rfl)
    exact ⟨_, List.append_assoc .. ▸ hs'⟩
  | unkept ran commit =>
    obtain ⟨ns, hs⟩ := h.ran ran
    obtain ⟨ns', hs'⟩ := hs.commit commit fun hs => ho (by cases hs; rfl)
    exact ⟨_, List.append_assoc .. ▸ hs'⟩
  | done ran commit =>
    obtain ⟨ns, hs⟩ := h.ran ran
    obtain ⟨ns', hs'⟩ := hs.commit commit nofun
    rw [List.append_assoc] at hs'
    exact ⟨_, hs'.plain, hs'.finished, hs'.nodup, hs'.leads, hs'.tracks⟩

end Kept

variable {t₀ t : Transaction} {s₀ s : Session β}

theorem Called.kept (h : Called t₀ s₀ t s) (hs : ∀ c, s₀.depth c = 0) :
    ∃ ms, Kept s₀ t s ms := by
  induction h with
  | fresh new plain => exact ⟨[], .start new plain hs⟩
  | next before run answered ih =>
    obtain ⟨ms, hk⟩ := ih
    obtain ⟨ns, hk'⟩ := hk.next run answered
    exact ⟨_, hk'⟩
  | commit before run answered ih =>
    obtain ⟨ms, hk⟩ := ih
    obtain ⟨ns, hk'⟩ := hk.commit run answered
    exact ⟨_, hk'⟩
  | rollback before run answered ih =>
    obtain ⟨ms, hk⟩ := ih
    obtain ⟨ns, hk'⟩ := hk.rollback run answered
    exact ⟨_, hk'⟩
  | execute before run answered ih =>
    obtain ⟨ms, hk⟩ := ih
    obtain ⟨ns, hk'⟩ := hk.execute run answered
    exact ⟨_, hk'⟩
  | clear before ih =>
    -- what is touched stays touched, but the transaction is running again
    obtain ⟨ms, hk⟩ := ih
    exact ⟨ms, hk.plain, fun hover => absurd rfl hover, hk.nodup, hk.leads, hk.tracks⟩

/-- **A transaction that is over has ended what it began, but for what is in doubt.** If nobody else
uses its connections, each of them is outside of every transaction by its own account, and what was
begun there has been ended exactly if no doubt is left: every `BEGIN` whose end nobody awaited was
followed by one that succeeded. -/
theorem Called.ended_iff (h : Called t₀ s₀ t s) (hclosed : ∀ c, s₀.depth c = 0)
    (hover : t.isFinished) :
    ∃ ms, s.trace = s₀.trace ++ ms ∧
      ∀ c, s.depth c = 0 ∧ (Ended c (exchanges ms) ↔ Cleared c (exchanges ms)) := by
  obtain ⟨ms, hk⟩ := h.kept hclosed
  have hnone := hk.finished (isFinished_iff.mp hover)
  refine ⟨ms, hk.leads.trace, fun c => ⟨?_, hk.tracks.ended c ?_⟩⟩
  · rw [hk.leads.depth, hnone, depthOf, if_neg List.not_mem_nil]
  · rw [hnone]
    exact List.not_mem_nil

/-- A connection to a database that is at a statement that never ends, for which nobody waits. -/
def busy : Session Sqlite.Memory where
  connections :=
    [{ backend := { driver := {}, waiting := some [] }, timeout := some (.ofMillis 600) }]

theorem depth_busy (c : Nat) : busy.depth c = 0 := by
  cases c <;> rfl

/-- A transaction is executed there, and it is aborted when the time is over. -/
theorem called_busy :
    ∃ t s, (inserting.execute.run busy).1.2 = t ∧ (inserting.execute.run busy).2 = s ∧
      Called inserting busy t s ∧ t.isFinished := by
  have hplain : inserting.IsPlain := by simp [IsPlain, inserting, Step.IsPlain, Routine.IsPlain]
  have hrun : (inserting.execute.run busy).1.1 =
      failWith (.aborted 0 (.timedOut (.ofMillis 600)) []) := by
    with_unfolding_all rfl
  refine ⟨_, _, rfl, rfl, .execute (.fresh ⟨rfl, rfl, rfl⟩ hplain) (run_of_answer hrun) ?_,
    by with_unfolding_all rfl⟩
  intro hstuck
  cases hstuck

/-- What is said of it. -/
theorem Called.ended_iff_busy : ∃ t s, Called inserting busy t s ∧ (∀ c, busy.depth c = 0) ∧
    t.isFinished ∧ ∃ ms, s.trace = busy.trace ++ ms ∧
      ∀ c, s.depth c = 0 ∧ (Ended c (exchanges ms) ↔ Cleared c (exchanges ms)) := by
  obtain ⟨t, s, -, -, hcalled, hover⟩ := called_busy
  exact ⟨t, s, hcalled, depth_busy, hover, hcalled.ended_iff depth_busy hover⟩

/-- The `BEGIN` for which it did not wait any longer is carried out when the database is told to
stop. Nothing ends it: the connection counts as outside of every transaction, and its database is in
one. -/
theorem Called.not_ended_busy : ∃ t s ms, Called inserting busy t s ∧ (∀ c, busy.depth c = 0) ∧
    t.isFinished ∧ s.trace = busy.trace ++ ms ∧ ¬Ended 0 (exchanges ms) ∧ s.depth 0 = 0 ∧
      s.connections.map (fun conn => conn.backend.driver.saved.isSome) = [true] := by
  obtain ⟨t, s, -, rfl, hcalled, hover⟩ := called_busy
  have htrace : (inserting.execute.run busy).2.trace = busy.trace ++
      [.prepared 0, .asked ⟨0, Control.begin.request, failWith (.timedOut (.ofMillis 600))⟩,
        .interrupted 0] := by
    with_unfolding_all rfl
  refine ⟨t, _, _, hcalled, depth_busy, hover, htrace, fun hended => ?_, ?_, ?_⟩
  · obtain ⟨y, hy, -⟩ := hended.1 (.inr ⟨rfl, Request.control?_request _, rfl⟩)
    cases hy
  · with_unfolding_all rfl
  · decide +kernel

end Transaction

end Tabula
