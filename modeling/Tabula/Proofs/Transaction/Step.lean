import Tabula.Proofs.Procedure.Statements
import Tabula.Transaction.Basic

/-!
# What one step of a transaction does

A step that is no stub can go six ways, which `Transaction.StepRun` lists with the marks that each
of them leaves, the depths afterwards, and the connections that are touched then.

* `runStep_run`: every run of a step goes one of these ways.
* `Transaction.Keeps`: what stays of a transaction while a step runs. A function can change the
  procedure behind it, but it cannot make a stub of it.
* `runStep_stays`: what stays while any step runs.
-/

namespace Tabula

variable {β α σ : Type}

/-! ## Marks of steps -/

/-- The step that a mark says something of. -/
def Mark.step? : Mark → Option Nat
  | .prepared i | .executed i _ _ | .called i => some i
  | _ => none

/-- The step that a mark says to have been started. -/
def Mark.started? : Mark → Option Nat
  | .executed i _ _ | .called i => some i
  | _ => none

/-- The connection that a mark says something of. -/
def Mark.connection? : Mark → Option Nat
  | .asked e => some e.connection
  | .interrupted c | .executed _ c _ => some c
  | _ => none

/-- The steps that were started, in order. -/
def started (ms : List Mark) : List Nat := ms.filterMap Mark.started?

@[simp] theorem started_append (ms ns : List Mark) :
    started (ms ++ ns) = started ms ++ started ns :=
  List.filterMap_append

@[simp] theorem started_prepared (i : Nat) (ms : List Mark) :
    started (.prepared i :: ms) = started ms := rfl

@[simp] theorem started_executed (i c n : Nat) (ms : List Mark) :
    started (.executed i c n :: ms) = i :: started ms := rfl

/-- What is said of a connection is said of no step. -/
theorem Mark.On.step? {c : Nat} {m : Mark} (h : m.On c) : m.step? = none := by
  cases m <;> first | rfl | exact h.elim

/-- A mark about a connection names it. -/
theorem Mark.On.connection? {c : Nat} {m : Mark} (h : m.On c) : m.connection? = some c := by
  cases m <;> first | exact congrArg some h | exact h.elim

/-- Marks of a connection start no step. -/
theorem started_eq_nil {c : Nat} {ms : List Mark} (h : ∀ m ∈ ms, m.On c) : started ms = [] := by
  refine List.filterMap_eq_nil_iff.mpr fun m hm => ?_
  have hon := h m hm
  cases m <;> first | rfl | exact hon.elim

/-! ## Input -/

namespace Routine

/-- Binding a name in a plain routine changes the routine only. -/
theorem bindAll_run {name : String} {v : Value} {r r' : Routine} (hr : r.IsPlain)
    {s s' : Session β} {o : Except Error Unit} (h : (r.bindAll name v).run s = ((o, r'), s')) :
    s' = s ∧ r'.IsPlain := by
  cases r with
  | stub s => exact hr.elim
  | _ =>
    obtain ⟨h, rfl⟩ := Action.pure_eq h
    cases h
    exact ⟨rfl, trivial⟩

/-- Adding a set to a plain routine changes the routine only. -/
theorem addParameters_run {set : ParameterSet} {r r' : Routine} (hr : r.IsPlain)
    {s s' : Session β} {o : Except Error Unit}
    (h : (r.addParameters set).run s = ((o, r'), s')) : s' = s ∧ r'.IsPlain := by
  cases r with
  | stub s => exact hr.elim
  | _ =>
    obtain ⟨h, rfl⟩ := Action.pure_eq h
    cases h
    exact ⟨rfl, trivial⟩

/-- Adding a criterion to a plain routine changes the routine only. -/
theorem addCriterion_run {c : Criterion} {r r' : Routine} (hr : r.IsPlain)
    {s s' : Session β} {o : Except Error Unit} (h : (r.addCriterion c).run s = ((o, r'), s')) :
    s' = s ∧ r'.IsPlain := by
  cases r with
  | stub s => exact hr.elim
  | _ =>
    obtain ⟨h, rfl⟩ := Action.pure_eq h
    cases h
    exact ⟨rfl, trivial⟩

/-- Clearing a plain routine changes the routine only. -/
theorem clear_run {r r' : Routine} (hr : r.IsPlain) {s s' : Session β}
    (h : r.clear.run s = (r', s')) : s' = s ∧ r'.IsPlain := by
  cases r with
  | stub s => exact hr.elim
  | _ =>
    obtain ⟨rfl, rfl⟩ := Action.pure_eq h
    exact ⟨rfl, trivial⟩

end Routine

namespace Step

/-- It is no stub. -/
def IsPlain : Step → Prop
  | .routine r => r.IsPlain
  | _ => True

/-- The same without results. -/
def bare : Step → Step
  | .routine r => .routine r.bare
  | s => s

/-- A plain step is plain on any connection. -/
theorem isPlain_onConnection {c : Nat} {s : Step} (h : s.IsPlain) : (s.onConnection c).IsPlain := by
  cases s with
  | routine r =>
    cases r with
    | stub s => exact h.elim
    | _ => trivial
  | _ => trivial

end Step

namespace Transaction

/-! ## Functions -/

/-- Binding a name in a plain step changes the step only. -/
theorem bindNext_run {name : String} {v : Value} {n n' : Step} (hn : n.IsPlain)
    {s s' : Session β} {o : Except Error Unit} (h : (bindNext name v n).run s = ((o, n'), s')) :
    s' = s ∧ n'.IsPlain := by
  cases n with
  | routine r =>
    obtain ⟨⟨o₁, r'⟩, t, h₁, h⟩ := Action.bind_eq h
    obtain ⟨h, rfl⟩ := Action.pure_eq h
    cases h
    exact Routine.bindAll_run hn h₁
  | nested type =>
    obtain ⟨h, rfl⟩ := Action.pure_eq h
    cases h
    exact ⟨rfl, hn⟩
  | function directives =>
    obtain ⟨h, rfl⟩ := Action.pure_eq h
    cases h
    exact ⟨rfl, hn⟩

variable [Backend β]

/-- Whatever a directive does, nothing is sent and the step behind becomes no stub. -/
theorem obey_run {previous : Option ResultSet} {d : Directive} {next next' : Option Step}
    (hn : ∀ n ∈ next, n.IsPlain) {s s' : Session β} {o : Except Error Unit}
    (h : (obey previous d next).run s = ((o, next'), s')) :
    s.Leads [] s.depth s' ∧ ∀ n ∈ next', n.IsPlain := by
  have keep {e : Except Error Unit} {m : Option Step} (hm : ∀ n ∈ m, n.IsPlain)
      (h : (pure (e, m) : Action β _).run s = ((o, next'), s')) :
      s.Leads [] s.depth s' ∧ ∀ n ∈ next', n.IsPlain := by
    obtain ⟨h, rfl⟩ := Action.pure_eq h
    cases h
    exact ⟨.refl _, hm⟩
  have bound {name : String} {v : Value} {n : Step} (hn : n.IsPlain)
      (h : ((do return (← bindNext name v n).map id some) : Action β _).run s =
        ((o, next'), s')) :
      s.Leads [] s.depth s' ∧ ∀ n ∈ next', n.IsPlain := by
    obtain ⟨⟨o₁, n'⟩, t, h₁, h⟩ := Action.bind_eq h
    obtain ⟨h, rfl⟩ := Action.pure_eq h
    cases h
    obtain ⟨rfl, hn'⟩ := bindNext_run hn h₁
    exact ⟨.refl _, by simpa using hn'⟩
  have edited {x : Action β (Except Error Unit × Routine)}
      (hx : ∀ {e r' t}, x.run s = ((e, r'), t) → t = s ∧ r'.IsPlain)
      (h : ((do return (← x).map id (some ∘ .routine)) : Action β _).run s = ((o, next'), s')) :
      s.Leads [] s.depth s' ∧ ∀ n ∈ next', n.IsPlain := by
    obtain ⟨⟨o₁, r'⟩, t, h₁, h⟩ := Action.bind_eq h
    obtain ⟨h, rfl⟩ := Action.pure_eq h
    cases h
    obtain ⟨rfl, hr'⟩ := hx h₁
    exact ⟨.refl _, by simpa [Step.IsPlain] using hr'⟩
  rcases next with _ | n
  · -- without a step behind, only a token can be fired
    cases d with
    | cancel t =>
      obtain ⟨h, rfl⟩ := Action.pure_eq h
      cases h
      exact ⟨⟨(List.append_nil _).symm, rfl, rfl⟩, hn⟩
    | _ => exact keep hn h
  · have hn₁ := hn n rfl
    cases d with
    | fail e => exact keep hn h
    | cancel t =>
      obtain ⟨h, rfl⟩ := Action.pure_eq h
      cases h
      exact ⟨⟨(List.append_nil _).symm, rfl, rfl⟩, hn⟩
    | bind name v => exact bound hn₁ h
    | bindKey name => exact bound hn₁ h
    | bindCell name column => exact bound hn₁ h
    | addParameters set =>
      cases n with
      | routine r => exact edited (Routine.addParameters_run hn₁) h
      | _ => exact keep hn h
    | addCriterion c =>
      cases n with
      | routine r => exact edited (Routine.addCriterion_run hn₁) h
      | _ => exact keep hn h
    | clear =>
      cases n with
      | routine r =>
        obtain ⟨r', t, h₁, h⟩ := Action.bind_eq h
        obtain ⟨h, rfl⟩ := Action.pure_eq h
        cases h
        obtain ⟨rfl, hr'⟩ := Routine.clear_run hn₁ h₁
        exact ⟨.refl _, by simpa [Step.IsPlain] using hr'⟩
      | _ => exact keep hn h
    | setConnection c =>
      refine keep ?_ h
      intro m hm
      cases hm
      exact Step.isPlain_onConnection hn₁

/-- Carrying out directives leaves no marks, and a plain step plain. -/
theorem obeyAll_run {previous : Option ResultSet} {ds : List Directive} {next next' : Option Step}
    (hn : ∀ n ∈ next, n.IsPlain) {s s' : Session β} {o : Except Error Unit}
    (h : (obeyAll previous ds next).run s = ((o, next'), s')) :
    s.Leads [] s.depth s' ∧ ∀ n ∈ next', n.IsPlain := by
  induction ds generalizing s next with
  | nil =>
    obtain ⟨h, rfl⟩ := Action.pure_eq h
    cases h
    exact ⟨.refl _, hn⟩
  | cons d ds ih =>
    rw [obeyAll] at h
    obtain ⟨⟨o₁, n₁⟩, t, h₁, h⟩ := Action.bind_eq h
    obtain ⟨hl, hn₁⟩ := obey_run hn h₁
    rcases o₁ with e | ⟨⟨⟩⟩
    · -- a directive that fails ends the function
      obtain ⟨h, rfl⟩ := Action.pure_eq h
      cases h
      exact ⟨hl, hn₁⟩
    · -- behind a directive the others go on with the step as it is now
      obtain ⟨hl', hn'⟩ := ih hn₁ h
      rw [hl.depth] at hl'
      exact ⟨hl.trans hl', hn'⟩

/-! ## Touching -/

/-- The ways in which touching a connection goes; the connections that are touched afterwards stand
last. -/
inductive Touches (t : Transaction) (depth : Nat → Nat) (c : Nat) :
    Outcome Unit → List Mark → (Nat → Nat) → List Nat → Prop
  /-- it had been touched -/
  | already (touched : c ∈ t.touched) : Touches t depth c (.ok ()) [] depth t.touched
  /-- a transaction was begun on it -/
  | entered {ms : List Mark} {d : Nat → Nat} (untouched : c ∉ t.touched)
    (begins : Session.Begins depth c (.ok ()) ms d) :
    Touches t depth c (.ok ()) ms d (t.touched ++ [c])
  /-- no transaction could be begun on it -/
  | refused {ms : List Mark} {h : Halt} {d : Nat → Nat} (untouched : c ∉ t.touched)
    (begins : Session.Begins depth c (.error h) ms d) : Touches t depth c (.error h) ms d t.touched

/-- What touching a connection does is one of the cases of `Touches`. -/
theorem touch_run {t t' : Transaction} {c : Nat} {s s' : Session β} {o : Outcome Unit}
    (h : (t.touch c).run s = ((o, t'), s')) :
    ∃ ms d touched, Touches t s.depth c o ms d touched ∧ t' = { t with touched } ∧
      s.Leads ms d s' := by
  rw [touch, Action.run_ite] at h
  by_cases hc : c ∈ t.touched
  · -- the connection had been touched
    rw [if_pos (List.contains_iff_mem.mpr hc)] at h
    obtain ⟨h, rfl⟩ := Action.pure_eq h
    cases h
    exact ⟨[], _, _, .already hc, rfl, .refl _⟩
  · rw [if_neg (fun h' => hc (List.contains_iff_mem.mp h'))] at h
    obtain ⟨o₁, s₁, h₁, h⟩ := Action.bind_eq h
    obtain ⟨ms, d, hb, hl⟩ := Session.begin_run h₁
    rcases o₁ with halt | ⟨⟨⟩⟩
    · -- the `BEGIN` was not carried out, so the connection does not count as touched
      obtain ⟨h, rfl⟩ := Action.pure_eq h
      cases h
      exact ⟨ms, d, _, .refused hc hb, rfl, hl⟩
    · -- the connection is the last that was touched
      obtain ⟨h, rfl⟩ := Action.pure_eq h
      cases h
      exact ⟨ms, d, _, .entered hc hb, rfl, hl⟩

/-! ## Steps -/

omit [Backend β] in
/-- Either the token had fired and nothing was run, or it was run, and it is dropped if it waits for
ever and the token has fired by then. -/
theorem watched_run {token : Option Token} {before after : σ} {run : Action β (Outcome α × σ)}
    {s s' : Session β} {o : Outcome α} (h : (watched token before run).run s = ((o, after), s')) :
    s.hasFired token ∧ o = failWith .cancelled ∧ after = before ∧ s' = s ∨
      s.hasFired token = false ∧
        ∃ o₁ t, run.run { s with watcher := token } = ((o₁, after), t) ∧
          s' = { t with watcher := none } ∧
          (o₁ ≠ .error .stuck ∧ o = o₁ ∨
            o₁ = .error .stuck ∧ o = if s'.hasFired token then failWith .cancelled else o₁) := by
  rw [watched, Action.run_get_bind, Action.run_ite] at h
  by_cases hf : s.hasFired token
  · rw [if_pos hf] at h
    obtain ⟨h, rfl⟩ := Action.pure_eq h
    cases h
    exact .inl ⟨hf, rfl, rfl, rfl⟩
  · rw [if_neg hf, Action.run_modify_bind] at h
    rw [Bool.not_eq_true] at hf
    obtain ⟨⟨o₁, after₁⟩, t, h₁, h⟩ := Action.bind_eq h
    rw [Action.run_modify_bind] at h
    rcases o₁ with (e | _) | a
    · obtain ⟨h, rfl⟩ := Action.pure_eq h
      cases h
      exact .inr ⟨hf, _, t, h₁, rfl, .inl ⟨nofun, rfl⟩⟩
    · -- waiting for ever ends when the token fires
      simp only [Action.run_get_bind, Action.run_ite] at h
      split at h
      next hfired =>
        obtain ⟨h, rfl⟩ := Action.pure_eq h
        cases h
        exact .inr ⟨hf, _, t, h₁, rfl, .inr ⟨rfl, (if_pos hfired).symm⟩⟩
      next hfree =>
        obtain ⟨h, rfl⟩ := Action.pure_eq h
        cases h
        exact .inr ⟨hf, _, t, h₁, rfl, .inr ⟨rfl, (if_neg hfree).symm⟩⟩
    · obtain ⟨h, rfl⟩ := Action.pure_eq h
      cases h
      exact .inr ⟨hf, _, t, h₁, rfl, .inl ⟨nofun, rfl⟩⟩

/-- A step comes as far as its connection: it is a procedure on that connection, and there is no
fault in its input. -/
structure Enters (t : Transaction) (i : Nat) (s : Session β) (r : Routine) (c : Nat) : Prop where
  /-- it is a procedure -/
  step : t.steps[i]? = some (.routine r)
  /-- on the connection -/
  connection : r.connection = some c
  /-- it can be prepared -/
  prepared : (r.prepare.run s).1 = .ok ()

/-- The ways in which running the step of a number goes; the connections that are touched afterwards
stand last. -/
inductive StepRun (t : Transaction) (i : Nat) (s : Session β) :
    Outcome Unit → List Mark → (Nat → Nat) → List Nat → Prop
  /-- it is not begun -/
  | idle {e : Error} : StepRun t i s (failWith e) [] s.depth t.touched
  /-- its procedure cannot be prepared -/
  | unprepared {e : Error} : StepRun t i s (failWith e) [.prepared i] s.depth t.touched
  /-- its connection cannot be touched -/
  | refused {r : Routine} {c : Nat} {h : Halt} {ms : List Mark} {d : Nat → Nat}
    {touched : List Nat} (enters : t.Enters i s r c)
    (touches : t.Touches s.depth c (.error h) ms d touched) :
    StepRun t i s (.error h) (.prepared i :: ms) d touched
  /-- it is cancelled before its procedure is executed -/
  | dropped {r : Routine} {c : Nat} {ms : List Mark} {d : Nat → Nat} {touched : List Nat}
    (enters : t.Enters i s r c) (touches : t.Touches s.depth c (.ok ()) ms d touched) :
    StepRun t i s (failWith .cancelled) (.prepared i :: (ms ++ [.interrupted c])) d touched
  /-- its procedure is executed -/
  | ran {r : Routine} {c : Nat} {o : Outcome Unit} {ms ns : List Mark} {d : Nat → Nat}
    {touched : List Nat} (enters : t.Enters i s r c)
    (touches : t.Touches s.depth c (.ok ()) ms d touched)
    (runs : Session.Runs c (r.statements (s.styleOf c)) o.isOk ns) :
    StepRun t i s o (.prepared i :: (ms ++ .executed i c (d c) :: ns)) d touched
  /-- it is a function -/
  | called {directives : Option ResultSet → Option ProcedureInfo → List Directive}
    {o : Except Error Unit} (step : t.steps[i]? = some (.function directives)) :
    StepRun t i s (outcomeOf o) [.called i] s.depth t.touched

/-- What touching leaves in the trace is about the connection that is touched. -/
theorem Touches.on {t : Transaction} {depth : Nat → Nat} {c : Nat} {o : Outcome Unit}
    {ms : List Mark} {d : Nat → Nat} {touched : List Nat} (h : t.Touches depth c o ms d touched) :
    ∀ m ∈ ms, m.On c := by
  cases h with
  | already touched => simp
  | entered untouched begins => exact begins.on
  | refused untouched begins => exact begins.on

/-- **The marks of a step** are its own, of no connection but its own, and they start it once at
most; if it succeeds they start it. -/
theorem StepRun.marks {t : Transaction} {i : Nat} {s : Session β} {o : Outcome Unit}
    {ms : List Mark} {d : Nat → Nat} {touched : List Nat} (h : t.StepRun i s o ms d touched) :
    (∀ m ∈ ms, ∀ j ∈ m.step?, j = i) ∧
      (∀ m ∈ ms, ∀ c ∈ m.connection?, ∃ r, t.Enters i s r c) ∧
      (started ms = [] ∧ ¬o.isOk ∨ started ms = [i]) := by
  -- the three kinds of marks of a step: about its connection, and the two that it leaves itself
  have within {r : Routine} {c : Nat} {ms : List Mark} (he : t.Enters i s r c)
      (h : ∀ m ∈ ms, m.On c ∨ m = .prepared i ∨ ∃ n, m = .executed i c n) :
      (∀ m ∈ ms, ∀ j ∈ m.step?, j = i) ∧
        (∀ m ∈ ms, ∀ c ∈ m.connection?, ∃ r, t.Enters i s r c) := by
    refine ⟨fun m hm j hj => ?_, fun m hm c' hc => ?_⟩
    · rcases h m hm with hon | rfl | ⟨n, rfl⟩
      · rw [hon.step?] at hj
        cases hj
      · exact (Option.some.inj hj).symm
      · exact (Option.some.inj hj).symm
    · rcases h m hm with hon | rfl | ⟨n, rfl⟩
      · rw [hon.connection?] at hc
        exact Option.some.inj hc ▸ ⟨r, he⟩
      · cases hc
      · exact Option.some.inj hc ▸ ⟨r, he⟩
  cases h with
  | idle => exact ⟨by simp, by simp, .inl ⟨rfl, Bool.false_ne_true⟩⟩
  | unprepared =>
    exact ⟨by simp [Mark.step?], by simp [Mark.connection?], .inl ⟨rfl, Bool.false_ne_true⟩⟩
  | refused enters touches =>
    obtain ⟨hs, hc⟩ := within enters (List.forall_mem_cons.mpr ⟨.inr (.inl rfl), fun m hm =>
      .inl (touches.on m hm)⟩)
    refine ⟨hs, hc, .inl ⟨?_, Bool.false_ne_true⟩⟩
    rw [started_prepared, started_eq_nil touches.on]
  -- the procedure was dropped before it began, so that none was started
  | @dropped r c ms d touched enters touches =>
    have hon : ∀ m ∈ ms ++ [.interrupted c], m.On c :=
      List.forall_mem_append.mpr ⟨touches.on, List.forall_mem_singleton.mpr rfl⟩
    obtain ⟨hs, hc⟩ := within enters (List.forall_mem_cons.mpr ⟨.inr (.inl rfl), fun m hm =>
      .inl (hon m hm)⟩)
    refine ⟨hs, hc, .inl ⟨?_, Bool.false_ne_true⟩⟩
    rw [started_prepared, started_eq_nil hon]
  -- the procedure ran, and it is the one that was started
  | @ran r c o ms ns d touched enters touches runs =>
    obtain ⟨hs, hc⟩ := within enters (List.forall_mem_cons.mpr ⟨.inr (.inl rfl),
      List.forall_mem_append.mpr ⟨fun m hm => .inl (touches.on m hm),
        List.forall_mem_cons.mpr ⟨.inr (.inr ⟨d c, rfl⟩), fun m hm => .inl (runs.on m hm)⟩⟩⟩)
    refine ⟨hs, hc, .inr ?_⟩
    rw [started_prepared, started_append, started_executed, started_eq_nil touches.on,
      started_eq_nil runs.on, List.nil_append]
  | called => exact ⟨by simp [Mark.step?], by simp [Mark.connection?], .inr rfl⟩

/-- Touching a connection asks for nothing but to begin a transaction. -/
theorem Touches.control? {t : Transaction} {depth : Nat → Nat} {c : Nat} {o : Outcome Unit}
    {ms : List Mark} {d : Nat → Nat} {touched : List Nat} (h : t.Touches depth c o ms d touched) :
    ∀ x ∈ exchanges ms, x.request.control? = some .begin := by
  cases h with
  | already touched => simp
  | entered untouched begins => exact begins.control?
  | refused untouched begins => exact begins.control?

/-- **What a step asks** is to begin a transaction, or a statement. -/
theorem StepRun.control? {t : Transaction} {i : Nat} {s : Session β} {o : Outcome Unit}
    {ms : List Mark} {d : Nat → Nat} {touched : List Nat} (h : t.StepRun i s o ms d touched) :
    ∀ x ∈ exchanges ms, x.request.control? = none ∨ x.request.control? = some .begin := by
  cases h with
  | idle => simp
  | unprepared => simp
  | refused enters touches =>
    rw [exchanges_prepared]
    exact fun x hx => .inr (touches.control? x hx)
  | dropped enters touches =>
    rw [exchanges_prepared, exchanges_append, exchanges_interrupted, exchanges_nil,
      List.append_nil]
    exact fun x hx => .inr (touches.control? x hx)
  | ran enters touches runs =>
    rw [exchanges_prepared, exchanges_append, exchanges_executed]
    exact List.forall_mem_append.mpr ⟨fun x hx => .inr (touches.control? x hx),
      fun x hx => .inl (Routine.control?_of_runs runs x hx)⟩
  | called => simp

/-- Touching forgets no connection. -/
theorem Touches.subset {t : Transaction} {depth : Nat → Nat} {c : Nat} {o : Outcome Unit}
    {ms : List Mark} {d : Nat → Nat} {touched : List Nat} (h : t.Touches depth c o ms d touched) :
    t.touched ⊆ touched := by
  cases h with
  | already touched => exact List.Subset.refl _
  | entered untouched begins => exact List.subset_append_left _ _
  | refused untouched begins => exact List.Subset.refl _

/-- A connection that was touched with success counts as touched. -/
theorem Touches.mem {t : Transaction} {depth : Nat → Nat} {c : Nat} {ms : List Mark}
    {d : Nat → Nat} {touched : List Nat} (h : t.Touches depth c (.ok ()) ms d touched) :
    c ∈ touched := by
  cases h with
  | already touched => exact touched
  | entered untouched begins => exact List.mem_append_right _ (List.mem_singleton_self c)

/-- A connection that is touched now and was not before is open. -/
theorem Touches.depth_ne_zero {t : Transaction} {depth : Nat → Nat} {c c' : Nat} {ms : List Mark}
    {d : Nat → Nat} {touched : List Nat} (h : t.Touches depth c (.ok ()) ms d touched)
    (hc : c' ∈ touched) (hc' : c' ∉ t.touched) : c' = c ∧ d c ≠ 0 := by
  cases h with
  | already touched => exact absurd hc hc'
  | entered untouched begins =>
    rcases List.mem_append.mp hc with hc | hc
    · exact absurd hc hc'
    · exact ⟨List.mem_singleton.mp hc, begins.depth_ne_zero⟩

/-- **What a step touches**: the connections that were touched stay so, the one on which it starts
is touched, and with success, where it is touched only now it is open. -/
theorem StepRun.touched {t : Transaction} {i : Nat} {s : Session β} {o : Outcome Unit}
    {ms : List Mark} {d : Nat → Nat} {touched : List Nat} (h : t.StepRun i s o ms d touched) :
    t.touched ⊆ touched ∧ (∀ j c n, .executed j c n ∈ ms → c ∈ touched) ∧
      (o.isOk → ∀ c ∈ touched, c ∉ t.touched → ∃ n, n ≠ 0 ∧ .executed i c n ∈ ms) := by
  -- what is said of a connection starts no step
  have noStart {c j c' n : Nat} {ms : List Mark} (hon : ∀ m ∈ ms, m.On c) :
      Mark.executed j c' n ∉ ms := fun h => hon _ h
  cases h with
  | idle => exact ⟨List.Subset.refl _, by simp, fun _ c hc hn => absurd hc hn⟩
  | unprepared => exact ⟨List.Subset.refl _, by simp, fun _ c hc hn => absurd hc hn⟩
  | refused enters touches =>
    refine ⟨touches.subset, fun j c n hm => ?_, fun ho => absurd ho Bool.false_ne_true⟩
    rcases List.mem_cons.mp hm with hm | hm
    · cases hm
    · exact absurd hm (noStart touches.on)
  | @dropped r c ms d touched enters touches =>
    have hon : ∀ m ∈ ms ++ [.interrupted c], m.On c :=
      List.forall_mem_append.mpr ⟨touches.on, List.forall_mem_singleton.mpr rfl⟩
    refine ⟨touches.subset, fun j c n hm => ?_, fun ho => absurd ho Bool.false_ne_true⟩
    rcases List.mem_cons.mp hm with hm | hm
    · cases hm
    · exact absurd hm (noStart hon)
  | @ran r c o ms ns d touched enters touches runs =>
    refine ⟨touches.subset, fun j c' n hm => ?_, fun _ c' hc hn => ?_⟩
    · -- the only start is the step's own, on the connection that it touched
      rcases List.mem_cons.mp hm with hm | hm
      · cases hm
      rcases List.mem_append.mp hm with hm | hm
      · exact absurd hm (noStart touches.on)
      rcases List.mem_cons.mp hm with hm | hm
      · cases hm
        exact touches.mem
      · exact absurd hm (noStart runs.on)
    · -- an open connection that had not been touched is now the connection of the step
      obtain ⟨rfl, hd⟩ := touches.depth_ne_zero hc hn
      exact ⟨d c', hd, by simp⟩
  | called => exact ⟨List.Subset.refl _, by simp, fun _ c hc hn => absurd hc hn⟩

/-- No step is a stub. -/
def IsPlain (t : Transaction) : Prop := ∀ step ∈ t.steps, step.IsPlain

/-- Every step is a procedure. -/
def IsStraight (t : Transaction) : Prop := ∀ step ∈ t.steps, ∃ r, step = .routine r

/-- What stays of a transaction while a step runs. -/
structure Keeps (t t' : Transaction) : Prop where
  /-- the step that runs next -/
  next : t'.next = t.next
  /-- how far it is -/
  phase : t'.phase = t.phase
  /-- how many steps there are -/
  length : t'.steps.length = t.steps.length
  /-- there are no stubs -/
  plain : t'.IsPlain
  /-- without functions every procedure stays, but for its results -/
  bare : t.IsStraight → t'.steps.map Step.bare = t.steps.map Step.bare

/-- A plain transaction keeps itself. -/
theorem Keeps.refl {t : Transaction} (h : t.IsPlain) : t.Keeps t := ⟨rfl, rfl, rfl, h, fun _ => rfl⟩

/-- A plain step in the place of another leaves a transaction plain. -/
theorem IsPlain.withStep {t : Transaction} (h : t.IsPlain) {i : Nat} {step : Step}
    (hp : step.IsPlain) : (t.withStep i step).IsPlain := by
  intro a ha
  rcases List.mem_or_eq_of_mem_set ha with ha | rfl
  · exact h a ha
  · exact hp

/-- Another state of a step keeps what a transaction is made of. -/
theorem Keeps.withStep {t : Transaction} (h : t.IsPlain) {i : Nat} {step step' : Step}
    (hi : t.steps[i]? = some step) (hp : step'.IsPlain)
    (hb : t.IsStraight → step'.bare = step.bare) :
    t.Keeps (t.withStep i step') := by
  refine ⟨rfl, rfl, List.length_set, h.withStep hp, fun hs => ?_⟩
  refine List.ext_getElem? fun j => ?_
  rw [Transaction.withStep, List.map_set, hb hs, List.getElem?_set]
  split
  case isFalse => rfl
  case isTrue hij =>
    subst hij
    rw [List.getElem?_map, hi, List.length_map, if_pos (List.getElem?_eq_some_iff.mp hi).1]
    rfl

omit [Backend β] in
/-- The watcher is seen by nobody. -/
theorem Session.leads_watcher [Backend β] (s : Session β) (token : Option Token) :
    s.Leads [] s.depth { s with watcher := token } :=
  ⟨(List.append_nil _).symm, rfl, rfl⟩

/-- **Executing a procedure as a step** leaves a mark with the depth of its connection in front of
its statements. -/
theorem executeAs_run {i c : Nat} {r r' : Routine} (hr : r.IsPlain) (hc : r.connection = some c)
    {s s' : Session β} {o : Outcome ResultSet} (h : (executeAs i c r).run s = ((o, r'), s')) :
    (∃ ns, Session.Runs c (r.statements (s.styleOf c)) o.isOk ns ∧
        s.Leads (.executed i c (s.depth c) :: ns) s.depth s') ∧
      r'.bare = r.bare := by
  rw [executeAs, Action.run_modify_bind] at h
  obtain ⟨⟨ns, hns, hl⟩, hb⟩ := Routine.execute_run hr hc h
  exact ⟨⟨ns, hns, (Session.leads_mark s _).trans hl⟩, hb⟩

/-- Watching that, it is dropped at once, or it is executed so. -/
theorem watched_executeAs_run {token : Option Token} {i c : Nat} {r r' : Routine}
    (hr : r.IsPlain) (hc : r.connection = some c) {s s' : Session β} {o : Outcome ResultSet}
    (h : (watched token r (executeAs i c r)).run s = ((o, r'), s')) :
    (o = failWith .cancelled ∧ r' = r ∧ s' = s) ∨
      (∃ ns, Session.Runs c (r.statements (s.styleOf c)) o.isOk ns ∧
          s.Leads (.executed i c (s.depth c) :: ns) s.depth s') ∧
        r'.bare = r.bare := by
  rcases watched_run h with ⟨-, hdropped⟩ | ⟨-, o₁, u, h₁, rfl, ho⟩
  · -- it was not begun
    exact .inl hdropped
  · obtain ⟨⟨ns, hns, hl⟩, hb⟩ := executeAs_run hr hc h₁
    have hw := Session.leads_watcher s token
    -- setting a watcher and taking it off leave no marks
    have hall := (hw.trans hl).trans (Session.leads_watcher u none)
    rw [hl.depth, hw.depth, List.nil_append, List.append_nil] at hall
    rw [hw.styleOf] at hns
    -- a procedure that was dropped did not succeed
    have hok : o.isOk → o₁.isOk := by
      rcases ho with ⟨-, rfl⟩ | ⟨rfl, rfl⟩
      · exact id
      · split <;> exact fun h => absurd h Bool.false_ne_true
    exact .inr ⟨⟨ns, hns.imp hok, hall⟩, hb⟩

/-- Recording succeeds where the execution did. -/
theorem isOk_record {t : Transaction} {i : Nat} {r : Routine} {o : Outcome ResultSet} :
    (t.record i r o).1.isOk = o.isOk := by
  cases o <;> rfl

/-- Recording touches nothing. -/
theorem touched_record {t : Transaction} {i : Nat} {r : Routine} {o : Outcome ResultSet} :
    (t.record i r o).2.touched = t.touched := by
  cases o <;> rfl

/-- Recording keeps what a transaction is made of. -/
theorem Keeps.record {t : Transaction} {i : Nat} {r : Routine} {touched : List Nat}
    {o : Outcome ResultSet} (h : t.Keeps (t.withStep i (.routine r))) :
    t.Keeps (({ t with touched } : Transaction).record i r o).2 := by
  cases o <;> exact ⟨rfl, rfl, h.length, h.plain, h.bare⟩

/-- What a procedure does as a step is one of the cases of `StepRun`. -/
theorem runRoutine_run {t t' : Transaction} (ht : t.IsPlain) {i : Nat} {r : Routine}
    (hi : t.steps[i]? = some (.routine r)) {s s' : Session β} {o : Outcome Unit}
    (h : (t.runRoutine i r).run s = ((o, t'), s')) :
    ∃ ms d, t.StepRun i s o ms d t'.touched ∧ s.Leads ms d s' ∧ t.Keeps t' := by
  have hr : r.IsPlain := ht _ (List.mem_of_getElem? hi)
  rw [runRoutine] at h
  rcases hc : r.connection with _ | c
  · simp only [hc] at h
    obtain ⟨h, rfl⟩ := Action.pure_eq h
    cases h
    exact ⟨[], _, .idle, .refl _, .refl ht⟩
  · simp only [hc, Action.run_modify_bind] at h
    obtain ⟨o₁, s₁, h₁, h⟩ := Action.bind_eq h
    have hp : (r.prepare.run s).1 = o₁ := by
      rw [← Routine.prepare_mark hr s (.prepared i), h₁]
    obtain rfl := Routine.prepare_run hr h₁
    have hm := Session.leads_mark s (.prepared i)
    -- what is wrong with the input shows before anything is touched
    rcases o₁ with e | ⟨⟨⟩⟩
    · obtain ⟨h, rfl⟩ := Action.pure_eq h
      cases h
      exact ⟨_, _, .unprepared, hm, .refl ht⟩
    · have he : t.Enters i s r c := ⟨hi, hc, hp⟩
      obtain ⟨⟨o₂, t₂⟩, s₂, h₂, h⟩ := Action.bind_eq h
      obtain ⟨ms, d, touched, htouch, rfl, hl⟩ := touch_run h₂
      have hl₂ := hm.trans hl
      rcases o₂ with halt | ⟨⟨⟩⟩
      · obtain ⟨h, rfl⟩ := Action.pure_eq h
        cases h
        exact ⟨_, _, .refused he htouch, hl₂, ⟨rfl, rfl, rfl, ht, fun _ => rfl⟩⟩
      · obtain ⟨⟨o₃, r'⟩, s₃, h₃, h⟩ := Action.bind_eq h
        rw [Action.run_modify_bind] at h
        obtain ⟨hrec, rfl⟩ := Action.pure_eq h
        rcases watched_executeAs_run hr hc h₃ with ⟨rfl, rfl, rfl⟩ | ⟨⟨ns, hns, hl₃⟩, hb⟩
        · cases hrec
          have hk : t.Keeps (t.withStep i (.routine r')) :=
            .withStep ht hi (ht _ (List.mem_of_getElem? hi)) fun _ => rfl
          exact ⟨_, _, .dropped he htouch, hl₂.interrupt c,
            ⟨rfl, rfl, hk.length, hk.plain, hk.bare⟩⟩
        · obtain ⟨rfl, rfl⟩ := Prod.ext_iff.mp hrec
          have hr' : (Step.routine r').IsPlain :=
            (Routine.isPlain_bare r').mp (hb ▸ (Routine.isPlain_bare r).mpr hr)
          have hk : t.Keeps (t.withStep i (.routine r')) :=
            .withStep ht hi hr' fun _ => congrArg Step.routine hb
          have hl₄ := hl₂.trans hl₃
          rw [hl₂.depth] at hl₄
          rw [hl₂.styleOf] at hns
          have hok : (({ t with touched } : Transaction).record i r' o₃).1.isOk → o₃.isOk := by
            rw [isOk_record]
            exact id
          rw [touched_record]
          by_cases hcut : isCancelled o₃
          · rw [if_pos hcut]
            have hl₅ := hl₄.interrupt c
            rw [List.append_assoc, List.cons_append] at hl₅
            exact ⟨_, d, .ran he htouch (hns.imp hok).interrupted, hl₅, hk.record⟩
          · rw [if_neg hcut]
            exact ⟨_, d, .ran he htouch (hns.imp hok), hl₄, hk.record⟩

/-- What a function does as a step is one of the cases of `StepRun`. -/
theorem runFunction_run {t t' : Transaction} (ht : t.IsPlain) {i : Nat}
    {directives : Option ResultSet → Option ProcedureInfo → List Directive}
    (hi : t.steps[i]? = some (.function directives)) {s s' : Session β} {o : Outcome Unit}
    (h : (t.runFunction i directives).run s = ((o, t'), s')) :
    ∃ ms d, t.StepRun i s o ms d t'.touched ∧ s.Leads ms d s' ∧ t.Keeps t' := by
  rw [runFunction] at h
  simp only [Action.run_modify_bind] at h
  obtain ⟨⟨o₁, n⟩, s₁, h₁, h⟩ := Action.bind_eq h
  obtain ⟨h, rfl⟩ := Action.pure_eq h
  cases h
  have hnext : ∀ n ∈ t.procedureAt? (i + 1), n.IsPlain := by
    intro n hn
    obtain ⟨step, hstep, hn⟩ := Option.bind_eq_some_iff.mp hn
    split at hn
    · cases hn
      exact ht _ (List.mem_of_getElem? hstep)
    · cases hn
  obtain ⟨hl, hn⟩ := obeyAll_run hnext h₁
  have hl' : s.Leads [.called i] s.depth s' :=
    (Session.leads_mark s _).trans ((Session.leads_see _ _).trans hl)
  -- a transaction with a function keeps its steps only as far as they are no stubs
  have hs : ¬t.IsStraight := by
    intro hs
    obtain ⟨r, hr⟩ := hs _ (List.mem_of_getElem? hi)
    cases hr
  cases n with
  | none => exact ⟨_, _, .called hi, hl', .refl ht⟩
  | some n =>
    exact ⟨_, _, .called hi, hl', ⟨rfl, rfl, List.length_set, ht.withStep (hn n rfl),
      fun h => absurd h hs⟩⟩

/-- **Running a step goes one of the six ways.** -/
theorem runStep_run {t t' : Transaction} (ht : t.IsPlain) {i : Nat} (hi : i < t.steps.length)
    {s s' : Session β} {o : Outcome Unit} (h : (t.runStep i).run s = ((o, t'), s')) :
    ∃ ms d, t.StepRun i s o ms d t'.touched ∧ s.Leads ms d s' ∧ t.Keeps t' := by
  rw [runStep, Action.run_get_bind, Action.run_ite] at h
  -- the token fired before the step: nothing is done
  by_cases hf : s.hasFired t.token
  · rw [if_pos hf] at h
    obtain ⟨h, rfl⟩ := Action.pure_eq h
    cases h
    exact ⟨[], _, .idle, .refl _, .refl ht⟩
  · rw [if_neg hf] at h
    have hstep := List.getElem?_eq_getElem hi
    rcases he : t.steps[i] with r | type | directives
    · rw [he] at hstep
      rw [hstep] at h
      exact runRoutine_run ht hstep h
    · -- a transaction as a step is refused for want of a connection
      rw [he] at hstep
      rw [hstep] at h
      obtain ⟨h, rfl⟩ := Action.pure_eq h
      cases h
      exact ⟨[], _, .idle, .refl _, .refl ht⟩
    · rw [he] at hstep
      rw [hstep] at h
      exact runFunction_run ht hstep h

/-! ## Any step -/

/-- What stays of a transaction while a step runs, be it a stub. -/
structure Stays (t t' : Transaction) : Prop where
  /-- the step that runs next -/
  next : t'.next = t.next
  /-- how far it is -/
  phase : t'.phase = t.phase
  /-- the token that ends it -/
  token : t'.token = t.token
  /-- how many steps there are -/
  length : t'.steps.length = t.steps.length
  /-- the result of the last run -/
  outcome : t'.outcome = t.outcome
  /-- what was touched, and behind it one connection at most that was not -/
  touched : t'.touched = t.touched ∨ ∃ c ∉ t.touched, t'.touched = t.touched ++ [c]

/-- A transaction stays as it is. -/
theorem Stays.refl (t : Transaction) : t.Stays t := ⟨rfl, rfl, rfl, rfl, rfl, .inl rfl⟩

/-- Another state of a step. -/
theorem stays_withStep (t : Transaction) (i : Nat) (step : Step) : t.Stays (t.withStep i step) :=
  ⟨rfl, rfl, rfl, List.length_set, rfl, .inl rfl⟩

/-- Recording changes steps and results only. -/
theorem Stays.record {t t' : Transaction} (h : t.Stays t') (i : Nat) (r : Routine)
    (o : Outcome ResultSet) : t.Stays (t'.record i r o).2 := by
  have hlength : (t'.withStep i (.routine r)).steps.length = t.steps.length :=
    List.length_set.trans h.length
  cases o <;> exact ⟨h.next, h.phase, h.token, hlength, h.outcome, h.touched⟩

/-- Touching changes what is touched only. -/
theorem touch_stays {t t' : Transaction} {c : Nat} {s s' : Session β} {o : Outcome Unit}
    (h : (t.touch c).run s = ((o, t'), s')) : t.Stays t' := by
  obtain ⟨ms, d, touched, htouch, rfl, -⟩ := touch_run h
  refine ⟨rfl, rfl, rfl, rfl, rfl, ?_⟩
  cases htouch with
  | already touched => exact .inl rfl
  | entered untouched begins => exact .inr ⟨c, untouched, rfl⟩
  | refused untouched begins => exact .inl rfl

/-- A procedure is run over its connection, unless something is in the way before. -/
theorem runRoutine_cases {t t' : Transaction} {i : Nat} {r : Routine} {s s' : Session β}
    {o : Outcome Unit} (h : (t.runRoutine i r).run s = ((o, t'), s')) :
    t' = t ∨ ∃ c o₁ t₁, ∃ s₁ s₂ : Session β, (t.touch c).run s₁ = ((o₁, t₁), s₂) ∧
      (t' = t₁ ∨ ∃ o₂ r' s₃, (watched t₁.token r (executeAs i c r)).run s₂ = ((o₂, r'), s₃) ∧
        t' = (t₁.record i r' o₂).2) := by
  rw [runRoutine] at h
  -- without a connection
  rcases hc : r.connection with _ | c
  · simp only [hc] at h
    obtain ⟨h, -⟩ := Action.pure_eq h
    cases h
    exact .inl rfl
  simp only [hc, Action.run_modify_bind] at h
  obtain ⟨o₁, s₁, -, h⟩ := Action.bind_eq h
  rcases o₁ with e | ⟨⟨⟩⟩
  · -- it could not be prepared
    obtain ⟨h, -⟩ := Action.pure_eq h
    cases h
    exact .inl rfl
  obtain ⟨⟨o₂, t₂⟩, s₂, htouch, h⟩ := Action.bind_eq h
  refine .inr ⟨c, o₂, t₂, s₁, s₂, htouch, ?_⟩
  -- it could not be touched, or it was executed
  rcases o₂ with halt | ⟨⟨⟩⟩
  · obtain ⟨h, -⟩ := Action.pure_eq h
    cases h
    exact .inl rfl
  obtain ⟨⟨o₃, r'⟩, s₃, hwatched, h⟩ := Action.bind_eq h
  rw [Action.run_modify_bind] at h
  obtain ⟨hrec, -⟩ := Action.pure_eq h
  obtain ⟨-, rfl⟩ := Prod.ext_iff.mp hrec
  exact .inr ⟨o₃, r', s₃, hwatched, rfl⟩

/-- Running a procedure leaves the phase, the outcome and the number of the next step. -/
theorem runRoutine_stays {t t' : Transaction} {i : Nat} {r : Routine} {s s' : Session β}
    {o : Outcome Unit} (h : (t.runRoutine i r).run s = ((o, t'), s')) : t.Stays t' := by
  rcases runRoutine_cases h with rfl | ⟨c, o₁, t₁, s₁, s₂, htouch, rfl | ⟨o₂, r', s₃, -, rfl⟩⟩
  · exact .refl t'
  · exact touch_stays htouch
  · exact (touch_stays htouch).record i r' o₂

/-- What a step has for a result is what its procedure has answered. -/
theorem runRoutine_results {t t' : Transaction} {i : Nat} {r : Routine} {s s' : Session β}
    {o : Outcome Unit} (h : (t.runRoutine i r).run s = ((o, t'), s')) :
    t'.results = t.results ∨ ∃ rs r', ∃ s₁ s₂ : Session β, r.execute.run s₁ = ((.ok rs, r'), s₂) ∧
      t'.results = t.results.set i (some rs) := by
  -- touching leaves all results
  have hresults {c : Nat} {o₁ : Outcome Unit} {t₁ : Transaction} {s₁ s₂ : Session β}
      (htouch : (t.touch c).run s₁ = ((o₁, t₁), s₂)) : t₁.results = t.results := by
    obtain ⟨ms, d, touched, -, rfl, -⟩ := touch_run htouch
    rfl
  rcases runRoutine_cases h with
    rfl | ⟨c, o₁, t₁, s₁, s₂, htouch, rfl | ⟨o₂ | rs, r', s₃, hwatched, rfl⟩⟩
  · exact .inl rfl
  · exact .inl (hresults htouch)
  · -- the failure is recorded, and the results are those after touching
    have hkept : t₁.results = t.results := hresults htouch
    exact .inl hkept
  · rcases watched_run hwatched with ⟨-, hcancelled, -, -⟩ | ⟨-, o, u, hrun, -, hend⟩
    · -- the procedure was not begun
      cases hcancelled
    · -- only what was answered is recorded
      rcases hend with ⟨-, rfl⟩ | ⟨rfl, hstuck⟩
      · rw [executeAs, Action.run_modify_bind] at hrun
        exact .inr ⟨rs, r', _, u, hrun, congrArg (·.set i (some rs)) (hresults htouch)⟩
      · split at hstuck <;> cases hstuck

/-- **A step changes neither the number nor the end of its transaction.** -/
theorem runStep_stays {t t' : Transaction} {i : Nat} {s s' : Session β} {o : Outcome Unit}
    (h : (t.runStep i).run s = ((o, t'), s')) : t.Stays t' := by
  rw [runStep, Action.run_get_bind, Action.run_ite] at h
  -- the token fired before the step
  split at h
  · obtain ⟨h, rfl⟩ := Action.pure_eq h
    cases h
    exact .refl t
  · rcases hi : t.steps[i]? with _ | r | type | directives
    all_goals simp only [hi] at h
    · obtain ⟨h, rfl⟩ := Action.pure_eq h
      cases h
      exact .refl t
    · exact runRoutine_stays h
    · obtain ⟨h, rfl⟩ := Action.pure_eq h
      cases h
      exact .refl t
    · simp only [runFunction, Action.run_modify_bind] at h
      obtain ⟨⟨o₁, next⟩, s₁, -, h⟩ := Action.bind_eq h
      obtain ⟨h, rfl⟩ := Action.pure_eq h
      cases h
      -- a function changes the step behind it, if there is one
      cases next with
      | none => exact .refl t
      | some step => exact stays_withStep t (i + 1) step

/-- A step changes no result but its own, and that to what its procedure answered. -/
theorem runStep_results {t t' : Transaction} {i : Nat} {s s' : Session β} {o : Outcome Unit}
    (h : (t.runStep i).run s = ((o, t'), s')) :
    t'.results = t.results ∨ ∃ r rs r', ∃ s₁ s₂ : Session β, t.steps[i]? = some (.routine r) ∧
      r.execute.run s₁ = ((.ok rs, r'), s₂) ∧ t'.results = t.results.set i (some rs) := by
  rw [runStep, Action.run_get_bind, Action.run_ite] at h
  split at h
  · obtain ⟨h, rfl⟩ := Action.pure_eq h
    cases h
    exact .inl rfl
  · rcases hi : t.steps[i]? with _ | r | type | directives
    all_goals simp only [hi] at h
    · obtain ⟨h, rfl⟩ := Action.pure_eq h
      cases h
      exact .inl rfl
    · exact (runRoutine_results h).imp id fun ⟨rs, r', s₁, s₂, hrun⟩ =>
        ⟨r, rs, r', s₁, s₂, rfl, hrun⟩
    · obtain ⟨h, rfl⟩ := Action.pure_eq h
      cases h
      exact .inl rfl
    · -- a function answers nothing
      simp only [runFunction, Action.run_modify_bind] at h
      obtain ⟨⟨o₁, next⟩, s₁, -, h⟩ := Action.bind_eq h
      obtain ⟨h, rfl⟩ := Action.pure_eq h
      cases h
      cases next <;> exact .inl rfl

end Transaction

end Tabula
