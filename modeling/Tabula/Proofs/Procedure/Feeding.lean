import Tabula.Proofs.Criteria.Flattening
import Tabula.Proofs.Procedure.Statements

/-!
# What feeding does

A prepared statement and a template hold their input until they are executed. Criteria that are fed
come behind what is there, and one that is refused leaves the ones before it there. So after feeding
and executing, however that goes, the statement is the same but for its input.

* `Routine.emptied`, `Routine.filled`: a statement without input, and with more of it.
* `Routine.feed_run`: feeding does nothing but what `filled` says.
* `Routine.execute_sends`: executing sends what the statement and its input say.
-/

namespace Tabula.Routine

variable {r r' : Routine} {cs : List Criterion}

/-- It is a prepared statement or a template, which hold input. -/
def HoldsInput : Routine → Prop
  | .prepared _ | .set _ => True
  | .query _ | .stub _ => False

/-- The same without input and results. -/
def emptied : Routine → Routine
  | .prepared p => .prepared p.clear
  | .set s => .set s.clear
  | r => r.bare

/-- The same with criteria behind its input, or with what the first one that is refused is refused
with. -/
def filled (cs : List Criterion) : Routine → Except Error Routine
  | .prepared p => (fun sets => .prepared { p with sets := p.sets ++ sets }) <$>
      cs.mapM Criterion.toParameterSet
  | .set s => .ok (.set { s with criteria := s.criteria ++ cs })
  | _ => .error noInput

theorem HoldsInput.isPlain (h : r.HoldsInput) : r.IsPlain := by
  cases r with
  | query q => trivial
  | prepared p => trivial
  | set s => trivial
  | stub s => exact h

theorem holdsInput_emptied : r.emptied.HoldsInput ↔ r.HoldsInput := by
  cases r <;> rfl

theorem emptied_emptied (r : Routine) : r.emptied.emptied = r.emptied := by
  cases r <;> rfl

theorem emptied_of_bare (h : r'.bare = r.bare) : r'.emptied = r.emptied := by
  have hbare (r : Routine) : r.bare.emptied = r.emptied := by cases r <;> rfl
  rw [← hbare r', h, hbare]

theorem filled_nil (h : r.HoldsInput) : r.filled [] = .ok r := by
  cases r with
  | query q => exact h.elim
  | prepared p =>
    change Except.ok (prepared { p with sets := p.sets ++ [] }) = _
    rw [List.append_nil]
  | set s =>
    rw [filled, List.append_nil]
  | stub s => exact h.elim

/-- It can be filled with as many criteria at once as one after the other. -/
theorem filled_cons {p : PreparedStatement} {c : Criterion} {set : ParameterSet}
    (h : c.toParameterSet = .ok set) (cs : List Criterion) :
    (prepared p).filled (c :: cs) = (prepared (p.addParameters set)).filled cs := by
  rw [filled, List.mapM_cons, h, filled, PreparedStatement.addParameters]
  change Functor.map _ ((cs.mapM Criterion.toParameterSet) >>= fun sets => pure (set :: sets)) = _
  cases cs.mapM Criterion.toParameterSet with
  | error e => rfl
  | ok sets =>
    change Except.ok (prepared _) = Except.ok (prepared _)
    rw [List.append_assoc, List.singleton_append]

variable {β : Type}

theorem run_clear (h : r.HoldsInput) (s : Session β) : r.clear.run s = (r.emptied, s) := by
  cases r with
  | query q => exact h.elim
  | prepared p => rfl
  | set t => rfl
  | stub t => exact h.elim

/-- **Feeding fills a statement**, and nothing is done in the session. Whether or not all criteria
are taken, the statement is the same but for its input. -/
theorem feed_run (h : r.HoldsInput) (cs : List Criterion) (s : Session β) :
    ∃ r', (r.feed cs).run s = (((fun _ => ()) <$> r.filled cs, r'), s) ∧ r'.emptied = r.emptied ∧
      ∀ q, r.filled cs = .ok q → r' = q := by
  have hfeed : r.feed cs = (r.feedAll cs : Action β _) := by
    cases r with
    | query q => exact h.elim
    | prepared p => rfl
    | set t => rfl
    | stub t => exact h.elim
  rw [hfeed]
  clear hfeed
  induction cs generalizing r with
  | nil =>
    refine ⟨r, ?_, rfl, fun q hq => ?_⟩
    · cases r with
      | query q => exact h.elim
      | prepared p => rfl
      | set t => rfl
      | stub t => exact h.elim
    · rw [filled_nil h] at hq
      exact Except.ok.inj hq
  | cons c cs ih =>
    cases r with
    | query q => exact h.elim
    | prepared p =>
      rcases hset : c.toParameterSet with e | set
      · have hfilled : (prepared p).filled (c :: cs) = .error e := by
          rw [filled, List.mapM_cons, hset]
          rfl
        refine ⟨prepared p, ?_, rfl, fun q hq => by rw [hfilled] at hq; cases hq⟩
        rw [hfilled, feedAll, feedOne]
        simp only [inputKind, hset]
        rfl
      · obtain ⟨r', hrun, hemptied, hall⟩ := ih (r := prepared (p.addParameters set)) trivial
        refine ⟨r', ?_, hemptied, fun q hq => hall q (filled_cons hset cs ▸ hq)⟩
        rw [filled_cons hset, ← hrun, feedAll, feedOne]
        simp only [inputKind, hset]
        rfl
    | set t =>
      obtain ⟨r', hrun, hemptied, hall⟩ := ih (r := .set (t.addCriterion c)) trivial
      have hfilled : (set t).filled (c :: cs) = (set (t.addCriterion c)).filled cs := by
        rw [filled, filled, StatementSet.addCriterion, List.append_assoc, List.singleton_append]
      refine ⟨r', ?_, hemptied, fun q hq => hall q (hfilled ▸ hq)⟩
      rw [hfilled, ← hrun]
      rfl
    | stub t => exact h.elim

/-! ## Executing what was fed -/

variable [Backend β]

/-- What executing a procedure sends: its statements over its connection, and nothing without
one. -/
inductive Sends (r : Routine) (s : Session β) (o : Outcome ResultSet) : Session β → Prop
  /-- it has no connection -/
  | nowhere (hc : r.connection = none) : Sends r s o s
  /-- it has one -/
  | over {c : Nat} {ms : List Mark} {s' : Session β} (hc : r.connection = some c)
    (hruns : Session.Runs c (r.statements (s.styleOf c)) o.isOk ms)
    (hleads : s.Leads ms s.depth s') : Sends r s o s'

theorem execute_unbound (h : r.HoldsInput) (hc : r.connection = none) {s s' : Session β}
    {o : Outcome ResultSet} (hrun : r.execute.run s = ((o, r'), s')) :
    s' = s ∧ r'.emptied = r.emptied := by
  cases r with
  | query q => exact h.elim
  | prepared p =>
    have hexecute : p.execute.run s = ((failWith unbound, p), s) := by
      have hunbound : p.run = (return failWith unbound : Action β _) := by
        rw [PreparedStatement.run, show p.connection = none from hc]
      rw [PreparedStatement.execute, PreparedStatement.executeArray, hunbound]
      rfl
    rw [execute, Action.run_bind _ hexecute] at hrun
    obtain ⟨hrun, rfl⟩ := Action.pure_eq hrun
    cases hrun
    exact ⟨rfl, rfl⟩
  | set t =>
    obtain ⟨⟨o₁, t'⟩, u, hexecute, hrun⟩ := Action.bind_eq hrun
    obtain ⟨hrun, rfl⟩ := Action.pure_eq hrun
    cases hrun
    rw [StatementSet.execute] at hexecute
    rcases hcompile : t.compile with e | batches
    · rw [hcompile] at hexecute
      obtain ⟨hexecute, rfl⟩ := Action.pure_eq hexecute
      cases hexecute
      exact ⟨rfl, rfl⟩
    · rw [hcompile] at hexecute
      obtain ⟨o₂, v, hbatches, hexecute⟩ := Action.bind_eq hexecute
      have hv : v = s := by
        rw [show t.connection = none from hc] at hbatches
        cases batches <;> exact (Action.pure_eq hbatches).2
      rcases hsettle : settle o₂ t.combination with halt | rows
      · rw [hsettle] at hexecute
        obtain ⟨hexecute, rfl⟩ := Action.pure_eq hexecute
        cases hexecute
        exact ⟨hv, rfl⟩
      · rw [hsettle] at hexecute
        obtain ⟨hexecute, rfl⟩ := Action.pure_eq hexecute
        cases hexecute
        exact ⟨hv, rfl⟩
  | stub t => exact h.elim

/-- **Executing sends what the statement and its input say**, and whatever comes of it, the
statement is the same but for its input. -/
theorem execute_sends (h : r.HoldsInput) {s s' : Session β} {o : Outcome ResultSet}
    (hrun : r.execute.run s = ((o, r'), s')) : r.Sends s o s' ∧ r'.emptied = r.emptied := by
  rcases hc : r.connection with _ | c
  · obtain ⟨rfl, hemptied⟩ := execute_unbound h hc hrun
    exact ⟨.nowhere hc, hemptied⟩
  · obtain ⟨⟨ms, hruns, hleads⟩, hbare⟩ := execute_run h.isPlain hc hrun
    exact ⟨.over hc hruns hleads, emptied_of_bare hbare⟩

end Tabula.Routine
