import Tabula.Procedure.Basic
import Tabula.Proofs.Session.RoundTrip

/-!
# What a procedure sends

A procedure that is no stub runs statements over one connection. Which statements those are is laid
down by its text and its input (`Routine.statements`), so that what was sent can be compared with
what should have been.

* `Routine.execute_run`: executing it runs these statements, and no depth changes.
* `Routine.bare`: it stays as it was but for its results.
* `Routine.statements_control?`: none of these statements begins or ends a transaction.
-/

namespace Tabula

/-! ## Control statements -/

/-- The control statement that a request is, if it is one. -/
def Request.control? : Request → Option Control
  | .batch sql => [Control.begin, .commit, .rollback].find? fun c => c.sql = sql
  | .sets .. => none

@[simp] theorem Request.control?_request (c : Control) : c.request.control? = some c := by
  cases c <;> decide

/-- A statement with values is none. -/
theorem Session.control?_statement {style : PlaceholderStyle} {sql : String}
    {sets : List ParameterSet} {type : QueryType} {r : Request}
    (h : Session.statement style sql sets type = .ok r) : r.control? = none := by
  rw [Session.statement] at h
  rcases hb : (NamedStatement.compile sql style).bindAll sets with e | bound
  · rw [hb] at h
    cases h
  · rw [hb] at h
    cases h
    rfl

namespace Session

variable {depth d : Nat → Nat} {c : Nat} {ms : List Mark}

/-- Entering a transaction sends nothing else. -/
theorem Begins.control? {o : Outcome Unit} (h : Begins depth c o ms d) :
    ∀ x ∈ exchanges ms, x.request.control? = some .begin := by
  intro x hx
  cases h with
  | nested open_ => cases hx
  | opened closed on sent =>
    rw [sent] at hx
    rw [List.mem_singleton.mp hx]
    exact Request.control?_request _
  | refused closed on sent =>
    rw [sent] at hx
    rw [List.mem_singleton.mp hx]
    exact Request.control?_request _
  | unsent closed on sent =>
    rw [sent] at hx
    cases hx

/-- A transaction that was entered is open. -/
theorem Begins.depth_ne_zero (h : Begins depth c (.ok ()) ms d) : d c ≠ 0 := by
  cases h with
  | nested open_ =>
    rw [Function.update_self]
    exact Nat.succ_ne_zero _
  | opened closed on sent =>
    rw [Function.update_self]
    exact Nat.one_ne_zero

end Session

variable {β : Type} [Backend β]

namespace StatementSet

/-- What each of some compiled statements asks of a backend. -/
def requests (style : PlaceholderStyle) (type : QueryType) (batches : List Batch) :
    List (Except Error Request) :=
  batches.map fun b => Session.statement style b.sql b.sets type

theorem runBatches_run {c : Nat} {type : QueryType} {batches : List Batch} {s s' : Session β}
    {o : Outcome (List ResultSet)} (h : (runBatches (some c) type batches).run s = (o, s')) :
    ∃ ms, Session.Runs c (requests (s.styleOf c) type batches) o.isOk ms ∧
      s.Leads ms s.depth s' := by
  induction batches generalizing s o with
  | nil =>
    obtain ⟨rfl, rfl⟩ := Action.pure_eq h
    exact ⟨[], ⟨by simp, List.prefix_rfl, fun _ => rfl, by simp⟩, .refl _⟩
  | cons b batches ih =>
    rw [runBatches] at h
    obtain ⟨o₁, t, h₁, h⟩ := Action.bind_eq h
    obtain ⟨ms, hms, hl⟩ := Session.execute_run h₁
    rcases o₁ with halt | sets
    · obtain ⟨rfl, rfl⟩ := Action.pure_eq h
      exact ⟨ms, hms.extend Bool.false_ne_true, hl⟩
    · obtain ⟨o₂, t', h₂, h⟩ := Action.bind_eq h
      obtain ⟨rfl, rfl⟩ := Action.pure_eq h
      obtain ⟨ns, hns, hl'⟩ := ih h₂
      rw [hl.styleOf] at hns
      rw [hl.depth] at hl'
      refine ⟨ms ++ ns, ?_, hl.trans hl'⟩
      refine (hms.imp fun _ => rfl).append (hns.imp fun hok => ?_)
      rcases o₂ with halt | sets'
      · cases hok
      · rfl

end StatementSet

/-- A combination that succeeds had something to combine. -/
theorem isOk_of_settle {o : Outcome (List ResultSet)} {c : Combination} {r : ResultSet}
    (h : settle o c = .ok r) : o.isOk := by
  rcases o with halt | sets
  · cases h
  · rfl

namespace Routine

/-- It is no stub. -/
def IsPlain : Routine → Prop
  | .stub _ => False
  | _ => True

/-- The same without results. -/
def bare : Routine → Routine
  | .query q => .query { q with results := none }
  | .prepared p => .prepared { p with results := none, resultArray := none }
  | .set s => .set { s with results := none }
  | .stub s => .stub { s with results := none }

/-- The statements that it runs, in order, each as it is bound or with what binding it fails with.
What a stub runs is laid down elsewhere. -/
def statements (style : PlaceholderStyle) : Routine → List (Except Error Request)
  | .query q => [Session.statement style q.sql [] q.type]
  | .prepared p => [Session.statement style p.sql p.sets p.type]
  | .set s =>
    match s.compile with
    | .error e => [.error e]
    | .ok batches => StatementSet.requests style s.template.queryType batches
  | .stub _ => []

theorem isPlain_bare (r : Routine) : r.bare.IsPlain ↔ r.IsPlain := by
  cases r <;> rfl

theorem connection_bare (r : Routine) : r.bare.connection = r.connection := by
  cases r <;> rfl

theorem statements_bare (style : PlaceholderStyle) (r : Routine) :
    r.bare.statements style = r.statements style := by
  cases r <;> rfl

/-- **None of its statements is a control statement.** -/
theorem statements_control? {style : PlaceholderStyle} {r : Routine} {q : Request}
    (h : .ok q ∈ r.statements style) : q.control? = none := by
  cases r with
  | query q => exact Session.control?_statement (List.mem_singleton.mp h).symm
  | prepared p => exact Session.control?_statement (List.mem_singleton.mp h).symm
  | set s =>
    rw [statements] at h
    rcases hs : s.compile with e | batches
    · rw [hs] at h
      cases List.mem_singleton.mp h
    · rw [hs] at h
      obtain ⟨b, -, hb⟩ := List.mem_map.mp h
      exact Session.control?_statement hb
  | stub s => cases h

theorem control?_of_runs {style : PlaceholderStyle} {r : Routine} {c : Nat} {p : Prop}
    {ms : List Mark} (h : Session.Runs c (r.statements style) p ms) :
    ∀ x ∈ exchanges ms, x.request.control? = none :=
  fun _ hx => statements_control? (h.sent.subset (List.mem_map_of_mem hx))

/-! ## Executing -/

theorem query_run {q : Query} {c : Nat} (hc : q.connection = some c) {s s' : Session β}
    {o : Outcome ResultSet} {q' : Query} (h : q.execute.run s = ((o, q'), s')) :
    (∃ ms, Session.Runs c ((query q).statements (s.styleOf c)) o.isOk ms ∧ s.Leads ms s.depth s') ∧
      (query q').bare = (query q).bare := by
  simp only [Query.execute, hc] at h
  obtain ⟨o₁, t, h₁, h⟩ := Action.bind_eq h
  obtain ⟨ms, hms, hl⟩ := Session.execute_run h₁
  -- the statement may have run and its result sets not go together
  rcases hs : settle o₁ q.combination with halt | r
  · rw [hs] at h
    obtain ⟨h, rfl⟩ := Action.pure_eq h
    cases h
    exact ⟨⟨ms, hms.imp fun h => absurd h Bool.false_ne_true, hl⟩, rfl⟩
  · rw [hs] at h
    obtain ⟨h, rfl⟩ := Action.pure_eq h
    cases h
    exact ⟨⟨ms, hms.imp fun _ => isOk_of_settle hs, hl⟩, by simp only [bare, hc]⟩

theorem prepared_run {p : PreparedStatement} {c : Nat} (hc : p.connection = some c)
    {s s' : Session β} {o : Outcome ResultSet} {p' : PreparedStatement}
    (h : p.execute.run s = ((o, p'), s')) :
    (∃ ms, Session.Runs c ((prepared p).statements (s.styleOf c)) o.isOk ms ∧
        s.Leads ms s.depth s') ∧
      (prepared p').bare = (prepared p).bare := by
  rw [PreparedStatement.execute] at h
  obtain ⟨⟨o₁, p₁⟩, t, h₁, h⟩ := Action.bind_eq h
  rw [PreparedStatement.executeArray] at h₁
  obtain ⟨o₂, t', h₂, h₁⟩ := Action.bind_eq h₁
  simp only [PreparedStatement.run, hc] at h₂
  obtain ⟨ms, hms, hl⟩ := Session.execute_run h₂
  -- without result sets nothing is stored
  rcases o₂ with halt | sets
  · obtain ⟨h₁, rfl⟩ := Action.pure_eq h₁
    cases h₁
    obtain ⟨h, rfl⟩ := Action.pure_eq h
    cases h
    exact ⟨⟨ms, hms, hl⟩, rfl⟩
  · obtain ⟨h₁, rfl⟩ := Action.pure_eq h₁
    cases h₁
    rcases hs : settle (.ok sets) p.combination with halt | r
    · simp only [hs] at h
      obtain ⟨h, rfl⟩ := Action.pure_eq h
      cases h
      exact ⟨⟨ms, hms.imp fun h => absurd h Bool.false_ne_true, hl⟩, rfl⟩
    · simp only [hs] at h
      obtain ⟨h, rfl⟩ := Action.pure_eq h
      cases h
      exact ⟨⟨ms, hms.imp fun _ => rfl, hl⟩, rfl⟩

theorem set_run {p : StatementSet} {c : Nat} (hc : p.connection = some c) {s s' : Session β}
    {o : Outcome ResultSet} {p' : StatementSet} (h : p.execute.run s = ((o, p'), s')) :
    (∃ ms, Session.Runs c ((set p).statements (s.styleOf c)) o.isOk ms ∧ s.Leads ms s.depth s') ∧
      (set p').bare = (set p).bare := by
  rw [StatementSet.execute] at h
  rcases hb : p.compile with e | batches
  · rw [hb] at h
    obtain ⟨h, rfl⟩ := Action.pure_eq h
    cases h
    exact ⟨⟨[], .none Bool.false_ne_true, .refl _⟩, rfl⟩
  · simp only [hb, hc] at h
    obtain ⟨o₁, t, h₁, h⟩ := Action.bind_eq h
    obtain ⟨ms, hms, hl⟩ := StatementSet.runBatches_run h₁
    have hst : (set p).statements (s.styleOf c) =
        StatementSet.requests (s.styleOf c) p.template.queryType batches := by
      rw [statements, hb]
    rw [hst]
    rcases hs : settle o₁ p.combination with halt | r
    · rw [hs] at h
      obtain ⟨h, rfl⟩ := Action.pure_eq h
      cases h
      exact ⟨⟨ms, hms.imp fun h => absurd h Bool.false_ne_true, hl⟩, rfl⟩
    · rw [hs] at h
      obtain ⟨h, rfl⟩ := Action.pure_eq h
      cases h
      exact ⟨⟨ms, hms.imp fun _ => isOk_of_settle hs, hl⟩, by simp only [bare, hc]⟩

/-- **Executing a procedure runs its statements** over its connection; the depths stay, and so does
the procedure but for its results. -/
theorem execute_run {r r' : Routine} {c : Nat} (hr : r.IsPlain) (hc : r.connection = some c)
    {s s' : Session β} {o : Outcome ResultSet} (h : r.execute.run s = ((o, r'), s')) :
    (∃ ms, Session.Runs c (r.statements (s.styleOf c)) o.isOk ms ∧ s.Leads ms s.depth s') ∧
      r'.bare = r.bare := by
  cases r with
  | query q =>
    obtain ⟨⟨o₁, q'⟩, t, h₁, h⟩ := Action.bind_eq h
    obtain ⟨h, rfl⟩ := Action.pure_eq h
    cases h
    exact query_run hc h₁
  | prepared p =>
    obtain ⟨⟨o₁, p'⟩, t, h₁, h⟩ := Action.bind_eq h
    obtain ⟨h, rfl⟩ := Action.pure_eq h
    cases h
    exact prepared_run hc h₁
  | set p =>
    obtain ⟨⟨o₁, p'⟩, t, h₁, h⟩ := Action.bind_eq h
    obtain ⟨h, rfl⟩ := Action.pure_eq h
    cases h
    exact set_run hc h₁
  | stub s => exact hr.elim

/-! ## Preparing -/

/-- Preparing a procedure changes nothing. -/
theorem prepare_run {r : Routine} (hr : r.IsPlain) {s s' : Session β} {o : Except Error Unit}
    (h : r.prepare.run s = (o, s')) : s' = s := by
  cases r with
  | query q => exact (Action.pure_eq h).2
  | prepared p =>
    rw [prepare, PreparedStatement.prepare, Action.run_get_bind] at h
    split at h
    · exact (Action.pure_eq h).2
    · exact (Action.pure_eq h).2
  | set p => exact (Action.pure_eq h).2
  | stub s => exact hr.elim

/-- Whether a procedure can be prepared is no matter of the trace. -/
theorem prepare_mark {r : Routine} (hr : r.IsPlain) (s : Session β) (m : Mark) :
    (r.prepare.run (s.mark m)).1 = (r.prepare.run s).1 := by
  cases r with
  | query q => rfl
  | prepared p =>
    have he : (s.mark m).engine? = s.engine? := rfl
    rw [prepare, PreparedStatement.prepare, Action.run_get_bind, Action.run_get_bind, he]
    split <;> rfl
  | set p => rfl
  | stub s => exact hr.elim

end Routine

end Tabula
