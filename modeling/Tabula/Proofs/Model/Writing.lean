import Tabula.Proofs.Model.State
import Tabula.Proofs.Model.Synchronize
import Tabula.Proofs.Procedure.Feeding

/-!
# What a write sends

A write clears its procedure, feeds it and executes it. Whatever was done with a model before, its
procedures are those that it had in the beginning but for their input, and that is cleared away. So
a write is the execution of a copy that was empty before it was fed with the rows of this write.

* `WritesOwn`: the ways in which a copy that was empty is fed and executed.
* `Becomes.sameWriters`: no call changes more of a procedure than its input.
* `Becomes.writes_own`: every write of a model is one of these ways.
-/

namespace Tabula

/-! ## Procedures without their input -/

namespace Procedure

/-- It is a statement that holds input. -/
def HoldsInput : Procedure → Prop
  | .routine r => r.HoldsInput
  | .transaction _ => False

/-- The same without input. -/
def emptied : Procedure → Procedure
  | .routine r => .routine r.emptied
  | .transaction t => .transaction t

theorem holdsInput_emptied {p : Procedure} : p.emptied.HoldsInput ↔ p.HoldsInput := by
  cases p with
  | routine r => exact Routine.holdsInput_emptied
  | transaction t => rfl

theorem HoldsInput.exists_routine {p : Procedure} (h : p.HoldsInput) :
    ∃ r, p = .routine r ∧ r.HoldsInput := by
  cases p with
  | routine r => exact ⟨r, rfl, h⟩
  | transaction t => exact h.elim

theorem HoldsInput.input_ne {p : Procedure} (h : p.HoldsInput) : p.info.input ≠ .none := by
  obtain ⟨r, rfl, hr⟩ := h.exists_routine
  cases r with
  | query q => exact hr.elim
  | prepared p => exact nofun
  | set s => exact nofun
  | stub s => exact hr.elim

end Procedure

namespace Model

variable {β : Type} [Backend β]

/-! ## One procedure -/

/-- The ways in which rows are written through a copy of a procedure that was empty before. -/
inductive WritesOwn (writer : Option Procedure) (rows : List Criterion) (s : Session β) :
    Outcome ResultSet → Session β → Prop
  /-- there is no procedure, and nothing is sent -/
  | absent (hwriter : writer = none) : WritesOwn writer rows s (.ok {}) s
  /-- one of the rows is refused, and nothing is sent -/
  | refused {r : Routine} {e : Error} (hwriter : writer = some (.routine r))
    (hfilled : r.emptied.filled rows = .error e) : WritesOwn writer rows s (failWith e) s
  /-- the copy, which has these rows for its input, is executed, and sends its statements -/
  | executed {r q q' : Routine} {o : Outcome ResultSet} {s' : Session β}
    (hwriter : writer = some (.routine r)) (hfilled : r.emptied.filled rows = .ok q)
    (hrun : q.execute.run s = ((o, q'), s')) (hsends : q.Sends s o s') :
    WritesOwn writer rows s o s'

/-- It is no matter what input the procedure had. -/
theorem WritesOwn.congr {writer other : Option Procedure} {rows : List Criterion}
    {s s' : Session β} {o : Outcome ResultSet} (h : WritesOwn writer rows s o s')
    (heq : writer.map Procedure.emptied = other.map Procedure.emptied) :
    WritesOwn other rows s o s' := by
  -- a writer that is the same when it is empty runs on one connection too
  have hroutine {r : Routine} (hwriter : writer = some (.routine r)) :
      ∃ r', other = some (.routine r') ∧ r'.emptied = r.emptied := by
    obtain ⟨p, rfl, hp⟩ := Option.map_eq_some_iff.mp (heq.symm.trans (congrArg _ hwriter))
    cases p with
    | routine r' => exact ⟨r', rfl, Procedure.routine.inj hp⟩
    | transaction t => cases hp
  cases h with
  | absent hwriter =>
    refine .absent ?_
    rw [hwriter] at heq
    exact Option.map_eq_none_iff.mp heq.symm
  | refused hwriter hfilled =>
    obtain ⟨r', hother, hempty⟩ := hroutine hwriter
    exact .refused hother (hempty ▸ hfilled)
  | executed hwriter hfilled hrun hsends =>
    obtain ⟨r', hother, hempty⟩ := hroutine hwriter
    exact .executed hother (hempty ▸ hfilled) hrun hsends

/-- **To clear a procedure, feed and execute it is to feed and execute a copy that was empty.** -/
theorem runWriter_own {p p' : Procedure} {rows : List Criterion} {s s' : Session β}
    {o : Outcome ResultSet} (hp : p.HoldsInput) (h : (runWriter p rows).run s = ((o, p'), s')) :
    WritesOwn (some p) rows s o s' ∧ p'.emptied = p.emptied := by
  obtain ⟨r, rfl, hr⟩ := hp.exists_routine
  have hempty := Routine.holdsInput_emptied.mpr hr
  obtain ⟨q, hfeed, hemptied, hfilled⟩ := Routine.feed_run hempty rows s
  -- the writer is emptied, fed, and executed if all rows were taken
  have hclear : (Procedure.clear (.routine r)).run s = (.routine r.emptied, s) := by
    rw [Procedure.clear, Action.run_bind _ (Routine.run_clear hr s)]
    rfl
  have hfeed : (Procedure.feed rows (.routine r.emptied)).run s =
      (((fun _ => ()) <$> r.emptied.filled rows, .routine q), s) := by
    rw [Procedure.feed, Action.run_bind _ hfeed]
    rfl
  rw [Routine.emptied_emptied] at hemptied
  rw [runWriter, Action.run_bind _ hclear, Action.run_bind _ hfeed] at h
  -- a row was refused, so the statement is not run
  rcases hrows : r.emptied.filled rows with e | q'
  · rw [hrows] at h
    obtain ⟨h, rfl⟩ := Action.pure_eq h
    cases h
    exact ⟨.refused rfl hrows, congrArg Procedure.routine hemptied⟩
  · -- all rows were taken, and the statement runs for them
    obtain rfl := hfilled q' hrows
    rw [hrows] at h
    obtain ⟨⟨o₁, q'⟩, t, hexecute, h⟩ := Action.bind_eq h
    obtain ⟨h, rfl⟩ := Action.pure_eq h
    cases h
    have hq : q.HoldsInput := Routine.holdsInput_emptied.mp (hemptied ▸ hempty)
    obtain ⟨hsends, hafter⟩ := Routine.execute_sends hq hexecute
    exact ⟨.executed rfl hrows hexecute hsends, congrArg Procedure.routine (hafter.trans hemptied)⟩

/-! ## Any number of calls -/

/-- The procedures that write are the same but for their input. -/
def SameWriters (m m' : Model) : Prop :=
  ∀ kind, (m'.writer? kind).map Procedure.emptied = (m.writer? kind).map Procedure.emptied

/-- The procedures that write, as many as there are, are statements that hold input. -/
def HoldsInput (m : Model) : Prop := ∀ kind p, m.writer? kind = some p → p.HoldsInput

variable {m m₀ m' : Model} {s s' : Session β} {es : List (Episode β)}

omit [Backend β] in
theorem SameWriters.refl (m : Model) : SameWriters m m := fun _ => rfl

theorem SameWriters.trans {m m' m'' : Model} (h : SameWriters m m') (h' : SameWriters m' m'') :
    SameWriters m m'' := fun kind => (h' kind).trans (h kind)

theorem SameWriters.holdsInput (h : SameWriters m m') (hm : m.HoldsInput) : m'.HoldsInput := by
  intro kind p hp
  have heq := (h kind).symm.trans (congrArg _ hp)
  obtain ⟨p', hp', hempty⟩ := Option.map_eq_some_iff.mp heq
  rw [← Procedure.holdsInput_emptied, ← hempty, Procedure.holdsInput_emptied]
  exact hm kind p' hp'

theorem sameWriters_of_writer? (h : ∀ kind, m'.writer? kind = m.writer? kind) :
    SameWriters m m' := fun kind => congrArg _ (h kind)

/-- Neither the state nor whether fetching is delayed is a matter of the procedures. -/
theorem sameWriters_with (m : Model) (delaySelect : Bool) (state : ModelState) :
    SameWriters m { m with delaySelect, state } :=
  sameWriters_of_writer? fun kind => by cases kind <;> rfl

theorem sameWriters_withWriter {kind : WriteKind} {p p' : Procedure}
    (hwriter : m.writer? kind = some p) (h : p'.emptied = p.emptied) :
    SameWriters m (m.withWriter p' kind) := by
  intro k
  by_cases hk : k = kind
  · subst hk
    have hown : (m.withWriter p' k).writer? k = some p' := by cases k <;> rfl
    rw [hown, hwriter, Option.map_some, Option.map_some, h]
  · rw [(sameButWriter_withWriter kind m p').others k hk]

theorem AfterRun.sameWriters {r : ResultSet} {o : Outcome ResultSet}
    (h : AfterRun m r s o es m' s') : SameWriters m m' := by
  have hwritten : SameWriters m m.written := by
    rw [written]
    split
    · exact .refl m
    · exact sameWriters_with m m.delaySelect .dirty
  cases h with
  | delayed => exact hwritten
  | fetch hdelay hfetch => exact hwritten.trans (sameWriters_of_writer? hfetch.writer?)

theorem WriteRun.sameWriters {kind : WriteKind} {rows : List Criterion} {o : Outcome ResultSet}
    (h : WriteRun m kind rows s o es m' s') (hm : m.HoldsInput) : SameWriters m m' := by
  cases h with
  | nothing => exact .refl m
  | absent hrows hwriter hafter => exact hafter.sameWriters
  | refused => exact .refl m
  | failed hrows hwriter hinput hrun =>
    exact sameWriters_withWriter hwriter (runWriter_own (hm kind _ hwriter) hrun).2
  | done hrows hwriter hinput hrun hafter =>
    have hown := runWriter_own (hm kind _ hwriter) hrun
    exact (sameWriters_withWriter hwriter hown.2).trans hafter.sameWriters

theorem WriteAllRun.sameWriters {writes : List (WriteKind × List Criterion)} {o : Outcome Unit}
    (h : WriteAllRun writes m s o es m' s') (hm : m.HoldsInput) : SameWriters m m' := by
  induction h with
  | nil => exact .refl _
  | failed hfirst => exact hfirst.sameWriters hm
  | cons hfirst hrest ih =>
    have hsame := hfirst.sameWriters hm
    exact hsame.trans (ih (hsame.holdsInput hm))

theorem SynchronizeRun.sameWriters {d : Diff} {o : Outcome RowChanges}
    (h : SynchronizeRun m d s o es m' s') (hm : m.HoldsInput) : SameWriters m m' := by
  have hstart : SameWriters m m.synchronizing := sameWriters_with m true .synchronizing
  cases h with
  | unwritten hwrites =>
    have hsame := hstart.trans (hwrites.sameWriters (hstart.holdsInput hm))
    exact hsame.trans (sameWriters_with _ m.delaySelect .dirty)
  | @unfetched h es es' m₁ m' s₁ s' hwrites hfetch =>
    have hsame := hstart.trans (hwrites.sameWriters (hstart.holdsInput hm))
    have hrestored := hsame.trans (sameWriters_with m₁ m.delaySelect m₁.state)
    exact hrestored.trans (sameWriters_of_writer? hfetch.writer?)
  | @done changes es es' m₁ m' s₁ s' hwrites hfetch =>
    have hsame := hstart.trans (hwrites.sameWriters (hstart.holdsInput hm))
    have hrestored := hsame.trans (sameWriters_with m₁ m.delaySelect m₁.state)
    exact hrestored.trans (sameWriters_of_writer? hfetch.writer?)

/-- **No call changes more of a procedure than its input.** -/
theorem CallRun.sameWriters {call : Call} {o : Outcome Unit} (h : CallRun m s call o es m' s')
    (hm : m.HoldsInput) : SameWriters m m' := by
  cases h with
  | select h => exact sameWriters_of_writer? h.writer?
  | write h => exact h.sameWriters hm
  | synchronize h => exact h.sameWriters hm
  | sorted h =>
    rw [sort] at h
    split at h
    · cases h
    · cases h
      exact sameWriters_of_writer? fun kind => by cases kind <;> rfl
  | unsorted h => exact .refl m
  | delay => exact sameWriters_with m _ m.state

/-- A model after some calls, whatever came of them, each in a session of its own. -/
inductive Becomes (β : Type) [Backend β] (m₀ : Model) : Model → Prop
  /-- nothing was called -/
  | refl : Becomes β m₀ m₀
  /-- one more was called -/
  | called {m m' : Model} {call : Call} {s s' : Session β} {o : Outcome Unit}
    (h : Becomes β m₀ m) (hrun : (m.perform call).run s = ((o, m'), s')) : Becomes β m₀ m'

theorem Becomes.sameWriters (h : Becomes β m₀ m) (hm : m₀.HoldsInput) : SameWriters m₀ m := by
  induction h with
  | refl => exact .refl m₀
  | called h hrun ih =>
    obtain ⟨es, hcall⟩ := perform_run hrun
    exact ih.trans (hcall.sameWriters (ih.holdsInput hm))

/-! ## What writes send -/

theorem FetchRun.select {diff : Bool} {o : Outcome RowChanges}
    (h : FetchRun m diff s o es m' s') : ∃ r, m.select.execute.run s = ((r, m'.select), s') := by
  cases h with
  | failed hrun => exact ⟨_, hrun⟩
  | fetched hrun hrows =>
    cases diff <;>
    · cases hrows
      exact ⟨_, hrun⟩

theorem AfterRun.select {r : ResultSet} {o : Outcome ResultSet} (h : AfterRun m r s o es m' s') :
    o = .ok r ∧ s' = s ∨ ∃ r, m.select.execute.run s = ((r, m'.select), s') := by
  cases h with
  | delayed => exact .inl ⟨rfl, rfl⟩
  | fetch hdelay hfetch =>
    rw [← (sameButWriter_written .update m).select]
    exact .inr hfetch.select

/-- A write sends what its rows make of its procedure, and then the rows may be asked for. -/
theorem WriteRun.own {kind : WriteKind} {rows : List Criterion} {o : Outcome ResultSet}
    (h : WriteRun m kind rows s o es m' s') (hm : ∀ p, m.writer? kind = some p → p.HoldsInput)
    (hrows : rows ≠ []) : ∃ written t, WritesOwn (m.writer? kind) rows s written t ∧
      (o = written ∧ s' = t ∨
        written.isOk ∧ ∃ r, m.select.execute.run t = ((r, m'.select), s')) := by
  cases h with
  | nothing hempty => exact absurd hempty hrows
  -- nothing writes, and what follows is a fetch at most
  | absent _ hwriter hafter =>
    exact ⟨_, s, .absent hwriter, hafter.select.imp id fun hselect => ⟨rfl, hselect⟩⟩
  -- a writer that holds input takes some
  | refused _ hwriter hinput => exact absurd hinput (hm _ hwriter).input_ne
  | failed _ hwriter _ hrun =>
    rw [hwriter]
    exact ⟨_, _, (runWriter_own (hm _ hwriter) hrun).1, .inl ⟨rfl, rfl⟩⟩
  -- the writer wrote, and what follows executes the procedure that fetches
  | @done p p' r o es m' t s' _ hwriter _ hrun hafter =>
    have hselect := hafter.select
    rw [(sameButWriter_withWriter kind m p').select] at hselect
    rw [hwriter]
    exact ⟨_, t, (runWriter_own (hm _ hwriter) hrun).1,
      hselect.imp id fun hselect => ⟨rfl, hselect⟩⟩

/-- So does an attempt of a synchronization. -/
theorem Attempt.Of.own {a : Attempt β} (h : a.Of m.writer?) (hm : m.HoldsInput) :
    WritesOwn (m.writer? a.kind) a.rows a.before a.outcome a.after := by
  cases h with
  | absent hwriter => exact .absent hwriter
  | refused hwriter hinput => exact absurd hinput (hm _ _ hwriter).input_ne
  | @unfed kind rows s s₁ s' p p₁ p' e hwriter hinput hclear hfeed =>
    have hrun : (runWriter p rows).run s = ((failWith e, p'), s') := by
      rw [runWriter, Action.run_bind _ hclear, Action.run_bind _ hfeed]
      rfl
    exact hwriter ▸ (runWriter_own (hm kind p hwriter) hrun).1
  | @executed kind rows s s₁ s₂ s' p p₁ p₂ p' o hwriter hinput hclear hfeed hrun =>
    have hrun : (runWriter p rows).run s = ((o, p'), s') := by
      rw [runWriter, Action.run_bind _ hclear, Action.run_bind _ hfeed]
      exact hrun
    exact hwriter ▸ (runWriter_own (hm kind p hwriter) hrun).1

/-- **A write sends its own rows only.** Whatever was called on a model before and whatever came of
it, a write of no rows does nothing; any other one sends what a copy of its procedure that was empty
sends when it is fed with its rows, or nothing if one of them is refused, and behind a success the
rows may be asked for. Every write that a synchronization tries does the same, and nothing comes
between them. -/
theorem Becomes.writes_own (h : Becomes β m₀ m) (hm : m₀.HoldsInput) (s : Session β) :
    (∀ kind, (m.write kind []).run s = ((.ok {}, m), s)) ∧
    (∀ kind rows o m' s', rows ≠ [] → (m.write kind rows).run s = ((o, m'), s') →
      ∃ written t, WritesOwn (m₀.writer? kind) rows s written t ∧
        (o = written ∧ s' = t ∨
          written.isOk ∧ ∃ r, m.select.execute.run t = ((r, m'.select), s'))) ∧
    ∀ d o m' s', (m.synchronize d).run s = ((o, m'), s') →
      ∃ written as t, Attempts m.writer? (writesOf d) s written as t ∧
        (∀ a ∈ as, WritesOwn (m₀.writer? a.kind) a.rows a.before a.outcome a.after) ∧
        (s' = t ∨ written.isOk ∧ ∃ r, m.select.execute.run t = ((r, m'.select), s')) := by
  have hsame := h.sameWriters hm
  have hinput := hsame.holdsInput hm
  refine ⟨fun _ => rfl, ?_, ?_⟩
  · -- a write on its own
    intro kind rows o m' s' hrows hrun
    obtain ⟨es, hwrite⟩ := write_run hrun
    obtain ⟨written, t, hown, hafter⟩ := hwrite.own (hinput kind) hrows
    exact ⟨written, t, hown.congr (hsame kind), hafter⟩
  · intro d o m' s' hrun
    -- the attempts of a synchronization are writes on their own, each behind those before it
    have hown {a : Attempt β} {written : Outcome Unit} {as : List (Attempt β)} {t : Session β}
        (has : Attempts m.writer? (writesOf d) s written as t) (ha : a ∈ as) :
        WritesOwn (m₀.writer? a.kind) a.rows a.before a.outcome a.after :=
      ((has.own a ha).own hinput).congr (hsame a.kind)
    obtain ⟨es, hsync⟩ := synchronize_run hrun
    cases hsync with
    -- a write failed, so nothing is fetched
    | unwritten hwrites =>
      obtain ⟨⟨as, has⟩, -, -⟩ := hwrites.attempts rfl (nodup_writesOf d)
      exact ⟨_, as, s', has, fun a ha => hown has ha, .inl rfl⟩
    -- the fetch failed
    | @unfetched h es es' m₁ m' s₁ s' hwrites hfetch =>
      obtain ⟨⟨as, has⟩, -, hselect⟩ := hwrites.attempts rfl (nodup_writesOf d)
      have hselect : m₁.select = m.select := hselect
      exact ⟨_, as, s₁, has, fun a ha => hown has ha, .inr ⟨rfl, hselect ▸ hfetch.select⟩⟩
    | @done changes es es' m₁ m' s₁ s' hwrites hfetch =>
      obtain ⟨⟨as, has⟩, -, hselect⟩ := hwrites.attempts rfl (nodup_writesOf d)
      have hselect : m₁.select = m.select := hselect
      exact ⟨_, as, s₁, has, fun a ha => hown has ha, .inr ⟨rfl, hselect ▸ hfetch.select⟩⟩

/-- A row of the table. -/
def numbered (n : Int64) : Criterion :=
  (({} : Criterion).withValue "id" (.int n)).withValue "n" (.int n)

/-- A model of the table whose procedure has a row already when it is configured. -/
def queuing : Model :=
  { tabled with insert := some (.routine (.prepared
      { connection := some 0, sql := "INSERT INTO t (id, n) VALUES (:id, :n)", type := .insert,
        sets := [(numbered 1).values] })) }

/-- A write that is refused at its second row. -/
def halfFed : (Outcome Unit × Model) × Session Sqlite.Memory :=
  (queuing.perform (.write .insert [numbered 2, ({} : Criterion).orElse.orElse])).run connected

/-- Neither the row of the configuration nor the one that was fed is there behind the next write. -/
theorem Becomes.writes_own_queuing : queuing.HoldsInput ∧ hasFailed halfFed.1.1 ∧
    ∃ o m' s', (halfFed.1.2.write .insert [numbered 3]).run halfFed.2 = ((o, m'), s') ∧
      rowCounts halfFed.2.backends = [[0]] ∧ rowCounts s'.backends = [[1]] ∧
      ∃ written t, WritesOwn (queuing.writer? .insert) [numbered 3] halfFed.2 written t ∧
        (o = written ∧ s' = t ∨
          written.isOk ∧ ∃ r, halfFed.1.2.select.execute.run t = ((r, m'.select), s')) := by
  have hinput : queuing.HoldsInput := by
    intro kind p hp
    cases kind <;> cases hp
    trivial
  have hcalled : Becomes Sqlite.Memory queuing halfFed.1.2 :=
    .called .refl (run_of_answer (a := halfFed.1.1) rfl)
  have hrun := run_of_answer (a := ((halfFed.1.2.write .insert [numbered 3]).run halfFed.2).1.1) rfl
  obtain ⟨-, hwrite, -⟩ := hcalled.writes_own hinput halfFed.2
  exact ⟨hinput, by decide +kernel, _, _, _, hrun, by decide +kernel, by decide +kernel,
    hwrite .insert [numbered 3] _ _ _ (List.cons_ne_nil _ _) hrun⟩

/-! ## Rows as sets of parameters -/

/-- Written through a prepared statement, rows are the sets of an execution, or one of them is
refused. -/
theorem WritesOwn.of_prepared {p : PreparedStatement} {rows : List Criterion}
    {o : Outcome ResultSet} (h : WritesOwn (some (.routine (.prepared p))) rows s o s') :
    (∃ e, rows.mapM Criterion.toParameterSet = .error e ∧ o = failWith e ∧ s' = s) ∨
      ∃ sets q, rows.mapM Criterion.toParameterSet = .ok sets ∧
        (Routine.prepared { p.clear with sets }).execute.run s = ((o, q), s') := by
  cases h with
  | absent hwriter => cases hwriter
  | refused hwriter hfilled =>
    cases hwriter
    -- a criterion could not be flattened
    rcases hsets : rows.mapM Criterion.toParameterSet with e | sets
    · rw [Routine.emptied, Routine.filled, hsets] at hfilled
      cases hfilled
      exact .inl ⟨_, rfl, rfl, rfl⟩
    · rw [Routine.emptied, Routine.filled, hsets] at hfilled
      cases hfilled
  -- all criteria were flattened, and the statement runs for the sets
  | executed hwriter hfilled hrun hsends =>
    cases hwriter
    obtain ⟨sets, hsets, rfl⟩ := map_eq_ok.mp hfilled
    exact .inr ⟨sets, _, hsets, hrun⟩

/-- **What becomes of the rows that a prepared statement is fed.** A criterion is refused if it has
alternatives or a condition that is no equality, and otherwise the set has the operand of each
column that is compared and the value of each other one that is written. So nothing is lost exactly
if no column is written with one value and compared with another; then a set that keeps all exists,
and this is it. Feeding a prepared statement, and writing through one, takes each row as its set. -/
theorem flattening_exact :
    (∀ c : Criterion,
      (∀ e, c.toParameterSet = .error e ↔ c.Refuses e) ∧ (c.toParameterSet.isOk ↔ c.IsPlain) ∧
      ∀ set, c.toParameterSet = .ok set → c.IsFlat set ∧
        (∀ column v, c.values.find? column = some v → (set.find? column = some v ↔
          ∀ g ∈ c.groups, ∀ e ∈ g.entries, e.1 = column → e.2.operands = [.scalar v])) ∧
        (c.Keeps set ↔ c.Agrees) ∧ ((∃ other, c.Keeps other) ↔ c.Agrees)) ∧
    (∀ (p : PreparedStatement) (rows : List Criterion) (s : Session β), ∃ r,
      ((Routine.prepared p).feed rows).run s =
        (((fun _ => ()) <$> rows.mapM Criterion.toParameterSet, r), s) ∧
      ∀ sets, rows.mapM Criterion.toParameterSet = .ok sets →
        r = .prepared { p with sets := p.sets ++ sets }) ∧
    ∀ (m m' : Model) (kind : WriteKind) (p : PreparedStatement) (rows : List Criterion)
      (s s' : Session β) (o : Outcome ResultSet),
      m.writer? kind = some (.routine (.prepared p)) → rows ≠ [] →
      (m.write kind rows).run s = ((o, m'), s') →
      (∃ e, rows.mapM Criterion.toParameterSet = .error e ∧ o = failWith e ∧ s' = s) ∨
      ∃ sets written q t, rows.mapM Criterion.toParameterSet = .ok sets ∧
        (Routine.prepared { p.clear with sets }).execute.run s = ((written, q), t) ∧
        (o = written ∧ s' = t ∨
          written.isOk ∧ ∃ r, m.select.execute.run t = ((r, m'.select), s')) := by
  refine ⟨fun c => ⟨fun e => Criterion.toParameterSet_eq_error_iff,
    Criterion.isOk_toParameterSet_iff, fun set hset => ?_⟩, ?_, ?_⟩
  · -- one criterion
    have hflat := Criterion.isFlat_of_toParameterSet hset
    exact ⟨hflat, fun _ _ => hflat.find?_eq_iff, hflat.keeps_iff,
      ⟨fun ⟨_, hkeeps⟩ => hkeeps.agrees, fun hagrees => ⟨set, hflat.keeps_iff.mpr hagrees⟩⟩⟩
  · -- rows that are fed to a prepared statement
    intro p rows s
    obtain ⟨r, hfeed, -, hfilled⟩ := Routine.feed_run (r := .prepared p) trivial rows s
    refine ⟨r, ?_, fun sets hsets => hfilled _ (by rw [Routine.filled, hsets]; rfl)⟩
    rw [hfeed, Routine.filled]
    cases rows.mapM Criterion.toParameterSet <;> rfl
  · -- rows that are written through a prepared statement
    intro m m' kind p rows s s' o hwriter hrows hrun
    have hinput (p' : Procedure) (hp' : m.writer? kind = some p') : p'.HoldsInput := by
      cases hwriter.symm.trans hp'
      trivial
    obtain ⟨es, hwrite⟩ := write_run hrun
    obtain ⟨written, t, hown, hafter⟩ := hwrite.own hinput hrows
    rw [hwriter] at hown
    rcases hown.of_prepared with ⟨e, hsets, rfl, rfl⟩ | ⟨sets, q, hsets, hexecute⟩
    · refine .inl ⟨e, hsets, ?_⟩
      rcases hafter with hend | ⟨hok, -⟩
      · exact hend
      · cases hok
    · exact .inr ⟨sets, written, q, t, hsets, hexecute, hafter⟩

/-- A criterion that writes a column and compares it with what was there. -/
def overwriting : Criterion :=
  (({} : Criterion).withValue "n" (.text "new")).withCondition "n" (.eq (.text "old"))

/-- It is not refused, and the column is written with what was there. -/
theorem flattening_overwriting : ∃ set, overwriting.toParameterSet = .ok set ∧
    overwriting.values.find? "n" = some (.text "new") ∧ set.find? "n" = some (.text "old") ∧
    ¬∃ other, overwriting.Keeps other := by
  refine ⟨Dict.empty.insert "n" (.text "old"), by rfl, by rfl, by rfl, ?_⟩
  rintro ⟨other, hkeeps⟩
  have hagrees := hkeeps.agrees (Dict.empty.insert "n" (.eq (.text "old"))) List.mem_cons_self
    ("n", .eq (.text "old")) List.mem_cons_self (.text "old") (.text "new") rfl rfl
  exact absurd hagrees (by simp)

end Model

end Tabula
