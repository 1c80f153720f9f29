import Tabula.Procedure.Any
import Tabula.Proofs.History
import Tabula.Proofs.Procedure.Preparing
import Tabula.Proofs.Transaction.Call
import Tabula.Sqlite.Database

/-!
# What a procedure remembers

A procedure remembers the result of its last run that succeeded until it is cleared. A run has many
ways to fail, before anything is sent and long after, and what it stores on the way is stored
elsewhere. So what is remembered can be read off from what was called, without looking at where a
run broke off.

* `Procedure.Entry`: what was called, and what came of it.
* `Procedure.Calls.results?`: what one call makes of the result.
* `Procedure.History.remembers`: the last success since the last time it was cleared.
-/

namespace Tabula

variable {β : Type} [Backend β] {s s' : Session β}

/-- What is remembered after a run. -/
def remember (old : Option ResultSet) : Outcome ResultSet → Option ResultSet
  | .ok r => some r
  | .error _ => old

/-! ## Executing -/

omit [Backend β] in
/-- Where a run is settled a result is stored, and an error is not. -/
theorem remember_of_settle {σ : Type} (results : σ → Option ResultSet) {keep : ResultSet → σ}
    {x o : Outcome ResultSet} {p p' : σ}
    (h : (match x with
      | .ok r => return (.ok r, keep r)
      | .error halt => return (.error halt, p) : Action β _).run s = ((o, p'), s'))
    (hkeep : ∀ r, results (keep r) = some r) : results p' = remember (results p) o := by
  rcases x with halt | r
  · obtain ⟨h, -⟩ := Action.pure_eq h
    cases h
    rfl
  · obtain ⟨h, -⟩ := Action.pure_eq h
    cases h
    exact hkeep r

/-- A query remembers what its run answered, and a failed run nothing. -/
theorem Query.execute_results {q q' : Query} {o : Outcome ResultSet}
    (h : q.execute.run s = ((o, q'), s')) : q'.results = remember q.results o := by
  rw [Query.execute] at h
  rcases hc : q.connection with _ | c
  · rw [hc] at h
    obtain ⟨h, -⟩ := Action.pure_eq h
    cases h
    rfl
  · simp only [hc] at h
    obtain ⟨sets, t, -, h⟩ := Action.bind_eq h
    exact remember_of_settle Query.results h fun _ => rfl

/-- Result sets that are kept apart are kept elsewhere. -/
theorem PreparedStatement.executeArray_results {p p' : PreparedStatement}
    {o : Outcome (List ResultSet)} (h : p.executeArray.run s = ((o, p'), s')) :
    p'.results = p.results := by
  obtain ⟨sets, t, -, h⟩ := Action.bind_eq h
  rcases sets with halt | sets
  · obtain ⟨h, -⟩ := Action.pure_eq h
    cases h
    rfl
  · obtain ⟨h, -⟩ := Action.pure_eq h
    cases h
    rfl

/-- A prepared statement remembers what its run answered, and a failed run nothing. -/
theorem PreparedStatement.execute_results {p p' : PreparedStatement} {o : Outcome ResultSet}
    (h : p.execute.run s = ((o, p'), s')) : p'.results = remember p.results o := by
  obtain ⟨⟨sets, p₁⟩, t, h₁, h⟩ := Action.bind_eq h
  rw [← executeArray_results h₁]
  rcases sets with halt | sets
  · obtain ⟨h, -⟩ := Action.pure_eq h
    cases h
    rfl
  · exact remember_of_settle PreparedStatement.results h fun _ => rfl

/-- A template remembers what its run answered, and a failed run nothing. -/
theorem StatementSet.execute_results {p p' : StatementSet} {o : Outcome ResultSet}
    (h : p.execute.run s = ((o, p'), s')) : p'.results = remember p.results o := by
  rw [StatementSet.execute] at h
  rcases hb : p.compile with e | batches
  · rw [hb] at h
    obtain ⟨h, -⟩ := Action.pure_eq h
    cases h
    rfl
  · simp only [hb] at h
    obtain ⟨sets, t, -, h⟩ := Action.bind_eq h
    exact remember_of_settle StatementSet.results h fun _ => rfl

/-- A stub remembers what its run answered, and a failed run nothing. -/
theorem Stub.execute_results {p p' : Stub} {o : Outcome ResultSet}
    (h : p.execute.run s = ((o, p'), s')) : p'.results = remember p.results o := by
  rw [Stub.execute, Stub.note, Action.run_modify_bind] at h
  obtain ⟨done, t, -, h⟩ := Action.bind_eq h
  rcases done with halt | ⟨⟨⟩⟩
  · obtain ⟨h, rfl⟩ := Action.pure_eq h
    cases h
    rfl
  rcases hend : (p.runs.headD {}).ending with _ | e | r
  · simp only [hend] at h
    obtain ⟨halt, t', -, h⟩ := Action.bind_eq h
    obtain ⟨h, rfl⟩ := Action.pure_eq h
    cases h
    rfl
  · simp only [hend] at h
    obtain ⟨h, rfl⟩ := Action.pure_eq h
    cases h
    rfl
  · simp only [hend] at h
    obtain ⟨h, rfl⟩ := Action.pure_eq h
    cases h
    rfl

/-- **A routine remembers what it answers**, and if it fails what it has remembered before. -/
theorem Routine.execute_results {r r' : Routine} {o : Outcome ResultSet}
    (h : r.execute.run s = ((o, r'), s')) : r'.results = remember r.results o := by
  cases r with
  | query q =>
    obtain ⟨q', h₁, rfl⟩ := map_execute_run h
    exact q.execute_results h₁
  | prepared p =>
    obtain ⟨p', h₁, rfl⟩ := map_execute_run h
    exact p.execute_results h₁
  | set p =>
    obtain ⟨p', h₁, rfl⟩ := map_execute_run h
    exact p.execute_results h₁
  | stub p =>
    obtain ⟨p', h₁, rfl⟩ := map_execute_run h
    exact p.execute_results h₁

/-! ## Input -/

namespace Routine

variable {r r' q : Routine} {o e : Except Error Unit}

omit [Backend β]

/-- What answers at once with the results of a routine leaves them. -/
theorem results_of_pure (h : (pure (e, q) : Action β (Except Error Unit × Routine)).run s =
    ((o, r'), s')) (hq : q.results = r.results) : r'.results = r.results := by
  obtain ⟨h, -⟩ := Action.pure_eq h
  cases h
  exact hq

/-- Clearing a routine forgets its results. -/
theorem clear_results (h : r.clear.run s = (r', s')) : r'.results = none := by
  cases r with
  | stub p =>
    obtain ⟨p', t, hclear, h⟩ := Action.bind_eq h
    obtain ⟨rfl, rfl⟩ := Action.pure_eq h
    obtain ⟨rfl, rfl⟩ := Action.pure_eq hclear
    rfl
  | _ =>
    obtain ⟨rfl, rfl⟩ := Action.pure_eq h
    rfl

/-- Adding a set leaves the results of a routine. -/
theorem addParameters_results {set : ParameterSet}
    (h : (r.addParameters set).run s = ((o, r'), s')) : r'.results = r.results := by
  cases r with
  | stub p =>
    rw [addParameters, Action.run_ite] at h
    split at h
    · exact results_of_pure h rfl
    · exact results_of_pure h rfl
  | _ => exact results_of_pure h rfl

/-- Adding a criterion leaves the results of a routine. -/
theorem addCriterion_results {c : Criterion} (h : (r.addCriterion c).run s = ((o, r'), s')) :
    r'.results = r.results := by
  cases r with
  | stub p =>
    rw [addCriterion, Action.run_ite] at h
    split at h
    · exact results_of_pure h rfl
    · exact results_of_pure h rfl
  | _ => exact results_of_pure h rfl

/-- Binding a name leaves the results of a routine. -/
theorem bindAll_results {name : String} {v : Value} (h : (r.bindAll name v).run s = ((o, r'), s')) :
    r'.results = r.results := by
  cases r with
  | stub p =>
    rw [bindAll, Action.run_ite] at h
    split at h
    · exact results_of_pure h rfl
    · exact results_of_pure h rfl
  | _ => exact results_of_pure h rfl

/-- Feeding one criterion leaves the results of a routine. -/
theorem feedOne_results {c : Criterion} (h : (r.feedOne c).run s = ((o, r'), s')) :
    r'.results = r.results := by
  rw [feedOne] at h
  split at h
  · exact addCriterion_results h
  · split at h
    · exact addParameters_results h
    · exact results_of_pure h rfl
  · exact results_of_pure h rfl

/-- Feeding criteria leaves the results of a routine, wherever it stops. -/
theorem feedAll_results {cs : List Criterion} (h : (r.feedAll cs).run s = ((o, r'), s')) :
    r'.results = r.results := by
  induction cs generalizing r s with
  | nil => exact results_of_pure h rfl
  | cons c cs ih =>
    obtain ⟨⟨o₁, r₁⟩, t, h₁, h⟩ := Action.bind_eq h
    have hfirst := feedOne_results h₁
    rcases o₁ with e | ⟨⟨⟩⟩
    · exact results_of_pure h hfirst
    · exact (ih h).trans hfirst

/-- Feeding leaves the results of a routine. -/
theorem feed_results {cs : List Criterion} (h : (r.feed cs).run s = ((o, r'), s')) :
    r'.results = r.results := by
  rw [feed, Action.run_ite] at h
  split at h
  · exact results_of_pure h rfl
  · exact feedAll_results h

/-- Putting a routine on a connection leaves its results. -/
theorem onConnection_results (c : Nat) (r : Routine) : (r.onConnection c).results = r.results := by
  cases r <;> rfl

end Routine

/-! ## Transactions -/

namespace Transaction

variable {t t' : Transaction} {n : Nat}

/-- A next step leaves the outcome of a transaction. -/
theorem NextRun.outcome {o : Outcome (Option Nat)} (h : NextRun t s o t' s') :
    t'.outcome = t.outcome := by
  cases h with
  | finished ended => rfl
  | exhausted running all => rfl
  | ran running some run => exact (runStep_stays run).outcome
  | aborted running some run rollsBack leads => exact (runStep_stays run).outcome
  | lost running some run rollsBack leads => exact (runStep_stays run).outcome
  | stuck running some run => exact (runStep_stays run).outcome

/-- So do all of its steps. -/
theorem Ran.outcome {s₁ : Session β} (h : Ran t s n t' s₁) : t'.outcome = t.outcome := by
  induction h with
  | start => rfl
  | step before run ih => exact (executeNext_run run).outcome.trans ih

omit [Backend β] in
/-- A commit leaves the outcome; only a whole run sets it. -/
theorem CommitRun.outcome {depth d : Nat → Nat} {o : Outcome Unit} {ms : List Mark}
    (h : CommitRun t depth o t' ms d) : t'.outcome = t.outcome := by
  cases h <;> rfl

omit [Backend β] in
/-- A rollback leaves the outcome. -/
theorem RollbackRun.outcome {depth d : Nat → Nat} {o : Outcome Unit} {ms : List Mark}
    (h : RollbackRun t depth o t' ms d) : t'.outcome = t.outcome := by
  cases h <;> rfl

/-- Calling for a commit leaves the outcome. -/
theorem commit_outcome {o : Outcome Unit} (h : t.commit.run s = ((o, t'), s')) :
    t'.outcome = t.outcome := by
  obtain ⟨ms, d, hcommit, -⟩ := commit_run h
  exact hcommit.outcome

/-- Calling for a rollback leaves the outcome. -/
theorem rollback_outcome {o : Outcome Unit} (h : t.rollback.run s = ((o, t'), s')) :
    t'.outcome = t.outcome := by
  obtain ⟨ms, d, hrollback, -⟩ := rollback_run h
  exact hrollback.outcome

/-- **A transaction remembers what it answers**, and only behind its commit. -/
theorem execute_outcome {o : Outcome ResultSet} (h : t.execute.run s = ((o, t'), s')) :
    t'.outcome = remember t.outcome o := by
  cases execute_run h with
  | broken ran run => exact (executeNext_run run).outcome.trans ran.outcome
  | unkept ran commit => exact (commit_outcome commit).trans ran.outcome
  | done ran commit => rfl

end Transaction

/-! ## Calls -/

namespace Procedure

/-- What was called on a procedure, and what came of it. -/
inductive Entry where
  /-- it was executed -/
  | executed (o : Outcome ResultSet)
  /-- it was executed, and the result sets were kept apart -/
  | executedArray (o : Outcome (List ResultSet))
  /-- its next step was run -/
  | executedNext (o : Outcome (Option Nat))
  /-- it was committed -/
  | committed (o : Outcome Unit)
  /-- it was rolled back -/
  | rolledBack (o : Outcome Unit)
  /-- it was prepared -/
  | prepared (o : Except Error Unit)
  /-- it was given input, or a name was bound in its input -/
  | fed (o : Except Error Unit)
  /-- it was put on a connection -/
  | connected (c : Nat)
  /-- it was given another step -/
  | extended
  /-- it was cleared -/
  | cleared

/-- One call of a procedure, in any session. -/
inductive Calls (β : Type) [Backend β] : Procedure → Entry → Procedure → Prop
  /-- it is executed -/
  | execute {p p' : Procedure} {o : Outcome ResultSet} {s s' : Session β}
    (run : p.execute.run s = ((o, p'), s')) : Calls β p (.executed o) p'
  /-- a prepared statement is executed, and the result sets are kept apart -/
  | executeArray {p p' : PreparedStatement} {o : Outcome (List ResultSet)} {s s' : Session β}
    (run : p.executeArray.run s = ((o, p'), s')) :
    Calls β (.routine (.prepared p)) (.executedArray o) (.routine (.prepared p'))
  /-- the next step of a transaction is run -/
  | executeNext {t t' : Transaction} {o : Outcome (Option Nat)} {s s' : Session β}
    (run : t.executeNext.run s = ((o, t'), s')) :
    Calls β (.transaction t) (.executedNext o) (.transaction t')
  /-- a transaction is committed -/
  | commit {t t' : Transaction} {o : Outcome Unit} {s s' : Session β}
    (run : t.commit.run s = ((o, t'), s')) :
    Calls β (.transaction t) (.committed o) (.transaction t')
  /-- a transaction is rolled back -/
  | rollback {t t' : Transaction} {o : Outcome Unit} {s s' : Session β}
    (run : t.rollback.run s = ((o, t'), s')) :
    Calls β (.transaction t) (.rolledBack o) (.transaction t')
  /-- it is prepared -/
  | prepare {p : Procedure} {o : Except Error Unit} {s s' : Session β}
    (run : p.prepare.run s = (o, s')) : Calls β p (.prepared o) p
  /-- it is given a set of parameters -/
  | addParameters {p p' : Procedure} {set : ParameterSet} {o : Except Error Unit}
    {s s' : Session β} (run : (p.addParameters set).run s = ((o, p'), s')) : Calls β p (.fed o) p'
  /-- it is given a criterion -/
  | addCriterion {p p' : Procedure} {c : Criterion} {o : Except Error Unit} {s s' : Session β}
    (run : (p.addCriterion c).run s = ((o, p'), s')) : Calls β p (.fed o) p'
  /-- it is given criteria as the input that it takes -/
  | feed {p p' : Procedure} {cs : List Criterion} {o : Except Error Unit} {s s' : Session β}
    (run : (p.feed cs).run s = ((o, p'), s')) : Calls β p (.fed o) p'
  /-- a name is bound in its input -/
  | bindAll {p p' : Procedure} {name : String} {v : Value} {o : Except Error Unit}
    {s s' : Session β} (run : (p.bindAll name v).run s = ((o, p'), s')) : Calls β p (.fed o) p'
  /-- it is put on a connection -/
  | onConnection {p : Procedure} (c : Nat) : Calls β p (.connected c) (p.onConnection c)
  /-- a transaction is given another step -/
  | add {t : Transaction} (step : Step) :
    Calls β (.transaction t) .extended (.transaction (t.add step))
  /-- it is cleared -/
  | clear {p p' : Procedure} {s s' : Session β} (run : p.clear.run s = (p', s')) :
    Calls β p .cleared p'

/-- What is remembered after an entry. -/
def Entry.after (old : Option ResultSet) : Entry → Option ResultSet
  | .executed o => remember old o
  | .cleared => none
  | _ => old

variable {p p' : Procedure} {e : Entry} {es : List Entry}

omit [Backend β] in
/-- Input of a transaction is refused, and that of a routine goes to the routine. -/
theorem results?_of_fed {x : Routine → Action β (Except Error Unit × Routine)}
    {e o : Except Error Unit} {s s' : Session β}
    (hx : ∀ {r r' t t'}, (x r).run t = ((o, r'), t') → r'.results = r.results)
    (h : (match p with
      | .routine r => do return (← x r).map id .routine
      | .transaction t => return (e, .transaction t) : Action β _).run s = ((o, p'), s')) :
    p'.results? = p.results? := by
  cases p with
  | routine r =>
    obtain ⟨r', h₁, rfl⟩ := Routine.map_execute_run h
    exact hx h₁
  | transaction t =>
    obtain ⟨h, -⟩ := Action.pure_eq h
    cases h
    rfl

/-- **What one call makes of what is remembered** is said by its entry. -/
theorem Calls.results? (h : Calls β p e p') : p'.results? = e.after p.results? := by
  cases h with
  | execute run =>
    cases p with
    | routine r =>
      obtain ⟨r', h₁, rfl⟩ := Routine.map_execute_run run
      exact Routine.execute_results h₁
    | transaction t =>
      obtain ⟨t', h₁, rfl⟩ := Routine.map_execute_run run
      exact Transaction.execute_outcome h₁
  | executeArray run => exact PreparedStatement.executeArray_results run
  | executeNext run => exact (Transaction.executeNext_run run).outcome
  | commit run => exact Transaction.commit_outcome run
  | rollback run => exact Transaction.rollback_outcome run
  | prepare run => rfl
  | addParameters run => exact results?_of_fed Routine.addParameters_results run
  | addCriterion run => exact results?_of_fed Routine.addCriterion_results run
  | feed run => exact results?_of_fed Routine.feed_results run
  | bindAll run => exact results?_of_fed Routine.bindAll_results run
  | onConnection c =>
    cases p with
    | routine r => exact r.onConnection_results c
    | transaction t => rfl
  | add step => rfl
  | clear run =>
    cases p with
    | routine r =>
      obtain ⟨r', t, h₁, h⟩ := Action.bind_eq run
      obtain ⟨rfl, -⟩ := Action.pure_eq h
      exact Routine.clear_results h₁
    | transaction t =>
      obtain ⟨rfl, -⟩ := Action.pure_eq run
      rfl

/-- What was called on a procedure, in order, since it was new and had no result. -/
inductive History (β : Type) [Backend β] : List Entry → Procedure → Prop
  /-- nothing was called -/
  | new {p : Procedure} (hnew : p.results? = none) : History β [] p
  /-- one more was called -/
  | called {es : List Entry} {e : Entry} {p p' : Procedure} (before : History β es p)
    (call : Calls β p e p') : History β (es ++ [e]) p'

/-! ## The last success -/

/-- It is neither a success nor is anything cleared. -/
def Entry.IsIdle (e : Entry) : Prop := e ≠ .cleared ∧ ∀ r, e ≠ .executed (.ok r)

/-- There is a result behind an entry if the entry answered it, or left the one before. -/
theorem Entry.after_eq_some {old : Option ResultSet} {r : ResultSet} :
    e.after old = some r ↔ e = .executed (.ok r) ∨ old = some r ∧ e.IsIdle := by
  cases e with
  | executed o => cases o <;> simp [after, remember, IsIdle]
  | _ => simp [after, IsIdle]

/-- An idle entry leaves the result before it. -/
theorem Entry.IsIdle.after (h : e.IsIdle) (old : Option ResultSet) : e.after old = old := by
  cases e with
  | executed o =>
    cases o with
    | ok r => exact absurd rfl (h.2 r)
    | error halt => rfl
  | cleared => exact absurd rfl h.1
  | _ => rfl

/-- A result is answered if one is remembered. -/
theorem results_eq_ok {r : ResultSet} : p.results = .ok r ↔ p.results? = some r := by
  rw [results]
  cases p.results? <;> simp

/-- A result is remembered if a run answered it and nothing but idle entries followed. -/
theorem History.results?_eq_some (h : History β es p) {r : ResultSet} :
    p.results? = some r ↔ EndsIn (· = .executed (.ok r)) Entry.IsIdle es := by
  induction h with
  | new hnew => simp [hnew, not_endsIn_nil]
  | called before call ih => rw [call.results?, Entry.after_eq_some, endsIn_concat, ih]

/-- There is a last success if there is any that nothing was cleared behind. -/
theorem exists_endsIn_iff : (∃ r, EndsIn (· = .executed (.ok r)) Entry.IsIdle es) ↔
    EndsIn (fun e => ∃ r, e = .executed (.ok r)) (· ≠ .cleared) es := by
  induction es using List.reverseRecOn with
  | nil => simp [not_endsIn_nil]
  | append_singleton es e ih =>
    simp only [endsIn_concat, exists_or, exists_and_right, ih]
    by_cases hsuccess : ∃ r, e = .executed (.ok r)
    · simp [hsuccess]
    · have hidle : e.IsIdle ↔ e ≠ .cleared :=
        and_iff_left fun r hr => hsuccess ⟨r, hr⟩
      rw [hidle]

/-- **What a procedure remembers is its last success.** Whatever was called on it, in whatever
sessions and whatever came of that: it has a result exactly if some execution has succeeded and
nothing was cleared behind it, and the result is that of the last such execution. Otherwise it says
that it has none. No other call changes what it says: neither an execution that fails, wherever it
breaks off, nor one that keeps the result sets apart. -/
theorem History.remembers (h : History β es p) :
    ((∃ r, p.results = .ok r) ↔
      EndsIn (fun e => ∃ r, e = .executed (.ok r)) (· ≠ .cleared) es) ∧
    (∀ r, p.results = .ok r ↔
      EndsIn (· = .executed (.ok r)) (fun e => e ≠ .cleared ∧ ∀ r, e ≠ .executed (.ok r)) es) ∧
    (∀ e, p.results = .error e → e = .resultsNotAvailable) ∧
    ∀ e p', Calls β p e p' → e ≠ .cleared → (∀ r, e ≠ .executed (.ok r)) →
      p'.results = p.results := by
  have hlast (r : ResultSet) : p.results = .ok r ↔ EndsIn (· = .executed (.ok r)) Entry.IsIdle es :=
    results_eq_ok.trans h.results?_eq_some
  refine ⟨?_, hlast, fun e he => ?_, fun e p' hcall hkept hfailed => ?_⟩
  · rw [← exists_endsIn_iff]
    exact exists_congr hlast
  · rw [results] at he
    split at he
    · cases he
    · exact (Except.error.inj he).symm
  · -- an idle call leaves what is remembered
    have hidle : e.IsIdle := ⟨hkept, hfailed⟩
    rw [results, results, hcall.results?, hidle.after]

/-- A statement whose result sets are not brought down to one. -/
def apart : Procedure :=
  .routine (.prepared { connection := some 0, sql := "SELECT 1 AS n", combination := .array })

/-- An empty database. -/
def alone : Session Sqlite.Memory := { connections := [{ backend := { driver := {} } }] }

/-- It is executed without sets. -/
def once : (Outcome ResultSet × Procedure) × Session Sqlite.Memory := apart.execute.run alone

/-- Then it is given two sets. -/
def twice : (Except Error Unit × Procedure) × Session Sqlite.Memory :=
  (once.1.2.feed [{}, {}]).run once.2

/-- And it is executed again. -/
def again : (Outcome ResultSet × Procedure) × Session Sqlite.Memory :=
  twice.1.2.execute.run twice.2

/-- Whether several result sets are what is wrong. -/
def isSeveral : Outcome ResultSet → Bool
  | .error (.failed .multipleResultSets) => true
  | _ => false

/-- The second execution has two result sets and fails behind the round trip, and the result of the
first is remembered. -/
theorem History.remembers_apart : ∃ r es, History Sqlite.Memory es again.1.2 ∧
    once.1.1 = .ok r ∧ again.1.1 = failWith .multipleResultSets ∧ again.1.2.results = .ok r := by
  have hok : once.1.1.isOk := by decide +kernel
  obtain ⟨r, hr⟩ := exists_of_isOk hok
  have hagain : again.1.1 = failWith .multipleResultSets := by
    have hseveral : isSeveral again.1.1 := by decide +kernel
    unfold isSeveral at hseveral
    split at hseveral
    next h => exact h
    next => cases hseveral
  have hhistory : History Sqlite.Memory
      [.executed once.1.1, .fed twice.1.1, .executed again.1.1] again.1.2 :=
    .called
      (.called (.called (.new rfl) (.execute (run_of_answer rfl))) (.feed (run_of_answer rfl)))
      (.execute (run_of_answer rfl))
  obtain ⟨-, hlast, -, -⟩ := hhistory.remembers
  -- the failed call stands behind the successful one and is idle
  refine ⟨r, _, hhistory, hr, hagain, (hlast r).mpr ⟨[], _, _, rfl, congrArg _ hr, ?_⟩⟩
  rw [hagain]
  simp [failWith]

end Procedure

end Tabula
