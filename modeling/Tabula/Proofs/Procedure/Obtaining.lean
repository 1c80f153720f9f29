import Tabula.Procedure.Any
import Tabula.Proofs.Procedure.Preparing
import Tabula.Proofs.Results.Tabular
import Tabula.Proofs.Session.Open
import Tabula.Proofs.Transaction.Call

/-!
# Where results come from

A procedure that is no stub answers with what an engine answers to its statements, put together. A
transaction of such procedures answers with the result of one of them, or with the empty set. So
whatever a procedure answers is obtained from the engines.

* `Session.execute_obtained`, `Routine.execute_obtained`: statements and routines.
* `Procedure.IsGenuine`: there is no stub, and results that are kept are obtained.
* `Procedure.execute_obtained`: such a procedure answers with what is obtained and stays such.
-/

namespace Tabula

open ResultSet (Obtained)

variable {δ : Type} [Sqlite.Driver δ] {s s' : Session (Store δ)}

/-! ## Statements -/

theorem ResultSet.obtained_empty : Obtained {} := by
  have hcollapse : collapse [] .unionAll = .ok {} := rfl
  exact .collapse (by simp) hcollapse

theorem Session.execute_obtained {c : Nat} {sql : String} {sets : List ParameterSet}
    {type : QueryType} {rs : List ResultSet}
    (h : (Session.execute c sql sets type).run s = (.ok rs, s')) : ∀ r ∈ rs, r.Obtained := by
  obtain ⟨b, n, bound, -, -, -, hreply, -⟩ := Session.isOpen_of_execute h
  exact fun r hr => .answered hreply hr

/-- What is settled is made of the sets of the run. -/
theorem obtained_of_settle {o : Outcome (List ResultSet)} {k : Combination} {r : ResultSet}
    (h : settle o k = .ok r) (ho : ∀ rs, o = .ok rs → ∀ r ∈ rs, r.Obtained) : r.Obtained := by
  rcases o with halt | sets
  · cases h
  · change outcomeOf (collapse sets k) = .ok r at h
    rcases hc : collapse sets k with e | r'
    · rw [hc] at h
      cases h
    · rw [hc] at h
      cases h
      exact .collapse (ho sets rfl) hc

/-! ## Routines -/

theorem Query.execute_obtained {q q' : Query} {r : ResultSet}
    (h : q.execute.run s = ((.ok r, q'), s')) : r.Obtained := by
  rcases hc : q.connection with _ | c
  · simp only [Query.execute, hc] at h
    cases h
  · obtain ⟨sets, hrun, hr⟩ := Query.execute_settles hc h
    refine obtained_of_settle hr.symm ?_
    rintro rs rfl
    exact Session.execute_obtained hrun

theorem PreparedStatement.execute_obtained {p p' : PreparedStatement} {r : ResultSet}
    (h : p.execute.run s = ((.ok r, p'), s')) : r.Obtained := by
  rcases hc : p.connection with _ | c
  · simp only [PreparedStatement.execute, PreparedStatement.executeArray, PreparedStatement.run,
      hc] at h
    cases h
  · obtain ⟨sets, hrun, hr⟩ := PreparedStatement.execute_settles hc h
    refine obtained_of_settle hr.symm ?_
    rintro rs rfl
    exact Session.execute_obtained hrun

namespace StatementSet

theorem runBatches_obtained {connection : Option Nat} {type : QueryType} {batches : List Batch}
    {rs : List ResultSet} (h : (runBatches connection type batches).run s = (.ok rs, s')) :
    ∀ r ∈ rs, r.Obtained := by
  induction batches generalizing s rs with
  | nil =>
    cases h
    simp
  | cons b batches ih =>
    rcases connection with _ | c
    · cases h
    obtain ⟨o₁, t, h₁, h⟩ := Action.bind_eq h
    rcases o₁ with halt | rs₁
    · cases h
    obtain ⟨o₂, t', h₂, h⟩ := Action.bind_eq h
    obtain ⟨hrs, rfl⟩ := Action.pure_eq h
    rcases o₂ with halt | rs₂
    · cases hrs
    · cases hrs
      exact List.forall_mem_append.mpr ⟨Session.execute_obtained h₁, ih h₂⟩

theorem execute_obtained {p p' : StatementSet} {r : ResultSet}
    (h : p.execute.run s = ((.ok r, p'), s')) : r.Obtained := by
  rw [execute] at h
  rcases hb : p.compile with e | batches
  · rw [hb] at h
    cases h
  simp only [hb] at h
  obtain ⟨sets, t, hrun, h⟩ := Action.bind_eq h
  rcases hs : settle sets p.combination with halt | r'
  · rw [hs] at h
    cases h
  · rw [hs] at h
    cases h
    refine obtained_of_settle hs ?_
    rintro rs rfl
    exact runBatches_obtained hrun

end StatementSet

/-- **A routine that is no stub answers with what is obtained**, and it does not become one. -/
theorem Routine.execute_obtained {r r' : Routine} {o : Outcome ResultSet} (hr : r.IsPlain)
    (h : r.execute.run s = ((o, r'), s')) : r'.IsPlain ∧ ∀ rs, o = .ok rs → rs.Obtained := by
  cases r with
  | query q =>
    obtain ⟨q', h₁, rfl⟩ := map_execute_run h
    refine ⟨trivial, ?_⟩
    rintro rs rfl
    exact q.execute_obtained h₁
  | prepared p =>
    obtain ⟨p', h₁, rfl⟩ := map_execute_run h
    refine ⟨trivial, ?_⟩
    rintro rs rfl
    exact p.execute_obtained h₁
  | set p =>
    obtain ⟨p', h₁, rfl⟩ := map_execute_run h
    refine ⟨trivial, ?_⟩
    rintro rs rfl
    exact p.execute_obtained h₁
  | stub p => exact hr.elim

/-! ## Transactions -/

namespace Transaction

/-- None of the steps is a stub, and the results of the steps are obtained. -/
structure IsGenuine (t : Transaction) : Prop where
  /-- there are no stubs -/
  plain : t.IsPlain
  /-- the results of the steps -/
  results : ∀ r, some r ∈ t.results → r.Obtained

variable {t t' : Transaction}

theorem IsGenuine.runStep (ht : t.IsGenuine) {i : Nat} (hi : i < t.steps.length)
    {o : Outcome Unit} (h : (t.runStep i).run s = ((o, t'), s')) : t'.IsGenuine := by
  obtain ⟨ms, d, -, -, hkeeps⟩ := runStep_run ht.plain hi h
  refine ⟨hkeeps.plain, ?_⟩
  rcases runStep_results h with hresults | ⟨r, rs, r', s₁, s₂, hstep, hrun, hresults⟩
  · rw [hresults]
    exact ht.results
  · rw [hresults]
    intro q hq
    rcases List.mem_or_eq_of_mem_set hq with hq | hq
    · exact ht.results q hq
    · cases hq
      have hplain : r.IsPlain := ht.plain _ (List.mem_of_getElem? hstep)
      exact (Routine.execute_obtained hplain hrun).2 _ rfl

/-- What follows on a step leaves the steps and their results. -/
theorem IsGenuine.congr (ht : t.IsGenuine) (hsteps : t'.steps = t.steps)
    (hresults : t'.results = t.results) : t'.IsGenuine where
  plain := by
    rw [IsPlain, hsteps]
    exact ht.plain
  results := hresults ▸ ht.results

theorem IsGenuine.next (ht : t.IsGenuine) {o : Outcome (Option Nat)} (h : NextRun t s o t' s') :
    t'.IsGenuine := by
  cases h with
  | finished ended => exact ht
  | exhausted running all => exact ht
  | ran running some run => exact (ht.runStep some run).congr rfl rfl
  | aborted running some run rollsBack leads => exact (ht.runStep some run).congr rfl rfl
  | lost running some run rollsBack leads => exact (ht.runStep some run).congr rfl rfl
  | stuck running some run => exact ht.runStep some run

theorem IsGenuine.ran (ht : t.IsGenuine) {n : Nat} (h : Ran t s n t' s') : t'.IsGenuine := by
  induction h with
  | start => exact ht
  | step before run ih => exact ih.next (executeNext_run run)

theorem IsGenuine.commit (ht : t.IsGenuine) {depth d : Nat → Nat} {o : Outcome Unit}
    {ms : List Mark} (h : CommitRun t depth o t' ms d) : t'.IsGenuine := by
  cases h with
  | refused early => exact ht
  | stuck running commits => exact ht.congr rfl rfl
  | left running all commits kept => exact ht.congr rfl rfl

theorem IsGenuine.lastResult (ht : t.IsGenuine) : (t.lastResult?.getD {}).Obtained := by
  rcases hlast : t.lastResult? with _ | r
  · exact ResultSet.obtained_empty
  · obtain ⟨q, hq, rfl⟩ := List.exists_of_findSome?_eq_some hlast
    exact ht.results r (List.mem_of_mem_take (List.mem_reverse.mp hq))

/-- **A transaction of routines that are no stubs answers with what is obtained.** -/
theorem IsGenuine.execute (ht : t.IsGenuine) {o : Outcome ResultSet}
    (h : t.execute.run s = ((o, t'), s')) :
    t'.IsGenuine ∧ ∀ rs, o = .ok rs → rs.Obtained := by
  rw [Transaction.execute] at h
  obtain ⟨⟨o₁, t₁⟩, s₁, h₁, h⟩ := Action.bind_eq h
  rcases runSteps_run .start h₁ with ⟨halt, n, t₂, s₂, rfl, hran, hnext⟩ | ⟨rfl, n, hran⟩
  · obtain ⟨h, -⟩ := Action.pure_eq h
    cases h
    exact ⟨(ht.ran hran).next (executeNext_run hnext), by simp⟩
  · obtain ⟨⟨o₂, t₂⟩, s₂, h₂, h⟩ := Action.bind_eq h
    obtain ⟨ms, d, hcommit, -⟩ := commit_run h₂
    have hcommitted := (ht.ran hran).commit hcommit
    rcases o₂ with halt | ⟨⟨⟩⟩
    · obtain ⟨h, -⟩ := Action.pure_eq h
      cases h
      exact ⟨hcommitted, by simp⟩
    · obtain ⟨h, -⟩ := Action.pure_eq h
      cases h
      refine ⟨hcommitted.congr rfl rfl, ?_⟩
      rintro rs ⟨⟩
      exact hcommitted.lastResult

end Transaction

/-! ## Procedures -/

namespace Procedure

/-- There is no stub in it, and the results that it has of steps are obtained. -/
def IsGenuine : Procedure → Prop
  | .routine r => r.IsPlain
  | .transaction t => t.IsGenuine

/-- **A genuine procedure answers with what is obtained**, and stays genuine. -/
theorem IsGenuine.execute {p p' : Procedure} (hp : p.IsGenuine) {o : Outcome ResultSet}
    (h : p.execute.run s = ((o, p'), s')) :
    p'.IsGenuine ∧ ∀ rs, o = .ok rs → rs.Obtained := by
  cases p with
  | routine r =>
    obtain ⟨r', h₁, rfl⟩ := Routine.map_execute_run h
    exact Routine.execute_obtained hp h₁
  | transaction t =>
    obtain ⟨t', h₁, rfl⟩ := Routine.map_execute_run h
    exact Transaction.IsGenuine.execute hp h₁

end Procedure

end Tabula
