import Tabula.Proofs.Procedure.Singly
import Tabula.Proofs.Sqlite.Driver
import Tabula.Proofs.Sqlite.Fitting

/-!
# The in-memory database goes one step at a time

A statement with several lists of values runs once for each, one after the other. Running changes
nothing but rows, so the statement can be fitted again behind each run, and its answers have the
same columns: the database is a driver as others rely on it. What it holds is its tables, with those
it goes back to if the open transaction is undone; the numbers of the last change are not part of
that.

* `Plan.run_tables`, `Plan.run_content`: what running a plan does, whatever the numbers are.
* `Statement.exists_plan_of_run`: behind a statement it can be fitted again.
* `Database.executeSets_content`: what a statement does to what a database holds.
* `Memory.stepwise`: the database behind a lock, one step at a time.
-/

namespace Tabula.Sqlite

/-! ## What plans do to tables -/

namespace Plan

/-- The table that a plan is about. -/
def table? : Plan → Option Table
  | .select t _ _ _ => t
  | .insert _ t _ _ => some t
  | .update t _ _ _ => some t
  | .delete t _ _ => some t
  | _ => none

end Plan

theorem add_table {t t' : Table} {identity : Cell} {cells : List Cell} {r : Record}
    (h : t.add identity cells = .ok (r, t')) : ∃ rs, t' = t.withRecords rs := by
  rw [Table.add] at h
  obtain ⟨id, -, h⟩ := bind_eq_ok.mp h
  obtain ⟨_, -, h⟩ := bind_eq_ok.mp h
  obtain ⟨_, -, h⟩ := bind_eq_ok.mp h
  cases h
  exact ⟨_, rfl⟩

theorem update_table {t t' : Table} {old r : Record} {identity : Option Cell} {cells : List Cell}
    (h : t.update old identity cells = .ok (r, t')) : ∃ rs, t' = t.withRecords rs := by
  rw [Table.update.eq_def] at h
  obtain ⟨id, -, h⟩ := bind_eq_ok.mp h
  obtain ⟨_, -, h⟩ := bind_eq_ok.mp h
  split at h
  · obtain ⟨_, -, h⟩ := bind_eq_ok.mp h
    cases h
    exact ⟨_, rfl⟩
  · cases h
    exact ⟨_, rfl⟩

theorem updateAll_table {changes : List (Table.Place × RowExpr)} {parameters : List Cell}
    {t t' : Table} {found updated : List Record}
    (h : updateAll changes parameters t found = .ok (updated, t')) :
    ∃ rs, t' = t.withRecords rs := by
  induction found generalizing t updated with
  | nil =>
    cases h
    exact ⟨_, rfl⟩
  | cons r found ih =>
    rw [updateAll] at h
    obtain ⟨⟨r', t₁⟩, h₁, h⟩ := bind_eq_ok.mp h
    obtain ⟨⟨rs', t₂⟩, h₂, h⟩ := bind_eq_ok.mp h
    cases h
    obtain ⟨rs₁, rfl⟩ := update_table h₁
    obtain ⟨rs₂, rfl⟩ := ih h₂
    exact ⟨rs₂, rfl⟩

theorem foldl_step_table (orIgnore : Bool) (parameters : List Cell) (rows : List NewRow)
    (a : Added) : ∃ rs, (rows.foldl (Added.step orIgnore parameters) a).table =
      a.table.withRecords rs := by
  induction rows generalizing a with
  | nil => exact ⟨a.table.records, rfl⟩
  | cons row rows ih =>
    obtain ⟨rs, hrs⟩ := ih (a.step orIgnore parameters row)
    -- one row either adds a record or leaves the table
    obtain ⟨rs₁, h₁⟩ : ∃ rs₁, (a.step orIgnore parameters row).table = a.table.withRecords rs₁ := by
      rw [Added.step]
      split
      · exact ⟨a.table.records, rfl⟩
      · simp only
        split
        · rename_i hadd
          exact add_table hadd
        · split <;> exact ⟨a.table.records, rfl⟩
        · exact ⟨a.table.records, rfl⟩
    exact ⟨rs, by rw [List.foldl_cons, hrs, h₁]; rfl⟩

namespace Plan

variable {db db' : Database} {plan : Plan} {cells : List Cell} {effect : Effect}

/-- **What running a plan does to the tables**: nothing, or its table gets other rows, unless it
undoes a transaction. -/
theorem run_tables (h : plan.run db cells = .ok effect) :
    effect.database.endless = db.endless ∧
      (plan = .rollback ∨ effect.database.tables = db.tables ∨
        ∃ t rs, plan.table? = some t ∧
          effect.database.tables = (db.withTable (t.withRecords rs)).tables) := by
  cases plan with
  -- a selection leaves all tables
  | select table columns filter order =>
    cases table with
    | none =>
      cases h
      exact ⟨rfl, .inr (.inl rfl)⟩
    | some t =>
      cases h
      exact ⟨rfl, .inr (.inl rfl)⟩
  | insert orIgnore t rows returning =>
    obtain ⟨rs, hrs⟩ := foldl_step_table orIgnore cells rows { table := t }
    rw [run] at h
    simp only at h
    -- a row was refused, and the insertion with it
    split at h
    · cases h
    · cases h
      exact ⟨rfl, .inr (.inr ⟨t, rs, rfl, by rw [hrs]⟩)⟩
  | update t changes filter returning =>
    rw [run] at h
    simp only at h
    split at h
    · cases h
    · rename_i hall
      cases h
      obtain ⟨rs, rfl⟩ := updateAll_table hall
      exact ⟨rfl, .inr (.inr ⟨t, rs, rfl, rfl⟩)⟩
  | delete t filter returning =>
    cases h
    exact ⟨rfl, .inr (.inr ⟨t, _, rfl, rfl⟩)⟩
  | «begin» =>
    rw [run] at h
    -- there is a transaction already
    split at h
    · cases h
    · cases h
      exact ⟨rfl, .inr (.inl rfl)⟩
  | commit =>
    rw [run] at h
    -- what is kept is what the tables hold now
    split at h
    · cases h
      exact ⟨rfl, .inr (.inl rfl)⟩
    · cases h
  | rollback =>
    rw [run] at h
    split at h
    · -- the tables are those that were put aside
      cases h
      exact ⟨rfl, .inl rfl⟩
    · cases h

end Plan

namespace Database

/-- What a database holds. The numbers of the last change are not part of it. -/
def content (db : Database) : Database := { db with lastId := 0, changes := 0 }

theorem content_eq_iff {db db' : Database} : db.content = db'.content ↔
    db.tables = db'.tables ∧ db.saved = db'.saved ∧ db.endless = db'.endless := by
  rcases db with ⟨tables, saved, lastId, changes, endless⟩
  rcases db' with ⟨tables', saved', lastId', changes', endless'⟩
  simp [content]

end Database

/-- **A plan does the same whatever the numbers of the last change are.** -/
theorem Plan.run_content {db db' : Database} {plan : Plan} {cells : List Cell} {effect : Effect}
    (hdb : db.content = db'.content) (h : plan.run db cells = .ok effect) :
    ∃ effect', plan.run db' cells = .ok effect' ∧ effect'.rows = effect.rows ∧
      effect'.database.content = effect.database.content := by
  -- the states differ in their counters only
  obtain ⟨htables, hsaved, hendless⟩ := Database.content_eq_iff.mp hdb
  rcases db with ⟨tables, saved, lastId, changes, endless⟩
  rcases db' with ⟨tables', saved', lastId', changes', endless'⟩
  cases htables
  cases hsaved
  cases hendless
  cases plan with
  -- nothing of what a plan does depends on these, case by case
  | select table columns filter order =>
    cases table with
    | none =>
      cases h
      exact ⟨_, rfl, rfl, rfl⟩
    | some t =>
      cases h
      exact ⟨_, rfl, rfl, rfl⟩
  | insert orIgnore t rows returning =>
    rw [run] at h ⊢
    simp only at h ⊢
    split at h
    · cases h
    · cases h
      exact ⟨_, rfl, rfl, rfl⟩
  | update t changes filter returning =>
    rw [run] at h ⊢
    simp only at h ⊢
    split at h
    · cases h
    · cases h
      exact ⟨_, rfl, rfl, rfl⟩
  | delete t filter returning =>
    cases h
    exact ⟨_, rfl, rfl, rfl⟩
  | «begin» =>
    cases saved with
    | none =>
      cases h
      exact ⟨_, rfl, rfl, rfl⟩
    | some tables => cases h
  | commit =>
    cases saved with
    | none => cases h
    | some tables =>
      cases h
      exact ⟨_, rfl, rfl, rfl⟩
  | rollback =>
    cases saved with
    | none => cases h
    | some tables =>
      cases h
      exact ⟨_, rfl, rfl, rfl⟩

/-! ## Fitting a statement again -/

theorem TableRef.find_eq_ok {r : TableRef} {tables : List Table} {t : Table} :
    r.find tables = .ok t ↔ r.database.all (sameName databaseName) ∧
      tables.find? (fun t => sameName t.name r.name) = some t := by
  rw [TableRef.find]
  by_cases hd : r.database.all (sameName databaseName)
  · rcases hfind : tables.find? (fun t => sameName t.name r.name) with _ | t'
    · simp [refuse, hd, hfind]
    · simp [hd, hfind]
  · simp [refuse, hd]

/-- Where a table was found its successor is found. -/
theorem TableRef.find_withTable {r : TableRef} {db : Database} {t : Table}
    (h : r.find db.tables = .ok t) (rs : List Record) :
    r.find (db.withTable (t.withRecords rs)).tables = .ok (t.withRecords rs) := by
  obtain ⟨hd, hfind⟩ := find_eq_ok.mp h
  refine find_eq_ok.mpr ⟨hd, ?_⟩
  -- the successor of a table has its name
  have hname : sameName t.name r.name :=
    List.find?_some (p := fun t : Table => sameName t.name r.name) hfind
  change (db.tables.map fun s => if s.name = t.name then t.withRecords rs else s).find? _ = _
  revert hfind
  induction db.tables with
  | nil => exact nofun
  | cons s tables ih =>
    intro hfind
    rw [List.map_cons]
    -- the table is the first of the name
    by_cases hs : sameName s.name r.name
    · simp only [List.find?_cons, hs] at hfind
      cases hfind
      have hsuccessor : sameName (t.withRecords rs).name r.name := hname
      simp only [if_pos, List.find?_cons, hsuccessor]
    · -- it stands further behind, and tables of other names are what they were
      have hne : s.name ≠ t.name := fun heq => hs (heq ▸ hname)
      rw [if_neg hne]
      simp only [List.find?_cons, hs] at hfind ⊢
      exact ih hfind

namespace Statement

variable {st : Statement} {sql : String} {db : Database} {plan : Plan} {cells : List Cell}
  {effect : Effect}

/-- A plan is about the table of its statement, and only one undoes a transaction. -/
theorem target_of_plan {tables : List Table} (h : st.plan sql tables = .ok plan) :
    st = .rollback ∨ plan ≠ .rollback ∧
      ∀ t, plan.table? = some t → ∃ r, st.target? = some r ∧ r.find tables = .ok t := by
  cases st with
  | select columns table filter order =>
    -- a statement is planned in stages, the first of which finds the table
    rw [Statement.plan] at h
    obtain ⟨found, hfound, h⟩ := bind_eq_ok.mp h
    obtain ⟨_, -, h⟩ := bind_eq_ok.mp h
    obtain ⟨_, -, h⟩ := bind_eq_ok.mp h
    obtain ⟨_, -, h⟩ := bind_eq_ok.mp h
    cases h
    refine .inr ⟨by simp, fun t ht => ?_⟩
    cases table with
    | none =>
      cases hfound
      cases ht
    | some r =>
      obtain ⟨t', hfind, hfound⟩ := bind_eq_ok.mp hfound
      cases hfound
      cases ht
      exact ⟨r, rfl, hfind⟩
  | insert orIgnore r columns rows returning =>
    rw [Statement.plan] at h
    split at h
    · cases h
    obtain ⟨t, hfind, h⟩ := bind_eq_ok.mp h
    obtain ⟨_, -, h⟩ := bind_eq_ok.mp h
    obtain ⟨_, -, h⟩ := bind_eq_ok.mp h
    cases h
    exact .inr ⟨by simp, fun _ ht => ⟨r, rfl, Option.some.inj ht ▸ hfind⟩⟩
  | update r changes filter returning =>
    rw [Statement.plan] at h
    split at h
    · cases h
    obtain ⟨t, hfind, h⟩ := bind_eq_ok.mp h
    obtain ⟨_, -, h⟩ := bind_eq_ok.mp h
    obtain ⟨_, -, h⟩ := bind_eq_ok.mp h
    obtain ⟨_, -, h⟩ := bind_eq_ok.mp h
    cases h
    exact .inr ⟨by simp, fun _ ht => ⟨r, rfl, Option.some.inj ht ▸ hfind⟩⟩
  | delete r filter returning =>
    rw [Statement.plan] at h
    obtain ⟨t, hfind, h⟩ := bind_eq_ok.mp h
    obtain ⟨_, -, h⟩ := bind_eq_ok.mp h
    obtain ⟨_, -, h⟩ := bind_eq_ok.mp h
    cases h
    exact .inr ⟨by simp, fun _ ht => ⟨r, rfl, Option.some.inj ht ▸ hfind⟩⟩
  | rollback => exact .inl rfl
  -- control statements name no table
  | _ =>
    cases h
    exact .inr ⟨by simp, fun t ht => by cases ht⟩

/-- **Behind a statement it can be fitted again**, and its answer has the same columns. -/
theorem exists_plan_of_run (h : st.plan sql db.tables = .ok plan)
    (hrun : plan.run db cells = .ok effect) :
    ∃ plan', st.plan sql effect.database.tables = .ok plan' ∧ plan'.columns = plan.columns := by
  rcases target_of_plan h with rfl | ⟨hplan, htarget⟩
  · exact ⟨plan, h, rfl⟩
  rcases (Plan.run_tables hrun).2 with hrollback | hsame | ⟨t, rs, ht, htables⟩
  · exact absurd hrollback hplan
  · rw [hsame]
    exact ⟨plan, h, rfl⟩
  · obtain ⟨r, hr, hfind⟩ := htarget t ht
    refine exists_plan (fun r' t' hr' hfind' => ?_) h
    rw [hr] at hr'
    cases hr'
    rw [hfind] at hfind'
    cases hfind'
    exact ⟨rs, htables ▸ TableRef.find_withTable hfind rs⟩

end Statement

/-! ## What is prepared -/

namespace Database

variable {db db' : Database} {sql : String} {p : Parsed} {plan : Plan} {cells : List Cell}
  {rows : List (List Cell)}

/-- Whether a text holds no statement is no matter of the database. -/
theorem only_eq_none {fuel : Nat} (h : db.only fuel sql = .ok none) :
    db'.only fuel sql = .ok none := by
  cases fuel with
  | zero => rfl
  | succ fuel =>
    rw [only] at h ⊢
    obtain ⟨first, hfirst, h⟩ := bind_eq_ok.mp h
    rcases first with _ | ⟨p, plan, rest⟩
    · rw [prepare] at hfirst ⊢
      obtain ⟨parsed, hparsed, hfirst⟩ := bind_eq_ok.mp hfirst
      rcases parsed with _ | ⟨p, rest⟩
      · rw [hparsed]
        rfl
      · obtain ⟨plan, -, hfirst⟩ := bind_eq_ok.mp hfirst
        cases hfirst
    · obtain ⟨second, -, h⟩ := bind_eq_ok.mp h
      cases second <;> cases h

/-- The only statement of a text has nothing behind it. -/
theorem only_eq_some_iff {fuel : Nat} : db.only (fuel + 1) sql = .ok (some (p, plan)) ↔
    p.statement.plan sql db.tables = .ok plan ∧
      ∃ rest, parseFirst sql = .ok (some (p, rest)) ∧ db.only fuel rest = .ok none := by
  constructor
  · intro h
    rw [only] at h
    obtain ⟨first, hfirst, h⟩ := bind_eq_ok.mp h
    rcases first with _ | ⟨p', plan', rest⟩
    · cases h
    obtain ⟨second, hsecond, h⟩ := bind_eq_ok.mp h
    -- nothing but blanks follows the statement
    rcases second with _ | second
    · cases h
      rw [prepare] at hfirst
      obtain ⟨parsed, hparsed, hfirst⟩ := bind_eq_ok.mp hfirst
      rcases parsed with _ | ⟨p', rest'⟩
      · cases hfirst
      · obtain ⟨plan', hplan, hfirst⟩ := bind_eq_ok.mp hfirst
        cases hfirst
        exact ⟨hplan, rest, hparsed, hsecond⟩
    · cases h
  · -- what was read and planned is what was prepared
    rintro ⟨hplan, rest, hparsed, hrest⟩
    have hfirst : db.prepare sql = .ok (some (p, plan, rest)) := by
      rw [prepare]
      exact bind_eq_ok.mpr ⟨_, hparsed, bind_eq_ok.mpr ⟨plan, hplan, rfl⟩⟩
    rw [only]
    exact bind_eq_ok.mpr ⟨_, hfirst, bind_eq_ok.mpr ⟨none, hrest, rfl⟩⟩

/-- A text holds one statement, which ends and is fitted to a plan. -/
structure Accepts (db : Database) (sql : String) (p : Parsed) (plan : Plan) : Prop where
  /-- it ends -/
  ends : sql ∉ db.endless
  /-- it has a plan -/
  fitted : p.statement.plan (trimmed sql) db.tables = .ok plan
  /-- there is nothing else in the text -/
  parsed : ∃ rest, parseFirst (trimmed sql) = .ok (some (p, rest)) ∧
    ({} : Database).only (trimmed sql).length rest = .ok none

theorem only_eq_some_iff_accepts (hends : sql ∉ db.endless) :
    db.only ((trimmed sql).length + 1) (trimmed sql) = .ok (some (p, plan)) ↔
      db.Accepts sql p plan := by
  rw [only_eq_some_iff]
  constructor
  · rintro ⟨hplan, rest, hparsed, hrest⟩
    exact ⟨hends, hplan, rest, hparsed, only_eq_none hrest⟩
  · rintro ⟨-, hplan, rest, hparsed, hrest⟩
    exact ⟨hplan, rest, hparsed, only_eq_none hrest⟩

/-- What a text is prepared as that holds one statement. -/
theorem compile_eq_statement_iff {text : String} {columns : List String} :
    db.compile sql = .ok (.statement text p columns) ↔
      text = trimmed sql ∧ ∃ plan, db.Accepts sql p plan ∧ columns = plan.columns.map Prod.fst := by
  by_cases hends : sql ∈ db.endless
  · rw [compile, if_pos hends]
    exact iff_of_false nofun fun ⟨_, plan, h, _⟩ => h.ends hends
  · simp only [compile, if_neg hends, ← only_eq_some_iff_accepts hends]
    rcases db.only ((trimmed sql).length + 1) (trimmed sql) with e | _ | ⟨p', plan'⟩
    · simp
    · simp
    · simp only [Except.ok.injEq, Compiled.statement.injEq, Option.some.injEq, Prod.mk.injEq]
      constructor
      · rintro ⟨rfl, rfl, rfl⟩
        exact ⟨rfl, plan', ⟨rfl, rfl⟩, rfl⟩
      · rintro ⟨rfl, plan, ⟨rfl, rfl⟩, rfl⟩
        exact ⟨rfl, rfl, rfl⟩

/-- Only a statement has rows, if it can be fitted to the tables as they are. -/
theorem run_eq_done_iff {st : Compiled} : db.run cells st = (.done rows, db') ↔
    ∃ text p columns plan effect, st = .statement text p columns ∧
      checkCount cells.length p.parameters = .ok () ∧
      p.statement.plan text db.tables = .ok plan ∧
      plan.run db (cells.map Cell.asParameter) = .ok effect ∧
      effect.rows = rows ∧ effect.database = db' := by
  cases st with
  | endless => simp [run]
  -- an empty text is refused for whatever parameters
  | nothing =>
    refine iff_of_false (fun h => ?_) (by simp)
    rcases hcount : checkCount cells.length 0 with e | ⟨⟨⟩⟩
    · simp [run, hcount, Ending.ofExcept, Bind.bind, Except.bind] at h
    · simp [run, hcount, refuse, Ending.ofExcept, Bind.bind, Except.bind] at h
  | statement text p columns =>
    simp only [run, Compiled.statement.injEq]
    -- a wrong number of parameters
    rcases hcount : checkCount cells.length p.parameters with e | ⟨⟨⟩⟩
    · simp [hcount]
    -- the tables are not those any more that the statement was planned for
    rcases hplan : p.statement.plan text db.tables with e | plan
    · simp [hcount, hplan]
    rcases hrun : plan.run db (cells.map Cell.asParameter) with e | effect
    · simp [hcount, hplan, hrun]
    · simp [hcount, hplan, hrun]

/-- **A statement that has run is kept**, so a database is a driver as others rely on it. -/
instance : LawfulDriver Database where
  prepare_again {db db' sql st cells rows} hst hrun := by
    obtain ⟨text, p, columns, plan, effect, rfl, hcount, hplan, heffect, rfl, rfl⟩ :=
      run_eq_done_iff.mp hrun
    obtain ⟨rfl, plan', haccepts, rfl⟩ := compile_eq_statement_iff.mp hst
    cases hplan.symm.trans haccepts.fitted
    obtain ⟨plan', hplan', hcolumns⟩ := Statement.exists_plan_of_run hplan heffect
    have hends : sql ∉ effect.database.endless := (Plan.run_tables heffect).1 ▸ haccepts.ends
    exact compile_eq_statement_iff.mpr
      ⟨rfl, plan', ⟨hends, hplan', haccepts.parsed⟩, by rw [hcolumns]⟩

/-! ## What a statement does -/

variable {d : Database} {type : QueryType} {values : List Value} {rs : List ResultSet}

/-- A statement runs for a list of values if its text is accepted and its plan runs. -/
theorem executeSets_singleton_iff :
    Driver.executeSets db sql [values] type = (.done rs, db') ↔
      ∃ p plan effect r, db.Accepts sql p plan ∧ checkCount values.length p.parameters = .ok () ∧
        plan.run db ((Driver.cellsOf values).map Cell.asParameter) = .ok effect ∧
        Driver.resultOf (plan.columns.map Prod.fst) type effect.rows effect.database = .ok r ∧
        rs = [r] ∧ db' = effect.database := by
  have hlength : (Driver.cellsOf values).length = values.length := List.length_map _
  rw [Driver.executeSets_eq_done]
  constructor
  · -- the statement that was prepared ran once, and its answer is the only one
    rintro ⟨st, hst, hrun⟩
    obtain ⟨rows, r, hone, hset, rfl⟩ := Driver.runSets_singleton_iff.mp hrun
    obtain ⟨text, p, columns, plan, effect, rfl, hcount, hplan, heffect, rfl, rfl⟩ :=
      run_eq_done_iff.mp hone
    obtain ⟨rfl, plan', haccepts, rfl⟩ := compile_eq_statement_iff.mp hst
    -- it is planned for the tables that it was prepared with
    cases hplan.symm.trans haccepts.fitted
    exact ⟨p, plan, effect, r, haccepts, hlength ▸ hcount, heffect, hset, rfl, rfl⟩
  · rintro ⟨p, plan, effect, r, haccepts, hcount, heffect, hset, rfl, rfl⟩
    refine ⟨.statement (trimmed sql) p (plan.columns.map Prod.fst),
      compile_eq_statement_iff.mpr ⟨rfl, plan, haccepts, rfl⟩,
      Driver.runSets_singleton_iff.mpr ⟨effect.rows, r, ?_, hset, rfl⟩⟩
    exact run_eq_done_iff.mpr ⟨_, p, _, plan, effect, rfl, hlength ▸ hcount, haccepts.fitted,
      heffect, rfl, rfl⟩

/-- **What is executed is a matter of what the database holds.** -/
theorem executeSets_content (hd : db.content = d.content)
    (h : Driver.executeSets db sql [values] type = (.done rs, db')) :
    ∃ r d', Driver.executeSets d sql [values] type = (.done [r], d') ∧
      d'.content = db'.content := by
  obtain ⟨p, plan, effect, r, haccepts, hcount, heffect, hset, -, rfl⟩ :=
    executeSets_singleton_iff.mp h
  obtain ⟨htables, -, hendless⟩ := content_eq_iff.mp hd
  obtain ⟨effect', heffect', hrows, hcontent⟩ := Plan.run_content hd heffect
  obtain ⟨r', hset'⟩ := Driver.exists_resultOf hset effect'.database
  have haccepts' : d.Accepts sql p plan :=
    ⟨hendless ▸ haccepts.ends, htables ▸ haccepts.fitted, haccepts.parsed⟩
  exact ⟨r', effect'.database, executeSets_singleton_iff.mpr
    ⟨p, plan, effect', r', haccepts', hcount, heffect', hrows ▸ hset', rfl, rfl⟩, hcontent⟩

end Database

/-! ## The database as a backend -/

namespace Memory

variable {h h' g : Memory} {type : QueryType} {sql : String} {sets : List (List Value)}
  {values : List Value} {rs : List ResultSet}

/-- What a database holds, behind its lock. -/
def content (h : Memory) : Memory := { h with driver := h.driver.content }

/-- A statement is sent with some lists of values, and it runs for all of them. -/
def Sends (h : Memory) (type : QueryType) (sql : String) (sets : List (List Value))
    (rs : List ResultSet) (h' : Memory) : Prop :=
  h.waiting = none ∧ h'.waiting = none ∧
    Driver.executeSets h.driver sql sets type = (.done rs, h'.driver)

/-- Several lists of values are one and then the others. -/
theorem sends_cons_iff : Sends h type sql (values :: sets) rs h' ↔
    ∃ r h₁ rs', Sends h type sql [values] [r] h₁ ∧ Sends h₁ type sql sets rs' h' ∧
      rs = r :: rs' := by
  constructor
  · rintro ⟨hready, hready', hrun⟩
    obtain ⟨r, d₁, rs', hfirst, hrest, rfl⟩ := Driver.executeSets_cons_iff.mp hrun
    exact ⟨r, ⟨d₁, none⟩, rs', ⟨hready, rfl, hfirst⟩, ⟨rfl, hready', hrest⟩, rfl⟩
  · rintro ⟨r, h₁, rs', ⟨hready, -, hfirst⟩, ⟨-, hready', hrest⟩, rfl⟩
    exact ⟨hready, hready', Driver.executeSets_cons_iff.mpr ⟨r, h₁.driver, rs', hfirst, hrest, rfl⟩⟩

/-- What is sent is a matter of what the database holds. -/
theorem sends_content (hg : content h = content g) (hsends : Sends h type sql [values] rs h') :
    ∃ r g', Sends g type sql [values] [r] g' ∧ content g' = content h' := by
  obtain ⟨hready, hready', hrun⟩ := hsends
  obtain ⟨hdriver, hwaiting⟩ := Handle.mk.inj hg
  obtain ⟨r, d', hrun', hcontent⟩ := Database.executeSets_content hdriver hrun
  refine ⟨r, ⟨d', none⟩, ⟨hwaiting ▸ hready, rfl, hrun'⟩, ?_⟩
  rw [content, content, hready', hcontent]

/-- What an errand does to what a database holds. -/
def step (type : QueryType) (x : Errand) (h : Memory) : Option (Unit × Memory) :=
  let a := Backend.answer h (.sets x.sql [x.values] type)
  match a.reply with
  | .done _ => some ((), content a.backend)
  | _ => none

theorem step_eq_some {x : Errand} {u : Unit} : step type x h = some (u, g) ↔
    ∃ rs h', Sends h type x.sql [x.values] rs h' ∧ g = content h' := by
  rw [step]
  constructor
  · intro hstep
    split at hstep
    · rename_i rs hreply
      cases hstep
      exact ⟨rs, _, Handle.answer_eq_done.mp ⟨hreply, rfl⟩, rfl⟩
    · cases hstep
  · rintro ⟨rs, h', hsends, rfl⟩
    obtain ⟨hreply, hbackend⟩ := Handle.answer_eq_done.mpr hsends
    simp only [hreply, hbackend]

theorem walk_of_sends (hsends : Sends h type sql sets rs h') :
    walk (step type) (errands sql sets) (content h) = some (rs.map fun _ => (), content h') := by
  -- on the lists of values: each is an errand for the state behind those in front of it
  induction sets generalizing h rs with
  | nil =>
    obtain ⟨hready, hready', hrun⟩ := hsends
    obtain ⟨st, -, hrun⟩ := Driver.executeSets_eq_done.mp hrun
    obtain ⟨hrs, hdriver⟩ := Prod.mk.inj hrun
    cases hrs
    rw [content, content, hready, hready', ← hdriver]
    rfl
  | cons values sets ih =>
    obtain ⟨r, h₁, rs', hfirst, hrest, rfl⟩ := sends_cons_iff.mp hsends
    -- the state counts as its content only, which is what an errand goes by
    have hsame : content h = content (content h) := rfl
    obtain ⟨r', g₁, hfirst', hcontent⟩ := sends_content hsame hfirst
    have hstep : step type ⟨sql, values⟩ (content h) = some ((), content h₁) :=
      step_eq_some.mpr ⟨_, g₁, hfirst', hcontent.symm⟩
    have hwalk := ih hrest
    rw [errands] at hwalk
    rw [errands, List.map_cons, walk, hstep]
    simp only [Option.bind_some, hwalk, Option.map_some, List.map_cons]

theorem sends_of_walk {os : List Unit} (hne : sets ≠ [])
    (hwalk : walk (step type) (errands sql sets) (content h) = some (os, g)) :
    ∃ rs h', Sends h type sql sets rs h' := by
  induction sets generalizing h os with
  | nil => exact absurd rfl hne
  | cons values sets ih =>
    rw [errands, List.map_cons, walk] at hwalk
    obtain ⟨⟨u, g₁⟩, hstep, hwalk⟩ := Option.bind_eq_some_iff.mp hwalk
    obtain ⟨⟨us, g₂⟩, hwalk, hend⟩ := Option.map_eq_some_iff.mp hwalk
    cases hend
    obtain ⟨rs₀, g₁, hfirst, rfl⟩ := step_eq_some.mp hstep
    have hsame : content (content h) = content h := rfl
    obtain ⟨r, h₁, hfirst', hcontent⟩ := sends_content hsame hfirst
    -- behind the last list there is nothing left to send
    rcases sets with _ | ⟨values', sets⟩
    · exact ⟨[r], h₁, hfirst'⟩
    · rw [← hcontent] at hwalk
      obtain ⟨rs', h', hrest⟩ := ih (List.cons_ne_nil _ _) hwalk
      exact ⟨r :: rs', h', sends_cons_iff.mpr ⟨r, h₁, rs', hfirst', hrest, rfl⟩⟩

/-- **The database goes one step at a time.** -/
theorem stepwise (type : QueryType) :
    Stepwise Memory type content (fun _ => ()) (step type) where
  fired h sql sets := Handle.fired_answer h (.sets sql sets type)
  done _ _ _ _ _ hreply := walk_of_sends (Handle.answer_eq_done.mp ⟨hreply, rfl⟩)
  walked h sql sets hne hwalk := by
    obtain ⟨⟨os, g⟩, hwalk⟩ := Option.isSome_iff_exists.mp hwalk
    obtain ⟨rs, h', hsends⟩ := sends_of_walk hne hwalk
    exact ⟨rs, (Handle.answer_eq_done.mpr hsends).1⟩

end Memory

end Tabula.Sqlite
