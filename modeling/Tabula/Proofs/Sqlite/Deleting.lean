import Tabula.Proofs.Sqlite.Stepwise

/-!
# Deletions change places

Whether a row goes is a matter of the row and the parameters only. So two deletions from one table
leave the same in either order.

* `Memory.step_deletes_iff`: what a deletion does to what a database holds.
* `Memory.step_deletes_comm`: two of them, in either order.
-/

namespace Tabula.Sqlite

open Database (trimmed checkCount only_eq_none executeSets_singleton_iff)

namespace Memory

variable {h g g' : Memory} {db : Database} {type : QueryType} {x y : Errand} {r : TableRef}

/-- An errand removes rows of a table, those that meet a condition, and answers none of them: it is
such a statement with nothing behind it, and has its parameters. -/
def Deletes (x : Errand) (r : TableRef) (filter : Option WrittenExpr) : Prop :=
  ∃ p rest, parseFirst (trimmed x.sql) = .ok (some (p, rest)) ∧
    ({} : Database).only (trimmed x.sql).length rest = .ok none ∧
    p.statement = .delete r filter [] ∧ checkCount x.values.length p.parameters = .ok ()

/-- The table that an errand removes rows of, if it does nothing else. -/
def deletedFrom? (x : Errand) : Option TableRef :=
  match parseFirst (trimmed x.sql) with
  | .ok (some (⟨.delete r _ [], n⟩, rest)) =>
    match ({} : Database).only (trimmed x.sql).length rest with
    | .ok none => if x.values.length = n then some r else none
    | _ => none
  | _ => none

theorem exists_deletes (hfrom : deletedFrom? x = some r) : ∃ filter, Deletes x r filter := by
  rw [deletedFrom?] at hfrom
  split at hfrom
  case h_2 => cases hfrom
  case h_1 r' filter n rest hparsed =>
    split at hfrom
    case h_2 => cases hfrom
    case h_1 hrest =>
      obtain ⟨hcount, hr⟩ := Option.ite_none_right_eq_some.mp hfrom
      cases hr
      exact ⟨filter, _, rest, hparsed, hrest, rfl, if_pos hcount⟩

/-- The parameters of an errand. -/
def parametersOf (x : Errand) : List Cell := (Driver.cellsOf x.values).map Cell.asParameter

/-- The rows that stay. -/
def staying (x : Errand) (filter : Option RowExpr) (rs : List Record) : List Record :=
  rs.filter fun r => !meets (Table.scope (parametersOf x) r) filter

variable {filter filter' : Option WrittenExpr}

/-- The plan of a deletion. -/
theorem plan_delete_eq_ok {sql : String} {tables : List Table} {plan : Plan} :
    (Statement.delete r filter []).plan sql tables = .ok plan ↔ ∃ t f, r.find tables = .ok t ∧
      filter.mapM (Expr.resolve sql (.ofRef r t)) = .ok f ∧ plan = .delete t f [] := by
  rw [Statement.plan, bind_eq_ok]
  constructor
  · rintro ⟨t, ht, h⟩
    obtain ⟨f, hf, h⟩ := bind_eq_ok.mp h
    obtain ⟨cs, hcs, h⟩ := bind_eq_ok.mp h
    cases hcs
    cases h
    exact ⟨t, f, ht, hf, rfl⟩
  · rintro ⟨t, f, ht, hf, rfl⟩
    exact ⟨t, ht, bind_eq_ok.mpr ⟨f, hf, rfl⟩⟩

theorem run_delete (db : Database) (x : Errand) (t : Table) (f : Option RowExpr) :
    ∃ effect, (Plan.delete t f []).run db (parametersOf x) = .ok effect ∧
      effect.database.content =
        (db.withTable (t.withRecords (staying x f t.records))).content := by
  refine ⟨_, rfl, ?_⟩
  have hkept : (t.records.partition fun r => meets (Table.scope (parametersOf x) r) f).2 =
      staying x f t.records := by
    rw [List.partition_eq_filter_filter]
    rfl
  rw [← hkept]
  rfl

/-- **What a deletion does**: the rows that do not meet its condition stay. -/
theorem step_deletes_iff (hx : Deletes x r filter) {u : Unit} :
    step type x h = some (u, g) ↔ h.waiting = none ∧ x.sql ∉ h.driver.endless ∧
      ∃ t f, r.find h.driver.tables = .ok t ∧
        filter.mapM (Expr.resolve (trimmed x.sql) (.ofRef r t)) = .ok f ∧
        g = content { h with
          driver := h.driver.withTable (t.withRecords (staying x f t.records)) } := by
  obtain ⟨p, rest, hparsed, hrest, hstatement, hcount⟩ := hx
  rw [step_eq_some]
  constructor
  · rintro ⟨rs, h', ⟨hready, hready', hrun⟩, rfl⟩
    obtain ⟨p', plan, effect, _, ⟨hends, hplan, _, hparsed', -⟩, -, heffect, -, -, hleft⟩ :=
      executeSets_singleton_iff.mp hrun
    rw [hparsed] at hparsed'
    cases hparsed'
    rw [hstatement] at hplan
    obtain ⟨t, f, ht, hf, rfl⟩ := plan_delete_eq_ok.mp hplan
    obtain ⟨effect', heffect', hcontent⟩ := run_delete h.driver x t f
    cases heffect.symm.trans heffect'
    refine ⟨hready, hends, t, f, ht, hf, ?_⟩
    rw [content, content, hready, hready', hleft, hcontent]
  · rintro ⟨hready, hends, t, f, ht, hf, rfl⟩
    have hplan : p.statement.plan (trimmed x.sql) h.driver.tables = .ok (.delete t f []) := by
      rw [hstatement]
      exact plan_delete_eq_ok.mpr ⟨t, f, ht, hf, rfl⟩
    obtain ⟨effect, heffect, hcontent⟩ := run_delete h.driver x t f
    refine ⟨_, ⟨effect.database, none⟩, ⟨hready, rfl, executeSets_singleton_iff.mpr
      ⟨p, _, effect, _, ⟨hends, hplan, rest, hparsed, hrest⟩, hcount, heffect, rfl, rfl, rfl⟩⟩, ?_⟩
    rw [content, content, hready, hcontent]

/-- Of two changes to the rows of a table the second counts. -/
theorem withTable_withTable (db : Database) (t : Table) (rs rs' : List Record) :
    (db.withTable (t.withRecords rs)).withTable (t.withRecords rs') =
      db.withTable (t.withRecords rs') := by
  simp only [Database.withTable, List.map_map]
  congr 1
  refine List.map_congr_left fun s _ => ?_
  by_cases hs : s.name = t.name
  · simp [hs, Table.withRecords]
  · simp [hs, Table.withRecords]

/-- What one deletion leaves another one can still be made of, and the other way round. -/
theorem step_deletes_swap (hx : Deletes x r filter) (hy : Deletes y r filter') {u u' : Unit}
    (hleft : step type x h = some (u, g)) (hright : step type y g = some (u', g')) :
    ∃ g₁, step type y h = some (u', g₁) ∧ step type x g₁ = some (u, g') := by
  obtain ⟨hready, hends, t, f, ht, hf, rfl⟩ := (step_deletes_iff hx).mp hleft
  obtain ⟨-, hends', t', f', ht', hf', rfl⟩ := (step_deletes_iff hy).mp hright
  -- the second finds the table that the first has left
  have hsame : t' = t.withRecords (staying x f t.records) := by
    have hfind := TableRef.find_withTable ht (staying x f t.records)
    exact Except.ok.inj (ht'.symm.trans hfind)
  subst hsame
  have hf₀ : filter'.mapM (Expr.resolve (trimmed y.sql) (.ofRef r t)) = .ok f' := by
    rw [← hf']
    exact congrArg filter'.mapM (Statement.resolve_withRecords _ (.ofRef r t) _).symm
  have hf₁ : filter.mapM (Expr.resolve (trimmed x.sql)
      (.ofRef r (t.withRecords (staying y f' t.records)))) = .ok f := by
    rw [← hf]
    exact congrArg filter.mapM (Statement.resolve_withRecords _ (.ofRef r t) _)
  refine ⟨_, (step_deletes_iff hy).mpr ⟨hready, hends', t, f', ht, hf₀, rfl⟩,
    (step_deletes_iff hx).mpr
      ⟨hready, hends, _, f, TableRef.find_withTable ht _, hf₁, ?_⟩⟩
  have hcomm : staying y f' (staying x f t.records) = staying x f (staying y f' t.records) :=
    List.filter_comm ..
  have hxy := withTable_withTable h.driver t (staying x f t.records)
    (staying y f' (staying x f t.records))
  have hyx := withTable_withTable h.driver t (staying y f' t.records)
    (staying x f (staying y f' t.records))
  exact (congrArg (fun db => content { h with driver := db }) hxy).trans
    (hcomm ▸ (congrArg (fun db => content { h with driver := db }) hyx).symm)

/-- **Two deletions from one table** leave the same in either order. -/
theorem step_deletes_comm (hx : Deletes x r filter) (hy : Deletes y r filter') :
    ((step type x h).map Prod.snd).bind (fun g => (step type y g).map Prod.snd) =
      ((step type y h).map Prod.snd).bind fun g => (step type x g).map Prod.snd := by
  have hone {x y : Errand} {filter filter' : Option WrittenExpr} (hx : Deletes x r filter)
      (hy : Deletes y r filter') {g : Memory}
      (hg : ((step type x h).map Prod.snd).bind (fun g => (step type y g).map Prod.snd) = some g) :
      ((step type y h).map Prod.snd).bind (fun g => (step type x g).map Prod.snd) = some g := by
    obtain ⟨g₁, h₁, h₂⟩ := Option.bind_eq_some_iff.mp hg
    obtain ⟨⟨u, g₁⟩, hleft, rfl⟩ := Option.map_eq_some_iff.mp h₁
    obtain ⟨⟨u', g₂⟩, hright, rfl⟩ := Option.map_eq_some_iff.mp h₂
    obtain ⟨g', hfirst, hsecond⟩ := step_deletes_swap hx hy hleft hright
    exact Option.bind_eq_some_iff.mpr ⟨g', by rw [hfirst]; rfl, by rw [hsecond]; rfl⟩
  exact Option.ext fun g => ⟨hone hx hy, hone hy hx⟩

end Memory

end Tabula.Sqlite
