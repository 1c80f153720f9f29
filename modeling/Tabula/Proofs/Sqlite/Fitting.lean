import Tabula.Proofs.Template.Analysis
import Tabula.Sqlite.Database

/-!
# Statements fitted to tables whose rows have changed

A statement is fitted to the names and the columns of tables; their rows are of no matter.

* `Names.meaning?_withRecords`: what a name means is no matter of the rows.
* `Statement.exists_plan`: what was fitted to some tables can be fitted to those with other rows.
-/

namespace Tabula.Sqlite

/-! ## Names -/

namespace Expr

variable {n m : Names}

mutual

theorem fault_congr (h : ∀ c, n.meaning? c = m.meaning? c) (found : Option NameFault) :
    (e : WrittenExpr) → fault n found e = fault m found e
  | .cell _ => rfl
  | .whole _ => rfl
  | .truth _ => rfl
  | .parameter _ => rfl
  | .column c => by rw [fault, fault, h c]
  | .apply op es => by
    rw [fault, fault]
    cases op.fault? found with
    | some found => simp only [faultOf_congr h found es]
    | none => simp only [faultOf_congr h none es]

theorem faultOf_congr (h : ∀ c, n.meaning? c = m.meaning? c) (found : Option NameFault) :
    (es : List WrittenExpr) → faultOf n found es = faultOf m found es
  | [] => rfl
  | e :: es => by
    rw [faultOf, faultOf, fault_congr h found e]
    rcases fault m found e with ⟨found', _ | _⟩
    · exact faultOf_congr h found' es
    · rfl

end

theorem resolve_congr (h : ∀ c, n.meaning? c = m.meaning? c) (sql : String) :
    resolve sql n = resolve sql m := by
  funext e
  have hmeaning : n.meaning? = m.meaning? := funext h
  rw [resolve, resolve, fault_congr h, hmeaning]

end Expr

/-! ## Other rows -/

/-- The table with other rows. -/
def Table.withRecords (t : Table) (rs : List Record) : Table := { t with records := rs }

namespace Names

/-- The same names over a table with other rows. -/
def withRecords (n : Names) (rs : List Record) : Names :=
  { n with table := n.table.map (·.withRecords rs) }

theorem meaning?_withRecords (n : Names) (rs : List Record) (c : ColumnRef) :
    (n.withRecords rs).meaning? c = n.meaning? c := by
  rcases n with ⟨_ | t, called, inDatabase, given⟩ <;> rfl

end Names

namespace Statement

variable (sql : String) (n : Names) (rs : List Record) (t : Table)

theorem resolve_withRecords :
    Expr.resolve sql (n.withRecords rs) = Expr.resolve sql n :=
  Expr.resolve_congr (n.meaning?_withRecords rs) sql

theorem defaultName_withRecords (e : RowExpr) (source : String) :
    defaultName (n.withRecords rs) e source = defaultName n e source := by
  rcases n with ⟨_ | t, called, inDatabase, given⟩
  · rfl
  · cases e <;> rfl

theorem expand_withRecords : expand sql (n.withRecords rs) = expand sql n := by
  funext c
  cases c with
  | expr e name source =>
    simp only [expand, resolve_withRecords, defaultName_withRecords]
  | _ => rcases n with ⟨_ | t, called, inDatabase, given⟩ <;> rfl

theorem expandAll_withRecords (cs : List ResultColumn) :
    expandAll sql (n.withRecords rs) cs = expandAll sql n cs := by
  have hwidth : checkWidth (n.withRecords rs) cs = checkWidth n cs := by
    rcases n with ⟨_ | t, called, inDatabase, given⟩ <;> rfl
  have hstar : checkStar (n.withRecords rs) = checkStar n := by
    funext c
    rcases n with ⟨_ | t, called, inDatabase, given⟩ <;> rfl
  rw [expandAll, expandAll, expand_withRecords, hwidth, hstar]

theorem expandReturning_withRecords (cs : List ResultColumn) :
    expandReturning sql (t.withRecords rs) cs = expandReturning sql t cs := by
  have hexpand : expand sql (.returning (t.withRecords rs)) = expand sql (.returning t) :=
    expand_withRecords sql (.returning t) rs
  have hwidth : checkWidth (.returning (t.withRecords rs)) cs = checkWidth (.returning t) cs := rfl
  rw [expandReturning, expandReturning, hexpand, hwidth]

theorem givenNames_withRecords (cs : List ResultColumn) :
    givenNames sql (n.withRecords rs) cs = givenNames sql n cs := by
  rw [givenNames, givenNames, expand_withRecords]

theorem orderKeys_withRecords (columns : List (String × RowExpr)) (terms : List OrderTerm) :
    orderKeys sql (n.withRecords rs) columns terms = orderKeys sql n columns terms := by
  have hkey : orderKey sql (n.withRecords rs) = orderKey sql n := by
    funext width i t
    have hgiven : (n.withRecords rs).given? = n.given? := rfl
    rw [orderKey, orderKey, resolve_withRecords, hgiven]
  rw [orderKeys, orderKeys, hkey]

theorem assignment_withRecords :
    assignment sql (n.withRecords rs) (t.withRecords rs) = assignment sql n t := by
  funext a
  rw [assignment, assignment, resolve_withRecords]
  rfl

/-- The table that a statement is about. -/
def target? : Statement → Option TableRef
  | .select _ table _ _ => table
  | .insert _ r _ _ _ => some r
  | .update r _ _ _ => some r
  | .delete r _ _ => some r
  | _ => none

variable {sql} {tables tables' : List Table} {st : Statement}

/-- **Fitting a statement goes by the names and the columns.** So do the columns of its answer. -/
theorem exists_plan (h : ∀ r t, st.target? = some r → r.find tables = .ok t →
      ∃ rs, r.find tables' = .ok (t.withRecords rs))
    {plan : Plan} (hplan : st.plan sql tables = .ok plan) :
    ∃ plan', st.plan sql tables' = .ok plan' ∧ plan'.columns = plan.columns := by
  cases st with
  | select columns table filter order =>
    rw [Statement.plan] at hplan ⊢
    obtain ⟨t, ht, hplan⟩ := bind_eq_ok.mp hplan
    cases table with
    | none =>
      cases ht
      exact ⟨plan, bind_eq_ok.mpr ⟨none, rfl, hplan⟩, rfl⟩
    | some r =>
      obtain ⟨t, hfind, ht⟩ := bind_eq_ok.mp ht
      cases ht
      obtain ⟨rs, ht'⟩ := h r t rfl hfind
      obtain ⟨answer, hanswer, hplan⟩ := bind_eq_ok.mp hplan
      obtain ⟨f, hf, hplan⟩ := bind_eq_ok.mp hplan
      obtain ⟨keys, hkeys, hplan⟩ := bind_eq_ok.mp hplan
      cases hplan
      have hgiven := givenNames_withRecords sql (.ofRef r t) rs columns
      refine ⟨.select (t.withRecords rs) answer f keys,
        bind_eq_ok.mpr ⟨some (t.withRecords rs), bind_eq_ok.mpr ⟨_, ht', rfl⟩,
          bind_eq_ok.mpr ⟨answer,
            (expandAll_withRecords sql (.ofRef r t) rs columns).trans hanswer,
            bind_eq_ok.mpr ⟨f, ?_, bind_eq_ok.mpr ⟨keys, ?_, rfl⟩⟩⟩⟩, rfl⟩
      · rw [← hf]
        refine congrArg filter.mapM (.trans ?_ (resolve_withRecords sql _ rs))
        exact congrArg (fun given => Expr.resolve sql
          { Names.ofRef r (t.withRecords rs) with given := given }) hgiven
      · rw [← hkeys]
        refine .trans ?_ (orderKeys_withRecords sql _ rs answer order)
        exact congrArg (fun given => orderKeys sql
          { Names.ofRef r (t.withRecords rs) with given := given } answer order) hgiven
  | insert orIgnore r columns rows returning =>
    rw [Statement.plan] at hplan ⊢
    split at hplan
    · cases hplan
    rename_i hwidths
    rw [if_neg hwidths]
    obtain ⟨t, ht, hplan⟩ := bind_eq_ok.mp hplan
    obtain ⟨news, hnews, hplan⟩ := bind_eq_ok.mp hplan
    obtain ⟨cs, hcs, hplan⟩ := bind_eq_ok.mp hplan
    cases hplan
    obtain ⟨rs, ht'⟩ := h r t rfl ht
    exact ⟨_, bind_eq_ok.mpr ⟨_, ht', bind_eq_ok.mpr ⟨news, hnews, bind_eq_ok.mpr
      ⟨cs, (expandReturning_withRecords sql rs t returning).trans hcs, rfl⟩⟩⟩, rfl⟩
  | update r cells filter returning =>
    rw [Statement.plan] at hplan ⊢
    split at hplan
    · cases hplan
    rename_i hwidth
    rw [if_neg hwidth]
    obtain ⟨t, ht, hplan⟩ := bind_eq_ok.mp hplan
    obtain ⟨changes, hchanges, hplan⟩ := bind_eq_ok.mp hplan
    obtain ⟨f, hf, hplan⟩ := bind_eq_ok.mp hplan
    obtain ⟨cs, hcs, hplan⟩ := bind_eq_ok.mp hplan
    cases hplan
    obtain ⟨rs, ht'⟩ := h r t rfl ht
    refine ⟨.update (t.withRecords rs) changes f cs,
      bind_eq_ok.mpr ⟨_, ht', bind_eq_ok.mpr ⟨changes, ?_, bind_eq_ok.mpr ⟨f, ?_,
        bind_eq_ok.mpr
          ⟨cs, (expandReturning_withRecords sql rs t returning).trans hcs, rfl⟩⟩⟩⟩, rfl⟩
    · rw [← hchanges]
      exact congrArg cells.mapM (assignment_withRecords sql (.ofRef r t) rs t)
    · rw [← hf]
      exact congrArg filter.mapM (resolve_withRecords sql (.ofRef r t) rs)
  | delete r filter returning =>
    rw [Statement.plan] at hplan ⊢
    obtain ⟨t, ht, hplan⟩ := bind_eq_ok.mp hplan
    obtain ⟨f, hf, hplan⟩ := bind_eq_ok.mp hplan
    obtain ⟨cs, hcs, hplan⟩ := bind_eq_ok.mp hplan
    cases hplan
    obtain ⟨rs, ht'⟩ := h r t rfl ht
    refine ⟨.delete (t.withRecords rs) f cs, bind_eq_ok.mpr ⟨_, ht', bind_eq_ok.mpr ⟨f, ?_,
      bind_eq_ok.mpr
        ⟨cs, (expandReturning_withRecords sql rs t returning).trans hcs, rfl⟩⟩⟩, rfl⟩
    rw [← hf]
    exact congrArg filter.mapM (resolve_withRecords sql (.ofRef r t) rs)
  | «begin» => exact ⟨plan, hplan, rfl⟩
  | commit => exact ⟨plan, hplan, rfl⟩
  | rollback => exact ⟨plan, hplan, rfl⟩

end Statement

end Tabula.Sqlite
