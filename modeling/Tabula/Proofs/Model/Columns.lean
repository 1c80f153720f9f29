import Tabula.Proofs.Model.Writing
import Tabula.Proofs.Procedure.Obtaining
import Tabula.Proofs.Session.Executing
import Tabula.Proofs.Sorting.Stable

/-!
# The columns of a model

A model takes its columns from what was fetched last, and refuses to sort by any other. The rows may
come from sets with different columns, and a reconciliation keeps old rows in front of new ones; all
the same no row has a column that the model has not.

* `Model.IsCovered`: the columns of a model cover those of its rows.
* `Model.CallRun.isCovered`, `Model.Becomes.isCovered`: a call keeps it so, and so do all of them.
* `Model.columns_cover`: result sets, what is put together of them, and sorting.
-/

namespace Tabula

namespace Model

open ResultSet (Obtained)

/-- The columns of a model cover those of its rows, and what it fetches is obtained. -/
structure IsCovered (m : Model) : Prop where
  /-- what fetches the rows is genuine -/
  select : m.select.IsGenuine
  /-- the columns of each row are among those of the model -/
  named : ∀ r ∈ m.data, r.columns.names ⊆ m.columns

variable {δ : Type} [Sqlite.Driver δ] {m m' : Model} {s s' : Session (Store δ)}
  {es : List (Episode (Store δ))}

theorem IsCovered.congr (hm : m.IsCovered) (hselect : m'.select = m.select)
    (hdata : m'.data = m.data) (hcolumns : m'.columns = m.columns) : m'.IsCovered where
  select := hselect ▸ hm.select
  named := by
    rw [hdata, hcolumns]
    exact hm.named

theorem IsCovered.sameButWriter {kind : WriteKind} (hm : m.IsCovered)
    (h : SameButWriter kind m m') : m'.IsCovered :=
  hm.congr h.select h.snapshot.data h.snapshot.columns

/-! ## Fetching -/

theorem IsCovered.replace (hm : m.IsCovered) {rows : ResultSet} (hrows : rows.Obtained) :
    (m.replace rows).1.IsCovered :=
  ⟨hm.select, hrows.isTabular.named⟩

/-- Without columns there are no names in the rows either, so the old columns will do. -/
theorem IsCovered.refresh (hm : m.IsCovered) {rows : ResultSet} (hrows : rows.Obtained) :
    (m.refresh rows).1.IsCovered := by
  refine ⟨hm.select, fun r hr => ?_⟩
  have hnamed := hrows.isTabular.named r (mem_reconcile_iff.mp hr)
  change r.columns.names ⊆ if rows.columnNames.isEmpty then m.columns else rows.columnNames
  split
  next hempty =>
    rw [List.isEmpty_iff.mp hempty] at hnamed
    exact fun name hname => absurd (hnamed hname) List.not_mem_nil
  next => exact hnamed

theorem FetchRun.isCovered {diff : Bool} {o : Outcome RowChanges}
    (h : FetchRun m diff s o es m' s') (hm : m.IsCovered) : m'.IsCovered := by
  cases h with
  | failed hrun => exact ⟨(hm.select.execute hrun).1, hm.named⟩
  | @fetched rows p m₁ changes _ hrun hfetched =>
    obtain ⟨hp, hrows⟩ := hm.select.execute hrun
    have hstart : ({ m with select := p } : Model).IsCovered := ⟨hp, hm.named⟩
    have hend : m₁.IsCovered := by
      cases diff with
      | false =>
        cases hfetched
        exact hstart.replace (hrows rows rfl)
      | true =>
        cases hfetched
        exact hstart.refresh (hrows rows rfl)
    exact hend.congr rfl rfl rfl

/-! ## Calls -/

theorem AfterRun.isCovered {r : ResultSet} {o : Outcome ResultSet}
    (h : AfterRun m r s o es m' s') (hm : m.IsCovered) : m'.IsCovered := by
  have hwritten := hm.sameButWriter (sameButWriter_written .update m)
  cases h with
  | delayed hdelay => exact hwritten
  | fetch hdelay hfetch => exact hfetch.isCovered hwritten

theorem WriteRun.isCovered {kind : WriteKind} {rows : List Criterion} {o : Outcome ResultSet}
    (h : WriteRun m kind rows s o es m' s') (hm : m.IsCovered) : m'.IsCovered := by
  cases h with
  | nothing hrows => exact hm
  | absent hrows hwriter hafter => exact hafter.isCovered hm
  | refused hrows hwriter hinput => exact hm
  | failed hrows hwriter hinput hrun => exact hm.sameButWriter (sameButWriter_withWriter kind m _)
  | done hrows hwriter hinput hrun hafter =>
    exact hafter.isCovered (hm.sameButWriter (sameButWriter_withWriter kind m _))

theorem WriteAllRun.isCovered {writes : List (WriteKind × List Criterion)} {o : Outcome Unit}
    (h : WriteAllRun writes m s o es m' s') (hm : m.IsCovered) : m'.IsCovered := by
  induction h with
  | nil => exact hm
  | failed hfirst => exact hfirst.isCovered hm
  | cons hfirst hrest ih => exact ih (hfirst.isCovered hm)

theorem SynchronizeRun.isCovered {d : Diff} {o : Outcome RowChanges}
    (h : SynchronizeRun m d s o es m' s') (hm : m.IsCovered) : m'.IsCovered := by
  have hstart : m.synchronizing.IsCovered := hm.congr rfl rfl rfl
  cases h with
  | unwritten hwrites => exact (hwrites.isCovered hstart).congr rfl rfl rfl
  | unfetched hwrites hfetch =>
    exact hfetch.isCovered ((hwrites.isCovered hstart).congr rfl rfl rfl)
  | done hwrites hfetch => exact hfetch.isCovered ((hwrites.isCovered hstart).congr rfl rfl rfl)

/-- **A call leaves the rows covered.** -/
theorem CallRun.isCovered {call : Call} {o : Outcome Unit} (h : CallRun m s call o es m' s')
    (hm : m.IsCovered) : m'.IsCovered := by
  cases h with
  | select h => exact h.isCovered hm
  | write h => exact h.isCovered hm
  | synchronize h => exact h.isCovered hm
  | @sorted keys _ h =>
    rw [sort] at h
    split at h
    · cases h
    · cases h
      exact ⟨hm.select, fun r hr => hm.named r ((sortRows_perm keys m.data).mem_iff.mp hr)⟩
  | unsorted h => exact hm
  | delay => exact hm.congr rfl rfl rfl

theorem Becomes.isCovered {m₀ : Model} (h : Becomes (Store δ) m₀ m) (hm : m₀.IsCovered) :
    m.IsCovered := by
  induction h with
  | refl => exact hm
  | called h hrun ih =>
    obtain ⟨es, hcall⟩ := perform_run hrun
    exact hcall.isCovered ih

/-- **Columns cover rows.** In whatever an engine answers, and in whatever is made of answers by
putting sets together, removing repeated rows or all of them, and bringing the sets of several runs
down to one: if there are rows the columns are known, every row has a value for each of its own
columns, which are among those of the set, and it is counted. Putting another set to one leaves its
columns in front. So it is with a model, whatever was called on it since it had no rows, over
connections to servers and to databases that any driver runs: it can be sorted by every column of
its rows. -/
theorem columns_cover :
    (∀ s : ResultSet, s.Obtained → s.IsTabular) ∧
    (∀ (s t : ResultSet) (distinct : Bool), s.columnNames <+: (s.merge t distinct).columnNames) ∧
    ∀ (δ : Type) [Sqlite.Driver δ] (m₀ m : Model), m₀.select.IsGenuine → m₀.data = [] →
      Becomes (Store δ) m₀ m →
      (∀ r ∈ m.data, r.columns.names ⊆ m.columns) ∧
      ∀ keys : List SortKey, (∀ k ∈ keys, ∃ r ∈ m.data, k.column ∈ r.columns.names) →
        m.sort keys = .ok { m with data := sortRows keys m.data } := by
  refine ⟨fun s hs => hs.isTabular, fun s t distinct => ?_,
    fun δ _ m₀ m hselect hdata hcalled => ?_⟩
  · rw [ResultSet.columnNames_merge]
    exact List.prefix_append _ _
  · have hstart : m₀.IsCovered := ⟨hselect, by simp [hdata]⟩
    have hcovered := hcalled.isCovered hstart
    refine ⟨hcovered.named, fun keys hkeys => sort_ok fun k hk => ?_⟩
    obtain ⟨r, hr, hcolumn⟩ := hkeys k hk
    exact hcovered.named r hr hcolumn

/-- A model of two numbers. -/
def listing : Model where
  select := .routine (.prepared
    { connection := some 0, sql := "SELECT :n AS n", sets := Session.twoRows })

/-- The numbers are fetched. -/
def listed : (Outcome Unit × Model) × Session (Store Sqlite.Database) :=
  (listing.perform (.select false)).run Session.vacant

/-- Two answers with different columns, and a model that is sorted by its column. -/
theorem columns_cover_listing :
    (∃ s t : ResultSet, s.Obtained ∧ t.Obtained ∧ (s.merge t false).columnNames = ["a", "b"] ∧
      (s.merge t false).rows.length = 2 ∧ (s.merge t false).IsTabular) ∧
    listing.select.IsGenuine ∧ Becomes (Store Sqlite.Database) listing listed.1.2 ∧
    listed.1.2.data.length = 2 ∧
      listed.1.2.sort [{ column := "n", direction := .desc }] = .ok { listed.1.2 with
        data := sortRows [{ column := "n", direction := .desc }] listed.1.2.data } := by
  obtain ⟨htabular, -, hsorts⟩ := columns_cover
  constructor
  · have hanswered : (ResultSet.selected? "SELECT 1 AS a").any fun s =>
        (ResultSet.selected? "SELECT 2 AS b").any fun t => decide
          ((s.merge t false).columnNames = ["a", "b"] ∧ (s.merge t false).rows.length = 2) := by
      decide +kernel
    obtain ⟨s, hs, hanswered⟩ := (Option.any_eq_true ..).mp hanswered
    obtain ⟨t, ht, hanswered⟩ := (Option.any_eq_true ..).mp hanswered
    have hs : s.Obtained := ResultSet.obtained_of_selected? hs
    have ht : t.Obtained := ResultSet.obtained_of_selected? ht
    obtain ⟨hcolumns, hrows⟩ := of_decide_eq_true hanswered
    exact ⟨s, t, hs, ht, hcolumns, hrows, htabular _ (hs.merge ht false)⟩
  · have hbecomes : Becomes (Store Sqlite.Database) listing listed.1.2 :=
      .called .refl (run_of_answer rfl)
    have hlisted : listed.1.2.data.length = 2 ∧
        ∀ r ∈ listed.1.2.data, "n" ∈ r.columns.names := by decide +kernel
    refine ⟨trivial, hbecomes, hlisted.1, (hsorts _ listing _ trivial rfl hbecomes).2 _ ?_⟩
    obtain ⟨r, hr⟩ := List.exists_mem_of_length_pos (hlisted.1 ▸ Nat.two_pos)
    exact List.forall_mem_singleton.mpr ⟨r, hr, hlisted.2 r hr⟩

end Model

end Tabula
