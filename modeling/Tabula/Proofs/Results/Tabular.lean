import Tabula.Proofs.Results.Algebra
import Tabula.Proofs.Session.InTurn

/-!
# Result sets as tables

What an engine answers is a table: its rows have its columns, with a value for each. When sets are
put together every row keeps its own columns, and the columns of the set grow by those that it
lacks. So they are always enough for all of its rows.

* `ResultSet.IsTabular`: how the rows of a set stand to its columns and its count.
* `ResultSet.Obtained`: what can be made of the answers of either engine.
* `ResultSet.Obtained.isTabular`: all of that is tabular.
-/

namespace Tabula

/-- A row has a value for each of its columns. -/
def Row.IsFull (r : Row) : Prop := r.values.length = r.columns.names.length

namespace ResultSet

/-- How the rows of a set stand to its columns and its count. -/
structure IsTabular (s : ResultSet) : Prop where
  /-- if there are rows, the columns are known -/
  known : s.rows ≠ [] → s.columns ≠ none
  /-- every row has a value for each of its own columns -/
  full : ∀ r ∈ s.rows, r.IsFull
  /-- and these are among the columns of the set -/
  named : ∀ r ∈ s.rows, r.columns.names ⊆ s.columnNames
  /-- every row is counted -/
  counted : s.rows.length ≤ s.affected

variable {s t : ResultSet}

/-! ## Columns of sets that are put together -/

theorem columnNames_append (s t : ResultSet) :
    (s.append t).columnNames = joinNames s.columnNames t.columnNames := by
  change ((mergeColumns s.columns t.columns).map Columns.names).getD [] = _
  rcases hs : s.columns with _ | a
  · rw [mergeColumns_none_left, columnNames, columnNames, hs]
    exact (List.filter_eq_self.mpr (by simp)).symm
  rcases ht : t.columns with _ | b
  · rw [mergeColumns_none_right, columnNames, columnNames, hs, ht]
    exact (List.append_nil _).symm
  · rw [mergeColumns_some, columnNames, columnNames, hs, ht]
    rfl

theorem columnNames_merge (s t : ResultSet) (distinct : Bool) :
    (s.merge t distinct).columnNames = joinNames s.columnNames t.columnNames := by
  rw [← columnNames_append, merge]
  split <;> rfl

theorem mergeColumns_eq_none {a b : Option Columns} :
    mergeColumns a b = none ↔ a = none ∧ b = none := by
  cases a with
  | none => rw [mergeColumns_none_left, eq_self, true_and]
  | some a =>
    cases b with
    | none => rw [mergeColumns_none_right, eq_self, and_true]
    | some b => simp [mergeColumns_some]

/-! ## What keeps a set tabular -/

/-- What an engine answers is tabular. -/
theorem IsAnswer.isTabular {type : QueryType} (h : IsAnswer type s) : s.IsTabular := by
  cases h with
  | counted => exact ⟨absurd rfl, by simp, by simp, Nat.zero_le _⟩
  | rows hcolumns hrows =>
    refine ⟨fun _ => nofun, ?_, ?_, Nat.le_of_eq (List.length_map _)⟩
    · exact List.forall_mem_map.mpr hrows
    · exact List.forall_mem_map.mpr fun _ _ => List.Subset.refl _

/-- Rows may be left out. -/
theorem IsTabular.sublist (h : s.IsTabular) (hrows : t.rows.Sublist s.rows)
    (hcolumns : t.columns = s.columns) (haffected : t.affected = s.affected) : t.IsTabular where
  known hne := by
    rw [hcolumns]
    refine h.known fun hnil => hne ?_
    rwa [hnil, List.sublist_nil] at hrows
  full r hr := h.full r (hrows.subset hr)
  named r hr := by
    rw [columnNames, hcolumns]
    exact h.named r (hrows.subset hr)
  counted := by
    rw [haffected]
    exact Nat.le_trans hrows.length_le h.counted

theorem IsTabular.dedup (h : s.IsTabular) : s.dedup.IsTabular := by
  refine h.sublist ?_ rfl rfl
  have hsublist : s.dedup.rows.Sublist (s.rows.zipIdx.map Prod.fst) := by
    rw [dedup_rows]
    exact List.filter_sublist.map Prod.fst
  rwa [List.zipIdx_map_fst] at hsublist

theorem IsTabular.clearRows (h : s.IsTabular) : s.clearRows.IsTabular :=
  h.sublist (List.nil_sublist _) rfl rfl

theorem IsTabular.append (hs : s.IsTabular) (ht : t.IsTabular) : (s.append t).IsTabular where
  known hne hnone := by
    obtain ⟨hs', ht'⟩ := mergeColumns_eq_none.mp hnone
    refine hne (List.append_eq_nil_iff.mpr ⟨?_, ?_⟩)
    · exact of_not_not fun hrows => hs.known hrows hs'
    · exact of_not_not fun hrows => ht.known hrows ht'
  full := List.forall_mem_append.mpr ⟨hs.full, ht.full⟩
  named := by
    rw [columnNames_append]
    refine List.forall_mem_append.mpr ⟨fun r hr name hname => ?_, fun r hr name hname => ?_⟩
    · exact mem_joinNames.mpr (.inl (hs.named r hr hname))
    · exact mem_joinNames.mpr (.inr (ht.named r hr hname))
  counted := by
    change (s.rows ++ t.rows).length ≤ s.affected + t.affected
    rw [List.length_append]
    exact Nat.add_le_add hs.counted ht.counted

theorem IsTabular.merge (hs : s.IsTabular) (ht : t.IsTabular) (distinct : Bool) :
    (s.merge t distinct).IsTabular := by
  rw [ResultSet.merge]
  split
  · exact (hs.append ht).dedup
  · exact hs.append ht

theorem isTabular_empty : IsTabular {} := ⟨absurd rfl, by simp, by simp, Nat.le_refl 0⟩

theorem isTabular_combine {sets : List ResultSet} (h : ∀ s ∈ sets, s.IsTabular) :
    (combine sets).IsTabular := by
  rw [combine_eq_foldl]
  refine List.foldlRecOn sets _ isTabular_empty fun s hs t ht => ?_
  exact hs.merge (h t ht) false

theorem IsTabular.shape (h : s.IsTabular) (c : Combination) : (c.shape s).IsTabular := by
  cases c with
  | none => exact ⟨absurd rfl, by simp [Combination.shape], by simp [Combination.shape],
      Nat.zero_le _⟩
  | array => exact h
  | union => exact h.dedup
  | unionAll => exact h
  | fieldsOnly => exact h.clearRows

/-! ## What can be made of answers -/

/-- A set that either engine answers, whatever driver runs the statements of an embedded database,
or that is made of such sets. -/
inductive Obtained : ResultSet → Prop
  /-- it is the answer for one of the lists that a statement was run for -/
  | answered {δ : Type} [Sqlite.Driver δ] {b : Store δ} {sql : String} {lists : List (List Value)}
      {type : QueryType}
    {rs : List ResultSet} {r : ResultSet}
    (hreply : (Backend.answer b (.sets sql lists type)).reply = .done rs) (hr : r ∈ rs) :
    Obtained r
  /-- two sets are put together -/
  | merge {s t : ResultSet} (hs : Obtained s) (ht : Obtained t) (distinct : Bool) :
    Obtained (s.merge t distinct)
  /-- repeated rows are removed -/
  | dedup {s : ResultSet} (hs : Obtained s) : Obtained s.dedup
  /-- all rows are removed -/
  | clearRows {s : ResultSet} (hs : Obtained s) : Obtained s.clearRows
  /-- the sets of several runs are brought down to one -/
  | collapse {sets : List ResultSet} {c : Combination} {r : ResultSet}
    (hsets : ∀ s ∈ sets, Obtained s) (hr : Tabula.collapse sets c = .ok r) : Obtained r

/-- **However answers are put together, the columns of a set cover those of its rows.** -/
theorem Obtained.isTabular (h : Obtained s) : s.IsTabular := by
  induction h with
  | answered hreply hr => exact (Store.isAnswer_of_done hreply _ hr).isTabular
  | merge _ _ distinct hs ht => exact hs.merge ht distinct
  | dedup _ hs => exact hs.dedup
  | clearRows _ hs => exact hs.clearRows
  | @collapse sets c r _ hr hsets =>
    rw [Tabula.collapse] at hr
    split at hr
    · cases hr
    · cases hr
      exact (isTabular_combine hsets).shape c

/-- What an empty database answers to a query, if that is one set. -/
def selected? (sql : String) : Option ResultSet :=
  match (Backend.answer (Store.embedded { driver := ({} : Sqlite.Database) })
    (.sets sql [[]] .select)).reply with
  | .done [s] => some s
  | _ => none

theorem obtained_of_selected? {sql : String} (h : selected? sql = some s) : s.Obtained := by
  rw [selected?] at h
  split at h
  next hreply =>
    cases h
    exact .answered hreply List.mem_cons_self
  next => cases h

end ResultSet

end Tabula
