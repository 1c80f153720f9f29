import Mathlib.Algebra.Ring.Nat
import Mathlib.Data.List.Perm.Basic
import Tabula.Proofs.Distinct
import Tabula.Proofs.Results.Hashing

/-!
# Result sets put together

Of several result sets that are put together the rows and the keys stand behind each other, and the
counts are added up. So their order is of no matter, but for the order of the rows and the keys. The
same is left if each was brought down to one before.

* `combine_rows`, `combine_affected`, `combine_keys`: what is put together.
* `ResultSet.mem_dedup`, `ResultSet.nodup_dedup`: what is left of repeated rows.
* `collapse_shaped`: in any order, and after each was brought down.
-/

namespace Tabula

/-! ## What is put together -/

theorem foldl_append_rows (s : ResultSet) (rs : List ResultSet) :
    (rs.foldl ResultSet.append s).rows = s.rows ++ rs.flatMap ResultSet.rows := by
  induction rs generalizing s with
  | nil => simp
  | cons r rs ih => simp [ih, ResultSet.append]

theorem foldl_append_affected (s : ResultSet) (rs : List ResultSet) :
    (rs.foldl ResultSet.append s).affected =
      s.affected + (rs.map ResultSet.affected).sum := by
  induction rs generalizing s with
  | nil => simp
  | cons r rs ih => simp [ih, ResultSet.append, Nat.add_assoc]

theorem foldl_append_keys (s : ResultSet) (rs : List ResultSet) :
    (rs.foldl ResultSet.append s).keys = s.keys ++ rs.flatMap ResultSet.keys := by
  induction rs generalizing s with
  | nil => simp
  | cons r rs ih => simp [ih, ResultSet.append]

theorem combine_rows (rs : List ResultSet) : (combine rs).rows = rs.flatMap ResultSet.rows := by
  cases rs with
  | nil => rfl
  | cons r rs => exact foldl_append_rows r rs

theorem combine_affected (rs : List ResultSet) :
    (combine rs).affected = (rs.map ResultSet.affected).sum := by
  cases rs with
  | nil => rfl
  | cons r rs => exact foldl_append_affected r rs

theorem combine_keys (rs : List ResultSet) : (combine rs).keys = rs.flatMap ResultSet.keys := by
  cases rs with
  | nil => rfl
  | cons r rs => exact foldl_append_keys r rs

/-! ## Repeated rows -/

namespace ResultSet

theorem nodup_dedup (s : ResultSet) : s.dedup.rows.Nodup :=
  (nodup_eraseDupsBy Row.isTwin_iff_eq s.rows).1

theorem mem_dedup {s : ResultSet} {r : Row} : r ∈ s.dedup.rows ↔ r ∈ s.rows :=
  (nodup_eraseDupsBy Row.isTwin_iff_eq s.rows).2 r

end ResultSet

/-! ## Bringing result sets down to one -/

/-- The same is in both, in some order. -/
structure ResultSet.Same (s t : ResultSet) : Prop where
  /-- the rows, each as often -/
  rows : s.rows.Perm t.rows
  /-- the counts -/
  affected : s.affected = t.affected
  /-- the keys, each as often -/
  keys : s.keys.Perm t.keys

/-- Rows are kept, all of them or each once. -/
def Combination.IsUnion (k : Combination) : Prop := k = .unionAll ∨ k = .union

variable {k : Combination} {rs rs' : List ResultSet}

theorem collapse_of_isUnion (hk : k.IsUnion) (rs : List ResultSet) :
    collapse rs k = .ok (k.shape (combine rs)) := by
  rw [collapse, if_neg]
  rintro ⟨rfl, -⟩
  rcases hk with hk | hk <;> cases hk

/-- **In another order the same is put together**, also if each set was brought down to one
before. -/
theorem collapse_shaped (hk : k.IsUnion) (h : rs.Perm rs') :
    (k.shape (combine rs)).Same (k.shape (combine (rs'.map k.shape))) := by
  rcases hk with rfl | rfl
  · -- all rows are kept
    have hshape : rs'.map Combination.unionAll.shape = rs' := List.map_id' rs'
    rw [hshape]
    change (combine rs).Same (combine rs')
    refine ⟨?_, ?_, ?_⟩
    · rw [combine_rows, combine_rows]
      exact h.flatMap_right _
    · rw [combine_affected, combine_affected]
      exact (h.map _).sum_nat
    · rw [combine_keys, combine_keys]
      exact h.flatMap_right _
  · -- each row is kept once, however often it was left before
    change (combine rs).dedup.Same (combine (rs'.map ResultSet.dedup)).dedup
    refine ⟨?_, ?_, ?_⟩
    · refine (List.perm_ext_iff_of_nodup (ResultSet.nodup_dedup _) (ResultSet.nodup_dedup _)).mpr
        fun r => ?_
      simp only [ResultSet.mem_dedup, combine_rows, List.mem_flatMap, List.mem_map,
        exists_exists_and_eq_and, h.mem_iff]
    · change (combine rs).affected = (combine (rs'.map ResultSet.dedup)).affected
      rw [combine_affected, combine_affected, List.map_map]
      exact (h.map _).sum_nat
    · change (combine rs).keys.Perm (combine (rs'.map ResultSet.dedup)).keys
      rw [combine_keys, combine_keys, List.flatMap_map]
      exact h.flatMap_right _

end Tabula
