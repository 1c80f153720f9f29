import Tabula.Engine
import Tabula.Results.ResultSet

/-!
# Answers to statements

What either engine answers to a statement for one list of values is a count, or rows with a value
for each of some columns, which are counted. The keys of an insertion are then the first cells of
the rows.

* `ResultSet.IsAnswer`: what there is for one list of values.
* `ResultSet.isAnswer_of_rows`: rows that are added one by one are an answer.
* `ResultSet.IsAnswer.keysFirst`: each row of an insertion has its own key.
-/

namespace Tabula

namespace ResultSet

theorem foldl_addValues {c : Columns} (rows : List (List Value)) {s : ResultSet}
    (h : s.columns = some c) :
    rows.foldl addValues s =
      { s with rows := s.rows ++ rows.map (Row.mk c), affected := s.affected + rows.length } := by
  induction rows generalizing s with
  | nil => simp
  | cons vs rows ih =>
    have hadd : s.addValues vs =
        { s with rows := s.rows ++ [⟨c, vs⟩], affected := s.affected + 1 } := by
      rw [addValues, h]
    have hrest := ih (s := s.addValues vs) (by rw [hadd]; exact h)
    rw [List.foldl_cons, hrest, hadd]
    simp [Nat.add_assoc, Nat.add_comm 1]

/-- What an engine answers to a statement for one list of values. -/
inductive IsAnswer (type : QueryType) : ResultSet → Prop
  /-- the statement has no columns, and there is a count -/
  | counted {affected : Nat} {keys : List Value} : IsAnswer type { affected, keys }
  /-- there are columns, and rows that have a value for each of them -/
  | rows {c : Columns} {rows : List (List Value)} (hcolumns : c.names ≠ [])
    (hrows : ∀ vs ∈ rows, vs.length = c.names.length) :
    IsAnswer type
      { rows := rows.map (Row.mk c)
        columns := some c
        affected := rows.length
        keys := if type = .insert then (rows.map (Row.mk c)).filterMap (·.getAt? 0) else [] }

/-- Rows that are added one by one are an answer. -/
theorem isAnswer_of_rows {type : QueryType} {c : Columns} {rows : List (List Value)}
    (hcolumns : c.names ≠ []) (hrows : ∀ vs ∈ rows, vs.length = c.names.length) {set : ResultSet}
    (hset : set = rows.foldl addValues (withColumns {} c)) :
    IsAnswer type
      (if type = .insert then { set with keys := set.rows.filterMap (·.getAt? 0) } else set) := by
  have hanswer : IsAnswer type _ := .rows hcolumns hrows
  rw [hset, foldl_addValues rows rfl]
  by_cases htype : type = .insert
  · rw [if_pos htype] at hanswer ⊢
    simpa [withColumns] using hanswer
  · rw [if_neg htype] at hanswer ⊢
    simpa [withColumns] using hanswer

/-- In the answer of an insertion, if it has columns, the keys are the first cells of the rows. -/
def KeysFirst (type : QueryType) (r : ResultSet) : Prop :=
  type = .insert → r.columns ≠ none → r.keys.map some = r.rows.map (·.getAt? 0)

/-- Rows that have a value for each of some columns have a first one, so each has its own key. -/
theorem IsAnswer.keysFirst {type : QueryType} {r : ResultSet} (h : IsAnswer type r) :
    KeysFirst type r := by
  intro htype hknown
  cases h with
  | counted => exact absurd rfl hknown
  | @rows c rows hcolumns hrows =>
    simp only [if_pos htype]
    clear hknown
    induction rows with
    | nil => rfl
    | cons vs rows ih =>
      obtain ⟨hvs, hrest⟩ := List.forall_mem_cons.mp hrows
      obtain ⟨v, vs, rfl⟩ := List.exists_cons_of_length_pos
        (hvs ▸ List.length_pos_iff.mpr hcolumns)
      simpa [Row.getAt?] using ih hrest

end ResultSet

end Tabula
