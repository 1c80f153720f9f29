import Tabula.Proofs.Results.Tabular

/-!
# Looking up columns by name

A row is looked into by the name of a column in two ways: over the index of its columns, from the
name to a position, and as a set of parameters, from the name to a value. Either table is filled
from the front, so of columns with the same name the last one counts in both.

* `IsLast`: the last of some pairs with a name.
* `Dict.find?_ofList`, `Dict.find?_ofList_eq`: a table that was filled from the front has the last
  pair of every name.
* `Row.cell`: what a row holds under a name, told without an index.
* `Row.lookup_agrees`: both ways find the last column with a name.
-/

namespace Tabula

/-- The last of some pairs with a name stands at a position and has a value. -/
def IsLast {α : Type} (pairs : List (String × α)) (name : String) (i : Nat) (v : α) : Prop :=
  pairs[i]? = some (name, v) ∧ name ∉ (pairs.drop (i + 1)).map Prod.fst

section IsLast

variable {α γ : Type} {pairs : List (String × α)} {name : String} {i : Nat} {v : α}

/-- A pair behind the others is the last one with its name, and changes nothing for other names. -/
theorem isLast_concat {p : String × α} : IsLast (pairs ++ [p]) name i v ↔
    if p.1 = name then i = pairs.length ∧ v = p.2 else IsLast pairs name i v := by
  obtain ⟨k, w⟩ := p
  rcases Nat.lt_trichotomy i pairs.length with hi | rfl | hi
  · rw [IsLast, IsLast, List.getElem?_append_left hi, List.drop_append_of_le_length hi]
    by_cases hk : k = name
    · simp [hk, Nat.ne_of_lt hi]
    · simp [hk, Ne.symm hk]
  · by_cases hk : k = name
    · simp [IsLast, hk, eq_comm]
    · simp [IsLast, hk]
  · have hnone : pairs[i]? = none := List.getElem?_eq_none (Nat.le_of_lt hi)
    have hnone' : (pairs ++ [(k, w)])[i]? = none :=
      List.getElem?_eq_none (by simpa using Nat.succ_le_of_lt hi)
    simp [IsLast, hnone, hnone', Nat.ne_of_gt hi]

/-- There is one exactly if there is such a name. -/
theorem exists_isLast_iff : (∃ i v, IsLast pairs name i v) ↔ name ∈ pairs.map Prod.fst := by
  induction pairs using List.reverseRecOn with
  | nil => simp [IsLast]
  | append_singleton pairs p ih =>
    simp only [isLast_concat]
    rw [List.map_append, List.mem_append, ← ih]
    by_cases hp : p.1 = name
    · simp [hp]
    · simp [hp, Ne.symm hp]

/-- Where it stands is no matter of the values. -/
theorem exists_isLast_congr {others : List (String × γ)}
    (h : pairs.map Prod.fst = others.map Prod.fst) :
    (∃ v, IsLast pairs name i v) ↔ ∃ w, IsLast others name i w := by
  have hstands {δ : Type} {es : List (String × δ)} : (∃ v, IsLast es name i v) ↔
      (es.map Prod.fst)[i]? = some name ∧ name ∉ (es.map Prod.fst).drop (i + 1) := by
    rw [← List.map_drop, List.getElem?_map, Option.map_eq_some_iff]
    simp [IsLast, Prod.exists]
  rw [hstands, hstands, h]

theorem Dict.find?_ofList :
    (Dict.ofList pairs).find? name = some v ↔ ∃ i, IsLast pairs name i v := by
  induction pairs using List.reverseRecOn with
  | nil => simp [IsLast, Dict.ofList]
  | append_singleton pairs p ih =>
    rw [Dict.ofList, List.foldl_concat, Dict.find?_insert, ← Dict.ofList]
    simp only [isLast_concat]
    by_cases hp : p.1 = name
    · simp [hp, eq_comm]
    · simpa [hp] using ih

/-- The same as an equation. -/
theorem Dict.find?_ofList_eq (pairs : List (String × α)) (name : String) :
    (Dict.ofList pairs).find? name =
      ((pairs.filter fun p => p.1 == name).getLast?).map Prod.snd := by
  induction pairs using List.reverseRecOn with
  | nil => rfl
  | append_singleton pairs p ih =>
    rw [Dict.ofList, List.foldl_concat, Dict.find?_insert, ← Dict.ofList, List.filter_append]
    by_cases hp : p.1 = name
    · simp [hp]
    · simpa [hp] using ih

end IsLast

theorem Columns.position?_eq_some {c : Columns} {name : String} {i : Nat} :
    c.position? name = some i ↔ ∃ j, IsLast c.names.zipIdx name i j := by
  -- what the index holds for a name is the position of the pair that it holds
  have hnumbered {j k : Nat} (h : IsLast c.names.zipIdx name j k) : j = k := by
    obtain ⟨n, -, hpair⟩ := Option.map_eq_some_iff.mp (List.getElem?_zipIdx.symm.trans h.1)
    simpa using congrArg Prod.snd hpair
  rw [position?, c.index_eq, Dict.find?_ofList]
  constructor
  · rintro ⟨j, h⟩
    obtain rfl := hnumbered h
    exact ⟨j, h⟩
  · rintro ⟨j, h⟩
    obtain rfl := hnumbered h
    exact ⟨i, h⟩

namespace Row

/-- What a row holds under a name: the value at the last position at which the name stands among the
names of its columns. It is null if there is none, be it that no column has the name or that the row
ends before. -/
def cell (r : Row) (name : String) : Value :=
  ((r.columns.names.zipIdx.filter fun c => c.1 == name).getLast?.bind fun c => r.values[c.2]?).getD
    .null

theorem getOrNull_eq_cell (r : Row) (name : String) : r.getOrNull name = r.cell name := by
  rw [getOrNull, get?, Columns.position?, r.columns.index_eq, Dict.find?_ofList_eq,
    Option.bind_map]
  rfl

/-- What looking for a column of a row by its name comes to. -/
structure LooksUp (r : Row) (name : String) : Prop where
  /-- its position is that of the last pair with the name -/
  position : ∀ i, r.columns.position? name = some i ↔ ∃ v, IsLast r.pairs name i v
  /-- its value is that of the same pair -/
  value : ∀ v, r.get? name = some v ↔ ∃ i, IsLast r.pairs name i v
  /-- among the parameters there is the same -/
  parameter : r.toParameters.find? name = r.get? name
  /-- there is none exactly if no column has the name -/
  absent : r.get? name = none ↔ name ∉ r.columns.names

theorem IsFull.map_fst_pairs {r : Row} (h : r.IsFull) : r.pairs.map Prod.fst = r.columns.names :=
  List.map_fst_zip (Nat.le_of_eq h.symm)

/-- In a row with a value for each column both ways find the last one. -/
theorem IsFull.looksUp {r : Row} (h : r.IsFull) (name : String) : r.LooksUp name := by
  have hposition (i : Nat) : r.columns.position? name = some i ↔ ∃ v, IsLast r.pairs name i v := by
    rw [Columns.position?_eq_some]
    exact exists_isLast_congr ((List.zipIdx_map_fst 0 _).trans h.map_fst_pairs.symm)
  have hvalue (v : Value) : r.get? name = some v ↔ ∃ i, IsLast r.pairs name i v := by
    have hcell {i : Nat} {w : Value} (hlast : IsLast r.pairs name i w) : r.getAt? i = some w :=
      (List.getElem?_zip_eq_some.mp hlast.1).2
    rw [get?, Option.bind_eq_some_iff]
    constructor
    · rintro ⟨i, hi, hv⟩
      obtain ⟨w, hlast⟩ := (hposition i).mp hi
      obtain rfl := Option.some.inj ((hcell hlast).symm.trans hv)
      exact ⟨i, hlast⟩
    · rintro ⟨i, hlast⟩
      exact ⟨i, (hposition i).mpr ⟨v, hlast⟩, hcell hlast⟩
  refine ⟨hposition, hvalue, Option.ext fun v => ?_, ?_⟩
  · rw [toParameters, Dict.find?_ofList, hvalue]
  · rw [← h.map_fst_pairs, ← exists_isLast_iff, Option.eq_none_iff_forall_not_mem]
    simp only [Option.mem_def, hvalue, not_exists]
    exact forall_comm

end Row

theorem ResultSet.mem_merge {s t : ResultSet} {distinct : Bool} {r : Row} :
    r ∈ (s.merge t distinct).rows ↔ r ∈ s.rows ∨ r ∈ t.rows := by
  have happend : r ∈ (s.append t).rows ↔ r ∈ s.rows ∨ r ∈ t.rows := List.mem_append
  rw [merge]
  split
  · rw [mem_dedup, happend]
  · exact happend

/-- **The index and the parameters of a row agree**, for every name and whatever names are repeated:
the value is that of the last column with the name, and its position is where that column stands.
There is none exactly if no column has the name. So it is for every row of two sets that are put
together, since rows are left as they are, and for every row that comes of an engine. -/
theorem Row.lookup_agrees :
    (∀ r : Row, r.IsFull → ∀ name, r.LooksUp name) ∧
    (∀ (s t : ResultSet) (distinct : Bool), (∀ r ∈ s.rows, r.IsFull) → (∀ r ∈ t.rows, r.IsFull) →
      ∀ r ∈ (s.merge t distinct).rows, (r ∈ s.rows ∨ r ∈ t.rows) ∧ ∀ name, r.LooksUp name) ∧
    ∀ s : ResultSet, s.Obtained → ∀ r ∈ s.rows, ∀ name, r.LooksUp name := by
  refine ⟨fun r hr => hr.looksUp, fun s t distinct hs ht r hr => ?_, fun s hs r hr =>
    (hs.isTabular.full r hr).looksUp⟩
  have hmem := ResultSet.mem_merge.mp hr
  have hfull : r.IsFull := hmem.elim (hs r) (ht r)
  exact ⟨hmem, hfull.looksUp⟩

/-- A row with two columns of one name. -/
def Row.namesakes : Row := .ofPairs [("a", .int 1), ("b", .int 2), ("a", .int 3)]

/-- The last of them is found, in a set that was put together and in one that was answered. -/
theorem Row.lookup_agrees_namesakes :
    (namesakes.IsFull ∧ namesakes.get? "a" = some (.int 3) ∧
      namesakes.columns.position? "a" = some 2 ∧ namesakes.LooksUp "a") ∧
    (∀ r ∈ (ResultSet.merge { rows := [namesakes, namesakes] }
      { rows := [.ofPairs [("b", .int 4)]] } true).rows, ∀ name, r.LooksUp name) ∧
    ∃ s : ResultSet, s.Obtained ∧ s.rows.map (·.get? "a") == [some (.int 2)] ∧
      ∀ r ∈ s.rows, ∀ name, r.LooksUp name := by
  obtain ⟨hrow, hmerge, hobtained⟩ := Row.lookup_agrees
  refine ⟨⟨rfl, by with_unfolding_all rfl, by decide +kernel, hrow namesakes rfl "a"⟩,
    fun r hr => ?_, ?_⟩
  · refine (hmerge _ _ true ?_ ?_ r hr).2
    · exact List.forall_mem_cons.mpr ⟨rfl, List.forall_mem_singleton.mpr rfl⟩
    · exact List.forall_mem_singleton.mpr rfl
  · have hanswered : (ResultSet.selected? "SELECT 1 AS a, 2 AS a").any
        fun s => s.rows.map (·.get? "a") == [some (.int 2)] := by decide +kernel
    obtain ⟨s, hs, hrows⟩ := (Option.any_eq_true ..).mp hanswered
    have hs : s.Obtained := ResultSet.obtained_of_selected? hs
    exact ⟨s, hs, hrows, hobtained s hs⟩

end Tabula
