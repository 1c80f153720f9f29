import Tabula.Proofs.Results.Combining

/-!
# The algebra of result sets

Result sets make a monoid: to put two together is associative, whatever columns they have, and the
empty set changes nothing. So it is no matter how the sets of several runs are put together one by
one, and repeated rows may be removed after every set or once at the end.

* `joinNames_assoc`, `ResultSet.mergeColumns_assoc`: columns put together.
* `ResultSet.append_assoc`, `ResultSet.empty_append`, `ResultSet.append_empty`: the monoid.
* `ResultSet.dedup_append`, `foldl_merge`: when repeated rows are removed.
* `collapse_folds`: what the sets of several runs are brought down to.
-/

namespace Tabula

/-! ## Columns -/

theorem Dict.find?_foldl_insert_eq_none {α : Type} {k : String} {es : List (String × α)}
    {d : Dict α} :
    (es.foldl (fun d e => d.insert e.1 e.2) d).find? k = none ↔
      (∀ e ∈ es, e.1 ≠ k) ∧ d.find? k = none := by
  induction es generalizing d with
  | nil => simp
  | cons e es ih =>
    rw [List.foldl_cons, ih, List.forall_mem_cons, Dict.find?_insert]
    by_cases hk : e.1 = k <;> simp [hk]

theorem Columns.position?_eq_none {c : Columns} {name : String} :
    c.position? name = none ↔ name ∉ c.names := by
  rw [position?, c.index_eq, Dict.ofList, Dict.find?_foldl_insert_eq_none]
  have hnames : (∀ e ∈ c.names.zipIdx, e.1 ≠ name) ↔ ∀ n ∈ c.names, n ≠ name := by
    conv_rhs => rw [← List.zipIdx_map_fst 0 c.names, List.forall_mem_map]
  rw [hnames]
  simp only [Dict.find?_empty, and_true, ne_eq]
  exact ⟨fun h hmem => h name hmem rfl, fun h n hn heq => h (heq ▸ hn)⟩

/-- Names, and behind them those of others that are not among them, each as often as it is there. -/
def joinNames (ours theirs : List String) : List String := ours ++ theirs.filter (· ∉ ours)

theorem joinNames_self (ns : List String) : joinNames ns ns = ns := by
  rw [joinNames, List.filter_eq_nil_iff.mpr (by simp), List.append_nil]

theorem mem_joinNames {a b : List String} {n : String} : n ∈ joinNames a b ↔ n ∈ a ∨ n ∈ b := by
  by_cases h : n ∈ a <;> simp [joinNames, h]

/-- Names may be put behind each other in any grouping: what the first two lists lack is what the
second lacks, without what the first has. -/
theorem joinNames_assoc (a b c : List String) :
    joinNames (joinNames a b) c = joinNames a (joinNames b c) := by
  have hlacks : c.filter (· ∉ joinNames a b) = (c.filter (· ∉ b)).filter (· ∉ a) := by
    rw [List.filter_filter]
    refine List.filter_congr fun name _ => ?_
    simp only [mem_joinNames, not_or, Bool.decide_and]
  calc joinNames (joinNames a b) c
      = a ++ b.filter (· ∉ a) ++ (c.filter (· ∉ b)).filter (· ∉ a) := by rw [← hlacks]; rfl
    _ = a ++ (b ++ c.filter (· ∉ b)).filter (· ∉ a) := by
      rw [List.filter_append, List.append_assoc]

theorem Columns.names_ofNames (ns : List String) : (ofNames ns).names = ns := rfl

theorem Columns.ofNames_names (c : Columns) : ofNames c.names = c := ext_names rfl

namespace ResultSet

theorem mergeColumns_some (a b : Columns) :
    mergeColumns (some a) (some b) = some (.ofNames (joinNames a.names b.names)) := by
  have hlacks : (b.names.filter fun name => (a.position? name).isNone) =
      b.names.filter (· ∉ a.names) :=
    List.filter_congr fun name _ => by
      rw [Bool.eq_iff_iff, Option.isNone_iff_eq_none, Columns.position?_eq_none, decide_eq_true_eq]
  rw [mergeColumns, hlacks, joinNames]
  split
  next h => rw [h, List.append_nil, Columns.ofNames_names]
  next => rfl

@[simp] theorem mergeColumns_none_left (c : Option Columns) : mergeColumns none c = c := by
  cases c <;> rfl

@[simp] theorem mergeColumns_none_right (c : Option Columns) : mergeColumns c none = c := by
  cases c <;> rfl

/-- The same columns add nothing, so they need not be looked at. -/
theorem mergeColumns_self (c : Option Columns) : mergeColumns c c = c := by
  cases c with
  | none => rfl
  | some c => rw [mergeColumns_some, joinNames_self, Columns.ofNames_names]

/-- Columns may be put together in any grouping, also if names are repeated or shared. -/
theorem mergeColumns_assoc (a b c : Option Columns) :
    mergeColumns (mergeColumns a b) c = mergeColumns a (mergeColumns b c) := by
  cases a with
  | none => rw [mergeColumns_none_left, mergeColumns_none_left]
  | some a =>
    cases b with
    | none => rw [mergeColumns_none_right, mergeColumns_none_left]
    | some b =>
      cases c with
      | none => rw [mergeColumns_none_right, mergeColumns_none_right]
      | some c => simp only [mergeColumns_some, Columns.names_ofNames, joinNames_assoc]

/-! ## Sets -/

theorem append_assoc (s t u : ResultSet) : (s.append t).append u = s.append (t.append u) := by
  simp only [append, mergeColumns_assoc, List.append_assoc, Nat.add_assoc]

theorem empty_append (s : ResultSet) : ({} : ResultSet).append s = s := by
  simp only [append, mergeColumns_none_left, List.nil_append, Nat.zero_add]

theorem append_empty (s : ResultSet) : s.append {} = s := by
  simp only [append, mergeColumns_none_right, List.append_nil, Nat.add_zero]

/-! ## Repeated rows -/

/-- Rows are left where they are met first. -/
theorem dedup_rows (s : ResultSet) :
    s.dedup.rows =
      (s.rows.zipIdx.filter fun (r, i) => !(s.rows.take i).any r.isTwin).map Prod.fst :=
  eraseDupsBy_eq_filter Row.isTwin_iff_eq s.rows

/-- Repeated rows may be removed before another set follows. -/
theorem dedup_append (s t : ResultSet) : (s.dedup.append t).dedup = (s.append t).dedup := by
  simp only [dedup, append, eraseDupsBy_append_left Row.isTwin_iff_eq]

end ResultSet

/-- Repeated rows removed after every set are those that are removed at the end. -/
theorem foldl_merge (s : ResultSet) (sets : List ResultSet) :
    sets.foldl (fun s t : ResultSet => s.merge t true) s.dedup =
      (sets.foldl (fun s t : ResultSet => s.merge t false) s).dedup := by
  induction sets generalizing s with
  | nil => rfl
  | cons t sets ih =>
    have hstep : s.dedup.merge t true = (s.merge t false).dedup := s.dedup_append t
    rw [List.foldl_cons, List.foldl_cons, hstep, ih]

theorem combine_eq_foldl (sets : List ResultSet) :
    combine sets = sets.foldl (fun s t : ResultSet => s.merge t false) {} := by
  cases sets with
  | nil => rfl
  | cons s sets => rw [List.foldl_cons, ResultSet.merge, if_neg nofun, ResultSet.empty_append]; rfl

/-- **Putting result sets together.** It is associative, with the empty set on either side as if it
was not there, and columns that are the same stay as they are. All rows of several sets, or each of
them once, are what comes of putting one set after the other to the empty one, in the second case
without repeated rows after each; of rows that are the same the first is left, in its place. However
the sets are brought down to one, the counts are added up and the keys stand behind each other. -/
theorem collapse_folds (sets : List ResultSet) :
    (∀ s t u : ResultSet, (s.merge t false).merge u false = s.merge (t.merge u false) false) ∧
      (∀ s : ResultSet, ({} : ResultSet).merge s false = s ∧ s.merge {} false = s) ∧
      (∀ c, ResultSet.mergeColumns c c = c) ∧
      collapse sets .unionAll = .ok (sets.foldl (fun s t : ResultSet => s.merge t false) {}) ∧
      collapse sets .union = .ok (sets.foldl (fun s t : ResultSet => s.merge t true) {}) ∧
      sets.foldl (fun s t : ResultSet => s.merge t true) {} =
        (sets.foldl (fun s t : ResultSet => s.merge t false) {}).dedup ∧
      (∀ s : ResultSet, s.dedup = { s with
        rows := (s.rows.zipIdx.filter fun (r, i) => !(s.rows.take i).any r.isTwin).map Prod.fst }) ∧
      ∀ c, c ≠ .array → ∃ r, collapse sets c = .ok r ∧
        r.affected = (sets.map ResultSet.affected).sum ∧ r.keys = sets.flatMap ResultSet.keys := by
  have hunion := foldl_merge {} sets
  refine ⟨ResultSet.append_assoc, fun s => ⟨s.empty_append, s.append_empty⟩,
    ResultSet.mergeColumns_self, ?_, ?_, hunion, fun s => ?_, fun c hc => ?_⟩
  · rw [collapse_of_isUnion (.inl rfl), combine_eq_foldl]
    rfl
  · rw [collapse_of_isUnion (.inr rfl), combine_eq_foldl]
    exact congrArg Except.ok hunion.symm
  · rw [← s.dedup_rows]
    rfl
  · refine ⟨c.shape (combine sets), if_neg fun h => hc h.1, ?_⟩
    rw [← combine_affected, ← combine_keys]
    cases c <;> exact ⟨rfl, rfl⟩

/-- Two sets with a row in common, brought down to their counts and keys. -/
theorem collapse_folds_counted :
    ∃ r, collapse
        [{ rows := [.ofPairs [("n", .int 1)]], affected := 1, keys := [.int 7] },
          { rows := [.ofPairs [("n", .int 1)], .ofPairs [("n", .int 2)]], affected := 2,
            keys := [.int 7, .int 8] }] .none = .ok r ∧
      r.affected = 3 ∧ r.keys = [.int 7, .int 7, .int 8] := by
  obtain ⟨-, -, -, -, -, -, -, hcounted⟩ := collapse_folds
    [{ rows := [.ofPairs [("n", .int 1)]], affected := 1, keys := [.int 7] },
      { rows := [.ofPairs [("n", .int 1)], .ofPairs [("n", .int 2)]], affected := 2,
        keys := [.int 7, .int 8] }]
  exact hcounted .none nofun

end Tabula
